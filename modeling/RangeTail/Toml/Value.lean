/-!
This module contains the values of TOML documents and the growing of a document by its headers and
its keys. A table may be named by one header at most, keys with dots grow only tables that such keys
made, and a value is never grown.
-/

namespace RangeTail.Toml

/-- A value. Of floats and dates only the text is kept. -/
inductive Value where
  | string (text : String)
  | integer (value : Int)
  | float (text : String)
  | date (text : String)
  | boolean (value : Bool)
  | array (items : List Value)
  | table (entries : List (String × Value))
  deriving Repr, Inhabited

/-- How a table came to be. -/
inductive Origin where
  /-- By its own header, or as the document. -/
  | header
  /-- On the way to a table that a header names. -/
  | implied
  /-- On the way to a value that a key with dots names. -/
  | dotted
  deriving DecidableEq, Repr

/-- What a key of a document stands for. -/
inductive Item where
  | value (v : Value)
  | table (origin : Origin) (entries : List (String × Item))
  /-- Tables under one header, each with its entries. -/
  | tables (items : List (List (String × Item)))
  deriving Repr, Inhabited

/-- A table that is being grown. -/
abbrev Entries := List (String × Item)

namespace Entries

def get? (t : Entries) (key : String) : Option Item :=
  t.lookup key

/-- Put an item under a key; a key that is new goes to the end. -/
def set (t : Entries) (key : String) (item : Item) : Entries :=
  if (t.lookup key).isSome then t.map fun (k, i) => if k = key then (k, item) else (k, i)
  else t ++ [(key, item)]

/--
Change the table at the end of a path that a header walks. Tables on the way are made if absent,
and of the tables under one header the last one is meant.
-/
def walk (path : List String) (change : Entries → Option Entries) (t : Entries) : Option Entries :=
  match path with
  | [] => change t
  | key :: path =>
    match t.get? key with
    | none => (walk path change []).map fun u => t.set key (.table .implied u)
    | some (.table origin u) => (walk path change u).map fun u => t.set key (.table origin u)
    | some (.tables us) => do
      let last ← us.getLast?
      let u ← walk path change last
      return t.set key (.tables (us.dropLast ++ [u]))
    | some (.value _) => none

/--
Put a value at a path of keys. The table that it is put in has to be the one started from or one
that such keys made; a table with a header of its own is never walked into.
-/
def put (path : List String) (key : String) (v : Value) (t : Entries) : Option Entries :=
  match path with
  | [] => if (t.get? key).isSome then none else some (t.set key (.value v))
  | k :: path =>
    match t.get? k with
    | none => (put path key v []).map fun u => t.set k (.table .dotted u)
    | some (.table origin u) =>
      if origin = .dotted ∨ (origin = .implied ∧ path ≠ []) then
        (put path key v u).map fun u => t.set k (.table origin u)
      else none
    | some (.tables us) =>
      if path = [] then none
      else do
        let last ← us.getLast?
        let u ← put path key v last
        return t.set k (.tables (us.dropLast ++ [u]))
    | some (.value _) => none

/-- Open a table by its header. -/
def openTable (key : String) (t : Entries) : Option Entries :=
  match t.get? key with
  | none => some (t.set key (.table .header []))
  | some (.table .implied u) => some (t.set key (.table .header u))
  | some _ => none

/-- Open one more table under a header that may occur again. -/
def openElement (key : String) (t : Entries) : Option Entries :=
  match t.get? key with
  | none => some (t.set key (.tables [[]]))
  | some (.tables us) => some (t.set key (.tables (us ++ [[]])))
  | some _ => none

end Entries

/-- The value that an item stands for. -/
def Item.toValue : Item → Value
  | .value v => v
  | .table _ entries => .table (fields entries)
  | .tables items => .array (elements items)
where
  fields : List (String × Item) → List (String × Value)
    | [] => []
    | (k, i) :: r => (k, i.toValue) :: fields r
  elements : List (List (String × Item)) → List Value
    | [] => []
    | e :: r => .table (fields e) :: elements r

end RangeTail.Toml
