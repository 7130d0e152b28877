import RangeTail.Toml.Lexical

/-!
This module contains the reading of TOML documents.
-/

namespace RangeTail.Toml

/-- How deep values and keys may nest. -/
def maxDepth : Nat := 80

/-- The table of an inline table's entries, read as keys and values. -/
def inlineTable (pairs : List (List String × Value)) : Option Value :=
  let entries := pairs.foldlM (fun (t : Entries) (path, v) => do
    let key ← path.getLast?
    t.put path.dropLast key v) []
  entries.map fun t => (Item.table .header t).toValue

/-- A key whose parts are not too many. -/
def key (s : List Char) : Option (List String × List Char) := do
  let (path, rest) ← dottedKey (s.length + 1) s
  if path.length < maxDepth then some (path, rest) else none

mutual

/-- A value. The first argument bounds the work, the second counts how deep the value nests. -/
def value (fuel depth : Nat) (s : List Char) : Option (Value × List Char) :=
  match fuel with
  | 0 => none
  | fuel + 1 =>
    match s with
    | '"' :: _ => (string s).map fun (t, r) => (.string t, r)
    | '\'' :: _ => (string s).map fun (t, r) => (.string t, r)
    | 't' :: 'r' :: 'u' :: 'e' :: r => some (.boolean true, r)
    | 'f' :: 'a' :: 'l' :: 's' :: 'e' :: r => some (.boolean false, r)
    | '[' :: r =>
      if depth + 1 < maxDepth then
        (items fuel (depth + 1) r).map fun (vs, r) => (.array vs, r)
      else none
    | '\x7b' :: r =>
      if depth + 1 < maxDepth then
        match skipSpace r with
        | '\x7d' :: r => some (.table [], r)
        | r => do
          let (ps, r) ← pairs fuel (depth + 1) r
          return (← inlineTable ps, r)
      else none
    | _ => if startsDay s ∨ startsTime s then date s else number s

/-- The values of an array, through its bracket. -/
def items (fuel depth : Nat) (s : List Char) : Option (List Value × List Char) :=
  match fuel with
  | 0 => none
  | fuel + 1 =>
    match skipLines s.length s with
    | ']' :: r => some ([], r)
    | s => do
      let (v, s) ← value fuel depth s
      match skipLines s.length s with
      | ',' :: s =>
        let (vs, s) ← items fuel depth s
        return (v :: vs, s)
      | ']' :: s => return ([v], s)
      | _ => none

/-- The entries of an inline table, through its brace. -/
def pairs (fuel depth : Nat) (s : List Char) : Option (List (List String × Value) × List Char) :=
  match fuel with
  | 0 => none
  | fuel + 1 => do
    let (path, s) ← key s
    let s ← expect '=' s
    let (v, s) ← value fuel depth (skipSpace s)
    match skipSpace s with
    | ',' :: s =>
      let (ps, s) ← pairs fuel depth s
      return ((path, v) :: ps, s)
    | '\x7d' :: s => return ([(path, v)], s)
    | _ => none

end

/-- A header, read after its brackets: its path, through the brackets that close it. -/
def header (close : List Char) (s : List Char) : Option (List String × List Char) := do
  let (path, s) ← key s
  let s ← close.foldlM (fun s c => expect c s) s
  return (path, ← endOfLine s)

/-- The lines of a document, put into it below the table at the path `at`. -/
def lines (fuel : Nat) (root : Entries) (current : List String) (s : List Char) : Option Entries :=
  match fuel with
  | 0 => none
  | fuel + 1 =>
    match skipLines s.length s with
    | [] => some root
    | '#' :: s => if s.all fun c => !isControl c then some root else none
    | '[' :: '[' :: s => do
      let (path, s) ← header [']', ']'] s
      let root ← root.walk path.dropLast (·.openElement (path.getLast?.getD ""))
      lines fuel root path s
    | '[' :: s => do
      let (path, s) ← header [']'] s
      let root ← root.walk path.dropLast (·.openTable (path.getLast?.getD ""))
      lines fuel root path s
    | s => do
      let (path, s) ← key s
      let s ← expect '=' s
      let (v, s) ← value (2 * s.length + 2) 0 (skipSpace s)
      let s ← endOfLine s
      let root ← root.walk current (·.put path.dropLast (path.getLast?.getD "") v)
      lines fuel root current s

/-- The entries of a document. A byte order mark at its front is left out. -/
def document (text : String) : Option (List (String × Value)) :=
  let s := match text.toList with
    | '\uFEFF' :: r => r
    | s => s
  (lines (s.length + 1) [] [] s).map Item.toValue.fields

end RangeTail.Toml
