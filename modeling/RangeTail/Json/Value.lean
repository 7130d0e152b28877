import RangeTail.Binary64

/-!
This module contains JSON values and their compact writing.
-/

namespace RangeTail.Json

/-- A JSON value. The entries of an object stand in the order of their keys, each key once. -/
inductive Value where
  | null
  | boolean (value : Bool)
  | natural (value : Nat)
  /-- An integer below zero, by its distance from zero. -/
  | negative (distance : Nat)
  | float (negative : Bool) (size : Binary64)
  | string (text : String)
  | array (items : List Value)
  | object (entries : List (String × Value))
  deriving Repr, Inhabited

namespace Value

def string? : Value → Option String
  | .string s => some s
  | _ => none

def natural? : Value → Option Nat
  | .natural n => some n
  | _ => none

def items? : Value → Option (List Value)
  | .array items => some items
  | _ => none

/-- The value under a key of an object. -/
def get? (v : Value) (key : String) : Option Value :=
  match v with
  | .object entries => entries.lookup key
  | _ => none

end Value

/-- Put a value under a key, in the place that the order of the keys gives it. -/
def insert (key : String) (v : Value) : List (String × Value) → List (String × Value)
  | [] => [(key, v)]
  | (k, w) :: rest =>
    if key = k then (k, v) :: rest
    else if key < k then (key, v) :: (k, w) :: rest
    else (k, w) :: insert key v rest

/-- How a character is written inside a string. -/
def escapeChar (c : Char) : List Char :=
  match c with
  | '"' => ['\\', '"']
  | '\\' => ['\\', '\\']
  | '\x08' => ['\\', 'b']
  | '\t' => ['\\', 't']
  | '\n' => ['\\', 'n']
  | '\x0c' => ['\\', 'f']
  | '\r' => ['\\', 'r']
  | c =>
    if c.toNat < 0x20 then
      ['\\', 'u', '0', '0', Nat.digitChar (c.toNat / 16), Nat.digitChar (c.toNat % 16)]
    else [c]

def quote (s : String) : String :=
  String.ofList ('"' :: s.toList.flatMap escapeChar ++ ['"'])

/--
A decimal in text. The point is written out from 1e-5 up to below 1e16, with a digit on both sides
of it; beyond, one digit stands before it and the power of ten has a sign.
-/
def decimalText (d : Binary64.Decimal) : String :=
  let digits := d.digits
  let power := d.point - 1
  if -5 ≤ power ∧ power < 16 then
    let point := d.point.toNat
    if d.point ≤ 0 then
      String.ofList (['0', '.'] ++ List.replicate (-d.point).toNat '0' ++ digits)
    else if digits.length ≤ point then
      String.ofList (digits ++ List.replicate (point - digits.length) '0' ++ ['.', '0'])
    else
      String.ofList (digits.take point ++ ['.'] ++ digits.drop point)
  else
    let fraction := match digits.drop 1 with
      | [] => []
      | rest => '.' :: rest
    String.ofList (digits.take 1 ++ fraction) ++ "e" ++ (if power < 0 then "-" else "+")
      ++ toString power.natAbs

mutual

/-- A value in text, without blanks. -/
def Value.text : Value → String
  | .null => "null"
  | .boolean true => "true"
  | .boolean false => "false"
  | .natural n => toString n
  | .negative n => "-" ++ toString n
  | .float negative size => (if negative then "-" else "") ++ decimalText size.shortest
  | .string s => quote s
  | .array items => "[" ++ itemsText items ++ "]"
  | .object entries => "\x7b" ++ entriesText entries ++ "\x7d"

def itemsText : List Value → String
  | [] => ""
  | [v] => v.text
  | v :: vs => v.text ++ "," ++ itemsText vs

def entriesText : List (String × Value) → String
  | [] => ""
  | [(k, v)] => quote k ++ ":" ++ v.text
  | (k, v) :: es => quote k ++ ":" ++ v.text ++ "," ++ entriesText es

end

end RangeTail.Json
