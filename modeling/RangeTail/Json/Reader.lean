import RangeTail.Json.Value
import RangeTail.Text.Decimal

/-!
This module contains the reading of JSON values. A reader takes what it reads off the front of the
text and gives back the rest.
-/

namespace RangeTail.Json

/-- How deep values may nest. -/
def maxDepth : Nat := 127

def isSpace (c : Char) : Bool :=
  c == ' ' || c == '\n' || c == '\t' || c == '\r'

def skipSpace (s : List Char) : List Char :=
  s.dropWhile isSpace

/-! Strings -/

def hexValue? (c : Char) : Option Nat :=
  if c.isDigit then some (c.toNat - 48)
  else if 'a' ≤ c ∧ c ≤ 'f' then some (c.toNat - 87)
  else if 'A' ≤ c ∧ c ≤ 'F' then some (c.toNat - 55)
  else none

/-- The value of four hexadecimal digits. -/
def codeUnit : List Char → Option (Nat × List Char)
  | a :: b :: c :: d :: s => do
    let a ← hexValue? a
    let b ← hexValue? b
    let c ← hexValue? c
    let d ← hexValue? d
    return (a * 4096 + b * 256 + c * 16 + d, s)
  | _ => none

/-- The character that one code unit spells, or two that belong together. -/
def codePoint (s : List Char) : Option (Char × List Char) := do
  let (high, s) ← codeUnit s
  if high < 0xD800 ∨ 0xDFFF < high then return (Char.ofNat high, s)
  else if 0xDBFF < high then none
  else
    match s with
    | '\\' :: 'u' :: s => do
      let (low, s) ← codeUnit s
      if 0xDC00 ≤ low ∧ low ≤ 0xDFFF then
        return (Char.ofNat (0x10000 + (high - 0xD800) * 0x400 + (low - 0xDC00)), s)
      else none
    | _ => none

/-- The character that an escape stands for, read after its backslash. -/
def escape : List Char → Option (Char × List Char)
  | '"' :: s => some ('"', s)
  | '\\' :: s => some ('\\', s)
  | '/' :: s => some ('/', s)
  | 'b' :: s => some ('\x08', s)
  | 'f' :: s => some ('\x0c', s)
  | 'n' :: s => some ('\n', s)
  | 'r' :: s => some ('\r', s)
  | 't' :: s => some ('\t', s)
  | 'u' :: s => codePoint s
  | _ => none

/-- The text of a string, read after its first quote. -/
def stringBody (fuel : Nat) (s : List Char) (read : List Char) : Option (String × List Char) :=
  match fuel with
  | 0 => none
  | fuel + 1 =>
    match s with
    | '"' :: s => some (String.ofList read.reverse, s)
    | '\\' :: s =>
      match escape s with
      | some (c, s) => stringBody fuel s (c :: read)
      | none => none
    | c :: s => if c.toNat < 0x20 then none else stringBody fuel s (c :: read)
    | [] => none

/-! Numbers -/

/--
The digits of a number as one integer and a power of ten. Before the point and after it, digits
count until 64 bits do not hold the value any more; of the others only the place counts.
-/
structure Digits where
  value : Nat := 0
  power : Int := 0
  /-- No further digit counts. -/
  full : Bool := false

/-- One more digit before the point. -/
def Digits.push (d : Digits) (c : Char) : Digits :=
  let v := d.value * 10 + (c.toNat - '0'.toNat)
  if d.full ∨ maxOffset < v then { d with power := d.power + 1, full := true }
  else { d with value := v }

/-- One more digit after the point. -/
def Digits.pushPlace (d : Digits) (c : Char) : Digits :=
  let v := d.value * 10 + (c.toNat - '0'.toNat)
  if d.full ∨ maxOffset < v then { d with full := true }
  else { d with value := v, power := d.power - 1 }

/--
The double-precision number of a value times a power of ten, by rounding the value, then scaling it
by a power that is itself rounded, in steps where the power is smaller than any such number.
-/
def scale (value : Nat) (power : Int) : Option Binary64 := do
  go 3 (← Binary64.nearest value 1) power
where
  go (steps : Nat) (x : Binary64) (power : Int) : Option Binary64 := do
    if x.mantissa = 0 then return x
    else if 308 < power then none
    else if 0 ≤ power then x.mul (← Binary64.nearest (Nat.pow 10 power.toNat) 1)
    else if -308 ≤ power then x.div (← Binary64.nearest (Nat.pow 10 (-power).toNat) 1)
    else
      match steps with
      | 0 => return Binary64.zero
      | steps + 1 => go steps (← x.div (← Binary64.nearest (Nat.pow 10 308) 1)) (power + 308)

/-- The digits before the point: a lone zero, or some that begin with none. -/
def wholeDigits (s : List Char) : Option (List Char × List Char) :=
  let (digits, rest) := s.span Char.isDigit
  match digits with
  | [] => none
  | '0' :: _ :: _ => none
  | _ => some (digits, rest)

/-- The digits after a point, if there is one. -/
def places (s : List Char) : Option (Option (List Char) × List Char) :=
  match s with
  | '.' :: s =>
    let (digits, rest) := s.span Char.isDigit
    if digits = [] then none else some (some digits, rest)
  | _ => some (none, s)

/-- The power of ten, if one is written. -/
def power (s : List Char) : Option (Option Int × List Char) :=
  match s with
  | c :: r =>
    if c = 'e' ∨ c = 'E' then
      let (negative, r) := match r with
        | '-' :: r => (true, r)
        | '+' :: r => (false, r)
        | _ => (false, r)
      let (digits, rest) := r.span Char.isDigit
      let n : Int := Text.digitsValue digits
      if digits = [] then none else some (some (if negative then -n else n), rest)
    else some (none, s)
  | [] => some (none, s)

/--
A number. It is an integer if it has neither a point nor a power and 64 bits hold it; zero with a
minus sign is none. A number past the largest double-precision one is refused.
-/
def number (s : List Char) : Option (Value × List Char) := do
  let (negative, s) := match s with
    | '-' :: s => (true, s)
    | _ => (false, s)
  let (whole, s) ← wholeDigits s
  let (fraction, s) ← places s
  let (exponent, s) ← power s
  let d := whole.foldl Digits.push {}
  if fraction.isNone && exponent.isNone && !d.full then
    if !negative then return (.natural d.value, s)
    else if 0 < d.value ∧ d.value ≤ 0x8000000000000000 then return (.negative d.value, s)
  let d := (fraction.getD []).foldl Digits.pushPlace { d with full := false }
  return (.float negative (← scale d.value (d.power + exponent.getD 0)), s)

/-! Values -/

mutual

/-- A value. The first argument bounds the work, the second says how deep it may nest. -/
def value (fuel depth : Nat) (s : List Char) : Option (Value × List Char) :=
  match fuel with
  | 0 => none
  | fuel + 1 =>
    match skipSpace s with
    | 'n' :: 'u' :: 'l' :: 'l' :: s => some (.null, s)
    | 't' :: 'r' :: 'u' :: 'e' :: s => some (.boolean true, s)
    | 'f' :: 'a' :: 'l' :: 's' :: 'e' :: s => some (.boolean false, s)
    | '"' :: s => (stringBody (s.length + 1) s []).map fun (t, s) => (.string t, s)
    | '[' :: s =>
      match depth with
      | 0 => none
      | depth + 1 =>
        match skipSpace s with
        | ']' :: s => some (.array [], s)
        | s => (items fuel depth s).map fun (vs, s) => (.array vs, s)
    | '\x7b' :: s =>
      match depth with
      | 0 => none
      | depth + 1 =>
        match skipSpace s with
        | '\x7d' :: s => some (.object [], s)
        | s => (members fuel depth s []).map fun (es, s) => (.object es, s)
    | s => number s

/-- The values of an array, through its bracket. -/
def items (fuel depth : Nat) (s : List Char) : Option (List Value × List Char) :=
  match fuel with
  | 0 => none
  | fuel + 1 => do
    let (v, s) ← value fuel depth s
    match skipSpace s with
    | ',' :: s =>
      let (vs, s) ← items fuel depth s
      return (v :: vs, s)
    | ']' :: s => return ([v], s)
    | _ => none

/-- The entries of an object, through its brace. A later one takes the place of one of its key. -/
def members (fuel depth : Nat) (s : List Char) (read : List (String × Value)) :
    Option (List (String × Value) × List Char) :=
  match fuel with
  | 0 => none
  | fuel + 1 =>
    match skipSpace s with
    | '"' :: s => do
      let (key, s) ← stringBody (s.length + 1) s []
      match skipSpace s with
      | ':' :: s =>
        let (v, s) ← value fuel depth s
        match skipSpace s with
        | ',' :: s => members fuel depth s (insert key v read)
        | '\x7d' :: s => return (insert key v read, s)
        | _ => none
      | _ => none
    | _ => none

end

/-- The value that a text spells, with nothing but blanks around it. -/
def parse (s : List Char) : Option Value :=
  match value (2 * s.length + 2) maxDepth s with
  | some (v, rest) => if skipSpace rest = [] then some v else none
  | none => none

end RangeTail.Json
