import RangeTail.Binary64
import RangeTail.Text.Decimal
import RangeTail.Toml.Value

/-!
This module contains the reading of the parts of a TOML document that hold no others: blanks and
comments, keys, strings, numbers and dates. A reader takes what it reads off the front of the text
and gives back the rest.
-/

namespace RangeTail.Toml

/-- Blanks within a line. -/
def isSpace (c : Char) : Bool :=
  c == ' ' || c == '\t'

def skipSpace (s : List Char) : List Char :=
  s.dropWhile isSpace

/-- A control character other than the tab. -/
def isControl (c : Char) : Bool :=
  (c.toNat < 0x20 && c != '\t') || c.toNat == 0x7F

/-- The text after the end of a line. -/
def lineEnd? : List Char → Option (List Char)
  | '\n' :: s => some s
  | '\r' :: '\n' :: s => some s
  | _ => none

/-- The text after a comment, if one stands at the front. -/
def skipComment : List Char → List Char
  | '#' :: s => s.dropWhile fun c => !isControl c
  | s => s

/-- The text of the following lines, after blanks and a comment that end a line. -/
def endOfLine (s : List Char) : Option (List Char) :=
  match skipComment (skipSpace s) with
  | [] => some []
  | s => lineEnd? s

/-- The text after blanks, comments and ends of lines. -/
def skipLines : Nat → List Char → List Char
  | 0, s => s
  | fuel + 1, s =>
    match lineEnd? (skipComment (skipSpace s)) with
    | some r => skipLines fuel r
    | none => skipSpace s

/-! Strings -/

def hexValue? (c : Char) : Option Nat :=
  if c.isDigit then some (c.toNat - 48)
  else if 'a' ≤ c ∧ c ≤ 'f' then some (c.toNat - 87)
  else if 'A' ≤ c ∧ c ≤ 'F' then some (c.toNat - 55)
  else none

/-- The character whose code is spelled by the next `n` hexadecimal digits. -/
def codePoint (n : Nat) (s : List Char) : Option (Char × List Char) := do
  let digits ← (s.take n).mapM hexValue?
  let code := digits.foldl (fun v d => 16 * v + d) 0
  if digits.length = n ∧ code.isValidChar then some (Char.ofNat code, s.drop n) else none

/-- The character that an escape stands for, read after its backslash. -/
def escape : List Char → Option (Char × List Char)
  | 'b' :: s => some ('\x08', s)
  | 't' :: s => some ('\t', s)
  | 'n' :: s => some ('\n', s)
  | 'f' :: s => some ('\x0c', s)
  | 'r' :: s => some ('\r', s)
  | '"' :: s => some ('"', s)
  | '\\' :: s => some ('\\', s)
  | 'u' :: s => codePoint 4 s
  | 'U' :: s => codePoint 8 s
  | _ => none

/-- A string in double quotes, read after the first of them. -/
def basicString : Nat → List Char → List Char → Option (String × List Char)
  | 0, _, _ => none
  | fuel + 1, s, read =>
    match s with
    | '"' :: s => some (String.ofList read.reverse, s)
    | '\\' :: s => do
      let (c, s) ← escape s
      basicString fuel s (c :: read)
    | c :: s => if isControl c then none else basicString fuel s (c :: read)
    | [] => none

/-- A string in single quotes, read after the first of them. -/
def literalString (s : List Char) : Option (String × List Char) :=
  let (text, rest) := s.span fun c => c != '\'' && !isControl c
  match rest with
  | '\'' :: s => some (String.ofList text, s)
  | _ => none

/-- The end of a string of several lines: its three quotes, and up to two more that belong to it. -/
def closing (quote : Char) (s : List Char) : Option (List Char × List Char) :=
  let count := (s.takeWhile (· == quote)).length
  if 3 ≤ count then
    let own := min (count - 3) 2
    some (List.replicate own quote, s.drop (own + 3))
  else none

/-- The text after a backslash that joins lines. -/
def joinedLines (s : List Char) : Option (List Char) :=
  (lineEnd? (skipSpace s)).map (blankLines s.length)
where
  blankLines : Nat → List Char → List Char
    | 0, s => s
    | fuel + 1, s =>
      match lineEnd? (skipSpace s) with
      | some r => blankLines fuel r
      | none => skipSpace s

/-- A string of several lines in double quotes, read after the first three of them. -/
def basicLines : Nat → List Char → List Char → Option (String × List Char)
  | 0, _, _ => none
  | fuel + 1, s, read =>
    match closing '"' s with
    | some (own, rest) => some (String.ofList (read.reverse ++ own), rest)
    | none =>
      match lineEnd? s with
      | some rest => basicLines fuel rest ('\n' :: read)
      | none =>
        match s with
        | '\\' :: s =>
          match joinedLines s with
          | some rest => basicLines fuel rest read
          | none => do
            let (c, s) ← escape s
            basicLines fuel s (c :: read)
        | c :: s => if isControl c then none else basicLines fuel s (c :: read)
        | [] => none

/-- A string of several lines in single quotes, read after the first three of them. -/
def literalLines : Nat → List Char → List Char → Option (String × List Char)
  | 0, _, _ => none
  | fuel + 1, s, read =>
    match closing '\'' s with
    | some (own, rest) => some (String.ofList (read.reverse ++ own), rest)
    | none =>
      match lineEnd? s with
      | some rest => literalLines fuel rest ('\n' :: read)
      | none =>
        match s with
        | c :: s => if isControl c then none else literalLines fuel s (c :: read)
        | [] => none

/-- The text without an end of line at its front. -/
def dropLineEnd (s : List Char) : List Char :=
  (lineEnd? s).getD s

/-- A string of any of the four kinds. -/
def string (s : List Char) : Option (String × List Char) :=
  match s with
  | '"' :: '"' :: '"' :: r => basicLines s.length (dropLineEnd r) []
  | '\'' :: '\'' :: '\'' :: r => literalLines s.length (dropLineEnd r) []
  | '"' :: r => basicString s.length r []
  | '\'' :: r => literalString r
  | _ => none

/-! Keys -/

def isBare (c : Char) : Bool :=
  c.isAlphanum || c == '_' || c == '-'

/-- One part of a key. -/
def simpleKey (s : List Char) : Option (String × List Char) :=
  match s with
  | '"' :: r => basicString s.length r []
  | '\'' :: r => literalString r
  | _ =>
    let (name, rest) := s.span isBare
    if name = [] then none else some (String.ofList name, rest)

/-- The parts of a key between dots, with the blanks around them. -/
def dottedKey : Nat → List Char → Option (List String × List Char)
  | 0, _ => none
  | fuel + 1, s => do
    let (name, s) ← simpleKey (skipSpace s)
    match skipSpace s with
    | '.' :: s =>
      let (names, s) ← dottedKey fuel s
      return (name :: names, s)
    | s => return ([name], s)

/-! Numbers -/

/-- Digits that may be parted by single underscores, without the underscores. -/
def digits (isDigit : Char → Bool) : Nat → List Char → Option (List Char × List Char)
  | 0, _ => none
  | fuel + 1, s =>
    let (run, rest) := s.span isDigit
    if run = [] then none
    else
      match rest with
      | '_' :: rest => do
        let (more, rest) ← digits isDigit fuel rest
        return (run ++ more, rest)
      | _ => some (run, rest)

def isHexDigit (c : Char) : Bool := (hexValue? c).isSome
def isOctalDigit (c : Char) : Bool := '0' ≤ c && c ≤ '7'
def isBinaryDigit (c : Char) : Bool := c == '0' || c == '1'

/-- The value of digits to a base. -/
def valueIn (base : Nat) (s : List Char) : Nat :=
  s.foldl (fun v c => base * v + (hexValue? c).getD 0) 0

/-- The integers that 64 bits hold with a sign. -/
def ofInt? (n : Int) : Option Value :=
  if -0x8000000000000000 ≤ n ∧ n < 0x8000000000000000 then some (.integer n) else none

/-- The digits of a decimal integer, which begin with no zero that could be left out. -/
def wholeDigits (s : List Char) : Option (List Char × List Char) :=
  match s with
  | '0' :: r => some (['0'], r)
  | _ => digits Char.isDigit (s.length + 1) s

/-- What follows the whole part of a float: the places after the point, the power of ten, and
whether there is either. -/
def floatTail (s : List Char) : Option ((List Char × Int × Bool) × List Char) := do
  let (places, s) ← match s with
    | '.' :: r => digits Char.isDigit (s.length + 1) r
    | _ => some ([], s)
  match s with
  | c :: r =>
    if c = 'e' ∨ c = 'E' then
      let (negative, r) := match r with
        | '-' :: r => (true, r)
        | '+' :: r => (false, r)
        | _ => (false, r)
      let (power, rest) ← digits Char.isDigit (s.length + 1) r
      let power : Int := Text.digitsValue power
      return ((places, if negative then -power else power, true), rest)
    else return ((places, 0, places ≠ []), s)
  | [] => return ((places, 0, places ≠ []), s)

/-- Whether a decimal lies past the largest double-precision number. -/
def isHuge (digits : List Char) (power : Int) : Bool :=
  let m := Text.digitsValue digits
  let size : Int := (toString m).length + power
  let num := m * Nat.pow 10 power.toNat
  let den := Nat.pow 10 (-power).toNat
  m ≠ 0 && (400 < size || (-400 < size && (Binary64.nearest num den).isNone))

/-- A decimal number: an integer, or a float that is not past the largest one. -/
def decimal (s : List Char) : Option (Value × List Char) := do
  let (negative, r) := match s with
    | '-' :: r => (true, r)
    | '+' :: r => (false, r)
    | _ => (false, s)
  match r with
  | 'i' :: 'n' :: 'f' :: rest => return (.float (if negative then "-inf" else "inf"), rest)
  | 'n' :: 'a' :: 'n' :: rest => return (.float "nan", rest)
  | _ =>
    let (whole, r) ← wholeDigits r
    let ((places, power, isFloat), rest) ← floatTail r
    if isFloat then
      if !negative && isHuge (whole ++ places) (power - places.length) then none
      else return (.float (String.ofList (s.take (s.length - rest.length))), rest)
    else
      let n : Int := Text.digitsValue whole
      return (← ofInt? (if negative then -n else n), rest)

/-- An integer to another base, read after its mark. -/
def based (base : Nat) (isDigit : Char → Bool) (s : List Char) : Option (Value × List Char) := do
  let (ds, rest) ← digits isDigit (s.length + 1) s
  return (← ofInt? (valueIn base ds), rest)

def number (s : List Char) : Option (Value × List Char) :=
  match s with
  | '0' :: 'x' :: r => based 16 isHexDigit r
  | '0' :: 'o' :: r => based 8 isOctalDigit r
  | '0' :: 'b' :: r => based 2 isBinaryDigit r
  | _ => decimal s

/-! Dates -/

/-- The value of exactly `n` digits, if it lies between two bounds. -/
def fixedDigits (n low high : Nat) (s : List Char) : Option (Nat × List Char) :=
  let ds := s.take n
  let v := Text.digitsValue ds
  if ds.length = n ∧ ds.all Char.isDigit ∧ low ≤ v ∧ v ≤ high then some (v, s.drop n) else none

def expect (c : Char) : List Char → Option (List Char)
  | x :: s => if x = c then some s else none
  | [] => none

def daysIn (year month : Nat) : Nat :=
  if month = 2 then
    if year % 4 = 0 ∧ (year % 100 ≠ 0 ∨ year % 400 = 0) then 29 else 28
  else if month ∈ [4, 6, 9, 11] then 30
  else 31

/-- The text after a day. -/
def day? (s : List Char) : Option (List Char) := do
  let (year, s) ← fixedDigits 4 0 9999 s
  let (month, s) ← fixedDigits 2 1 12 (← expect '-' s)
  let (_, s) ← fixedDigits 2 1 (daysIn year month) (← expect '-' s)
  return s

/-- The text after a time of day. -/
def time? (s : List Char) : Option (List Char) := do
  let (_, s) ← fixedDigits 2 0 23 s
  let (_, s) ← fixedDigits 2 0 59 (← expect ':' s)
  let (_, s) ← fixedDigits 2 0 60 (← expect ':' s)
  match s with
  | '.' :: r =>
    let (places, rest) := r.span Char.isDigit
    if places = [] then none else return rest
  | _ => return s

/-- The text after the distance of a zone, if one is given. -/
def zone? (s : List Char) : Option (List Char) :=
  match s with
  | c :: r =>
    if c = 'Z' ∨ c = 'z' then some r
    else if c = '+' ∨ c = '-' then do
      let (_, r) ← fixedDigits 2 0 23 r
      let (_, r) ← fixedDigits 2 0 59 (← expect ':' r)
      return r
    else some s
  | [] => some s

/-- Whether the text begins as a time of day does. -/
def startsTime (s : List Char) : Bool :=
  match fixedDigits 2 0 23 s with
  | some (_, ':' :: _) => true
  | _ => false

/-- Whether the text begins as a day does. -/
def startsDay (s : List Char) : Bool :=
  match fixedDigits 4 0 9999 s with
  | some (_, '-' :: _) => true
  | _ => false

/-- A day, a time of day, or both with or without a zone. -/
def date (s : List Char) : Option (Value × List Char) := do
  let rest ←
    if startsDay s then
      match ← day? s with
      | c :: r =>
        if (c = 'T' ∨ c = 't' ∨ c = ' ') ∧ startsTime r then zone? (← time? r) else some (c :: r)
      | [] => some []
    else time? s
  return (.date (String.ofList (s.take (s.length - rest.length))), rest)

end RangeTail.Toml
