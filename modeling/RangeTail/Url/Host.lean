import RangeTail.Text.Cut
import RangeTail.Url.Name
import RangeTail.Url.Percent

/-!
This module contains the hosts of URLs: names, and addresses of four and of sixteen bytes.
-/

namespace RangeTail.Url

/-- Why a text is no URL. -/
inductive Error where
  | emptyHost
  | invalidName
  | invalidPort
  | invalidAddress4
  | invalidAddress6
  | invalidCharacter
  /-- It has no scheme, and there is nothing that it could be relative to. -/
  | noBase
  /-- It is relative to a URL that has no path of segments. -/
  | rootlessBase
  deriving DecidableEq, Repr

def Error.message : Error → String
  | .emptyHost => "empty host"
  | .invalidName => "invalid international domain name"
  | .invalidPort => "invalid port number"
  | .invalidAddress4 => "invalid IPv4 address"
  | .invalidAddress6 => "invalid IPv6 address"
  | .invalidCharacter => "invalid domain character"
  | .noBase => "relative URL without a base"
  | .rootlessBase => "relative URL with a cannot-be-a-base base"

/-- Whom a URL names. -/
inductive Host where
  | name (s : List Char)
  | address4 (n : Nat)
  /-- An address as eight numbers of two bytes. -/
  | address6 (pieces : List Nat)
  deriving DecidableEq, Repr

/-! Addresses of four bytes -/

/-- A number in an address: decimal, or after a mark hexadecimal or octal. -/
def addressNumber (s : List Char) : Option Nat :=
  match s with
  | [] => none
  | '0' :: 'x' :: r => digits 16 r
  | '0' :: 'X' :: r => digits 16 r
  | '0' :: c :: r => digits 8 (c :: r)
  | _ => digits 10 s
where
  digits (base : Nat) (s : List Char) : Option Nat :=
    s.foldlM (fun v c => do
      let d ← hexByteValue? (UInt8.ofNat c.toNat)
      if c.toNat < 0x80 ∧ d < base then some (base * v + d) else none) 0

/-- The parts of an address between dots; an empty last one does not count. -/
def addressParts (s : List Char) : List (List Char) :=
  let parts := Text.splitOn '.' s
  if parts.getLast? = some [] then parts.dropLast else parts

/-- Whether a name ends in a number and so has to be an address. -/
def endsInNumber (s : List Char) : Bool :=
  match (addressParts s).getLast? with
  | none => false
  | some last => (last ≠ [] && last.all Char.isDigit) || (addressNumber last).isSome

/-- The address of four bytes that a text spells. The last number fills the bytes that are left. -/
def readAddress4 (s : List Char) : Except Error Nat :=
  match (addressParts s).mapM addressNumber with
  | none => .error .invalidAddress4
  | some numbers =>
    let leading := numbers.dropLast
    let last := numbers.getLast?.getD 0
    if numbers.length ≤ 4 ∧ leading.all (· < 256) ∧ last < Nat.pow 256 (4 - leading.length) then
      .ok (leading.zipIdx.foldl (fun v (n, i) => v + n * Nat.pow 256 (3 - i)) last)
    else .error .invalidAddress4

def textAddress4 (n : Nat) : List Char :=
  s!"{n / 16777216}.{n / 65536 % 256}.{n / 256 % 256}.{n % 256}".toList

/-! Addresses of sixteen bytes -/

/-- A number of up to four hexadecimal digits. -/
def piece (s : List Char) : Option Nat :=
  if s = [] ∨ 4 < s.length then none
  else s.foldlM (fun v c => do
    let d ← hexByteValue? (UInt8.ofNat c.toNat)
    if c.toNat < 0x80 then some (16 * v + d) else none) 0

/-- A byte in decimal, without a zero that could be left out. -/
def decimalByte (s : List Char) : Option Nat :=
  if s = [] ∨ !s.all Char.isDigit ∨ (s.head? = some '0' ∧ s ≠ ['0']) ∨ 3 < s.length then none
  else
    let n := s.foldl (fun v c => 10 * v + (c.toNat - 48)) 0
    if n < 256 then some n else none

/-- The numbers between colons; the last of them may be an address of four bytes. -/
def pieces (parts : List (List Char)) : Option (List Nat) :=
  match parts with
  | [] => some []
  | [last] =>
    if '.' ∈ last then
      match (Text.splitOn '.' last).mapM decimalByte with
      | some [a, b, c, d] => some [a * 256 + b, c * 256 + d]
      | _ => none
    else (piece last).map ([·])
  | p :: parts => do return (← piece p) :: (← pieces parts)

/-- Cut text at the first two colons in a row. -/
def cutColons : List Char → Option (List Char × List Char)
  | ':' :: ':' :: s => some ([], s)
  | c :: s => (cutColons s).map fun (a, b) => (c :: a, b)
  | [] => none

/-- The address of sixteen bytes that a text spells. Two colons stand for one or more zeros. -/
def readAddress6 (s : List Char) : Except Error (List Nat) :=
  let parts (s : List Char) := if s = [] then [] else Text.splitOn ':' s
  let read : Option (List Nat) :=
    match cutColons s with
    | none => do
      let ps ← pieces (parts s)
      if ps.length = 8 then some ps else none
    | some (front, back) => do
      let front ← if '.' ∈ front then none else pieces (parts front)
      let back ← pieces (parts back)
      let count := front.length + back.length
      if count ≤ 7 then some (front ++ List.replicate (8 - count) 0 ++ back) else none
  match read with
  | some ps => .ok ps
  | none => .error .invalidAddress6

/-- The first longest run of at least two zeros: where it begins and how long it is. -/
def longestZeros (ps : List Nat) : Option (Nat × Nat) :=
  let run (i : Nat) := ((ps.drop i).takeWhile (· == 0)).length
  (List.range ps.length).foldl (fun best i =>
    if max 1 (best.elim 0 (·.2)) < run i then some (i, run i) else best) none

/-- An address in text, with two colons for its longest run of zeros. -/
def textAddress6 (ps : List Nat) : List Char :=
  let join (ps : List Nat) := List.intercalate [':'] (ps.map (Nat.toDigits 16))
  match longestZeros ps with
  | none => join ps
  | some (i, n) => join (ps.take i) ++ [':', ':'] ++ join (ps.drop (i + n))

/-! Hosts -/

/-- A host in brackets, through the closing one. -/
def bracketed (s : List Char) : Except Error Host :=
  if s.getLast? = some ']' then (readAddress6 s.dropLast).map .address6
  else .error .invalidAddress6

/-- The host of a URL whose scheme is known. -/
def readHost (s : List Char) : Except Error Host :=
  match s with
  | '[' :: r => bracketed r
  | _ => do
    let some name := Name.ofBytes? (percentDecode (Text.Utf8.encode s)) | throw .invalidName
    if name = [] then throw .emptyHost
    else if endsInNumber name then return .address4 (← readAddress4 name)
    else return .name name

/-- The host of a URL of any other scheme. -/
def readOtherHost (s : List Char) : Except Error Host :=
  match s with
  | '[' :: r => bracketed r
  | _ =>
    let isBad (c : Char) := c ∈ ['\x00', '\t', '\n', '\r', ' ', '#', '/', ':', '<', '>', '?', '@',
      '[', '\\', ']', '^', '|']
    if s.any isBad then .error .invalidCharacter
    else .ok (.name (percentEncode isControl s))

def Host.text : Host → List Char
  | .name s => s
  | .address4 n => textAddress4 n
  | .address6 ps => ['['] ++ textAddress6 ps ++ [']']

end RangeTail.Url
