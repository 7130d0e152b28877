import RangeTail.Text.Blank
import RangeTail.Text.Cut
import RangeTail.Text.Decimal

/-!
This module contains the Content-Range header of an answer: which bytes it carries and how long the
whole file is.
-/

namespace RangeTail

/-- What an answer says about the bytes it carries. -/
inductive ContentRange where
  /-- The bytes from `first` through `last` of `total`. -/
  | covered (first last total : Nat)
  /-- Nothing could be served of a file of `total` bytes. -/
  | unsatisfied (total : Nat)
  deriving DecidableEq, Repr

namespace ContentRange

/-- Why a header names no content range. -/
inductive Error where
  | missing
  | notAscii
  | unsupportedUnit (header : String)
  | malformed (header : String)
  | unknownTotal
  | invalidSpan (first last total : Nat)
  deriving DecidableEq, Repr

namespace Error

def message : Error → String
  | .missing => "missing content-range header"
  | .notAscii => "content-range header is not valid ascii"
  | .unsupportedUnit header => s!"unsupported range unit in '{header}'"
  | .malformed header => s!"malformed content-range '{header}'"
  | .unknownTotal => "content-range total length is unknown"
  | .invalidSpan first last total => s!"invalid span {first}-{last}/{total}"

end Error

/-- The length of the whole file. -/
def total : ContentRange → Nat
  | .covered _ _ total => total
  | .unsatisfied total => total

/-- The number of bytes covered. -/
def length : ContentRange → Nat
  | .covered first last _ => last - first + 1
  | .unsatisfied _ => 0

def text : ContentRange → String
  | .covered first last total => s!"bytes {first}-{last}/{total}"
  | .unsatisfied total => s!"bytes */{total}"

/-- The covered bytes, where they lie inside the file. -/
def ofNumbers (first last total : Nat) : Except Error ContentRange :=
  if first ≤ last ∧ last < total then .ok (.covered first last total)
  else .error (.invalidSpan first last total)

/--
Read a header value: the unit, a blank, what is covered, a slash, and the length of the file. White
space is allowed around the value and around each of its parts. The length is judged before the
span.
-/
def parse (header : String) : Except Error ContentRange := do
  let malformed := Error.malformed header
  let some (unit, rest) := Text.cutAt ' ' (Text.trim header.toList) | throw malformed
  unless Text.eqIgnoreCase unit "bytes".toList do throw (.unsupportedUnit header)
  let some (span, total) := Text.cutAt '/' (Text.trim rest) | throw malformed
  if Text.trim total = ['*'] then throw .unknownTotal
  let some total := Text.readOffset (Text.trim total) | throw malformed
  let span := Text.trim span
  if span = ['*'] then return .unsatisfied total
  let some (first, last) := Text.cutAt '-' span | throw malformed
  let some first := Text.readOffset (Text.trim first) | throw malformed
  let some last := Text.readOffset (Text.trim last) | throw malformed
  ofNumbers first last total

theorem ofNumbers_eq_ok {first last total : Nat} {c : ContentRange} :
    ofNumbers first last total = .ok c ↔
      (first ≤ last ∧ last < total) ∧ c = .covered first last total := by
  unfold ofNumbers
  split <;> grind

end ContentRange
end RangeTail
