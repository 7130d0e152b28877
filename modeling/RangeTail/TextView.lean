import RangeTail.Text.Decimal
import RangeTail.Text.Utf8

/-!
This module contains the text of a window of a log. A window may begin inside a line and inside a
character, and may end inside a character; its text begins at the first full line that it holds.
-/

namespace RangeTail

/--
The number of bytes before the first full line of a window at `offset`. A window at the start of
the file begins with one, and a window without a line feed is shown as a whole.
-/
def lineStart (offset : Nat) (bytes : List UInt8) : Nat :=
  if offset = 0 then 0
  else match bytes.findIdx? (· == 0x0A) with
    | some i => i + 1
    | none => 0

/-- The number of bytes that belong to a character cut off by the start of a window. -/
def leadingContinuation (bytes : List UInt8) : Nat :=
  ((bytes.take 3).takeWhile Text.Utf8.isContinuation).length

/-- The number of bytes that the text of a window at `offset` leaves out at its front. -/
def skipped (offset : Nat) (bytes : List UInt8) : Nat :=
  if lineStart offset bytes = 0 ∧ offset ≠ 0 then leadingContinuation bytes
  else lineStart offset bytes

/-- The text of a window. -/
structure TextView where
  /-- Where the text begins in the file. -/
  offset : Nat
  /-- The text, or nothing if the bytes are not UTF-8. -/
  text : Option String
  deriving DecidableEq, Repr

namespace TextView

/-- Whether the bytes are not UTF-8. -/
def isBroken (v : TextView) : Bool :=
  v.text.isNone

/--
The text of the window `bytes` at `offset`. A character cut off by its end is left out. Where the text
begins may be a position that 64 bits do not hold.
-/
def ofWindow (offset : Nat) (bytes : List UInt8) : TextView where
  offset := offset + skipped offset bytes
  text := (Text.Utf8.decodeOpen (bytes.drop (skipped offset bytes))).map String.ofList

/-- The same, if a build does not stop at the sum for where the text begins. -/
def decode (o : Overflow) (offset : Nat) (bytes : List UInt8) : Option TextView :=
  (o.sum offset (skipped offset bytes)).map fun start => ⟨start, (ofWindow offset bytes).text⟩

theorem decode_of_le (o : Overflow) {offset : Nat} {bytes : List UInt8}
    (h : offset + skipped offset bytes ≤ maxOffset)
    : decode o offset bytes = some (ofWindow offset bytes) := by
  unfold decode
  rw [o.sum_of_le h]
  rfl

end TextView
end RangeTail
