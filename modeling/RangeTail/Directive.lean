import RangeTail.Snapshot
import RangeTail.Text.Decimal

/-!
This module contains the choice of the range to ask for next: what an instruction names, else what
follows the window, else the last bytes of the file.
-/

namespace RangeTail

/-- An instruction for the next request. -/
inductive Directive where
  /-- Read from a position. -/
  | jump (offset : Nat)
  /-- Read the end of the file, as far as it is known to lie after a position. -/
  | skipToEnd (offset : Nat)
  deriving DecidableEq, Repr

namespace Directive

/-- The position that the request begins at. -/
def offset : Directive → Nat
  | .jump offset => offset
  | .skipToEnd offset => offset

/-- Read the bytes before the window, unless it begins with the file. -/
def loadPrevious (s : Snapshot) (chunkSize : Nat) : Option Directive :=
  match s.offset with
  | none => none
  | some start => if 0 < start then some (.jump (start - chunkSize)) else none

/-- Read the end of a file of `total` bytes. -/
def toEnd (total chunkSize : Nat) : Directive :=
  .skipToEnd (total - chunkSize)

end Directive

/--
The range to ask for next. A jump to before the window asks for the gap only, and growth asks for
the last byte of the window once more.
-/
def nextRange (s : Snapshot) (directive : Option Directive) (chunkSize : Nat) : ByteRange :=
  match directive with
  | some (.jump offset) =>
    let last := addClamped offset chunkSize
    match s.offset with
    | some start => .span offset (if offset < start then min (start - 1) last else last)
    | none => .span offset last
  | some (.skipToEnd offset) => .span offset (addClamped offset (min (chunkSize * 2) maxOffset))
  | none =>
    match s.stop with
    | some stop => .span (stop - 1) (addClamped stop chunkSize)
    | none => .suffix chunkSize

/-- The same, if 64 bits hold the sums that it takes. They are clamped but for the end of the window,
which growth asks for. -/
def nextRange? (s : Snapshot) (directive : Option Directive) (chunkSize : Nat) :
    Option ByteRange :=
  match directive with
  | some d => some (nextRange s d chunkSize)
  | none => s.stop?.map fun _ => nextRange s none chunkSize

end RangeTail
