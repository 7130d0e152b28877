import RangeTail.Snapshot
import RangeTail.Text.Utf8

/-!
This module contains the printing of successive snapshots, each byte of text once.
-/

namespace RangeTail

/-- How far a log has been printed. -/
structure Cursor where
  /-- The position after the last byte printed. -/
  printed : Option Nat := none
  deriving DecidableEq, Repr, Inhabited

namespace Cursor

/--
The text of a snapshot that has not been printed, and the cursor after it. All of the text is new
if it does not reach the cursor or begins past it. A snapshot without text leaves the cursor as it
is. The text may end at a position that 64 bits do not hold.
-/
def advance (c : Cursor) (s : Snapshot) : String × Cursor :=
  match s.textOffset, s.text with
  | some start, some text =>
    let stop := start + Text.Utf8.size text.toList
    let done := match c.printed with
      | some printed => if start ≤ printed ∧ printed ≤ stop then printed - start else 0
      | none => 0
    (String.ofList ((Text.Utf8.dropBytes done text.toList).getD []), { printed := some stop })
  | _, _ => ("", c)

/-- The same, if 64 bits hold the end of the text. -/
def advance? (c : Cursor) (s : Snapshot) : Option (String × Cursor) :=
  match s.textOffset, s.text with
  | some start, some text =>
    (Overflow.stops.sum start (Text.Utf8.size text.toList)).map fun _ => c.advance s
  | _, _ => some (c.advance s)

end Cursor
end RangeTail
