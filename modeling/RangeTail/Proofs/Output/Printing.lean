import RangeTail.Cursor
import RangeTail.Proofs.Text.Utf8

/-!
This module contains the printing of a sequence of snapshots, and what one more of them adds to what
was printed before.
-/

namespace RangeTail

open Text.Utf8 (size)

namespace Snapshot

/-- The snapshot shows the text at the position. -/
structure Shows (s : Snapshot) (start : Nat) (text : List Char) : Prop where
  textOffset : s.textOffset = some start
  text : s.text = some (String.ofList text)

/-- The position after the last byte of the text. -/
def textStop (s : Snapshot) : Option Nat :=
  match s.textOffset, s.text with
  | some start, some text => some (start + size text.toList)
  | _, _ => none

variable {s : Snapshot} {start : Nat} {text : List Char}

theorem Shows.eq {start' : Nat} {text' : List Char} (h : s.Shows start text)
    (h' : s.Shows start' text')
    : start = start' ∧ text = text' := by
  have hstart := h'.textOffset
  have htext := h'.text
  rw [h.textOffset, Option.some.injEq] at hstart
  rw [h.text, Option.some.injEq] at htext
  exact ⟨hstart, String.ofList_injective htext⟩

theorem Shows.textStop_eq (h : s.Shows start text) : s.textStop = some (start + size text) := by
  unfold textStop
  rw [h.textOffset, h.text]
  dsimp only
  rw [String.toList_ofList]

end Snapshot

namespace Cursor

/-- All that is printed of the snapshots, one after the other. -/
def printAll (c : Cursor) : List Snapshot → String
  | [] => ""
  | s :: rest => (c.advance s).1 ++ (c.advance s).2.printAll rest

variable {c : Cursor} {s : Snapshot} {start : Nat} {text : List Char}

theorem toList_printAll_cons {c' : Cursor} {printed : List Char}
    (h : c.advance s = (String.ofList printed, c')) (rest : List Snapshot)
    : (c.printAll (s :: rest)).toList = printed ++ (c'.printAll rest).toList := by
  rw [printAll, h, String.toList_append, String.toList_ofList]

theorem advance_append {old more : List Char} (h : s.Shows start (old ++ more))
    (hc : c.printed = some (start + size old))
    : c.advance s = (String.ofList more, { printed := some (start + size (old ++ more)) }) := by
  have hbounds : start ≤ start + size old
      ∧ start + size old ≤ start + size (old ++ more) := by
    rw [Text.Utf8.size_append]
    omega
  unfold advance
  rw [h.textOffset, h.text, hc]
  dsimp only
  rw [String.toList_ofList, if_pos hbounds, Nat.add_sub_cancel_left, Text.Utf8.dropBytes_size]
  rfl

/-- The position that was printed up to lies in the text, behind its beginning. -/
def IsWithin (c : Cursor) (start : Nat) (text : List Char) : Prop :=
  ∃ printed, c.printed = some printed ∧ start < printed ∧ printed ≤ start + size text

theorem advance_of_not_isWithin (h : s.Shows start text) (hc : ¬ c.IsWithin start text)
    : c.advance s = (String.ofList text, { printed := some (start + size text) }) := by
  unfold advance
  rw [h.textOffset, h.text]
  dsimp only
  rw [String.toList_ofList]
  cases hprinted : c.printed with
  | none =>
    dsimp only
    rw [Text.Utf8.dropBytes]
    rfl
  | some printed =>
    dsimp only
    split
    . next hbounds =>
      have hle : printed ≤ start := by
        apply Nat.le_of_not_lt
        intro hlt
        exact hc ⟨printed, hprinted, hlt, hbounds.2⟩
      rw [Nat.sub_eq_zero_of_le hle, Text.Utf8.dropBytes]
      rfl
    . rw [Text.Utf8.dropBytes]
      rfl

theorem advance_beyond {printed : Nat} (h : s.Shows start text) (hc : c.printed = some printed)
    (hlt : printed < start)
    : c.advance s = (String.ofList text, { printed := some (start + size text) }) := by
  apply advance_of_not_isWithin h
  rintro ⟨printed', hprinted, hlt', _⟩
  rw [hc, Option.some.injEq] at hprinted
  omega

theorem advance_first (h : s.Shows start text)
    : ({} : Cursor).advance s = (String.ofList text, { printed := some (start + size text) }) := by
  apply advance_of_not_isWithin h
  rintro ⟨printed, hprinted, _⟩
  contradiction

end Cursor
end RangeTail
