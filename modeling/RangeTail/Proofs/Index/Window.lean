import RangeTail.Proofs.Index.Shape

/-!
This module contains the window that is shown at the pointer of a record. Other ranges end at a
clamped sum, but this one does not, so there is no window at the pointers that are close to the
largest offset.
-/

namespace RangeTail

namespace Overflow

variable {a b : Nat}

theorem wraps_sum_of_lt (ha : a ≤ maxOffset) (hb : b ≤ maxOffset) (h : maxOffset < a + b)
    : wraps.sum a b = some (a + b - (maxOffset + 1)) := by
  have hmod : (a + b) % (maxOffset + 1) = a + b - (maxOffset + 1) := by
    rw [Nat.mod_eq_sub_mod h]
    exact Nat.mod_eq_of_lt (by omega)
  rw [← hmod]
  exact if_neg (Nat.not_le.mpr h)

/-- No build ends a sum that 64 bits do not hold where a clamped sum ends. -/
theorem sum_eq_addClamped_iff (o : Overflow) (ha : a ≤ maxOffset) (hb : b ≤ maxOffset)
    : o.sum a b = some (addClamped a b) ↔ a + b ≤ maxOffset := by
  constructor
  . intro h
    by_contra hle
    have hlt := Nat.not_le.mp hle
    have hclamped : addClamped a b = maxOffset := Nat.min_eq_right (Nat.le_of_lt hlt)
    rw [hclamped] at h
    cases o with
    | stops =>
      rw [stops_sum_of_lt hlt] at h
      contradiction
    | wraps =>
      -- the low 64 bits of a sum that does not fit are never all set
      rw [wraps_sum_of_lt ha hb hlt, Option.some.injEq] at h
      omega
  . intro h
    rw [sum_of_le o h, addClamped, Nat.min_eq_left h]

/-- A sum that 64 bits do not hold is not above what was added to, whatever the build. -/
theorem exists_le_sum_iff (o : Overflow) (ha : a ≤ maxOffset) (hb : b ≤ maxOffset)
    : (∃ c, o.sum a b = some c ∧ a ≤ c) ↔ a + b ≤ maxOffset := by
  constructor
  . rintro ⟨c, hsum, hle⟩
    by_contra h
    have hlt := Nat.not_le.mp h
    cases o with
    | stops =>
      rw [stops_sum_of_lt hlt] at hsum
      contradiction
    | wraps =>
      rw [wraps_sum_of_lt ha hb hlt, Option.some.injEq] at hsum
      omega
  . intro h
    exact ⟨a + b, sum_of_le o h, Nat.le_add_right a b⟩

end Overflow

namespace Index

/-- The window at a pointer, with a clamped sum. -/
def Pointer.clampedRange (p : Pointer) : ByteRange :=
  .span p.offset (addClamped p.offset viewWindow)

/-- Whether a build has a window to show at a pointer, which does not end before it starts. -/
def Pointer.IsShown (p : Pointer) (o : Overflow) : Prop :=
  ∃ last, p.viewRange o = some (.span p.offset last) ∧ p.offset ≤ last

theorem viewWindow_le : viewWindow ≤ maxOffset := by
  decide

section

variable {line : List Char} {r : Record} {p : Pointer}

theorem offset_le_of_ofLine (h : Record.ofLine line = .ok r) : r.pointer.offset ≤ maxOffset := by
  unfold Record.ofLine at h
  split at h
  . next hparse =>
    obtain ⟨_, _, _, ⟨_, hle⟩, _⟩ := (record_ofJson_eq_ok (Json.fits_of_parse hparse)).mp h
    exact hle
  . contradiction

theorem viewRange_eq_span_iff {o : Overflow} {last : Nat}
    : p.viewRange o = some (.span p.offset last) ↔ o.sum p.offset viewWindow = some last := by
  unfold Pointer.viewRange
  rw [Option.map_eq_some_iff]
  simp

theorem viewRange_eq_clampedRange_iff (o : Overflow) (h : p.offset ≤ maxOffset)
    : p.viewRange o = some p.clampedRange ↔ p.offset + viewWindow ≤ maxOffset :=
  viewRange_eq_span_iff.trans (o.sum_eq_addClamped_iff h viewWindow_le)

theorem isShown_iff (o : Overflow) (h : p.offset ≤ maxOffset)
    : p.IsShown o ↔ p.offset + viewWindow ≤ maxOffset := by
  unfold Pointer.IsShown
  simp only [viewRange_eq_span_iff]
  exact o.exists_le_sum_iff h viewWindow_le

end

/-- The offset of a record that was read is one of 64 bits. In each build, the window at it ends at
the clamped sum if and only if 64 bits hold the sum, and else there is no window: one build stops,
and the other has the window end before it starts. -/
theorem window_iff_of_ofLine {line : List Char} {r : Record} (h : Record.ofLine line = .ok r)
    : r.pointer.offset ≤ maxOffset
        ∧ (∀ o, (r.pointer.viewRange o = some r.pointer.clampedRange ↔
              r.pointer.offset + viewWindow ≤ maxOffset)
            ∧ (r.pointer.IsShown o ↔ r.pointer.offset + viewWindow ≤ maxOffset))
        ∧ (maxOffset < r.pointer.offset + viewWindow →
            r.pointer.viewRange .stops = none
              ∧ ∃ last < r.pointer.offset,
                last = r.pointer.offset + viewWindow - (maxOffset + 1)
                  ∧ r.pointer.viewRange .wraps = some (.span r.pointer.offset last)) := by
  have hle := offset_le_of_ofLine h
  refine ⟨hle, ?_, ?_⟩
  . intro o
    exact ⟨viewRange_eq_clampedRange_iff o hle, isShown_iff o hle⟩
  . intro hlt
    have hwindow := viewWindow_le
    refine ⟨?_, _, ?_, rfl, viewRange_eq_span_iff.mpr (Overflow.wraps_sum_of_lt hle hwindow hlt)⟩
    . rw [Pointer.viewRange, Overflow.stops_sum_of_lt hlt, Option.map_none]
    . omega

/-- A line of an index that points to the largest offset. -/
def lastLine : String :=
  "[\"t\",\"d\",\x7b\"variant\":\"Global\",\"fields\":[\"s\",18446744073709551615]\x7d,"
    ++ "\"RoleStart\"]"

/-- The record of that line. -/
def lastRecord : Record :=
  ⟨"t", "d", .global "s" maxOffset, .roleStart, none⟩

theorem ofLine_lastLine : Record.ofLine lastLine.toList = .ok lastRecord := by
  decide +kernel

theorem window_of_lastLine
    : Record.ofLine lastLine.toList = .ok lastRecord
        ∧ lastRecord.pointer.viewRange .stops = none
        ∧ lastRecord.pointer.viewRange .wraps = some (.span maxOffset (viewWindow - 1)) := by
  obtain ⟨_, _, hover⟩ := window_iff_of_ofLine ofLine_lastLine
  obtain ⟨hstops, _, _, rfl, hwraps⟩ := hover (by decide)
  exact ⟨ofLine_lastLine, hstops, hwraps⟩

/-- There is no build in which the window at each record that is read ends at the clamped sum. -/
theorem exists_window_not_clamped
    : ¬ ∃ o : Overflow, ∀ (line : List Char) (r : Record), Record.ofLine line = .ok r →
        r.pointer.viewRange o = some r.pointer.clampedRange := by
  rintro ⟨o, h⟩
  have hwindow := h lastLine.toList lastRecord ofLine_lastLine
  have hoffset := offset_le_of_ofLine ofLine_lastLine
  exact absurd ((viewRange_eq_clampedRange_iff o hoffset).mp hwindow) (by decide)

end Index
end RangeTail
