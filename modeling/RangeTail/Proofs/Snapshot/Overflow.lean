import RangeTail.Cursor
import RangeTail.Proofs.Snapshot.Request
import RangeTail.Proofs.Snapshot.Stop
import RangeTail.Proofs.Text.Completion

/-!
This module contains what becomes of the sums that are taken of positions. Where 64 bits hold them all
the result is the exact one, and they do as long as the window and the chunk end at a position that
64 bits hold.
-/

namespace RangeTail

theorem Chunk.stop?_of_le {c : Chunk} (h : c.stop ≤ maxOffset) : c.stop? = some c.stop :=
  Overflow.stops.sum_of_le h

namespace TextView

variable {offset : Nat} {bytes : List UInt8} {view : TextView} {text : String}

theorem eq_ofWindow_of_decode (h : decode .stops offset bytes = some view)
    : view = ofWindow offset bytes := by
  obtain ⟨start, hstart, rfl⟩ := decode_eq_some_iff.mp h
  obtain ⟨_, rfl⟩ := Overflow.stops_sum_eq_some_iff.mp hstart
  rfl

/-- The text of a window does not reach farther than the window. -/
theorem text_stop_le (h : (ofWindow offset bytes).text = some text)
    : (ofWindow offset bytes).offset + Text.Utf8.size text.toList ≤ offset + bytes.length := by
  have hdecode := text_eq_some_iff.mp h
  have hsize := (Text.Utf8.encode_prefix_of_decodeOpen hdecode).length_le
  have hskipped := skipped_le_length offset bytes
  rw [← Text.Utf8.size_eq_length, List.length_drop] at hsize
  unfold ofWindow
  dsimp only
  omega

end TextView

namespace Snapshot

variable {s u : Snapshot} {c : Chunk} {start : Nat}

theorem stop_of_loaded (h : s.offset = some start) : s.stop = some (start + s.bytes.length) := by
  unfold stop
  rw [h]
  rfl

theorem Fits.offset_le (h : s.Fits) (hs : s.offset = some start) : start ≤ maxOffset := by
  have := h _ (stop_of_loaded hs)
  omega

theorem fits_of_unloaded (h : s.offset = none) : s.Fits := by
  intro stop hstop
  simp [Snapshot.stop, h] at hstop

theorem Fits.merge (h : s.Fits) (hc : c.stop ≤ maxOffset) : (s.merge c).Fits := by
  intro stop hstop
  cases hs : s.offset with
  | none =>
    rw [stop_merge_of_unloaded hs] at hstop
    obtain rfl := Option.some.inj hstop
    exact hc
  | some start =>
    by_cases hjoins : Joins start (start + s.bytes.length) c
    . rw [stop_merge_of_joins hs hjoins] at hstop
      obtain rfl := Option.some.inj hstop
      apply Nat.max_le.mpr
      exact ⟨h _ (stop_of_loaded hs), hc⟩
    . rw [stop_merge_of_not_joins hs hjoins] at hstop
      obtain rfl := Option.some.inj hstop
      exact hc

theorem Fits.stop? (h : s.Fits) : s.stop? = some s.stop := by
  unfold Snapshot.stop?
  cases hs : s.offset with
  | none =>
    unfold stop
    rw [hs]
    rfl
  | some start =>
    dsimp only
    rw [Overflow.stops.sum_of_le (h _ (stop_of_loaded hs)), stop_of_loaded hs]
    rfl

theorem stop?_eq_none_iff : s.stop? = none ↔ ¬ s.Fits := by
  constructor
  . intro h hfits
    rw [hfits.stop?] at h
    contradiction
  . intro h
    cases hs : s.offset with
    | none => exact absurd (fits_of_unloaded hs) h
    | some start =>
      have hlt : maxOffset < start + s.bytes.length := by
        apply Nat.lt_of_not_le
        intro hle
        apply h
        intro stop hstop
        rw [stop_of_loaded hs] at hstop
        obtain rfl := Option.some.inj hstop
        exact hle
      unfold Snapshot.stop?
      rw [hs]
      dsimp only
      rw [Overflow.stops_sum_of_lt hlt, Option.map_none]

theorem Fits.splice? (h : s.Fits) (hc : c.stop ≤ maxOffset) : s.splice? c = some (s.splice c) := by
  unfold Snapshot.splice?
  rw [h.stop?, Chunk.stop?_of_le hc]
  cases s.stop with
  | none => rfl
  | some stop =>
    dsimp only
    split <;> rfl

theorem eq_splice_of_splice? {window : Nat × List UInt8} (h : s.splice? c = some window)
    : window = s.splice c := by
  unfold splice? at h
  split at h
  . contradiction
  . exact (Option.some.inj h).symm
  . split at h
    . exact (Option.some.inj h).symm
    . obtain ⟨_, _, rfl⟩ := Option.map_eq_some_iff.mp h
      rfl

theorem merge?_eq_some_iff
    : s.merge? c = some u ↔
        s.splice? c = some (s.splice c)
          ∧ TextView.decode .stops (s.splice c).1 (s.splice c).2
            = some (.ofWindow (s.splice c).1 (s.splice c).2)
          ∧ u = s.merge c := by
  unfold merge?
  constructor
  . intro h
    obtain ⟨window, hwindow, h⟩ := Option.bind_eq_some_iff.mp h
    obtain ⟨view, hview, h⟩ := Option.bind_eq_some_iff.mp h
    obtain rfl := eq_splice_of_splice? hwindow
    obtain rfl := TextView.eq_ofWindow_of_decode hview
    exact ⟨hwindow, hview, (Option.some.inj h).symm⟩
  . rintro ⟨hwindow, hview, rfl⟩
    rw [hwindow, Option.bind_eq_bind, Option.bind_some]
    dsimp only
    rw [hview]
    rfl

theorem Fits.merge? (h : s.Fits) (hc : c.stop ≤ maxOffset) : s.merge? c = some (s.merge c) := by
  refine merge?_eq_some_iff.mpr ⟨h.splice? hc, ?_, rfl⟩
  -- the text begins within the window, and the window does not reach too far
  have hstop := h.merge hc _ stop_merge
  have hskipped := skipped_le_length (s.splice c).1 (s.splice c).2
  apply TextView.decode_of_le
  omega

example : initial.merge? ⟨maxOffset - 1, "a\nb".toUTF8.toList, maxOffset⟩ = none := by
  decide +kernel

end Snapshot

section

variable {s : Snapshot} {d : Option Directive} {chunkSize : Nat}

theorem eq_nextRange_of_nextRange? {range : ByteRange} (h : nextRange? s d chunkSize = some range)
    : range = nextRange s d chunkSize := by
  unfold nextRange? at h
  cases d with
  | some d => exact (Option.some.inj h).symm
  | none =>
    obtain ⟨_, _, rfl⟩ := Option.map_eq_some_iff.mp h
    rfl

theorem nextRange?_none_eq_none_iff : nextRange? s none chunkSize = none ↔ ¬ s.Fits := by
  unfold nextRange?
  rw [Option.map_eq_none_iff, Snapshot.stop?_eq_none_iff]

end

namespace Cursor

variable {cursor : Cursor} {s : Snapshot}

theorem eq_advance_of_advance? {printed : String × Cursor} (h : cursor.advance? s = some printed)
    : printed = cursor.advance s := by
  unfold advance? at h
  split at h
  . obtain ⟨_, _, rfl⟩ := Option.map_eq_some_iff.mp h
    rfl
  . exact (Option.some.inj h).symm

theorem advance?_of_text_none (h : s.text = none) : cursor.advance? s = some (cursor.advance s) := by
  unfold advance?
  rw [h]
  cases s.textOffset <;> rfl

theorem advance?_of_merge {c : Chunk} (h : (s.merge c).Fits)
    : cursor.advance? (s.merge c) = some (cursor.advance (s.merge c)) := by
  cases htext : (s.merge c).text with
  | none => exact advance?_of_text_none htext
  | some text =>
    have hle := TextView.text_stop_le htext
    have hstop := h _ Snapshot.stop_merge
    have hsum := Overflow.stops.sum_of_le (Nat.le_trans hle hstop)
    have htextOffset : (s.merge c).textOffset
        = some (TextView.ofWindow (s.splice c).1 (s.splice c).2).offset := rfl
    unfold advance?
    rw [htextOffset, htext]
    dsimp only
    rw [hsum]
    rfl

end Cursor
end RangeTail
