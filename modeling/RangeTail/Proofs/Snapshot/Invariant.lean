import RangeTail.Proofs.Tail.Snapshot
import RangeTail.Proofs.Text.Extent

/-!
This module contains what the fields of a snapshot have to do with each other, and the proof that it
holds of all snapshots there can be, whatever bytes were read and in whatever order. The bytes need
not be UTF-8, and need not come from one file. What a tail shows is always one of these snapshots.
-/

namespace RangeTail

open Text.Utf8 (IsCut)

namespace Snapshot

/-- What the fields of a snapshot have to do with each other. -/
structure WellFormed (s : Snapshot) : Prop where
  of_unloaded : s.offset = none →
    s.bytes = [] ∧ s.textOffset = none ∧ s.text = none ∧ s.decodeError = false
  of_loaded : ∀ start, s.offset = some start →
    ∃ first, s.textOffset = some first
      ∧ TextView.IsOf ⟨first, s.text⟩ start s.bytes
      ∧ (s.text = none ↔ s.decodeError = true)
  of_loading : s.loading = true → s.offset = none ∧ s.total = 0

theorem wellFormed_initial : initial.WellFormed where
  of_unloaded := fun _ => ⟨rfl, rfl, rfl, rfl⟩
  of_loaded := fun _ h => nomatch h
  of_loading := fun _ => ⟨rfl, rfl⟩

theorem wellFormed_merge (s : Snapshot) (c : Chunk) : (s.merge c).WellFormed where
  of_unloaded := fun h => nomatch h
  of_loaded := by
    rintro start ⟨⟩
    exact ⟨_, rfl, TextView.isOf_ofWindow _ _, Option.isNone_iff_eq_none.symm⟩
  of_loading := fun h => nomatch h

theorem wellFormed_emptied (s : Snapshot) (total : Nat) : (s.emptied total).WellFormed where
  of_unloaded := fun _ => ⟨rfl, rfl, rfl, rfl⟩
  of_loaded := fun _ h => nomatch h
  of_loading := fun h => nomatch h

namespace WellFormed

variable {s : Snapshot}

theorem withFollow (h : s.WellFormed) (follow : Bool) : (s.withFollow follow).WellFormed :=
  ⟨h.of_unloaded, h.of_loaded, h.of_loading⟩

theorem withFailure (h : s.WellFormed) (failure : Failure) : (s.withFailure failure).WellFormed :=
  ⟨h.of_unloaded, h.of_loaded, h.of_loading⟩

end WellFormed

/-- The snapshots there can be. -/
inductive Reached : Snapshot → Prop where
  | initial : Reached initial
  | merge {s : Snapshot} (c : Chunk) : Reached s → Reached (s.merge c)
  | withFollow {s : Snapshot} (follow : Bool) : Reached s → Reached (s.withFollow follow)
  | withFailure {s : Snapshot} (failure : Failure) : Reached s → Reached (s.withFailure failure)
  | emptied {s : Snapshot} (total : Nat) : Reached s → Reached (s.emptied total)

theorem Reached.answered {s : Snapshot} (h : s.Reached) (request : ByteRange) (latency : Nat)
    (answer : Except Fault Chunk)
    : (s.answered request latency answer).Reached := by
  cases answer with
  | ok c => exact h.merge c
  | error fault =>
    cases fault with
    | emptyFile total => exact h.emptied total
    | _ => exact h.withFailure _

/-- The fields of every snapshot fit together. -/
theorem wellFormed_of_reached {s : Snapshot} (h : s.Reached) : s.WellFormed := by
  induction h with
  | initial => exact wellFormed_initial
  | merge c => apply wellFormed_merge
  | withFollow follow _ ih => exact ih.withFollow follow
  | withFailure failure _ ih => exact ih.withFailure failure
  | emptied total => apply wellFormed_emptied

/-- A window that begins and ends inside a character, read after the file was found empty. -/
theorem wellFormed_of_reached_cut
    : let s := ((initial.withFollow true).emptied 0).merge ⟨5, [0xA9, 0x61, 0xE2, 0x82], 9⟩
      s.Reached ∧ s.WellFormed ∧ s.textOffset = some 6 ∧ s.text = some "a" := by
  intro s
  have hs : s.Reached := .merge _ (.emptied 0 (.withFollow true .initial))
  have hfields := wellFormed_of_reached hs
  refine ⟨hs, hfields, by decide, ?_⟩
  obtain ⟨first, hfirst, hview, _⟩ := hfields.of_loaded 5 rfl
  obtain rfl : 6 = first := Option.some.inj hfirst
  have hcut : IsCut [0xE2, 0x82] := ⟨'€', by decide, by decide⟩
  exact (hview.text_eq_some_iff "a").mpr ⟨[0xE2, 0x82], hcut, by decide, by decide⟩

end Snapshot

namespace Tail

theorem Prepared.reached {t : Tail} (h : t.Prepared) : t.snapshot.Reached := by
  induction h with
  | ofConfig config => exact .withFollow config.follow .initial
  | withView _ _ ih => exact ih
  | withStore _ _ ih => exact ih
  | withOffset _ _ ih => exact ih

theorem reached_of_run {allowed : Move → Prop} {t u : Tail} (h : t.Prepared)
    (hrun : Run allowed t u)
    : u.snapshot.Reached := by
  induction hrun with
  | refl => exact h.reached
  | @next u now m _ _ _ ih =>
    rcases u.after_snapshot now m with ⟨follow, heq⟩ | ⟨f, answer, _, _, heq⟩
    . rw [heq]
      exact ih.withFollow follow
    . rw [heq]
      apply ih.answered

end Tail
end RangeTail
