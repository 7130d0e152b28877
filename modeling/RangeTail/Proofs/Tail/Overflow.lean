import RangeTail.Proofs.Snapshot.Overflow
import RangeTail.Proofs.Tail.Dispatch

/-!
This module contains the two places where a tail may come on a sum that 64 bits do not hold: bytes that
are joined with its window, and the end of the window when it asks for what follows. Where it does not
stop there, it does what it would do without bounds.
-/

namespace RangeTail.Tail

variable {t u : Tail} {now : Nat} {f : InFlight} {answer : Except Fault Chunk}

theorem start?_eq_none_iff
    : t.start? now = none ↔ t.inFlight = none ∧ t.pending = none ∧ ¬ t.snapshot.Fits := by
  unfold start?
  cases t.inFlight with
  | some f => simp
  | none =>
    dsimp only
    rw [Option.map_eq_none_iff, and_iff_right rfl]
    cases t.pending with
    | some d => simp [nextRange?]
    | none => rw [nextRange?_none_eq_none_iff, and_iff_right rfl]

theorem eq_start_of_start? (h : t.start? now = some u) : u = t.start now := by
  unfold start? at h
  cases hinFlight : t.inFlight with
  | some f =>
    rw [hinFlight] at h
    exact (Option.some.inj h).symm
  | none =>
    rw [hinFlight] at h
    obtain ⟨range, hrange, rfl⟩ := Option.map_eq_some_iff.mp h
    rw [start_of_none hinFlight, eq_nextRange_of_nextRange? hrange]

theorem takeIn?_eq_none_iff {request : ByteRange} {latency : Nat}
    : t.takeIn? now request latency answer = none ↔
        ∃ chunk, answer = .ok chunk ∧ t.snapshot.merge? chunk = none := by
  cases answer with
  | error fault => simp [takeIn?]
  | ok chunk => simp [takeIn?]

theorem eq_takeIn_of_takeIn? {request : ByteRange} {latency : Nat}
    (h : t.takeIn? now request latency answer = some u)
    : u = t.takeIn now request latency answer := by
  cases answer with
  | error fault => exact (Option.some.inj h).symm
  | ok chunk =>
    obtain ⟨s, hs, rfl⟩ := Option.map_eq_some_iff.mp h
    obtain ⟨_, _, rfl⟩ := Snapshot.merge?_eq_some_iff.mp hs
    rfl

/-- What waits for an answer is an instruction, and none of those takes a sum that is not clamped. -/
theorem startPending?_eq (t : Tail) (now : Nat) : t.startPending? now = some (t.startPending now) := by
  unfold startPending? startPending
  split
  . next hpending =>
    cases hstart : t.start? now with
    | some u => rw [eq_start_of_start? hstart]
    | none =>
      obtain ⟨_, hnone, _⟩ := start?_eq_none_iff.mp hstart
      rw [hnone] at hpending
      contradiction
  . rfl

theorem complete?_eq_none_iff
    : t.complete? now f answer = none ↔
        ∃ chunk, answer = .ok chunk ∧ t.snapshot.merge? chunk = none := by
  unfold complete?
  simp only [startPending?_eq]
  rw [Option.bind_eq_none_iff]
  simp only [reduceCtorEq, imp_false, ← Option.eq_none_iff_forall_ne_some]
  rw [takeIn?_eq_none_iff, pollSoon_snapshot]

theorem eq_complete_of_complete? (h : t.complete? now f answer = some u)
    : u = t.complete now f answer := by
  obtain ⟨v, hv, hu⟩ := Option.bind_eq_some_iff.mp h
  rw [startPending?_eq] at hu
  obtain rfl := eq_takeIn_of_takeIn? hv
  exact (Option.some.inj hu).symm

/-- A tail that does not stop at a sum does the same as without bounds. -/
theorem eq_handle_of_handle? {e : Event} (h : t.handle? now e = some u) : u = t.handle now e := by
  cases e with
  | fetched answer =>
    unfold handle? at h
    unfold handle
    dsimp only at *
    split at h
    . exact eq_complete_of_complete? h
    . exact (Option.some.inj h).symm
  | poll => exact eq_start_of_start? h
  | settle => exact (Option.some.inj h).symm
  | scrolled news => exact (Option.some.inj h).symm

theorem handle?_fetched_eq_none_iff (hfetching : t.isFetching)
    : t.handle? now (.fetched answer) = none ↔
        ∃ chunk, answer = .ok chunk ∧ t.snapshot.merge? chunk = none := by
  obtain ⟨f, hf⟩ := Option.isSome_iff_exists.mp hfetching
  unfold handle?
  rw [hf]
  exact complete?_eq_none_iff

theorem handle?_fetched_error (hf : t.inFlight = some f) (fault : Fault)
    : t.handle? now (.fetched (.error fault)) = some (t.handle now (.fetched (.error fault))) := by
  have hfetching : t.isFetching := Option.isSome_iff_exists.mpr ⟨f, hf⟩
  cases h : t.handle? now (.fetched (.error fault)) with
  | some u => rw [eq_handle_of_handle? h]
  | none =>
    obtain ⟨_, hanswer, _⟩ := (handle?_fetched_eq_none_iff hfetching).mp h
    contradiction

/-- An answer that ends where 64 bits hold its end is taken in by a window that does so, too. -/
theorem handle?_fetched_of_fits (hfetching : t.isFetching) (ht : t.snapshot.Fits)
    (hanswer : ∀ chunk, answer = .ok chunk → chunk.stop ≤ maxOffset)
    : t.handle? now (.fetched answer) = some (t.handle now (.fetched answer)) := by
  cases h : t.handle? now (.fetched answer) with
  | some u => rw [eq_handle_of_handle? h]
  | none =>
    obtain ⟨chunk, rfl, hmerge⟩ := (handle?_fetched_eq_none_iff hfetching).mp h
    rw [ht.merge? (hanswer chunk rfl)] at hmerge
    contradiction

theorem handle?_poll_iff (hinFlight : t.inFlight = none) (hpending : t.pending = none)
    : t.handle? now .poll = some (t.handle now .poll) ↔ t.snapshot.Fits := by
  constructor
  . intro h
    apply Classical.byContradiction
    intro hfits
    have hnone : t.handle? now .poll = none :=
      start?_eq_none_iff.mpr ⟨hinFlight, hpending, hfits⟩
    rw [hnone] at h
    contradiction
  . intro hfits
    cases h : t.handle? now .poll with
    | some u => rw [eq_handle_of_handle? h]
    | none => exact absurd hfits (start?_eq_none_iff.mp h).2.2

end RangeTail.Tail
