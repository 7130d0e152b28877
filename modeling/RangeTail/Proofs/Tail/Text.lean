import RangeTail.Proofs.Tail.Snapshot
import RangeTail.Snapshot.Merge

/-!
This module contains the proof that the text of a snapshot is always the one of its window.
-/

namespace RangeTail

namespace Snapshot

/-- The text, and where it begins, are those of the window. -/
def IsDecoded (s : Snapshot) : Prop :=
  ∀ start, s.offset = some start →
    s.textOffset = some (TextView.ofWindow start s.bytes).offset
      ∧ s.text = (TextView.ofWindow start s.bytes).text

theorem isDecoded_of_unloaded {s : Snapshot} (h : s.offset = none) : s.IsDecoded := by
  intro start hstart
  rw [h] at hstart
  contradiction

theorem isDecoded_merge (s : Snapshot) (c : Chunk) : (s.merge c).IsDecoded := by
  intro start hstart
  unfold merge holding at *
  rw [Option.some.injEq] at hstart
  rw [hstart]
  exact ⟨rfl, rfl⟩

namespace IsDecoded

variable {s : Snapshot}

theorem withFollow (h : s.IsDecoded) (follow : Bool) : (s.withFollow follow).IsDecoded :=
  h

theorem withFailure (h : s.IsDecoded) (failure : Failure) : (s.withFailure failure).IsDecoded :=
  h

theorem answered (h : s.IsDecoded) (request : ByteRange) (latency : Nat)
    (answer : Except Fault Chunk)
    : (s.answered request latency answer).IsDecoded := by
  cases answer with
  | ok c => apply isDecoded_merge
  | error fault =>
    cases fault with
    | emptyFile total => exact isDecoded_of_unloaded rfl
    | _ => exact h.withFailure _

end IsDecoded
end Snapshot

namespace Tail

theorem isDecoded_of_run {allowed : Move → Prop} {t u : Tail} (h : t.snapshot.IsDecoded)
    (hrun : Run allowed t u)
    : u.snapshot.IsDecoded := by
  induction hrun with
  | refl => exact h
  | @next u now m _ _ _ ih =>
    rcases u.after_snapshot now m with ⟨follow, heq⟩ | ⟨f, answer, _, _, heq⟩
    . rw [heq]
      exact ih.withFollow follow
    . rw [heq]
      apply ih.answered

end Tail
end RangeTail
