import RangeTail.Proofs.Tail.Run

/-!
This module contains what becomes of the snapshot of a tail. Nothing but an answer changes more of
it than whether the log is followed.
-/

namespace RangeTail

/-- The snapshot after an answer to a request that took `latency` milliseconds. -/
def Snapshot.answered (s : Snapshot) (request : ByteRange) (latency : Nat)
    : Except Fault Chunk → Snapshot
  | .ok chunk => s.merge chunk
  | .error (.emptyFile total) => s.emptied total
  | .error fault => s.withFailure (.ofFault fault request latency)

namespace Tail

variable (t : Tail) (now : Nat)

@[simp]
theorem start_snapshot : (t.start now).snapshot = t.snapshot := by
  unfold start
  split <;> rfl

@[simp]
theorem arm_snapshot : t.arm.snapshot = t.snapshot := rfl

@[simp]
theorem disengage_snapshot : t.disengage.snapshot = t.snapshot := rfl

@[simp]
theorem publish_snapshot (s : Snapshot) : (t.publish s).snapshot = s := rfl

@[simp]
theorem direct_snapshot (d : Option Directive) : (t.direct now d).snapshot = t.snapshot := by
  unfold direct
  rw [start_snapshot]

@[simp]
theorem launch_snapshot : (t.launch now).snapshot = t.snapshot := by
  unfold launch
  rw [start_snapshot]
  split <;> rfl

@[simp]
theorem pollSoon_snapshot : (t.pollSoon now).snapshot = t.snapshot := by
  unfold pollSoon
  split <;> rfl

@[simp]
theorem settleSoon_snapshot : (t.settleSoon now).snapshot = t.snapshot := by
  unfold settleSoon
  split <;> rfl

@[simp]
theorem startPending_snapshot : (t.startPending now).snapshot = t.snapshot := by
  unfold startPending
  split
  . rw [start_snapshot]
  . rfl

theorem takeIn_snapshot (request : ByteRange) (latency : Nat) (answer : Except Fault Chunk)
    : (t.takeIn now request latency answer).snapshot
        =
      t.snapshot.answered request latency answer := by
  cases answer with
  | ok chunk =>
    unfold takeIn
    rw [settleSoon_snapshot]
    rfl
  | error fault => cases fault <;> rfl

theorem complete_snapshot (f : InFlight) (answer : Except Fault Chunk)
    : (t.complete now f answer).snapshot
        =
      t.snapshot.answered f.range (now - f.started) answer := by
  unfold complete
  rw [startPending_snapshot, takeIn_snapshot, pollSoon_snapshot]

theorem after_fetched {f : InFlight} (hf : t.inFlight = some f) (answer : Except Fault Chunk)
    : t.after now (.event (.fetched answer)) = t.complete now f answer := by
  dsimp only [after, handle]
  rw [hf]

theorem setFollow_snapshot (follow : Bool)
    : (t.setFollow now follow).snapshot = t.snapshot.withFollow follow := by
  unfold setFollow
  split
  . next h =>
    rw [h]
    rfl
  . split
    . rw [direct_snapshot, arm_snapshot, publish_snapshot]
    . rw [disengage_snapshot, publish_snapshot]

theorem loadPrevious_snapshot : (t.loadPrevious now).snapshot = t.snapshot := by
  unfold loadPrevious
  split
  . rw [direct_snapshot]
  . rfl

theorem skipToEnd_snapshot : (t.skipToEnd now).snapshot = t.snapshot.withFollow true := by
  unfold skipToEnd
  rw [direct_snapshot, arm_snapshot]
  split
  . next h =>
    rw [← h]
    rfl
  . rfl

theorem noticeScroll_snapshot (news : Scroll.News)
    : ∃ follow, (t.noticeScroll news).snapshot = t.snapshot.withFollow follow := by
  unfold noticeScroll
  split
  . exact ⟨t.snapshot.follow, rfl⟩
  . split
    . exact ⟨t.snapshot.follow, rfl⟩
    . dsimp only
      split
      . exact ⟨false, rfl⟩
      . exact ⟨t.snapshot.follow, rfl⟩

theorem apply_snapshot (c : Command)
    : ∃ follow, (t.apply now c).snapshot = t.snapshot.withFollow follow := by
  cases c with
  | follow enabled => exact ⟨enabled, setFollow_snapshot t now enabled⟩
  | loadPrevious => exact ⟨t.snapshot.follow, loadPrevious_snapshot t now⟩
  | skipToEnd => exact ⟨true, skipToEnd_snapshot t now⟩
  | jumpTo offset => exact ⟨t.snapshot.follow, direct_snapshot t now _⟩
  | cancel => exact ⟨t.snapshot.follow, rfl⟩

/-- All that can become of the snapshot. -/
theorem after_snapshot (m : Move)
    : (∃ follow, (t.after now m).snapshot = t.snapshot.withFollow follow)
        ∨
      ∃ f answer, m = .event (.fetched answer) ∧ t.inFlight = some f
        ∧ (t.after now m).snapshot = t.snapshot.answered f.range (now - f.started) answer := by
  cases m with
  | launch => exact .inl ⟨t.snapshot.follow, launch_snapshot t now⟩
  | start => exact .inl ⟨t.snapshot.follow, start_snapshot t now⟩
  | command c => exact .inl (apply_snapshot t now c)
  | contact => exact .inl ⟨t.snapshot.follow, rfl⟩
  | view => exact .inl ⟨t.snapshot.follow, rfl⟩
  | store => exact .inl ⟨t.snapshot.follow, rfl⟩
  | event e =>
    cases e with
    | poll => exact .inl ⟨t.snapshot.follow, start_snapshot t now⟩
    | settle => exact .inl ⟨t.snapshot.follow, rfl⟩
    | scrolled news => exact .inl (noticeScroll_snapshot t.drain news)
    | fetched answer =>
      cases hf : t.inFlight with
      | none =>
        left
        exists t.snapshot.follow
        simp [after, handle, hf, Snapshot.withFollow]
      | some f =>
        right
        refine ⟨f, answer, rfl, rfl, ?_⟩
        rw [after_fetched t now hf, complete_snapshot]

theorem Prepared.offset_eq {t : Tail} (h : t.Prepared) : t.snapshot.offset = none := by
  induction h with
  | ofConfig => rfl
  | withView _ _ ih => exact ih
  | withStore _ _ ih => exact ih
  | withOffset _ _ ih => exact ih

end Tail
end RangeTail
