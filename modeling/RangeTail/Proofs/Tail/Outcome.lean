import RangeTail.Proofs.Tail.Failure

/-!
This module contains the histories of a tail: what it becomes by all that is done to it, and what came
of its requests, one after the other. The failure that the observers of a tail are shown is always
the one of the last request that something came of, if that one failed.
-/

namespace RangeTail

/-- What came of a request that took `latency` milliseconds. -/
structure Outcome where
  request : ByteRange
  latency : Nat
  answer : Except Fault Chunk

namespace Outcome

/-- The failure that the observers are to be shown. That the file is empty is none. -/
def failure? (o : Outcome) : Option Failure :=
  match o.answer with
  | .ok _ => none
  | .error (.emptyFile _) => none
  | .error fault => some (.ofFault fault o.request o.latency)

variable {o : Outcome} {failure : Failure} {fault : Fault}

theorem failure?_of_fault (h : o.answer = .error fault) (hfault : ∀ total, fault ≠ .emptyFile total)
    : o.failure? = some (.ofFault fault o.request o.latency) := by
  unfold failure?
  rw [h]
  cases fault with
  | emptyFile total => exact absurd rfl (hfault total)
  | _ => rfl

theorem failure?_eq_some_iff
    : o.failure? = some failure
        ↔
      ∃ fault, o.answer = .error fault ∧ (∀ total, fault ≠ .emptyFile total)
        ∧ failure = .ofFault fault o.request o.latency := by
  constructor
  . intro h
    unfold failure? at h
    split at h
    . contradiction
    . contradiction
    . next fault hfault hanswer =>
      exact ⟨fault, hanswer, hfault, (Option.some.inj h).symm⟩
  . rintro ⟨fault, hanswer, hfault, rfl⟩
    exact failure?_of_fault hanswer hfault

end Outcome

theorem Snapshot.answered_failure (s : Snapshot) (request : ByteRange) (latency : Nat)
    (answer : Except Fault Chunk)
    : (s.answered request latency answer).failure = Outcome.failure? ⟨request, latency, answer⟩ := by
  cases answer with
  | ok c => rfl
  | error fault => cases fault <;> rfl

namespace Tail

/-- What comes of the request on its way by a move. -/
def outcome? (t : Tail) (now : Nat) : Move → Option Outcome
  | .event (.fetched answer) => t.inFlight.map fun f => ⟨f.range, now - f.started, answer⟩
  | _ => none

/-- What a tail becomes by all that is done to it, in any order and at any moments, and what came of
its requests meanwhile, oldest first. -/
inductive History (t : Tail) : List Outcome → Tail → Prop
  | nil : History t [] t
  | next {outcomes : List Outcome} {u : Tail} (now : Nat) (m : Move) :
      History t outcomes u → History t (outcomes ++ (u.outcome? now m).toList) (u.after now m)

variable {t u : Tail} {now : Nat} {m : Move} {o : Outcome}

theorem snapshot_of_outcome (h : t.outcome? now m = some o)
    : (t.after now m).snapshot = t.snapshot.answered o.request o.latency o.answer := by
  unfold outcome? at h
  split at h
  . next answer =>
    obtain ⟨f, hf, rfl⟩ := Option.map_eq_some_iff.mp h
    rw [t.after_fetched now hf, complete_snapshot]
  . contradiction

theorem snapshot_of_no_outcome (h : t.outcome? now m = none)
    : ∃ follow, (t.after now m).snapshot = t.snapshot.withFollow follow := by
  rcases t.after_snapshot now m with hfollow | ⟨f, answer, rfl, hf, _⟩
  . exact hfollow
  . simp [outcome?, hf] at h

/-- An outcome decides on the failure that is shown, and nothing else changes it. -/
theorem failure_after
    : (t.after now m).snapshot.failure
        =
      ((t.outcome? now m).map (·.failure?)).getD t.snapshot.failure := by
  cases h : t.outcome? now m with
  | none =>
    obtain ⟨follow, hfollow⟩ := snapshot_of_no_outcome h
    rw [hfollow]
    rfl
  | some o =>
    rw [snapshot_of_outcome h]
    apply Snapshot.answered_failure

theorem failure_of_history {outcomes : List Outcome} (h : History t outcomes u)
    : u.snapshot.failure = (outcomes.getLast?.map (·.failure?)).getD t.snapshot.failure := by
  induction h with
  | nil => rfl
  | @next outcomes u now m _ ih =>
    rw [failure_after, ih]
    cases u.outcome? now m with
    | none =>
      rw [Option.toList_none, List.append_nil]
      rfl
    | some o =>
      rw [Option.toList_some, List.getLast?_concat]
      rfl

theorem Prepared.failure_eq (h : t.Prepared) : t.snapshot.failure = none := by
  induction h with
  | ofConfig => rfl
  | withView _ _ ih => exact ih
  | withStore _ _ ih => exact ih
  | withOffset _ _ ih => exact ih

/-! What a failure leaves alone -/

theorem start_frame
    : (t.start now).offsetParam = t.offsetParam ∧ (t.start now).settleDue = t.settleDue := by
  unfold start
  split <;> exact ⟨rfl, rfl⟩

theorem startPending_frame
    : (t.startPending now).offsetParam = t.offsetParam
        ∧ (t.startPending now).settleDue = t.settleDue := by
  unfold startPending
  split
  . exact start_frame
  . exact ⟨rfl, rfl⟩

theorem pollSoon_frame
    : (t.pollSoon now).offsetParam = t.offsetParam
        ∧ (t.pollSoon now).settleDue = t.settleDue := by
  unfold pollSoon
  split <;> exact ⟨rfl, rfl⟩

theorem takeIn_fault {fault : Fault} (h : ∀ total, fault ≠ .emptyFile total) (request : ByteRange)
    (latency : Nat)
    : t.takeIn now request latency (.error fault)
        =
      t.publish (t.snapshot.withFailure (.ofFault fault request latency)) := by
  cases fault with
  | emptyFile total => exact absurd rfl (h total)
  | _ => rfl

theorem after_fault_frame {f : InFlight} {fault : Fault} (hf : t.inFlight = some f)
    (h : ∀ total, fault ≠ .emptyFile total)
    : (t.after now (.event (.fetched (.error fault)))).offsetParam = t.offsetParam
        ∧ (t.after now (.event (.fetched (.error fault)))).settleDue = t.settleDue := by
  rw [t.after_fetched now hf]
  unfold complete
  rw [startPending_frame.1, startPending_frame.2, takeIn_fault h]
  exact pollSoon_frame (t := { t with inFlight := none })

/--
Whatever is done to a tail, the failure that its observers are shown is the one of the last request
that something came of, and it is shown exactly if that request failed for another reason than that
the file is empty. Such a failure changes nothing else of the snapshot, and neither what is kept of
the position of the window nor when the view is to be moved; while the log is followed and no
instruction waits, the clock is set for the next request.
-/
theorem failure_is_of_last_outcome (ht : t.Prepared) {outcomes : List Outcome}
    (h : History t outcomes u)
    : (∀ failure, u.snapshot.failure = some failure
          ↔
        ∃ o fault, outcomes.getLast? = some o ∧ o.answer = .error fault
          ∧ (∀ total, fault ≠ .emptyFile total)
          ∧ failure = .ofFault fault o.request o.latency)
        ∧
      ∀ f fault now, u.inFlight = some f → (∀ total, fault ≠ .emptyFile total) →
        let v := u.after now (.event (.fetched (.error fault)))
        v.snapshot
            = { u.snapshot with failure := some (.ofFault fault f.range (now - f.started)) }
          ∧ v.offsetParam = u.offsetParam
          ∧ v.settleDue = u.settleDue
          ∧ (u.snapshot.follow → u.pending = none →
              v.pollDue = some (dueAfter now u.config.pollInterval)) := by
  constructor
  . intro failure
    rw [failure_of_history h, ht.failure_eq]
    cases outcomes.getLast? with
    | none => simp
    | some o => simp [Outcome.failure?_eq_some_iff]
  . intro f fault now hf hfault v
    obtain ⟨hoffsetParam, hsettleDue⟩ := after_fault_frame hf hfault (t := u)
    refine ⟨?_, hoffsetParam, hsettleDue, ?_⟩
    . simp only [v]
      rw [u.after_fetched now hf, complete_snapshot, Snapshot.answered_fault hfault]
      rfl
    . intro hfollow hpending
      exact pollDue_of_answer hf hpending hfollow _

/-- The end of a log is read, and the poll after it is refused. -/
theorem failure_is_of_last_outcome_refused
    : let t := ofConfig { chunkSize := 2, follow := true } "log"
      let u := ((t.after 0 .launch).after 1 (.event (.fetched (.ok ⟨4, [100, 101], 6⟩)))).after 501
        (.event .poll)
      let v := u.after 503 (.event (.fetched (.error (.status 500))))
      u.inFlight = some { range := .span 5 8, started := 501 }
        ∧ u.snapshot.failure = none
        ∧ v.snapshot = { u.snapshot with failure := some (.ofFault (.status 500) (.span 5 8) 2) }
        ∧ v.snapshot.bytes = [100, 101]
        ∧ v.pollDue = some 1003 := by
  intro t u v
  have hnil : History t [] t := .nil
  have hu : History t [⟨.suffix 2, 1, .ok ⟨4, [100, 101], 6⟩⟩] u := hnil
    |>.next 0 .launch
    |>.next 1 (.event (.fetched (.ok ⟨4, [100, 101], 6⟩)))
    |>.next 501 (.event .poll)
  have hf : u.inFlight = some { range := .span 5 8, started := 501 } := rfl
  obtain ⟨hfailure, hframe⟩ := failure_is_of_last_outcome (.ofConfig _ _) hu
  obtain ⟨hsnapshot, _, _, hpollDue⟩ := hframe _ (.status 500) 503 hf nofun
  have hnone : u.snapshot.failure = none := by
    apply Option.eq_none_iff_forall_ne_some.mpr
    intro failure h
    obtain ⟨_, _, ⟨⟩, _, _⟩ := (hfailure failure).mp h
    contradiction
  have hbytes : v.snapshot.bytes = [100, 101] := by
    rw [hsnapshot]
    rfl
  exact ⟨hf, hnone, hsnapshot, hbytes, hpollDue rfl rfl⟩

end Tail
end RangeTail
