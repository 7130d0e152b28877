import RangeTail.Proofs.Session.End

/-!
This module contains what a session keeps while it is left alone and its log goes on growing: what it
holds, and what it asks for.
-/

namespace RangeTail.Session

/-- Nobody tells the tail what to do or scrolls its view, no answer comes, and the log keeps what it
has. -/
def Move.isCalm : Move → Bool
  | .truncate _ => false
  | .tail .launch => false
  | .tail .start => false
  | .tail m => m.isQuiet
  | _ => true

variable {s u : Session} {m : Move}

theorem Move.isQuiet_of_isCalm {m : Tail.Move} (h : (Move.tail m).isCalm) : m.isQuiet := by
  cases m with
  | launch => contradiction
  | start => contradiction
  | _ => exact h

theorem Move.ne_truncate_of_isCalm (h : m.isCalm) (n : Nat) : m ≠ .truncate n := by
  rintro rfl
  contradiction

theorem tail_stays_of_isCalm (h : m.isCalm) : s.tail.Stays (s.after m).tail := by
  cases m with
  | tail m =>
    rw [after_tail]
    exact Tail.stays_of_isQuiet (Move.isQuiet_of_isCalm h)
  | truncate => contradiction
  | _ => exact .refl s.tail

theorem Run.tail_stays (h : Run (·.isCalm) s u) : s.tail.Stays u.tail := by
  induction h with
  | refl => exact .refl s.tail
  | next m _ hm _ ih => exact ih.trans (tail_stays_of_isCalm hm)

/-- As long as no clock for new data runs, no request is made. -/
theorem rests_of_isCalm (h : m.isCalm) (hcan : s.CanHappen m) (hpollDue : s.tail.pollDue = none)
    : (s.after m).tail.pollDue = none ∧ (s.after m).tail.isFetching = s.tail.isFetching := by
  cases m with
  | truncate => contradiction
  | tail m =>
    rw [after_tail]
    cases m with
    | contact => simp [Tail.after, Tail.contact, Tail.isFetching, hpollDue]
    | view => exact ⟨hpollDue, rfl⟩
    | store => exact ⟨hpollDue, rfl⟩
    | event e =>
      cases e with
      | poll =>
        obtain ⟨due, hdue, _⟩ := poll_mem_ready.mp hcan
        rw [hpollDue] at hdue
        contradiction
      | settle => exact ⟨hpollDue, rfl⟩
      | _ => contradiction
    | _ => contradiction
  | _ => exact ⟨hpollDue, rfl⟩

end RangeTail.Session
