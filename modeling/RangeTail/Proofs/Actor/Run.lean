import RangeTail.Actor
import RangeTail.Proofs.Session.Run
import RangeTail.Proofs.Tail.Pin

/-!
This module contains the runs of tails that work by themselves: commands are sent and done, handles come
and go, the log and the view change, and answers and clocks come about, in any order. Whatever such a
tail does when it is left to work or waited for is one of its runs.
-/

namespace RangeTail

/-- The view is used by others in the ways that are allowed only. -/
def Session.Move.Uses (allowed : Scroll.View.Use → Prop) : Session.Move → Prop
  | .tail m => m.Uses allowed
  | _ => True

/-- The move is none that only who holds a tail can make. -/
def Session.Move.isAmbient : Session.Move → Bool
  | .tail .launch => false
  | .tail .start => false
  | .tail (.command _) => false
  | _ => true

namespace Actor

/-- One thing that happens to a tail that works by itself. -/
inductive Move where
  | send (c : Command)
  | addHandle
  | dropHandle
  /-- The next command is taken, or it is learnt that there will be none. -/
  | take
  | session (m : Session.Move)

/-- Only who holds a handle can send, and only what was sent is taken until the tail stops. -/
def CanHappen (a : Actor) : Move → Prop
  | .take => a.isStopped = false ∧ (a.mailbox = [] → a.handles = 0)
  | .session m => m.isAmbient ∧ a.session.CanHappen m
  | _ => 0 < a.handles

/-- The work ends with a command to cancel, and when nobody can send commands any more. -/
def take (a : Actor) : Actor :=
  match a.mailbox with
  | [] => a.stop
  | .cancel :: _ => a.stop
  | c :: rest => { a with session := a.session.apply c, mailbox := rest }

def after (a : Actor) : Move → Actor
  | .send c => a.send c
  | .addHandle => a.addHandle
  | .dropHandle => a.dropHandle
  | .take => a.take
  | .session m => { a with session := a.session.after m }

/-- What a tail that works by itself becomes by things that are allowed to happen. -/
inductive Run (allowed : Move → Prop) (a : Actor) : Actor → Prop
  | refl : Run allowed a a
  | next {b : Actor} (m : Move) :
      Run allowed a b → allowed m → b.CanHappen m → Run allowed a (b.after m)

/-- The view is used by others in the ways that are allowed only. -/
def Move.Uses (allowed : Scroll.View.Use → Prop) : Move → Prop
  | .session m => m.Uses allowed
  | _ => True

variable {allowed : Move → Prop} {a b c : Actor}

theorem Run.trans (h₁ : Run allowed a b) (h₂ : Run allowed b c) : Run allowed a c := by
  induction h₂ with
  | refl => exact h₁
  | next m _ hallowed hcan ih => exact ih.next m hallowed hcan

theorem send_session (a : Actor) (c : Command) : (a.send c).session = a.session := by
  unfold send
  split <;> rfl

theorem take_session (a : Actor) : ∃ c, a.take.session = a.session.apply c := by
  unfold take
  split
  . exact ⟨.cancel, rfl⟩
  . exact ⟨.cancel, rfl⟩
  . next c _ _ _ => exact ⟨c, rfl⟩

/-- Every run is one of the session, which is told what to do. -/
theorem Run.session {wider : Session.Move → Prop} (hcommand : ∀ c, wider (.tail (.command c)))
    (hsession : ∀ m, allowed (.session m) → wider m) (h : Run allowed a b)
    : Session.Run wider a.session b.session := by
  induction h with
  | refl => exact .refl
  | @next b m _ hallowed hcan ih =>
    cases m with
    | send c =>
      dsimp only [after]
      rw [send_session]
      exact ih
    | addHandle => exact ih
    | dropHandle => exact ih
    | take =>
      obtain ⟨c, hc⟩ := b.take_session
      dsimp only [after]
      rw [hc]
      exact ih.next (.tail (.command c)) (hcommand c) trivial
    | session m => exact ih.next m (hsession m hallowed) hcan.2

/-! What is done by itself -/

/-- All that such a tail does by itself is allowed. -/
structure Permits (allowed : Move → Prop) : Prop where
  take : allowed .take
  contact : allowed (.session (.tail .contact))
  event : ∀ e, allowed (.session (.tail (.event e)))
  advance : ∀ n, allowed (.session (.advance n))

theorem run_contact (h : Permits allowed) : Run allowed a a.contact := by
  unfold contact
  split
  . exact .refl
  . exact Run.next (.session (.tail .contact)) .refl h.contact ⟨rfl, trivial⟩

theorem run_take (h : Permits allowed) (hcan : a.CanHappen .take) : Run allowed a a.take :=
  .next .take .refl h.take hcan

theorem run_turn (h : Permits allowed) (hturn : a.turn = some b) : Run allowed a b := by
  unfold turn at hturn
  split at hturn
  . contradiction
  . next hstopped =>
    rw [Bool.not_eq_true] at hstopped
    split at hturn
    . next hmailbox =>
      obtain rfl := Option.some.inj hturn
      have hrun := run_take h (a := a) ⟨hstopped, by simp [hmailbox]⟩
      simpa only [take, hmailbox] using hrun
    . next c rest hcancel hmailbox =>
      obtain rfl := Option.some.inj hturn
      have hrun := run_take h (a := a) ⟨hstopped, by simp [hmailbox]⟩
      unfold take at hrun
      rw [hmailbox] at hrun
      cases c with
      | cancel => exact absurd rfl hcancel
      | _ => exact hrun
    . next hmailbox =>
      split at hturn
      . next hhandles =>
        obtain rfl := Option.some.inj hturn
        have hrun := run_take h (a := a) ⟨hstopped, fun _ => hhandles⟩
        simpa only [take, hmailbox] using hrun
      . split at hturn
        . next e rest hready =>
          obtain rfl := Option.some.inj hturn
          have hcontact : Run allowed a { a with session := a.session.contact } :=
            .next (.session (.tail .contact)) .refl h.contact ⟨rfl, trivial⟩
          apply hcontact.next (.session (.tail (.event e))) (h.event e)
          exact ⟨rfl, by simp [Session.CanHappen, hready]⟩
        . contradiction

theorem run_settleDown (h : Permits allowed) (fuel : Nat) : Run allowed a (settleDown fuel a) := by
  induction fuel generalizing a with
  | zero => exact .refl
  | succ fuel ih =>
    unfold settleDown
    split
    . next hturn => exact (run_turn h hturn).trans ih
    . exact run_contact h

theorem run_work (h : Permits allowed) : Run allowed a a.work :=
  run_settleDown h busiest

theorem run_setTime (h : Permits allowed) {now : Nat} (hnow : a.session.now ≤ now)
    : Run allowed a (a.setTime now) := by
  have hsum : a.session.now + (now - a.session.now) = now := by omega
  have htime : a.setTime now = a.after (.session (.advance (now - a.session.now))) := by
    simp only [setTime, after, Session.after, Session.advance, hsum]
  rw [htime]
  exact .next _ .refl (h.advance _) ⟨rfl, trivial⟩

/-- Whatever a tail that works by itself does when it is waited for is one of its runs. -/
theorem run_wait (h : Permits allowed) (milliseconds : Nat)
    : Run allowed a (a.wait milliseconds) := by
  induction a, milliseconds using wait.induct with
  | case1 a milliseconds now due hdue hlt ih =>
    rw [wait, hdue]
    dsimp only
    rw [dif_pos hlt]
    exact ((run_setTime h (Nat.le_of_lt hlt.1)).trans (run_work h)).trans ih
  | case2 a milliseconds now due hdue hlt =>
    rw [wait, hdue]
    dsimp only
    rw [dif_neg hlt]
    exact (run_setTime h (Nat.le_add_right ..)).trans (run_work h)
  | case3 a milliseconds hdue =>
    rw [wait, hdue]
    exact (run_setTime h (Nat.le_add_right ..)).trans (run_work h)

end Actor
end RangeTail
