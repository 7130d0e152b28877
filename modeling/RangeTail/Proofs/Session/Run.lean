import RangeTail.Proofs.Tail.Run
import RangeTail.Session

/-!
This module contains the runs of a session: the tail works, its source changes and may fail, and
time passes, in any order. Every run of a session is one of its tail, and so is whatever a session
does when it is waited for.
-/

namespace RangeTail.Session

/-- One thing that happens to a session. -/
inductive Move where
  | append (more : List UInt8)
  | truncate (n : Nat)
  | fail (fault : Fault)
  | hold
  | release
  | advance (milliseconds : Nat)
  | tail (m : Tail.Move)

/-- Only events that have come about are dealt with. -/
def CanHappen (s : Session) : Move → Prop
  | .tail (.event e) => e ∈ s.ready
  | _ => True

def after (s : Session) : Move → Session
  | .append more => { s with source := s.source.append more }
  | .truncate n => { s with source := s.source.truncate n }
  | .fail fault => { s with source := s.source.failNext fault }
  | .hold => { s with source := s.source.hold }
  | .release => { s with source := s.source.release }
  | .advance milliseconds => s.advance milliseconds
  | .tail (.command c) => s.apply c
  | .tail (.event e) => s.fire e
  | .tail .contact => s.contact
  | .tail m => { s with tail := s.tail.after s.now m }

/-- What a session becomes by things that are allowed to happen. -/
inductive Run (allowed : Move → Prop) (s : Session) : Session → Prop
  | refl : Run allowed s s
  | next {u : Session} (m : Move) :
      Run allowed s u → allowed m → u.CanHappen m → Run allowed s (u.after m)

theorem contact_tail (s : Session) : s.contact.tail = s.tail.contact := by
  rcases s with ⟨tail, source, now⟩
  unfold contact Tail.contact
  rcases tail with ⟨_, _, _, _, _, inFlight, _, _, _, _⟩
  rcases inFlight with _ | ⟨⟨range, isUnderWay⟩, started⟩
  . rfl
  . cases isUnderWay <;> rfl

theorem after_tail (s : Session) (m : Tail.Move)
    : (s.after (.tail m)).tail = s.tail.after s.now m := by
  cases m with
  | contact => apply contact_tail
  | _ => rfl

theorem drop_log (f : Fetch) (source : MemorySource) : (f.drop source).log = source.log := by
  unfold Fetch.drop
  split <;> rfl

theorem after_tail_log (s : Session) (m : Tail.Move)
    : (s.after (.tail m)).source.log = s.source.log := by
  cases m with
  | command c =>
    dsimp only [after, apply]
    split
    . apply drop_log
    . rfl
  | event e => cases e <;> rfl
  | contact =>
    dsimp only [after]
    unfold contact
    split
    . split <;> rfl
    . rfl
  | _ => rfl

theorem fetched_mem_ready {s : Session} {answer : Except Fault Chunk}
    : .fetched answer ∈ s.ready
        ↔
      ∃ f, s.tail.inFlight = some f ∧ f.isUnderWay = true
        ∧ s.source.answer? f.range = some answer := by
  unfold ready
  cases s.tail.inFlight <;> simp

theorem poll_mem_ready {s : Session}
    : .poll ∈ s.ready ↔ ∃ due, s.tail.pollDue = some due ∧ due ≤ s.now := by
  unfold ready
  cases s.tail.inFlight <;> cases s.tail.pollDue <;> simp

theorem settle_mem_ready {s : Session}
    : .settle ∈ s.ready ↔ ∃ due, s.tail.settleDue = some due ∧ due ≤ s.now := by
  unfold ready
  cases s.tail.inFlight <;> cases s.tail.settleDue <;> simp

theorem scrolled_mem_ready {s : Session} {news : Scroll.News}
    : .scrolled news ∈ s.ready ↔ s.tail.scrollNews? = some news := by
  unfold ready
  cases s.tail.inFlight <;> simp

theorem canHappen_of_mem_ready {s : Session} {e : Event} (h : e ∈ s.ready)
    : s.tail.CanHappen (.event e) := by
  cases e with
  | fetched answer =>
    obtain ⟨f, hf, _⟩ := fetched_mem_ready.mp h
    simp [Tail.CanHappen, Tail.isFetching, hf]
  | poll =>
    obtain ⟨due, hdue, _⟩ := poll_mem_ready.mp h
    simp [Tail.CanHappen, Tail.isPolling, hdue]
  | settle =>
    obtain ⟨due, hdue, _⟩ := settle_mem_ready.mp h
    simp [Tail.CanHappen, hdue]
  | scrolled news =>
    have hnews := scrolled_mem_ready.mp h
    simp only [Tail.scrollNews?, Scroll.Pin.news?, Option.bind_eq_some_iff] at hnews
    obtain ⟨pin, hpin, listener, hlistener, _⟩ := hnews
    simp [Tail.CanHappen, Scroll.Pin.isArmed, hpin, hlistener]

theorem canHappen_tail {s : Session} {m : Tail.Move} (h : s.CanHappen (.tail m))
    : s.tail.CanHappen m := by
  cases m with
  | event e => exact canHappen_of_mem_ready h
  | _ => trivial

/-- The source answers with the faults that it was made to give first, and then with what its log
serves. -/
theorem answer_eq {source : MemorySource} {r : ByteRange} {answer : Except Fault Chunk}
    (h : source.answer? r = some answer)
    : (∃ fault ∈ source.failures, answer = .error fault)
        ∨
      (source.failures = [] ∧ answer = source.log.serve r) := by
  unfold MemorySource.answer? at h
  split at h
  . contradiction
  . split at h
    . next fault rest hfailures =>
      left
      rw [hfailures]
      exact ⟨fault, List.mem_cons_self, (Option.some.inj h).symm⟩
    . next hfailures =>
      right
      exact ⟨hfailures, (Option.some.inj h).symm⟩

theorem answer_cases {source : MemorySource} {r : ByteRange} {answer : Except Fault Chunk}
    (h : source.answer? r = some answer)
    : (∃ fault, answer = .error fault) ∨ answer = source.log.serve r := by
  rcases answer_eq h with ⟨fault, _, hfault⟩ | ⟨_, hserve⟩
  . exact .inl ⟨fault, hfault⟩
  . exact .inr hserve

namespace Run

variable {allowed : Move → Prop} {s u v : Session}

theorem trans (h₁ : Run allowed s u) (h₂ : Run allowed u v) : Run allowed s v := by
  induction h₂ with
  | refl => exact h₁
  | next m _ hallowed hcan ih => exact ih.next m hallowed hcan

theorem mono {wider : Move → Prop} (h : Run allowed s u) (hle : ∀ m, allowed m → wider m)
    : Run wider s u := by
  induction h with
  | refl => exact .refl
  | next m _ hallowed hcan ih => exact ih.next m (hle m hallowed) hcan

theorem tail (h : Run allowed s u) : Tail.Run (fun m => allowed (.tail m)) s.tail u.tail := by
  induction h with
  | refl => exact .refl
  | @next u m _ hallowed hcan ih =>
    cases m with
    | tail m =>
      rw [after_tail]
      exact ih.next u.now m hallowed (canHappen_tail hcan)
    | _ => exact ih

theorem contact (h : allowed (.tail .contact)) : Run allowed s s.contact := by
  apply Run.next (.tail .contact) .refl h
  trivial

theorem poll (h : ∀ m, allowed (.tail m)) : Run allowed s s.poll.2 := by
  unfold Session.poll
  split
  . exact .refl
  . split
    . next e rest hready =>
      apply (contact (h .contact)).next (.tail (.event e)) (h (.event e))
      simp [CanHappen, hready]
    . exact contact (h .contact)

theorem advance (h : ∀ n, allowed (.advance n)) (milliseconds : Nat)
    : Run allowed s (s.advance milliseconds) := by
  apply Run.next (.advance milliseconds) .refl (h milliseconds)
  trivial

end Run

theorem ready_of_poll_pending {s u : Session} (h : s.poll = (.pending, u)) : u.ready = [] := by
  unfold poll at h
  split at h
  . simp at h
  . split at h
    . simp at h
    . next hready =>
      obtain rfl := (Prod.mk.inj h).2
      exact hready

theorem lt_nextDue {s : Session} {due : Nat} (hready : s.ready = [])
    (hdue : s.tail.nextDue = some due)
    : s.now < due := by
  have hpoll : ∀ n, s.tail.pollDue = some n → s.now < n := by
    intro n hn
    rw [← Nat.not_le]
    intro hle
    have := poll_mem_ready.mpr ⟨n, hn, hle⟩
    simp [hready] at this
  have hsettle : ∀ n, s.tail.settleDue = some n → s.now < n := by
    intro n hn
    rw [← Nat.not_le]
    intro hle
    have := settle_mem_ready.mpr ⟨n, hn, hle⟩
    simp [hready] at this
  unfold Tail.nextDue at hdue
  cases hp : s.tail.pollDue with
  | none => simp_all
  | some n =>
    cases hs : s.tail.settleDue with
    | none => simp_all
    | some k =>
      simp only [hp, hs, Option.merge_some_some, Option.some.injEq] at hdue
      have := hpoll n hp
      have := hsettle k hs
      omega

/-- Whatever a session does when it is waited for is one of its runs. -/
theorem Run.step {allowed : Move → Prop} {s : Session} (htail : ∀ m, allowed (.tail m))
    (hadvance : ∀ n, allowed (.advance n)) (limit : Nat)
    : Run allowed s (s.step limit).2 := by
  have hpoll := Run.poll (s := s) htail
  unfold Session.step
  split
  . next u hu =>
    rw [hu] at hpoll
    split
    . next due hdue =>
      split
      . have hlt := lt_nextDue (ready_of_poll_pending hu) hdue
        have hnow : { u with now := due } = u.advance (due - u.now) := by
          unfold Session.advance
          congr
          omega
        rw [hnow]
        exact (hpoll.trans (Run.advance hadvance _)).trans (Run.poll htail)
      . exact hpoll.trans (Run.advance hadvance limit)
    . exact hpoll.trans (Run.advance hadvance limit)
  . exact hpoll

end RangeTail.Session
