import RangeTail.Proofs.Actor.Run
import RangeTail.Proofs.Store.Values

/-!
This module contains the end of a tail's work. A tail that was cancelled keeps what it learnt and nothing
else, and nothing that comes about by itself can stir it any more; so one that works by itself stands
still for good as soon as it has taken a command to cancel, or nobody can send it commands.
-/

namespace RangeTail

namespace Tail

/-- There is nothing that the tail waits for. -/
structure IsOver (t : Tail) : Prop where
  inFlight : t.inFlight = none
  pending : t.pending = none
  pollDue : t.pollDue = none
  settleDue : t.settleDue = none
  leavesView : t.LeavesView

/-- The work of `t` has ended with `u`: nothing of it is left but what was learnt. -/
structure EndsWith (t u : Tail) : Prop where
  isOver : u.IsOver
  snapshot : u.snapshot = t.snapshot
  published : u.published = t.published
  unheard : ∀ pin ∈ u.pin, pin.view.liveListeners = 0
  forgotten : ∀ p ∈ u.offsetParam, p.value? = none

variable {t u : Tail}

theorem isOver_cancel : t.cancel.IsOver where
  inFlight := rfl
  pending := rfl
  pollDue := rfl
  settleDue := rfl
  leavesView := disengage_leavesView

theorem cancel_cancel : t.cancel.cancel = t.cancel := by
  unfold cancel disengage
  simp [Function.comp_def, Scroll.Pin.disarm_disarm, OffsetParam.clear_clear]

theorem IsSound.endsWith_cancel (h : t.IsSound) : t.EndsWith t.cancel where
  isOver := isOver_cancel
  snapshot := rfl
  published := rfl
  unheard := by
    intro pin hpin
    obtain ⟨p, hp, rfl⟩ := Option.map_eq_some_iff.mp hpin
    exact (h p hp).disarm.liveListeners_of_not_armed rfl
  forgotten := by
    intro p hp
    obtain ⟨q, _, rfl⟩ := Option.map_eq_some_iff.mp hp
    apply OffsetParam.value?_clear

theorem IsOver.mapView (h : t.IsOver) (change : Scroll.View → Scroll.View)
    : (t.mapView change).IsOver where
  inFlight := h.inFlight
  pending := h.pending
  pollDue := h.pollDue
  settleDue := h.settleDue
  leavesView := by
    intro pin hpin
    obtain ⟨p, hp, rfl⟩ := Option.map_eq_some_iff.mp hpin
    exact h.leavesView p hp

theorem IsOver.mapStore (h : t.IsOver) (change : QueryStore → QueryStore)
    : (t.mapStore change).IsOver :=
  ⟨h.inFlight, h.pending, h.pollDue, h.settleDue, h.leavesView⟩

end Tail

namespace Session

/-- The work has ended, and since `s` nothing was asked for, answered or shown to the observers. -/
structure StandsStill (s u : Session) : Prop where
  isOver : u.tail.IsOver
  snapshot : u.tail.snapshot = s.tail.snapshot
  published : u.tail.published = s.tail.published
  requests : u.source.requests = s.source.requests
  completed : u.source.completed = s.source.completed

variable {s u : Session} {m : Move}

theorem ready_of_isOver (h : s.tail.IsOver) : s.ready = [] := by
  have hnews : s.tail.scrollNews? = none := by
    unfold Tail.scrollNews?
    cases hpin : s.tail.pin with
    | none => rfl
    | some pin =>
      have harmed := (h.leavesView pin hpin).1
      simp only [Scroll.Pin.isArmed, Option.isSome_eq_false_iff, Option.isNone_iff_eq_none] at harmed
      simp [Scroll.Pin.news?, harmed]
  simp [ready, h.inFlight, h.pollDue, h.settleDue, hnews]

theorem drop_requests (f : Fetch) (source : MemorySource)
    : (f.drop source).requests = source.requests ∧ (f.drop source).completed = source.completed := by
  unfold Fetch.drop
  split <;> exact ⟨rfl, rfl⟩

theorem standsStill_cancel (s : Session) : s.StandsStill (s.apply .cancel) := by
  refine ⟨Tail.isOver_cancel, rfl, rfl, ?_, ?_⟩
  all_goals
    dsimp only [apply]
    split
    . simp [drop_requests]
    . rfl

/-- Nothing that comes about by itself stirs a session that stands still. -/
theorem StandsStill.after (h : s.StandsStill u) (hm : m.isAmbient) (hcan : u.CanHappen m)
    : s.StandsStill (u.after m) := by
  cases m with
  | tail m =>
    cases m with
    | launch => contradiction
    | start => contradiction
    | command c => contradiction
    | event e =>
      have hready : e ∈ u.ready := hcan
      rw [ready_of_isOver h.isOver] at hready
      contradiction
    | contact =>
      have hcontact : u.contact = u := by
        unfold contact
        rw [h.isOver.inFlight]
      dsimp only [Session.after]
      rw [hcontact]
      exact h
    | view change =>
      exact ⟨h.isOver.mapView change, h.snapshot, h.published, h.requests, h.completed⟩
    | store change =>
      exact ⟨h.isOver.mapStore change, h.snapshot, h.published, h.requests, h.completed⟩
  | _ => exact ⟨h.isOver, h.snapshot, h.published, h.requests, h.completed⟩

end Session

namespace Actor

/-- The tail has stopped, reads no command any more, and stands still since `s`. -/
structure HasStopped (s : Session) (a : Actor) : Prop where
  stopped : a.isStopped = true
  mailbox : a.mailbox = []
  still : s.StandsStill a.session

/-- The next thing that is taken ends the work. -/
def IsLast (a : Actor) : Prop :=
  a.mailbox = [] ∨ a.mailbox.head? = some .cancel

variable {allowed : Move → Prop} {s : Session} {a b : Actor}

theorem take_of_isLast (h : a.IsLast) : a.take = a.stop := by
  unfold IsLast at h
  unfold take
  split
  . rfl
  . rfl
  . next c rest hcancel hmailbox =>
    simp only [hmailbox, List.cons_ne_nil, List.head?_cons, Option.some.injEq, false_or] at h
    exact absurd h hcancel

theorem HasStopped.after (h : HasStopped s a) {m : Move} (hcan : a.CanHappen m)
    : HasStopped s (a.after m) := by
  cases m with
  | send c =>
    have hsend : a.send c = a := if_pos h.stopped
    dsimp only [Actor.after]
    rw [hsend]
    exact h
  | addHandle => exact ⟨h.stopped, h.mailbox, h.still⟩
  | dropHandle => exact ⟨h.stopped, h.mailbox, h.still⟩
  | take =>
    have := hcan.1
    rw [h.stopped] at this
    contradiction
  | session m => exact ⟨h.stopped, h.mailbox, h.still.after hcan.1 hcan.2⟩

theorem hasStopped_of_run (h : HasStopped s a) (hrun : Run allowed a b) : HasStopped s b := by
  induction hrun with
  | refl => exact h
  | next m _ _ hcan ih => exact ih.after hcan

/--
To cancel a tail that is shown in a view to which nobody listens, whatever has happened to it, ends all
its work, and leaves what it learnt; to cancel it again changes nothing. One that works by itself ends
like this with the first command to cancel that it takes, or when it learns that nobody can send
commands any more. Whatever happens then, it takes no command, hears of no answer, asks for nothing and
shows nothing to its observers.
-/
theorem teardown_is_final {t : Tail} (ht : t.Prepared) (hview : t.IsUnheard)
    : (∀ u, Tail.Run (·.Uses fun _ => True) t u →
          u.EndsWith u.cancel ∧ u.cancel.cancel = u.cancel)
        ∧
      ∀ source now a, Run (·.Uses fun _ => True) (ofSession ⟨t, source, now⟩) a →
        a.CanHappen .take → a.IsLast →
          a.session.tail.EndsWith (a.after .take).session.tail
            ∧ ∀ b, Run (·.Uses fun _ => True) (a.after .take) b →
                HasStopped a.session b ∧ b.session.ready = [] := by
  have hends : ∀ u, Tail.Run (·.Uses fun _ => True) t u → u.EndsWith u.cancel := by
    intro u hu
    exact (Tail.isSound_of_run (fun _ => id) (ht.isSound hview) hu).endsWith_cancel
  constructor
  . intro u hu
    exact ⟨hends u hu, Tail.cancel_cancel⟩
  intro source now a ha hcan hlast
  have htake : (a.after .take).session = a.session.apply .cancel := by
    dsimp only [after]
    rw [take_of_isLast hlast]
    rfl
  constructor
  . rw [htake]
    apply hends
    have hlaunch : Tail.Run (·.Uses fun _ => True) t (t.launch now) :=
      .next now .launch .refl trivial trivial
    have hsession : Session.Run (·.Uses fun _ => True) _ a.session :=
      ha.session (fun _ => trivial) fun _ => id
    exact hlaunch.trans hsession.tail
  . intro b hb
    have hstopped : HasStopped a.session (a.after .take) := by
      refine ⟨?_, ?_, ?_⟩
      . dsimp only [after]
        rw [take_of_isLast hlast]
        rfl
      . dsimp only [after]
        rw [take_of_isLast hlast]
        rfl
      . rw [htake]
        exact a.session.standsStill_cancel
    have hb := hasStopped_of_run hstopped hb
    exact ⟨hb, Session.ready_of_isOver hb.still.isOver⟩

/-- The command to cancel is taken while a jump is under way, and more is sent and written after it. -/
theorem teardown_is_final_under_way
    : let t := ((Tail.ofConfig { chunkSize := 2, follow := true } "log").withView
          { bottom := 5 }).withStore
        (.memory [("offset", "1"), ("view", "raw")])
      let a := [.session (.tail .contact), .session (.tail (.event (.fetched (.ok ⟨1, [98, 99], 3⟩)))),
        .send (.jumpTo 0), .send .cancel, .send .skipToEnd, .take, .session (.tail .contact)].foldl after
          (ofSession ⟨t, { log := ⟨[97, 98, 99]⟩ }, 0⟩)
      let b := [.send .skipToEnd, .session (.append [100]), .session (.advance 500),
        .session (.tail .contact)].foldl after (a.after .take)
      a.session.tail.isFetching
        ∧ a.session.tail.hasTimers
        ∧ a.mailbox = [.cancel, .skipToEnd]
        ∧ a.session.tail.EndsWith (a.after .take).session.tail
        ∧ (a.after .take).session.tail.offsetParam = some ⟨.memory [("view", "raw")], "offset"⟩
        ∧ a.session.tail.cancel.cancel = a.session.tail.cancel
        ∧ HasStopped a.session b
        ∧ b.session.source.requests = [.span 1 3, .span 0 0] := by
  intro t a b
  have hrefl (a : Actor) : Run (·.Uses fun _ => True) a a := .refl
  have ht : t.Prepared := .withStore _ (.withView _ (.ofConfig _ _))
  have hview : t.IsUnheard :=
    Tail.isUnheard_withView (t := .ofConfig { chunkSize := 2, follow := true } "log") rfl
  have ha : Run (·.Uses fun _ => True) (ofSession ⟨t, { log := ⟨[97, 98, 99]⟩ }, 0⟩) a := hrefl _
    |>.next (.session (.tail .contact)) trivial ⟨rfl, trivial⟩
    |>.next (.session (.tail (.event (.fetched (.ok ⟨1, [98, 99], 3⟩))))) trivial
      ⟨rfl, Session.fetched_mem_ready.mpr ⟨_, rfl, rfl, rfl⟩⟩
    |>.next (.send (.jumpTo 0)) trivial (by exact Nat.one_pos)
    |>.next (.send .cancel) trivial (by exact Nat.one_pos)
    |>.next (.send .skipToEnd) trivial (by exact Nat.one_pos)
    |>.next .take trivial ⟨rfl, by simp [after, send, ofSession]⟩
    |>.next (.session (.tail .contact)) trivial ⟨rfl, trivial⟩
  have hb : Run (·.Uses fun _ => True) (a.after .take) b := hrefl _
    |>.next (.send .skipToEnd) trivial (by exact Nat.one_pos)
    |>.next (.session (.append [100])) trivial ⟨rfl, trivial⟩
    |>.next (.session (.advance 500)) trivial ⟨rfl, trivial⟩
    |>.next (.session (.tail .contact)) trivial ⟨rfl, trivial⟩
  have hcan : a.CanHappen .take := ⟨by decide +kernel, fun h => absurd h (by decide +kernel)⟩
  have hlast : a.IsLast := .inr (by decide +kernel)
  obtain ⟨hends, hstands⟩ := teardown_is_final ht hview
  obtain ⟨hend, hstop⟩ := hstands _ _ a ha hcan hlast
  have hrun : Tail.Run (·.Uses fun _ => True) t a.session.tail := by
    have hsession : Session.Run (·.Uses fun _ => True) _ a.session :=
      ha.session (fun _ => trivial) fun _ => id
    exact (Tail.Run.next 0 .launch .refl trivial trivial).trans hsession.tail
  exact ⟨by decide +kernel, by decide +kernel, by decide +kernel, hend, by decide +kernel,
    (hends _ hrun).2, (hstop b hb).1, by decide +kernel⟩

end Actor
end RangeTail
