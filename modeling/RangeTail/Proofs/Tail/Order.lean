import RangeTail.Proofs.Tail.Snapshot

/-!
This module contains the order that a tail keeps among its request, its clocks, its instruction and
its view, from the moment on at which it begins to work until it is cancelled. The request and the
clock of the next one exclude each other, no instruction is left behind, a log that is followed is
always waited for, and nothing stirs for one that is not.
-/

namespace RangeTail.Tail

/-- Neither the view is kept at its bottom nor is its scrolling listened for. -/
def LeavesView (t : Tail) : Prop :=
  ∀ pin ∈ t.pin, pin.isArmed = false ∧ pin.isStuck = false

/-- Nothing moves the view of a log that is not followed. -/
def Rests (t : Tail) : Prop :=
  t.snapshot.follow = false → t.settleDue = none ∧ t.LeavesView

structure Orderly (t : Tail) : Prop where
  alone : t.isFetching → t.pollDue = none
  waiting : t.pending.isSome → t.isFetching
  lively : t.snapshot.follow → t.isFetching ∨ t.isPolling
  quiet : t.snapshot.follow = false → t.pollDue = none
  rests : t.Rests

variable {t u : Tail} {now : Nat}

/-! The request -/

theorem start_of_none (h : t.inFlight = none)
    : t.start now =
      { t with
        pollDue := none
        pending := none
        inFlight := some
          { range := nextRange t.snapshot t.pending t.config.chunkSize, started := now } } := by
  unfold start
  simp only [h]

theorem start_of_some {f : InFlight} (h : t.inFlight = some f)
    : t.start now = { t with pollDue := none } := by
  unfold start
  simp only [h]

theorem start_isFetching : (t.start now).isFetching := by
  cases h : t.inFlight with
  | none =>
    rw [start_of_none h]
    rfl
  | some f =>
    rw [start_of_some h]
    simp [isFetching, h]

theorem start_pollDue : (t.start now).pollDue = none := by
  unfold start
  split <;> rfl

theorem start_rests (h : t.Rests) : (t.start now).Rests := by
  unfold start
  split <;> exact h

theorem start_orderly (h : t.Rests) : (t.start now).Orderly where
  alone _ := start_pollDue
  waiting _ := start_isFetching
  lively _ := .inl start_isFetching
  quiet _ := start_pollDue
  rests := start_rests h

theorem direct_orderly (h : t.Rests) (d : Option Directive) : (t.direct now d).Orderly := by
  unfold direct
  apply start_orderly
  exact h

theorem rests_of_follow (h : t.snapshot.follow = true) : t.Rests := by
  intro hfollow
  rw [h] at hfollow
  contradiction

/-! The view -/

theorem disengage_leavesView : t.disengage.LeavesView := by
  intro pin hpin
  simp only [disengage, Option.mem_def, Option.map_eq_some_iff] at hpin
  obtain ⟨p, _, rfl⟩ := hpin
  exact ⟨rfl, rfl⟩

theorem disengage_orderly (hwaiting : t.pending.isSome → t.isFetching)
    (hfollow : t.snapshot.follow = false)
    : t.disengage.Orderly where
  alone _ := rfl
  waiting := hwaiting
  lively h := by
    rw [disengage_snapshot, hfollow] at h
    contradiction
  quiet _ := rfl
  rests _ := ⟨rfl, disengage_leavesView⟩

/-- Only a pin that is armed can be moved, so the order does not depend on what becomes of it while
the log is followed, or if it is put to rest. -/
theorem Orderly.withPin (h : t.Orderly) {pin : Option Scroll.Pin}
    (hpin : t.snapshot.follow = false → ({ t with pin } : Tail).LeavesView)
    : ({ t with pin } : Tail).Orderly where
  alone := h.alone
  waiting := h.waiting
  lively := h.lively
  quiet := h.quiet
  rests hfollow := ⟨(h.rests hfollow).1, hpin hfollow⟩

theorem Orderly.mapView (h : t.Orderly) (change : Scroll.View → Scroll.View)
    : (t.mapView change).Orderly := by
  apply h.withPin
  intro hfollow pin hpin
  simp only [Option.mem_def, Option.map_eq_some_iff] at hpin
  obtain ⟨p, hp, rfl⟩ := hpin
  exact (h.rests hfollow).2 p hp

theorem Orderly.drain (h : t.Orderly) : t.drain.Orderly := by
  apply h.withPin
  intro hfollow pin hpin
  simp only [Option.mem_def, Option.map_eq_some_iff] at hpin
  obtain ⟨p, hp, rfl⟩ := hpin
  exact (h.rests hfollow).2 p hp

theorem Orderly.settle (h : t.Orderly) : t.settle.Orderly where
  alone := h.alone
  waiting := h.waiting
  lively := h.lively
  quiet := h.quiet
  rests hfollow := by
    refine ⟨rfl, ?_⟩
    intro pin hpin
    simp only [Tail.settle, Option.mem_def, Option.map_eq_some_iff] at hpin
    obtain ⟨p, hp, rfl⟩ := hpin
    have hp := (h.rests hfollow).2 p hp
    simp [Scroll.Pin.settle, hp.2, hp]

theorem Orderly.noticeScroll (h : t.Orderly) (harmed : t.pin.any (·.isArmed) = true)
    (news : Scroll.News)
    : (t.noticeScroll news).Orderly := by
  cases hpin : t.pin with
  | none => simp [hpin] at harmed
  | some pin =>
    have hfollow : t.snapshot.follow = true := by
      rw [← Bool.not_eq_false]
      intro hfollow
      have := (h.rests hfollow).2 pin hpin
      simp [hpin, this.1] at harmed
    unfold Tail.noticeScroll
    simp only [hpin]
    cases news with
    | closed =>
      apply h.withPin
      simp [hfollow]
    | scrolled =>
      dsimp only
      split
      . apply disengage_orderly
        . exact h.waiting
        . rfl
      . apply h.withPin
        simp [hfollow]

/-! Answers -/

theorem takeIn_rests (h : t.Rests) {request : ByteRange} {latency : Nat}
    {answer : Except Fault Chunk}
    : (t.takeIn now request latency answer).Rests := by
  cases answer with
  | error fault => cases fault <;> exact h
  | ok c =>
    unfold takeIn settleSoon
    dsimp only
    split
    . next hsoon =>
      intro hfollow
      -- A view that is kept at its bottom belongs to a log that is followed.
      obtain ⟨pin, hpin, hstuck⟩ := (Option.any_eq_true _ _).mp hsoon.1
      have := (h hfollow).2 pin hpin
      simp [this.2] at hstuck
    . exact h

theorem takeIn_slots {request : ByteRange} {latency : Nat} {answer : Except Fault Chunk}
    : (t.takeIn now request latency answer).inFlight = t.inFlight
        ∧
      (t.takeIn now request latency answer).pending = t.pending
        ∧
      (t.takeIn now request latency answer).pollDue = t.pollDue := by
  cases answer with
  | error fault => cases fault <;> exact ⟨rfl, rfl, rfl⟩
  | ok c =>
    unfold takeIn settleSoon
    dsimp only
    split <;> exact ⟨rfl, rfl, rfl⟩

theorem pollSoon_orderly (h : t.Orderly) (hpending : t.pending = none)
    : ({ t with inFlight := none }.pollSoon now).Orderly := by
  unfold pollSoon
  dsimp only
  split
  . next hfollow =>
    constructor
    . simp [isFetching]
    . simp [hpending]
    . intro
      right
      rfl
    . intro hquiet
      rw [hfollow] at hquiet
      contradiction
    . exact rests_of_follow hfollow
  . next hfollow =>
    constructor
    . simp [isFetching]
    . simp [hpending]
    . intro hlively
      exact absurd hlively hfollow
    . exact h.quiet
    . exact h.rests

theorem pollSoon_rests (h : t.Rests) : (t.pollSoon now).Rests := by
  unfold pollSoon
  split <;> exact h

theorem answered_follow (s : Snapshot) (request : ByteRange) (latency : Nat)
    (answer : Except Fault Chunk)
    : (s.answered request latency answer).follow = s.follow := by
  cases answer with
  | ok => rfl
  | error fault => cases fault <;> rfl

theorem takeIn_follow {request : ByteRange} {latency : Nat} {answer : Except Fault Chunk}
    : (t.takeIn now request latency answer).snapshot.follow = t.snapshot.follow := by
  rw [takeIn_snapshot, answered_follow]

theorem takeIn_orderly (h : t.Orderly) {request : ByteRange} {latency : Nat}
    {answer : Except Fault Chunk}
    : (t.takeIn now request latency answer).Orderly := by
  obtain ⟨hinFlight, hpending, hpollDue⟩ := @takeIn_slots t now request latency answer
  constructor
  . unfold isFetching
    rw [hinFlight, hpollDue]
    exact h.alone
  . unfold isFetching
    rw [hinFlight, hpending]
    exact h.waiting
  . unfold isFetching isPolling
    rw [hinFlight, hpollDue, takeIn_follow]
    exact h.lively
  . rw [hpollDue, takeIn_follow]
    exact h.quiet
  . exact takeIn_rests h.rests

theorem complete_orderly (h : t.Orderly) (f : InFlight) (answer : Except Fault Chunk)
    : (t.complete now f answer).Orderly := by
  unfold complete startPending
  split
  . apply start_orderly
    apply takeIn_rests
    apply pollSoon_rests
    exact h.rests
  . next hpending =>
    apply takeIn_orderly
    apply pollSoon_orderly h
    rw [takeIn_slots.2.1] at hpending
    unfold pollSoon at hpending
    split at hpending <;> simpa using hpending

/-! Instructions -/

theorem setFollow_orderly (h : t.Orderly) (follow : Bool) : (t.setFollow now follow).Orderly := by
  unfold setFollow
  split
  . exact h
  . dsimp only
    split
    . next hfollow =>
      apply direct_orderly
      exact rests_of_follow hfollow
    . next hfollow =>
      apply disengage_orderly
      . exact h.waiting
      . simp only [Bool.not_eq_true] at hfollow
        exact hfollow

theorem loadPrevious_orderly (h : t.Orderly) : (t.loadPrevious now).Orderly := by
  unfold loadPrevious
  split
  . exact direct_orderly h.rests _
  . exact h

theorem skipToEnd_orderly : (t.skipToEnd now).Orderly := by
  unfold skipToEnd
  dsimp only
  apply direct_orderly
  apply rests_of_follow
  rw [arm_snapshot]
  split
  . assumption
  . rfl

theorem apply_orderly (h : t.Orderly) {c : Command} (hc : c ≠ .cancel)
    : (t.apply now c).Orderly := by
  cases c with
  | follow enabled => exact setFollow_orderly h enabled
  | loadPrevious => exact loadPrevious_orderly h
  | skipToEnd => exact skipToEnd_orderly
  | jumpTo offset => exact direct_orderly h.rests _
  | cancel => exact absurd rfl hc

theorem launch_orderly (h : t.Rests) : (t.launch now).Orderly := by
  unfold launch
  apply start_orderly
  split
  . next hfollow => exact rests_of_follow hfollow
  . exact h

theorem contact_orderly (h : t.Orderly) : t.contact.Orderly := by
  have hfetching : t.contact.isFetching = t.isFetching := Option.isSome_map
  constructor
  . rw [hfetching]
    exact h.alone
  . rw [hfetching]
    exact h.waiting
  . rw [hfetching]
    exact h.lively
  . exact h.quiet
  . exact h.rests

theorem drain_armed : t.drain.pin.any (·.isArmed) = t.pin.any (·.isArmed) := by
  unfold Tail.drain
  cases t.pin <;> rfl

/-- Whatever happens to a tail that is not cancelled, it keeps its order. -/
theorem Orderly.after (h : t.Orderly) {m : Move} (hm : m ≠ .command .cancel)
    (hcan : t.CanHappen m)
    : (t.after now m).Orderly := by
  cases m with
  | launch => exact launch_orderly h.rests
  | start => exact start_orderly h.rests
  | command c =>
    apply apply_orderly h
    intro hc
    rw [hc] at hm
    contradiction
  | contact => exact contact_orderly h
  | view change => exact h.mapView change
  | store change => exact ⟨h.alone, h.waiting, h.lively, h.quiet, h.rests⟩
  | event e =>
    cases e with
    | fetched answer =>
      dsimp only [Tail.after, handle]
      split
      . exact complete_orderly h _ answer
      . exact h
    | poll => exact start_orderly h.rests
    | settle => exact h.settle
    | scrolled news =>
      -- reading the news leaves the pin armed
      apply h.drain.noticeScroll
      rw [drain_armed]
      exact hcan

theorem Prepared.inFlight_eq (h : t.Prepared) : t.inFlight = none := by
  induction h with
  | ofConfig => rfl
  | withView _ _ ih => exact ih
  | withStore _ _ ih => exact ih
  | withOffset _ _ ih => exact ih

theorem Prepared.rests (h : t.Prepared) : t.Rests := by
  induction h with
  | ofConfig => exact fun _ => ⟨rfl, nofun⟩
  | withView view _ ih =>
    intro hfollow
    refine ⟨(ih hfollow).1, ?_⟩
    intro pin hpin
    obtain rfl := Option.some.inj hpin
    exact ⟨rfl, rfl⟩
  | withStore _ _ ih => exact ih
  | withOffset _ _ ih => exact ih

theorem orderly_of_run (ht : t.Prepared) (hrun : Run (· ≠ .command .cancel) (t.launch now) u)
    : u.Orderly := by
  induction hrun with
  | refl => exact launch_orderly ht.rests
  | next _ m _ hm hcan ih => exact ih.after hm hcan

/-! The request on its way -/

/-- The request that is on its way, if there is one, is on its way still. -/
def Keeps (t u : Tail) : Prop :=
  ∀ f, t.inFlight = some f → ∃ g, u.inFlight = some g ∧ g.range = f.range ∧ g.started = f.started

theorem keeps_of_eq (h : u.inFlight = t.inFlight) : t.Keeps u := by
  intro f hf
  exists f
  rw [h]
  exact ⟨hf, rfl, rfl⟩

theorem keeps_start (h : u.inFlight = t.inFlight) : t.Keeps (u.start now) := by
  intro f hf
  exists f
  rw [start_of_some (h.trans hf)]
  exact ⟨h.trans hf, rfl, rfl⟩

theorem keeps_apply {c : Command} (hc : c ≠ .cancel) : t.Keeps (t.apply now c) := by
  cases c with
  | follow enabled =>
    dsimp only [apply]
    unfold setFollow
    split
    . exact keeps_of_eq rfl
    . dsimp only
      split
      . exact keeps_start rfl
      . exact keeps_of_eq rfl
  | loadPrevious =>
    dsimp only [apply]
    unfold loadPrevious
    split
    . exact keeps_start rfl
    . exact keeps_of_eq rfl
  | skipToEnd =>
    dsimp only [apply]
    unfold skipToEnd
    apply keeps_start
    dsimp only [arm]
    split <;> rfl
  | jumpTo offset => exact keeps_start rfl
  | cancel => exact absurd rfl hc

theorem keeps_noticeScroll (news : Scroll.News) : t.Keeps (t.noticeScroll news) := by
  apply keeps_of_eq
  unfold noticeScroll
  split
  . rfl
  . split
    . rfl
    . dsimp only
      split <;> rfl

theorem keeps_after {m : Move} (hm : m ≠ .command .cancel)
    (hanswer : ∀ answer, m ≠ .event (.fetched answer))
    : t.Keeps (t.after now m) := by
  cases m with
  | launch =>
    apply keeps_start
    split <;> rfl
  | start => exact keeps_start rfl
  | command c =>
    apply keeps_apply
    intro hc
    rw [hc] at hm
    contradiction
  | contact =>
    intro f hf
    simp [after, contact, hf]
  | view change => exact keeps_of_eq rfl
  | store change => exact keeps_of_eq rfl
  | event e =>
    cases e with
    | fetched answer => exact absurd rfl (hanswer answer)
    | poll => exact keeps_start rfl
    | settle => exact keeps_of_eq rfl
    | scrolled news => exact keeps_noticeScroll (t := t.drain) news

/--
A tail that has begun to work and is not cancelled never has a request on its way and a clock for
the next one at once, and gives no request up for another. An instruction waits only for the end of
a request. A log that is followed is asked for or will be, and for one that is not no clock runs,
nor is its view kept at the bottom or listened to.
-/
theorem never_races_or_stalls (ht : t.Prepared)
    (hrun : Run (· ≠ .command .cancel) (t.launch now) u)
    : (¬ (u.isFetching ∧ u.isPolling)
        ∧ ∀ (now : Nat) (m : Move), m ≠ .command .cancel →
            (∀ answer, m ≠ .event (.fetched answer)) → u.Keeps (u.after now m))
        ∧
      (u.pending.isSome → u.isFetching)
        ∧
      (u.snapshot.follow → u.isFetching ∨ u.isPolling)
        ∧
      (u.snapshot.follow = false →
        u.hasTimers = false ∧ ∀ pin ∈ u.pin, pin.isArmed = false ∧ pin.isStuck = false) := by
  have horder := orderly_of_run ht hrun
  refine ⟨⟨?_, ?_⟩, horder.waiting, horder.lively, ?_⟩
  . rintro ⟨hfetching, hpolling⟩
    simp [isPolling, horder.alone hfetching] at hpolling
  . intro now m hm hanswer
    exact keeps_after hm hanswer
  . intro hfollow
    have hrests := horder.rests hfollow
    refine ⟨?_, hrests.2⟩
    simp [hasTimers, horder.quiet hfollow, hrests.1]

/-- A request fails, the clock runs out, and a jump is asked for while the next one is on its way. -/
theorem never_races_or_stalls_jump
    : ∃ u, Run (· ≠ .command .cancel)
          (((ofConfig { follow := true } "log").withView {}).launch 0) u
        ∧ u.pending = some (.jump 7)
        ∧ u.isFetching
        ∧ ¬ (u.isFetching ∧ u.isPolling) := by
  let t := (ofConfig { follow := true } "log").withView {}
  have hrefl : Run (· ≠ .command .cancel) (t.launch 0) (t.launch 0) := .refl
  have hrun := hrefl
    |>.next 5 (.event (.fetched (.error .aborted))) nofun rfl
    |>.next 505 (.event .poll) nofun rfl
    |>.next 506 (.command (.jumpTo 7)) nofun trivial
  have horder := never_races_or_stalls (.withView {} (.ofConfig { follow := true } "log")) hrun
  exact ⟨_, hrun, rfl, horder.2.1 rfl, horder.1.1⟩

end RangeTail.Tail
