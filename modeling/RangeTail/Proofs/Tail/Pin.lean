import RangeTail.Proofs.Scroll.Pin
import RangeTail.Proofs.Tail.Order

/-!
This module contains what becomes of the view that a log is shown in, and of the wish to follow the log:
two equations that say for each thing that can happen what it does to them. From them follows that a
tail never listens to its view more than once, and that it does so exactly as long as it keeps the view
at its bottom.
-/

namespace RangeTail.Tail

/-- What a move does to the pin. -/
def repins (t : Tail) : Move → Scroll.Pin → Scroll.Pin
  | .launch => if t.snapshot.follow then .arm else id
  | .command (.follow enabled) =>
    if enabled = t.snapshot.follow then id else if enabled then .arm else .disarm
  | .command .skipToEnd => .arm
  | .command .cancel => .disarm
  | .event .settle => .settle
  | .event (.scrolled .scrolled) => fun p => p.drain.onScroll
  | .event (.scrolled .closed) => fun p => p.drain.disarm
  | .view change => fun p => { p with view := change p.view }
  | _ => id

/-- The view is at its bottom, if the log is shown in one. -/
def isAtBottom (t : Tail) : Bool :=
  t.pin.all (·.view.isAtBottom)

/-- Whether the log is followed after a move. -/
def follows (t : Tail) : Move → Bool
  | .command (.follow enabled) => enabled
  | .command .skipToEnd => true
  | .event (.scrolled .scrolled) => t.snapshot.follow && t.isAtBottom
  | _ => t.snapshot.follow

/-- A scrolling is learnt of when the view is not at its bottom. -/
def FindsAway (t : Tail) : Move → Prop
  | .event (.scrolled .scrolled) => t.isAtBottom = false
  | _ => False

variable {t u : Tail} {now : Nat} {m : Move}

/-! The pin -/

theorem start_pin : (t.start now).pin = t.pin := by
  unfold start
  split <;> rfl

theorem launch_pin : (t.launch now).pin = t.pin.map (t.repins .launch) := by
  unfold launch
  rw [start_pin]
  dsimp only [repins]
  split
  . rfl
  . simp

theorem setFollow_pin (enabled : Bool)
    : (t.setFollow now enabled).pin = t.pin.map (t.repins (.command (.follow enabled))) := by
  unfold setFollow
  dsimp only [repins]
  split
  . simp
  . split
    . apply start_pin
    . rfl

theorem loadPrevious_pin : (t.loadPrevious now).pin = t.pin := by
  unfold loadPrevious
  split
  . apply start_pin
  . rfl

theorem skipToEnd_pin : (t.skipToEnd now).pin = t.pin.map .arm := by
  unfold skipToEnd
  apply start_pin.trans
  dsimp only [arm]
  split <;> rfl

theorem takeIn_pin {request : ByteRange} {latency : Nat} {answer : Except Fault Chunk}
    : (t.takeIn now request latency answer).pin = t.pin := by
  cases answer with
  | error fault => cases fault <;> rfl
  | ok c =>
    unfold takeIn settleSoon
    dsimp only
    split <;> rfl

theorem pollSoon_pin : (t.pollSoon now).pin = t.pin := by
  unfold pollSoon
  split <;> rfl

theorem startPending_pin : (t.startPending now).pin = t.pin := by
  unfold startPending
  split
  . apply start_pin
  . rfl

theorem complete_pin {f : InFlight} {answer : Except Fault Chunk}
    : (t.complete now f answer).pin = t.pin := by
  unfold complete
  rw [startPending_pin, takeIn_pin, pollSoon_pin]

theorem noticeScroll_pin (news : Scroll.News)
    : (t.noticeScroll news).pin
        =
      t.pin.map fun p => match news with
        | .scrolled => p.onScroll
        | .closed => p.disarm := by
  unfold noticeScroll
  cases hpin : t.pin with
  | none => simp [hpin]
  | some p =>
    cases news with
    | closed => rfl
    | scrolled =>
      dsimp only
      split
      . next hleft =>
        -- the view is left alone twice here, which is the same as once
        have hstuck : p.onScroll.isStuck = false := by
          simp only [Bool.and_eq_true, Bool.not_eq_true'] at hleft
          exact hleft.1
        dsimp only [disengage, publish]
        rw [Option.map_some, Option.map_some, Scroll.Pin.onScroll_of_not_stuck hstuck,
          Scroll.Pin.disarm_disarm]
      . rfl

theorem pin_after : (t.after now m).pin = t.pin.map (t.repins m) := by
  cases m with
  | launch => apply launch_pin
  | start => simp [after, repins, start_pin]
  | contact => simp [after, repins, Tail.contact]
  | view change => rfl
  | store change => simp [after, repins, mapStore]
  | command c =>
    cases c with
    | follow enabled => apply setFollow_pin
    | loadPrevious => simp [after, apply, repins, loadPrevious_pin]
    | skipToEnd => apply skipToEnd_pin
    | jumpTo offset => simp [after, apply, repins, jumpTo, direct, start_pin]
    | cancel => rfl
  | event e =>
    cases e with
    | fetched answer =>
      dsimp only [after, handle, repins]
      split
      . simp [complete_pin]
      . simp
    | poll => simp [after, handle, repins, start_pin]
    | settle => rfl
    | scrolled news =>
      apply (noticeScroll_pin news).trans
      unfold drain
      cases news <;> simp [repins, Function.comp_def]

/-! The wish to follow -/

theorem noticeScroll_follow (news : Scroll.News)
    : (t.noticeScroll news).snapshot.follow
        =
      (t.snapshot.follow && (news = .closed || t.isAtBottom)) := by
  unfold noticeScroll isAtBottom
  cases t.pin with
  | none => simp
  | some p =>
    cases news with
    | closed => simp
    | scrolled =>
      unfold Scroll.Pin.onScroll
      cases hbottom : p.view.isAtBottom <;> cases hfollow : t.snapshot.follow <;>
        simp [hbottom, hfollow, Scroll.Pin.disarm, Snapshot.withFollow]

theorem drain_isAtBottom : t.drain.isAtBottom = t.isAtBottom := by
  unfold isAtBottom drain
  cases t.pin with
  | none => rfl
  | some p => apply Scroll.Pin.drain_isAtBottom

theorem follow_after : (t.after now m).snapshot.follow = t.follows m := by
  cases m with
  | launch => simp [after, follows]
  | start => simp [after, follows]
  | contact => rfl
  | view change => rfl
  | store change => rfl
  | command c =>
    cases c with
    | follow enabled => simp [after, apply, follows, setFollow_snapshot, Snapshot.withFollow]
    | loadPrevious => simp [after, apply, follows, loadPrevious_snapshot]
    | skipToEnd => simp [after, apply, follows, skipToEnd_snapshot, Snapshot.withFollow]
    | jumpTo offset => simp [after, apply, follows, jumpTo]
    | cancel => rfl
  | event e =>
    cases e with
    | fetched answer =>
      dsimp only [after, handle, follows]
      split
      . rw [complete_snapshot, answered_follow]
      . rfl
    | poll => simp [after, handle, follows]
    | settle => rfl
    | scrolled news =>
      dsimp only [after, handle]
      rw [noticeScroll_follow, drain_isAtBottom]
      cases news <;> simp [drain, follows]

/-! Who listens -/

/-- The view is used by others in the ways that are allowed only. -/
def Move.Uses (allowed : Scroll.View.Use → Prop) : Move → Prop
  | .view change => ∃ u, allowed u ∧ change = (·.use u)
  | _ => True

/-- The pin of a tail that is shown in a view is one that the view can be left by at any time. -/
def IsSound (t : Tail) : Prop :=
  ∀ pin ∈ t.pin, pin.IsSound

/-- The view was not taken away. -/
def IsOpen (t : Tail) : Prop :=
  ∀ pin ∈ t.pin, pin.view.IsOpen

/-- Nobody listens to the view yet. -/
def IsUnheard (t : Tail) : Prop :=
  ∀ pin ∈ t.pin, pin.view.listeners = []

theorem Prepared.pin_eq (h : t.Prepared) : ∀ pin ∈ t.pin, pin = { view := pin.view } := by
  induction h with
  | ofConfig => exact nofun
  | withView view _ ih =>
    intro pin hpin
    obtain rfl := Option.some.inj hpin
    rfl
  | withStore _ _ ih => exact ih
  | withOffset _ _ ih => exact ih

theorem Prepared.isSound (h : t.Prepared) (hview : t.IsUnheard) : t.IsSound := by
  intro pin hpin
  rw [h.pin_eq pin hpin]
  exact Scroll.Pin.isSound_of_view (hview pin hpin)

theorem isUnheard_withView {view : Scroll.View} (hview : view.listeners = [])
    : (t.withView view).IsUnheard := by
  intro pin hpin
  obtain rfl := Option.some.inj hpin
  exact hview

theorem IsUnheard.isOpen (h : t.IsUnheard) : t.IsOpen := by
  intro pin hpin x hx
  rw [h pin hpin] at hx
  contradiction

theorem repins_of_isInvariant {P : Scroll.Pin → Prop} {allowed : Scroll.View.Use → Prop}
    (hP : Scroll.Pin.IsInvariant P allowed) {pin : Scroll.Pin} (h : P pin) (hpin : pin ∈ t.pin)
    (hm : m.Uses allowed) (hcan : t.CanHappen m)
    : P (t.repins m pin) := by
  cases m with
  | launch =>
    dsimp only [repins]
    split
    . exact hP.arm h
    . exact h
  | view change =>
    obtain ⟨u, hu, rfl⟩ := hm
    exact hP.use h hu
  | command c =>
    cases c with
    | follow enabled =>
      dsimp only [repins]
      split
      . exact h
      . split
        . exact hP.arm h
        . exact hP.disarm h
    | skipToEnd => exact hP.arm h
    | cancel => exact hP.disarm h
    | _ => exact h
  | event e =>
    cases e with
    | settle => exact hP.settle h
    | scrolled news =>
      cases news with
      | closed => exact hP.disarm (hP.drain h)
      | scrolled =>
        apply hP.onScroll (hP.drain h)
        simp only [CanHappen, Option.mem_def.mp hpin, Option.any_some] at hcan
        exact hcan
    | _ => exact h
  | _ => exact h

theorem pin_after_of_isInvariant {P : Scroll.Pin → Prop} {allowed : Scroll.View.Use → Prop}
    (hP : Scroll.Pin.IsInvariant P allowed) (h : ∀ pin ∈ t.pin, P pin) (hm : m.Uses allowed)
    (hcan : t.CanHappen m)
    : ∀ pin ∈ (t.after now m).pin, P pin := by
  intro pin hpin
  rw [pin_after, Option.mem_def, Option.map_eq_some_iff] at hpin
  obtain ⟨p, hp, rfl⟩ := hpin
  exact repins_of_isInvariant hP (h p hp) hp hm hcan

theorem IsSound.after (h : t.IsSound) (hm : m.Uses fun _ => True) (hcan : t.CanHappen m)
    : (t.after now m).IsSound :=
  pin_after_of_isInvariant Scroll.Pin.isInvariant_isSound h hm hcan

theorem IsOpen.after (h : t.IsOpen) (hm : m.Uses (· ≠ .close)) (hcan : t.CanHappen m)
    : (t.after now m).IsOpen :=
  pin_after_of_isInvariant Scroll.Pin.isInvariant_isOpen h hm hcan

theorem Move.Uses.mono {allowed wider : Scroll.View.Use → Prop} (h : m.Uses allowed)
    (hle : ∀ u, allowed u → wider u)
    : m.Uses wider := by
  cases m with
  | view change =>
    obtain ⟨u, hu, heq⟩ := h
    exact ⟨u, hle u hu, heq⟩
  | _ => trivial

theorem isSound_of_run {allowed : Move → Prop} (hallowed : ∀ m, allowed m → m.Uses fun _ => True)
    (h : t.IsSound) (hrun : Run allowed t u)
    : u.IsSound := by
  induction hrun with
  | refl => exact h
  | next now m _ hm hcan ih => exact ih.after (hallowed m hm) hcan

theorem isOpen_of_run {allowed : Move → Prop} (hallowed : ∀ m, allowed m → m.Uses (· ≠ .close))
    (h : t.IsOpen) (hrun : Run allowed t u)
    : u.IsOpen := by
  induction hrun with
  | refl => exact h
  | next now m _ hm hcan ih => exact ih.after (hallowed m hm) hcan

end RangeTail.Tail
