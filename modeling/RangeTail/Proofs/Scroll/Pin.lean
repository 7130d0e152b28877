import RangeTail.Scroll.Pin

/-!
This module contains the theory of views that are kept at their bottom: who listens to a view, and what
pinning it and leaving it alone do to that. A pin that is armed is the only one whom the view tells of
its scrolling, and one that is not leaves nothing behind in the view.
-/

namespace RangeTail.Scroll

theorem Channel.isLive_notify (c : Channel) : c.notify.isLive = c.isLive := by
  unfold notify
  split <;> rfl

namespace View

/-- What is done to a view by others than the one who pins it. -/
inductive Use where
  | grow (bottom : Nat)
  | scrollTo (position : Nat)
  | close

def use (v : View) : Use → View
  | .grow bottom => v.grow bottom
  | .scrollTo position => v.scrollTo position
  | .close => v.close

/-- The numbers of those who listen. -/
def listening (v : View) : List Nat :=
  v.listeners.map (·.1)

/-- The view has not been taken away from those who listen. -/
def IsOpen (v : View) : Prop :=
  ∀ x ∈ v.listeners, x.2.isLive = true

variable (v : View)

@[simp]
theorem mapListeners_listening (f : Channel → Channel)
    : (v.mapListeners f).listening = v.listening := by
  simp [mapListeners, listening]

@[simp]
theorem scrollToBottom_listening : v.scrollToBottom.listening = v.listening := by
  unfold scrollToBottom notify
  rw [mapListeners_listening]
  rfl

@[simp]
theorem use_listening (u : Use) : (v.use u).listening = v.listening := by
  cases u with
  | grow => rfl
  | scrollTo => apply mapListeners_listening
  | close => apply mapListeners_listening

@[simp]
theorem drain_listening (listener : Nat) : (v.drain listener).listening = v.listening := by
  simp [drain, listening]

@[simp]
theorem subscribe_listening : v.subscribe.2.listening = v.listening ++ [v.nextListener] := by
  simp [subscribe, listening]

theorem unsubscribe_listening (listener : Nat)
    : (v.unsubscribe listener).listening = v.listening.filter (· ≠ listener) := by
  simp [unsubscribe, listening, List.filter_map, Function.comp_def]

variable {v}

theorem isOpen_mapListeners (h : v.IsOpen) {f : Channel → Channel}
    (hf : ∀ c, c.isLive = true → (f c).isLive = true)
    : (v.mapListeners f).IsOpen := by
  intro x hx
  obtain ⟨y, hy, rfl⟩ := List.mem_map.mp hx
  apply hf
  exact h y hy

theorem isOpen_notify (h : v.IsOpen) : v.notify.IsOpen := by
  apply isOpen_mapListeners h
  simp [Channel.isLive_notify]

theorem isOpen_use (h : v.IsOpen) {u : Use} (hu : u ≠ .close) : (v.use u).IsOpen := by
  cases u with
  | grow => exact h
  | scrollTo => exact isOpen_notify h
  | close => contradiction

theorem isOpen_drain (h : v.IsOpen) (listener : Nat) : (v.drain listener).IsOpen := by
  intro x hx
  obtain ⟨y, hy, rfl⟩ := List.mem_map.mp hx
  have := h y hy
  dsimp only
  split <;> exact this

theorem isOpen_subscribe (h : v.IsOpen) : v.subscribe.2.IsOpen := by
  intro x hx
  simp only [subscribe, List.mem_append, List.mem_singleton] at hx
  rcases hx with hold | rfl
  . exact h x hold
  . rfl

theorem isOpen_unsubscribe (h : v.IsOpen) (listener : Nat) : (v.unsubscribe listener).IsOpen := by
  intro x hx
  exact h x (List.mem_filter.mp hx).1

theorem liveListeners_of_isOpen (h : v.IsOpen) : v.liveListeners = v.listening.length := by
  unfold liveListeners listening
  rw [List.length_map, List.countP_eq_length]
  exact h

theorem news?_ne_closed (h : v.IsOpen) (listener : Nat) : v.news? listener ≠ some .closed := by
  intro hnews
  obtain ⟨c, hc, hclosed⟩ := Option.bind_eq_some_iff.mp hnews
  have hlive : c.isLive = true := by
    obtain ⟨before, after, heq, _⟩ := List.lookup_eq_some_iff.mp hc
    apply h (listener, c)
    simp [heq]
  unfold Channel.news? at hclosed
  simp only [Channel.isLive, Bool.and_eq_true, decide_eq_true_eq] at hlive
  grind

end View

namespace Pin

/-- The view tells the pin of its scrolling while that is armed, and nobody else; and it is kept at its
bottom just as long. -/
structure IsSound (p : Pin) : Prop where
  listening : p.view.listening = p.listener.toList
  stuck : p.isStuck = p.isArmed

variable {p : Pin}

theorem isSound_of_view {v : View} (h : v.listeners = []) : IsSound { view := v } where
  listening := by simp [View.listening, h]
  stuck := rfl

theorem disarm_disarm : p.disarm.disarm = p.disarm := rfl

theorem disarm_of_not_armed (harmed : p.isArmed = false) (hstuck : p.isStuck = false)
    : p.disarm = p := by
  rcases p with ⟨view, isStuck, listener⟩
  cases listener with
  | none =>
    obtain rfl : isStuck = false := hstuck
    rfl
  | some => contradiction

/-- A pin that the user has left the bottom of is left alone. -/
theorem onScroll_of_not_stuck (h : p.onScroll.isStuck = false) : p.onScroll = p.disarm := by
  unfold onScroll at *
  split at h
  . contradiction
  . next hbottom => rw [if_neg hbottom]

theorem settle_of_not_stuck (h : p.isStuck = false) : p.settle = p := by
  simp [settle, h]

theorem arm_isStuck : p.arm.isStuck = true := by
  unfold arm
  split <;> rfl

theorem onScroll_isStuck : p.onScroll.isStuck = p.view.isAtBottom := by
  unfold onScroll
  split
  . next hbottom => rw [hbottom]
  . next hbottom => rw [Bool.eq_false_iff.mpr hbottom]; rfl

theorem settle_isStuck : p.settle.isStuck = p.isStuck := by
  unfold settle
  split <;> rfl

namespace IsSound

theorem arm (h : p.IsSound) : p.arm.IsSound := by
  have hlistening := h.listening
  unfold Pin.arm
  split
  . constructor
    . simpa using hlistening
    . simp_all [isArmed]
  . constructor
    . next hlistener =>
      rw [View.subscribe_listening, View.scrollToBottom_listening, hlistening, hlistener]
      rfl
    . rfl

theorem disarm (h : p.IsSound) : p.disarm.IsSound := by
  have hlistening := h.listening
  constructor
  . unfold Pin.disarm
    cases hlistener : p.listener with
    | none => simpa [hlistener] using hlistening
    | some listener => simp [View.unsubscribe_listening, hlistening, hlistener]
  . rfl

theorem onScroll (h : p.IsSound) (harmed : p.isArmed = true) : p.onScroll.IsSound := by
  unfold Pin.onScroll
  split
  . exact ⟨h.listening, harmed.symm⟩
  . exact h.disarm

theorem settle (h : p.IsSound) : p.settle.IsSound := by
  unfold Pin.settle
  split
  . exact ⟨by simpa using h.listening, h.stuck⟩
  . exact h

theorem drain (h : p.IsSound) : p.drain.IsSound where
  listening := by
    unfold Pin.drain
    cases hlistener : p.listener with
    | none => simpa [hlistener] using h.listening
    | some listener => simpa [hlistener] using h.listening
  stuck := h.stuck

theorem use (h : p.IsSound) (u : View.Use) : ({ p with view := p.view.use u } : Pin).IsSound where
  listening := by simpa using h.listening
  stuck := h.stuck

/-- Nothing is left behind in a view that is left alone. -/
theorem liveListeners_of_not_armed (h : p.IsSound) (harmed : p.isArmed = false)
    : p.view.liveListeners = 0 := by
  have hlistening := h.listening
  rw [Option.isSome_eq_false_iff.mp harmed |> Option.isNone_iff_eq_none.mp] at hlistening
  unfold View.listening at hlistening
  simp only [Option.toList_none, List.map_eq_nil_iff] at hlistening
  simp [View.liveListeners, hlistening]

theorem liveListeners (h : p.IsSound) (hopen : p.view.IsOpen)
    : p.view.liveListeners = if p.isArmed then 1 else 0 := by
  rw [View.liveListeners_of_isOpen hopen, h.listening]
  unfold isArmed
  cases p.listener <;> rfl

end IsSound

/-! Views that stay open -/

theorem isOpen_arm (h : p.view.IsOpen) : p.arm.view.IsOpen := by
  have hbottom : p.view.scrollToBottom.IsOpen := View.isOpen_notify h
  unfold arm
  split
  . exact hbottom
  . exact View.isOpen_subscribe hbottom

theorem isOpen_disarm (h : p.view.IsOpen) : p.disarm.view.IsOpen := by
  unfold disarm
  cases p.listener with
  | none => exact h
  | some listener => exact View.isOpen_unsubscribe h listener

theorem isOpen_onScroll (h : p.view.IsOpen) : p.onScroll.view.IsOpen := by
  unfold onScroll
  split
  . exact h
  . exact isOpen_disarm h

theorem isOpen_settle (h : p.view.IsOpen) : p.settle.view.IsOpen := by
  unfold settle
  split
  . exact View.isOpen_notify h
  . exact h

theorem isOpen_drain (h : p.view.IsOpen) : p.drain.view.IsOpen := by
  unfold drain
  cases p.listener with
  | none => exact h
  | some listener => exact View.isOpen_drain h listener

theorem drain_isAtBottom : p.drain.view.isAtBottom = p.view.isAtBottom := by
  unfold drain
  cases p.listener <;> rfl

/-! What is kept by all that is done -/

/-- Nothing that is done to a pin ends the property, as long as the view is used by others in the ways
that are allowed. -/
structure IsInvariant (P : Pin → Prop) (allowed : View.Use → Prop) : Prop where
  arm : ∀ {p}, P p → P p.arm
  disarm : ∀ {p}, P p → P p.disarm
  onScroll : ∀ {p}, P p → p.isArmed = true → P p.onScroll
  settle : ∀ {p}, P p → P p.settle
  drain : ∀ {p}, P p → P p.drain
  use : ∀ {p u}, P p → allowed u → P { p with view := p.view.use u }

theorem isInvariant_isSound : IsInvariant IsSound fun _ => True :=
  ⟨.arm, .disarm, .onScroll, .settle, .drain, fun h _ => h.use _⟩

theorem isInvariant_isOpen : IsInvariant (·.view.IsOpen) (· ≠ .close) :=
  ⟨isOpen_arm, isOpen_disarm, fun h _ => isOpen_onScroll h, isOpen_settle, isOpen_drain,
    fun h hu => View.isOpen_use h hu⟩

end Pin
end RangeTail.Scroll
