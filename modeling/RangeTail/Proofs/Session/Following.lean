import RangeTail.Proofs.Session.Run
import RangeTail.Proofs.Tail.Pin

/-!
This module contains the wish to follow a log whose view the user leaves alone. The log is followed and
the view is kept at its bottom until the tail learns of a scrolling while the end of what is shown is
further down than the view. This can be the scrolling that the tail has caused itself: what it learns
says neither who scrolled nor when.
-/

namespace RangeTail

namespace Tail

/-- The user leaves the view alone, which only grows, and wants to go on. -/
def Move.IsHandsOff : Move → Prop
  | .view change => ∃ bottom, change = (·.grow bottom)
  | .command c => c ≠ .follow false ∧ c ≠ .cancel
  | _ => True

/-- The view is kept at its bottom just as long as the log is followed. -/
structure Clings (t : Tail) : Prop where
  isShown : t.pin.isSome
  isSound : t.IsSound
  isOpen : t.IsOpen
  isPinned_eq : t.isPinned = t.snapshot.follow

variable {t u : Tail} {now : Nat} {m : Move}

theorem Move.IsHandsOff.uses (h : m.IsHandsOff) : m.Uses (· ≠ .close) := by
  cases m with
  | view change =>
    obtain ⟨bottom, rfl⟩ := h
    exact ⟨.grow bottom, nofun, rfl⟩
  | _ => trivial

theorem follow_after_eq_false_iff (hfollow : t.snapshot.follow = true) (hm : m.IsHandsOff)
    : (t.after now m).snapshot.follow = false ↔ t.FindsAway m := by
  rw [follow_after]
  cases m with
  | command c =>
    cases c with
    | follow enabled =>
      cases enabled with
      | true => simp [follows, FindsAway]
      | false => exact absurd rfl hm.1
    | cancel => exact absurd rfl hm.2
    | _ => simp [follows, FindsAway, hfollow]
  | event e =>
    cases e with
    | scrolled news => cases news <;> simp [follows, FindsAway, hfollow]
    | _ => simp [follows, FindsAway, hfollow]
  | _ => simp [follows, FindsAway, hfollow]

theorem isPinned_of_pin {pin : Scroll.Pin} (hpin : t.pin = some pin)
    : t.isPinned = pin.isStuck := by
  simp [isPinned, hpin]

theorem isStuck_repins {pin : Scroll.Pin} (hpin : t.pin = some pin)
    (hstuck : pin.isStuck = t.snapshot.follow) (harmed : pin.isStuck = pin.isArmed)
    (hm : m.IsHandsOff) (hcan : t.CanHappen m) (hopen : m ≠ .event (.scrolled .closed))
    : (t.repins m pin).isStuck = t.follows m := by
  cases m with
  | launch =>
    dsimp only [repins, follows]
    split
    . next hfollow => rw [Scroll.Pin.arm_isStuck, hfollow]
    . exact hstuck
  | command c =>
    cases c with
    | follow enabled =>
      cases enabled with
      | true =>
        dsimp only [repins, follows]
        split
        . next hfollow => rw [hfollow]; exact hstuck
        . apply Scroll.Pin.arm_isStuck
      | false => exact absurd rfl hm.1
    | cancel => exact absurd rfl hm.2
    | skipToEnd => apply Scroll.Pin.arm_isStuck
    | _ => exact hstuck
  | event e =>
    cases e with
    | settle =>
      apply Eq.trans _ hstuck
      apply Scroll.Pin.settle_isStuck
    | scrolled news =>
      cases news with
      | closed => contradiction
      | scrolled =>
        have hfollow : t.snapshot.follow = true := by
          rw [← hstuck, harmed]
          simpa [CanHappen, hpin] using hcan
        simp [repins, follows, isAtBottom, hpin, hfollow, Scroll.Pin.onScroll_isStuck,
          Scroll.Pin.drain_isAtBottom]
    | _ => exact hstuck
  | _ => exact hstuck

namespace Clings

theorem ofPrepared (ht : t.Prepared) (hview : t.IsUnheard) (hshown : t.pin.isSome)
    (hfollow : t.snapshot.follow = false)
    : t.Clings := by
  obtain ⟨pin, hpin⟩ := Option.isSome_iff_exists.mp hshown
  refine ⟨hshown, ht.isSound hview, hview.isOpen, ?_⟩
  rw [isPinned_of_pin hpin, ht.pin_eq pin hpin]
  exact hfollow.symm

theorem launch (ht : t.Prepared) (hview : t.IsUnheard) (hshown : t.pin.isSome)
    : (t.launch now).Clings := by
  obtain ⟨pin, hpin⟩ := Option.isSome_iff_exists.mp hshown
  have hafter : (t.launch now).pin = some (t.repins .launch pin) := by
    rw [launch_pin, hpin]
    rfl
  refine ⟨by simp [hafter], ?_, ?_, ?_⟩
  . exact (ht.isSound hview).after (m := .launch) trivial trivial
  . exact hview.isOpen.after (m := .launch) trivial trivial
  . rw [isPinned_of_pin hafter]
    have hfresh := ht.pin_eq pin hpin
    dsimp only [repins]
    split
    . next hfollow => simp [Scroll.Pin.arm_isStuck, hfollow]
    . next hfollow => rw [hfresh]; simp [hfollow]

theorem after (h : t.Clings) (hm : m.IsHandsOff) (hcan : t.CanHappen m)
    (hopen : m ≠ .event (.scrolled .closed))
    : (t.after now m).Clings := by
  obtain ⟨pin, hpin⟩ := Option.isSome_iff_exists.mp h.isShown
  have hafter : (t.after now m).pin = some (t.repins m pin) := by
    rw [pin_after, hpin]
    rfl
  refine ⟨by simp [hafter], ?_, ?_, ?_⟩
  . exact h.isSound.after (hm.uses.mono fun _ _ => trivial) hcan
  . exact h.isOpen.after hm.uses hcan
  . rw [isPinned_of_pin hafter, follow_after]
    apply isStuck_repins hpin _ (h.isSound pin hpin).stuck hm hcan hopen
    rw [← isPinned_of_pin hpin]
    exact h.isPinned_eq

end Clings
end Tail

namespace Session

/-- The user leaves the view alone, which only grows, and wants to go on. -/
def Move.IsHandsOff : Move → Prop
  | .tail m => m.IsHandsOff
  | _ => True

/-- A scrolling is learnt of when the view is not at its bottom. -/
def FindsAway (s : Session) : Move → Prop
  | .tail m => s.tail.FindsAway m
  | _ => False

variable {s u : Session} {m : Move}

theorem ne_closed_of_isOpen (h : s.tail.IsOpen) (hcan : s.CanHappen m)
    : m ≠ .tail (.event (.scrolled .closed)) := by
  rintro rfl
  have hnews := scrolled_mem_ready.mp hcan
  simp only [Tail.scrollNews?, Scroll.Pin.news?, Option.bind_eq_some_iff] at hnews
  obtain ⟨pin, hpin, listener, _, hclosed⟩ := hnews
  exact Scroll.View.news?_ne_closed (h pin hpin) listener hclosed

theorem clings_after (h : s.tail.Clings) (hm : m.IsHandsOff) (hcan : s.CanHappen m)
    : (s.after m).tail.Clings := by
  cases m with
  | tail m =>
    rw [after_tail]
    apply h.after hm (canHappen_tail hcan)
    rintro rfl
    exact ne_closed_of_isOpen h.isOpen hcan rfl
  | _ => exact h

theorem clings_of_run (h : s.tail.Clings) (hrun : Run (·.IsHandsOff) s u) : u.tail.Clings := by
  induction hrun with
  | refl => exact h
  | next m _ hm hcan ih => exact clings_after ih hm hcan

theorem follow_after_eq_false_iff (hfollow : s.tail.snapshot.follow = true) (hm : m.IsHandsOff)
    : (s.after m).tail.snapshot.follow = false ↔ s.FindsAway m := by
  cases m with
  | tail m =>
    rw [after_tail]
    exact Tail.follow_after_eq_false_iff hfollow hm
  | _ => simp [after, advance, FindsAway, hfollow]

/-- A log that is not followed any more was let go of by a scrolling that was learnt of too late. -/
theorem findsAway_of_run (hrun : Run (·.IsHandsOff) s u) (hfollow : s.tail.snapshot.follow = true)
    (hlost : u.tail.snapshot.follow = false)
    : ∃ v m, Run (·.IsHandsOff) s v ∧ v.tail.snapshot.follow = true ∧ m.IsHandsOff ∧ v.CanHappen m
        ∧ v.FindsAway m ∧ Run (·.IsHandsOff) (v.after m) u := by
  induction hrun with
  | refl =>
    rw [hfollow] at hlost
    contradiction
  | @next v m hrun hm hcan ih =>
    cases hv : v.tail.snapshot.follow with
    | true =>
      have haway := (follow_after_eq_false_iff hv hm).mp hlost
      exact ⟨v, m, hrun, hv, hm, hcan, haway, .refl⟩
    | false =>
      obtain ⟨w, m', hw, hwfollow, hm', hcan', haway, hrest⟩ := ih hv
      exact ⟨w, m', hw, hwfollow, hm', hcan', haway, hrest.next m hm hcan⟩

/--
The log is shown in a view that the user leaves alone, by a tail that has begun to work or has yet to be
told to follow. While the log is followed the view is kept at its bottom, and the next thing that happens
ends that if and only if the tail learns with it of a scrolling when the view is not at its bottom;
whenever that has ended, such a thing has happened.
-/
theorem follow_lost_iff {t : Tail} (ht : t.Prepared) (hview : t.IsUnheard) (hshown : t.pin.isSome)
    {b : Tail} {source : MemorySource} {now : Nat}
    (hbegin : b = t.launch now ∨ (b = t ∧ t.snapshot.follow = false))
    (hs : Run (·.IsHandsOff) ⟨b, source, now⟩ s)
    (hfollow : s.tail.snapshot.follow = true)
    : s.tail.isPinned = true
        ∧ (∀ m : Move, m.IsHandsOff → s.CanHappen m →
            ((s.after m).tail.snapshot.follow = false ↔ s.FindsAway m)
              ∧ ((s.after m).tail.isPinned = false ↔ s.FindsAway m))
        ∧ ∀ u, Run (·.IsHandsOff) s u → u.tail.snapshot.follow = false →
            ∃ v m, Run (·.IsHandsOff) s v ∧ v.tail.isPinned = true ∧ v.CanHappen m ∧ v.FindsAway m
              ∧ Run (·.IsHandsOff) (v.after m) u := by
  have hbegun : b.Clings := by
    rcases hbegin with rfl | ⟨rfl, hfollow⟩
    . exact .launch ht hview hshown
    . exact .ofPrepared ht hview hshown hfollow
  have hclings := clings_of_run hbegun hs
  refine ⟨hclings.isPinned_eq.trans hfollow, ?_, ?_⟩
  . intro m hm hcan
    have hiff := follow_after_eq_false_iff hfollow hm
    constructor
    . exact hiff
    . rw [(clings_after hclings hm hcan).isPinned_eq]
      exact hiff
  . intro u hu hlost
    obtain ⟨v, m, hv, hvfollow, _, hcan, haway, hrest⟩ := findsAway_of_run hu hfollow hlost
    exact ⟨v, m, hv, (clings_of_run hclings hv).isPinned_eq.trans hvfollow, hcan, haway, hrest⟩

/-- The scrolling that the tail has caused itself is learnt of when more is shown already. -/
theorem follow_lost_iff_echo
    : let t := (Tail.ofConfig { chunkSize := 8, follow := true } "log").withView {}
      let source : MemorySource := { log := ⟨[97, 98, 99, 10]⟩ }
      let s := [.tail .contact, .tail (.event (.fetched (.ok ⟨0, [97, 98, 99, 10], 4⟩))),
        .tail (.view (·.grow 10)), .advance 16, .tail (.event .settle)].foldl after
          ⟨t.launch 0, source, 0⟩
      let echo : Move := .tail (.event (.scrolled .scrolled))
      s.tail.isPinned = true
        ∧ (s.after echo).tail.isPinned = true
        ∧ ((s.after (.tail (.view (·.grow 20)))).after echo).tail.snapshot.follow = false := by
  intro t source s echo
  have hrefl (s : Session) : Run (·.IsHandsOff) s s := .refl
  have ht : t.Prepared := .withView _ (.ofConfig _ _)
  have hview : t.IsUnheard := Tail.isUnheard_withView rfl
  have hs : Run (·.IsHandsOff) ⟨t.launch 0, source, 0⟩ s := hrefl _
    |>.next (.tail .contact) trivial trivial
    |>.next (.tail (.event (.fetched (.ok ⟨0, [97, 98, 99, 10], 4⟩)))) trivial
      (fetched_mem_ready.mpr ⟨_, rfl, rfl, rfl⟩)
    |>.next (.tail (.view (·.grow 10))) ⟨10, rfl⟩ trivial
    |>.next (.advance 16) trivial trivial
    |>.next (.tail (.event .settle)) trivial
      (settle_mem_ready.mpr ⟨16, by decide +kernel, by decide +kernel⟩)
  have hu := hs.next (.tail (.view (·.grow 20))) ⟨20, rfl⟩ trivial
  have hecho : s.CanHappen echo := scrolled_mem_ready.mpr (by decide +kernel)
  have hlate : (s.after (.tail (.view (·.grow 20)))).CanHappen echo :=
    scrolled_mem_ready.mpr (by decide +kernel)
  obtain ⟨hpinned, hstep, _⟩ :=
    follow_lost_iff ht hview rfl (.inl rfl) hs (by decide +kernel)
  obtain ⟨_, hstep', _⟩ := follow_lost_iff ht hview rfl (.inl rfl) hu (by decide +kernel)
  have hkept : ¬ s.FindsAway echo := by
    unfold FindsAway Tail.FindsAway
    decide +kernel
  refine ⟨hpinned, ?_, ?_⟩
  . rw [← Bool.not_eq_false, (hstep echo trivial hecho).2]
    exact hkept
  . rw [(hstep' echo trivial hlate).1]
    unfold FindsAway Tail.FindsAway
    decide +kernel

/-- A user who leaves the view alone does not keep what is followed at its bottom: the scrolling that
the tail has caused itself is taken for the user's when the view has grown since. -/
theorem echo_lets_go
    : ¬ ∀ (t : Tail) (source : MemorySource) (now : Nat) (s u : Session), t.Prepared → t.IsUnheard →
        t.pin.isSome → Run (·.IsHandsOff) ⟨t.launch now, source, now⟩ s →
          s.tail.snapshot.follow = true → Run (·.IsHandsOff) s u →
            u.tail.snapshot.follow = true ∧ u.tail.isPinned = true := by
  intro h
  let t := (Tail.ofConfig { chunkSize := 8, follow := true } "log").withView {}
  let s : Session := ⟨t.launch 0, { log := ⟨[97, 98, 99, 10]⟩ }, 0⟩
  have hrefl (s : Session) : Run (·.IsHandsOff) s s := .refl
  have hview : t.IsUnheard := Tail.isUnheard_withView rfl
  have hu := hrefl s
    |>.next (.tail .contact) trivial trivial
    |>.next (.tail (.event (.fetched (.ok ⟨0, [97, 98, 99, 10], 4⟩)))) trivial
      (fetched_mem_ready.mpr ⟨_, rfl, rfl, rfl⟩)
    |>.next (.tail (.view (·.grow 10))) ⟨10, rfl⟩ trivial
    |>.next (.advance 16) trivial trivial
    |>.next (.tail (.event .settle)) trivial
      (settle_mem_ready.mpr ⟨16, by decide +kernel, by decide +kernel⟩)
    |>.next (.tail (.view (·.grow 20))) ⟨20, rfl⟩ trivial
    |>.next (.tail (.event (.scrolled .scrolled))) trivial
      (scrolled_mem_ready.mpr (by decide +kernel))
  have hfollow := h t _ 0 s _ (.withView _ (.ofConfig _ _)) hview rfl .refl rfl hu
  revert hfollow
  decide +kernel

end Session
end RangeTail
