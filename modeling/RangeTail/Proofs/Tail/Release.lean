import RangeTail.Proofs.Tail.Pin

/-!
This module contains what is left to the user of a view. Once it has been let go of, the tail moves it no
more and does not begin to follow the log by itself, whatever clocks still run and whatever answers are
still to come: somebody has to tell the tail to.
-/

namespace RangeTail

theorem Scroll.View.use_bottomScrolls (v : View) (u : Use)
    : (v.use u).bottomScrolls = v.bottomScrolls := by
  cases u <;> rfl

namespace Tail

/-- Nobody tells the tail to follow the log, or to begin again while it does, and the view stays
there. -/
def Move.IsUncalled (follow : Bool) : Move → Prop
  | .launch => follow = false
  | .command c => c ≠ .follow true ∧ c ≠ .skipToEnd
  | m => m.Uses (· ≠ .close)

/-- The view is let go of: the user is found to have left its bottom, or the tail is told to. -/
def LetsGo (t : Tail) (m : Move) : Prop :=
  t.FindsAway m ∨ m = .command (.follow false) ∨ m = .command .cancel

def Move.isView : Move → Bool
  | .view _ => true
  | _ => false

/-- How often the view was sent to its bottom, if there is one. -/
def bottomScrolls? (t : Tail) : Option Nat :=
  t.pin.map (·.view.bottomScrolls)

/-- Since `t` the view was left to its user, and nothing is followed that was not. -/
structure LeavesUser (t u : Tail) : Prop where
  leavesView : u.LeavesView
  bottomScrolls?_eq : u.bottomScrolls? = t.bottomScrolls?
  follow_of_follow : u.snapshot.follow = true → t.snapshot.follow = true

variable {t u : Tail} {now : Nat} {m : Move}

theorem leavesView_after_iff
    : (t.after now m).LeavesView
        ↔
      ∀ pin ∈ t.pin, (t.repins m pin).isArmed = false ∧ (t.repins m pin).isStuck = false := by
  unfold LeavesView
  rw [pin_after]
  cases t.pin <;> simp

theorem FindsAway.repins_eq (h : t.FindsAway m) {pin : Scroll.Pin} (hpin : pin ∈ t.pin)
    : t.repins m pin = pin.drain.disarm := by
  unfold FindsAway at h
  split at h
  . have haway : pin.drain.view.isAtBottom = false := by
      rw [Scroll.Pin.drain_isAtBottom]
      simpa [isAtBottom, Option.mem_def.mp hpin] using h
    simp [repins, Scroll.Pin.onScroll, haway]
  . contradiction

theorem FindsAway.follow_after (h : t.FindsAway m) : (t.after now m).snapshot.follow = false := by
  rw [Tail.follow_after]
  unfold FindsAway at h
  split at h
  . simp [follows, h]
  . contradiction

/-! The view of a log that is not followed -/

/-- The view of a log that is not followed is left alone, whatever happens. -/
theorem leavesView_after (h : t.snapshot.follow = false → t.LeavesView) (hcan : t.CanHappen m)
    (hfollow : (t.after now m).snapshot.follow = false)
    : (t.after now m).LeavesView := by
  rw [leavesView_after_iff]
  intro pin hpin
  rw [follow_after] at hfollow
  cases m with
  | launch =>
    have hnot : ¬ t.snapshot.follow = true := Bool.eq_false_iff.mp hfollow
    dsimp only [repins]
    rw [if_neg hnot]
    exact h hfollow pin hpin
  | command c =>
    cases c with
    | follow enabled =>
      obtain rfl : enabled = false := hfollow
      dsimp only [repins]
      split
      . next hnot => exact h hnot.symm pin hpin
      . exact ⟨rfl, rfl⟩
    | skipToEnd => contradiction
    | cancel => exact ⟨rfl, rfl⟩
    | _ => exact h hfollow pin hpin
  | event e =>
    cases e with
    | settle =>
      have hloose := h hfollow pin hpin
      dsimp only [repins]
      rw [Scroll.Pin.settle_of_not_stuck hloose.2]
      exact hloose
    | scrolled news =>
      cases news with
      | closed => exact ⟨rfl, rfl⟩
      | scrolled =>
        cases haway : t.isAtBottom with
        | false =>
          have hm : t.FindsAway (.event (.scrolled .scrolled)) := haway
          rw [hm.repins_eq hpin]
          exact ⟨rfl, rfl⟩
        | true =>
          simp only [follows, haway, Bool.and_true] at hfollow
          simp [CanHappen, Option.mem_def.mp hpin, h hfollow pin hpin] at hcan
    | _ => exact h hfollow pin hpin
  | _ => exact h hfollow pin hpin

theorem leavesView_of_run {allowed : Move → Prop} (h : t.snapshot.follow = false → t.LeavesView)
    (hrun : Run allowed t u) (hfollow : u.snapshot.follow = false)
    : u.LeavesView := by
  induction hrun with
  | refl => exact h hfollow
  | next now m _ _ hcan ih => exact leavesView_after ih hcan hfollow

theorem LetsGo.leavesView_after (h : t.LetsGo m) (hrest : t.snapshot.follow = false → t.LeavesView)
    : (t.after now m).LeavesView := by
  rw [leavesView_after_iff]
  intro pin hpin
  rcases h with haway | rfl | rfl
  . rw [haway.repins_eq hpin]
    exact ⟨rfl, rfl⟩
  . dsimp only [repins]
    split
    . next hnot => exact hrest hnot.symm pin hpin
    . exact ⟨rfl, rfl⟩
  . exact ⟨rfl, rfl⟩

/-! What comes after -/

theorem Move.IsUncalled.of_follow {before follow : Bool} (h : m.IsUncalled before)
    (hfollow : follow = true → before = true)
    : m.IsUncalled follow := by
  cases m with
  | launch =>
    obtain rfl : before = false := h
    exact Bool.eq_false_iff.mpr fun hyes => Bool.noConfusion (hfollow hyes)
  | _ => exact h

/-- A view that is left alone is moved by nothing but its user. -/
theorem pin_after_of_leavesView (h : t.LeavesView) (hm : m.IsUncalled t.snapshot.follow)
    (hcan : t.CanHappen m) (hview : m.isView = false)
    : (t.after now m).pin = t.pin := by
  rw [pin_after]
  cases hpin : t.pin with
  | none => rfl
  | some pin =>
    have hloose := h pin hpin
    apply congrArg some
    cases m with
    | launch =>
      have hnot : ¬ t.snapshot.follow = true := Bool.eq_false_iff.mp hm
      dsimp only [repins]
      rw [if_neg hnot]
      rfl
    | view change => contradiction
    | command c =>
      cases c with
      | follow enabled =>
        cases enabled with
        | true => exact absurd rfl hm.1
        | false =>
          dsimp only [repins]
          split
          . rfl
          . exact Scroll.Pin.disarm_of_not_armed hloose.1 hloose.2
      | skipToEnd => exact absurd rfl hm.2
      | cancel => exact Scroll.Pin.disarm_of_not_armed hloose.1 hloose.2
      | _ => rfl
    | event e =>
      cases e with
      | settle => exact Scroll.Pin.settle_of_not_stuck hloose.2
      | scrolled news => simp [CanHappen, hpin, hloose.1] at hcan
      | _ => rfl
    | _ => rfl

theorem follow_of_follow_after {before : Bool} (hm : m.IsUncalled before)
    (h : (t.after now m).snapshot.follow = true)
    : t.snapshot.follow = true := by
  rw [follow_after] at h
  cases m with
  | command c =>
    cases c with
    | follow enabled =>
      obtain rfl : enabled = true := h
      exact absurd rfl hm.1
    | skipToEnd => exact absurd rfl hm.2
    | _ => exact h
  | event e =>
    cases e with
    | scrolled news =>
      cases news with
      | closed => exact h
      | scrolled => exact (Bool.and_eq_true_iff.mp h).1
    | _ => exact h
  | _ => exact h

namespace LeavesUser

theorem refl (h : t.LeavesView) : t.LeavesUser t :=
  ⟨h, rfl, id⟩

theorem after (h : t.LeavesUser u) (hm : m.IsUncalled t.snapshot.follow) (hcan : u.CanHappen m)
    : t.LeavesUser (u.after now m) where
  leavesView := by
    cases hview : m.isView with
    | false =>
      intro pin hpin
      rw [pin_after_of_leavesView h.leavesView (hm.of_follow h.follow_of_follow) hcan hview] at hpin
      exact h.leavesView pin hpin
    | true =>
      cases m with
      | view change =>
        intro pin hpin
        obtain ⟨p, hp, rfl⟩ := Option.map_eq_some_iff.mp hpin
        exact h.leavesView p hp
      | _ => contradiction
  bottomScrolls?_eq := by
    rw [← h.bottomScrolls?_eq]
    unfold bottomScrolls?
    cases hview : m.isView with
    | false =>
      rw [pin_after_of_leavesView h.leavesView (hm.of_follow h.follow_of_follow) hcan hview]
    | true =>
      cases m with
      | view change =>
        obtain ⟨use, _, rfl⟩ := hm
        simp [Tail.after, mapView, Function.comp_def, Scroll.View.use_bottomScrolls]
      | _ => contradiction
  follow_of_follow hfollow := h.follow_of_follow (follow_of_follow_after hm hfollow)

theorem of_run (h : t.LeavesView) (hrun : Run (·.IsUncalled t.snapshot.follow) t u)
    : t.LeavesUser u := by
  induction hrun with
  | refl => exact .refl h
  | next now m _ hm hcan ih => exact ih.after hm hcan

end LeavesUser

/--
In a view that stays there a tail listens once while it keeps the view at its bottom, and not at all
else. From the moment on at which the user is found to have left the bottom, or the tail is told to
follow no more or to stop, the tail leaves the view to its user and does not begin to follow the log,
until it is told to.
-/
theorem never_fights_user (ht : t.Prepared) (hview : t.IsUnheard)
    (hu : Run (·.Uses (· ≠ .close)) t u)
    : (∀ pin ∈ u.pin,
          pin.view.liveListeners = (if pin.isArmed then 1 else 0) ∧ pin.isStuck = pin.isArmed)
        ∧
      ∀ now m, u.LetsGo m → u.CanHappen m →
        (m ≠ .command .cancel → (u.after now m).snapshot.follow = false)
          ∧
        ∀ v, Run (·.IsUncalled (u.after now m).snapshot.follow) (u.after now m) v →
          (u.after now m).LeavesUser v
            ∧ ∀ now' m', m'.IsUncalled v.snapshot.follow → v.CanHappen m' →
                ((v.after now' m').snapshot.follow = true → v.snapshot.follow = true)
                  ∧ (m'.isView = false → (v.after now' m').pin = v.pin) := by
  have hsound : u.IsSound :=
    isSound_of_run (fun _ hm => hm.mono fun _ _ => trivial) (ht.isSound hview) hu
  have hopen : u.IsOpen := isOpen_of_run (fun _ => id) hview.isOpen hu
  have hrest : u.snapshot.follow = false → u.LeavesView := by
    apply leavesView_of_run _ hu
    intro _ pin hpin
    rw [ht.pin_eq pin hpin]
    exact ⟨rfl, rfl⟩
  constructor
  . intro pin hpin
    exact ⟨(hsound pin hpin).liveListeners (hopen pin hpin), (hsound pin hpin).stuck⟩
  intro now m hm hcan
  constructor
  . intro hcancel
    rcases hm with haway | rfl | rfl
    . exact haway.follow_after
    . rw [follow_after]
      rfl
    . contradiction
  intro v hv
  have hleaves := LeavesUser.of_run (hm.leavesView_after hrest) hv
  refine ⟨hleaves, ?_⟩
  intro now' m' hm' hcan'
  exact ⟨follow_of_follow_after hm', pin_after_of_leavesView hleaves.leavesView hm' hcan'⟩

/-- The user leaves the bottom while a request is on its way, and its answer comes. -/
theorem never_fights_user_in_flight
    : let t := (ofConfig { chunkSize := 2, follow := true } "log").withView { bottom := 5 }
      let u := [.launch, .contact, .view (·.use (.scrollTo 2))].foldl (after · 0) t
      let v := [.event (.scrolled .scrolled), .event (.fetched (.ok ⟨1, [98, 99], 3⟩)),
        .view (·.use (.grow 9)), .command (.jumpTo 0)].foldl (after · 0) u
      u.pin.map (·.view.liveListeners) = some 1
        ∧ v.snapshot.follow = false
        ∧ v.bottomScrolls? = some 1
        ∧ v.pin.map (·.view.position) = some 2
        ∧ (v.after 0 (.event (.fetched (.ok ⟨0, [97], 3⟩)))).pin = v.pin := by
  intro t u v
  have hrefl (follow : Bool) (t : Tail) : Run (·.IsUncalled follow) t t := .refl
  have ht : t.Prepared := .withView _ (.ofConfig _ _)
  have hstart : Run (·.Uses (· ≠ .close)) t t := .refl
  have hu : Run (·.Uses (· ≠ .close)) t u := hstart
    |>.next 0 .launch trivial trivial
    |>.next 0 .contact trivial trivial
    |>.next 0 (.view (·.use (.scrollTo 2))) ⟨.scrollTo 2, nofun, rfl⟩ trivial
  obtain ⟨hlisten, hlater⟩ := never_fights_user ht (isUnheard_withView rfl) hu
  obtain ⟨pin, hpin⟩ := Option.isSome_iff_exists.mp (show u.pin.isSome from by decide +kernel)
  have hlive := (hlisten pin hpin).1
  have harmed : pin.isArmed = true := by
    have : u.pin.any (·.isArmed) = true := by decide +kernel
    simpa [hpin] using this
  have haway : u.FindsAway (.event (.scrolled .scrolled)) := by
    unfold FindsAway
    decide +kernel
  have hcan : u.CanHappen (.event (.scrolled .scrolled)) := by
    unfold CanHappen
    decide +kernel
  obtain ⟨_, hlater⟩ := hlater 0 _ (.inl haway) hcan
  have hfetching : (u.after 0 (.event (.scrolled .scrolled))).isFetching = true := by decide +kernel
  have hv := hrefl false (u.after 0 (.event (.scrolled .scrolled)))
    |>.next 0 (.event (.fetched (.ok ⟨1, [98, 99], 3⟩))) trivial hfetching
    |>.next 0 (.view (·.use (.grow 9))) ⟨.grow 9, nofun, rfl⟩ trivial
    |>.next 0 (.command (.jumpTo 0)) ⟨nofun, nofun⟩ trivial
  obtain ⟨hleaves, hstep⟩ := hlater v hv
  have hstill := hstep 0 (.event (.fetched (.ok ⟨0, [97], 3⟩))) trivial (by
    unfold CanHappen
    decide +kernel)
  refine ⟨?_, ?_, ?_, by decide +kernel, hstill.2 rfl⟩
  . rw [hpin, Option.map_some, hlive, if_pos harmed]
  . rw [Bool.eq_false_iff]
    intro hfollow
    exact absurd (hleaves.follow_of_follow hfollow) (by decide +kernel)
  . rw [hleaves.bottomScrolls?_eq]
    decide +kernel

end Tail
end RangeTail
