import RangeTail.Proofs.Store.Values
import RangeTail.Proofs.Tail.Order
import RangeTail.Proofs.Tail.Outcome

/-!
This module contains what a tail notes of the position of its window. As long as the tail is not
cancelled it does nothing else to its store than to note a position there, and the one that it noted
last is where its window begins. A tail that begins with such a store reads from there.
-/

namespace RangeTail.Tail

/-- The tail is not cancelled, and nobody else writes to its store. -/
def Move.IsUndisturbed : Move → Prop
  | .store _ => False
  | .command c => c ≠ .cancel
  | _ => True

/-- The position that is noted by a move. -/
def note? (t : Tail) : Move → Option Nat
  | .event (.fetched (.ok c)) => t.inFlight.bind fun _ => (t.snapshot.merge c).offset
  | _ => none

/-- What a tail becomes by things that can happen to it while it is undisturbed, and the positions that
it notes meanwhile, oldest first. -/
inductive Diary (t : Tail) : List Nat → Tail → Prop
  | nil : Diary t [] t
  | next {notes : List Nat} {u : Tail} (now : Nat) (m : Move) :
      Diary t notes u → m.IsUndisturbed → u.CanHappen m →
        Diary t (notes ++ (u.note? m).toList) (u.after now m)

variable {t u : Tail} {now : Nat} {m : Move} {notes : List Nat} {start : Nat}

/-! What becomes of the store -/

theorem launch_offsetParam : (t.launch now).offsetParam = t.offsetParam := by
  unfold launch
  rw [start_frame.1]
  split <;> rfl

theorem apply_offsetParam {c : Command} (hc : c ≠ .cancel)
    : (t.apply now c).offsetParam = t.offsetParam := by
  cases c with
  | follow enabled =>
    dsimp only [apply]
    unfold setFollow
    split
    . rfl
    . dsimp only
      split
      . apply start_frame.1
      . rfl
  | loadPrevious =>
    dsimp only [apply]
    unfold loadPrevious
    split
    . apply start_frame.1
    . rfl
  | skipToEnd =>
    dsimp only [apply]
    unfold skipToEnd
    apply start_frame.1.trans
    dsimp only [arm]
    split <;> rfl
  | jumpTo offset => apply start_frame.1
  | cancel => contradiction

theorem noticeScroll_offsetParam (news : Scroll.News)
    : (t.noticeScroll news).offsetParam = t.offsetParam := by
  unfold noticeScroll
  split
  . rfl
  . split
    . rfl
    . dsimp only
      split <;> rfl

theorem takeIn_offsetParam {request : ByteRange} {latency : Nat} {answer : Except Fault Chunk}
    : (t.takeIn now request latency answer).offsetParam
        =
      match answer with
      | .ok c => t.offsetParam.map (·.record (t.snapshot.merge c))
      | .error _ => t.offsetParam := by
  cases answer with
  | error fault => cases fault <;> rfl
  | ok c =>
    unfold takeIn settleSoon
    dsimp only
    split <;> rfl

theorem complete_offsetParam {f : InFlight} {answer : Except Fault Chunk}
    : (t.complete now f answer).offsetParam
        =
      match answer with
      | .ok c => t.offsetParam.map (·.record (t.snapshot.merge c))
      | .error _ => t.offsetParam := by
  unfold complete
  rw [startPending_frame.1, takeIn_offsetParam, pollSoon_frame.1, pollSoon_snapshot]

/-- All that is done to the store. -/
theorem offsetParam_after (hm : m.IsUndisturbed)
    : (t.after now m).offsetParam
        =
      t.offsetParam.map fun p =>
        { p with store := noted QueryStore.set p.name (t.note? m).toList p.store } := by
  have hsame : t.offsetParam = t.offsetParam.map fun p =>
      { p with store := noted QueryStore.set p.name [] p.store } := by
    cases t.offsetParam <;> rfl
  cases m with
  | launch => exact launch_offsetParam.trans hsame
  | start => exact start_frame.1.trans hsame
  | command c => exact (apply_offsetParam hm).trans hsame
  | contact => exact hsame
  | view change => exact hsame
  | store change => contradiction
  | event e =>
    cases e with
    | poll => exact start_frame.1.trans hsame
    | settle => exact hsame
    | scrolled news => exact (noticeScroll_offsetParam (t := t.drain) news).trans hsame
    | fetched answer =>
      cases hf : t.inFlight with
      | none =>
        dsimp only [after, handle]
        rw [hf]
        cases answer with
        | error fault => exact hsame
        | ok c => simpa [note?, hf] using hsame
      | some f =>
        rw [t.after_fetched now hf, complete_offsetParam]
        cases answer with
        | error fault => exact hsame
        | ok c => simp [note?, hf, Snapshot.merge, Snapshot.holding, OffsetParam.record, noted]

/-- The window begins where it was noted to begin, now or, if nothing is noted now, before. -/
theorem offset_after (h : (t.after now m).snapshot.offset = some start)
    : t.note? m = some start ∨ (t.note? m = none ∧ t.snapshot.offset = some start) := by
  cases hnote : t.note? m with
  | some position =>
    left
    unfold note? at hnote
    split at hnote
    . next c =>
      obtain ⟨f, hf, hposition⟩ := Option.bind_eq_some_iff.mp hnote
      rw [t.after_fetched now hf, complete_snapshot] at h
      exact hposition.symm.trans h
    . contradiction
  | none =>
    right
    refine ⟨rfl, ?_⟩
    rcases t.after_snapshot now m with ⟨follow, heq⟩ | ⟨f, answer, rfl, hf, heq⟩
    . rw [heq] at h
      exact h
    . rw [heq] at h
      cases answer with
      | ok c => simp [note?, hf, Snapshot.merge, Snapshot.holding] at hnote
      | error fault =>
        cases fault with
        | emptyFile total => contradiction
        | _ => exact h

namespace Diary

theorem offsetParam_eq (h : Diary t notes u)
    : u.offsetParam = t.offsetParam.map fun p =>
        { p with store := noted QueryStore.set p.name notes p.store } := by
  induction h with
  | nil => cases t.offsetParam <;> rfl
  | next now m _ hm _ ih =>
    rw [offsetParam_after hm, ih, Option.map_map]
    congr 1
    funext p
    simp only [Function.comp_apply, noted_append]

theorem getLast?_eq (h : Diary t notes u) (ht : t.snapshot.offset = none)
    (hstart : u.snapshot.offset = some start)
    : notes.getLast? = some start := by
  induction h with
  | nil =>
    rw [ht] at hstart
    contradiction
  | next now m _ _ _ ih =>
    rcases offset_after hstart with hnote | ⟨hnote, hbefore⟩
    . rw [hnote, Option.toList_some, List.getLast?_concat]
    . rw [hnote, Option.toList_none, List.append_nil]
      exact ih hbefore

/-- A diary can be kept of every run of a tail that is undisturbed. -/
theorem of_run (h : Run (·.IsUndisturbed) t u) : ∃ notes, Diary t notes u := by
  induction h with
  | refl => exact ⟨[], .nil⟩
  | next now m _ hm hcan ih =>
    obtain ⟨notes, hnotes⟩ := ih
    exact ⟨_, hnotes.next now m hm hcan⟩

end Diary

/-! Beginning anew -/

/-- A tail that does not work yet was given a store in which the position is. -/
def TakesUp (t : Tail) (start : Nat) : Prop :=
  ∃ (b : Tail) (store : QueryStore), b.Prepared
    ∧ store.get? b.config.offsetParam = some (toString start) ∧ t = b.withStore store

namespace TakesUp

theorem offset_eq (h : t.TakesUp start) : t.snapshot.offset = none := by
  obtain ⟨b, store, hb, _, rfl⟩ := h
  exact hb.offset_eq

theorem inFlight_eq (h : t.TakesUp start) : t.inFlight = none := by
  obtain ⟨b, store, hb, _, rfl⟩ := h
  exact hb.inFlight_eq

theorem pending_eq (h : t.TakesUp start) (hle : start ≤ maxOffset)
    : t.pending = some (.jump start) := by
  obtain ⟨b, store, _, hstore, rfl⟩ := h
  have hoffset : OffsetParam.offset? ⟨store, b.config.offsetParam⟩ = some start :=
    OffsetParam.offset?_of_value? _ hstore hle
  unfold withStore
  dsimp only
  rw [hoffset]
  rfl

theorem launch_inFlight (h : t.TakesUp start) (hle : start ≤ maxOffset)
    : (t.launch now).inFlight
        =
      some { range := .span start (addClamped start t.config.chunkSize), started := now } := by
  have hrange : nextRange t.snapshot t.pending t.config.chunkSize
      = .span start (addClamped start t.config.chunkSize) := by
    rw [h.pending_eq hle]
    simp [nextRange, h.offset_eq]
  rw [← hrange]
  unfold launch
  split
  . rw [start_of_none (t := t.arm) h.inFlight_eq]
    rfl
  . rw [start_of_none h.inFlight_eq]

end TakesUp
end RangeTail.Tail
