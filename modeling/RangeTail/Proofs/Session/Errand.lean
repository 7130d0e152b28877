import RangeTail.Proofs.Session.Run
import RangeTail.Proofs.Tail.Account

/-!
This module contains sessions that remember what their requests are made for. Whatever happens, the
request on its way asks for the range that its errand leads to from the window that is held, and
the instruction that waits is the one of the next errand.
-/

namespace RangeTail

/-- What a request is made for. -/
inductive Errand where
  /-- Read what follows the window. -/
  | growth
  /-- Read the end of a file that nothing is held of. -/
  | ending
  /-- Read what lies before a window that begins at `start`. -/
  | previous (start : Nat)
  /-- Read from a position. -/
  | jump (offset : Nat)
  /-- Read the end of a file of `total` bytes. -/
  | toEnd (total : Nat)
  deriving DecidableEq, Repr

namespace Errand

/-- The instruction by which a tail is sent on the errand, unless it goes by itself. -/
def directive? (chunkSize : Nat) : Errand → Option Directive
  | .growth => none
  | .ending => none
  | .previous start => some (.jump (start - chunkSize))
  | .jump offset => some (.jump offset)
  | .toEnd total => some (.toEnd total chunkSize)

/-- The errand on which a tail goes by itself. -/
def unprompted (s : Snapshot) : Errand :=
  if s.isLoaded then .growth else .ending

def range (e : Errand) (s : Snapshot) (chunkSize : Nat) : ByteRange :=
  nextRange s (e.directive? chunkSize) chunkSize

theorem forall_unprompted {P : Errand → Prop} (hgrowth : P .growth) (hending : P .ending)
    (s : Snapshot)
    : P (unprompted s) := by
  unfold unprompted
  split
  . exact hgrowth
  . exact hending

theorem directive?_unprompted (s : Snapshot) (chunkSize : Nat)
    : (unprompted s).directive? chunkSize = none :=
  forall_unprompted (P := (·.directive? chunkSize = none)) rfl rfl s

end Errand

namespace Tail

/-- The errand of reading the end, if it is known where that is. -/
def endErrand? (t : Tail) : Option Errand :=
  if t.snapshot.isLoaded then some (.toEnd t.snapshot.total) else none

/-- The errand on which a move sends. -/
def errand? (t : Tail) : Move → Option Errand
  | .command (.jumpTo offset) => some (.jump offset)
  | .command .loadPrevious =>
    match t.snapshot.offset with
    | none => none
    | some start => if 0 < start then some (.previous start) else none
  | .command .skipToEnd => t.endErrand?
  | .command (.follow true) => if t.snapshot.follow then none else t.endErrand?
  | _ => none

variable {t : Tail} {now : Nat} {m : Move}

theorem endErrand?_directive
    : t.endErrand?.map (·.directive? t.config.chunkSize) = t.toEnd?.map some := by
  unfold endErrand? toEnd?
  split <;> rfl

theorem errand?_directive
    : (t.errand? m).map (·.directive? t.config.chunkSize) = (t.directive? m).map some := by
  cases m with
  | command c =>
    cases c with
    | follow enabled =>
      cases enabled with
      | false => rfl
      | true =>
        dsimp only [errand?, directive?]
        split
        . rfl
        . exact endErrand?_directive
    | loadPrevious =>
      dsimp only [errand?, directive?]
      unfold Directive.loadPrevious
      cases t.snapshot.offset with
      | none => rfl
      | some start =>
        dsimp only
        split <;> rfl
    | skipToEnd => exact endErrand?_directive
    | jumpTo offset => rfl
    | cancel => rfl
  | _ => rfl

end Tail

/-- A session, and the errands of the request on its way and of the one that waits behind it. -/
structure Agenda where
  session : Session
  current : Option Errand
  next : Option Errand

namespace Agenda

/-- The agenda of a session that has not begun to work, and is to begin at a position or not. -/
def ofSession (s : Session) : Agenda where
  session := s
  current := none
  next := s.tail.pending.map (.jump ·.offset)

/-- A request is made with the move. -/
def sends (a : Agenda) (m : Tail.Move) : Bool :=
  (a.session.tail.request? a.session.now m).isSome

/-- The errand that waits after a move, until a request is made for it. -/
def waits (a : Agenda) (m : Tail.Move) : Option Errand :=
  if a.session.tail.revokes m then none else (a.session.tail.errand? m).or a.next

def after (a : Agenda) (m : Session.Move) : Agenda where
  session := a.session.after m
  current :=
    match m with
    | .tail m =>
      let t := a.session.tail.after a.session.now m
      if a.sends m then (a.waits m).getD (.unprompted t.snapshot)
      else if t.isFetching then a.current
      else none
    | _ => a.current
  next :=
    match m with
    | .tail m => if a.sends m then none else a.waits m
    | _ => a.next

/-- What an agenda becomes by things that are allowed to happen. -/
inductive Run (allowed : Session.Move → Prop) (a : Agenda) : Agenda → Prop
  | refl : Run allowed a a
  | next {b : Agenda} (m : Session.Move) :
      Run allowed a b → allowed m → b.session.CanHappen m → Run allowed a (b.after m)

/-- The request is one that the tail makes on the errand. -/
structure IsMadeFor (t : Tail) (f : InFlight) (e : Errand) : Prop where
  range : f.range = e.range t.snapshot t.config.chunkSize
  unprompted : e.directive? t.config.chunkSize = none → e = .unprompted t.snapshot

/-- The agenda agrees with what the tail asks for and will ask for. -/
structure IsKept (a : Agenda) : Prop where
  current : ∀ f, a.session.tail.inFlight = some f →
    ∃ e, a.current = some e ∧ IsMadeFor a.session.tail f e
  next : a.next.map (·.directive? a.session.tail.config.chunkSize)
    = a.session.tail.pending.map some

/-- What is on the agenda has a property. -/
structure Plans (a : Agenda) (P : Errand → Prop) : Prop where
  current : ∀ e ∈ a.current, P e
  next : ∀ e ∈ a.next, P e

variable {a b : Agenda} {m : Session.Move} {allowed : Session.Move → Prop}

theorem Run.session (h : Run allowed a b) : Session.Run allowed a.session b.session := by
  induction h with
  | refl => exact .refl
  | next m _ hallowed hcan ih => exact ih.next m hallowed hcan

theorem waits_directive (h : a.IsKept) (m : Tail.Move)
    : (a.waits m).map (·.directive? a.session.tail.config.chunkSize)
        =
      (a.session.tail.waits m).map some := by
  unfold waits Tail.waits
  split
  . rfl
  . rw [Option.map_or, Option.map_or, Tail.errand?_directive, h.next]

theorem sends_of_sends {m : Tail.Move} {d : Option Directive}
    (h : (a.session.tail.after a.session.now m).Sends a.session.now d)
    (hm : a.session.tail.isFetching → m.isAnswer)
    : a.sends m = true := by
  unfold sends
  rw [Tail.request?_of_sends h hm]
  rfl

theorem sends_of_waiting {m : Tail.Move}
    (h : (a.session.tail.after a.session.now m).isFetching →
      a.session.tail.isFetching ∧ ¬ m.isAnswer)
    : a.sends m = false := by
  unfold sends
  rw [Tail.request?_of_waiting h]
  rfl

theorem after_of_sends {m : Tail.Move} (h : a.sends m = true)
    : a.after (.tail m)
        =
      { session := a.session.after (.tail m)
        current := (a.waits m).getD
          (.unprompted (a.session.tail.after a.session.now m).snapshot)
        next := none } := by
  simp only [after, h, ↓reduceIte]

theorem after_of_not_sends {m : Tail.Move} (h : a.sends m = false)
    : a.after (.tail m)
        =
      { session := a.session.after (.tail m)
        current :=
          if (a.session.tail.after a.session.now m).isFetching then a.current else none
        next := a.waits m } := by
  simp only [after, h, Bool.false_eq_true, ↓reduceIte]

theorem Plans.mono {P Q : Errand → Prop} (h : a.Plans P) (hpq : ∀ e, P e → Q e) : a.Plans Q where
  current e he := hpq e (h.current e he)
  next e he := hpq e (h.next e he)

/-- What is on the agenda keeps a property, if the errand that a move sends on has it, and the one
on which the tail then goes by itself. -/
theorem Plans.after {P : Errand → Prop} {m : Tail.Move} (h : a.Plans P)
    (htold : ∀ e ∈ a.session.tail.errand? m, P e)
    (hself : P (.unprompted (a.session.tail.after a.session.now m).snapshot))
    : (a.after (.tail m)).Plans P := by
  have hwaits : ∀ e ∈ a.waits m, P e := by
    intro e he
    unfold Agenda.waits at he
    split at he
    . contradiction
    . rcases Option.or_eq_some_iff.mp he with he | ⟨_, he⟩
      . exact htold e he
      . exact h.next e he
  cases hsends : a.sends m with
  | true =>
    rw [after_of_sends hsends]
    constructor
    . rintro e ⟨⟩
      cases hnext : a.waits m with
      | some e => exact hwaits e hnext
      | none => exact hself
    . exact fun e he => nomatch he
  | false =>
    rw [after_of_not_sends hsends]
    constructor
    . dsimp only
      split
      . exact h.current
      . exact fun e he => nomatch he
    . exact hwaits

/-- A request is made on the errand that waits, or on none that the tail was sent on. -/
theorem IsKept.isMadeFor_of_sends (h : a.IsKept) {m : Tail.Move} {f : InFlight}
    (hsends : (a.session.tail.after a.session.now m).Sends a.session.now (a.session.tail.waits m))
    (hf : (a.session.tail.after a.session.now m).inFlight = some f)
    : IsMadeFor (a.session.tail.after a.session.now m) f
        ((a.waits m).getD (.unprompted (a.session.tail.after a.session.now m).snapshot)) := by
  have hwaits := waits_directive h m
  rw [← a.session.tail.after_config a.session.now m] at hwaits
  rw [hsends.inFlight] at hf
  obtain rfl := Option.some.inj hf
  cases hnext : a.waits m with
  | none =>
    rw [hnext, Option.map_none, eq_comm, Option.map_eq_none_iff] at hwaits
    rw [Option.getD_none, hwaits]
    constructor
    . unfold Errand.range
      rw [Errand.directive?_unprompted]
    . intro
      rfl
  | some e =>
    rw [hnext, Option.map_some, eq_comm, Option.map_eq_some_iff] at hwaits
    obtain ⟨d, hd, he⟩ := hwaits
    rw [Option.getD_some, hd]
    constructor
    . unfold Errand.range
      rw [← he]
    . -- an errand on which the tail was sent is never one of its own
      intro hnone
      rw [← he] at hnone
      contradiction

/-- The request that is on its way after a move that makes none was on its way before, and nothing
has been read since it was made. -/
theorem IsKept.isMadeFor_of_waiting (h : a.IsKept) {m : Tail.Move} {g : InFlight}
    (hm : ¬ m.isAnswer) (hfetching : a.session.tail.isFetching)
    (hg : (a.session.tail.after a.session.now m).inFlight = some g)
    : ∃ e, a.current = some e ∧ IsMadeFor (a.session.tail.after a.session.now m) g e := by
  obtain ⟨f, hf, hrange⟩ := Tail.inFlight_before hm hfetching hg
  obtain ⟨e, he, hmade⟩ := h.current f hf
  refine ⟨e, he, ?_⟩
  rcases a.session.tail.after_snapshot a.session.now m with ⟨follow, heq⟩ | ⟨_, answer, rfl, _⟩
  . constructor
    . rw [hrange, heq, Tail.after_config]
      exact hmade.range
    . rw [heq, Tail.after_config]
      exact hmade.unprompted
  . simp [Tail.Move.isAnswer] at hm

theorem IsKept.after_tail (h : a.IsKept) (m : Tail.Move) : (a.after (.tail m)).IsKept := by
  cases a.session.tail.after_dispatch a.session.now m with
  | sent hsends hm =>
    rw [after_of_sends (sends_of_sends hsends hm)]
    constructor
    . dsimp only
      rw [Session.after_tail]
      intro f hf
      exact ⟨_, rfl, h.isMadeFor_of_sends hsends hf⟩
    . dsimp only
      rw [Session.after_tail, hsends.pending]
      rfl
  | waiting hpending hfetching =>
    rw [after_of_not_sends (sends_of_waiting hfetching)]
    constructor
    . dsimp only
      rw [Session.after_tail]
      intro g hg
      have hnow : (a.session.tail.after a.session.now m).isFetching :=
        Option.isSome_iff_exists.mpr ⟨g, hg⟩
      obtain ⟨hbefore, hm⟩ := hfetching hnow
      rw [if_pos hnow]
      exact h.isMadeFor_of_waiting hm hbefore hg
    . dsimp only
      rw [Session.after_tail, Tail.after_config, hpending]
      exact waits_directive h m

theorem IsKept.after (h : a.IsKept) (m : Session.Move) : (a.after m).IsKept := by
  cases m with
  | tail m => exact h.after_tail m
  | _ => exact ⟨h.current, h.next⟩

theorem isKept_of_run (h : a.IsKept) (hrun : Run allowed a b) : b.IsKept := by
  induction hrun with
  | refl => exact h
  | next m _ _ _ ih => exact ih.after m

end Agenda

namespace Tail

/-- A tail that does not work yet is told to begin at a position, or is told nothing. -/
theorem Prepared.pending_eq {t : Tail} (h : t.Prepared)
    : t.pending = t.pending.map (.jump ·.offset) := by
  induction h with
  | ofConfig => rfl
  | withView _ _ ih => exact ih
  | @withStore t store _ ih =>
    unfold Tail.withStore
    dsimp only
    rw [Option.map_or, ← ih]
    congr 1
    cases OffsetParam.offset? ⟨store, t.config.offsetParam⟩ <;> rfl
  | withOffset offset _ _ => rfl

end Tail

theorem Agenda.isKept_ofSession {t : Tail} (h : t.Prepared) (source : MemorySource) (now : Nat)
    : (ofSession ⟨t, source, now⟩).IsKept where
  current := by
    intro f hf
    have := h.inFlight_eq
    simp only [ofSession] at hf
    rw [this] at hf
    contradiction
  next := by
    dsimp only [ofSession]
    rw [h.pending_eq]
    cases t.pending <;> rfl

end RangeTail
