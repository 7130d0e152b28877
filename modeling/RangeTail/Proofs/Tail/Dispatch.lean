import RangeTail.Proofs.Tail.Order

/-!
This module contains what becomes of the instructions that a tail is given. Whatever happens to the
tail, the instruction that waits after it either is the one that the next request is made by, at
once, or goes on waiting, and then the request on its way is the one of before.
-/

namespace RangeTail.Tail

/-- The move brings the answer to a request. -/
def Move.isAnswer : Move → Bool
  | .event (.fetched _) => true
  | _ => false

/-- The instruction that a move gives. -/
def directive? (t : Tail) : Move → Option Directive
  | .command (.jumpTo offset) => some (.jump offset)
  | .command .loadPrevious => Directive.loadPrevious t.snapshot t.config.chunkSize
  | .command .skipToEnd => t.toEnd?
  | .command (.follow true) => if t.snapshot.follow then none else t.toEnd?
  | _ => none

/-- Whether a move takes back what waits without giving an instruction in its place. -/
def revokes (t : Tail) : Move → Bool
  | .command .cancel => true
  | .command .skipToEnd => !t.snapshot.isLoaded
  | _ => false

/-- The instruction that waits after a move, until a request is made by it. -/
def waits (t : Tail) (m : Move) : Option Directive :=
  if t.revokes m then none else (t.directive? m).or t.pending

/-- A request was made at the moment, by the instruction if there is one. -/
structure Sends (u : Tail) (now : Nat) (d : Option Directive) : Prop where
  inFlight : u.inFlight =
    some { range := nextRange u.snapshot d u.config.chunkSize, started := now }
  pending : u.pending = none
  pollDue : u.pollDue = none

/-- What a move from `t` to `u` does with the instruction that waits after it. -/
inductive Dispatch (t : Tail) (now : Nat) (m : Move) (d : Option Directive) (u : Tail) : Prop
  | sent : u.Sends now d → (t.isFetching → m.isAnswer) → Dispatch t now m d u
  | waiting : u.pending = d → (u.isFetching → t.isFetching ∧ ¬ m.isAnswer) → Dispatch t now m d u

variable {t u : Tail} {now : Nat} {m : Move}

theorem Keeps.trans {v : Tail} (h₁ : t.Keeps u) (h₂ : u.Keeps v) : t.Keeps v := by
  intro f hf
  obtain ⟨g, hg, hrange, hstarted⟩ := h₁ f hf
  obtain ⟨i, hi, hrange', hstarted'⟩ := h₂ g hg
  exact ⟨i, hi, hrange'.trans hrange, hstarted'.trans hstarted⟩

theorem Keeps.isFetching (h : t.Keeps u) (ht : t.isFetching) : u.isFetching := by
  obtain ⟨f, hf⟩ := Option.isSome_iff_exists.mp ht
  obtain ⟨g, hg, _⟩ := h f hf
  simp [Tail.isFetching, hg]

theorem Sends.isFetching {d : Option Directive} (h : u.Sends now d) : u.isFetching := by
  simp [Tail.isFetching, h.inFlight]

theorem sends_start (h : t.inFlight = none) : (t.start now).Sends now t.pending := by
  rw [start_of_none h]
  exact ⟨rfl, rfl, rfl⟩

theorem dispatch_same (hpending : u.pending = t.waits m) (hinFlight : u.inFlight = t.inFlight)
    (hm : ¬ m.isAnswer)
    : Dispatch t now m (t.waits m) u := by
  apply Dispatch.waiting hpending
  intro h
  unfold isFetching at h
  rw [hinFlight] at h
  exact ⟨h, hm⟩

theorem dispatch_start (hpending : u.pending = t.waits m) (hinFlight : u.inFlight = t.inFlight)
    (hm : ¬ m.isAnswer)
    : Dispatch t now m (t.waits m) (u.start now) := by
  cases h : u.inFlight with
  | none =>
    rw [← hpending]
    apply Dispatch.sent (sends_start h)
    intro hfetching
    simp [isFetching, ← hinFlight, h] at hfetching
  | some f =>
    -- nothing is sent while a request is on its way, so the instruction waits
    rw [start_of_some h]
    apply dispatch_same
    . exact hpending
    . exact hinFlight
    . exact hm

theorem waits_skipToEnd : t.waits (.command .skipToEnd) = t.toEnd? := by
  unfold waits revokes directive? toEnd?
  cases t.snapshot.isLoaded <;> simp

theorem waits_follow {enabled : Bool} (h : enabled = t.snapshot.follow)
    : t.waits (.command (.follow enabled)) = t.pending := by
  subst h
  unfold waits revokes directive?
  cases h : t.snapshot.follow <;> simp

theorem waits_follow_true (h : t.snapshot.follow = false)
    : t.waits (.command (.follow true)) = t.toEnd?.or t.pending := by
  simp [waits, revokes, directive?, h]

theorem waits_of_not_command (h : ∀ c, m ≠ .command c) : t.waits m = t.pending := by
  cases m with
  | command c => exact absurd rfl (h c)
  | _ => rfl

theorem dispatch_setFollow (enabled : Bool)
    : Dispatch t now (.command (.follow enabled)) (t.waits (.command (.follow enabled)))
        (t.setFollow now enabled) := by
  unfold setFollow
  split
  . next h =>
    apply dispatch_same
    . rw [waits_follow h]
    . rfl
    . simp [Move.isAnswer]
  . next h =>
    dsimp only
    cases enabled with
    | false =>
      apply dispatch_same
      . rfl
      . rfl
      . simp [Move.isAnswer]
    | true =>
      simp only [↓reduceIte]
      apply dispatch_start
      . rw [waits_follow_true]
        . rfl
        . simpa using h
      . rfl
      . simp [Move.isAnswer]

theorem dispatch_loadPrevious
    : Dispatch t now (.command .loadPrevious) (t.waits (.command .loadPrevious))
        (t.loadPrevious now) := by
  unfold loadPrevious
  split
  . next h =>
    apply dispatch_start
    . simp [waits, revokes, directive?, h]
    . rfl
    . simp [Move.isAnswer]
  . next h =>
    apply dispatch_same
    . simp [waits, revokes, directive?, h]
    . rfl
    . simp [Move.isAnswer]

theorem dispatch_skipToEnd
    : Dispatch t now (.command .skipToEnd) (t.waits (.command .skipToEnd)) (t.skipToEnd now) := by
  unfold skipToEnd
  apply dispatch_start
  . rw [waits_skipToEnd]
  . dsimp only [arm]
    split <;> rfl
  . simp [Move.isAnswer]

theorem pollSoon_slots
    : (t.pollSoon now).inFlight = t.inFlight ∧ (t.pollSoon now).pending = t.pending := by
  unfold pollSoon
  split <;> exact ⟨rfl, rfl⟩

theorem complete_eq_startPending (t : Tail) (now : Nat) (f : InFlight) (answer : Except Fault Chunk)
    : ∃ u : Tail, t.complete now f answer = u.startPending now
        ∧ u.inFlight = none
        ∧ u.pending = t.pending
        ∧ u.pollDue = ({ t with inFlight := none }.pollSoon now).pollDue := by
  refine ⟨_, rfl, ?_, ?_, ?_⟩
  . rw [takeIn_slots.1, pollSoon_slots.1]
  . rw [takeIn_slots.2.1, pollSoon_slots.2]
  . rw [takeIn_slots.2.2]

variable {f : InFlight} {answer : Except Fault Chunk}

/-- The instruction that waits for an answer is carried out as soon as it comes. -/
theorem sends_complete (h : t.pending.isSome) : (t.complete now f answer).Sends now t.pending := by
  obtain ⟨u, heq, hinFlight, hpending, _⟩ := complete_eq_startPending t now f answer
  rw [heq, ← hpending]
  rw [← hpending] at h
  unfold startPending
  rw [if_pos h]
  apply sends_start
  exact hinFlight

theorem complete_of_pending_none (h : t.pending = none)
    : (t.complete now f answer).inFlight = none
        ∧ (t.complete now f answer).pending = none
        ∧ (t.complete now f answer).pollDue
            = ({ t with inFlight := none }.pollSoon now).pollDue := by
  obtain ⟨u, heq, hinFlight, hpending, hpollDue⟩ := complete_eq_startPending t now f answer
  rw [heq]
  rw [h] at hpending
  unfold startPending
  rw [if_neg (by simp [hpending])]
  exact ⟨hinFlight, hpending, hpollDue⟩

theorem dispatch_complete
    : Dispatch t now (.event (.fetched answer)) t.pending (t.complete now f answer) := by
  cases hpending : t.pending with
  | some d =>
    rw [← hpending]
    apply Dispatch.sent
    . apply sends_complete
      simp [hpending]
    . intro
      rfl
  | none =>
    obtain ⟨hinFlight, hpending', _⟩ := complete_of_pending_none hpending
    apply Dispatch.waiting hpending'
    simp [isFetching, hinFlight]

theorem noticeScroll_slots (news : Scroll.News)
    : (t.noticeScroll news).pending = t.pending
        ∧
      (t.noticeScroll news).inFlight = t.inFlight := by
  unfold noticeScroll
  split
  . exact ⟨rfl, rfl⟩
  . split
    . exact ⟨rfl, rfl⟩
    . dsimp only
      split <;> exact ⟨rfl, rfl⟩

/-- The instruction that waits after a move is the one of a new request, or it goes on waiting. -/
theorem after_dispatch (t : Tail) (now : Nat) (m : Move)
    : Dispatch t now m (t.waits m) (t.after now m) := by
  cases m with
  | launch =>
    apply dispatch_start
    . split <;> rfl
    . split <;> rfl
    . simp [Move.isAnswer]
  | start =>
    apply dispatch_start
    . rfl
    . rfl
    . simp [Move.isAnswer]
  | contact =>
    apply Dispatch.waiting
    . rfl
    . simp [after, Tail.contact, isFetching, Move.isAnswer]
  | view change =>
    apply dispatch_same
    . rfl
    . rfl
    . simp [Move.isAnswer]
  | store change =>
    apply dispatch_same
    . rfl
    . rfl
    . simp [Move.isAnswer]
  | command c =>
    cases c with
    | follow enabled => apply dispatch_setFollow
    | loadPrevious => apply dispatch_loadPrevious
    | skipToEnd => apply dispatch_skipToEnd
    | jumpTo offset =>
      apply dispatch_start
      . rfl
      . rfl
      . simp [Move.isAnswer]
    | cancel =>
      apply Dispatch.waiting
      . rfl
      . simp [after, apply, cancel, isFetching]
  | event e =>
    cases e with
    | poll =>
      apply dispatch_start
      . rfl
      . rfl
      . simp [Move.isAnswer]
    | settle =>
      apply dispatch_same
      . rfl
      . rfl
      . simp [Move.isAnswer]
    | scrolled news =>
      have hslots := @noticeScroll_slots t.drain news
      apply dispatch_same
      . exact hslots.1
      . exact hslots.2
      . simp [Move.isAnswer]
    | fetched answer =>
      dsimp only [after, handle]
      split
      . apply dispatch_complete
      . next h =>
        apply Dispatch.waiting
        . rfl
        . simp [isFetching, h]

theorem pending_of_isFetching (h : t.isFetching) (hm : m.isAnswer = false)
    : (t.after now m).pending = t.waits m := by
  cases t.after_dispatch now m with
  | sent _ hanswer =>
    have := hanswer h
    simp [hm] at this
  | waiting hpending _ => exact hpending

/-- A request that is on its way after a move that brought no answer was so before, if there was
one. -/
theorem inFlight_before {g : InFlight} (hm : ¬ m.isAnswer) (hfetching : t.isFetching)
    (hg : (t.after now m).inFlight = some g)
    : ∃ f, t.inFlight = some f ∧ g.range = f.range := by
  obtain ⟨f, hf⟩ := Option.isSome_iff_exists.mp hfetching
  have hkeeps : t.Keeps (t.after now m) := by
    apply keeps_after
    . rintro rfl
      simp [after, apply, cancel] at hg
    . rintro answer rfl
      simp [Move.isAnswer] at hm
  obtain ⟨g', hg', hrange, _⟩ := hkeeps f hf
  obtain rfl : g = g' := Option.some.inj (hg.symm.trans hg')
  exact ⟨f, hf, hrange⟩

/-! The settings -/

theorem start_config : (t.start now).config = t.config := by
  unfold start
  split <;> rfl

theorem takeIn_config {request : ByteRange} {latency : Nat}
    : (t.takeIn now request latency answer).config = t.config := by
  cases answer with
  | error fault => cases fault <;> rfl
  | ok c =>
    unfold takeIn settleSoon
    dsimp only
    split <;> rfl

theorem pollSoon_config : (t.pollSoon now).config = t.config := by
  unfold pollSoon
  split <;> rfl

theorem startPending_config : (t.startPending now).config = t.config := by
  unfold startPending
  split
  . apply start_config
  . rfl

theorem complete_config : (t.complete now f answer).config = t.config := by
  unfold complete
  rw [startPending_config, takeIn_config, pollSoon_config]

theorem apply_config (c : Command) : (t.apply now c).config = t.config := by
  cases c with
  | follow enabled =>
    dsimp only [apply]
    unfold setFollow
    split
    . rfl
    . dsimp only
      split
      . apply start_config
      . rfl
  | loadPrevious =>
    dsimp only [apply]
    unfold loadPrevious
    split
    . apply start_config
    . rfl
  | skipToEnd =>
    apply start_config.trans
    dsimp only [arm]
    split <;> rfl
  | jumpTo offset => apply start_config
  | cancel => rfl

theorem noticeScroll_config (news : Scroll.News) : (t.noticeScroll news).config = t.config := by
  unfold noticeScroll
  split
  . rfl
  . split
    . rfl
    . dsimp only
      split <;> rfl

theorem after_config (t : Tail) (now : Nat) (m : Move) : (t.after now m).config = t.config := by
  cases m with
  | launch =>
    apply start_config.trans
    split <;> rfl
  | start => apply start_config
  | command c => apply apply_config
  | event e =>
    cases e with
    | fetched answer =>
      dsimp only [after, handle]
      split
      . apply complete_config
      . rfl
    | poll => apply start_config
    | settle => rfl
    | scrolled news => apply noticeScroll_config
  | contact => rfl
  | view => rfl
  | store => rfl

end RangeTail.Tail
