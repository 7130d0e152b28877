import RangeTail.Proofs.Tail.Account
import RangeTail.Proofs.Tail.Overflow

/-!
This module contains the proof that a tail whose request is on its way is told what to do next by
the last instruction that it is given: the next request is made by that one, as soon as the answer
comes, and none is ever made by those that it took the place of.
-/

namespace RangeTail

namespace Tail

/-- What a tail becomes when one thing after the other happens to it. -/
def afterAll (t : Tail) : List (Nat × Move) → Tail
  | [] => t
  | (now, m) :: moves => (t.after now m).afterAll moves

/-- The last instruction that is given. -/
def lastDirective? (t : Tail) : List (Nat × Move) → Option Directive
  | [] => none
  | (now, m) :: moves => ((t.after now m).lastDirective? moves).or (t.directive? m)

/-- The move happens before the answer to the request on its way, and takes no instruction back. -/
def Queues (t : Tail) (m : Move) : Prop :=
  m.isAnswer = false ∧ t.revokes m = false

variable {t u : Tail} {now : Nat} {m : Move} {moves : List (Nat × Move)}

theorem Queues.keeps (h : t.Queues m) (now : Nat) : t.Keeps (t.after now m) := by
  apply keeps_after
  . intro hm
    have := h.2
    simp [hm, revokes] at this
  . intro answer hm
    have := h.1
    simp [hm, Move.isAnswer] at this

theorem isLoaded_after (hm : m.isAnswer = false)
    : (t.after now m).snapshot.isLoaded = t.snapshot.isLoaded := by
  rcases t.after_snapshot now m with ⟨follow, heq⟩ | ⟨f, answer, rfl, _⟩
  . rw [heq]
    rfl
  . simp [Move.isAnswer] at hm

theorem Queues.after {m' : Move} (h : t.Queues m) (h' : t.Queues m') : (t.after now m).Queues m' := by
  refine ⟨h'.1, ?_⟩
  rw [← h'.2]
  unfold revokes
  rw [isLoaded_after h.1]

theorem pending_after (h : t.Queues m) (ht : t.isFetching)
    : (t.after now m).pending = (t.directive? m).or t.pending := by
  rw [pending_of_isFetching ht h.1]
  unfold waits
  rw [h.2]
  rfl

theorem keeps_afterAll (h : ∀ p ∈ moves, t.Queues p.2) : t.Keeps (t.afterAll moves) := by
  induction moves generalizing t with
  | nil => exact keeps_of_eq rfl
  | cons p moves ih =>
    have hp := h p List.mem_cons_self
    apply (hp.keeps p.1).trans
    apply ih
    intro q hq
    exact hp.after (h q (List.mem_cons_of_mem p hq))

/-- While a request is on its way, what waits in the end is the last instruction that was given. -/
theorem pending_afterAll (h : ∀ p ∈ moves, t.Queues p.2) (ht : t.isFetching)
    : (t.afterAll moves).pending = (t.lastDirective? moves).or t.pending := by
  induction moves generalizing t with
  | nil => rfl
  | cons p moves ih =>
    have hp := h p List.mem_cons_self
    have hmoves : ∀ q ∈ moves, (t.after p.1 p.2).Queues q.2 := by
      intro q hq
      exact hp.after (h q (List.mem_cons_of_mem p hq))
    have hfetching := (hp.keeps p.1).isFetching ht
    unfold afterAll lastDirective?
    rw [ih hmoves hfetching, pending_after hp ht, Option.or_assoc]

theorem first?_nextRange (s : Snapshot) (d : Directive) (chunkSize : Nat)
    : (nextRange s (some d) chunkSize).first? = some d.offset := by
  cases d with
  | skipToEnd offset => rfl
  | jump offset => cases h : s.offset <;> simp [nextRange, h, ByteRange.first?, Directive.offset]

end Tail

namespace Account

def afterAll (a : Account) : List (Nat × Tail.Move) → Account
  | [] => a
  | (now, m) :: moves => (a.after now m).afterAll moves

variable {a b : Account} {now : Nat} {m : Tail.Move} {moves : List (Nat × Tail.Move)} {o : Order}

theorem tail_afterAll (a : Account) (moves : List (Nat × Tail.Move))
    : (a.afterAll moves).tail = a.tail.afterAll moves := by
  induction moves generalizing a with
  | nil => rfl
  | cons p moves ih => exact ih (a.after p.1 p.2)

theorem afterAll_append (a : Account) (moves rest : List (Nat × Tail.Move))
    : a.afterAll (moves ++ rest) = (a.afterAll moves).afterAll rest := by
  induction moves generalizing a with
  | nil => rfl
  | cons p moves ih => exact ih (a.after p.1 p.2)

theorem IsBalanced.afterAll (h : a.IsBalanced) (moves : List (Nat × Tail.Move))
    : (a.afterAll moves).IsBalanced := by
  induction moves generalizing a with
  | nil => exact h
  | cons p moves ih => exact ih (h.after p.1 p.2)

theorem given_le_afterAll (a : Account) (moves : List (Nat × Tail.Move))
    : a.given ≤ (a.afterAll moves).given := by
  induction moves generalizing a with
  | nil => exact Nat.le_refl _
  | cons p moves ih =>
    apply Nat.le_trans _ (ih (a.after p.1 p.2))
    apply Nat.le_add_right

theorem entries_afterAll (h : ∀ p ∈ moves, a.tail.Queues p.2) (ha : a.tail.isFetching)
    : (a.afterAll moves).entries = a.entries := by
  induction moves generalizing a with
  | nil => rfl
  | cons p moves ih =>
    have hp := h p List.mem_cons_self
    unfold afterAll
    rw [ih]
    . unfold after
      dsimp only
      rw [Tail.request?_of_isFetching ha hp.1]
      apply List.append_nil
    . intro q hq
      exact hp.after (h q (List.mem_cons_of_mem p hq))
    . exact (hp.keeps p.1).isFetching ha

/-- The order that waits is none of those that were carried out. -/
theorem not_mem_carried_of_waiting (h : a.IsBalanced) (ho : o ∈ a.waiting) : o ∉ a.carried := by
  intro hcarried
  have hnodup := h.nodup
  unfold orders at hnodup
  have := (List.nodup_append.mp hnodup).2.2 o hcarried o (Option.mem_toList.mpr ho)
  exact this rfl

/-- The answer to a request lets the order that waits be carried out. -/
theorem after_answer (h : a.IsBalanced) (ho : a.waiting = some o) (ha : a.tail.isFetching)
    (now : Nat) (answer : Except Fault Chunk)
    : let b := a.after now (.event (.fetched answer))
      b.tail.Sends now (some o.directive)
        ∧ b.waiting = none
        ∧ b.entries = a.entries
            ++ [⟨nextRange b.tail.snapshot (some o.directive) b.tail.config.chunkSize, some o⟩] := by
  intro b
  obtain ⟨f, hf⟩ := Option.isSome_iff_exists.mp ha
  have hpending : a.tail.pending = some o.directive := by
    rw [← h.waiting, ho]
    rfl
  have hsends : b.tail.Sends now (some o.directive) := by
    rw [← hpending]
    simp only [b, after, Tail.after, Tail.handle, hf]
    apply Tail.sends_complete
    rw [hpending]
    rfl
  have hrequest := Tail.request?_of_sends (m := .event (.fetched answer)) hsends (fun _ => rfl)
  have hwaits : a.waits (.event (.fetched answer)) = some o := ho
  refine ⟨hsends, ?_, ?_⟩
  . simp only [b, after]
    rw [hrequest]
    rfl
  . simp only [b, after]
    rw [hrequest, hwaits]
    rfl

theorem exists_waiting {d : Directive} (h : a.IsBalanced) (ha : a.tail.isFetching)
    (hmoves : ∀ p ∈ moves, a.tail.Queues p.2) (hd : a.tail.lastDirective? moves = some d)
    : ∃ o, (a.afterAll moves).waiting = some o ∧ o.directive = d := by
  have hpending := Tail.pending_afterAll hmoves ha
  rw [hd, Option.some_or, ← tail_afterAll, ← (h.afterAll moves).waiting] at hpending
  exact Option.map_eq_some_iff.mp hpending

theorem carried_after_answer (h : a.IsBalanced) (ho : a.waiting = some o) (ha : a.tail.isFetching)
    (now : Nat) (answer : Except Fault Chunk)
    : (a.after now (.event (.fetched answer))).carried = a.carried ++ [o] := by
  unfold carried
  rw [(after_answer h ho ha now answer).2.2, List.filterMap_append]
  rfl

/-- An order that waited before the last one is never carried out. -/
theorem not_mem_carried_of_superseded {allowed : Tail.Move → Prop}
    {before rest : List (Nat × Tail.Move)} {o' : Order} {answer : Except Fault Chunk}
    (h : a.IsBalanced) (ha : a.tail.isFetching) (hmoves : ∀ p ∈ before ++ rest, a.tail.Queues p.2)
    (ho : (a.afterAll (before ++ rest)).waiting = some o) (ho' : o' ∈ (a.afterAll before).waiting)
    (hne : o' ≠ o)
    (hrun : Run allowed ((a.afterAll (before ++ rest)).after now (.event (.fetched answer))) b)
    : o' ∉ b.carried := by
  have hbefore : ∀ p ∈ before, a.tail.Queues p.2 := by
    intro p hp
    exact hmoves p (List.mem_append_left rest hp)
  have hfetching : (a.afterAll (before ++ rest)).tail.isFetching := by
    rw [tail_afterAll]
    exact (Tail.keeps_afterAll hmoves).isFetching ha
  have hold : o' ∉ a.carried := by
    have := not_mem_carried_of_waiting (h.afterAll before) ho'
    unfold carried at *
    rwa [entries_afterAll hbefore ha] at this
  have hgiven : o'.number
      < ((a.afterAll (before ++ rest)).after now (.event (.fetched answer))).given := by
    apply Nat.lt_of_lt_of_le ((h.afterAll before).given o' _)
    . rw [afterAll_append]
      apply Nat.le_trans (given_le_afterAll (a.afterAll before) rest)
      apply Nat.le_add_right
    . unfold orders
      simp [Option.mem_def.mp ho']
  -- once the last order is carried out, the one before it is none of the orders any more
  have hgone : o' ∉ ((a.afterAll (before ++ rest)).after now (.event (.fetched answer))).orders := by
    have hbalanced := h.afterAll (before ++ rest)
    unfold orders
    rw [carried_after_answer hbalanced ho hfetching,
      (after_answer hbalanced ho hfetching now answer).2.1]
    unfold carried at *
    rw [entries_afterAll hmoves ha]
    simp [hold, hne]
  have hnever := not_mem_orders_of_run hrun hgiven hgone
  unfold orders at hnever
  rw [List.mem_append, not_or] at hnever
  exact hnever.1

/--
Whatever a tail is told while a request is on its way, as long as it takes no instruction back: the
request stays as it is. Its answer is taken in, whichever that is, unless bytes come with it that
cannot be joined with the window without a sum that 64 bits do not hold, and there are no such bytes
as long as both end where 64 bits hold the end. An answer that is taken in lets the last instruction
be carried out, at once and without a clock. That instruction is carried out once and for all, and
none that waited before it ever is.
-/
theorem queued_goes_next {t : Tail} {a : Account} (ha : Run (fun _ => True) (ofTail t) a)
    (hfetching : a.tail.isFetching) {during : List (Nat × Tail.Move)}
    (hduring : ∀ p ∈ during, a.tail.Queues p.2) {d : Directive}
    (hd : a.tail.lastDirective? during = some d) (now : Nat) (answer : Except Fault Chunk)
    : (∀ before, before <+: during → a.tail.Keeps (a.afterAll before).tail)
        ∧
      let u := a.afterAll during
      let b := u.after now (.event (.fetched answer))
      let range := nextRange b.tail.snapshot (some d) b.tail.config.chunkSize
      (u.tail.handle? now (.fetched answer) = none ↔
          ∃ chunk, answer = .ok chunk ∧ u.tail.snapshot.merge? chunk = none)
        ∧ (u.tail.snapshot.Fits → (∀ chunk, answer = .ok chunk → chunk.stop ≤ maxOffset) →
          u.tail.handle? now (.fetched answer) = some b.tail)
        ∧ ∀ v, u.tail.handle? now (.fetched answer) = some v →
          v = b.tail
            ∧ (v.inFlight = some { range, started := now }
              ∧ range.first? = some d.offset
              ∧ v.pollDue = none
              ∧ v.pending = none)
            ∧ ∃ o : Order, o.directive = d
              ∧ b.entries = a.entries ++ [⟨range, some o⟩]
              ∧ ∀ c, Run (fun _ => True) b c →
                  c.carried.count o = 1
                    ∧ ∀ before, before <+: during →
                        ∀ o' ∈ (a.afterAll before).waiting, o' ≠ o → o' ∉ c.carried := by
  have hbalanced := isBalanced_of_run (isBalanced_ofTail t) ha
  have hkeeps : ∀ before, before <+: during → a.tail.Keeps (a.afterAll before).tail := by
    intro before hsplit
    rw [tail_afterAll]
    apply Tail.keeps_afterAll
    intro p hp
    exact hduring p (hsplit.subset hp)
  have hbalanced' := hbalanced.afterAll during
  have hfetching' := (hkeeps during List.prefix_rfl).isFetching hfetching
  obtain ⟨o, ho, rfl⟩ := exists_waiting hbalanced hfetching hduring hd
  obtain ⟨hsends, _, hentries⟩ := after_answer hbalanced' ho hfetching' now answer
  rw [entries_afterAll hduring hfetching] at hentries
  refine ⟨hkeeps, Tail.handle?_fetched_eq_none_iff hfetching',
    Tail.handle?_fetched_of_fits hfetching', ?_⟩
  intro v hv
  obtain rfl := Tail.eq_handle_of_handle? hv
  refine ⟨rfl, ⟨hsends.inFlight, Tail.first?_nextRange _ _ _, hsends.pollDue, hsends.pending⟩,
    o, rfl, hentries, ?_⟩
  intro c hc
  constructor
  . apply count_carried_of_run (hbalanced'.after now _) hc
    rw [carried_after_answer hbalanced' ho hfetching']
    simp
  . intro before hsplit o' ho' hne
    obtain ⟨rest, rfl⟩ := hsplit
    exact not_mem_carried_of_superseded hbalanced hfetching hduring ho ho' hne hc

/-- The bytes before the window are asked for; a jump and then the end of the file wait behind them,
and only the end is read. -/
theorem queued_goes_next_over_jump
    : let a := ofTail (.ofConfig { chunkSize := 2 } "log")
      let u := ((a.after 0 .launch).after 1 (.event (.fetched (.ok ⟨4, [100, 101], 6⟩)))).after 2
        (.command .loadPrevious)
      let during := [(3, .command (.jumpTo 0)), (4, .command (.follow true))]
      let answer : Except Fault Chunk := .ok ⟨2, [98, 99], 6⟩
      let b := (u.afterAll during).after 5 (.event (.fetched answer))
      Run (fun _ => True) a u
        ∧ (u.afterAll (during.take 1)).waiting = some ⟨2, .jump 0⟩
        ∧ u.tail.lastDirective? during = some (.skipToEnd 4)
        ∧ (u.afterAll during).tail.handle? 5 (.fetched answer) = some b.tail
        ∧ b.tail.inFlight = some { range := .span 4 8, started := 5 }
        ∧ ⟨2, .jump 0⟩ ∉ b.carried := by
  intro a u during answer b
  have hrefl : Run (fun _ => True) a a := .refl
  have hrun : Run (fun _ => True) a u := hrefl
    |>.next 0 .launch trivial trivial
    |>.next 1 (.event (.fetched (.ok ⟨4, [100, 101], 6⟩))) trivial rfl
    |>.next 2 (.command .loadPrevious) trivial trivial
  have hduring : ∀ p ∈ during, u.tail.Queues p.2 := by
    simp only [during, List.forall_mem_cons]
    exact ⟨⟨rfl, rfl⟩, ⟨rfl, rfl⟩, nofun⟩
  have hd : u.tail.lastDirective? during = some (.skipToEnd 4) := rfl
  have hjump : (u.afterAll (during.take 1)).waiting = some ⟨2, .jump 0⟩ := rfl
  have hanswer : ∀ chunk, answer = .ok chunk → chunk.stop ≤ maxOffset := by
    intro chunk hchunk
    obtain rfl := Except.ok.inj hchunk
    decide
  have hfits : (u.afterAll during).tail.snapshot.Fits := by
    intro stop hstop
    obtain rfl := Option.some.inj hstop
    decide
  obtain ⟨_, _, htaken, hgoes⟩ := queued_goes_next hrun rfl hduring hd 5 answer
  have hb := htaken hfits hanswer
  obtain ⟨_, ⟨hinFlight, _⟩, o, ho, _, hlater⟩ := hgoes _ hb
  have hnever := (hlater b .refl).2 (during.take 1) (List.take_prefix _ _) _ hjump
  refine ⟨hrun, hjump, hd, hb, ?_, ?_⟩
  . calc
      b.tail.inFlight
        = some { range := nextRange b.tail.snapshot (some (.skipToEnd 4)) 2, started := 5 } :=
          hinFlight
      _ = some { range := .span 4 8, started := 5 } := rfl
  . apply hnever
    rintro rfl
    exact absurd ho (by decide)

end Account
end RangeTail
