import RangeTail.Proofs.Tail.Queue

/-!
This module contains what follows on a request that fails. While the log is followed the clock runs
for the next one, but the instruction that the failed request was made by is used up: the next
request reads on behind the window, or the end of the file if there is no window.
-/

namespace RangeTail

namespace Snapshot

theorem answered_fault {s : Snapshot} {request : ByteRange} {latency : Nat} {fault : Fault}
    (h : ∀ total, fault ≠ .emptyFile total)
    : s.answered request latency (.error fault)
        =
      s.withFailure (.ofFault fault request latency) := by
  cases fault with
  | emptyFile total => exact absurd rfl (h total)
  | _ => rfl

end Snapshot

namespace Tail

/-- Nobody tells the tail what to do, no answer comes, and no request is due. -/
def Move.isPassive : Move → Bool
  | .event .settle => true
  | .event (.scrolled _) => true
  | .contact => true
  | .view _ => true
  | .store _ => true
  | _ => false

variable {t u : Tail} {now : Nat} {m : Move}

theorem isFetching_of_isPassive (h : m.isPassive) : (t.after now m).isFetching = t.isFetching := by
  cases m with
  | contact => exact Option.isSome_map
  | view => rfl
  | store => rfl
  | event e =>
    cases e with
    | settle => rfl
    | scrolled news =>
      dsimp only [after, handle]
      unfold isFetching
      rw [(noticeScroll_slots news).2]
      rfl
    | _ => simp [Move.isPassive] at h
  | _ => simp [Move.isPassive] at h

/-- No request is on its way and none is told to be made, so the next one is a matter of the clock
and would ask for the range. -/
structure Pauses (t : Tail) (range : ByteRange) : Prop where
  inFlight : t.inFlight = none
  pending : t.pending = none
  range_eq : nextRange t.snapshot none t.config.chunkSize = range

/-- The window does not change, so it ends where it did. -/
theorem stop_of_isPassive (h : m.isPassive)
    : (t.after now m).snapshot.stop = t.snapshot.stop := by
  rcases t.after_snapshot now m with ⟨follow, heq⟩ | ⟨f, answer, rfl, _⟩
  . rw [heq]
    rfl
  . simp [Move.isPassive] at h

theorem stop_of_fault {f : InFlight} {fault : Fault} (hf : t.inFlight = some f)
    (hfault : ∀ total, fault ≠ .emptyFile total)
    : (t.after now (.event (.fetched (.error fault)))).snapshot.stop = t.snapshot.stop := by
  rw [t.after_fetched now hf, complete_snapshot, Snapshot.answered_fault hfault]
  rfl

theorem Pauses.isFetching {range : ByteRange} (h : t.Pauses range) : t.isFetching = false := by
  simp [Tail.isFetching, h.inFlight]

theorem Pauses.after {range : ByteRange} (h : t.Pauses range) (hm : m.isPassive)
    : (t.after now m).Pauses range := by
  have hfetching : (t.after now m).isFetching = false := by
    rw [isFetching_of_isPassive hm]
    exact h.isFetching
  constructor
  . simpa [Tail.isFetching] using hfetching
  . cases t.after_dispatch now m with
    | sent hsends _ =>
      rw [hsends.isFetching] at hfetching
      contradiction
    | waiting hpending _ =>
      rw [hpending, waits_of_not_command]
      . exact h.pending
      . rintro c rfl
        simp [Move.isPassive] at hm
  . rw [after_config, ← h.range_eq]
    rcases t.after_snapshot now m with ⟨follow, heq⟩ | ⟨f, answer, rfl, _⟩
    . rw [heq]
      rfl
    . simp [Move.isPassive] at hm

theorem pauses_of_fault {f : InFlight} {fault : Fault} (hf : t.inFlight = some f)
    (hpending : t.pending = none) (hfault : ∀ total, fault ≠ .emptyFile total)
    : (t.after now (.event (.fetched (.error fault)))).Pauses
        (nextRange t.snapshot none t.config.chunkSize) := by
  have hslots := @complete_of_pending_none t now f (.error fault) hpending
  rw [t.after_fetched now hf]
  constructor
  . exact hslots.1
  . exact hslots.2.1
  . rw [complete_config, complete_snapshot, Snapshot.answered_fault hfault]
    rfl

theorem pollDue_of_answer {f : InFlight} (hf : t.inFlight = some f) (hpending : t.pending = none)
    (hfollow : t.snapshot.follow = true) (answer : Except Fault Chunk)
    : (t.after now (.event (.fetched answer))).pollDue
        = some (dueAfter now t.config.pollInterval) := by
  rw [t.after_fetched now hf, (complete_of_pending_none hpending).2.2]
  unfold pollSoon
  rw [if_pos hfollow]

theorem isPolling_of_answer {f : InFlight} (hf : t.inFlight = some f) (hpending : t.pending = none)
    (hfollow : t.snapshot.follow = true) (answer : Except Fault Chunk)
    : (t.after now (.event (.fetched answer))).isPolling := by
  unfold isPolling
  rw [pollDue_of_answer hf hpending hfollow]
  rfl

end Tail

namespace Account

variable {a b : Account} {range : ByteRange} {o : Order}

theorem IsBalanced.waiting_eq_none (h : a.IsBalanced) (hpauses : a.tail.Pauses range)
    : a.waiting = none := by
  have hwaiting := h.waiting
  rw [hpauses.pending] at hwaiting
  exact Option.map_eq_none_iff.mp hwaiting

theorem entries_after_of_pauses {now : Nat} {m : Tail.Move}
    (h : (a.tail.after now m).Pauses range)
    : (a.after now m).entries = a.entries := by
  unfold after
  dsimp only
  rw [Tail.request?_of_waiting]
  . apply List.append_nil
  . intro hfetching
    rw [h.isFetching] at hfetching
    contradiction

theorem entries_of_passive_run (h : a.tail.Pauses range) (hrun : Run (·.isPassive) a b)
    : b.tail.Pauses range ∧ b.entries = a.entries := by
  induction hrun with
  | refl => exact ⟨h, rfl⟩
  | @next b now m _ hm _ ih =>
    have hnext : (b.tail.after now m).Pauses range := ih.1.after hm
    exact ⟨hnext, (entries_after_of_pauses hnext).trans ih.2⟩

theorem stop_of_passive_run (hrun : Run (·.isPassive) a b)
    : b.tail.snapshot.stop = a.tail.snapshot.stop := by
  induction hrun with
  | refl => rfl
  | next now m _ hm _ ih => exact (Tail.stop_of_isPassive hm).trans ih

theorem after_poll (h : a.IsBalanced) (hpauses : a.tail.Pauses range) (now : Nat)
    : (a.after now (.event .poll)).tail.inFlight = some { range, started := now }
        ∧
      (a.after now (.event .poll)).entries = a.entries ++ [⟨range, none⟩] := by
  have hsends : (a.tail.after now (.event .poll)).Sends now none := by
    rw [← hpauses.pending]
    exact Tail.sends_start hpauses.inFlight
  have hrange : nextRange (a.tail.after now (.event .poll)).snapshot none
      (a.tail.after now (.event .poll)).config.chunkSize = range := by
    rw [Tail.after_config, ← hpauses.range_eq]
    dsimp only [Tail.after, Tail.handle]
    rw [Tail.start_snapshot]
  constructor
  . rw [← hrange]
    exact hsends.inFlight
  . unfold after
    dsimp only
    rw [Tail.request?_of_sends hsends, hrange]
    . have hwaits : a.waits (.event .poll) = none := h.waiting_eq_none hpauses
      rw [hwaits]
      rfl
    . intro hfetching
      rw [hpauses.isFetching] at hfetching
      contradiction

theorem first?_growth {s : Snapshot} {chunkSize offset : Nat}
    : (nextRange s none chunkSize).first? = some offset
        ↔
      ∃ stop, s.stop = some stop ∧ stop - 1 = offset := by
  unfold nextRange
  cases s.stop <;> simp [ByteRange.first?]

/--
A log is followed, and a request that was made by an instruction fails, but not because the file is
empty. If no instruction waits and none is given, the clock leads to a request, and that one is made
by none: it reads on behind the window, or the end of the file if there is no window. So it begins
where the instruction says only if the window ends right there, and the instruction is never carried
out again. The tail comes to it unless the window ends at a position that 64 bits do not hold.
-/
theorem failed_order_is_used_up {t : Tail} {a b : Account}
    (ha : Run (fun _ => True) (ofTail t) a) {f : InFlight} (hf : a.tail.inFlight = some f)
    (ho : a.entries.getLast? = some ⟨f.range, some o⟩) (hfollow : a.tail.snapshot.follow = true)
    (hpending : a.tail.pending = none) {fault : Fault} (hfault : ∀ total, fault ≠ .emptyFile total)
    (now later : Nat)
    (hb : Run (·.isPassive) (a.after now (.event (.fetched (.error fault)))) b)
    : (a.after now (.event (.fetched (.error fault)))).tail.isPolling
        ∧
      let range := nextRange a.tail.snapshot none a.tail.config.chunkSize
      let c := b.after later (.event .poll)
      c.tail.inFlight = some { range, started := later }
        ∧ c.entries = a.entries ++ [⟨range, none⟩]
        ∧ (range.first? = some o.directive.offset
            ↔ ∃ stop, a.tail.snapshot.stop = some stop ∧ stop - 1 = o.directive.offset)
        ∧ (∀ d, Run (fun _ => True) c d → d.carried.count o = 1)
        ∧ a.tail.handle? now (.fetched (.error fault))
          = some (a.after now (.event (.fetched (.error fault)))).tail
        ∧ (b.tail.handle? later .poll = some c.tail ↔ a.tail.snapshot.Fits) := by
  have hbalanced := isBalanced_of_run (isBalanced_ofTail t) ha
  have hfailed : (a.tail.after now (.event (.fetched (.error fault)))).Pauses
      (nextRange a.tail.snapshot none a.tail.config.chunkSize) :=
    Tail.pauses_of_fault hf hpending hfault
  obtain ⟨hpauses, hentries⟩ := entries_of_passive_run hfailed hb
  have hbalanced' := isBalanced_of_run (hbalanced.after now _) hb
  obtain ⟨hinFlight, hentries'⟩ := after_poll hbalanced' hpauses later
  rw [hentries, entries_after_of_pauses hfailed] at hentries'
  have hstop : b.tail.snapshot.stop = a.tail.snapshot.stop :=
    (stop_of_passive_run hb).trans (Tail.stop_of_fault hf hfault)
  refine ⟨Tail.isPolling_of_answer hf hpending hfollow _, hinFlight, hentries', first?_growth, ?_,
    Tail.handle?_fetched_error hf fault, ?_⟩
  . intro d hd
    apply count_carried_of_run (hbalanced'.after later _) hd
    unfold carried
    rw [hentries', List.mem_filterMap]
    refine ⟨⟨f.range, some o⟩, ?_, rfl⟩
    apply List.mem_append_left
    exact List.mem_of_getLast? ho
  . unfold Snapshot.Fits
    rw [← hstop]
    exact Tail.handle?_poll_iff hpauses.inFlight hpauses.pending

/-- A jump to the beginning fails; what is asked for next is what follows the window. -/
theorem failed_order_is_used_up_jump
    : let a₀ := ofTail (.ofConfig { chunkSize := 2, follow := true } "log")
      let a := ((a₀.after 0 .launch).after 1 (.event (.fetched (.ok ⟨4, [100, 101], 6⟩)))).after 2
        (.command (.jumpTo 0))
      let b := a.after 3 (.event (.fetched (.error .aborted)))
      Run (fun _ => True) a₀ a
        ∧ a.entries.getLast? = some ⟨.span 0 2, some ⟨1, .jump 0⟩⟩
        ∧ b.tail.handle? 503 .poll = some (b.after 503 (.event .poll)).tail
        ∧ (b.after 503 (.event .poll)).tail.inFlight = some { range := .span 5 8, started := 503 }
        ∧ (b.after 503 (.event .poll)).carried.count ⟨1, .jump 0⟩ = 1 := by
  intro a₀ a b
  have hrefl : Run (fun _ => True) a₀ a₀ := .refl
  have hrun : Run (fun _ => True) a₀ a := hrefl
    |>.next 0 .launch trivial trivial
    |>.next 1 (.event (.fetched (.ok ⟨4, [100, 101], 6⟩))) trivial rfl
    |>.next 2 (.command (.jumpTo 0)) trivial trivial
  have hlast : a.entries.getLast? = some ⟨.span 0 2, some ⟨1, .jump 0⟩⟩ := rfl
  have hfault : ∀ total, Fault.aborted ≠ .emptyFile total := nofun
  have hfits : a.tail.snapshot.Fits := by
    intro stop hstop
    obtain rfl := Option.some.inj hstop
    decide
  obtain ⟨_, hinFlight, _, _, hlater, _, hpoll⟩ :=
    failed_order_is_used_up hrun rfl hlast rfl rfl hfault 3 503 .refl
  refine ⟨hrun, hlast, hpoll.mpr hfits, ?_, hlater _ .refl⟩
  calc
    (b.after 503 (.event .poll)).tail.inFlight
      = some { range := nextRange a.tail.snapshot none 2, started := 503 } := hinFlight
    _ = some { range := .span 5 8, started := 503 } := rfl

/-- A request that was made by an instruction and fails is not always made again: a log that is to be
read from its beginning is read at its end. -/
theorem failed_jump_falls_back
    : ¬ ∀ (t : Tail) (a b : Account) (f : InFlight) (o : Order) (fault : Fault) (now later : Nat),
        t.Prepared → Run (· ≠ .command .cancel) (ofTail t) a → a.tail.inFlight = some f →
          a.entries.getLast? = some ⟨f.range, some o⟩ → a.tail.snapshot.follow = true →
          a.tail.pending = none → (∀ total, fault ≠ .emptyFile total) →
          Run (·.isPassive) (a.after now (.event (.fetched (.error fault)))) b → b.tail.isPolling →
            ∃ g, (b.after later (.event .poll)).tail.inFlight = some g
              ∧ g.range.first? = some o.directive.offset := by
  intro h
  let t := (Tail.ofConfig { chunkSize := 2, follow := true } "log").withOffset 0
  have hrefl : Run (· ≠ .command .cancel) (ofTail t) (ofTail t) := .refl
  have hrun := hrefl.next 0 .launch nofun trivial
  obtain ⟨g, hg, hfirst⟩ := h t _ _ _ ⟨0, .jump 0⟩ (.status 500) 1 501
    (.withOffset 0 (.ofConfig _ _)) hrun rfl rfl rfl rfl nofun .refl rfl
  obtain rfl : { range := .suffix 2, started := 501 } = g := Option.some.inj hg
  contradiction

end Account
end RangeTail
