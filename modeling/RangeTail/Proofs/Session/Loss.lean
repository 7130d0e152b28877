import RangeTail.Proofs.Session.Answer
import RangeTail.Proofs.Session.Errand
import RangeTail.Proofs.Session.Window
import RangeTail.Proofs.Tail.Failure

/-!
This module contains how a window of a log that is only appended to can be lost: by an answer to a
jump that goes to the end of the log or behind it, and in no other way. Everything else that is asked
for begins at a position that was once in front of the end, and so still is.
-/

namespace RangeTail

namespace Errand

/-- What the errand takes for known of a file is so in one of `size` bytes. -/
def IsWithin (size : Nat) : Errand → Prop
  | .previous start => start < size
  | .toEnd total => 0 < total ∧ total ≤ size
  | _ => True

/-- A jump on the errand lands in front of the end of `size` bytes. -/
def LandsWithin (size : Nat) : Errand → Prop
  | .jump offset => offset < size
  | _ => True

variable {e : Errand} {size chunkSize : Nat}

theorem IsWithin.mono {more : Nat} (h : e.IsWithin size) (hmore : size ≤ more)
    : e.IsWithin more := by
  cases e with
  | previous start => exact Nat.lt_of_lt_of_le h hmore
  | toEnd total => exact ⟨h.1, Nat.le_trans h.2 hmore⟩
  | _ => trivial

theorem IsWithin.offset_lt (h : e.IsWithin size) (hchunk : 0 < chunkSize) {d : Directive}
    (hd : e.directive? chunkSize = some d) (hjump : ∀ offset, e ≠ .jump offset)
    : d.offset < size := by
  cases e with
  | growth => contradiction
  | ending => contradiction
  | jump offset => exact absurd rfl (hjump offset)
  | previous start =>
    obtain rfl := Option.some.inj hd
    exact Nat.lt_of_le_of_lt (Nat.sub_le _ _) h
  | toEnd total =>
    obtain rfl := Option.some.inj hd
    obtain ⟨hpos, hle⟩ := h
    dsimp only [Directive.toEnd, Directive.offset]
    omega

end Errand

namespace Tail

variable {t : Tail} {log : MemoryLog}

theorem isWithin_endErrand? (h : t.snapshot.IsFaithful log)
    : ∀ e ∈ t.endErrand?, e.IsWithin log.size := by
  intro e he
  unfold endErrand? at he
  split at he
  . next hloaded =>
    obtain ⟨start, hstart⟩ := Option.isSome_iff_exists.mp hloaded
    obtain ⟨stop, _, hlt, hstop, htotal⟩ := h start hstart
    obtain rfl := Option.some.inj he
    exact ⟨by omega, htotal⟩
  . contradiction

/-- Nothing but a jump can be told to be read at or behind the end of the log. -/
theorem isWithin_errand? (h : t.snapshot.IsFaithful log) (m : Move)
    : ∀ e ∈ t.errand? m, e.IsWithin log.size := by
  intro e he
  unfold errand? at he
  split at he
  . obtain rfl := Option.some.inj he
    trivial
  . split at he
    . contradiction
    . next start hstart =>
      obtain ⟨stop, hholds, hlt, _⟩ := h start hstart
      have := hholds.stop_le
      split at he
      . obtain rfl := Option.some.inj he
        dsimp only [Errand.IsWithin]
        omega
      . contradiction
  . exact isWithin_endErrand? h e he
  . split at he
    . contradiction
    . exact isWithin_endErrand? h e he
  . contradiction

end Tail

namespace Agenda

/-- The window is a part of the log, and so is what the agenda takes for known of it. -/
structure IsTruthful (a : Agenda) : Prop where
  kept : a.IsKept
  faithful : a.session.tail.snapshot.IsFaithful a.session.source.log
  plans : a.Plans (·.IsWithin a.session.source.log.size)

variable {a b : Agenda} {m : Session.Move} {f : InFlight}

theorem isTruthful_ofSession {t : Tail} (ht : t.Prepared) (source : MemorySource) (now : Nat)
    : (ofSession ⟨t, source, now⟩).IsTruthful where
  kept := isKept_ofSession ht source now
  faithful := Snapshot.isFaithful_of_unloaded ht.offset_eq
  plans := by
    constructor
    . exact fun e he => nomatch he
    . intro e he
      obtain ⟨d, _, rfl⟩ := Option.map_eq_some_iff.mp he
      trivial

theorem IsTruthful.after (h : a.IsTruthful) (hm : ∀ n, m ≠ .truncate n)
    (hcan : a.session.CanHappen m)
    : (a.after m).IsTruthful := by
  have hlog := (Session.after_log (s := a.session) hm).length_le
  refine ⟨h.kept.after m, Session.isFaithful_after h.faithful hm hcan, ?_⟩
  have hplans : (a.after m).Plans (·.IsWithin a.session.source.log.size) := by
    cases m with
    | tail m =>
      apply h.plans.after
      . exact Tail.isWithin_errand? h.faithful m
      . exact Errand.forall_unprompted trivial trivial _
    | _ => exact ⟨h.plans.current, h.plans.next⟩
  exact hplans.mono fun _ he => he.mono hlog

theorem isTruthful_of_run (h : a.IsTruthful) (hrun : Run (fun m => ∀ n, m ≠ .truncate n) a b)
    : b.IsTruthful := by
  induction hrun with
  | refl => exact h
  | next m _ hm hcan ih => exact ih.after hm hcan

/-- The news that there is nothing to read comes to nothing but a jump. -/
theorem IsTruthful.current_of_serve_error (h : a.IsTruthful)
    (hloaded : a.session.tail.snapshot.isLoaded) (hsize : a.session.source.log.size ≤ maxOffset)
    (hchunk : 0 < a.session.tail.config.chunkSize) (hf : a.session.tail.inFlight = some f)
    {fault : Fault} (hserve : a.session.source.log.serve f.range = .error fault)
    : ∃ offset, a.current = some (.jump offset) ∧ a.session.source.log.size ≤ offset := by
  obtain ⟨e, he, hmade⟩ := h.kept.current f hf
  have hwithin := h.plans.current e he
  rw [hmade.range] at hserve
  unfold Errand.range at hserve
  cases hd : e.directive? a.session.tail.config.chunkSize with
  | none =>
    -- what is read unprompted is the growth of the window, which has at least its last byte
    obtain ⟨start, hstart⟩ := Option.isSome_iff_exists.mp hloaded
    obtain ⟨stop, hholds, hlt, _⟩ := h.faithful start hstart
    obtain ⟨c, hc⟩ := MemoryLog.exists_serve_growth hsize hholds.stop_eq (by omega) hholds.stop_le
      a.session.tail.config.chunkSize
    rw [hd, hc] at hserve
    contradiction
  | some d =>
    rw [hd] at hserve
    have hoffset : a.session.source.log.size ≤ d.offset := by
      rw [← Nat.not_lt]
      intro hlt
      obtain ⟨c, hc⟩ := MemoryLog.exists_serve_directed hsize a.session.tail.snapshot _ hlt
      rw [hc] at hserve
      contradiction
    by_cases hjump : ∃ offset, e = .jump offset
    . obtain ⟨offset, rfl⟩ := hjump
      obtain rfl := Option.some.inj hd
      exact ⟨offset, he, hoffset⟩
    . have := hwithin.offset_lt hchunk hd fun offset heq => hjump ⟨offset, heq⟩
      omega

/-- A window is lost by what its log serves for a jump, and by nothing else. -/
theorem IsTruthful.lost_by_jump (h : a.IsTruthful)
    (hloaded : a.session.tail.snapshot.isLoaded) (hhonest : a.session.source.IsHonest)
    (hsize : a.session.source.log.size ≤ maxOffset)
    (hchunk : 0 < a.session.tail.config.chunkSize) {m : Tail.Move}
    (hcan : a.session.CanHappen (.tail m))
    (hlost : (a.session.after (.tail m)).tail.snapshot.offset = none)
    : (∃ answer, m = .event (.fetched answer))
        ∧ a.session.source.failures = []
        ∧ ∃ offset, a.current = some (.jump offset) ∧ a.session.source.log.size ≤ offset := by
  have hne : a.session.tail.snapshot.offset ≠ none := Option.isSome_iff_ne_none.mp hloaded
  rcases Session.after_snapshot hcan with ⟨follow, heq⟩ | ⟨f, answer, latency, rfl, hf, heq, hanswer⟩
  . rw [heq] at hlost
    exact absurd hlost hne
  . rw [heq] at hlost
    rcases hanswer with ⟨fault, hfault, rfl⟩ | ⟨hfailures, rfl⟩
    . rw [Snapshot.answered_fault (hhonest fault hfault)] at hlost
      exact absurd hlost hne
    . refine ⟨⟨_, rfl⟩, hfailures, ?_⟩
      cases hserve : a.session.source.log.serve f.range with
      | ok c =>
        rw [hserve] at hlost
        contradiction
      | error fault => exact h.current_of_serve_error hloaded hsize hchunk hf hserve

theorem IsKept.offset_of_jump (h : a.IsKept) {offset : Nat}
    (hcurrent : a.current = some (.jump offset)) (hoffset : a.session.source.log.size ≤ offset)
    (hfailures : a.session.source.failures = []) {answer : Except Fault Chunk}
    (hcan : a.session.CanHappen (.tail (.event (.fetched answer))))
    : (a.session.fire (.fetched answer)).tail.snapshot.offset = none := by
  obtain ⟨f, hf, _, hanswer⟩ := Session.fetched_mem_ready.mp hcan
  obtain ⟨e, he, hmade⟩ := h.current f hf
  obtain rfl : .jump offset = e := Option.some.inj (hcurrent.symm.trans he)
  have hserve : a.session.source.log.serve f.range
      = .error (.emptyFile a.session.source.log.size) := by
    rw [hmade.range]
    exact MemoryLog.serve_directed_eq_error (d := .jump offset) hoffset
  rcases Session.answer_eq hanswer with ⟨fault, hfault, _⟩ | ⟨_, rfl⟩
  . rw [hfailures] at hfault
    contradiction
  . rw [Session.fire_fetched hf, Tail.complete_snapshot, hserve]
    rfl

/--
A window is held of a log that is only appended to. Then it is lost by what happens next if and only
if that is the answer of the log, and not a failure, to a jump to its end or behind it.
-/
theorem window_lost_iff {t : Tail} (ht : t.Prepared) (source : MemorySource) (now : Nat)
    (ha : Run (fun m => ∀ n, m ≠ .truncate n) (ofSession ⟨t, source, now⟩) a)
    (hloaded : a.session.tail.snapshot.isLoaded) (hhonest : a.session.source.IsHonest)
    (hsize : a.session.source.log.size ≤ maxOffset)
    (hchunk : 0 < a.session.tail.config.chunkSize) (hcan : a.session.CanHappen m)
    : (a.after m).session.tail.snapshot.offset = none
        ↔
      (∃ answer, m = .tail (.event (.fetched answer)))
        ∧ a.session.source.failures = []
        ∧ ∃ offset, a.current = some (.jump offset) ∧ a.session.source.log.size ≤ offset := by
  have htruthful := isTruthful_of_run (isTruthful_ofSession ht source now) ha
  have hne : a.session.tail.snapshot.offset ≠ none := Option.isSome_iff_ne_none.mp hloaded
  constructor
  . intro hlost
    cases m with
    | tail m =>
      obtain ⟨⟨answer, rfl⟩, hjump⟩ :=
        htruthful.lost_by_jump hloaded hhonest hsize hchunk hcan hlost
      exact ⟨⟨answer, rfl⟩, hjump⟩
    | _ => exact absurd hlost hne
  . rintro ⟨⟨answer, rfl⟩, hfailures, offset, hcurrent, hoffset⟩
    exact htruthful.kept.offset_of_jump hcurrent hoffset hfailures hcan

/-- The last two of three bytes are held, and the end of the log is jumped to. -/
theorem window_lost_iff_end
    : let source : MemorySource := { log := ⟨[97, 98, 99]⟩ }
      let a := [.tail .launch, .tail .contact, .tail (.event (.fetched (.ok ⟨1, [98, 99], 3⟩))),
        .tail (.command (.jumpTo 3)), .tail .contact].foldl after
          (ofSession ⟨.ofConfig { chunkSize := 2 } "log", source, 0⟩)
      a.session.tail.snapshot.bytes = [98, 99]
        ∧ let b := a.after (.tail (.event (.fetched (a.session.source.log.serve (.span 3 5)))))
          b.session.tail.snapshot.offset = none := by
  intro source a
  have hrefl (a : Agenda) : Run (fun m => ∀ n, m ≠ .truncate n) a a := .refl
  have ha : Run (fun m => ∀ n, m ≠ .truncate n) _ a := hrefl _
    |>.next (.tail .launch) nofun trivial
    |>.next (.tail .contact) nofun trivial
    |>.next (.tail (.event (.fetched (.ok ⟨1, [98, 99], 3⟩)))) nofun
      (Session.chunk_mem_ready (by decide +kernel))
    |>.next (.tail (.command (.jumpTo 3))) nofun trivial
    |>.next (.tail .contact) nofun trivial
  have hf : a.session.tail.inFlight = some ⟨⟨.span 3 5, true⟩, 0⟩ := by decide +kernel
  have hcan : a.session.CanHappen
      (.tail (.event (.fetched (a.session.source.log.serve (.span 3 5))))) :=
    Session.serve_mem_ready hf rfl (by decide +kernel) (by decide +kernel)
  have hiff := window_lost_iff (.ofConfig _ _) source 0 ha (by decide +kernel) nofun
    (by decide +kernel) (by decide +kernel) hcan
  exact ⟨by decide +kernel,
    hiff.mpr ⟨⟨_, rfl⟩, by decide +kernel, 3, by decide +kernel, by decide +kernel⟩⟩

/-- A window does not stay for ever, although its log is only appended to and no fault says that the
log is empty: a jump to the end of three bytes gives it up. -/
theorem jump_to_end_loses_window
    : ¬ ∀ (t : Tail) (source : MemorySource) (now : Nat) (s u : Session), t.Prepared →
        0 < t.config.chunkSize → source.IsHonest →
          Session.Run (·.isHonest) ⟨t, source, now⟩ s → s.tail.snapshot.isLoaded →
            Session.Run (·.isHonest) s u → u.source.log.size ≤ maxOffset →
              u.tail.snapshot.isLoaded := by
  intro h
  let source : MemorySource := { log := ⟨[97, 98, 99]⟩ }
  let s := [.tail .launch, .tail .contact, .tail (.event (.fetched (.ok ⟨1, [98, 99], 3⟩)))].foldl
    Session.after ⟨.ofConfig { chunkSize := 2 } "log", source, 0⟩
  let u := [.tail (.command (.jumpTo 3)), .tail .contact].foldl Session.after s
  have hrefl (s : Session) : Session.Run (·.isHonest) s s := .refl
  have hs : Session.Run (·.isHonest) _ s := hrefl _
    |>.next (.tail .launch) rfl trivial
    |>.next (.tail .contact) rfl trivial
    |>.next (.tail (.event (.fetched (.ok ⟨1, [98, 99], 3⟩)))) rfl
      (Session.chunk_mem_ready (by decide +kernel))
  have hf : u.tail.inFlight = some ⟨⟨.span 3 5, true⟩, 0⟩ := by decide +kernel
  have hready := Session.serve_mem_ready hf rfl (by decide +kernel) (by decide +kernel)
  have hu := hrefl s
    |>.next (.tail (.command (.jumpTo 3))) rfl trivial
    |>.next (.tail .contact) rfl trivial
    |>.next (.tail (.event (.fetched (u.source.log.serve (.span 3 5))))) rfl hready
  have hloaded := h _ source 0 s _ (.ofConfig _ _) (by decide +kernel) nofun hs (by decide +kernel)
    hu (by decide +kernel)
  revert hloaded
  decide +kernel

/-- The log is only appended to, no fault is made up that says that it is empty, and every jump goes
to one of its first `size` bytes. -/
def staysWithin (size : Nat) (m : Session.Move) : Prop :=
  m.isHonest ∧ ∀ offset, m = .tail (.command (.jumpTo offset)) → offset < size

/-- A window is held, and nothing can come that loses it. -/
structure IsSafe (a : Agenda) (size : Nat) : Prop where
  truthful : a.IsTruthful
  loaded : a.session.tail.snapshot.isLoaded
  honest : a.session.source.IsHonest
  chunkSize_pos : 0 < a.session.tail.config.chunkSize
  size_le : size ≤ a.session.source.log.size
  lands : a.Plans (·.LandsWithin size)

variable {size : Nat}

theorem landsWithin_errand? (t : Tail) {m : Tail.Move} (hm : staysWithin size (.tail m))
    : ∀ e ∈ t.errand? m, e.LandsWithin size := by
  intro e he
  cases e with
  | jump offset =>
    unfold Tail.errand? Tail.endErrand? at he
    apply hm.2
    grind
  | _ => trivial

theorem IsSafe.loaded_after (h : a.IsSafe size) (hcan : a.session.CanHappen m)
    (hsize : a.session.source.log.size ≤ maxOffset)
    : (a.after m).session.tail.snapshot.isLoaded := by
  cases m with
  | tail m =>
    apply Option.isSome_iff_ne_none.mpr
    intro hlost
    obtain ⟨_, _, offset, hcurrent, hoffset⟩ :=
      h.truthful.lost_by_jump h.loaded h.honest hsize h.chunkSize_pos hcan hlost
    have hlt : offset < size := h.lands.current _ hcurrent
    have := h.size_le
    omega
  | _ => exact h.loaded

theorem IsSafe.after (h : a.IsSafe size) (hm : staysWithin size m) (hcan : a.session.CanHappen m)
    (hsize : a.session.source.log.size ≤ maxOffset)
    : (a.after m).IsSafe size where
  truthful := h.truthful.after (Session.Move.ne_truncate hm.1) hcan
  loaded := h.loaded_after hcan hsize
  honest := Session.isHonest_after h.honest hm.1
  chunkSize_pos := by
    cases m with
    | tail m =>
      dsimp only [Agenda.after]
      rw [Session.after_tail, Tail.after_config]
      exact h.chunkSize_pos
    | _ => exact h.chunkSize_pos
  size_le := by
    have hlog := Session.after_log (s := a.session) (Session.Move.ne_truncate hm.1)
    exact Nat.le_trans h.size_le hlog.length_le
  lands := by
    cases m with
    | tail m =>
      apply h.lands.after
      . exact landsWithin_errand? a.session.tail hm
      . exact Errand.forall_unprompted trivial trivial _
    | _ => exact ⟨h.lands.current, h.lands.next⟩

theorem isSafe_of_run (h : a.IsSafe size) (hrun : Run (staysWithin size) a b)
    (hsize : b.session.source.log.size ≤ maxOffset)
    : b.IsSafe size := by
  induction hrun with
  | refl => exact h
  | @next b m _ hm hcan ih =>
    have hlog := Session.after_log (s := b.session) (Session.Move.ne_truncate hm.1)
    have hbefore := Nat.le_trans hlog.length_le hsize
    exact (ih hbefore).after hm hcan hbefore

/-- As long as nobody jumps to the end of the log as it is now, or behind it, a window that is held of
it stays. -/
theorem window_kept_of_run {t : Tail} (ht : t.Prepared) (source : MemorySource) (now : Nat)
    (ha : Run (fun m => ∀ n, m ≠ .truncate n) (ofSession ⟨t, source, now⟩) a)
    (hloaded : a.session.tail.snapshot.isLoaded) (hhonest : a.session.source.IsHonest)
    (hchunk : 0 < a.session.tail.config.chunkSize)
    (hlands : a.Plans (·.LandsWithin a.session.source.log.size))
    (hb : Run (staysWithin a.session.source.log.size) a b)
    (hsize : b.session.source.log.size ≤ maxOffset)
    : b.session.tail.snapshot.isLoaded := by
  have htruthful := isTruthful_of_run (isTruthful_ofSession ht source now) ha
  have hsafe : a.IsSafe a.session.source.log.size :=
    ⟨htruthful, hloaded, hhonest, hchunk, Nat.le_refl _, hlands⟩
  exact (isSafe_of_run hsafe hb hsize).loaded

end Agenda
end RangeTail
