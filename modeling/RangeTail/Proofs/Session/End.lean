import RangeTail.Proofs.Session.Answer
import RangeTail.Proofs.Snapshot.Stop
import RangeTail.Proofs.Tail.Dispatch

/-!
This module contains what becomes of the wish to read the end of a log that does not change. The
window reaches the end with the second answer at the latest, unless nothing was read before and the
request on its way stops too far in front of the end: then the wish is lost.
-/

namespace RangeTail

namespace Tail

/-- The range that is asked for, or will be next if the tail is told nothing else. -/
def demand (t : Tail) : ByteRange :=
  match t.inFlight with
  | some f => f.range
  | none => nextRange t.snapshot t.pending t.config.chunkSize

variable {t u : Tail} {now : Nat} {m : Move}

theorem demand_of_inFlight {f : InFlight} (h : t.inFlight = some f) : t.demand = f.range := by
  unfold demand
  rw [h]

/-- Without a request on its way, and with the answer to one, the instruction that waits is what is
asked for. -/
theorem demand_after (h : t.isFetching → m.isAnswer)
    : (t.after now m).demand
        =
      nextRange (t.after now m).snapshot (t.waits m) t.config.chunkSize := by
  rw [← t.after_config now m]
  cases t.after_dispatch now m with
  | sent hsends _ => exact demand_of_inFlight hsends.inFlight
  | waiting hpending hfetching =>
    have hinFlight : (t.after now m).inFlight = none := by
      rw [← Option.not_isSome_iff_eq_none]
      intro hsome
      have := hfetching hsome
      exact this.2 (h this.1)
    unfold demand
    rw [hinFlight, hpending]

theorem Keeps.demand_eq (h : t.Keeps u) (ht : t.isFetching) : u.demand = t.demand := by
  obtain ⟨f, hf⟩ := Option.isSome_iff_exists.mp ht
  obtain ⟨g, hg, hrange, _⟩ := h f hf
  rw [demand_of_inFlight hf, demand_of_inFlight hg, hrange]

/-- Nobody tells the tail what to do or scrolls its view, and no answer comes. -/
def Move.isQuiet : Move → Bool
  | .command _ => false
  | .event (.fetched _) => false
  | .event (.scrolled _) => false
  | _ => true

/-- What a tail asks for, holds and is told to do next is the same for `u` as for `t`. -/
structure Stays (t u : Tail) : Prop where
  config : u.config = t.config
  snapshot : u.snapshot = t.snapshot
  demand : u.demand = t.demand
  pending : t.isFetching → u.isFetching ∧ u.pending = t.pending

theorem Stays.refl (t : Tail) : t.Stays t :=
  ⟨rfl, rfl, rfl, fun h => ⟨h, rfl⟩⟩

theorem Stays.trans {v : Tail} (h₁ : t.Stays u) (h₂ : u.Stays v) : t.Stays v where
  config := h₂.config.trans h₁.config
  snapshot := h₂.snapshot.trans h₁.snapshot
  demand := h₂.demand.trans h₁.demand
  pending h := by
    have hu := h₁.pending h
    have hv := h₂.pending hu.1
    exact ⟨hv.1, hv.2.trans hu.2⟩

theorem snapshot_of_isQuiet (h : m.isQuiet) : (t.after now m).snapshot = t.snapshot := by
  cases m with
  | launch => apply launch_snapshot
  | start => apply start_snapshot
  | command => simp [Move.isQuiet] at h
  | event e =>
    cases e with
    | poll => apply start_snapshot
    | settle => rfl
    | _ => simp [Move.isQuiet] at h
  | _ => rfl

theorem stays_of_isQuiet (h : m.isQuiet) : t.Stays (t.after now m) := by
  have hwaits : t.waits m = t.pending := by
    apply waits_of_not_command
    rintro c rfl
    simp [Move.isQuiet] at h
  have hanswer : ∀ answer, m ≠ .event (.fetched answer) := by
    rintro answer rfl
    simp [Move.isQuiet] at h
  have hcancel : m ≠ .command .cancel := by
    rintro rfl
    simp [Move.isQuiet] at h
  have hkeeps : t.Keeps (t.after now m) := keeps_after hcancel hanswer
  have hsnapshot : (t.after now m).snapshot = t.snapshot := snapshot_of_isQuiet h
  cases hfetching : t.isFetching with
  | false =>
    refine ⟨t.after_config now m, hsnapshot, ?_, by simp [hfetching]⟩
    have hinFlight : t.inFlight = none := by simpa [isFetching] using hfetching
    rw [demand_after, hsnapshot, hwaits]
    . unfold demand
      rw [hinFlight]
    . simp [hfetching]
  | true =>
    refine ⟨t.after_config now m, hsnapshot, hkeeps.demand_eq hfetching, ?_⟩
    intro
    refine ⟨hkeeps.isFetching hfetching, ?_⟩
    rw [← hwaits]
    apply pending_of_isFetching hfetching
    cases m with
    | event e =>
      cases e with
      | fetched answer => exact absurd rfl (hanswer answer)
      | _ => rfl
    | _ => rfl

end Tail

namespace Session

/-- The log stays as it is, nobody tells the tail what to do, and no answer comes. -/
def Move.isQuiet : Move → Bool
  | .append _ => false
  | .truncate _ => false
  | .tail m => m.isQuiet
  | _ => true

/-- What a session becomes when it is left alone until some of its requests were answered by bytes
of its log. -/
inductive Reads (s : Session) : Nat → Session → Prop
  | refl : Reads s 0 s
  | quiet {n : Nat} {u : Session} (m : Move) :
      Reads s n u → m.isQuiet → u.CanHappen m → Reads s n (u.after m)
  | chunk {n : Nat} {u : Session} (c : Chunk) :
      Reads s n u → .fetched (.ok c) ∈ u.ready → Reads s (n + 1) (u.fire (.fetched (.ok c)))

structure Stays (s u : Session) : Prop where
  tail : s.tail.Stays u.tail
  log : u.source.log = s.source.log

variable {s u v : Session} {n : Nat} {c : Chunk}

theorem Stays.refl (s : Session) : s.Stays s :=
  ⟨.refl s.tail, rfl⟩

theorem Stays.trans (h₁ : s.Stays u) (h₂ : u.Stays v) : s.Stays v :=
  ⟨h₁.tail.trans h₂.tail, h₂.log.trans h₁.log⟩

theorem stays_of_isQuiet {m : Move} (h : m.isQuiet) : s.Stays (s.after m) := by
  cases m with
  | tail m =>
    constructor
    . rw [after_tail]
      exact Tail.stays_of_isQuiet h
    . apply after_tail_log
  | append => simp [Move.isQuiet] at h
  | truncate => simp [Move.isQuiet] at h
  | _ => exact ⟨.refl s.tail, rfl⟩

theorem Reads.stays (h : Reads s 0 u) : s.Stays u := by
  generalize hn : 0 = n at h
  induction h with
  | refl => exact .refl s
  | quiet m _ hm _ ih => exact (ih hn).trans (stays_of_isQuiet hm)
  | chunk => simp at hn

theorem Reads.exists_chunk (h : Reads s (n + 1) u)
    : ∃ v c, Reads s n v ∧ .fetched (.ok c) ∈ v.ready ∧ (v.fire (.fetched (.ok c))).Stays u := by
  generalize hk : n + 1 = k at h
  induction h with
  | refl => simp at hk
  | quiet m _ hm _ ih =>
    obtain ⟨v, c, hv, hready, hstays⟩ := ih hk
    exact ⟨v, c, hv, hready, hstays.trans (stays_of_isQuiet hm)⟩
  | chunk c hv hready =>
    obtain rfl := Nat.succ.inj hk
    exact ⟨_, c, hv, hready, .refl _⟩

/-- The chunk that answers a request is what the log serves for it, and joins the window. -/
theorem fire_chunk (h : .fetched (.ok c) ∈ v.ready)
    : v.source.log.serve v.tail.demand = .ok c
        ∧ (v.fire (.fetched (.ok c))).source.log = v.source.log
        ∧ (v.fire (.fetched (.ok c))).tail.snapshot = v.tail.snapshot.merge c
        ∧ (v.fire (.fetched (.ok c))).tail.demand
            = nextRange (v.tail.snapshot.merge c) v.tail.pending v.tail.config.chunkSize := by
  obtain ⟨f, hf, _, hanswer⟩ := fetched_mem_ready.mp h
  have hsnapshot : (v.fire (.fetched (.ok c))).tail.snapshot = v.tail.snapshot.merge c := by
    rw [fire_fetched hf]
    exact v.tail.complete_snapshot v.now f (.ok c)
  refine ⟨?_, rfl, hsnapshot, ?_⟩
  . rw [Tail.demand_of_inFlight hf]
    rcases answer_cases hanswer with ⟨fault, hfault⟩ | hserve
    . contradiction
    . exact hserve.symm
  . rw [← hsnapshot]
    exact Tail.demand_after (m := .event (.fetched (.ok c))) (fun _ => rfl)

theorem reads_one (h : Reads s 1 u)
    : ∃ c, s.source.log.serve s.tail.demand = .ok c
        ∧ u.tail.snapshot = s.tail.snapshot.merge c := by
  obtain ⟨v, c, hv, hready, hstays⟩ := h.exists_chunk
  obtain ⟨hserve, _, hsnapshot, _⟩ := fire_chunk hready
  rw [hv.stays.log, hv.stays.tail.demand] at hserve
  rw [hv.stays.tail.snapshot] at hsnapshot
  exact ⟨c, hserve, hstays.tail.snapshot.trans hsnapshot⟩

theorem reads_two (h : Reads s 2 u) (hs : s.tail.isFetching)
    : ∃ c d, s.source.log.serve s.tail.demand = .ok c
        ∧ s.source.log.serve
            (nextRange (s.tail.snapshot.merge c) s.tail.pending s.tail.config.chunkSize) = .ok d
        ∧ u.tail.snapshot = (s.tail.snapshot.merge c).merge d := by
  obtain ⟨w, d, hw, hready', hstays'⟩ := h.exists_chunk
  obtain ⟨v, c, hv, hready, hstays⟩ := hw.exists_chunk
  obtain ⟨hserve, hlog, hsnapshot, hdemand⟩ := fire_chunk hready
  obtain ⟨hserve', _, hsnapshot', _⟩ := fire_chunk hready'
  have hv := hv.stays
  rw [hv.log, hv.tail.demand] at hserve
  rw [hstays.log, hlog, hv.log, hstays.tail.demand, hdemand] at hserve'
  rw [hv.tail.snapshot, (hv.tail.pending hs).2, hv.tail.config] at hserve'
  rw [hstays.tail.snapshot, hsnapshot, hv.tail.snapshot] at hsnapshot'
  exact ⟨c, d, hserve, hserve', hstays'.tail.snapshot.trans hsnapshot'⟩

/-! The wish for the end -/

theorem toEnd?_of_unloaded {t : Tail} (h : t.snapshot.offset = none) : t.toEnd? = none := by
  simp [Tail.toEnd?, Snapshot.isLoaded, h]

theorem toEnd?_of_loaded {t : Tail} (h : t.snapshot.isLoaded)
    : t.toEnd? = some (.toEnd t.snapshot.total t.config.chunkSize) := by
  simp [Tail.toEnd?, h]

theorem stop_merge_of_serve {log : MemoryLog} {r : ByteRange} (h : log.serve r = .ok c)
    (hend : (MemoryLog.bounds log.size r).2 = log.size) (t : Snapshot)
    : (t.merge c).stop = some log.size := by
  obtain ⟨_, hstop, htotal, _⟩ := MemoryLog.stop_of_serve h
  rw [← htotal]
  apply Snapshot.stop_merge_of_end
  rw [hstop, hend, htotal]

theorem apply_skipToEnd_log (s : Session) : (s.apply .skipToEnd).source.log = s.source.log :=
  s.after_tail_log (.command .skipToEnd)

theorem apply_skipToEnd_snapshot (s : Session)
    : (s.apply .skipToEnd).tail.snapshot = s.tail.snapshot.withFollow true :=
  s.tail.skipToEnd_snapshot s.now

theorem apply_skipToEnd_config (s : Session) : (s.apply .skipToEnd).tail.config = s.tail.config :=
  s.tail.after_config s.now (.command .skipToEnd)

theorem apply_skipToEnd_keeps (s : Session) : s.tail.Keeps (s.apply .skipToEnd).tail :=
  Tail.keeps_apply nofun

theorem apply_skipToEnd_pending (h : s.tail.isFetching)
    : (s.apply .skipToEnd).tail.pending = s.tail.toEnd? := by
  rw [← Tail.waits_skipToEnd]
  exact Tail.pending_of_isFetching (m := .command .skipToEnd) h rfl

theorem apply_skipToEnd_demand (h : s.tail.isFetching = false)
    : (s.apply .skipToEnd).tail.demand
        =
      nextRange (s.apply .skipToEnd).tail.snapshot s.tail.toEnd? s.tail.config.chunkSize := by
  rw [← Tail.waits_skipToEnd]
  apply Tail.demand_after (m := .command .skipToEnd)
  simp [h]

theorem stop_of_idle (hsize : s.source.log.size ≤ maxOffset)
    (htotal : s.tail.snapshot.isLoaded → s.tail.snapshot.total = s.source.log.size)
    (hidle : s.tail.isFetching = false) (hreads : Reads (s.apply .skipToEnd) 1 u)
    : u.tail.snapshot.stop = some s.source.log.size := by
  obtain ⟨c, hserve, hu⟩ := reads_one hreads
  rw [apply_skipToEnd_log, apply_skipToEnd_demand hidle] at hserve
  rw [hu]
  apply stop_merge_of_serve hserve
  cases hoffset : s.tail.snapshot.offset with
  | none =>
    rw [toEnd?_of_unloaded hoffset]
    apply MemoryLog.bounds_suffix
    rw [apply_skipToEnd_snapshot]
    exact hoffset
  | some start =>
    have hloaded : s.tail.snapshot.isLoaded := by simp [Snapshot.isLoaded, hoffset]
    rw [toEnd?_of_loaded hloaded, htotal hloaded]
    apply MemoryLog.bounds_toEnd hsize

theorem stop_of_loaded (hsize : s.source.log.size ≤ maxOffset) (hloaded : s.tail.snapshot.isLoaded)
    (htotal : s.tail.snapshot.total = s.source.log.size) (hfetching : s.tail.isFetching)
    (hreads : Reads (s.apply .skipToEnd) 2 u)
    : u.tail.snapshot.stop = some s.source.log.size := by
  have hfetching' := s.apply_skipToEnd_keeps.isFetching hfetching
  obtain ⟨c, d, _, hserve, hu⟩ := reads_two hreads hfetching'
  rw [apply_skipToEnd_log, apply_skipToEnd_pending hfetching, apply_skipToEnd_config,
    toEnd?_of_loaded hloaded, htotal] at hserve
  rw [hu]
  apply stop_merge_of_serve hserve
  apply MemoryLog.bounds_toEnd hsize

theorem stop_of_unloaded (hsize : s.source.log.size ≤ maxOffset)
    (hunloaded : s.tail.snapshot.offset = none) {f : InFlight} (hf : s.tail.inFlight = some f)
    (hreads : Reads (s.apply .skipToEnd) 2 u)
    : u.tail.snapshot.stop
        =
      some (min ((MemoryLog.bounds s.source.log.size f.range).2 + s.tail.config.chunkSize + 1)
        s.source.log.size) := by
  have hfetching : s.tail.isFetching := by simp [Tail.isFetching, hf]
  have hfetching' := s.apply_skipToEnd_keeps.isFetching hfetching
  obtain ⟨c, d, hserve, hserve', hu⟩ := reads_two hreads hfetching'
  rw [apply_skipToEnd_log, s.apply_skipToEnd_keeps.demand_eq hfetching,
    Tail.demand_of_inFlight hf] at hserve
  rw [apply_skipToEnd_log, apply_skipToEnd_pending hfetching, apply_skipToEnd_config,
    toEnd?_of_unloaded hunloaded] at hserve'
  obtain ⟨_, hstop, _⟩ := MemoryLog.stop_of_serve hserve
  rw [hu, ← hstop]
  apply Snapshot.stop_merge_of_growth hsize _ hserve hserve'
  rw [apply_skipToEnd_snapshot]
  exact hunloaded

/--
The end of a log that does not change is wished for. With the request that is on its way, if there
is one, and the next one answered by bytes of the log, the window ends where the log does, unless
there was no window: then it does only if the request on its way ends no further in front of the end
of the log than the next one reaches.
-/
theorem skipToEnd_reaches_end_iff (hsize : s.source.log.size ≤ maxOffset)
    (htotal : s.tail.snapshot.isLoaded → s.tail.snapshot.total = s.source.log.size)
    (hreads : Reads (s.apply .skipToEnd) (if s.tail.isFetching then 2 else 1) u)
    : u.tail.snapshot.stop = some s.source.log.size
        ↔
      s.tail.snapshot.isLoaded
        ∨ ∀ f, s.tail.inFlight = some f →
            s.source.log.size
              ≤ (MemoryLog.bounds s.source.log.size f.range).2 + s.tail.config.chunkSize + 1 := by
  cases hf : s.tail.inFlight with
  | none =>
    have hidle : s.tail.isFetching = false := by simp [Tail.isFetching, hf]
    rw [hidle] at hreads
    apply iff_of_true
    . exact stop_of_idle hsize htotal hidle hreads
    . right
      simp
  | some f =>
    have hfetching : s.tail.isFetching := by simp [Tail.isFetching, hf]
    rw [if_pos hfetching] at hreads
    cases hloaded : s.tail.snapshot.isLoaded with
    | true =>
      apply iff_of_true
      . exact stop_of_loaded hsize hloaded (htotal hloaded) hfetching hreads
      . left
        rfl
    | false =>
      -- the wish is forgotten, and what follows the chunk on its way is read
      have hunloaded : s.tail.snapshot.offset = none := by
        simpa [Snapshot.isLoaded] using hloaded
      rw [stop_of_unloaded hsize hunloaded hf hreads]
      simp only [Option.some.injEq, Bool.false_eq_true, false_or, forall_eq']
      omega

/-- The end is wished for while the beginning is on its way, and is read after it. -/
theorem skipToEnd_reaches_end_from_beginning
    : ∃ s u : Session, s.source.log.size = 6 ∧ s.tail.snapshot.isLoaded ∧ s.tail.isFetching
        ∧ Reads (s.apply .skipToEnd) 2 u
        ∧ u.tail.snapshot.stop = some 6 := by
  have hrefl : Reads (Session.apply
      { tail := { Tail.ofConfig { chunkSize := 2 } "log" with
          snapshot := Snapshot.initial.merge ⟨4, [101, 102], 6⟩
          inFlight := some { range := .span 0 2, started := 0 } }
        source := { log := ⟨[97, 98, 99, 100, 101, 102]⟩ } } .skipToEnd) 0 _ := .refl
  have hreads := hrefl
    |>.quiet (.tail .contact) rfl trivial
    |>.chunk ⟨0, [97, 98, 99], 6⟩ (fetched_mem_ready.mpr ⟨_, rfl, rfl, rfl⟩)
    |>.quiet (.tail .contact) rfl trivial
    |>.chunk ⟨4, [101, 102], 6⟩ (fetched_mem_ready.mpr ⟨_, rfl, rfl, rfl⟩)
  have hend := skipToEnd_reaches_end_iff (by decide) (fun _ => rfl) hreads
  exact ⟨_, _, rfl, rfl, rfl, hreads, hend.mpr (.inl rfl)⟩

/-- The wish for the end is not always heard: here the beginning is on its way, and only what follows
it is read. -/
theorem skipToEnd_forgotten
    : ¬ ∀ (t : Tail) (source : MemorySource) (now : Nat) (s u : Session),
        t.Prepared → Run (· ≠ .tail (.command .cancel)) ⟨t.launch now, source, now⟩ s →
          0 < s.source.log.size → s.source.log.size ≤ maxOffset →
          (s.tail.snapshot.isLoaded → s.tail.snapshot.total = s.source.log.size) →
          Reads (s.apply .skipToEnd) (if s.tail.isFetching then 2 else 1) u →
            u.tail.snapshot.stop = some s.source.log.size := by
  intro h
  have hprepared : ((Tail.ofConfig { chunkSize := 1 } "log").withOffset 0).Prepared :=
    .withOffset 0 (.ofConfig _ _)
  have hrefl : Reads (Session.apply
      ⟨((Tail.ofConfig { chunkSize := 1 } "log").withOffset 0).launch 0,
        { log := ⟨[97, 98, 99, 100, 101]⟩ }, 0⟩ .skipToEnd) 0 _ := .refl
  have hreads := hrefl
    |>.quiet (.tail .contact) rfl trivial
    |>.chunk ⟨0, [97, 98], 5⟩ (fetched_mem_ready.mpr ⟨_, rfl, rfl, rfl⟩)
    |>.quiet (.advance 500) rfl trivial
    |>.quiet (.tail (.event .poll)) rfl (poll_mem_ready.mpr ⟨500, rfl, by decide⟩)
    |>.quiet (.tail .contact) rfl trivial
    |>.chunk ⟨1, [98, 99, 100], 5⟩ (fetched_mem_ready.mpr ⟨_, rfl, rfl, rfl⟩)
  have hend := h _ _ 0 _ _ hprepared .refl (by decide) (by decide) nofun hreads
  contradiction

end Session
end RangeTail
