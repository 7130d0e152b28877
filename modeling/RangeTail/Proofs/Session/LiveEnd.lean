import RangeTail.Proofs.Session.Calm
import RangeTail.Proofs.Session.Reload
import RangeTail.Proofs.Session.Window

/-!
This module contains where a window ends after the end of its log was wished for, when the log has
grown since it was last heard of: a chunk and a byte behind the end that was known, or as far as the
log goes.
-/

namespace RangeTail

theorem MemoryLog.bounds_skipToEnd {size offset chunkSize : Nat} (h : size ≤ maxOffset)
    (s : Snapshot)
    : bounds size (nextRange s (some (.skipToEnd offset)) chunkSize)
        =
      (offset, min size (offset + 2 * chunkSize + 1)) := by
  simp only [nextRange, bounds, addClamped, Prod.mk.injEq, true_and]
  omega

/-- Wherever the window lies, it ends where the chunk does, since it ends no later than the file was
known to. -/
theorem Snapshot.Holds.merge_skipToEnd {s u : Snapshot} {log : MemoryLog} {c : Chunk}
    {start stop chunkSize : Nat} (h : s.Holds log start stop) (hstop : stop ≤ s.total)
    (hsize : log.size ≤ maxOffset)
    (hserve : log.serve (nextRange u (some (.toEnd s.total chunkSize)) chunkSize) = .ok c)
    : ∃ first ≤ s.total - chunkSize,
        (s.merge c).Holds log first (min log.size (s.total - chunkSize + 2 * chunkSize + 1)) := by
  obtain ⟨hchunk, _⟩ := MemoryLog.isOf_of_serve hserve
  obtain ⟨hoffset, hend, _⟩ := MemoryLog.stop_of_serve hserve
  rw [Directive.toEnd, MemoryLog.bounds_skipToEnd hsize] at hoffset hend
  dsimp only at hoffset hend
  rw [← hend, ← hoffset]
  by_cases htouches : start ≤ c.stop ∧ c.offset ≤ stop
  . have hmerge := h.merge_of_touches hchunk htouches.1 htouches.2
    have hle := h.stop_le
    rw [Nat.max_eq_right (by omega)] at hmerge
    exact ⟨_, Nat.min_le_right _ _, hmerge⟩
  . exact ⟨_, Nat.le_refl _, h.merge_of_apart hchunk htouches⟩

namespace Session

variable {s v : Session} {c : Chunk}

theorem apply_skipToEnd_isFetching (s : Session) : (s.apply .skipToEnd).tail.isFetching :=
  Tail.start_isFetching

/--
The end of a log is wished for that is only appended to, while nothing is on its way, whatever part
of it is held. What is asked for is in the log, however long it has become meanwhile. When it has
come, the window ends a chunk and a byte behind where the log was known to end, or where the log
does, it holds the last chunk before, and the log is followed.
-/
theorem skipToEnd_lands_on_end {t : Tail} (ht : t.Prepared) (source : MemorySource) (now : Nat)
    (hs : Run (fun m => ∀ n, m ≠ .truncate n) ⟨t, source, now⟩ s)
    (hloaded : s.tail.snapshot.isLoaded) (hidle : s.tail.isFetching = false)
    (hchunk : 0 < s.tail.config.chunkSize) (hv : Run (·.isCalm) (s.apply .skipToEnd) v)
    (hsize : v.source.log.size ≤ maxOffset)
    : let total := s.tail.snapshot.total
      let chunkSize := s.tail.config.chunkSize
      let first := total - chunkSize
      let last := min v.source.log.size (first + 2 * chunkSize + 1)
      (∃ f, v.tail.inFlight = some f ∧ ∃ c, v.source.log.serve f.range = .ok c)
        ∧ ∀ c, .fetched (.ok c) ∈ v.ready →
            let u := v.fire (.fetched (.ok c))
            (∃ start ≤ first, u.tail.snapshot.Holds u.source.log start last)
              ∧ (u.source.log.size ≤ total + chunkSize + 1 → u.tail.snapshot.atEnd)
              ∧ u.tail.snapshot.follow = true := by
  intro total chunkSize first last
  obtain ⟨start, hstart⟩ := Option.isSome_iff_exists.mp hloaded
  obtain ⟨stop, hholds, hne, hstop, htotal⟩ :=
    isFaithful_of_run (Snapshot.isFaithful_of_unloaded ht.offset_eq) hs start hstart
  have hlog : s.source.log.bytes <+: v.source.log.bytes := by
    rw [← s.apply_skipToEnd_log]
    exact log_of_run hv (fun _ hm => Move.ne_truncate_of_isCalm hm)
  have hstays := hv.tail_stays
  have hsnapshot : v.tail.snapshot = s.tail.snapshot.withFollow true :=
    hstays.snapshot.trans s.apply_skipToEnd_snapshot
  have hdemand : v.tail.demand
      = nextRange (s.apply .skipToEnd).tail.snapshot (some (.toEnd total chunkSize)) chunkSize := by
    rw [hstays.demand, apply_skipToEnd_demand hidle, toEnd?_of_loaded hloaded]
  refine ⟨?_, ?_⟩
  . obtain ⟨f, hf⟩ := Option.isSome_iff_exists.mp
      (hstays.pending s.apply_skipToEnd_isFetching).1
    refine ⟨f, hf, ?_⟩
    rw [← Tail.demand_of_inFlight hf, hdemand]
    apply MemoryLog.exists_serve_directed hsize
    have := hlog.length_le
    unfold MemoryLog.size at *
    dsimp only [Directive.toEnd, Directive.offset]
    omega
  . intro c hready u
    obtain ⟨hserve, hlog', hmerge, _⟩ := fire_chunk hready
    have htotal' : v.tail.snapshot.total = total := by
      rw [hsnapshot]
      rfl
    have hholds' : v.tail.snapshot.Holds v.source.log start stop := by
      rw [hsnapshot]
      exact (hholds.later hlog).withFollow true
    rw [hdemand, ← htotal'] at hserve
    obtain ⟨k, hk, hu⟩ := hholds'.merge_skipToEnd (htotal' ▸ hstop) hsize hserve
    rw [htotal', ← hmerge] at hu
    rw [htotal'] at hk
    refine ⟨⟨k, hk, hu⟩, ?_, ?_⟩
    . intro hle
      rw [hlog'] at hle
      apply hu.atEnd
      rw [hmerge]
      apply Nat.le_trans (Nat.le_of_eq (MemoryLog.stop_of_serve hserve).2.2.1)
      omega
    . rw [hmerge, Snapshot.merge, hsnapshot]
      rfl

/-- The beginning of a log is held that has grown by more than was known, and the end that was known
is read with what lies a chunk behind it. -/
theorem skipToEnd_lands_on_end_grown
    : let source : MemorySource := { log := ⟨[97, 98, 99, 100, 101, 102]⟩ }
      let t := (Tail.ofConfig { chunkSize := 2 } "log").withOffset 0
      let s := [.tail .launch, .tail .contact,
        .tail (.event (.fetched (.ok ⟨0, [97, 98, 99], 6⟩)))].foldl after ⟨t, source, 0⟩
      let v := [.tail .contact, .append [103, 104, 105, 106]].foldl after (s.apply .skipToEnd)
      let u := v.fire (.fetched (.ok ⟨4, [101, 102, 103, 104, 105], 10⟩))
      (∃ start ≤ 4, u.tail.snapshot.Holds u.source.log start 9) ∧ u.tail.snapshot.follow = true := by
  intro source t s v u
  have hrefl (s : Session) (allowed : Move → Prop) : Run allowed s s := .refl
  have hs : Run (fun m => ∀ n, m ≠ .truncate n) _ s := hrefl _ _
    |>.next (.tail .launch) nofun trivial
    |>.next (.tail .contact) nofun trivial
    |>.next (.tail (.event (.fetched (.ok ⟨0, [97, 98, 99], 6⟩)))) nofun
      (chunk_mem_ready (by decide +kernel))
  have hv : Run (·.isCalm) (s.apply .skipToEnd) v := hrefl _ (·.isCalm)
    |>.next (.tail .contact) rfl trivial
    |>.next (.append [103, 104, 105, 106]) rfl trivial
  have hend := skipToEnd_lands_on_end (.withOffset 0 (.ofConfig _ _)) source 0 hs
    (by decide +kernel) (by decide +kernel) (by decide +kernel) hv (by decide +kernel)
  obtain ⟨hwindow, _, hfollow⟩ := hend.2 ⟨4, [101, 102, 103, 104, 105], 10⟩
    (chunk_mem_ready (by decide +kernel))
  have htotal : s.tail.snapshot.total = 6 := by decide +kernel
  have hchunk : s.tail.config.chunkSize = 2 := by decide +kernel
  have hsize : v.source.log.size = 10 := by decide +kernel
  rw [htotal, hchunk, hsize] at hwindow
  exact ⟨hwindow, hfollow⟩

end Session
end RangeTail
