import RangeTail.Proofs.Session.Calm
import RangeTail.Proofs.Session.Reload
import RangeTail.Proofs.Snapshot.Request
import RangeTail.Proofs.Tail.Text
import RangeTail.Proofs.Text.Front

/-!
This module contains the proof that reading what lies before the window, again and again, leads to the
beginning of the log: no byte is left out or read twice, and the text only grows at its front.
-/

namespace RangeTail

/-- The chunk before a window is the part of the log up to the window. -/
theorem MemoryLog.bounds_front {size start chunkSize : Nat} (hstart : 0 < start)
    (hle : start ≤ size) (hsize : size ≤ maxOffset)
    : bounds size (.span (start - chunkSize) (start - 1)) = (start - chunkSize, start) := by
  simp only [bounds, addClamped, Prod.mk.injEq, true_and]
  omega

theorem Snapshot.nextRange_front {s : Snapshot} {start chunkSize : Nat} (hs : s.offset = some start)
    (hstart : 0 < start) (hchunk : 0 < chunkSize) (hsize : start ≤ maxOffset)
    : nextRange s (some (.jump (start - chunkSize))) chunkSize
        =
      .span (start - chunkSize) (start - 1) := by
  rw [nextRange_jump hs (by omega)]
  unfold addClamped
  congr 1
  omega

namespace Session

/-- What a session becomes when what lies before its window is read `n` times, whenever nothing else
is on its way. In between it is left alone. -/
inductive Backs (s : Session) : Nat → Session → Prop
  | refl : Backs s 0 s
  | calm {n : Nat} {u : Session} (m : Move) :
      Backs s n u → m.isCalm → u.CanHappen m → Backs s n (u.after m)
  | ask {n : Nat} {u : Session} :
      Backs s n u → u.tail.isFetching = false → Backs s n (u.apply .loadPrevious)
  | chunk {n : Nat} {u : Session} (c : Chunk) :
      Backs s n u → .fetched (.ok c) ∈ u.ready → Backs s (n + 1) (u.fire (.fetched (.ok c)))

/-- The window lies from `start` up to `stop` of the log, and nothing is done but to read the chunk
before it. -/
structure GoesBack (s : Session) (start stop : Nat) : Prop where
  holds : s.tail.snapshot.Holds s.source.log start stop
  follow : s.tail.snapshot.follow = false
  pollDue : s.tail.pollDue = none
  asks : s.tail.isFetching → 0 < start ∧ s.tail.pending = none
    ∧ s.tail.demand = .span (start - s.tail.config.chunkSize) (start - 1)

variable {s u v : Session} {start stop n m : Nat} {c : Chunk}

theorem Backs.run (h : Backs s n u) : Run (fun m => ∀ n, m ≠ .truncate n) s u := by
  induction h with
  | refl => exact .refl
  | calm m _ hm hcan ih => exact ih.next m (Move.ne_truncate_of_isCalm hm) hcan
  | ask _ _ ih => exact ih.next (.tail (.command .loadPrevious)) nofun trivial
  | chunk c _ hready ih => exact ih.next (.tail (.event (.fetched (.ok c)))) nofun hready

theorem Backs.log (h : Backs s n u) : s.source.log.bytes <+: u.source.log.bytes :=
  log_of_run h.run (fun _ hm => hm)

theorem goesBack_of_isIdle (hidle : s.tail.isIdle) (hfollow : s.tail.snapshot.follow = false)
    (hholds : s.tail.snapshot.Holds s.source.log start stop)
    : s.GoesBack start stop := by
  simp only [Tail.isIdle, Tail.hasTimers, Bool.and_eq_true, Bool.not_eq_true',
    Bool.or_eq_false_iff] at hidle
  obtain ⟨⟨hfetching, hpoll, _⟩, _⟩ := hidle
  refine ⟨hholds, hfollow, by simpa using hpoll, ?_⟩
  simp [hfetching]

namespace GoesBack

theorem calm {m : Move} (h : s.GoesBack start stop) (hm : m.isCalm) (hcan : s.CanHappen m)
    : (s.after m).GoesBack start stop := by
  have hstays := tail_stays_of_isCalm (s := s) hm
  obtain ⟨hpollDue, hfetching⟩ := rests_of_isCalm hm hcan h.pollDue
  refine ⟨?_, ?_, hpollDue, ?_⟩
  . rw [hstays.snapshot]
    exact h.holds.later (after_log (Move.ne_truncate_of_isCalm hm))
  . rw [hstays.snapshot]
    exact h.follow
  . intro hafter
    rw [hfetching] at hafter
    rw [(hstays.pending hafter).2, hstays.demand, hstays.config]
    exact h.asks hafter

/-- Nothing lies before a window that begins with the log. -/
theorem apply_loadPrevious_eq (h : s.GoesBack 0 stop) : s.apply .loadPrevious = s := by
  have hnone : Directive.loadPrevious s.tail.snapshot s.tail.config.chunkSize = none := by
    simp [Directive.loadPrevious, h.holds.offset]
  simp [apply, Tail.apply, Tail.loadPrevious, hnone]

theorem sends_loadPrevious (h : s.GoesBack start stop) (hidle : s.tail.isFetching = false)
    (hpos : 0 < start)
    : (s.apply .loadPrevious).tail.Sends s.now
        (some (.jump (start - s.tail.config.chunkSize))) := by
  have hjump : Directive.loadPrevious s.tail.snapshot s.tail.config.chunkSize
      = some (.jump (start - s.tail.config.chunkSize)) := by
    simp [Directive.loadPrevious, h.holds.offset, hpos]
  have hinFlight : s.tail.inFlight = none := by simpa [Tail.isFetching] using hidle
  dsimp only [apply, Tail.apply, Tail.loadPrevious]
  rw [hjump]
  exact Tail.sends_start hinFlight

theorem ask (h : s.GoesBack start stop) (hidle : s.tail.isFetching = false)
    (hchunk : 0 < s.tail.config.chunkSize) (hsize : s.source.log.size ≤ maxOffset)
    : (s.apply .loadPrevious).GoesBack start stop := by
  cases Nat.eq_zero_or_pos start with
  | inl hzero =>
    subst start
    rw [h.apply_loadPrevious_eq]
    exact h
  | inr hpos =>
    have hsends := h.sends_loadPrevious hidle hpos
    have hsnapshot : (s.apply .loadPrevious).tail.snapshot = s.tail.snapshot :=
      s.tail.loadPrevious_snapshot s.now
    have hconfig : (s.apply .loadPrevious).tail.config = s.tail.config :=
      Tail.apply_config .loadPrevious
    have hle : start ≤ maxOffset := by
      have := h.holds.start_le
      have := h.holds.stop_le
      omega
    refine ⟨?_, ?_, hsends.pollDue, ?_⟩
    . rw [hsnapshot]
      exact h.holds
    . rw [hsnapshot]
      exact h.follow
    . intro
      rw [Tail.demand_of_inFlight hsends.inFlight, hsnapshot, hconfig]
      exact ⟨hpos, hsends.pending, Snapshot.nextRange_front h.holds.offset hpos hchunk hle⟩

theorem chunk (h : s.GoesBack start stop) (hready : .fetched (.ok c) ∈ s.ready)
    (hsize : s.source.log.size ≤ maxOffset)
    : (s.fire (.fetched (.ok c))).GoesBack (start - s.tail.config.chunkSize) stop := by
  obtain ⟨f, hf, _⟩ := fetched_mem_ready.mp hready
  obtain ⟨hserve, hlog, hsnapshot, _⟩ := fire_chunk hready
  have hfetching : s.tail.isFetching := by simp [Tail.isFetching, hf]
  obtain ⟨hpos, hpending, hdemand⟩ := h.asks hfetching
  obtain ⟨hchunk, _⟩ := MemoryLog.isOf_of_serve hserve
  obtain ⟨hoffset, hstop, _⟩ := MemoryLog.stop_of_serve hserve
  have hstart := h.holds.start_le
  rw [hdemand, MemoryLog.bounds_front hpos (Nat.le_trans hstart h.holds.stop_le) hsize]
    at hoffset hstop
  -- the chunk ends where the window begins
  have hmerge := h.holds.merge_of_touches hchunk (by omega) (by omega)
  rw [hoffset, hstop, Nat.min_eq_right (Nat.sub_le _ _), Nat.max_eq_left hstart] at hmerge
  have hfire := fire_fetched hf (.ok c)
  obtain ⟨hinFlight, _, hpollDue⟩ :=
    @Tail.complete_of_pending_none s.tail s.now f (.ok c) hpending
  rw [← hfire] at hinFlight hpollDue
  refine ⟨?_, ?_, ?_, ?_⟩
  . rw [hsnapshot, hlog]
    exact hmerge
  . rw [hsnapshot]
    exact h.follow
  . rw [hpollDue]
    simp [Tail.pollSoon, h.follow, h.pollDue]
  . simp [Tail.isFetching, hinFlight]

end GoesBack

theorem Backs.config (h : Backs s n u) : u.tail.config = s.tail.config := by
  induction h with
  | refl => rfl
  | calm m _ hm _ ih => exact (tail_stays_of_isCalm hm).config.trans ih
  | @ask n u _ _ ih => exact (u.tail.after_config u.now (.command .loadPrevious)).trans ih
  | @chunk n u c _ _ ih =>
    exact (u.tail.after_config u.now (.event (.fetched (.ok c)))).trans ih

theorem GoesBack.backs (h : s.GoesBack start stop) (hbacks : Backs s n u)
    (hchunk : 0 < s.tail.config.chunkSize) (hsize : u.source.log.size ≤ maxOffset)
    : u.GoesBack (start - n * s.tail.config.chunkSize) stop := by
  induction hbacks with
  | refl =>
    rw [Nat.zero_mul, Nat.sub_zero]
    exact h
  | @calm n u m _ hm hcan ih =>
    have hlog := (after_log (s := u) (Move.ne_truncate_of_isCalm hm)).length_le
    exact (ih (Nat.le_trans hlog hsize)).calm hm hcan
  | @ask n u hbacks hidle ih =>
    have hu := ih hsize
    rw [← hbacks.config] at hchunk
    exact hu.ask hidle hchunk hsize
  | @chunk n u c hbacks hready ih =>
    have hu := (ih hsize).chunk hready hsize
    rw [hbacks.config, Nat.sub_sub, ← Nat.succ_mul] at hu
    exact hu

theorem GoesBack.exists_text_suffix (hu : u.GoesBack start stop) {first : Nat}
    (hv : v.GoesBack first stop) (hfirst : first ≤ start)
    (hlog : u.source.log.bytes <+: v.source.log.bytes) (hutf8 : v.source.log.IsUtf8)
    (hdecoded : u.tail.snapshot.IsDecoded) (hdecoded' : v.tail.snapshot.IsDecoded)
    : ∃ more text, u.tail.snapshot.text = some text ∧ v.tail.snapshot.text = some (more ++ text) := by
  obtain ⟨file, hfile⟩ := hutf8
  have hholds := hu.holds.later hlog
  obtain ⟨text, text', htext, htext', more, hmore⟩ :=
    TextView.exists_text_suffix hfile hfirst hholds.start_le hholds.stop_le
  refine ⟨String.ofList more, String.ofList text, ?_, ?_⟩
  . rw [(hdecoded start hholds.offset).2, hholds.bytes, htext]
  . rw [(hdecoded' first hv.holds.offset).2, hv.holds.bytes, htext', ← hmore, String.ofList_append]

/--
A log is not followed, and nothing goes on. From then on what lies before the window is read again and
again, while the log may grow. Each time the window begins a chunk further in front and ends where it
did. What is asked for is in the log and is not held yet, the text of the window goes on ending with
what it was, and at the beginning of the log nothing is asked for any more.
-/
theorem loadPrevious_reaches_beginning {t : Tail} (ht : t.Prepared) (source : MemorySource)
    (now : Nat) (hs : Run (fun _ => True) ⟨t, source, now⟩ s) (hidle : s.tail.isIdle)
    (hfollow : s.tail.snapshot.follow = false)
    (hholds : s.tail.snapshot.Holds s.source.log start stop)
    (hchunk : 0 < s.tail.config.chunkSize) (hu : Backs s n u) (hv : Backs u m v)
    (hsize : v.source.log.size ≤ maxOffset)
    : let first := start - n * s.tail.config.chunkSize
      u.tail.snapshot.Holds u.source.log first stop
        ∧ (∀ f, u.tail.inFlight = some f →
            ∃ k last, f.range = .span k last
              ∧ (∃ c, u.source.log.serve f.range = .ok c)
              ∧ ∀ p, k ≤ p → p ≤ last → u.tail.snapshot.byteAt p = none)
        ∧ (0 < first → u.tail.isFetching = false → (u.apply .loadPrevious).tail.isFetching)
        ∧ (first = 0 → u.tail.isFetching = false ∧ u.apply .loadPrevious = u)
        ∧ (v.source.log.IsUtf8 →
            ∃ more text, u.tail.snapshot.text = some text
              ∧ v.tail.snapshot.text = some (more ++ text)) := by
  intro first
  have hlog := hv.log
  have hsize' : u.source.log.size ≤ maxOffset := Nat.le_trans hlog.length_le hsize
  have hback : u.GoesBack first stop :=
    (goesBack_of_isIdle hidle hfollow hholds).backs hu hchunk hsize'
  have hchunk' : 0 < u.tail.config.chunkSize := by
    rw [hu.config]
    exact hchunk
  refine ⟨hback.holds, ?_, ?_, ?_, ?_⟩
  . intro f hf
    have hfetching : u.tail.isFetching := by simp [Tail.isFetching, hf]
    obtain ⟨hpos, _, hdemand⟩ := hback.asks hfetching
    rw [Tail.demand_of_inFlight hf] at hdemand
    refine ⟨_, _, hdemand, ?_, ?_⟩
    . have hstart := hback.holds.start_le
      have hstop := hback.holds.stop_le
      have hspan : first - u.tail.config.chunkSize ≤ first - 1 := by omega
      obtain ⟨c, hc, _⟩ := MemoryLog.exists_serve_span hsize' hspan (by omega)
      rw [hdemand]
      exact ⟨c, hc⟩
    . intro p _ hp
      rw [Snapshot.byteAt_of_loaded hback.holds.offset]
      apply heldAt_eq_none
      omega
  . intro hpos hfetching
    exact (hback.sends_loadPrevious hfetching hpos).isFetching
  . intro hzero
    have hfetching : u.tail.isFetching = false := by
      rw [← Bool.not_eq_true]
      intro h
      have := (hback.asks h).1
      omega
    rw [hzero] at hback
    exact ⟨hfetching, hback.apply_loadPrevious_eq⟩
  . intro hutf8
    have hrun := hs.trans (hu.run.mono fun _ _ => trivial)
    have hrun' := hrun.trans (hv.run.mono fun _ _ => trivial)
    have hdecoded := Snapshot.isDecoded_of_unloaded ht.offset_eq
    exact hback.exists_text_suffix (hback.backs hv hchunk' hsize) (Nat.sub_le _ _) hlog hutf8
      (Tail.isDecoded_of_run hdecoded hrun.tail) (Tail.isDecoded_of_run hdecoded hrun'.tail)

/-- The end of a log is shown, and then what lies before it in two steps, the second of which is
shorter than a chunk. -/
theorem loadPrevious_reaches_beginning_two_steps
    : let source : MemorySource := { log := ⟨[97, 98, 99, 10, 100, 101, 102, 103]⟩ }
      let s := [.tail .launch, .tail .contact,
        .tail (.event (.fetched (.ok ⟨5, [101, 102, 103], 8⟩)))].foldl after
          ⟨.ofConfig { chunkSize := 3 } "log", source, 0⟩
      let u := [.tail (.command .loadPrevious), .tail .contact,
        .tail (.event (.fetched (.ok ⟨2, [99, 10, 100], 8⟩)))].foldl after s
      let v := [.append [104], .tail (.command .loadPrevious), .tail .contact,
        .tail (.event (.fetched (.ok ⟨0, [97, 98], 9⟩)))].foldl after u
      u.tail.snapshot.Holds u.source.log 2 8
        ∧ v.tail.snapshot.Holds v.source.log 0 8
        ∧ v.apply .loadPrevious = v
        ∧ ∃ more text, u.tail.snapshot.text = some text
            ∧ v.tail.snapshot.text = some (more ++ text) := by
  intro source s u v
  have hrefl (s : Session) (allowed : Move → Prop) : Run allowed s s := .refl
  have hs : Run (fun _ => True) _ s := hrefl _ _
    |>.next (.tail .launch) trivial trivial
    |>.next (.tail .contact) trivial trivial
    |>.next (.tail (.event (.fetched (.ok ⟨5, [101, 102, 103], 8⟩)))) trivial
      (chunk_mem_ready (by decide +kernel))
  have hnone (s : Session) : Backs s 0 s := .refl
  have hu : Backs s 1 u := hnone s
    |>.ask (by decide +kernel)
    |>.calm (.tail .contact) rfl trivial
    |>.chunk ⟨2, [99, 10, 100], 8⟩ (chunk_mem_ready (by decide +kernel))
  have hnext (a : Session) (n : Nat) (h : Backs a n u) : Backs a (n + 1) v := h
    |>.calm (.append [104]) rfl trivial
    |>.ask (by decide +kernel)
    |>.calm (.tail .contact) rfl trivial
    |>.chunk ⟨0, [97, 98], 9⟩ (chunk_mem_ready (by decide +kernel))
  have hv : Backs u 1 v := hnext u 0 (hnone u)
  have hv' : Backs s 2 v := hnext s 1 hu
  have hholds : s.tail.snapshot.Holds s.source.log 5 8 :=
    ⟨by decide +kernel, by decide +kernel, by decide, by decide +kernel⟩
  have hutf8 : v.source.log.IsUtf8 :=
    ⟨['a', 'b', 'c', '\n', 'd', 'e', 'f', 'g', 'h'], by decide +kernel⟩
  have hchunk : s.tail.config.chunkSize = 3 := by decide +kernel
  obtain ⟨hwindow, _, _, _, htext⟩ := loadPrevious_reaches_beginning (.ofConfig _ _) source 0 hs
    (by decide +kernel) (by decide +kernel) hholds (by decide +kernel) hu hv (by decide +kernel)
  obtain ⟨hwindow', _, _, hdone, _⟩ := loadPrevious_reaches_beginning (.ofConfig _ _) source 0 hs
    (by decide +kernel) (by decide +kernel) hholds (by decide +kernel) hv' .refl (by decide +kernel)
  rw [hchunk] at hwindow hwindow' hdone
  exact ⟨hwindow, hwindow', (hdone rfl).2, htext hutf8⟩

end Session
end RangeTail
