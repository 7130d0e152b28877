import RangeTail.Proofs.Log.Window
import RangeTail.Proofs.Session.Answer
import RangeTail.Proofs.Session.Errand
import RangeTail.Proofs.Tail.Failure

/-!
This module contains what becomes of a window when the log is cut off in front of its end. The next
answer leaves nothing of the window: it is given up, or replaced by bytes that the log has now. If it
was growth that was asked for, the window is given up, and the next bytes that are read are the last
ones of the log.
-/

namespace RangeTail

namespace Snapshot

variable {s : Snapshot} {log : MemoryLog} {stop : Nat} {c : Chunk}

/-- A chunk of a log that ends in front of the window replaces it. -/
theorem holds_merge_of_shrunk (hstop : s.stop = some stop) (hshrunk : log.size < stop)
    (hc : c.IsOf log)
    : (s.merge c).Holds log c.offset c.stop := by
  obtain ⟨start, hstart, rfl⟩ := Option.map_eq_some_iff.mp hstop
  have hjoins : ¬ Joins start (start + s.bytes.length) c := by
    intro h
    have := h.1
    rw [hc.total] at this
    omega
  exact holds_merge_chunk hc (splice_of_not_joins hstart hjoins)

/-- What is left of the window is nothing, or bytes of the log. -/
def IsFresh (s : Snapshot) (log : MemoryLog) : Prop :=
  (s.offset = none ∧ s.bytes = [] ∧ s.total = log.size) ∨ ∃ first last, s.Holds log first last

theorem isFresh_answered (hstop : s.stop = some stop) (hshrunk : log.size < stop) (r : ByteRange)
    (latency : Nat)
    : (s.answered r latency (log.serve r)).IsFresh log := by
  cases hserve : log.serve r with
  | ok c =>
    right
    exact ⟨c.offset, c.stop, holds_merge_of_shrunk hstop hshrunk (MemoryLog.isOf_of_serve hserve).1⟩
  | error fault =>
    left
    rw [MemoryLog.eq_emptyFile_of_serve hserve]
    exact ⟨rfl, rfl, rfl⟩

/-- The growth of a window has no bytes in a log that ends in front of the end of the window. -/
theorem serve_growth_of_shrunk (hstop : s.stop = some stop) (hshrunk : log.size < stop)
    (chunkSize : Nat)
    : log.serve (nextRange s none chunkSize) = .error (.emptyFile log.size) := by
  apply MemoryLog.serve_eq_error
  apply Nat.le_trans (MemoryLog.bounds_snd_le _ _)
  rw [nextRange, hstop]
  dsimp only [MemoryLog.bounds]
  omega

end Snapshot

namespace Tail

/-- Nobody tells the tail what to do, and no bytes come. -/
def Move.awaits : Move → Bool
  | .command _ => false
  | .event (.fetched (.ok _)) => false
  | _ => true

/-- Nothing is held of the log, and nothing but its end is asked for. -/
structure IsBlank (t : Tail) : Prop where
  offset : t.snapshot.offset = none
  pending : t.pending = none
  request : ∀ f, t.inFlight = some f → f.range = .suffix t.config.chunkSize

variable {t u : Tail} {now : Nat} {m : Move}

theorem nextRange_of_unloaded {s : Snapshot} (h : s.offset = none) (chunkSize : Nat)
    : nextRange s none chunkSize = .suffix chunkSize := by
  simp [nextRange, Snapshot.stop, h]

theorem IsBlank.offset_after (h : t.IsBlank) (hm : m.awaits)
    : (t.after now m).snapshot.offset = none := by
  rcases t.after_snapshot now m with ⟨follow, heq⟩ | ⟨f, answer, rfl, _, heq⟩
  . rw [heq]
    exact h.offset
  . rw [heq]
    cases answer with
    | ok c => simp [Move.awaits] at hm
    | error fault =>
      cases fault with
      | emptyFile total => rfl
      | _ => exact h.offset

theorem IsBlank.after (h : t.IsBlank) (hm : m.awaits) : (t.after now m).IsBlank := by
  have hoffset : (t.after now m).snapshot.offset = none := h.offset_after hm
  have hcommand : ∀ c, m ≠ .command c := by
    rintro c rfl
    simp [Move.awaits] at hm
  have hwaits := waits_of_not_command hcommand (t := t)
  rw [h.pending] at hwaits
  cases t.after_dispatch now m with
  | sent hsends _ =>
    refine ⟨hoffset, hsends.pending, ?_⟩
    intro f hf
    rw [hsends.inFlight] at hf
    obtain rfl := Option.some.inj hf
    rw [hwaits]
    exact nextRange_of_unloaded hoffset _
  | waiting hpending hfetching =>
    refine ⟨hoffset, hpending.trans hwaits, ?_⟩
    intro g hg
    obtain ⟨hbefore, hanswer⟩ := hfetching (Option.isSome_iff_exists.mpr ⟨g, hg⟩)
    obtain ⟨f, hf, hrange⟩ := inFlight_before hanswer hbefore hg
    rw [hrange, after_config]
    exact h.request f hf

theorem isBlank_of_run (h : t.IsBlank) (hrun : Run (·.awaits) t u) : u.IsBlank := by
  induction hrun with
  | refl => exact h
  | next now m _ hm _ ih => exact ih.after hm

end Tail

namespace Session

/-- Nobody tells the tail what to do, and no bytes come; the log may change in any way. -/
def Move.awaits : Move → Bool
  | .tail m => m.awaits
  | _ => true

variable {s u : Session} {f : InFlight}

/-- The news that there is nothing to read leaves a tail that waits to read the end. -/
theorem isBlank_of_emptyFile (hf : s.tail.inFlight = some f) (hpending : s.tail.pending = none)
    (total : Nat)
    : (s.fire (.fetched (.error (.emptyFile total)))).tail.IsBlank := by
  obtain ⟨hinFlight, hpending', _⟩ :=
    @Tail.complete_of_pending_none s.tail s.now f (.error (.emptyFile total)) hpending
  rw [fire_fetched hf]
  constructor
  . rw [Tail.complete_snapshot]
    rfl
  . exact hpending'
  . intro g hg
    rw [hinFlight] at hg
    contradiction

/-- The end of the log is all that is read of it. -/
theorem holds_end_of_isBlank (h : s.tail.IsBlank) (hf : s.tail.inFlight = some f)
    (hsize : 0 < s.source.log.size) (hchunk : 0 < s.tail.config.chunkSize)
    : (s.fire (.fetched (s.source.log.serve f.range))).tail.snapshot.Holds s.source.log
        (s.source.log.size - s.tail.config.chunkSize) s.source.log.size := by
  have hbounds : (MemoryLog.bounds s.source.log.size f.range).1
      < (MemoryLog.bounds s.source.log.size f.range).2 := by
    rw [h.request f hf]
    dsimp only [MemoryLog.bounds]
    omega
  obtain ⟨c, hserve, hoffset, hstop⟩ := MemoryLog.exists_serve hbounds
  rw [h.request f hf] at hoffset hstop
  obtain ⟨hc, _⟩ := MemoryLog.isOf_of_serve hserve
  have hholds := Snapshot.holds_merge_of_unloaded h.offset hc
  rw [hoffset, hstop] at hholds
  rw [fire_fetched hf, Tail.complete_snapshot, hserve]
  exact hholds

end Session

namespace Agenda

/--
A window is held that reaches behind the end of the log as it is now, and the request on its way is
answered by what the log serves. Then nothing is held any more, or bytes that the log has. If it was
the growth of the window that was asked for, and no instruction waits, nothing is held; while the log
is followed the clock runs for the next request, and the next bytes that are read, before anybody tells
the tail what to do, are the last ones of the log, as many as are asked for at once.
-/
theorem truncation_leaves_nothing_stale {t : Tail} (ht : t.Prepared) (source : MemorySource)
    (now : Nat) {a : Agenda} (ha : Run (fun _ => True) (ofSession ⟨t, source, now⟩) a) {stop : Nat}
    (hstop : a.session.tail.snapshot.stop = some stop) (hshrunk : a.session.source.log.size < stop)
    {f : InFlight} (hf : a.session.tail.inFlight = some f)
    : let s := a.session.fire (.fetched (a.session.source.log.serve f.range))
      s.tail.snapshot.IsFresh s.source.log
        ∧ (a.current = some .growth → a.session.tail.pending = none →
            s.tail.snapshot.offset = none
              ∧ (a.session.tail.snapshot.follow → s.tail.isPolling)
              ∧ ∀ u, Session.Run (·.awaits) s u → ∀ g, u.tail.inFlight = some g →
                  0 < u.source.log.size → 0 < u.tail.config.chunkSize →
                    (u.fire (.fetched (u.source.log.serve g.range))).tail.snapshot.Holds
                      u.source.log (u.source.log.size - u.tail.config.chunkSize)
                      u.source.log.size) := by
  intro s
  constructor
  . simp only [s]
    rw [Session.fire_fetched hf, Tail.complete_snapshot]
    exact Snapshot.isFresh_answered hstop hshrunk f.range _
  intro hgrowth hpending
  have hkept := isKept_of_run (isKept_ofSession ht source now) ha
  obtain ⟨e, he, hmade⟩ := hkept.current f hf
  obtain rfl : .growth = e := Option.some.inj (hgrowth.symm.trans he)
  have hserve : a.session.source.log.serve f.range
      = .error (.emptyFile a.session.source.log.size) := by
    rw [hmade.range]
    exact Snapshot.serve_growth_of_shrunk hstop hshrunk _
  have hblank : s.tail.IsBlank := by
    simp only [s]
    rw [hserve]
    exact Session.isBlank_of_emptyFile hf hpending _
  refine ⟨hblank.offset, ?_, ?_⟩
  . intro hfollow
    exact Tail.isPolling_of_answer hf hpending hfollow _
  . intro u hu g hg hsize hchunk
    have hblank' := Tail.isBlank_of_run hblank hu.tail
    exact Session.holds_end_of_isBlank hblank' hg hsize hchunk

/-- A log is cut off to one byte while its growth is asked for, and written anew up to four bytes. -/
theorem truncation_leaves_nothing_stale_rewritten
    : let source : MemorySource := { log := ⟨[97, 98, 99, 100, 101]⟩ }
      let a := [.tail .launch, .tail .contact,
        .tail (.event (.fetched (.ok ⟨3, [100, 101], 5⟩))), .advance 500, .tail (.event .poll),
        .tail .contact, .truncate 1].foldl after
          (ofSession ⟨.ofConfig { chunkSize := 2, follow := true } "log", source, 0⟩)
      let s := a.session.fire (.fetched (a.session.source.log.serve (.span 4 7)))
      let u := [.append [102, 103, 104], .advance 500, .tail (.event .poll), .tail .contact].foldl
        Session.after s
      a.session.tail.snapshot.stop = some 5
        ∧ s.tail.snapshot.offset = none
        ∧ s.tail.isPolling
        ∧ (u.fire (.fetched (u.source.log.serve (.suffix 2)))).tail.snapshot.Holds
            ⟨[97, 102, 103, 104]⟩ 2 4 := by
  intro source a s u
  have hrefl (a : Agenda) : Run (fun _ => True) a a := .refl
  have ha : Run (fun _ => True) _ a := hrefl _
    |>.next (.tail .launch) trivial trivial
    |>.next (.tail .contact) trivial trivial
    |>.next (.tail (.event (.fetched (.ok ⟨3, [100, 101], 5⟩)))) trivial
      (Session.chunk_mem_ready (by decide +kernel))
    |>.next (.advance 500) trivial trivial
    |>.next (.tail (.event .poll)) trivial
      (Session.poll_mem_ready.mpr ⟨500, by decide +kernel, by decide +kernel⟩)
    |>.next (.tail .contact) trivial trivial
    |>.next (.truncate 1) trivial trivial
  have hrefl' : Session.Run (·.awaits) s s := .refl
  have hu : Session.Run (·.awaits) s u := hrefl'
    |>.next (.append [102, 103, 104]) rfl trivial
    |>.next (.advance 500) rfl trivial
    |>.next (.tail (.event .poll)) rfl
      (Session.poll_mem_ready.mpr ⟨1000, by decide +kernel, by decide +kernel⟩)
    |>.next (.tail .contact) rfl trivial
  have hstop : a.session.tail.snapshot.stop = some 5 := by decide +kernel
  have hf : a.session.tail.inFlight = some ⟨⟨.span 4 7, true⟩, 500⟩ := by decide +kernel
  have hg : u.tail.inFlight = some ⟨⟨.suffix 2, true⟩, 1000⟩ := by decide +kernel
  obtain ⟨_, hgrowth⟩ := truncation_leaves_nothing_stale (.ofConfig _ _) source 0 ha hstop
    (by decide +kernel) hf
  obtain ⟨hoffset, hpolling, hlater⟩ := hgrowth (by decide +kernel) (by decide +kernel)
  have hholds := hlater u hu _ hg (by decide +kernel) (by decide +kernel)
  have hlog : u.source.log = ⟨[97, 102, 103, 104]⟩ := by decide +kernel
  have hchunk : u.tail.config.chunkSize = 2 := by decide +kernel
  rw [hchunk, hlog] at hholds
  rw [hlog]
  exact ⟨hstop, hoffset, hpolling (by decide +kernel), hholds⟩

end Agenda
end RangeTail
