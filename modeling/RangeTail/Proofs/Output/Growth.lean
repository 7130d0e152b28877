import RangeTail.Directive
import RangeTail.Proofs.Output.Run

/-!
This module contains what is printed of a window that grows at its end. A window that does not begin
with the file shows all it can until it holds a line feed; from then on its text begins behind that
line feed, and what lies between the end of the text before and there is not printed at all.
-/

namespace RangeTail

open Text.Utf8 (encode fitting size)

namespace Sight

/-- The log grows, or what follows the window is read. -/
inductive Grows (chunkSize : Nat) : Sight → Sight → Prop
  | append {log : MemoryLog} {s : Snapshot} (more : List UInt8) :
      Grows chunkSize ⟨log, s⟩ ⟨log.append more, s⟩
  | merge {log : MemoryLog} {s : Snapshot} {c : Chunk} :
      log.serve (nextRange s none chunkSize) = .ok c → Grows chunkSize ⟨log, s⟩ ⟨log, s.merge c⟩

variable {chunkSize start stop : Nat} {v w u : Sight} {shown : List Snapshot}

theorem Grows.grows (h : Grows chunkSize v w) : v.log.bytes <+: w.log.bytes := by
  cases h with
  | append more => apply List.prefix_append
  | merge => exact List.prefix_rfl

theorem Grows.reads (h : Grows chunkSize v w) (hv : v.snapshot.Reads v.log start stop)
    (hne : start < stop)
    : ∃ last, w.snapshot.Reads w.log start last ∧ stop ≤ last := by
  cases h with
  | append more =>
    exact ⟨stop, ⟨hv.holds.append more, hv.decoded⟩, Nat.le_refl _⟩
  | @merge log s c hserve =>
    obtain ⟨hc, hlt⟩ := MemoryLog.isOf_of_serve hserve
    have hoffset : c.offset = stop - 1 := by
      rw [nextRange, hv.holds.stop_eq, MemoryLog.serve_eq_ok] at hserve
      rw [hserve.2]
      rfl
    have hholds := hv.holds.merge_of_touches hc (by omega) (by omega)
    rw [Nat.min_eq_left (by omega)] at hholds
    exact ⟨_, ⟨hholds, Snapshot.isDecoded_merge s c⟩, Nat.le_max_left _ _⟩

end Sight

namespace Cursor

variable {c : Cursor} {s t : Snapshot} {log : MemoryLog} {start stop last first : Nat}
variable {file text : List Char}

/-- What is printed of a window that has grown goes on where the printing ended, or it is a whole
text that begins further behind. -/
theorem advance_of_growth (hfile : log.bytes <+: encode file) (hs : s.Reads log start stop)
    (ht : t.Reads log start last) (hlast : stop ≤ last) (hshows : s.Shows first text)
    (hc : c.printed = some (first + size text))
    : ∃ first' text' printed, t.Shows first' text'
        ∧ c.advance t = (String.ofList printed, { printed := some (first' + size text') })
        ∧ (first' = first ∧ text' = text ++ printed
            ∨ first + size text < first' ∧ text' = printed) := by
  have hstart := hs.holds.start_le
  have hsize := ht.holds.stop_le
  cases TextView.offset_grow hstart hlast hsize with
  | inl h =>
    obtain ⟨first', text', more, hview, hview'⟩ :=
      TextView.exists_text_append hfile hstart hlast hsize h
    obtain ⟨rfl, rfl⟩ := hshows.eq (hs.shows_of_view hview)
    have hmore := ht.shows_of_view hview'
    exact ⟨first, text ++ more, more, hmore, advance_append hmore hc, .inl ⟨rfl, rfl⟩⟩
  | inr h =>
    obtain ⟨text₀, hshows₀, hle, _⟩ := hs.shows hfile
    obtain ⟨hfirst, rfl⟩ := hshows.eq hshows₀
    obtain ⟨text', hshows', _⟩ := ht.shows hfile
    have hlt := Nat.lt_of_le_of_lt (hfirst ▸ hle) h
    exact ⟨_, text', text', hshows', advance_beyond hshows' hc hlt, .inr ⟨hlt, rfl⟩⟩

theorem printAll_of_growth {chunkSize : Nat} {v u : Sight} {shown : List Snapshot}
    (hfile : u.log.bytes <+: encode file) (hrun : Sight.Run (Sight.Grows chunkSize) v shown u)
    (hv : v.snapshot.Reads v.log start stop) (hne : start < stop)
    (hshows : v.snapshot.Shows first text) (hc : c.printed = some (first + size text))
    : ∃ last first' text', u.snapshot.Reads u.log start last ∧ stop ≤ last
        ∧ u.snapshot.Shows first' text'
        ∧ (first' = first ∧ text' = text ++ (c.printAll shown).toList
            ∨ first < first'
              ∧ first + size text + size (c.printAll shown).toList < first' + size text') := by
  induction hrun generalizing stop first text c with
  | refl v =>
    refine ⟨stop, first, text, hv, Nat.le_refl _, hshows, .inl ⟨rfl, ?_⟩⟩
    rw [printAll, String.toList_empty, List.append_nil]
  | @step v w u shown hnext hrun ih =>
    obtain ⟨mid, hw, hmid⟩ := hnext.reads hv hne
    have hlog := hrun.grows Sight.Grows.grows
    have hv' := hv.later (hnext.grows.trans hlog)
    have hw' := hw.later hlog
    obtain ⟨first₁, text₁, printed, hshows₁, hadvance, hstep⟩ :=
      advance_of_growth hfile hv' hw' hmid hshows hc
    obtain ⟨last, first', text', hu, hlast, hshows', hrest⟩ :=
      ih hfile hw (by omega) hshows₁ rfl
    refine ⟨last, first', text', hu, by omega, hshows', ?_⟩
    rw [toList_printAll_cons hadvance, Text.Utf8.size_append]
    -- once the text has jumped past the cursor, the bytes in between are missing for good
    rcases hstep with ⟨rfl, rfl⟩ | ⟨hjump, rfl⟩
    . have hsize := Text.Utf8.size_append text printed
      rcases hrest with ⟨rfl, rfl⟩ | ⟨hlt, hlost⟩
      . left
        exact ⟨rfl, List.append_assoc ..⟩
      . right
        exact ⟨hlt, by omega⟩
    . right
      rcases hrest with ⟨rfl, rfl⟩ | ⟨hlt, hlost⟩
      . rw [Text.Utf8.size_append]
        exact ⟨by omega, by omega⟩
      . exact ⟨by omega, by omega⟩

/--
A window of a UTF-8 log that begins inside a line, and holds no line feed, grows at its end. What
is printed of it is all of the log from where its text began to where it ends now, unless a line
feed has come, or more bytes of the character that the window begins in; then some of it was never
printed.
-/
theorem prints_growth_iff {chunkSize : Nat} {v u : Sight} {shown : List Snapshot}
    (hutf8 : u.log.IsUtf8) (hwindow : v.snapshot.Holds v.log start stop)
    (hdecoded : v.snapshot.IsDecoded) (hstart : 0 < start) (hne : start < stop)
    (hlf : 0x0A ∉ v.snapshot.bytes) (hrun : Sight.Run (Sight.Grows chunkSize) v shown u)
    : ∃ first last, v.snapshot.textOffset = some first
        ∧ u.snapshot.textStop = some last
        ∧ first ≤ last
        ∧ last ≤ u.log.size
        ∧ (encode (({} : Cursor).printAll (v.snapshot :: shown)).toList = u.log.window first last
            ↔
          0x0A ∉ u.snapshot.bytes
            ∧ leadingContinuation u.snapshot.bytes = leadingContinuation v.snapshot.bytes) := by
  obtain ⟨file, hfile⟩ := hutf8
  have hv : v.snapshot.Reads v.log start stop := ⟨hwindow, hdecoded⟩
  have hv' := hv.later (hrun.grows Sight.Grows.grows)
  obtain ⟨text, hshows, _, _⟩ := hv'.shows hfile
  obtain ⟨last, first', text', hu, hlast, hshows', hrest⟩ :=
    printAll_of_growth hfile hrun hv hne hshows rfl
  obtain ⟨text'', hshows'', hle, hwindow'⟩ := hu.shows hfile
  obtain ⟨hfirst', rfl⟩ := hshows'.eq hshows''
  have hcond := TextView.offset_eq_iff (Nat.ne_of_gt hstart) hwindow.start_le hlast hu.holds.stop_le
    (hv'.holds.bytes ▸ hlf)
  rw [← hfirst'] at hcond hle hwindow'
  rw [hu.holds.bytes, hv'.holds.bytes, ← hcond]
  have hprinted := toList_printAll_cons (advance_first hshows) shown
  refine ⟨_, first' + size text', hshows.textOffset, hshows'.textStop_eq, ?_, ?_, ?_⟩
  . omega
  . exact Nat.le_trans hle hu.holds.stop_le
  rcases hrest with ⟨hfirst, htext⟩ | ⟨hlt, hlost⟩
  . rw [hprinted, ← htext, ← hfirst, hwindow']
    exact iff_of_true rfl rfl
  . apply iff_of_false
    . -- fewer bytes were printed than the part of the log has
      intro heq
      have hlength := congrArg List.length heq
      rw [← Text.Utf8.size_eq_length, MemoryLog.length_window, hprinted, Text.Utf8.size_append]
        at hlength
      . omega
      . exact Nat.le_trans hle hu.holds.stop_le
    . omega

/-- The last two bytes of a log are printed, and then the two that were written behind them. -/
theorem prints_growth_two_bytes
    : let s := Snapshot.initial.merge ⟨2, [99, 100], 4⟩
      encode (({} : Cursor).printAll [s, s, s.merge ⟨3, [100, 101, 102], 6⟩]).toList
        =
      [99, 100, 101, 102] := by
  intro s
  let log : MemoryLog := ⟨[97, 98, 99, 100]⟩
  have hutf8 : (log.append [101, 102]).IsUtf8 := ⟨['a', 'b', 'c', 'd', 'e', 'f'], by decide⟩
  have hwindow : s.Holds log 2 4 := ⟨rfl, rfl, by decide, by decide⟩
  have hrun : Sight.Run (Sight.Grows 2) ⟨log, s⟩ [s, s.merge ⟨3, [100, 101, 102], 6⟩]
      ⟨log.append [101, 102], s.merge ⟨3, [100, 101, 102], 6⟩⟩ :=
    .step (Sight.Grows.append [101, 102]) (.step (Sight.Grows.merge rfl) (.refl _))
  obtain ⟨first, last, hfirst, hlast, _, _, hiff⟩ := prints_growth_iff hutf8 hwindow
    (Snapshot.isDecoded_merge _ _) (by decide) (by decide) (by decide) hrun
  obtain rfl : 2 = first := Option.some.inj hfirst
  have hstop : (s.merge ⟨3, [100, 101, 102], 6⟩).textStop = some 6 := by decide +kernel
  obtain rfl : 6 = last := Option.some.inj (hstop.symm.trans hlast)
  exact hiff.mpr ⟨by decide, by decide⟩

/-- What is printed of a window that grows at its end is not always all of the log from where its
text began to where it ends: the line that the window begins in is not printed to its end. -/
theorem growth_skips_line_end
    : ¬ ∀ (chunkSize start stop : Nat) (v u : Sight) (shown : List Snapshot),
        u.log.IsUtf8 → v.snapshot.Holds v.log start stop → v.snapshot.IsDecoded → 0 < start →
          start < stop → 0x0A ∉ v.snapshot.bytes → Sight.Run (Sight.Grows chunkSize) v shown u →
            ∃ first last, v.snapshot.textOffset = some first
              ∧ u.snapshot.textStop = some last
              ∧ encode (({} : Cursor).printAll (v.snapshot :: shown)).toList
                  = u.log.window first last := by
  intro h
  let log : MemoryLog := ⟨[97, 98, 99, 100]⟩
  let s := Snapshot.initial.merge ⟨2, [99, 100], 4⟩
  let t := s.merge ⟨3, [100, 101, 10, 102], 7⟩
  have hrun : Sight.Run (Sight.Grows 2) ⟨log, s⟩ [s, t] ⟨log.append [101, 10, 102], t⟩ :=
    .step (Sight.Grows.append [101, 10, 102]) (.step (Sight.Grows.merge rfl) (.refl _))
  obtain ⟨first, last, hfirst, hlast, hprinted⟩ := h 2 2 4 _ _ _
    ⟨['a', 'b', 'c', 'd', 'e', '\n', 'f'], by decide⟩ ⟨rfl, rfl, by decide, by decide⟩
    (Snapshot.isDecoded_merge _ _) (by decide) (by decide) (by decide) hrun
  obtain rfl : 2 = first := Option.some.inj hfirst
  have hstop : t.textStop = some 7 := by decide +kernel
  obtain rfl : 7 = last := Option.some.inj (hstop.symm.trans hlast)
  have hshown : encode (({} : Cursor).printAll [s, s, t]).toList = [99, 100, 102] := by
    decide +kernel
  rw [hshown] at hprinted
  have hne : [99, 100, 102] ≠ (log.append [101, 10, 102]).window 2 7 := by decide
  exact hne hprinted

end Cursor
end RangeTail
