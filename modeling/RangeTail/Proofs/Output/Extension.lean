import RangeTail.Proofs.Output.Run

/-!
This module contains the proof that everything is printed once of a log whose snapshots hold more of
it from one to the next, at either end, no matter which of the snapshots the printing gets to see.
-/

namespace RangeTail

open Text.Utf8 (encode fitting size)

namespace Snapshot

/-- The second snapshot holds all of the log that the first one does. -/
def Extends (log : MemoryLog) (s t : Snapshot) : Prop :=
  ∃ start stop first last, s.Reads log start stop ∧ t.Reads log first last
    ∧ first ≤ start ∧ stop ≤ last

theorem Extends.trans {log : MemoryLog} {s t u : Snapshot} (h₁ : Extends log s t)
    (h₂ : Extends log t u)
    : Extends log s u := by
  obtain ⟨start, stop, first, last, hs, ht, hfirst, hlast⟩ := h₁
  obtain ⟨start', stop', first', last', ht', hu, hfirst', hlast'⟩ := h₂
  obtain ⟨rfl, rfl⟩ := ht.eq ht'
  exact ⟨start, stop, first', last', hs, hu, by omega, by omega⟩

end Snapshot

namespace Sight

/-- The log grows, a chunk of it is read that touches the window, or no byte is read at all. -/
inductive Widens : Sight → Sight → Prop
  | append {log : MemoryLog} {s : Snapshot} (more : List UInt8) :
      Widens ⟨log, s⟩ ⟨log.append more, s⟩
  | merge {log : MemoryLog} {s : Snapshot} {c : Chunk} :
      c.IsOf log → s.Touches c → Widens ⟨log, s⟩ ⟨log, s.merge c⟩
  | withFollow {log : MemoryLog} {s : Snapshot} (follow : Bool) :
      Widens ⟨log, s⟩ ⟨log, s.withFollow follow⟩
  | withFailure {log : MemoryLog} {s : Snapshot} (failure : Failure) :
      Widens ⟨log, s⟩ ⟨log, s.withFailure failure⟩

variable {v w u : Sight} {start stop : Nat} {shown : List Snapshot}

theorem Widens.grows (h : Widens v w) : v.log.bytes <+: w.log.bytes := by
  cases h with
  | append more => apply List.prefix_append
  | merge => exact List.prefix_rfl
  | withFollow => exact List.prefix_rfl
  | withFailure => exact List.prefix_rfl

theorem Widens.reads (h : Widens v w) (hv : v.snapshot.Reads v.log start stop)
    : ∃ first last, w.snapshot.Reads w.log first last ∧ first ≤ start ∧ stop ≤ last := by
  cases h with
  | append more =>
    exact ⟨start, stop, ⟨hv.holds.append more, hv.decoded⟩, Nat.le_refl _, Nat.le_refl _⟩
  | withFollow follow =>
    exact ⟨start, stop, ⟨hv.holds.withFollow follow, hv.decoded.withFollow follow⟩,
      Nat.le_refl _, Nat.le_refl _⟩
  | withFailure failure =>
    exact ⟨start, stop, ⟨hv.holds.withFailure failure, hv.decoded.withFailure failure⟩,
      Nat.le_refl _, Nat.le_refl _⟩
  | @merge log s c hc htouches =>
    obtain ⟨h₁, h₂⟩ := hv.holds.touches_iff.mp htouches
    have hholds := hv.holds.merge_of_touches hc h₁ h₂
    exact ⟨_, _, ⟨hholds, Snapshot.isDecoded_merge s c⟩, Nat.min_le_left _ _, Nat.le_max_left _ _⟩

theorem Run.pairwise (h : Run Widens v shown u) (hv : v.snapshot.Reads v.log start stop)
    : (v.snapshot :: shown).Pairwise (Snapshot.Extends u.log) := by
  induction h generalizing start stop with
  | refl => apply List.pairwise_singleton
  | @step v w u shown hnext hrun ih =>
    obtain ⟨first, last, hw, hfirst, hlast⟩ := hnext.reads hv
    have hlater := ih hw
    have hlog := hrun.grows Widens.grows
    have hextends : Snapshot.Extends u.log v.snapshot w.snapshot :=
      ⟨start, stop, first, last, hv.later (hnext.grows.trans hlog),
        hw.later hlog, hfirst, hlast⟩
    rw [List.pairwise_cons]
    constructor
    . intro t ht
      rw [List.mem_cons] at ht
      rcases ht with rfl | ht
      . exact hextends
      . have := (List.pairwise_cons.mp hlater).1 t ht
        exact Snapshot.Extends.trans hextends this
    . exact hlater

end Sight

namespace Cursor

open Snapshot (Extends)

variable {c : Cursor} {s t : Snapshot} {log : MemoryLog} {start stop : Nat} {file : List Char}

theorem advance_of_extends {first last : Nat} (hfile : log.bytes <+: encode file)
    (hs : s.Reads log start stop) (ht : t.Reads log first last) (hfirst : first ≤ start)
    (hlast : stop ≤ last) (hline : start = 0 ∨ 0x0A ∈ log.window start stop)
    (hc : c.printed = some (size (fitting stop file)))
    : ∃ more, c.advance t = (String.ofList more, { printed := some (size (fitting last file)) })
        ∧ fitting stop file ++ more = fitting last file := by
  obtain ⟨before, text, _, happend, hoffset⟩ := hs.shows_of_line hfile hline
  have hline' := TextView.line_of_wider hfirst hlast hline
  obtain ⟨before', text', hshows, happend', hoffset'⟩ := ht.shows_of_line hfile hline'
  have hle := TextView.offset_le_of_wider hfirst hlast hline
  have hsize : size before' ≤ size (fitting stop file) := by
    rw [← happend, Text.Utf8.size_append]
    omega
  -- the text begins no later than the one before it ended, and goes on behind that
  obtain ⟨old, hold⟩ := Text.Utf8.prefix_of_size_le (Text.Utf8.prefix_of_append_eq happend')
    (Text.Utf8.fitting_prefix stop file) hsize
  obtain ⟨more, rfl, hmore⟩ := Text.Utf8.fitting_eq_append hlast hold happend'
  refine ⟨more, ?_, hmore⟩
  rw [← hold, Text.Utf8.size_append] at hc
  rw [advance_append hshows hc, ← Text.Utf8.size_append, happend']

theorem printAll_of_pairwise {seen : List Snapshot} (hfile : log.bytes <+: encode file)
    (hs : s.Reads log start stop) (hline : start = 0 ∨ 0x0A ∈ log.window start stop)
    (hc : c.printed = some (size (fitting stop file)))
    (hseen : (s :: seen).Pairwise (Extends log))
    : ∃ first last, ((s :: seen).getLast (List.cons_ne_nil _ _)).Reads log first last
        ∧ (first = 0 ∨ 0x0A ∈ log.window first last)
        ∧ fitting stop file ++ (c.printAll seen).toList = fitting last file := by
  -- the cursor stands at the end of the last full character that the snapshot before held
  induction seen generalizing s start stop c with
  | nil =>
    refine ⟨start, stop, hs, hline, ?_⟩
    rw [printAll, String.toList_empty, List.append_nil]
  | cons t seen ih =>
    rw [List.pairwise_cons] at hseen
    obtain ⟨start', stop', first, last, hs', ht, hfirst, hlast⟩ := hseen.1 t List.mem_cons_self
    obtain ⟨rfl, rfl⟩ := hs.eq hs'
    have hline' := TextView.line_of_wider hfirst hlast hline
    obtain ⟨more, hadvance, hmore⟩ := advance_of_extends hfile hs ht hfirst hlast hline hc
    obtain ⟨first', last', hreads, hline'', hall⟩ := ih ht hline' rfl hseen.2
    refine ⟨first', last', ?_, hline'', ?_⟩
    . rw [List.getLast_cons (List.cons_ne_nil _ _)]
      exact hreads
    . rw [toList_printAll_cons hadvance, ← List.append_assoc, hmore]
      exact hall

/--
A UTF-8 log is only appended to, and its snapshots hold more of it from one to the next. Whichever
of them a cursor is shown after the first one: what it prints is the part of the log from where the
text of the first one began to where the text of the last one ended.
-/
theorem prints_once {v u : Sight} {shown seen : List Snapshot} (hutf8 : u.log.IsUtf8)
    (hwindow : v.snapshot.Holds v.log start stop) (hdecoded : v.snapshot.IsDecoded)
    (hline : start = 0 ∨ 0x0A ∈ v.snapshot.bytes) (hrun : Sight.Run Sight.Widens v shown u)
    (hseen : seen.Sublist shown)
    : ∃ first last, v.snapshot.textOffset = some first
        ∧ ((v.snapshot :: seen).getLast (List.cons_ne_nil _ _)).textStop = some last
        ∧ first ≤ last
        ∧ last ≤ u.log.size
        ∧ encode (({} : Cursor).printAll (v.snapshot :: seen)).toList
            = u.log.window first last := by
  obtain ⟨file, hfile⟩ := hutf8
  have hpairwise := (hrun.pairwise ⟨hwindow, hdecoded⟩).sublist (hseen.cons_cons v.snapshot)
  have hreads := (Snapshot.Reads.mk hwindow hdecoded).later (hrun.grows Sight.Widens.grows)
  rw [hreads.holds.bytes] at hline
  obtain ⟨before, text, hshows, happend, _⟩ := hreads.shows_of_line hfile hline
  have hc : size before + size text = size (fitting stop file) := by
    rw [← happend, Text.Utf8.size_append]
  obtain ⟨first', last', hlast, hline', hall⟩ :=
    printAll_of_pairwise hfile hreads hline (congrArg some hc) hpairwise
  obtain ⟨before', text', hshows', happend', _⟩ := hlast.shows_of_line hfile hline'
  have hprinted := toList_printAll_cons (advance_first hshows) seen
  rw [← happend, List.append_assoc, ← hprinted] at hall
  have hsize := congrArg size (hall.trans happend'.symm)
  rw [Text.Utf8.size_append, Text.Utf8.size_append] at hsize
  have hstop : size before' + size text' ≤ u.log.size := by
    rw [← Text.Utf8.size_append, happend']
    exact Nat.le_trans (Text.Utf8.size_fitting_le last' file) hlast.holds.stop_le
  refine ⟨size before, size before' + size text', hshows.textOffset, hshows'.textStop_eq,
    by omega, hstop, ?_⟩
  rw [← hsize, TextView.window_encode hfile]
  . rw [hall]
    apply Text.Utf8.fitting_prefix
  . rw [hsize]
    exact hstop

/-- A log ends inside a character, which is printed once the rest of it was written, and not again
when the line before it is read. -/
theorem prints_once_cut_character
    : let s := Snapshot.initial.merge ⟨1, [10, 0xC3], 3⟩
      let t := s.merge ⟨2, [0xC3, 0xA9], 4⟩
      let seen := [s, t.withFollow true, (t.withFollow true).merge ⟨0, [97], 4⟩]
      encode (({} : Cursor).printAll seen).toList = [0xC3, 0xA9] := by
  intro s t seen
  let log : MemoryLog := ⟨[97, 10, 0xC3]⟩
  have hutf8 : (log.append [0xA9]).IsUtf8 := ⟨['a', '\n', 'é'], by decide⟩
  have hwindow : s.Holds log 1 3 := ⟨rfl, rfl, by decide, by decide⟩
  have hrun : Sight.Run Sight.Widens ⟨log, s⟩ _ ⟨log.append [0xA9], _⟩ :=
    .step (.append [0xA9])
      (.step (.merge (c := ⟨2, [0xC3, 0xA9], 4⟩) ⟨rfl, by decide, rfl⟩ ⟨1, 3, by decide⟩)
        (.step (.withFollow true)
          (.step (.merge (c := ⟨0, [97], 4⟩) ⟨rfl, by decide, rfl⟩ ⟨1, 4, by decide⟩)
            (.refl _))))
  have hseen : [t.withFollow true, (t.withFollow true).merge ⟨0, [97], 4⟩].Sublist
      [s, t, t.withFollow true, (t.withFollow true).merge ⟨0, [97], 4⟩] :=
    ((List.Sublist.refl _).cons _).cons _
  obtain ⟨first, last, hfirst, hlast, _, _, hprinted⟩ := prints_once hutf8 hwindow
    (Snapshot.isDecoded_merge _ _) (.inr (by decide)) hrun hseen
  obtain rfl : 2 = first := Option.some.inj hfirst
  have hstop : ((t.withFollow true).merge ⟨0, [97], 4⟩).textStop = some 4 := by decide +kernel
  obtain rfl : 4 = last := Option.some.inj (hstop.symm.trans hlast)
  exact hprinted

end Cursor
end RangeTail
