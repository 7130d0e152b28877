import RangeTail.Directive
import RangeTail.Proofs.Output.Run
import RangeTail.Proofs.Snapshot.Invariant
import RangeTail.Proofs.Snapshot.Stop

/-!
This module contains the proof that a window catches up with its log when what follows it is read
again and again: each time it ends by a chunk and a byte later, until it ends where the log does, and
from then on it stays as it is. Where it begins does not change, except that a window without any
byte takes the byte before it in.
-/

namespace RangeTail

namespace Snapshot

/-- The two hold the same window and show the same text of it. -/
def SameWindow (s u : Snapshot) : Prop :=
  u.offset = s.offset ∧ u.bytes = s.bytes ∧ u.textOffset = s.textOffset ∧ u.text = s.text

/-- What follows the window is asked for until `n` of the answers hold bytes. The log has not changed
meanwhile, and a request may fail. -/
inductive Grown (log : MemoryLog) (chunkSize : Nat) : Nat → Snapshot → Snapshot → Prop
  | refl (s : Snapshot) : Grown log chunkSize 0 s s
  | fail {n : Nat} {s u : Snapshot} (failure : Failure) :
      Grown log chunkSize n (s.withFailure failure) u → Grown log chunkSize n s u
  | read {n : Nat} {s u : Snapshot} {c : Chunk} :
      log.serve (nextRange s none chunkSize) = .ok c → Grown log chunkSize n (s.merge c) u →
        Grown log chunkSize (n + 1) s u

variable {s u v : Snapshot} {log file : MemoryLog} {start stop chunkSize n m : Nat} {c : Chunk}

theorem Reads.sameWindow (hs : s.Reads log start stop) (hu : u.Reads log start stop)
    : s.SameWindow u := by
  obtain ⟨hoffset, htext⟩ := hs.decoded start hs.holds.offset
  obtain ⟨hoffset', htext'⟩ := hu.decoded start hu.holds.offset
  rw [hs.holds.bytes] at hoffset htext
  rw [hu.holds.bytes] at hoffset' htext'
  refine ⟨?_, ?_, ?_, ?_⟩
  . rw [hu.holds.offset, hs.holds.offset]
  . rw [hu.holds.bytes, hs.holds.bytes]
  . rw [hoffset', hoffset]
  . rw [htext', htext]

namespace Holds

theorem exists_serve_growth (h : s.Holds log start stop) (hsize : log.size ≤ maxOffset)
    (hpos : 0 < log.size)
    : ∃ c, log.serve (nextRange s none chunkSize) = .ok c := by
  have hstop := h.stop_le
  have hbounds := MemoryLog.bounds_growth hsize h.stop_eq chunkSize
  have hlt : (MemoryLog.bounds log.size (nextRange s none chunkSize)).1
      < (MemoryLog.bounds log.size (nextRange s none chunkSize)).2 := by
    rw [hbounds]
    dsimp only
    omega
  obtain ⟨c, hc, _⟩ := MemoryLog.exists_serve hlt
  exact ⟨c, hc⟩

/-- The byte before the end is read once more, so the window begins with it if it was empty. -/
theorem merge_growth (h : s.Holds log start stop) (hsize : log.size ≤ maxOffset)
    (hc : log.serve (nextRange s none chunkSize) = .ok c)
    : (s.merge c).Holds log (min start (stop - 1)) (min log.size (stop + chunkSize + 1))
        ∧ min start (stop - 1) < min log.size (stop + chunkSize + 1) := by
  obtain ⟨hchunk, _⟩ := MemoryLog.isOf_of_serve hc
  obtain ⟨hoffset, hend, _, hlt⟩ := MemoryLog.stop_of_serve hc
  rw [MemoryLog.bounds_growth hsize h.stop_eq] at hoffset hend
  have hstart := h.start_le
  have hstop := h.stop_le
  have hmerge := h.merge_of_touches hchunk (by omega) (by omega)
  have hlast : max stop c.stop = min log.size (stop + chunkSize + 1) := by omega
  rw [hoffset, hlast] at hmerge
  exact ⟨hmerge, by omega⟩

end Holds

theorem min_growth_succ (size stop chunkSize n : Nat)
    : min size (min size (stop + chunkSize + 1) + n * (chunkSize + 1))
        =
      min size (stop + (n + 1) * (chunkSize + 1)) := by
  rw [Nat.succ_mul]
  omega

namespace Grown

theorem total_eq (h : Grown log chunkSize n s u) (hs : s.total = log.size)
    : u.total = log.size := by
  induction h with
  | refl => exact hs
  | fail _ _ ih => exact ih hs
  | read hserve _ ih =>
    apply ih
    exact (MemoryLog.stop_of_serve hserve).2.2.1

theorem holds (h : Grown log chunkSize n s u) (hs : s.Holds log start stop)
    (hsize : log.size ≤ maxOffset)
    : ∃ first, u.Holds log first (min log.size (stop + n * (chunkSize + 1))) := by
  induction h generalizing start stop with
  | refl =>
    rw [Nat.zero_mul, Nat.add_zero, Nat.min_eq_right hs.stop_le]
    exact ⟨start, hs⟩
  | fail failure _ ih => exact ih (hs.withFailure failure)
  | read hserve _ ih =>
    obtain ⟨first, hu⟩ := ih (hs.merge_growth hsize hserve).1
    rw [min_growth_succ] at hu
    exact ⟨first, hu⟩

theorem reads (h : Grown log chunkSize n s u) (hs : s.Reads log start stop) (hne : start < stop)
    (hsize : log.size ≤ maxOffset)
    : u.Reads log start (min log.size (stop + n * (chunkSize + 1))) := by
  induction h generalizing stop with
  | refl =>
    rw [Nat.zero_mul, Nat.add_zero, Nat.min_eq_right hs.holds.stop_le]
    exact hs
  | fail failure _ ih => exact ih ⟨hs.holds.withFailure failure, hs.decoded⟩ hne
  | @read n s u c hserve _ ih =>
    obtain ⟨hmerge, hlt⟩ := hs.holds.merge_growth hsize hserve
    rw [Nat.min_eq_left (by omega)] at hmerge hlt
    have hu := ih ⟨hmerge, isDecoded_merge s c⟩ hlt
    rw [min_growth_succ] at hu
    exact hu

/-- After the first answer the window is not empty, and the text is the one of the window. -/
theorem reads_of_pos (h : Grown log chunkSize n s u) (hn : 0 < n) (hs : s.Holds log start stop)
    (hsize : log.size ≤ maxOffset)
    : u.Reads log (min start (stop - 1)) (min log.size (stop + n * (chunkSize + 1)))
        ∧ min start (stop - 1) < min log.size (stop + n * (chunkSize + 1))
        ∧ u.total = log.size := by
  induction h with
  | refl => contradiction
  | fail failure _ ih => exact ih hn (hs.withFailure failure)
  | @read n s u c hserve hrest _ =>
    obtain ⟨hmerge, hlt⟩ := hs.merge_growth hsize hserve
    have hu := hrest.reads ⟨hmerge, isDecoded_merge s c⟩ hlt hsize
    rw [min_growth_succ] at hu
    refine ⟨hu, ?_, ?_⟩
    . rw [Nat.succ_mul]
      omega
    . apply hrest.total_eq
      exact (MemoryLog.stop_of_serve hserve).2.2.1

/-- A window that ends with its log stays what it is. -/
theorem sameWindow_of_end (h : Grown log chunkSize m u v) (hu : u.Reads log start log.size)
    (hne : start < log.size) (hsize : log.size ≤ maxOffset)
    : v.SameWindow u := by
  have hv := h.reads hu hne hsize
  rw [Nat.min_eq_left (Nat.le_add_right _ _)] at hv
  exact hv.sameWindow hu

end Grown

theorem Holds.exists_grown (h : s.Holds log start stop) (hsize : log.size ≤ maxOffset)
    (hpos : 0 < log.size) (chunkSize n : Nat)
    : ∃ u, Grown log chunkSize n s u := by
  induction n generalizing s start stop with
  | zero => exact ⟨s, .refl s⟩
  | succ n ih =>
    obtain ⟨c, hserve⟩ := h.exists_serve_growth hsize hpos
    obtain ⟨u, hu⟩ := ih (h.merge_growth hsize hserve).1
    exact ⟨u, .read hserve hu⟩

/--
What follows a window is read from a log that has only been appended to. There is always something
to read, and the window reaches a chunk and a byte further then, or as far as the log does. It begins
where it did, unless it was empty. Read again and again from a log that does not change, the window
comes to end where the log does, and from then on neither it nor its text changes any more.
-/
theorem growth_catches_up (h : s.Holds log start stop) (chunkSize : Nat)
    : (∀ file : MemoryLog, log.bytes <+: file.bytes → 0 < file.size → file.size ≤ maxOffset →
          ∃ c, file.serve (nextRange s none chunkSize) = .ok c
            ∧ (s.merge c).Holds file (min start (stop - 1))
                (min file.size (stop + chunkSize + 1)))
        ∧ (log.size ≤ maxOffset → 0 < log.size → ∀ n, ∃ u, Grown log chunkSize n s u)
        ∧ (log.size ≤ maxOffset → ∀ n u, Grown log chunkSize n s u →
            u.stop = some (min log.size (stop + n * (chunkSize + 1)))
              ∧ (0 < n → u.offset = some (min start (stop - 1)))
              ∧ (log.size ≤ stop + n * (chunkSize + 1) →
                  (0 < n → u.atEnd)
                    ∧ (0 < n ∨ start < stop ∧ s.IsDecoded →
                        ∀ m v, Grown log chunkSize m u v → v.SameWindow u))) := by
  refine ⟨?_, ?_, ?_⟩
  . intro file hfile hpos hsize
    have hlater := h.later hfile
    obtain ⟨c, hserve⟩ := hlater.exists_serve_growth hsize hpos
    exact ⟨c, hserve, (hlater.merge_growth hsize hserve).1⟩
  . intro hsize hpos n
    exact h.exists_grown hsize hpos chunkSize n
  . intro hsize n u hgrown
    obtain ⟨_, hu⟩ := hgrown.holds h hsize
    refine ⟨hu.stop_eq, ?_, ?_⟩
    . intro hn
      exact (hgrown.reads_of_pos hn h hsize).1.holds.offset
    . intro hend
      rw [Nat.min_eq_left hend] at hu
      refine ⟨?_, ?_⟩
      . intro hn
        exact hu.atEnd (Nat.le_of_eq (hgrown.reads_of_pos hn h hsize).2.2)
      . intro hread m v hmore
        obtain ⟨first, hreads, hne⟩ : ∃ first, u.Reads log first log.size ∧ first < log.size := by
          cases hread with
          | inl hn =>
            obtain ⟨hreads, hne, _⟩ := hgrown.reads_of_pos hn h hsize
            rw [Nat.min_eq_left hend] at hreads hne
            exact ⟨_, hreads, hne⟩
          | inr hs =>
            have hreads := hgrown.reads ⟨h, hs.2⟩ hs.1 hsize
            rw [Nat.min_eq_left hend] at hreads
            exact ⟨_, hreads, Nat.lt_of_lt_of_le hs.1 h.stop_le⟩
        exact hmore.sameWindow_of_end hreads hne hsize

/-- The second byte of a log is held. Two chunks of one byte are read behind it, with a failure
between them, and then there is nothing more to read. -/
theorem growth_catches_up_two_reads
    : let log : MemoryLog := ⟨[97, 98, 99, 10, 101]⟩
      let s := initial.merge ⟨1, [98], 5⟩
      let failed := (s.merge ⟨1, [98, 99, 10], 5⟩).withFailure ⟨.transport, none, "", .span 3 5, 0⟩
      let u := failed.merge ⟨3, [10, 101], 5⟩
      let v := u.merge ⟨4, [101], 5⟩
      Grown log 1 2 s u ∧ u.stop = some 5 ∧ u.atEnd ∧ Grown log 1 1 u v ∧ v.SameWindow u := by
  intro log s failed u v
  have hs : s.Holds log 1 2 := ⟨rfl, rfl, by decide, by decide⟩
  have hfirst : log.serve (nextRange s none 1) = .ok ⟨1, [98, 99, 10], 5⟩ := by decide +kernel
  have hsecond : log.serve (nextRange failed none 1) = .ok ⟨3, [10, 101], 5⟩ := by decide +kernel
  have hthird : log.serve (nextRange u none 1) = .ok ⟨4, [101], 5⟩ := by decide +kernel
  have hu : Grown log 1 2 s u := .read hfirst (.fail _ (.read hsecond (.refl u)))
  have hv : Grown log 1 1 u v := .read hthird (.refl v)
  obtain ⟨_, _, hgrown⟩ := growth_catches_up hs 1
  obtain ⟨hstop, _, hend⟩ := hgrown (by decide) 2 u hu
  obtain ⟨hatEnd, hsame⟩ := hend (by decide)
  exact ⟨hu, hstop, hatEnd (by decide), hv, hsame (.inl (by decide)) 1 v hv⟩

/-- A window without any byte does not begin where it did after what follows it was read. -/
theorem growth_of_empty_window_moves_start
    : ¬ ∀ (s : Snapshot) (log : MemoryLog) (start stop chunkSize : Nat) (c : Chunk), s.Reached →
        0 < chunkSize → log.size ≤ maxOffset → s.Holds log start stop →
          log.serve (nextRange s none chunkSize) = .ok c →
            (s.merge c).Holds log start (min log.size (stop + chunkSize + 1)) := by
  intro h
  have hs : (initial.merge ⟨2, [], 4⟩).Reached := .merge _ .initial
  have hholds := h _ ⟨[97, 98, 99, 100]⟩ 2 2 1 ⟨1, [98, 99, 100], 4⟩ hs (by decide) (by decide)
    ⟨rfl, rfl, by decide, by decide⟩ rfl
  have hoffset := hholds.offset
  revert hoffset
  decide +kernel

end Snapshot
end RangeTail
