import RangeTail.Directive
import RangeTail.MemoryLog
import RangeTail.Snapshot.Merge

/-!
This module contains where the window of a snapshot ends after a chunk was read, and where the chunk
ends that a log serves for the range that is asked for next.
-/

namespace RangeTail

theorem length_overlay {lower upper : List UInt8} {k : Nat} (h : k ≤ lower.length)
    : (overlay lower upper k).length = max lower.length (k + upper.length) := by
  unfold overlay
  simp only [List.length_append, List.length_take, List.length_drop]
  omega

namespace Snapshot

variable {s : Snapshot} {c : Chunk} {start : Nat}

theorem stop_merge : (s.merge c).stop = some ((s.splice c).1 + (s.splice c).2.length) := rfl

theorem stop_merge_of_unloaded (h : s.offset = none) : (s.merge c).stop = some c.stop := by
  rw [stop_merge, splice_of_unloaded h]
  rfl

theorem stop_merge_of_joins (h : s.offset = some start)
    (hjoins : Joins start (start + s.bytes.length) c)
    : (s.merge c).stop = some (max (start + s.bytes.length) c.stop) := by
  have hfirst := hjoins.2.1
  have hlast := hjoins.2.2
  unfold Chunk.stop at *
  rw [stop_merge]
  by_cases hfront : c.offset < start
  . rw [splice_of_front h hjoins hfront, length_overlay (by omega)]
    congr 1
    omega
  . rw [splice_of_not_front h hjoins hfront, length_overlay (by omega)]
    congr 1
    omega

theorem stop_merge_of_not_joins (h : s.offset = some start)
    (hjoins : ¬ Joins start (start + s.bytes.length) c)
    : (s.merge c).stop = some c.stop := by
  rw [stop_merge, splice_of_not_joins h hjoins]
  rfl

theorem stop_merge_of_end (h : c.stop = c.total) : (s.merge c).stop = some c.total := by
  cases hs : s.offset with
  | none => rw [stop_merge_of_unloaded hs, h]
  | some start =>
    by_cases hjoins : Joins start (start + s.bytes.length) c
    . have := hjoins.1
      rw [stop_merge_of_joins hs hjoins, h, Nat.max_eq_right this]
    . rw [stop_merge_of_not_joins hs hjoins, h]

end Snapshot

namespace MemoryLog

variable {log : MemoryLog} {r : ByteRange} {c : Chunk}

theorem stop_of_serve (h : log.serve r = .ok c)
    : c.offset = (bounds log.size r).1
        ∧ c.stop = (bounds log.size r).2
        ∧ c.total = log.size
        ∧ c.offset < c.stop := by
  rw [serve_eq_ok] at h
  obtain ⟨hlt, rfl⟩ := h
  unfold Chunk.stop
  rw [length_window (bounds_snd_le log.size r)]
  refine ⟨rfl, ?_, rfl, ?_⟩
  . dsimp only
    omega
  . dsimp only
    omega

theorem exists_serve (h : (bounds log.size r).1 < (bounds log.size r).2)
    : ∃ c, log.serve r = .ok c
        ∧ c.offset = (bounds log.size r).1
        ∧ c.stop = (bounds log.size r).2 := by
  have hserve : log.serve r = .ok _ := serve_eq_ok.mpr ⟨h, rfl⟩
  obtain ⟨hoffset, hstop, _⟩ := stop_of_serve hserve
  exact ⟨_, hserve, hoffset, hstop⟩

theorem serve_eq_error (h : (bounds log.size r).2 ≤ (bounds log.size r).1)
    : log.serve r = .error (.emptyFile log.size) := by
  unfold serve
  exact if_neg (Nat.not_lt.mpr h)

/-- An answer that is not of bytes says that there are none. -/
theorem eq_emptyFile_of_serve {fault : Fault} (h : log.serve r = .error fault)
    : fault = .emptyFile log.size := by
  cases Nat.lt_or_ge (bounds log.size r).1 (bounds log.size r).2 with
  | inl hlt =>
    obtain ⟨c, hc, _⟩ := exists_serve hlt
    rw [hc] at h
    contradiction
  | inr hge =>
    rw [serve_eq_error hge] at h
    exact (Except.error.inj h).symm

theorem bounds_suffix (size chunkSize : Nat) (s : Snapshot) (h : s.offset = none)
    : (bounds size (nextRange s none chunkSize)).2 = size := by
  simp [nextRange, Snapshot.stop, h, bounds]

/-- The range that the end of a file is asked for by reaches the end, as long as 64 bits hold it. -/
theorem bounds_toEnd {size : Nat} (h : size ≤ maxOffset) (s : Snapshot) (chunkSize : Nat)
    : (bounds size (nextRange s (some (.toEnd size chunkSize)) chunkSize)).2 = size := by
  simp only [nextRange, Directive.toEnd, bounds, addClamped]
  omega

/-- What follows the window is read no further than by a chunk. -/
theorem bounds_growth {size stop : Nat} {s : Snapshot} (h : size ≤ maxOffset)
    (hs : s.stop = some stop) (chunkSize : Nat)
    : bounds size (nextRange s none chunkSize) = (stop - 1, min (stop + chunkSize + 1) size) := by
  simp only [nextRange, hs, bounds, addClamped, Prod.mk.injEq, true_and]
  omega

end MemoryLog

namespace Snapshot

/-- A window that is all that was read so far grows by what follows it. -/
theorem stop_merge_of_growth {log : MemoryLog} {r : ByteRange} {s : Snapshot} {c d : Chunk}
    {chunkSize : Nat} (hsize : log.size ≤ maxOffset) (hs : s.offset = none)
    (hc : log.serve r = .ok c) (hd : log.serve (nextRange (s.merge c) none chunkSize) = .ok d)
    : ((s.merge c).merge d).stop = some (min (c.stop + chunkSize + 1) log.size) := by
  obtain ⟨_, hcstop, _, hclt⟩ := MemoryLog.stop_of_serve hc
  obtain ⟨hdoffset, hdstop, hdtotal, hdlt⟩ := MemoryLog.stop_of_serve hd
  have hcle := MemoryLog.bounds_snd_le log.size r
  have hstop := stop_merge_of_unloaded (c := c) hs
  rw [MemoryLog.bounds_growth hsize hstop] at hdoffset hdstop
  have hoffset : (s.merge c).offset = some c.offset := by
    rw [merge_of_splice (splice_of_unloaded hs)]
    rfl
  have hlength : c.offset + (s.merge c).bytes.length = c.stop := by
    rw [merge_of_splice (splice_of_unloaded hs)]
    rfl
  -- the second chunk begins with the last byte of the first one, so no gap is left between them
  have hjoins : Joins c.offset (c.offset + (s.merge c).bytes.length) d := by
    rw [hlength]
    refine ⟨?_, ?_, ?_⟩
    . omega
    . omega
    . omega
  rw [stop_merge_of_joins hoffset hjoins, hlength]
  congr 1
  omega

end Snapshot
end RangeTail
