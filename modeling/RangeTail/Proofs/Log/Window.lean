import RangeTail.MemoryLog
import RangeTail.Snapshot.Merge

/-!
This module contains the theory of the windows of a log: how the bytes between two positions are cut
and joined, and which chunks and snapshots hold such bytes. The main statement is that joining a
chunk of a log with a window of it gives a window of the log again.
-/

namespace RangeTail

namespace MemoryLog

theorem take_window (log : MemoryLog) (start stop n : Nat)
    : (log.window start stop).take n = log.window start (min stop (start + n)) := by
  unfold window
  rw [List.take_take]
  congr 1
  omega

theorem drop_window (log : MemoryLog) (start stop n : Nat)
    : (log.window start stop).drop n = log.window (start + n) stop := by
  unfold window
  rw [List.drop_take, List.drop_drop]
  congr 1
  omega

theorem window_append_window (log : MemoryLog) {start mid stop : Nat} (h₁ : start ≤ mid)
    (h₂ : mid ≤ stop)
    : log.window start mid ++ log.window mid stop = log.window start stop := by
  unfold window
  have hlen : stop - start = (mid - start) + (stop - mid) := by omega
  have hmid : start + (mid - start) = mid := by omega
  rw [hlen, List.take_add, List.drop_drop, hmid]

theorem window_eq_nil (log : MemoryLog) {start stop : Nat} (h : stop ≤ start)
    : log.window start stop = [] := by
  unfold window
  rw [Nat.sub_eq_zero_of_le h]
  apply List.take_zero

theorem window_of_prefix {log file : MemoryLog} (h : log.bytes <+: file.bytes) {start stop : Nat}
    (hstop : stop ≤ log.size)
    : file.window start stop = log.window start stop := by
  obtain ⟨more, hmore⟩ := h
  unfold size at hstop
  unfold window
  have hzero : stop - start - (log.bytes.length - start) = 0 := by omega
  rw [← hmore, List.drop_append, List.take_append]
  rw [List.length_drop, hzero, List.take_zero, List.append_nil]

theorem window_append {log : MemoryLog} (more : List UInt8) {start stop : Nat}
    (hstop : stop ≤ log.size)
    : (log.append more).window start stop = log.window start stop := by
  apply window_of_prefix
  . apply List.prefix_append
  . exact hstop

theorem getElem?_window (log : MemoryLog) {start stop i : Nat} (h : start + i < stop)
    : (log.window start stop)[i]? = log.bytes[start + i]? := by
  unfold window
  rw [List.getElem?_take_of_lt (by omega), List.getElem?_drop]

theorem getElem?_of_window {log : MemoryLog} {start stop i : Nat} {b : UInt8}
    (h : (log.window start stop)[i]? = some b)
    : log.bytes[start + i]? = some b ∧ start + i < stop := by
  have hlt : start + i < stop := by
    obtain ⟨hi, _⟩ := List.getElem?_eq_some_iff.mp h
    unfold window at hi
    rw [List.length_take] at hi
    omega
  rw [getElem?_window log hlt] at h
  exact ⟨h, hlt⟩

theorem overlay_window (log : MemoryLog) {start stop first last : Nat} (h₁ : start ≤ first)
    (h₂ : first ≤ stop) (h₃ : first ≤ last) (hlast : last ≤ log.size)
    : overlay (log.window start stop) (log.window first last) (first - start)
        =
      log.window start (max stop last) := by
  unfold overlay
  rw [length_window hlast, take_window, drop_window]
  have hfirst : min stop (start + (first - start)) = first := by omega
  have hend : start + (first - start + (last - first)) = last := by omega
  rw [hfirst, hend]
  rw [window_append_window log h₁ h₃]
  cases Nat.le_total stop last with
  | inl h =>
    rw [window_eq_nil log h]
    rw [List.append_nil, Nat.max_eq_right h]
  | inr h =>
    rw [window_append_window log (by omega) h]
    rw [Nat.max_eq_left h]

end MemoryLog

namespace Chunk

/-- The chunk holds bytes of the log, and was read when the log was as long as it is. -/
structure IsOf (c : Chunk) (log : MemoryLog) : Prop where
  bytes : c.bytes = log.window c.offset c.stop
  stop_le : c.stop ≤ log.size
  total : c.total = log.size

end Chunk

theorem MemoryLog.isOf_of_serve {log : MemoryLog} {r : ByteRange} {c : Chunk}
    (h : log.serve r = .ok c)
    : c.IsOf log ∧ c.offset < c.stop := by
  rw [serve_eq_ok] at h
  obtain ⟨hlt, rfl⟩ := h
  have hle := bounds_snd_le log.size r
  have hstop : Chunk.stop ⟨(bounds log.size r).1,
      log.window (bounds log.size r).1 (bounds log.size r).2, log.size⟩
        =
      (bounds log.size r).2 := by
    unfold Chunk.stop
    dsimp only
    rw [length_window hle]
    omega
  constructor
  . constructor
    . rw [hstop]
    . rw [hstop]
      exact hle
    . rfl
  . rw [hstop]
    exact hlt

namespace Snapshot

/-- The bytes of the chunk leave no gap to the window. -/
def Touches (s : Snapshot) (c : Chunk) : Prop :=
  ∃ start stop, s.offset = some start ∧ s.stop = some stop ∧ start ≤ c.stop ∧ c.offset ≤ stop

/-- The window of the snapshot lies from `start` up to `stop` of the log. -/
structure Holds (s : Snapshot) (log : MemoryLog) (start stop : Nat) : Prop where
  offset : s.offset = some start
  bytes : s.bytes = log.window start stop
  start_le : start ≤ stop
  stop_le : stop ≤ log.size

namespace Holds

variable {s : Snapshot} {log : MemoryLog} {start stop : Nat} {c : Chunk}

theorem length_bytes (h : s.Holds log start stop) : s.bytes.length = stop - start := by
  rw [h.bytes]
  apply MemoryLog.length_window
  exact h.stop_le

theorem start_add_length (h : s.Holds log start stop) : start + s.bytes.length = stop := by
  rw [h.length_bytes]
  have := h.start_le
  omega

theorem stop_eq (h : s.Holds log start stop) : s.stop = some stop := by
  unfold Snapshot.stop
  rw [h.offset, Option.map_some, h.start_add_length]

theorem atEnd (h : s.Holds log start stop) (htotal : s.total ≤ stop) : s.atEnd := by
  unfold Snapshot.atEnd
  rw [h.stop_eq, Option.any_some, decide_eq_true htotal]

theorem touches_iff (h : s.Holds log start stop)
    : s.Touches c ↔ start ≤ c.stop ∧ c.offset ≤ stop := by
  unfold Touches
  rw [h.offset, h.stop_eq]
  constructor
  . rintro ⟨_, _, ⟨⟩, ⟨⟩, htouches⟩
    exact htouches
  . intro htouches
    exact ⟨start, stop, rfl, rfl, htouches⟩

theorem append (h : s.Holds log start stop) (more : List UInt8)
    : s.Holds (log.append more) start stop where
  offset := h.offset
  bytes := by rw [MemoryLog.window_append more h.stop_le, h.bytes]
  start_le := h.start_le
  stop_le := by
    rw [MemoryLog.size_append]
    exact Nat.le_add_right_of_le h.stop_le

theorem later {file : MemoryLog} (h : s.Holds log start stop) (hfile : log.bytes <+: file.bytes)
    : s.Holds file start stop where
  offset := h.offset
  bytes := by rw [MemoryLog.window_of_prefix hfile h.stop_le, h.bytes]
  start_le := h.start_le
  stop_le := Nat.le_trans h.stop_le hfile.length_le

theorem withFollow (h : s.Holds log start stop) (follow : Bool)
    : (s.withFollow follow).Holds log start stop :=
  ⟨h.offset, h.bytes, h.start_le, h.stop_le⟩

theorem withFailure (h : s.Holds log start stop) (failure : Failure)
    : (s.withFailure failure).Holds log start stop :=
  ⟨h.offset, h.bytes, h.start_le, h.stop_le⟩

end Holds

variable {s : Snapshot} {log : MemoryLog} {start stop : Nat} {c : Chunk}

theorem holds_merge_of_splice (h : s.splice c = (start, log.window start stop))
    (hstart : start ≤ stop) (hstop : stop ≤ log.size)
    : (s.merge c).Holds log start stop := by
  rw [merge_of_splice h]
  exact ⟨rfl, rfl, hstart, hstop⟩

theorem holds_merge_chunk (hc : c.IsOf log) (h : s.splice c = (c.offset, c.bytes))
    : (s.merge c).Holds log c.offset c.stop := by
  apply holds_merge_of_splice
  . rw [h, ← hc.bytes]
  . apply Nat.le_add_right
  . exact hc.stop_le

/-- A chunk that touches or overlaps the window extends it. -/
theorem Holds.merge_of_touches (h : s.Holds log start stop) (hc : c.IsOf log)
    (h₁ : start ≤ c.stop) (h₂ : c.offset ≤ stop)
    : (s.merge c).Holds log (min start c.offset) (max stop c.stop) := by
  have hjoins : Joins start (start + s.bytes.length) c := by
    rw [h.start_add_length]
    exact ⟨hc.total ▸ h.stop_le, h₁, h₂⟩
  have hcs : c.offset ≤ c.stop := Nat.le_add_right ..
  have hss := h.start_le
  have hstop := h.stop_le
  have hcstop := hc.stop_le
  apply holds_merge_of_splice
  . by_cases hlt : c.offset < start
    . -- what was held before is put on the chunk, which begins further in front
      rw [splice_of_front h.offset hjoins hlt, h.bytes, hc.bytes]
      rw [MemoryLog.overlay_window log (by omega) h₁ hss hstop]
      rw [Nat.min_eq_right (by omega), Nat.max_comm]
    . rw [splice_of_not_front h.offset hjoins hlt, h.bytes, hc.bytes]
      rw [MemoryLog.overlay_window log (by omega) h₂ hcs hcstop]
      rw [Nat.min_eq_left (by omega)]
  . omega
  . omega

theorem Holds.merge_of_apart (h : s.Holds log start stop) (hc : c.IsOf log)
    (hgap : ¬ (start ≤ c.stop ∧ c.offset ≤ stop))
    : (s.merge c).Holds log c.offset c.stop := by
  have hjoins : ¬ Joins start (start + s.bytes.length) c := by
    rw [h.start_add_length]
    exact fun hj => hgap hj.2
  apply holds_merge_chunk hc
  exact splice_of_not_joins h.offset hjoins

theorem holds_merge_of_unloaded (hs : s.offset = none) (hc : c.IsOf log)
    : (s.merge c).Holds log c.offset c.stop := by
  apply holds_merge_chunk hc
  exact splice_of_unloaded hs

end Snapshot
end RangeTail
