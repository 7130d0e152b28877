import RangeTail.ByteRange
import RangeTail.Chunk
import RangeTail.Fault
import RangeTail.Text.Decimal

/-!
This module contains logs that are held in memory, and their answers to requests for ranges.
-/

namespace RangeTail

/-- A log that is held in memory. -/
structure MemoryLog where
  bytes : List UInt8 := []
  deriving DecidableEq, Repr, Inhabited

namespace MemoryLog

def size (log : MemoryLog) : Nat :=
  log.bytes.length

def append (log : MemoryLog) (more : List UInt8) : MemoryLog where
  bytes := log.bytes ++ more

/-- Keep the first `n` bytes only. -/
def truncate (log : MemoryLog) (n : Nat) : MemoryLog where
  bytes := log.bytes.take n

/-- The positions of the first byte of a range and of the byte after its last one, in a file of
`size` bytes. -/
def bounds (size : Nat) : ByteRange → Nat × Nat
  | .suffix length => (size - length, size)
  | .span first last => (first, min (addClamped last 1) size)

/-- The bytes from `start` up to `stop`. -/
def window (log : MemoryLog) (start stop : Nat) : List UInt8 :=
  (log.bytes.drop start).take (stop - start)

/-- The bytes of a range, as many as the log holds. A range without any is answered like one of an
empty file. -/
def serve (log : MemoryLog) (r : ByteRange) : Except Fault Chunk :=
  let (start, stop) := bounds log.size r
  if start < stop then .ok ⟨start, log.window start stop, log.size⟩
  else .error (.emptyFile log.size)

@[simp] theorem size_append (log : MemoryLog) (more : List UInt8) :
    (log.append more).size = log.size + more.length := by
  simp [append, size]

theorem bounds_snd_le (size : Nat) (r : ByteRange) : (bounds size r).2 ≤ size := by
  cases r with
  | span => exact Nat.min_le_right _ _
  | suffix => exact Nat.le_refl _

theorem length_window {log : MemoryLog} {start stop : Nat} (h : stop ≤ log.size) :
    (log.window start stop).length = stop - start := by
  simp only [window, List.length_take, List.length_drop, size] at *
  omega

theorem serve_eq_ok {log : MemoryLog} {r : ByteRange} {chunk : Chunk} :
    log.serve r = .ok chunk ↔ (bounds log.size r).1 < (bounds log.size r).2 ∧
      chunk = ⟨(bounds log.size r).1, log.window (bounds log.size r).1 (bounds log.size r).2,
        log.size⟩ := by
  grind [serve]

end MemoryLog
end RangeTail
