import RangeTail.Chunk
import RangeTail.Snapshot
import RangeTail.TextView

/-!
This module contains the joining of newly read bytes with the window of a snapshot. Bytes that touch
or overlap the window extend it, all others replace it, since what lies between is not known. Where
both hold a byte, the ones that begin later win, and at equal beginnings the new ones do.
-/

namespace RangeTail

/-- The bytes of `lower` with those of `upper` put on them from position `k` on. -/
def overlay (lower upper : List UInt8) (k : Nat) : List UInt8 :=
  lower.take k ++ upper ++ lower.drop (k + upper.length)

namespace Snapshot

/-- Whether the chunk and the window from `start` to `stop` leave no gap, in a file not shorter than
the window reaches. -/
def Joins (start stop : Nat) (chunk : Chunk) : Prop :=
  stop ≤ chunk.total ∧ start ≤ chunk.stop ∧ chunk.offset ≤ stop

instance (start stop : Nat) (chunk : Chunk) : Decidable (Joins start stop chunk) :=
  inferInstanceAs (Decidable (_ ∧ _ ∧ _))

/-- Where the window begins after `chunk` was read, and its bytes. -/
def splice (s : Snapshot) (chunk : Chunk) : Nat × List UInt8 :=
  match s.offset with
  | none => (chunk.offset, chunk.bytes)
  | some start =>
    if Joins start (start + s.bytes.length) chunk then
      if chunk.offset < start then
        (chunk.offset, overlay chunk.bytes s.bytes (start - chunk.offset))
      else
        (start, overlay s.bytes chunk.bytes (chunk.offset - start))
    else
      (chunk.offset, chunk.bytes)

/--
The same, if 64 bits hold the sums that it takes. The end of the chunk is none of them if the file is
shorter than the window reaches.
-/
def splice? (s : Snapshot) (chunk : Chunk) : Option (Nat × List UInt8) :=
  match s.stop? with
  | none => none
  | some none => some (s.splice chunk)
  | some (some stop) =>
    if chunk.total < stop then some (s.splice chunk) else chunk.stop?.map fun _ => s.splice chunk

section

variable {s : Snapshot} {chunk : Chunk} {start : Nat}

theorem splice_of_unloaded (h : s.offset = none) : s.splice chunk = (chunk.offset, chunk.bytes) := by
  unfold splice
  rw [h]

theorem splice_of_not_joins (h : s.offset = some start)
    (hjoins : ¬ Joins start (start + s.bytes.length) chunk)
    : s.splice chunk = (chunk.offset, chunk.bytes) := by
  unfold splice
  rw [h]
  dsimp only
  rw [if_neg hjoins]

theorem splice_of_front (h : s.offset = some start)
    (hjoins : Joins start (start + s.bytes.length) chunk) (hfront : chunk.offset < start)
    : s.splice chunk = (chunk.offset, overlay chunk.bytes s.bytes (start - chunk.offset)) := by
  unfold splice
  rw [h]
  dsimp only
  rw [if_pos hjoins, if_pos hfront]

theorem splice_of_not_front (h : s.offset = some start)
    (hjoins : Joins start (start + s.bytes.length) chunk) (hfront : ¬ chunk.offset < start)
    : s.splice chunk = (start, overlay s.bytes chunk.bytes (chunk.offset - start)) := by
  unfold splice
  rw [h]
  dsimp only
  rw [if_pos hjoins, if_neg hfront]

end

/-- The snapshot that holds the window `bytes` at `offset` of a file of `total` bytes. -/
def holding (follow : Bool) (offset : Nat) (bytes : List UInt8) (total : Nat) : Snapshot :=
  let view := TextView.ofWindow offset bytes
  { offset := some offset
    textOffset := some view.offset
    bytes := bytes
    text := view.text
    total := total
    loading := false
    follow := follow
    failure := none
    decodeError := view.isBroken }

/-- The snapshot after `chunk` was read. -/
def merge (s : Snapshot) (chunk : Chunk) : Snapshot :=
  holding s.follow (s.splice chunk).1 (s.splice chunk).2 chunk.total

/-- The same, if 64 bits hold the sums that it takes. -/
def merge? (s : Snapshot) (chunk : Chunk) : Option Snapshot := do
  let (offset, bytes) ← s.splice? chunk
  let view ← TextView.decode .stops offset bytes
  return { holding s.follow offset bytes chunk.total with
    textOffset := some view.offset
    text := view.text
    decodeError := view.isBroken }

theorem merge_of_splice {s : Snapshot} {chunk : Chunk} {offset : Nat} {bytes : List UInt8}
    (h : s.splice chunk = (offset, bytes))
    : s.merge chunk = holding s.follow offset bytes chunk.total := by
  unfold merge
  rw [h]

end Snapshot
end RangeTail
