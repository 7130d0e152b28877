import RangeTail.Proofs.Snapshot.Stop

/-!
This module contains which byte of the file a snapshot and a chunk hold for each position, and the
proof that reading a chunk goes byte by byte: where both hold one, the window wins over a chunk that
begins in front of it, and any other chunk wins over the window.
-/

namespace RangeTail

/-- The byte for the position `p` of a file, of which the bytes from `offset` on are held. -/
def heldAt (offset : Nat) (bytes : List UInt8) (p : Nat) : Option UInt8 :=
  if offset ≤ p then bytes[p - offset]? else none

section

variable {offset start first p : Nat} {bytes lower upper : List UInt8}

theorem isSome_heldAt
    : (heldAt offset bytes p).isSome = true ↔ offset ≤ p ∧ p < offset + bytes.length := by
  unfold heldAt
  split
  . rw [isSome_getElem?]
    omega
  . simp only [Option.isSome_none, Bool.false_eq_true, false_iff]
    omega

theorem heldAt_eq_none (h : p < offset ∨ offset + bytes.length ≤ p)
    : heldAt offset bytes p = none := by
  rw [← Option.not_isSome_iff_eq_none, isSome_heldAt]
  omega

theorem heldAt_of_le (h : offset ≤ p) : heldAt offset bytes p = bytes[p - offset]? := by
  unfold heldAt
  rw [if_pos h]

/-- Bytes that are put on others hide these, as far as they reach. -/
theorem heldAt_overlay (h₁ : start ≤ first) (h₂ : first ≤ start + lower.length)
    : heldAt start (overlay lower upper (first - start)) p
        =
      (heldAt first upper p).or (heldAt start lower p) := by
  have hlength : (lower.take (first - start)).length = first - start := by
    rw [List.length_take]
    omega
  unfold overlay
  rw [List.append_assoc]
  cases Nat.lt_or_ge p first with
  | inl hfront =>
    rw [heldAt_eq_none (.inl hfront), Option.none_or]
    cases Nat.lt_or_ge p start with
    | inl hbefore =>
      rw [heldAt_eq_none (.inl hbefore), heldAt_eq_none (.inl hbefore)]
    | inr hstart =>
      rw [heldAt_of_le hstart, heldAt_of_le hstart]
      rw [List.getElem?_append_left (by omega), List.getElem?_take_of_lt (by omega)]
  | inr hfirst =>
    rw [heldAt_of_le (Nat.le_trans h₁ hfirst), heldAt_of_le (Nat.le_trans h₁ hfirst)]
    rw [heldAt_of_le hfirst, List.getElem?_append_right (by omega), hlength]
    -- behind the upper bytes the lower ones go on where they are, not where they were cut
    have hindex : p - start - (first - start) = p - first := by omega
    rw [hindex]
    cases Nat.lt_or_ge (p - first) upper.length with
    | inl hin =>
      rw [List.getElem?_append_left hin, List.getElem?_eq_getElem hin, Option.some_or]
    | inr hbehind =>
      rw [List.getElem?_append_right hbehind, List.getElem?_eq_none hbehind, Option.none_or]
      rw [List.getElem?_drop]
      congr 1
      omega

end

namespace Chunk

/-- The byte that the chunk holds for the position `p` of the file. -/
def byteAt (c : Chunk) (p : Nat) : Option UInt8 :=
  heldAt c.offset c.bytes p

end Chunk

namespace Snapshot

/-- The byte that the window holds for the position `p` of the file. -/
def byteAt (s : Snapshot) (p : Nat) : Option UInt8 :=
  s.offset.bind (heldAt · s.bytes p)

variable {s : Snapshot} {c : Chunk} {start : Nat}

theorem byteAt_of_loaded (h : s.offset = some start) (p : Nat)
    : s.byteAt p = heldAt start s.bytes p := by
  unfold byteAt
  rw [h, Option.bind_some]

theorem byteAt_merge (p : Nat)
    : (s.merge c).byteAt p = heldAt (s.splice c).1 (s.splice c).2 p :=
  rfl

theorem offset_merge_of_joins (h : s.offset = some start)
    (hjoins : Joins start (start + s.bytes.length) c)
    : (s.merge c).offset = some (min start c.offset) := by
  by_cases hfront : c.offset < start
  . rw [merge_of_splice (splice_of_front h hjoins hfront), Nat.min_eq_right (by omega)]
    rfl
  . rw [merge_of_splice (splice_of_not_front h hjoins hfront), Nat.min_eq_left (by omega)]
    rfl

theorem byteAt_merge_of_joins (h : s.offset = some start)
    (hjoins : Joins start (start + s.bytes.length) c) (p : Nat)
    : (s.merge c).byteAt p
        =
      if c.offset < start then (s.byteAt p).or (c.byteAt p) else (c.byteAt p).or (s.byteAt p) := by
  have ⟨_, hstart, hoffset⟩ := hjoins
  rw [byteAt_merge, byteAt_of_loaded h]
  split
  . next hfront =>
    rw [splice_of_front h hjoins hfront]
    exact heldAt_overlay (Nat.le_of_lt hfront) hstart
  . next hfront =>
    rw [splice_of_not_front h hjoins hfront]
    exact heldAt_overlay (Nat.le_of_not_lt hfront) hoffset

/--
What becomes of the window when a chunk is read. Without a gap between them, in a file that is not
known to have shrunk, the window is the hull of both and holds for every position what one of them
does, for those of both what the one does that begins later, or the chunk if they begin together.
In all other cases the window is the chunk.
-/
theorem merge_byte_by_byte (s : Snapshot) (c : Chunk)
    : (∀ start stop, s.offset = some start → s.stop = some stop →
          if stop ≤ c.total ∧ c.offset ≤ stop ∧ start ≤ c.stop then
            (s.merge c).offset = some (min start c.offset)
              ∧ (s.merge c).stop = some (max stop c.stop)
              ∧ (∀ p, (s.merge c).byteAt p
                    =
                  if c.offset < start then (s.byteAt p).or (c.byteAt p)
                  else (c.byteAt p).or (s.byteAt p))
              ∧ (∀ p, min start c.offset ≤ p → p < max stop c.stop →
                  (s.byteAt p).isSome ∨ (c.byteAt p).isSome)
          else
            (s.merge c).offset = some c.offset ∧ (s.merge c).bytes = c.bytes)
        ∧ (s.offset = none → (s.merge c).offset = some c.offset ∧ (s.merge c).bytes = c.bytes)
        ∧ (s.merge c).total = c.total
        ∧ (s.merge c).loading = false
        ∧ (s.merge c).failure = none
        ∧ (s.merge c).follow = s.follow := by
  refine ⟨?_, ?_, rfl, rfl, rfl, rfl⟩
  . intro start stop hstart hstop
    obtain rfl : start + s.bytes.length = stop := by
      unfold Snapshot.stop at hstop
      rw [hstart] at hstop
      exact Option.some.inj hstop
    split
    . next hjoins =>
      obtain ⟨htotal, hoffset, hfirst⟩ := hjoins
      have hjoins : Joins start (start + s.bytes.length) c := ⟨htotal, hfirst, hoffset⟩
      refine ⟨offset_merge_of_joins hstart hjoins, stop_merge_of_joins hstart hjoins,
        byteAt_merge_of_joins hstart hjoins, ?_⟩
      intro p hp₁ hp₂
      unfold Chunk.stop at *
      rw [byteAt_of_loaded hstart, Chunk.byteAt, isSome_heldAt, isSome_heldAt]
      omega
    . next hgap =>
      have hjoins : ¬ Joins start (start + s.bytes.length) c :=
        fun h => hgap ⟨h.1, h.2.2, h.2.1⟩
      rw [merge_of_splice (splice_of_not_joins hstart hjoins)]
      exact ⟨rfl, rfl⟩
  . intro hnone
    rw [merge_of_splice (splice_of_unloaded hnone)]
    exact ⟨rfl, rfl⟩

/-- A chunk that begins in front of a window and ends inside it adds its first byte alone. -/
theorem merge_byte_by_byte_front
    : let s : Snapshot := { offset := some 2, bytes := [1, 2, 3], total := 9 }
      let t := s.merge ⟨1, [7, 8, 9], 9⟩
      t.offset = some 1 ∧ t.stop = some 5 ∧ t.byteAt 1 = some 7 ∧ t.byteAt 2 = some 1 := by
  intro s t
  have hmerge := (merge_byte_by_byte s ⟨1, [7, 8, 9], 9⟩).1 2 5 rfl rfl
  rw [if_pos (by decide)] at hmerge
  obtain ⟨hoffset, hstop, hbyte, _⟩ := hmerge
  exact ⟨hoffset, hstop, hbyte 1, hbyte 2⟩

end Snapshot
end RangeTail
