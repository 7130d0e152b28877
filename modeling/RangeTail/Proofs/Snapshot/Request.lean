import RangeTail.Directive
import RangeTail.Proofs.Snapshot.Bytes

/-!
This module contains the proof that what is asked for next can be asked for: it is not the wrong way
round nor longer than two chunks, it leaves out what is held where it can, and none of its positions
is one that 64 bits do not hold.
-/

namespace RangeTail

/-- The range up to the largest position that there is. -/
def ByteRange.clamped : ByteRange → ByteRange
  | .span first last => .span first (min last maxOffset)
  | .suffix length => .suffix length

/-- The range to ask for next, if there were no largest position. -/
def exactRange (s : Snapshot) (directive : Option Directive) (chunkSize : Nat) : ByteRange :=
  match directive with
  | some (.jump offset) =>
    match s.offset with
    | some start =>
      .span offset (if offset < start then min (start - 1) (offset + chunkSize) else offset + chunkSize)
    | none => .span offset (offset + chunkSize)
  | some (.skipToEnd offset) => .span offset (offset + 2 * chunkSize)
  | none =>
    match s.stop with
    | some stop => .span (stop - 1) (stop + chunkSize)
    | none => .suffix chunkSize

/-- All positions of the window are ones that 64 bits hold. -/
def Snapshot.Fits (s : Snapshot) : Prop :=
  ∀ stop, s.stop = some stop → stop ≤ maxOffset

/-- So is the one that an instruction names, if there is one. -/
def Directive.Fits (directive : Option Directive) : Prop :=
  ∀ d ∈ directive, d.offset ≤ maxOffset

/-- A range to ask for while `s` is held, by an instruction or without one. -/
structure ByteRange.IsSound (r : ByteRange) (s : Snapshot) (directive : Option Directive)
    (chunkSize : Nat) : Prop where
  bounded : r = .suffix chunkSize
    ∨ ∃ first last, r = .span first last ∧ first ≤ last ∧ last ≤ maxOffset
      ∧ last - first ≤ 2 * chunkSize
  jump : ∀ offset start, directive = some (.jump offset) → s.offset = some start → offset < start →
    ∃ last, r = .span offset last ∧ last ≤ offset + chunkSize
      ∧ ∀ p, offset ≤ p → p ≤ last → s.byteAt p = none
  growth : directive = none → s.isLoaded → s.bytes ≠ [] →
    ∃ first last, r = .span first last ∧ s.stop = some (first + 1)
  clamped : r = (exactRange s directive chunkSize).clamped

variable {s : Snapshot} {directive : Option Directive} {chunkSize offset start stop : Nat}

theorem nextRange_eq_clamped
    : nextRange s directive chunkSize = (exactRange s directive chunkSize).clamped := by
  unfold nextRange exactRange addClamped
  cases directive with
  | none =>
    cases s.stop with
    | none => rfl
    | some stop => rfl
  | some d =>
    cases d with
    | jump offset =>
      cases s.offset with
      | none => rfl
      | some start =>
        simp only [ByteRange.clamped, ByteRange.span.injEq, true_and]
        split <;> omega
    | skipToEnd offset =>
      simp only [ByteRange.clamped, ByteRange.span.injEq, true_and]
      omega

theorem nextRange_bounded (hchunk : 0 < chunkSize) (hs : s.Fits) (hd : Directive.Fits directive)
    : nextRange s directive chunkSize = .suffix chunkSize
        ∨
      ∃ first last, nextRange s directive chunkSize = .span first last ∧ first ≤ last
        ∧ last ≤ maxOffset ∧ last - first ≤ 2 * chunkSize := by
  unfold nextRange addClamped
  cases directive with
  | none =>
    cases hstop : s.stop with
    | none => exact .inl rfl
    | some stop =>
      have := hs stop hstop
      refine .inr ⟨_, _, rfl, ?_, ?_, ?_⟩ <;> omega
  | some d =>
    have := hd d rfl
    cases d with
    | jump offset =>
      simp only [Directive.offset] at this
      cases s.offset with
      | none => refine .inr ⟨_, _, rfl, ?_, ?_, ?_⟩ <;> omega
      | some start =>
        refine .inr ⟨_, _, rfl, ?_, ?_, ?_⟩ <;> split <;> omega
    | skipToEnd offset =>
      simp only [Directive.offset] at this
      refine .inr ⟨_, _, rfl, ?_, ?_, ?_⟩ <;> omega

theorem nextRange_jump (hs : s.offset = some start) (hlt : offset < start)
    : nextRange s (some (.jump offset)) chunkSize
        =
      .span offset (min (start - 1) (addClamped offset chunkSize)) := by
  simp [nextRange, hs, hlt]

theorem nextRange_growth (hs : s.stop = some stop)
    : nextRange s none chunkSize = .span (stop - 1) (addClamped stop chunkSize) := by
  simp [nextRange, hs]

theorem nextRange_isSound (hchunk : 0 < chunkSize) (hs : s.Fits) (hd : Directive.Fits directive)
    : (nextRange s directive chunkSize).IsSound s directive chunkSize where
  bounded := nextRange_bounded hchunk hs hd
  jump := by
    rintro offset start rfl hstart hlt
    refine ⟨_, nextRange_jump hstart hlt, ?_, ?_⟩
    . unfold addClamped
      omega
    . intro p _ hp
      rw [Snapshot.byteAt_of_loaded hstart]
      apply heldAt_eq_none
      omega
  growth := by
    rintro rfl hloaded hbytes
    obtain ⟨start, hstart⟩ := Option.isSome_iff_exists.mp hloaded
    have hstop : s.stop = some (start + s.bytes.length) := by simp [Snapshot.stop, hstart]
    have hpos := List.length_pos_iff.mpr hbytes
    refine ⟨_, _, nextRange_growth hstop, ?_⟩
    rw [hstop, Nat.sub_add_cancel (by omega)]
  clamped := nextRange_eq_clamped

end RangeTail
