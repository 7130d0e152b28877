/-!
This module contains the decimal reading of 64-bit offsets, and their sums.
-/

namespace RangeTail

/-- The largest 64-bit offset. -/
def maxOffset : Nat := 0xFFFFFFFFFFFFFFFF

/-- A sum that stays at the largest offset instead of passing it. -/
def addClamped (a b : Nat) : Nat :=
  min (a + b) maxOffset

/-- What a build of the program does about a sum that 64 bits do not hold. -/
inductive Overflow where
  /-- It stops. -/
  | stops
  /-- It goes on with the low 64 bits of the sum. -/
  | wraps
  deriving DecidableEq, Repr

/-- What a build says when it stops. -/
def Overflow.message : String :=
  "attempt to add with overflow"

/-- The sum of two offsets that a build goes on with, if it does not stop. -/
def Overflow.sum (o : Overflow) (a b : Nat) : Option Nat :=
  if a + b ≤ maxOffset then
    some (a + b)
  else
    match o with
    | stops => none
    | wraps => some ((a + b) % (maxOffset + 1))

namespace Overflow

variable {a b c : Nat}

theorem sum_of_le (o : Overflow) (h : a + b ≤ maxOffset) : o.sum a b = some (a + b) :=
  if_pos h

theorem stops_sum_of_lt (h : maxOffset < a + b) : stops.sum a b = none :=
  if_neg (Nat.not_le.mpr h)

theorem stops_sum_eq_none_iff : stops.sum a b = none ↔ maxOffset < a + b := by
  refine ⟨?_, stops_sum_of_lt⟩
  intro h
  cases Nat.lt_or_ge maxOffset (a + b) with
  | inl hlt => exact hlt
  | inr hle =>
    rw [stops.sum_of_le hle] at h
    contradiction

theorem stops_sum_eq_some_iff : stops.sum a b = some c ↔ a + b ≤ maxOffset ∧ a + b = c := by
  by_cases h : a + b ≤ maxOffset
  . rw [stops.sum_of_le h, Option.some.injEq]
    exact (and_iff_right h).symm
  . rw [stops_sum_of_lt (Nat.not_le.mp h)]
    exact iff_of_false nofun (fun hsum => h hsum.1)

end Overflow

theorem le_addClamped {a : Nat} (h : a ≤ maxOffset) (b : Nat) : a ≤ addClamped a b := by
  unfold addClamped
  omega

namespace Text

/-- The value of decimal digits. -/
def digitsValue (s : List Char) : Nat :=
  s.foldl (fun n c => 10 * n + (c.toNat - '0'.toNat)) 0

/--
The offset that a text spells: an optional plus sign and one or more decimal digits of a value that
64 bits hold.
-/
def readOffset (s : List Char) : Option Nat :=
  let digits := match s with
    | '+' :: r => r
    | _ => s
  if digits ≠ [] ∧ digits.all Char.isDigit ∧ digitsValue digits ≤ maxOffset then
    some (digitsValue digits)
  else
    none

end Text
end RangeTail
