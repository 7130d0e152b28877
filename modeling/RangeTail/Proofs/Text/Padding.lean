import Mathlib.Data.List.TakeWhile
import RangeTail.Proofs.Text.Decimal
import RangeTail.Text.Cut

/-!
This module contains what can be read of a text with white space around it: what is left of it by
trimming, where it is cut at a character that is none, and the position that it spells.
-/

namespace RangeTail.Text

/-- There is only white space in the text. -/
def IsVoid (s : List Char) : Prop :=
  ∀ c ∈ s, isBlank c = true

/-- `s` is `part` with white space around it, or without any. -/
def Pads (s part : List Char) : Prop :=
  ∃ front back, s = front ++ part ++ back ∧ IsVoid front ∧ IsVoid back

variable {s part a b x y front back : List Char} {c : Char} {n : Nat}

/-! Trimming -/

theorem IsVoid.not_mem (h : IsVoid s) (hc : isBlank c = false) : c ∉ s := by
  intro hmem
  rw [h c hmem] at hc
  contradiction

theorem IsVoid.trimStart_eq (h : IsVoid s) : trimStart s = [] :=
  List.dropWhile_eq_nil_iff.mpr h

theorem IsVoid.trimStart_append (h : IsVoid front) (s : List Char)
    : trimStart (front ++ s) = trimStart s :=
  List.dropWhile_append_of_pos h

theorem IsVoid.trimEnd_append (h : IsVoid back) (s : List Char)
    : trimEnd (s ++ back) = trimEnd s := by
  unfold trimEnd
  rw [List.reverse_append, IsVoid.trimStart_append]
  intro c hc
  exact h c (List.mem_reverse.mp hc)

theorem exists_trimStart (s : List Char) : ∃ front, s = front ++ trimStart s ∧ IsVoid front := by
  refine ⟨s.takeWhile isBlank, List.takeWhile_append_dropWhile.symm, ?_⟩
  exact List.all_eq_true.mp List.all_takeWhile

theorem exists_trimEnd (s : List Char) : ∃ back, s = trimEnd s ++ back ∧ IsVoid back := by
  obtain ⟨front, hs, hfront⟩ := exists_trimStart s.reverse
  refine ⟨front.reverse, ?_, ?_⟩
  . unfold trimEnd
    rw [← List.reverse_append, ← hs, List.reverse_reverse]
  . intro c hc
    exact hfront c (List.mem_reverse.mp hc)

theorem isBlank_of_getLast?_trimEnd (h : c ∈ (trimEnd s).getLast?) : isBlank c = false := by
  unfold trimEnd trimStart at h
  rw [List.getLast?_reverse] at h
  have hnot := List.head?_dropWhile_not isBlank s.reverse
  rw [h] at hnot
  simpa using hnot

theorem pads_trim (s : List Char) : Pads s (trim s) := by
  obtain ⟨front, hfront, hvoid⟩ := exists_trimStart s
  obtain ⟨back, hback, hvoid'⟩ := exists_trimEnd (trimStart s)
  refine ⟨front, back, ?_, hvoid, hvoid'⟩
  rw [List.append_assoc]
  unfold trim
  rw [← hback, ← hfront]

namespace Pads

theorem trim_eq (h : Pads s part) : trim s = trim part := by
  obtain ⟨front, back, rfl, hfront, hback⟩ := h
  unfold trim
  rw [List.append_assoc, hfront.trimStart_append]
  by_cases hpart : trimStart part = []
  . -- there is nothing between the white space at the front and the one at the back
    have hvoid : IsVoid part := List.dropWhile_eq_nil_iff.mp hpart
    rw [hvoid.trimStart_append, hback.trimStart_eq, hpart]
  . have happend : trimStart (part ++ back) = trimStart part ++ back := by
      unfold trimStart at *
      rw [List.dropWhile_append, if_neg (by simpa using hpart)]
    rw [happend, hback.trimEnd_append]

theorem mem_iff (h : Pads s part) (hc : isBlank c = false) : c ∈ s ↔ c ∈ part := by
  obtain ⟨front, back, rfl, hfront, hback⟩ := h
  simp [hfront.not_mem hc, hback.not_mem hc]

end Pads

theorem trim_eq_iff (h : trim part = part) : trim s = part ↔ Pads s part := by
  constructor
  . rintro rfl
    apply pads_trim
  . intro hpads
    rw [hpads.trim_eq, h]

theorem trim_eq_star_iff : trim s = ['*'] ↔ Pads s ['*'] :=
  trim_eq_iff (by decide)

/-! Cutting -/

/-- White space around a text does not change where it is cut. -/
theorem exists_cut_of_trim (hc : isBlank c = false) (h : cutAt c (trim s) = some (x, y))
    : ∃ a b, cutAt c s = some (a, b) ∧ Pads a x ∧ Pads b y := by
  obtain ⟨front, back, hs, hfront, hback⟩ := pads_trim s
  obtain ⟨htrim, hx⟩ := cutAt_eq_some.mp h
  refine ⟨front ++ x, y ++ back, ?_, ⟨front, [], ?_, hfront, nofun⟩, ⟨[], back, rfl, nofun, hback⟩⟩
  . rw [cutAt_eq_some]
    constructor
    . rw [hs, htrim]
      simp only [List.append_assoc, List.cons_append]
    . rw [List.mem_append, not_or]
      exact ⟨hfront.not_mem hc, hx⟩
  . rw [List.append_nil]

theorem exists_cut_trim (hc : isBlank c = false) (h : cutAt c s = some (a, b))
    : ∃ x y, cutAt c (trim s) = some (x, y) ∧ Pads a x ∧ Pads b y := by
  have hmem : c ∈ trim s := by
    rw [← (pads_trim s).mem_iff hc, (cutAt_eq_some.mp h).1]
    exact List.mem_append_right _ List.mem_cons_self
  obtain ⟨x, y, hs, hx⟩ := List.eq_append_cons_of_mem hmem
  have hcut : cutAt c (trim s) = some (x, y) := cutAt_eq_some.mpr ⟨hs, hx⟩
  obtain ⟨a', b', h', hpads⟩ := exists_cut_of_trim hc hcut
  obtain ⟨rfl, rfl⟩ := Prod.mk.inj (Option.some.inj (h'.symm.trans h))
  exact ⟨x, y, hcut, hpads⟩

/-! Positions -/

/-- The text is the number in decimal, with a plus sign or without one, and 64 bits hold it. -/
def Spells (s : List Char) (n : Nat) : Prop :=
  ∃ sign digits, s = sign ++ digits ∧ (sign = [] ∨ sign = ['+']) ∧ digits ≠ []
    ∧ (∀ c ∈ digits, c.isDigit = true) ∧ digitsValue digits = n ∧ n ≤ maxOffset

/-- The text is the number with white space around it. -/
def IsNumeral (s : List Char) (n : Nat) : Prop :=
  ∃ part, Pads s part ∧ Spells part n

theorem readOffset_plus (digits : List Char) (hdigits : ∀ c ∈ digits, c.isDigit = true)
    : readOffset ('+' :: digits) = readOffset digits := by
  cases digits with
  | nil => rfl
  | cons c digits =>
    have hc : c ≠ '+' := by
      rintro rfl
      simpa [Char.isDigit] using hdigits '+' List.mem_cons_self
    unfold readOffset
    simp [hc]

theorem readOffset_eq_some_iff : readOffset s = some n ↔ Spells s n := by
  constructor
  . intro h
    unfold readOffset at h
    extract_lets digits at h
    obtain ⟨sign, hs, hsign⟩ : ∃ sign, s = sign ++ digits ∧ (sign = [] ∨ sign = ['+']) := by
      unfold digits
      split
      . exact ⟨['+'], rfl, .inr rfl⟩
      . exact ⟨[], rfl, .inl rfl⟩
    split at h
    . next hread =>
      obtain ⟨hne, hdigits, hle⟩ := hread
      rw [Option.some.injEq] at h
      rw [h] at hle
      exact ⟨sign, digits, hs, hsign, hne, List.all_eq_true.mp hdigits, h, hle⟩
    . contradiction
  . rintro ⟨sign, digits, rfl, hsign, hne, hdigits, rfl, hle⟩
    rcases hsign with rfl | rfl
    . exact readOffset_of_digits hne hdigits hle
    . exact (readOffset_plus digits hdigits).trans (readOffset_of_digits hne hdigits hle)

theorem Spells.eq_of_mem (h : Spells s n) (hc : c ∈ s) : c.isDigit = true ∨ c = '+' := by
  obtain ⟨sign, digits, rfl, hsign, _, hdigits, _⟩ := h
  cases List.mem_append.mp hc with
  | inl h =>
    rcases hsign with rfl | rfl
    . contradiction
    . exact .inr (List.mem_singleton.mp h)
  | inr h => exact .inl (hdigits c h)

theorem Spells.trim_eq (h : Spells s n) : trim s = s := by
  apply trim_of_not_blank
  intro c hc
  rcases h.eq_of_mem hc with hdigit | rfl
  . exact isBlank_of_isDigit hdigit
  . decide

theorem readOffset_trim_iff : readOffset (trim s) = some n ↔ IsNumeral s n := by
  rw [readOffset_eq_some_iff]
  constructor
  . intro h
    exact ⟨trim s, pads_trim s, h⟩
  . rintro ⟨part, hpads, hpart⟩
    rw [hpads.trim_eq, hpart.trim_eq]
    exact hpart

theorem IsNumeral.le_maxOffset (h : IsNumeral s n) : n ≤ maxOffset := by
  obtain ⟨part, _, hpart⟩ := h
  obtain ⟨sign, digits, _, _, _, _, _, hle⟩ := hpart
  exact hle

theorem IsNumeral.trim_ne_star (h : IsNumeral s n) : trim s ≠ ['*'] := by
  intro hstar
  have hread := readOffset_trim_iff.mpr h
  rw [hstar] at hread
  contradiction

theorem IsNumeral.not_mem (h : IsNumeral s n) (hc : isBlank c = false) (hdigit : c.isDigit = false)
    (hplus : c ≠ '+')
    : c ∉ s := by
  obtain ⟨part, hpads, hpart⟩ := h
  rw [hpads.mem_iff hc]
  intro hmem
  rcases hpart.eq_of_mem hmem with h | h
  . rw [h] at hdigit
    contradiction
  . exact hplus h

end RangeTail.Text
