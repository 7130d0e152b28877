import RangeTail.Text.Blank
import RangeTail.Text.Decimal

/-!
This module contains the proof that positions are read back as they were written, and what there is
in their writing: digits, and no white space that could be trimmed.
-/

namespace RangeTail.Text

theorem dropWhile_of_head {p : α → Bool} {l : List α} (h : ∀ a ∈ l.head?, p a = false)
    : l.dropWhile p = l := by
  cases l with
  | nil => rfl
  | cons a l => exact List.dropWhile_cons_of_neg (by simp [h a rfl])

/-- Nothing is taken from the ends of a list where neither end is such as is taken. -/
theorem dropWhile_of_ends {p : α → Bool} {l : List α} (hhead : ∀ a ∈ l.head?, p a = false)
    (hlast : ∀ a ∈ l.getLast?, p a = false)
    : ((l.dropWhile p).reverse.dropWhile p).reverse = l := by
  rw [dropWhile_of_head hhead, dropWhile_of_head, List.reverse_reverse]
  rwa [List.head?_reverse]

section

variable {s : List Char}

theorem trim_of_ends (hhead : ∀ c ∈ s.head?, isBlank c = false)
    (hlast : ∀ c ∈ s.getLast?, isBlank c = false)
    : trim s = s :=
  dropWhile_of_ends hhead hlast

theorem trim_of_not_blank (h : ∀ c ∈ s, isBlank c = false) : trim s = s := by
  apply trim_of_ends
  . intro c hc
    exact h c (List.mem_of_mem_head? hc)
  . intro c hc
    exact h c (List.mem_of_getLast? hc)

theorem readOffset_of_digits (hne : s ≠ []) (hdigits : ∀ c ∈ s, c.isDigit = true)
    (hle : digitsValue s ≤ maxOffset)
    : readOffset s = some (digitsValue s) := by
  have hsign : ∀ r, s ≠ '+' :: r := by
    rintro r rfl
    simpa [Char.isDigit] using hdigits '+' List.mem_cons_self
  unfold readOffset
  extract_lets digits
  have heq : digits = s := by
    unfold digits
    split
    . next r => exact absurd rfl (hsign r)
    . rfl
  have hread : digits ≠ [] ∧ digits.all Char.isDigit ∧ digitsValue digits ≤ maxOffset := by
    rw [heq]
    exact ⟨hne, List.all_eq_true.mpr hdigits, hle⟩
  rw [if_pos hread, heq]

end

variable {n : Nat} {c : Char}

theorem toNat_of_isDigit (h : c.isDigit = true) : 48 ≤ c.toNat ∧ c.toNat ≤ 57 := by
  simpa [Char.isDigit, UInt32.le_iff_toNat_le] using h

theorem isBlank_of_visible (h₁ : 0x20 < c.toNat) (h₂ : c.toNat < 0x7F) : isBlank c = false := by
  unfold isBlank
  simp only [Bool.or_eq_false_iff, Bool.and_eq_false_iff, decide_eq_false_iff_not,
    beq_eq_false_iff_ne]
  omega

theorem isBlank_of_isDigit (h : c.isDigit = true) : isBlank c = false := by
  have hle := toNat_of_isDigit h
  apply isBlank_of_visible <;> omega

theorem isDigit_of_mem_toString (h : c ∈ (toString n).toList) : c.isDigit = true := by
  rw [Nat.toString_eq_repr, Nat.toList_repr] at h
  exact Nat.isDigit_of_mem_toDigits (b := 10) (by decide) (by decide) h

theorem toString_ne_nil (n : Nat) : (toString n).toList ≠ [] := by
  rw [Nat.toString_eq_repr, Nat.toList_repr]
  apply Nat.toDigits_ne_nil

theorem trim_toString (n : Nat) : trim (toString n).toList = (toString n).toList := by
  apply trim_of_not_blank
  intro c hc
  exact isBlank_of_isDigit (isDigit_of_mem_toString hc)

theorem readOffset_toString (h : n ≤ maxOffset)
    : readOffset (trim (toString n).toList) = some n := by
  have hvalue : digitsValue (toString n).toList = n := by
    rw [Nat.toString_eq_repr, Nat.toList_repr]
    exact Nat.ofDigitChars_ten_toDigits
  rw [trim_toString, readOffset_of_digits (toString_ne_nil n), hvalue]
  . intro c hc
    exact isDigit_of_mem_toString hc
  . rwa [hvalue]

end RangeTail.Text
