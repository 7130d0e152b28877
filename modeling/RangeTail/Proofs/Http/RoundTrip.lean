import RangeTail.Proofs.Http.ContentRange
import RangeTail.Proofs.Http.Grammar

/-!
This module contains the proof that the writing and the reading of content ranges undo one another.
What can be read are the ranges of a file whose length 64 bits hold, and so their own length is
computed without leaving 64 bits on the way.
-/

namespace RangeTail

/-- The difference of two offsets, if it is one. -/
def subtract? (a b : Nat) : Option Nat :=
  if b ≤ a then some (a - b) else none

/-- The sum of two offsets, if it is one. -/
def add? (a b : Nat) : Option Nat :=
  if a + b ≤ maxOffset then some (a + b) else none

namespace ContentRange

/-- The length of the file is an offset, and the covered bytes lie in the file. -/
def Fits : ContentRange → Prop
  | .covered first last total => first ≤ last ∧ last < total ∧ total ≤ maxOffset
  | .unsatisfied total => total ≤ maxOffset

/-- The number of bytes covered, or nothing where it cannot be computed with offsets alone. -/
def length? : ContentRange → Option Nat
  | .covered first last _ => (subtract? last first).bind (add? · 1)
  | .unsatisfied _ => some 0

variable {header : String} {c : ContentRange}

theorem fits_of_parse (h : parse header = .ok c) : c.Fits := by
  have hread := readAs_parse header
  rw [h] at hread
  cases hread with
  | covered hcovered hspan =>
    obtain ⟨_, _, _, _, _, _, htotal⟩ := hcovered
    exact ⟨hspan.1, hspan.2, htotal.le_maxOffset⟩
  | unsatisfied hunsatisfied =>
    obtain ⟨_, _, _, _, htotal⟩ := hunsatisfied
    exact htotal.le_maxOffset

theorem Fits.parse_text (h : c.Fits) : parse c.text = .ok c := by
  cases c with
  | covered first last total =>
    obtain ⟨hle, hlt, htotal⟩ := h
    exact parse_text_covered hle hlt htotal
  | unsatisfied total => exact parse_text_unsatisfied h

theorem parse_text_iff : parse c.text = .ok c ↔ c.Fits :=
  ⟨fits_of_parse, Fits.parse_text⟩

theorem Fits.length?_eq (h : c.Fits) : c.length? = some c.length := by
  cases c with
  | covered first last total =>
    obtain ⟨hle, hlt, htotal⟩ := h
    have hsum : last - first + 1 ≤ maxOffset := by omega
    rw [length?, subtract?, if_pos hle, Option.bind_some, add?, if_pos hsum]
    rfl
  | unsatisfied => rfl

theorem Fits.length_covered {first last total : Nat} (h : (covered first last total).Fits)
    : 1 ≤ (covered first last total).length ∧ (covered first last total).length ≤ total := by
  obtain ⟨hle, hlt, _⟩ := h
  dsimp only [length]
  omega

/-- Content ranges whose bytes lie in a file of an admissible length are read back as they were
written, and no others are. What is read of any header is such a range: it is read again from its own
writing, its length is computed within 64 bits, and there are as many bytes as that, at least one and
no more than in the file, if any are covered. -/
theorem parse_text_inverse
    : (∀ c : ContentRange, parse c.text = .ok c ↔ c.Fits)
        ∧ ∀ header c, parse header = .ok c →
          parse c.text = .ok c
            ∧ c.length? = some c.length
            ∧ (∀ first last total, c = .covered first last total
              → 1 ≤ c.length ∧ c.length ≤ c.total)
            ∧ (∀ total, c = .unsatisfied total → c.length = 0) := by
  refine ⟨fun c => parse_text_iff, ?_⟩
  intro header c h
  have hfits := fits_of_parse h
  refine ⟨hfits.parse_text, hfits.length?_eq, ?_, ?_⟩
  . rintro first last total rfl
    exact hfits.length_covered
  . rintro total rfl
    rfl

theorem parse_text_inverse_largest
    : (covered 0 (maxOffset - 1) maxOffset).Fits
        ∧ parse (covered 0 (maxOffset - 1) maxOffset).text
          = .ok (.covered 0 (maxOffset - 1) maxOffset)
        ∧ (covered 0 (maxOffset - 1) maxOffset).length? = some maxOffset := by
  have hfits : (covered 0 (maxOffset - 1) maxOffset).Fits := ⟨by decide, by decide, by decide⟩
  have hread := (parse_text_inverse.1 _).mpr hfits
  obtain ⟨_, hlength, _⟩ := parse_text_inverse.2 _ _ hread
  exact ⟨hfits, hread, hlength⟩

end ContentRange
end RangeTail
