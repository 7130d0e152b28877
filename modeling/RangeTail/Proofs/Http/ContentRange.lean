import Mathlib.Data.List.Basic
import RangeTail.ContentRange
import RangeTail.Proofs.Text.Decimal

/-!
This module contains the proof that content ranges are read back as they were written. The header is
cut at the first blank, the first slash and the first dash, so what is needed of the writing is that
none of them stands in a part that comes before it.
-/

namespace RangeTail.ContentRange

open Text

/-- What the header says is covered. -/
def spanText : ContentRange → List Char
  | .covered first last _ => (toString first).toList ++ '-' :: (toString last).toList
  | .unsatisfied _ => ['*']

/-- What stands in the header behind the unit. -/
def rangeText (c : ContentRange) : List Char :=
  c.spanText ++ '/' :: (toString c.total).toList

theorem toList_text (c : ContentRange) : c.text.toList = "bytes".toList ++ ' ' :: c.rangeText := by
  cases c <;>
    simp only [text, rangeText, spanText, total, String.toList_append, List.append_assoc] <;> rfl

section

variable {c : ContentRange} {x : Char}

theorem eq_of_mem_spanText (h : x ∈ c.spanText) : x.isDigit = true ∨ x = '-' ∨ x = '*' := by
  cases c with
  | covered first last total =>
    rw [spanText, List.mem_append, List.mem_cons] at h
    obtain h | rfl | h := h
    . exact .inl (isDigit_of_mem_toString h)
    . exact .inr (.inl rfl)
    . exact .inl (isDigit_of_mem_toString h)
  | unsatisfied => exact .inr (.inr (List.mem_singleton.mp h))

theorem toNat_of_mem_rangeText (h : x ∈ c.rangeText) : 42 ≤ x.toNat ∧ x.toNat ≤ 57 := by
  have hdigit : ∀ {x : Char}, x.isDigit = true → 42 ≤ x.toNat ∧ x.toNat ≤ 57 := by
    intro x hx
    have := toNat_of_isDigit hx
    omega
  rw [rangeText, List.mem_append, List.mem_cons] at h
  obtain h | rfl | h := h
  . obtain h | rfl | rfl := eq_of_mem_spanText h
    . exact hdigit h
    . decide
    . decide
  . decide
  . exact hdigit (isDigit_of_mem_toString h)

theorem isBlank_of_mem_rangeText (h : x ∈ c.rangeText) : isBlank x = false := by
  have := toNat_of_mem_rangeText h
  apply isBlank_of_visible <;> omega

theorem trim_rangeText (c : ContentRange) : trim c.rangeText = c.rangeText := by
  apply trim_of_not_blank
  intro x hx
  exact isBlank_of_mem_rangeText hx

theorem trim_spanText (c : ContentRange) : trim c.spanText = c.spanText := by
  apply trim_of_not_blank
  intro x hx
  exact isBlank_of_mem_rangeText (List.mem_append_left _ hx)

theorem mem_rangeText_of_getLast? (h : x ∈ c.text.toList.getLast?) : x ∈ c.rangeText := by
  have hblank : ' ' :: c.rangeText ≠ [] := by simp
  have hrange : c.rangeText ≠ [] := by simp [rangeText]
  rw [toList_text, List.getLast?_append_of_ne_nil _ hblank,
    List.getLast?_cons_of_ne_nil hrange] at h
  exact List.mem_of_getLast? h

theorem trim_text (c : ContentRange) : trim c.text.toList = c.text.toList := by
  apply trim_of_ends
  . rw [toList_text]
    rintro x ⟨⟩
    rfl
  . intro x hx
    exact isBlank_of_mem_rangeText (mem_rangeText_of_getLast? hx)

theorem cutAt_blank (c : ContentRange)
    : cutAt ' ' (trim c.text.toList) = some ("bytes".toList, c.rangeText) := by
  rw [trim_text, cutAt_eq_some]
  exact ⟨toList_text c, by decide⟩

theorem cutAt_slash (c : ContentRange)
    : cutAt '/' (trim c.rangeText) = some (c.spanText, (toString c.total).toList) := by
  rw [trim_rangeText, cutAt_eq_some]
  refine ⟨rfl, ?_⟩
  intro h
  simpa [Char.isDigit] using eq_of_mem_spanText h

end

variable {first last total : Nat}

theorem cutAt_dash (first last total : Nat)
    : cutAt '-' (trim (spanText (.covered first last total)))
        = some ((toString first).toList, (toString last).toList) := by
  rw [trim_spanText, cutAt_eq_some]
  refine ⟨rfl, ?_⟩
  intro h
  simpa [Char.isDigit] using isDigit_of_mem_toString h

theorem trim_toString_ne_star (n : Nat) : trim (toString n).toList ≠ ['*'] := by
  rw [trim_toString]
  intro h
  have hstar : '*' ∈ (toString n).toList := h ▸ List.mem_singleton_self '*'
  simpa [Char.isDigit] using isDigit_of_mem_toString hstar

theorem eqIgnoreCase_bytes : eqIgnoreCase "bytes".toList "bytes".toList = true := by
  decide

theorem parse_text_unsatisfied (h : total ≤ maxOffset)
    : parse (unsatisfied total).text = .ok (.unsatisfied total) := by
  have hspan : trim (spanText (.unsatisfied total)) = ['*'] := trim_spanText _
  simp only [parse, cutAt_blank, eqIgnoreCase_bytes, cutAt_slash, ContentRange.total,
    trim_toString_ne_star, readOffset_toString h, hspan, if_true, if_false]
  rfl

theorem parse_text_covered (hle : first ≤ last) (hlt : last < total) (h : total ≤ maxOffset)
    : parse (covered first last total).text = .ok (.covered first last total) := by
  have hfirst : first ≤ maxOffset := by omega
  have hlast : last ≤ maxOffset := by omega
  have hspan : trim (spanText (.covered first last total)) ≠ ['*'] := by
    intro hs
    have hcut := cutAt_dash first last total
    rw [hs] at hcut
    cases hcut
  simp only [parse, cutAt_blank, eqIgnoreCase_bytes, cutAt_slash, ContentRange.total,
    trim_toString_ne_star, readOffset_toString h, hspan, cutAt_dash, readOffset_toString hfirst,
    readOffset_toString hlast, if_true, if_false]
  exact ofNumbers_eq_ok.mpr ⟨⟨hle, hlt⟩, rfl⟩

end RangeTail.ContentRange
