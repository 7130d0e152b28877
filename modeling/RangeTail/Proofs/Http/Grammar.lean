import Mathlib.Data.List.Basic
import RangeTail.ContentRange
import RangeTail.Proofs.Text.Padding

/-!
This module contains the grammar of the Content-Range header, and the proof that the reader accepts
this grammar and nothing else, and says of every other header what is wrong with it.
-/

namespace RangeTail.ContentRange

open Text

/-- The unit is bytes, in upper or lower case. -/
def IsUnit (s : List Char) : Prop :=
  s.map Char.toLower = "bytes".toList

/-- The header is the unit, one space, and `range`, with white space in front of it or without. -/
def Names (header : String) (range : List Char) : Prop :=
  ∃ front unit, header.toList = front ++ unit ++ ' ' :: range ∧ IsVoid front ∧ IsUnit unit

/-- The header names the bytes from `first` through `last` of `total`. -/
def IsCovered (header : String) (first last total : Nat) : Prop :=
  ∃ a b c, Names header ((a ++ '-' :: b) ++ '/' :: c)
    ∧ IsNumeral a first ∧ IsNumeral b last ∧ IsNumeral c total

/-- The header names no bytes of `total`. -/
def IsUnsatisfied (header : String) (total : Nat) : Prop :=
  ∃ a c, Names header (a ++ '/' :: c) ∧ Pads a ['*'] ∧ IsNumeral c total

/-- There is a star in the place of the length of the file. -/
def HasUnknownTotal (header : String) : Prop :=
  ∃ a c, Names header (a ++ '/' :: c) ∧ '/' ∉ a ∧ Pads c ['*']

/-- What stands before the first space is not the unit. -/
def HasOtherUnit (header : String) : Prop :=
  ∃ unit rest, trim header.toList = unit ++ ' ' :: rest ∧ ' ' ∉ unit ∧ ¬ IsUnit unit

variable {header : String} {unit rest range a c x y u v : List Char} {first last total : Nat}

theorem eqIgnoreCase_iff : eqIgnoreCase unit "bytes".toList = true ↔ IsUnit unit := by
  have hbytes : "bytes".toList.map Char.toLower = "bytes".toList := by decide
  unfold eqIgnoreCase IsUnit
  rw [hbytes, beq_iff_eq]

theorem IsUnit.isBlank_eq_false (h : IsUnit unit) {z : Char} (hz : z ∈ unit) : isBlank z = false := by
  have hlower : z.toLower ∈ "bytes".toList := h ▸ List.mem_map_of_mem hz
  unfold Char.toLower at hlower
  split at hlower
  . next hupper =>
    have h₁ : 0x41 ≤ z.toNat := hupper.1
    have h₂ : z.toNat ≤ 0x5A := hupper.2
    apply isBlank_of_visible <;> omega
  . have hletter : z = 'b' ∨ z = 'y' ∨ z = 't' ∨ z = 'e' ∨ z = 's' := by simpa using hlower
    rcases hletter with rfl | rfl | rfl | rfl | rfl <;> rfl

theorem IsUnit.ne_nil (h : IsUnit unit) : unit ≠ [] := by
  rintro rfl
  contradiction

/-! Cutting the header -/

theorem names_of_cut (hcut : cutAt ' ' (trim header.toList) = some (unit, rest)) (hunit : IsUnit unit)
    : ∃ range, Names header range ∧ Pads range rest := by
  obtain ⟨front, back, hheader, hfront, hback⟩ := pads_trim header.toList
  rw [(cutAt_eq_some.mp hcut).1] at hheader
  refine ⟨rest ++ back, ⟨front, unit, ?_, hfront, hunit⟩, ⟨[], back, rfl, nofun, hback⟩⟩
  rw [hheader]
  simp only [List.append_assoc, List.cons_append]

theorem Names.exists_cut (h : Names header range) {z : Char} (hz : z ∈ range)
    (hvisible : isBlank z = false)
    : ∃ unit rest, cutAt ' ' (trim header.toList) = some (unit, rest) ∧ IsUnit unit
        ∧ Pads range rest := by
  obtain ⟨front, unit, hheader, hfront, hunit⟩ := h
  obtain ⟨back, hrange, hback⟩ := exists_trimEnd range
  have hrest : Pads range (trimEnd range) := ⟨[], back, hrange, nofun, hback⟩
  have hpads : Pads header.toList (unit ++ ' ' :: trimEnd range) := by
    refine ⟨front, back, ?_, hfront, hback⟩
    rw [hheader, List.append_assoc, List.append_assoc, List.append_assoc, List.cons_append, ← hrange]
  have hne : trimEnd range ≠ [] := List.ne_nil_of_mem ((hrest.mem_iff hvisible).mp hz)
  have htrim : trim (unit ++ ' ' :: trimEnd range) = unit ++ ' ' :: trimEnd range := by
    apply trim_of_ends
    . intro c hc
      obtain ⟨first, rest, rfl⟩ := List.exists_cons_of_ne_nil hunit.ne_nil
      obtain rfl : first = c := Option.some.inj hc
      exact hunit.isBlank_eq_false List.mem_cons_self
    . intro c hc
      rw [List.getLast?_append_of_ne_nil _ (List.cons_ne_nil _ _),
        List.getLast?_cons_of_ne_nil hne] at hc
      exact isBlank_of_getLast?_trimEnd hc
  refine ⟨unit, trimEnd range, ?_, hunit, hrest⟩
  rw [hpads.trim_eq, htrim, cutAt_eq_some]
  refine ⟨rfl, ?_⟩
  intro hmem
  have := hunit.isBlank_eq_false hmem
  contradiction

/-- A header that has the unit is cut at its first slash. -/
theorem Names.exists_cuts (h : Names header (a ++ '/' :: c)) (ha : '/' ∉ a)
    : ∃ unit rest x y, cutAt ' ' (trim header.toList) = some (unit, rest) ∧ IsUnit unit
        ∧ cutAt '/' (trim rest) = some (x, y) ∧ trim x = trim a ∧ trim y = trim c := by
  have hslash : '/' ∈ a ++ '/' :: c := List.mem_append_right _ List.mem_cons_self
  obtain ⟨unit, rest, hcut, hunit, hrest⟩ := h.exists_cut hslash (by decide)
  obtain ⟨x, y, hcut', hx, hy⟩ := exists_cut_trim (by decide) (cutAt_eq_some.mpr ⟨rfl, ha⟩)
  rw [hrest.trim_eq] at hcut'
  exact ⟨unit, rest, x, y, hcut, hunit, hcut', hx.trim_eq.symm, hy.trim_eq.symm⟩

theorem exists_names (hcut : cutAt ' ' (trim header.toList) = some (unit, rest))
    (hunit : IsUnit unit) (hcut' : cutAt '/' (trim rest) = some (x, y))
    : ∃ a c, Names header (a ++ '/' :: c) ∧ '/' ∉ a := by
  obtain ⟨range, hnames, hrange⟩ := names_of_cut hcut hunit
  rw [← hrange.trim_eq] at hcut'
  obtain ⟨a, c, hcut, _⟩ := exists_cut_of_trim (by decide) hcut'
  obtain ⟨rfl, ha⟩ := cutAt_eq_some.mp hcut
  exact ⟨a, c, hnames, ha⟩

/-! Reading the header -/

/-- What is read of a header whose range is `span`, a slash, and `size`. -/
def readRange (header : String) (span size : List Char) : Except Error ContentRange :=
  if trim size = ['*'] then .error .unknownTotal
  else match readOffset (trim size) with
    | none => .error (.malformed header)
    | some total =>
      if trim span = ['*'] then .ok (.unsatisfied total)
      else match cutAt '-' (trim span) with
        | none => .error (.malformed header)
        | some (first, last) =>
          match readOffset (trim first), readOffset (trim last) with
          | some first, some last => ofNumbers first last total
          | _, _ => .error (.malformed header)

theorem parse_eq_readRange (h : Names header (a ++ '/' :: c)) (ha : '/' ∉ a)
    : parse header = readRange header a c := by
  obtain ⟨unit, rest, x, y, hcut, hunit, hcut', hx, hy⟩ := h.exists_cuts ha
  simp only [parse, hcut, eqIgnoreCase_iff.mpr hunit, hcut', hx, hy, if_true]
  unfold readRange
  split
  . rfl
  . cases readOffset (trim c) with
    | none => rfl
    | some total =>
      dsimp only
      split
      . rfl
      . cases cutAt '-' (trim a) with
        | none => rfl
        | some parts =>
          dsimp only
          cases readOffset (trim parts.1) with
          | none => rfl
          | some first => cases readOffset (trim parts.2) <;> rfl

theorem parse_of_isCovered (h : IsCovered header first last total)
    : parse header = ofNumbers first last total := by
  obtain ⟨a, b, c, hnames, hfirst, hlast, htotal⟩ := h
  have hslash : '/' ∉ a ++ '-' :: b := by
    rw [List.mem_append, List.mem_cons, not_or, not_or]
    exact ⟨hfirst.not_mem (by decide) (by decide) (by decide), by decide,
      hlast.not_mem (by decide) (by decide) (by decide)⟩
  have hdash : cutAt '-' (a ++ '-' :: b) = some (a, b) :=
    cutAt_eq_some.mpr ⟨rfl, hfirst.not_mem (by decide) (by decide) (by decide)⟩
  obtain ⟨u, v, hcut, hu, hv⟩ := exists_cut_trim (by decide) hdash
  have hspan : trim (a ++ '-' :: b) ≠ ['*'] := by
    intro hstar
    rw [hstar] at hcut
    contradiction
  rw [← readOffset_trim_iff, hu.trim_eq] at hfirst
  rw [← readOffset_trim_iff, hv.trim_eq] at hlast
  rw [parse_eq_readRange hnames hslash]
  simp only [readRange, htotal.trim_ne_star, readOffset_trim_iff.mpr htotal, hspan, hcut, hfirst,
    hlast, if_false]

theorem parse_of_isUnsatisfied (h : IsUnsatisfied header total)
    : parse header = .ok (.unsatisfied total) := by
  obtain ⟨a, c, hnames, hstar, htotal⟩ := h
  have hslash : '/' ∉ a := by
    rw [hstar.mem_iff (by decide)]
    decide
  rw [parse_eq_readRange hnames hslash]
  simp only [readRange, htotal.trim_ne_star, readOffset_trim_iff.mpr htotal,
    trim_eq_star_iff.mpr hstar, if_true, if_false]

theorem parse_of_hasUnknownTotal (h : HasUnknownTotal header)
    : parse header = .error .unknownTotal := by
  obtain ⟨a, c, hnames, hslash, hstar⟩ := h
  rw [parse_eq_readRange hnames hslash]
  simp only [readRange, trim_eq_star_iff.mpr hstar, if_true]

theorem parse_of_hasOtherUnit (h : HasOtherUnit header)
    : parse header = .error (.unsupportedUnit header) := by
  obtain ⟨unit, rest, htrim, hspace, hunit⟩ := h
  have hcut : cutAt ' ' (trim header.toList) = some (unit, rest) :=
    cutAt_eq_some.mpr ⟨htrim, hspace⟩
  rw [← eqIgnoreCase_iff, Bool.not_eq_true] at hunit
  simp only [parse, hcut, hunit]
  rfl

/-- What a header can be read as. -/
inductive ReadAs (header : String) : Except Error ContentRange → Prop
  | covered {first last total : Nat} :
      IsCovered header first last total → first ≤ last ∧ last < total →
        ReadAs header (.ok (.covered first last total))
  | invalidSpan {first last total : Nat} :
      IsCovered header first last total → ¬ (first ≤ last ∧ last < total) →
        ReadAs header (.error (.invalidSpan first last total))
  | unsatisfied {total : Nat} :
      IsUnsatisfied header total → ReadAs header (.ok (.unsatisfied total))
  | otherUnit : HasOtherUnit header → ReadAs header (.error (.unsupportedUnit header))
  | unknownTotal : HasUnknownTotal header → ReadAs header (.error .unknownTotal)
  | malformed : ReadAs header (.error (.malformed header))

theorem readAs_ofNumbers (h : IsCovered header first last total)
    : ReadAs header (ofNumbers first last total) := by
  unfold ofNumbers
  split
  . next hspan => exact .covered h hspan
  . next hspan => exact .invalidSpan h hspan

theorem readAs_readRange (hnames : Names header (a ++ '/' :: c)) (hslash : '/' ∉ a)
    : ReadAs header (readRange header a c) := by
  unfold readRange
  split
  . next hstar => exact .unknownTotal ⟨a, c, hnames, hslash, trim_eq_star_iff.mp hstar⟩
  . split
    . exact .malformed
    . next total htotal =>
      rw [readOffset_trim_iff] at htotal
      split
      . next hstar => exact .unsatisfied ⟨a, c, hnames, trim_eq_star_iff.mp hstar, htotal⟩
      . split
        . exact .malformed
        . next u v hcut =>
          obtain ⟨first, last, hdash, hu, hv⟩ := exists_cut_of_trim (by decide) hcut
          obtain ⟨rfl, _⟩ := cutAt_eq_some.mp hdash
          rw [← hu.trim_eq, ← hv.trim_eq]
          split
          . next hfirst hlast =>
            exact readAs_ofNumbers ⟨first, last, c, hnames, readOffset_trim_iff.mp hfirst,
              readOffset_trim_iff.mp hlast, htotal⟩
          . exact .malformed

theorem readAs_parse (header : String) : ReadAs header (parse header) := by
  cases hcut : cutAt ' ' (trim header.toList) with
  | none =>
    simp only [parse, hcut]
    exact .malformed
  | some parts =>
    obtain ⟨unit, rest⟩ := parts
    by_cases hunit : IsUnit unit
    . cases hcut' : cutAt '/' (trim rest) with
      | none =>
        simp only [parse, hcut, eqIgnoreCase_iff.mpr hunit, hcut']
        exact .malformed
      | some parts =>
        obtain ⟨a, c, hnames, hslash⟩ := exists_names hcut hunit hcut'
        rw [parse_eq_readRange hnames hslash]
        exact readAs_readRange hnames hslash
    . obtain ⟨htrim, hspace⟩ := cutAt_eq_some.mp hcut
      have hother : HasOtherUnit header := ⟨unit, rest, htrim, hspace, hunit⟩
      rw [parse_of_hasOtherUnit hother]
      exact .otherUnit hother

theorem parse_of_malformed (hunit : ¬ HasOtherUnit header) (hunknown : ¬ HasUnknownTotal header)
    (hcovered : ∀ first last total, ¬ IsCovered header first last total)
    (hunsatisfied : ∀ total, ¬ IsUnsatisfied header total)
    : parse header = .error (.malformed header) := by
  have hread := readAs_parse header
  generalize parse header = result at hread
  cases hread with
  | covered h => exact absurd h (hcovered _ _ _)
  | invalidSpan h => exact absurd h (hcovered _ _ _)
  | unsatisfied h => exact absurd h (hunsatisfied _)
  | otherUnit h => exact absurd h hunit
  | unknownTotal h => exact absurd h hunknown
  | malformed => rfl

theorem not_isCovered_of_malformed (h : parse header = .error (.malformed header))
    : ¬ IsCovered header first last total := by
  intro hcovered
  rw [parse_of_isCovered hcovered] at h
  unfold ofNumbers at h
  split at h
  . cases h
  . cases h

/--
What the reader makes of a header, whatever it is. A header that has the form of a content range is
read as the one that it names, if the bytes lie in the file, and else its numbers are said to be
wrong. Without that form it is said to have another unit, or an unknown total where a star stands in
the place of it, and to be malformed otherwise.
-/
theorem parse_accepts_grammar (header : String)
    : (∀ first last total, parse header = .ok (.covered first last total)
          ↔
        IsCovered header first last total ∧ first ≤ last ∧ last < total)
        ∧ (∀ total, parse header = .ok (.unsatisfied total) ↔ IsUnsatisfied header total)
        ∧ (parse header = .error (.unsupportedUnit header) ↔ HasOtherUnit header)
        ∧ (parse header = .error .unknownTotal ↔ HasUnknownTotal header)
        ∧ (∀ first last total, parse header = .error (.invalidSpan first last total)
            ↔
          IsCovered header first last total ∧ ¬ (first ≤ last ∧ last < total))
        ∧ (parse header = .error (.malformed header)
            ↔
          ¬ HasOtherUnit header ∧ ¬ HasUnknownTotal header
            ∧ (∀ first last total, ¬ IsCovered header first last total)
            ∧ ∀ total, ¬ IsUnsatisfied header total) := by
  have hread := readAs_parse header
  refine ⟨?_, ?_, ?_, ?_, ?_, ?_⟩
  . intro first last total
    constructor
    . intro h
      rw [h] at hread
      cases hread with
      | covered hcovered hspan => exact ⟨hcovered, hspan⟩
    . rintro ⟨hcovered, hspan⟩
      rw [parse_of_isCovered hcovered, ofNumbers, if_pos hspan]
  . intro total
    constructor
    . intro h
      rw [h] at hread
      cases hread with
      | unsatisfied hunsatisfied => exact hunsatisfied
    . exact parse_of_isUnsatisfied
  . constructor
    . intro h
      rw [h] at hread
      cases hread with
      | otherUnit hother => exact hother
    . exact parse_of_hasOtherUnit
  . constructor
    . intro h
      rw [h] at hread
      cases hread with
      | unknownTotal hunknown => exact hunknown
    . exact parse_of_hasUnknownTotal
  . intro first last total
    constructor
    . intro h
      rw [h] at hread
      cases hread with
      | invalidSpan hcovered hspan => exact ⟨hcovered, hspan⟩
    . rintro ⟨hcovered, hspan⟩
      rw [parse_of_isCovered hcovered, ofNumbers, if_neg hspan]
  . constructor
    . intro h
      refine ⟨?_, ?_, fun _ _ _ => not_isCovered_of_malformed h, ?_⟩
      . intro hother
        rw [parse_of_hasOtherUnit hother] at h
        cases h
      . intro hunknown
        rw [parse_of_hasUnknownTotal hunknown] at h
        cases h
      . intro total hunsatisfied
        rw [parse_of_isUnsatisfied hunsatisfied] at h
        cases h
    . rintro ⟨hunit, hunknown, hcovered, hunsatisfied⟩
      exact parse_of_malformed hunit hunknown hcovered hunsatisfied

example : parse " bYtEs +0 - 09/ 10\n" = .ok (.covered 0 9 10) := by
  decide +kernel

end RangeTail.ContentRange
