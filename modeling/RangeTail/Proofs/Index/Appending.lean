import Mathlib.Data.List.Infix
import RangeTail.Proofs.Index.Latest
import RangeTail.Proofs.Index.Opening

/-!
This module contains what is read of an index while it is still being written: the records of a part
of it, with their roles, are the first ones of whatever this part goes on to be.
-/

namespace RangeTail.Index

open Text.Utf8 (decodeLossy)

section

variable {rs more : List Record}

theorem exists_last_of_mem {a : α} {s : List α} (h : a ∈ s)
    : ∃ front back, s = front ++ a :: back ∧ a ∉ back := by
  obtain ⟨back, front, hreverse, hback⟩ := List.eq_append_cons_of_mem (List.mem_reverse.mpr h)
  refine ⟨front.reverse, back.reverse, ?_, by rwa [List.mem_reverse]⟩
  rw [← List.reverse_inj, hreverse]
  simp

/-- What is added behind a list changes none of its pieces but the last. -/
theorem prefix_dropLast_splitOn [BEq α] [LawfulBEq α] (a : α) (s more : List α)
    : (s.splitOn a).dropLast <+: ((s ++ more).splitOn a).dropLast := by
  by_cases h : a ∈ s
  . obtain ⟨front, back, rfl, hback⟩ := exists_last_of_mem h
    have hpieces (back : List α)
        : ((front ++ a :: back).splitOn a).dropLast
            = front.splitOn a ++ (back.splitOn a).dropLast := by
      rw [Text.splitOn_append_cons, List.dropLast_append_of_ne_nil (List.splitOn_ne_nil a back)]
    rw [List.append_assoc, List.cons_append, hpieces, hpieces, List.splitOn_eq_singleton hback]
    rw [List.dropLast_singleton, List.append_nil]
    apply List.prefix_append
  . rw [List.splitOn_eq_singleton h]
    apply List.nil_prefix

theorem prefix_labelled (openRole : Option String) (h : rs <+: more)
    : labelled openRole rs <+: labelled openRole more := by
  obtain ⟨rest, rfl⟩ := h
  rw [labelled_append]
  apply List.prefix_append

end

/-- What was read of an index stays as it is, with its roles, whatever is written behind it. -/
theorem parse_prefix_append (text more : List Char) (fromFileStart : Bool)
    : parse text fromFileStart <+: parse (text ++ more) fromFileStart := by
  have hlines : wholeLines text fromFileStart <+: wholeLines (text ++ more) fromFileStart := by
    rw [wholeLines_eq, wholeLines_eq, Text.splitOn_eq, Text.splitOn_eq]
    exact (prefix_dropLast_splitOn '\n' text more).drop _
  rw [parse, parse, assignRoles_eq, assignRoles_eq]
  exact prefix_labelled none (hlines.filterMap _)

/-- The same holds of the bytes of an index, which may end inside a character. -/
theorem prefix_parse_decodeLossy (bytes more : List UInt8) (fromFileStart : Bool)
    : parse (decodeLossy bytes) fromFileStart <+: parse (decodeLossy (bytes ++ more)) fromFileStart
      := by
  have hpieces : wholePieces bytes fromFileStart <+: wholePieces (bytes ++ more) fromFileStart :=
    (prefix_dropLast_splitOn 0x0A bytes more).drop _
  rw [parse_decodeLossy, parse_decodeLossy]
  exact prefix_labelled none (hpieces.filterMap recordOf)

end RangeTail.Index
