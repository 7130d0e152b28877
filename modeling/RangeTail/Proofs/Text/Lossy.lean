import Mathlib.Data.List.Basic
import RangeTail.Proofs.Text.Decoding
import RangeTail.Text.Cut

/-!
This module contains the theory of lossy decoding, which gives a text for any bytes. It goes line by
line: what stands in one line has no influence on what is read of another, whatever its bytes are.
-/

namespace RangeTail.Text

open String (utf8EncodeChar)

theorem splitOn_eq (c : Char) (s : List Char) : splitOn c s = s.splitOn c := by
  have hid (pieces : List (List Char)) : pieces.modifyHead ([] ++ ·) = pieces := by
    cases pieces <;> rfl
  have hgo (s piece : List Char) (done : List (List Char))
      : splitOn.go c s piece done
          = done.reverse ++ (s.splitOn c).modifyHead (piece.reverse ++ ·) := by
    induction s generalizing piece done with
    | nil => simp [splitOn.go]
    | cons x s ih =>
      rw [splitOn.go, List.splitOn_cons_eq_if_modifyHead]
      by_cases h : x = c
      . rw [if_pos h, if_pos (beq_iff_eq.mpr h), ih, List.reverse_nil, hid]
        simp
      . rw [if_neg h, if_neg (mt beq_iff_eq.mp h), ih, List.modifyHead_modifyHead]
        simp [Function.comp_def]
  rw [splitOn, hgo, List.reverse_nil, List.reverse_nil, hid, List.nil_append]

theorem splitOn_append_cons [BEq α] [LawfulBEq α] (a : α) (s more : List α)
    : (s ++ a :: more).splitOn a = s.splitOn a ++ more.splitOn a := by
  simp only [List.splitOn_eq_splitOnP]
  exact List.splitOnP_append_cons s more (beq_self_eq_true a)

theorem not_mem_of_mem_splitOn [BEq α] [LawfulBEq α] {a : α} {s piece : List α}
    (h : piece ∈ s.splitOn a)
    : a ∉ piece := by
  induction s generalizing piece with
  | nil =>
    rw [List.mem_singleton.mp h]
    exact List.not_mem_nil
  | cons x s ih =>
    rw [List.splitOn_cons_eq_if_modifyHead] at h
    split at h
    . rcases List.mem_cons.mp h with rfl | h
      . exact List.not_mem_nil
      . exact ih h
    . next hne =>
      obtain ⟨first, more, hpieces⟩ := List.exists_cons_of_ne_nil (List.splitOn_ne_nil a s)
      rw [hpieces, List.modifyHead_cons] at h
      rw [hpieces] at ih
      rcases List.mem_cons.mp h with rfl | h
      . rw [List.mem_cons, not_or]
        exact ⟨fun heq => hne (beq_iff_eq.mpr heq.symm), ih List.mem_cons_self⟩
      . exact ih (List.mem_cons_of_mem _ h)

namespace Utf8

section

variable {s rest : List UInt8} {c : Char}

theorem decodeLossy_go_of_ne_nil (h : s ≠ []) (read : List Char)
    : decodeLossy.go s read =
        match readChar s with
        | .char c rest => decodeLossy.go rest (c :: read)
        | .bad rest => decodeLossy.go rest ('\uFFFD' :: read)
        | .cut => ('\uFFFD' :: read).reverse := by
  cases s with
  | nil => contradiction
  | cons a s =>
    rw [decodeLossy.go]
    split <;> simp [*]

theorem decodeLossy_go_append (s : List UInt8) (read before : List Char)
    : decodeLossy.go s (read ++ before) = before.reverse ++ decodeLossy.go s read := by
  induction s, read using decodeLossy.go.induct with
  | case1 read => simp [decodeLossy.go]
  | case2 read a s c rest h ih =>
    rw [decodeLossy_go_of_ne_nil (List.cons_ne_nil a s), h]
    rw [decodeLossy_go_of_ne_nil (List.cons_ne_nil a s), h]
    exact ih
  | case3 read a s rest h ih =>
    rw [decodeLossy_go_of_ne_nil (List.cons_ne_nil a s), h]
    rw [decodeLossy_go_of_ne_nil (List.cons_ne_nil a s), h]
    exact ih
  | case4 read a s h =>
    rw [decodeLossy_go_of_ne_nil (List.cons_ne_nil a s), h]
    rw [decodeLossy_go_of_ne_nil (List.cons_ne_nil a s), h]
    simp

theorem decodeLossy_nil : decodeLossy [] = [] := by
  simp [decodeLossy, decodeLossy.go]

theorem decodeLossy_of_ne_nil (h : s ≠ [])
    : decodeLossy s =
        match readChar s with
        | .char c rest => c :: decodeLossy rest
        | .bad rest => '\uFFFD' :: decodeLossy rest
        | .cut => ['\uFFFD'] := by
  unfold decodeLossy
  rw [decodeLossy_go_of_ne_nil h]
  cases readChar s with
  | char c rest => exact decodeLossy_go_append rest [] [c]
  | bad rest => exact decodeLossy_go_append rest [] ['\uFFFD']
  | cut => rfl

theorem decodeLossy_encode (s : List Char) : decodeLossy (encode s) = s := by
  induction s with
  | nil => exact decodeLossy_nil
  | cons c s ih =>
    have hread := (form_encodeChar c).readChar_append (encode s)
    have hne : utf8EncodeChar c ++ encode s ≠ [] := by simp
    rw [encode_cons, decodeLossy_of_ne_nil hne, hread]
    dsimp only
    rw [ih]

/-! What follows the bytes -/

theorem readChar_append_of_char (h : readChar s = .char c rest) (more : List UInt8)
    : readChar (s ++ more) = .char c (rest ++ more) := by
  rw [eq_append_of_readChar h, List.append_assoc]
  exact (form_encodeChar c).readChar_append _

theorem readChar_append_of_bad (h : readChar s = .bad rest) (more : List UInt8)
    : readChar (s ++ more) = .bad (rest ++ more) := by
  -- the reading of bad bytes stops at one of them, before what follows
  unfold readChar at h
  repeat' split at h
  all_goals cases h
  all_goals simp only [readChar, List.cons_append, ↓reduceIte, *]
  all_goals rfl

theorem readChar_append_of_cut (h : readChar s = .cut) (hne : s ≠ []) (more : List UInt8)
    : readChar (s ++ 0x0A :: more) = .bad (0x0A :: more) := by
  -- a line feed goes on with no character that has begun, at whatever byte of it
  have hlater : isContinuation 0x0A = false := by decide
  have hsecond (a : UInt8) : secondByteOk a 0x0A = false := by
    rw [Bool.eq_false_iff]
    intro hok
    rw [isContinuation_of_secondByteOk hok] at hlater
    contradiction
  unfold readChar at h
  repeat' split at h
  all_goals cases h
  . exact absurd rfl hne
  all_goals simp only [readChar, List.cons_append, List.nil_append, ↓reduceIte, *]
  all_goals rfl

theorem suffix_of_readChar (h : readChar s = .bad rest) : rest <:+ s := by
  unfold readChar at h
  repeat' split at h
  all_goals cases h
  all_goals simp only [List.suffix_cons_iff, List.suffix_rfl, or_true]

theorem decodeLossy_lineFeed (more : List UInt8)
    : decodeLossy (0x0A :: more) = '\n' :: decodeLossy more := by
  rw [decodeLossy_of_ne_nil (List.cons_ne_nil _ _), readChar_ascii (by decide)]
  rfl

theorem decodeLossy_append_lineFeed (s more : List UInt8)
    : decodeLossy (s ++ 0x0A :: more) = decodeLossy s ++ '\n' :: decodeLossy more := by
  by_cases hne : s = []
  . rw [hne, List.nil_append, decodeLossy_nil, decodeLossy_lineFeed, List.nil_append]
  . have happend : s ++ 0x0A :: more ≠ [] := List.append_ne_nil_of_left_ne_nil hne _
    rw [decodeLossy_of_ne_nil happend, decodeLossy_of_ne_nil hne]
    match h : readChar s with
    | .char c rest =>
      rw [readChar_append_of_char h]
      dsimp only
      rw [decodeLossy_append_lineFeed rest more, List.cons_append]
    | .bad rest =>
      rw [readChar_append_of_bad h]
      dsimp only
      rw [decodeLossy_append_lineFeed rest more, List.cons_append]
    | .cut =>
      rw [readChar_append_of_cut h hne]
      dsimp only
      rw [decodeLossy_lineFeed]
      rfl
termination_by s.length
decreasing_by
  . exact readChar_char_lt h
  . exact readChar_bad_lt h

theorem not_lineFeed_mem_decodeLossy {s : List UInt8} (hs : 0x0A ∉ s) : '\n' ∉ decodeLossy s := by
  by_cases hne : s = []
  . simp [hne, decodeLossy_nil]
  . have hmark : '\n' ≠ '\uFFFD' := by decide
    rw [decodeLossy_of_ne_nil hne]
    match h : readChar s with
    | .char c rest =>
      have happend := eq_append_of_readChar h
      have hrest : 0x0A ∉ rest := fun hmem => hs (happend ▸ List.mem_append_right _ hmem)
      have hfirst : '\n' ≠ c := by
        rintro rfl
        exact hs (happend ▸ List.mem_append_left _ (by decide))
      rw [List.mem_cons, not_or]
      exact ⟨hfirst, not_lineFeed_mem_decodeLossy hrest⟩
    | .bad rest =>
      have hrest : 0x0A ∉ rest := fun hmem => hs ((suffix_of_readChar h).subset hmem)
      rw [List.mem_cons, not_or]
      exact ⟨hmark, not_lineFeed_mem_decodeLossy hrest⟩
    | .cut => exact fun hmem => hmark (List.mem_singleton.mp hmem)
termination_by s.length
decreasing_by
  . exact readChar_char_lt h
  . exact readChar_bad_lt h

/-- The lines of the text are those of the bytes, each decoded by itself. -/
theorem splitOn_decodeLossy (s : List UInt8)
    : (decodeLossy s).splitOn '\n' = (s.splitOn 0x0A).map decodeLossy := by
  -- the induction is on the bytes behind the first line feed
  by_cases hs : 0x0A ∈ s
  . obtain ⟨line, more, heq, hline⟩ := List.eq_append_cons_of_mem hs
    rw [heq, decodeLossy_append_lineFeed, splitOn_append_cons, splitOn_append_cons]
    rw [List.splitOn_eq_singleton hline, splitOn_decodeLossy more]
    rw [List.splitOn_eq_singleton (not_lineFeed_mem_decodeLossy hline)]
    rfl
  . rw [List.splitOn_eq_singleton hs, List.splitOn_eq_singleton (not_lineFeed_mem_decodeLossy hs)]
    rfl
termination_by s.length
decreasing_by
  have := congrArg List.length heq
  rw [List.length_append, List.length_cons] at this
  omega

end

end Utf8
end RangeTail.Text
