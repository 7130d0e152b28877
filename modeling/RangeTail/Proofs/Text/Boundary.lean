import RangeTail.MemoryLog
import RangeTail.Proofs.Log.Window
import RangeTail.Proofs.Text.Utf8

/-!
This module contains the positions at which the characters of a file begin, how they are told from
the bytes of the file, and what is read from one of them on.
-/

namespace RangeTail

namespace Text.Utf8

open String (utf8EncodeChar)

/-- A character begins at the position, or the text ends there. -/
def IsBoundary (s : List Char) (n : Nat) : Prop :=
  ∃ before, before <+: s ∧ size before = n

variable {c : Char} {s : List Char} {k : Nat} {b : UInt8}

theorem isBoundary_zero (s : List Char) : IsBoundary s 0 :=
  ⟨[], List.nil_prefix, size_nil⟩

theorem IsBoundary.cons (h : IsBoundary s k) (c : Char)
    : IsBoundary (c :: s) (c.utf8Size + k) := by
  obtain ⟨before, hprefix, hsize⟩ := h
  refine ⟨c :: before, List.prefix_cons_inj c |>.mpr hprefix, ?_⟩
  rw [size_cons, hsize]

theorem getElem?_encode_of_lt (h : k < c.utf8Size)
    : (encode (c :: s))[k]? = (utf8EncodeChar c)[k]? := by
  rw [encode_cons, List.getElem?_append_left]
  rw [String.length_utf8EncodeChar]
  exact h

theorem getElem?_encode_of_le (h : c.utf8Size ≤ k)
    : (encode (c :: s))[k]? = (encode s)[k - c.utf8Size]? := by
  rw [encode_cons, List.getElem?_append_right]
  . rw [String.length_utf8EncodeChar]
  . rw [String.length_utf8EncodeChar]
    exact h

theorem isBoundary_of_getElem? (h : (encode s)[k]? = some b) (hb : isContinuation b = false)
    : IsBoundary s k := by
  induction s generalizing k with
  | nil => contradiction
  | cons c s ih =>
    cases Nat.lt_or_ge k c.utf8Size with
    | inl hlt =>
      cases k with
      | zero => apply isBoundary_zero
      | succ k =>
        -- all bytes of a character but the first one continue it
        rw [getElem?_encode_of_lt hlt, ← List.getElem?_tail] at h
        have := (form_encodeChar c).isContinuation_of_mem_tail (List.mem_of_getElem? h)
        rw [this] at hb
        contradiction
    | inr hge =>
      rw [getElem?_encode_of_le hge] at h
      have := (ih h).cons c
      rw [Nat.add_sub_cancel' hge] at this
      exact this

theorem IsBoundary.eq_append (h : IsBoundary s k) (hb : (encode s)[k]? = some b)
    : ∃ before c after,
        s = before ++ c :: after ∧ size before = k ∧ (utf8EncodeChar c).head? = some b := by
  obtain ⟨before, ⟨after, rfl⟩, rfl⟩ := h
  rw [encode_append, size_eq_length, List.getElem?_append_right (Nat.le_refl _), Nat.sub_self] at hb
  cases after with
  | nil => contradiction
  | cons c after =>
    refine ⟨before, c, after, rfl, rfl, ?_⟩
    rw [getElem?_encode_of_lt c.utf8Size_pos] at hb
    rw [List.head?_eq_getElem?, hb]

theorem IsBoundary.isContinuation_eq_false (h : IsBoundary s k) (hb : (encode s)[k]? = some b)
    : isContinuation b = false := by
  obtain ⟨before, c, after, _, _, hhead⟩ := h.eq_append hb
  obtain ⟨b', s', hbytes, hb', _⟩ := (form_encodeChar c).eq_cons
  rw [hbytes, List.head?_cons, Option.some.injEq] at hhead
  rw [← hhead, hb']

/-- A line begins behind every line feed. -/
theorem isBoundary_of_lineFeed (h : (encode s)[k]? = some 0x0A) : IsBoundary s (k + 1) := by
  have hk := isBoundary_of_getElem? h (not_isContinuation_of_lt (by decide))
  obtain ⟨before, c, after, rfl, rfl, hhead⟩ := hk.eq_append h
  obtain ⟨b', s', hbytes, _, hascii⟩ := (form_encodeChar c).eq_cons
  rw [hbytes, List.head?_cons, Option.some.injEq] at hhead
  have hsize : c.utf8Size = 1 := by
    rw [← String.length_utf8EncodeChar, hbytes, hascii (by rw [hhead]; decide)]
    rfl
  refine ⟨before ++ [c], ?_, ?_⟩
  . exact ⟨after, by simp⟩
  . rw [size_append, size_cons, size_nil, hsize]

theorem exists_isBoundary_add (h : k ≤ size s) : ∃ j ≤ 3, IsBoundary s (k + j) := by
  induction s generalizing k with
  | nil =>
    rw [size_nil, Nat.le_zero] at h
    subst k
    exact ⟨0, by omega, isBoundary_zero _⟩
  | cons c s ih =>
    rw [size_cons] at h
    have hle := c.utf8Size_le_four
    cases Nat.lt_or_ge k c.utf8Size with
    | inl hlt =>
      cases k with
      | zero => exact ⟨0, by omega, isBoundary_zero _⟩
      | succ k =>
        -- inside a character of at most four bytes, of which one at least lies before
        refine ⟨c.utf8Size - (k + 1), by omega, ?_⟩
        rw [Nat.add_sub_cancel' (by omega)]
        exact (isBoundary_zero s).cons c
    | inr hge =>
      obtain ⟨j, hj, hboundary⟩ := ih (k := k - c.utf8Size) (by omega)
      refine ⟨j, hj, ?_⟩
      have := hboundary.cons c
      rw [← Nat.add_assoc, Nat.add_sub_cancel' hge] at this
      exact this

end Text.Utf8

end RangeTail
