import RangeTail.Proofs.Text.Utf8

/-!
This module contains the proof that nothing but UTF-8 is read as a text: the bytes that are read are
those of the characters that come out, and what is left out at the end begins one more character.
-/

namespace RangeTail.Text.Utf8

open String (utf8EncodeChar)

section

variable {a b : UInt8} {n : Nat}

theorem isContinuation_of_secondByteOk (h : secondByteOk a b = true) : isContinuation b = true := by
  rw [secondByteOk_iff] at h
  rw [isContinuation_iff]
  repeat' split at h
  all_goals omega

theorem toNat_eq_payload (h : isContinuation b = true)
    : b.toNat = 128 + payload b ∧ payload b < 64 := by
  rw [isContinuation_iff] at h
  unfold payload
  omega

theorem continuation_eq (h : isContinuation b = true) (hn : n % 64 = payload b)
    : continuation n = b := by
  rw [← UInt8.toNat_inj, toNat_continuation, (toNat_eq_payload h).1]
  omega

theorem ofNat_eq (h : n = b.toNat) : UInt8.ofNat n = b := by
  rw [h, UInt8.ofNat_toNat]

theorem toNat_char (h : n.isValidChar) : (Char.ofNat n).toNat = n := by
  unfold Char.ofNat
  rw [dif_pos h]
  rfl

end

namespace Form

variable {c : Char} {bytes : List UInt8}

/-- There is only one way to encode a character. -/
theorem eq_encodeChar (h : Form c bytes) : bytes = utf8EncodeChar c := by
  cases h with
  | @one b₀ h value =>
    simp only [UInt8.lt_iff_toNat_lt, UInt8.reduceToNat] at h
    have hc : c.toNat = b₀.toNat := by rw [← value, toNat_char (.inl (by omega))]
    rw [encodeChar_one (by omega), ofNat_eq hc]
  | @two b₀ b₁ h₁ h₂ hb₁ value =>
    simp only [UInt8.le_iff_toNat_le, UInt8.lt_iff_toNat_lt, UInt8.reduceToNat] at h₁ h₂
    have hlt₁ := (toNat_eq_payload hb₁).2
    have hc : c.toNat = b₀.toNat % 32 * 64 + payload b₁ := by
      rw [← value, toNat_char (.inl (by omega))]
    rw [encodeChar_two (by omega) (by omega)]
    rw [ofNat_eq (b := b₀) (by omega), continuation_eq hb₁ (by omega)]
  | @three b₀ b₁ b₂ h₁ h₂ hok hb₁ hb₂ value =>
    simp only [UInt8.le_iff_toNat_le, UInt8.lt_iff_toNat_lt, UInt8.reduceToNat] at h₁ h₂
    obtain ⟨hb₁', hlt₁⟩ := toNat_eq_payload hb₁
    have hlt₂ := (toNat_eq_payload hb₂).2
    rw [secondByteOk_iff] at hok
    -- the bounds on the second byte keep the value off the surrogates and what two bytes encode
    have hvalid : (b₀.toNat % 16 * 4096 + payload b₁ * 64 + payload b₂).isValidChar
        ∧ 0x800 ≤ b₀.toNat % 16 * 4096 + payload b₁ * 64 + payload b₂ := by
      unfold Nat.isValidChar
      repeat' split at hok
      all_goals omega
    have hc : c.toNat = b₀.toNat % 16 * 4096 + payload b₁ * 64 + payload b₂ := by
      rw [← value, toNat_char hvalid.1]
    rw [encodeChar_three (by omega) (by omega)]
    rw [ofNat_eq (b := b₀) (by omega), continuation_eq hb₁ (by omega),
      continuation_eq hb₂ (by omega)]
  | @four b₀ b₁ b₂ b₃ h₁ h₂ hok hb₁ hb₂ hb₃ value =>
    simp only [UInt8.le_iff_toNat_le, UInt8.lt_iff_toNat_lt, UInt8.reduceToNat] at h₁ h₂
    obtain ⟨hb₁', hlt₁⟩ := toNat_eq_payload hb₁
    have hlt₂ := (toNat_eq_payload hb₂).2
    have hlt₃ := (toNat_eq_payload hb₃).2
    rw [secondByteOk_iff] at hok
    -- the bounds on the second byte keep the value above what three bytes encode and in Unicode
    have hvalid : (b₀.toNat % 8 * 262144 + payload b₁ * 4096 + payload b₂ * 64
          + payload b₃).isValidChar
        ∧ 0x10000 ≤ b₀.toNat % 8 * 262144 + payload b₁ * 4096 + payload b₂ * 64 + payload b₃ := by
      unfold Nat.isValidChar
      repeat' split at hok
      all_goals omega
    have hc : c.toNat
        = b₀.toNat % 8 * 262144 + payload b₁ * 4096 + payload b₂ * 64 + payload b₃ := by
      rw [← value, toNat_char hvalid.1]
    rw [encodeChar_four (by omega)]
    rw [ofNat_eq (b := b₀) (by omega), continuation_eq hb₁ (by omega),
      continuation_eq hb₂ (by omega), continuation_eq hb₃ (by omega)]

end Form

theorem exists_secondByteOk (a : UInt8) : ∃ b, secondByteOk a b = true := by
  have hbounds : (secondByteBounds a).1 ≤ (secondByteBounds a).2 := by
    unfold secondByteBounds
    repeat' split
    all_goals decide
  refine ⟨(secondByteBounds a).1, ?_⟩
  simp only [secondByteOk, hbounds, UInt8.le_refl, decide_true, Bool.and_self]

/-- The first bytes of a character, but not all of them. -/
def IsCut (bytes : List UInt8) : Prop :=
  ∃ c, bytes <+: utf8EncodeChar c ∧ bytes.length < c.utf8Size

namespace IsCut

variable {c : Char} {bytes more : List UInt8}

theorem of_form (hmore : more ≠ []) (h : Form c (bytes ++ more)) : IsCut bytes := by
  have hlength := congrArg List.length h.eq_encodeChar
  rw [List.length_append, String.length_utf8EncodeChar] at hlength
  have hpos := List.length_pos_iff.mpr hmore
  refine ⟨c, ?_, by omega⟩
  rw [← h.eq_encodeChar]
  apply List.prefix_append

theorem length_le_three (h : IsCut bytes) : bytes.length ≤ 3 := by
  obtain ⟨c, _, hlt⟩ := h
  have hle := c.utf8Size_le_four
  omega

end IsCut

/-- What there is to be read at the front of some bytes: a character that is encoded there, the
end of the input inside of one, or neither of them. -/
inductive Reading.Of (s : List UInt8) : Reading → Prop where
  | char {c : Char} {rest : List UInt8} (h : s = utf8EncodeChar c ++ rest) : Of s (.char c rest)
  | cut (h : IsCut s) : Of s .cut
  | bad (rest : List UInt8) : Of s (.bad rest)

theorem Form.reading {c : Char} {bytes : List UInt8} (h : Form c bytes) (rest : List UInt8)
    : Reading.Of (bytes ++ rest) (.char c rest) := by
  apply Reading.Of.char
  rw [h.eq_encodeChar]

section

variable {a b c d : UInt8}

theorem form_two (h₁ : ¬ a < 0xC2) (h₂ : a < 0xE0) (hb : isContinuation b = true)
    : Form (Char.ofNat (a.toNat % 32 * 64 + payload b)) [a, b] :=
  .two (UInt8.not_lt.mp h₁) h₂ hb rfl

theorem form_three (h₁ : ¬ a < 0xE0) (h₂ : a < 0xF0) (hok : secondByteOk a b = true)
    (hc : isContinuation c = true)
    : Form (Char.ofNat (a.toNat % 16 * 4096 + payload b * 64 + payload c)) [a, b, c] :=
  .three (UInt8.not_lt.mp h₁) h₂ hok (isContinuation_of_secondByteOk hok) hc rfl

theorem form_four (h₁ : ¬ a < 0xF0) (h₂ : a < 0xF5) (hok : secondByteOk a b = true)
    (hc : isContinuation c = true) (hd : isContinuation d = true)
    : Form (Char.ofNat (a.toNat % 8 * 262144 + payload b * 4096 + payload c * 64 + payload d))
        [a, b, c, d] :=
  .four (UInt8.not_lt.mp h₁) h₂ hok (isContinuation_of_secondByteOk hok) hc hd rfl

end

theorem readChar_of (s : List UInt8) : Reading.Of s (readChar s) := by
  have hlast : isContinuation 0x80 = true := by decide
  -- where the bytes break off, any that may follow show that a character begins there
  fun_cases readChar s with
  | case1 => exact .cut (.of_form (List.cons_ne_nil 0x61 []) (.one (by decide) rfl))
  | case2 a s h => exact Form.reading (.one h rfl) s
  | case4 a _ h₁ h₂ =>
    exact .cut (.of_form (List.cons_ne_nil 0x80 []) (form_two h₁ h₂ hlast))
  | case5 a _ h₁ h₂ b s hb => exact (form_two h₁ h₂ hb).reading s
  | case7 a _ _ h₁ h₂ =>
    obtain ⟨b, hok⟩ := exists_secondByteOk a
    exact .cut (.of_form (List.cons_ne_nil b [0x80]) (form_three h₁ h₂ hok hlast))
  | case8 a _ _ h₁ h₂ b hok =>
    exact .cut (.of_form (List.cons_ne_nil 0x80 []) (form_three h₁ h₂ hok hlast))
  | case9 a _ _ h₁ h₂ b hok c s hc => exact (form_three h₁ h₂ hok hc).reading s
  | case12 a _ _ _ h₁ h₂ =>
    obtain ⟨b, hok⟩ := exists_secondByteOk a
    exact .cut (.of_form (List.cons_ne_nil b [0x80, 0x80]) (form_four h₁ h₂ hok hlast hlast))
  | case13 a _ _ _ h₁ h₂ b hok =>
    exact .cut (.of_form (List.cons_ne_nil 0x80 [0x80]) (form_four h₁ h₂ hok hlast hlast))
  | case14 a _ _ _ h₁ h₂ b hok c hc =>
    exact .cut (.of_form (List.cons_ne_nil 0x80 []) (form_four h₁ h₂ hok hc hlast))
  | case15 a _ _ _ h₁ h₂ b hok c hc d s hd => exact (form_four h₁ h₂ hok hc hd).reading s
  | case3 | case6 | case10 | case11 | case16 | case17 | case18 | case19 => apply Reading.Of.bad

section

variable {s rest : List UInt8} {c : Char} {cs : List Char}

theorem eq_append_of_readChar (h : readChar s = .char c rest) : s = utf8EncodeChar c ++ rest := by
  cases h ▸ readChar_of s with
  | char hs => exact hs

theorem isCut_of_readChar (h : readChar s = .cut) : IsCut s := by
  cases h ▸ readChar_of s with
  | cut hs => exact hs

theorem readChars_of_not_char (h : ∀ c rest, readChar s ≠ .char c rest)
    : readChars s = ([], readChar s) := by
  rw [readChars, readChars_go_of_not_char h, List.reverse_nil]

/-- The reading stops behind the characters that it gives, at what is none. -/
theorem readChars_spec (s : List UInt8)
    : ∃ rest, s = encode (readChars s).1 ++ rest ∧ readChar rest = (readChars s).2 := by
  by_cases h : ∃ c rest, readChar s = .char c rest
  . obtain ⟨c, rest, hchar⟩ := h
    obtain ⟨last, hrest, hlast⟩ := readChars_spec rest
    refine ⟨last, ?_, ?_⟩
    . rw [readChars_of_char hchar, encode_cons, List.append_assoc, ← hrest]
      exact eq_append_of_readChar hchar
    . rw [readChars_of_char hchar]
      exact hlast
  . rw [readChars_of_not_char fun c rest hchar => h ⟨c, rest, hchar⟩]
    exact ⟨s, rfl, rfl⟩
termination_by s.length
decreasing_by exact readChar_char_lt hchar

/-- A text is read of the bytes that encode it, and of those with a part of one more character. -/
theorem decodeOpen_eq_some_iff
    : decodeOpen s = some cs ↔ ∃ tail, IsCut tail ∧ s = encode cs ++ tail := by
  constructor
  . intro h
    obtain ⟨tail, hs, htail⟩ := readChars_spec s
    unfold decodeOpen at h
    split at h
    . next read hread =>
      rw [Option.some.injEq] at h
      rw [hread] at hs htail
      exact ⟨tail, isCut_of_readChar htail, h ▸ hs⟩
    . contradiction
  . rintro ⟨tail, ⟨c, ⟨more, hmore⟩, hlt⟩, rfl⟩
    have htake : encode cs ++ tail
        = (encode (cs ++ [c])).take (size cs + tail.length) := by
      rw [encode_append, encode_cons, encode_nil, List.append_nil, ← hmore, ← List.append_assoc]
      rw [size_eq_length, ← List.length_append, List.take_left]
    have hnone : ¬ c.utf8Size ≤ tail.length := by omega
    rw [htake, decodeOpen_take_encode, fitting_append _ (by omega), Nat.add_sub_cancel_left]
    rw [fitting, if_neg hnone, List.append_nil]

end

end RangeTail.Text.Utf8
