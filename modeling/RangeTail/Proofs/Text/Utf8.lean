import RangeTail.Text.Utf8

/-!
This module contains the theory of UTF-8: what is read of the bytes of a character, of some of them
only, and of a text that is cut off at any place.
-/

namespace RangeTail.Text.Utf8

open String (utf8EncodeChar)

section

variable {a b c d : UInt8}

theorem readChar_ascii (h : a < 0x80) (s : List UInt8)
    : readChar (a :: s) = .char (Char.ofNat a.toNat) s := by
  simp only [readChar, h, ↓reduceIte]

theorem readChar_first (h₁ : 0xC2 ≤ a) (h₂ : a < 0xF5) : readChar [a] = .cut := by
  have h80 : ¬ a < 0x80 := UInt8.not_lt.mpr (UInt8.le_trans (by decide) h₁)
  have hC2 : ¬ a < 0xC2 := UInt8.not_lt.mpr (UInt8.le_trans (by decide) h₁)
  simp only [readChar, h80, hC2, h₂, ↓reduceIte, ite_self]

theorem readChar_two (h₁ : 0xC2 ≤ a) (h₂ : a < 0xE0) (hb : isContinuation b = true)
    (s : List UInt8)
    : readChar (a :: b :: s) = .char (Char.ofNat (a.toNat % 32 * 64 + payload b)) s := by
  have h80 : ¬ a < 0x80 := UInt8.not_lt.mpr (UInt8.le_trans (by decide) h₁)
  have hC2 : ¬ a < 0xC2 := UInt8.not_lt.mpr (UInt8.le_trans (by decide) h₁)
  simp only [readChar, h80, hC2, h₂, hb, ↓reduceIte]

theorem readChar_second (h₁ : 0xE0 ≤ a) (h₂ : a < 0xF5) (hb : secondByteOk a b = true)
    : readChar [a, b] = .cut := by
  have h80 : ¬ a < 0x80 := UInt8.not_lt.mpr (UInt8.le_trans (by decide) h₁)
  have hC2 : ¬ a < 0xC2 := UInt8.not_lt.mpr (UInt8.le_trans (by decide) h₁)
  have hE0 : ¬ a < 0xE0 := UInt8.not_lt.mpr (UInt8.le_trans (by decide) h₁)
  simp only [readChar, h80, hC2, hE0, h₂, hb, ↓reduceIte, ite_self]

theorem readChar_three (h₁ : 0xE0 ≤ a) (h₂ : a < 0xF0) (hb : secondByteOk a b = true)
    (hc : isContinuation c = true) (s : List UInt8)
    : readChar (a :: b :: c :: s)
        =
      .char (Char.ofNat (a.toNat % 16 * 4096 + payload b * 64 + payload c)) s := by
  have h80 : ¬ a < 0x80 := UInt8.not_lt.mpr (UInt8.le_trans (by decide) h₁)
  have hC2 : ¬ a < 0xC2 := UInt8.not_lt.mpr (UInt8.le_trans (by decide) h₁)
  have hE0 : ¬ a < 0xE0 := UInt8.not_lt.mpr (UInt8.le_trans (by decide) h₁)
  simp only [readChar, h80, hC2, hE0, h₂, hb, hc, ↓reduceIte]

theorem readChar_third (h₁ : 0xF0 ≤ a) (h₂ : a < 0xF5) (hb : secondByteOk a b = true)
    (hc : isContinuation c = true)
    : readChar [a, b, c] = .cut := by
  have h80 : ¬ a < 0x80 := UInt8.not_lt.mpr (UInt8.le_trans (by decide) h₁)
  have hC2 : ¬ a < 0xC2 := UInt8.not_lt.mpr (UInt8.le_trans (by decide) h₁)
  have hE0 : ¬ a < 0xE0 := UInt8.not_lt.mpr (UInt8.le_trans (by decide) h₁)
  have hF0 : ¬ a < 0xF0 := UInt8.not_lt.mpr (UInt8.le_trans (by decide) h₁)
  simp only [readChar, h80, hC2, hE0, hF0, h₂, hb, hc, ↓reduceIte]

theorem readChar_four (h₁ : 0xF0 ≤ a) (h₂ : a < 0xF5) (hb : secondByteOk a b = true)
    (hc : isContinuation c = true) (hd : isContinuation d = true) (s : List UInt8)
    : readChar (a :: b :: c :: d :: s)
        =
      .char (Char.ofNat
        (a.toNat % 8 * 262144 + payload b * 4096 + payload c * 64 + payload d)) s := by
  have h80 : ¬ a < 0x80 := UInt8.not_lt.mpr (UInt8.le_trans (by decide) h₁)
  have hC2 : ¬ a < 0xC2 := UInt8.not_lt.mpr (UInt8.le_trans (by decide) h₁)
  have hE0 : ¬ a < 0xE0 := UInt8.not_lt.mpr (UInt8.le_trans (by decide) h₁)
  have hF0 : ¬ a < 0xF0 := UInt8.not_lt.mpr (UInt8.le_trans (by decide) h₁)
  simp only [readChar, h80, hC2, hE0, hF0, h₂, hb, hc, hd, ↓reduceIte]

end

/-- The byte that carries the six lowest bits of a number. -/
def continuation (n : Nat) : UInt8 :=
  UInt8.ofNat (n % 64 + 128)

theorem isContinuation_iff {b : UInt8}
    : isContinuation b = true ↔ 128 ≤ b.toNat ∧ b.toNat < 192 := by
  rcases b with ⟨⟨n⟩⟩
  revert n
  decide +kernel

theorem toNat_continuation (n : Nat) : (continuation n).toNat = n % 64 + 128 := by
  unfold continuation
  rw [UInt8.toNat_ofNat']
  omega

theorem isContinuation_continuation (n : Nat) : isContinuation (continuation n) = true := by
  rw [isContinuation_iff, toNat_continuation]
  omega

theorem payload_continuation (n : Nat) : payload (continuation n) = n % 64 := by
  unfold payload
  rw [toNat_continuation]
  omega

theorem secondByteOk_iff {a b : UInt8}
    : secondByteOk a b = true
        ↔
      (if a.toNat = 0xE0 then 0xA0 ≤ b.toNat ∧ b.toNat ≤ 0xBF
      else if a.toNat = 0xED then 0x80 ≤ b.toNat ∧ b.toNat ≤ 0x9F
      else if a.toNat = 0xF0 then 0x90 ≤ b.toNat ∧ b.toNat ≤ 0xBF
      else if a.toNat = 0xF4 then 0x80 ≤ b.toNat ∧ b.toNat ≤ 0x8F
      else 0x80 ≤ b.toNat ∧ b.toNat ≤ 0xBF) := by
  unfold secondByteOk secondByteBounds
  simp only [← UInt8.toNat_inj, UInt8.reduceToNat, UInt8.le_iff_toNat_le, Bool.and_eq_true,
    decide_eq_true_eq]
  repeat' split
  all_goals simp only [UInt8.reduceToNat]

theorem toNat_le (c : Char) : c.toNat < 0x110000 := by
  have := c.valid
  unfold UInt32.isValidChar Nat.isValidChar at this
  rw [Char.toNat_val] at this
  omega

theorem not_surrogate (c : Char) : c.toNat < 0xD800 ∨ 0xDFFF < c.toNat := by
  have := c.valid
  unfold UInt32.isValidChar Nat.isValidChar at this
  rw [Char.toNat_val] at this
  omega

section

variable {c : Char}

theorem encodeChar_one (h : c.toNat < 0x80) : utf8EncodeChar c = [UInt8.ofNat c.toNat] := by
  have h₁ : c.toNat ≤ 0x7F := by omega
  unfold utf8EncodeChar
  simp only [Char.toNat_val, h₁, ↓reduceIte]

theorem encodeChar_two (h₁ : 0x80 ≤ c.toNat) (h₂ : c.toNat < 0x800)
    : utf8EncodeChar c = [UInt8.ofNat (c.toNat / 64 + 0xC0), continuation c.toNat] := by
  have hlo : ¬ c.toNat ≤ 0x7F := by omega
  have hhi : c.toNat ≤ 0x7FF := by omega
  have hmod : c.toNat / 64 % 32 = c.toNat / 64 := by omega
  unfold utf8EncodeChar
  simp only [Char.toNat_val, hlo, hhi, hmod, ↓reduceIte]
  rfl

theorem encodeChar_three (h₁ : 0x800 ≤ c.toNat) (h₂ : c.toNat < 0x10000)
    : utf8EncodeChar c
        =
      [UInt8.ofNat (c.toNat / 4096 + 0xE0), continuation (c.toNat / 64), continuation c.toNat] := by
  have hone : ¬ c.toNat ≤ 0x7F := by omega
  have hlo : ¬ c.toNat ≤ 0x7FF := by omega
  have hhi : c.toNat ≤ 0xFFFF := by omega
  have hmod : c.toNat / 4096 % 16 = c.toNat / 4096 := by omega
  unfold utf8EncodeChar
  simp only [Char.toNat_val, hone, hlo, hhi, hmod, ↓reduceIte]
  rfl

theorem encodeChar_four (h : 0x10000 ≤ c.toNat)
    : utf8EncodeChar c
        =
      [UInt8.ofNat (c.toNat / 262144 + 0xF0), continuation (c.toNat / 4096),
        continuation (c.toNat / 64), continuation c.toNat] := by
  have hone : ¬ c.toNat ≤ 0x7F := by omega
  have htwo : ¬ c.toNat ≤ 0x7FF := by omega
  have hlo : ¬ c.toNat ≤ 0xFFFF := by omega
  have hmod : c.toNat / 262144 % 8 = c.toNat / 262144 := by
    have := toNat_le c
    omega
  unfold utf8EncodeChar
  simp only [Char.toNat_val, hone, htwo, hlo, hmod, ↓reduceIte]
  rfl

end

theorem toNat_ofNat {n : Nat} (h : n < 256) : (UInt8.ofNat n).toNat = n := by
  rw [UInt8.toNat_ofNat']
  exact Nat.mod_eq_of_lt h

/-- The bytes that encode a character. -/
inductive Form (c : Char) : List UInt8 → Prop where
  | one {b₀ : UInt8} (h : b₀ < 0x80) (value : Char.ofNat b₀.toNat = c)
    : Form c [b₀]
  | two {b₀ b₁ : UInt8} (h₁ : 0xC2 ≤ b₀) (h₂ : b₀ < 0xE0) (hb₁ : isContinuation b₁ = true)
    (value : Char.ofNat (b₀.toNat % 32 * 64 + payload b₁) = c)
    : Form c [b₀, b₁]
  | three {b₀ b₁ b₂ : UInt8} (h₁ : 0xE0 ≤ b₀) (h₂ : b₀ < 0xF0) (hok : secondByteOk b₀ b₁ = true)
    (hb₁ : isContinuation b₁ = true) (hb₂ : isContinuation b₂ = true)
    (value : Char.ofNat (b₀.toNat % 16 * 4096 + payload b₁ * 64 + payload b₂) = c)
    : Form c [b₀, b₁, b₂]
  | four {b₀ b₁ b₂ b₃ : UInt8} (h₁ : 0xF0 ≤ b₀) (h₂ : b₀ < 0xF5) (hok : secondByteOk b₀ b₁ = true)
    (hb₁ : isContinuation b₁ = true) (hb₂ : isContinuation b₂ = true)
    (hb₃ : isContinuation b₃ = true)
    (value : Char.ofNat
      (b₀.toNat % 8 * 262144 + payload b₁ * 4096 + payload b₂ * 64 + payload b₃) = c)
    : Form c [b₀, b₁, b₂, b₃]

theorem form_encodeChar (c : Char) : Form c (utf8EncodeChar c) := by
  by_cases h₁ : c.toNat < 0x80
  . rw [encodeChar_one h₁]
    have hlead := toNat_ofNat (n := c.toNat) (by omega)
    apply Form.one
    . simp only [UInt8.lt_iff_toNat_lt, UInt8.reduceToNat, hlead]
      exact h₁
    . rw [hlead, Char.ofNat_toNat]
  by_cases h₂ : c.toNat < 0x800
  . rw [encodeChar_two (by omega) h₂]
    have hlead := toNat_ofNat (n := c.toNat / 64 + 0xC0) (by omega)
    apply Form.two
    . simp only [UInt8.le_iff_toNat_le, UInt8.reduceToNat, hlead]
      omega
    . simp only [UInt8.lt_iff_toNat_lt, UInt8.reduceToNat, hlead]
      omega
    . apply isContinuation_continuation
    . have hvalue : (c.toNat / 64 + 0xC0) % 32 * 64 + c.toNat % 64 = c.toNat := by omega
      rw [hlead, payload_continuation, hvalue, Char.ofNat_toNat]
  by_cases h₃ : c.toNat < 0x10000
  . rw [encodeChar_three (by omega) h₃]
    have hlead := toNat_ofNat (n := c.toNat / 4096 + 0xE0) (by omega)
    have hsur := not_surrogate c
    apply Form.three
    . simp only [UInt8.le_iff_toNat_le, UInt8.reduceToNat, hlead]
      omega
    . simp only [UInt8.lt_iff_toNat_lt, UInt8.reduceToNat, hlead]
      omega
    . rw [secondByteOk_iff, toNat_continuation, hlead]
      repeat' split
      all_goals omega
    . apply isContinuation_continuation
    . apply isContinuation_continuation
    . have hvalue : (c.toNat / 4096 + 0xE0) % 16 * 4096 + c.toNat / 64 % 64 * 64 + c.toNat % 64
          = c.toNat := by omega
      rw [hlead, payload_continuation, payload_continuation, hvalue, Char.ofNat_toNat]
  . rw [encodeChar_four (by omega)]
    have hle := toNat_le c
    have hlead := toNat_ofNat (n := c.toNat / 262144 + 0xF0) (by omega)
    apply Form.four
    . simp only [UInt8.le_iff_toNat_le, UInt8.reduceToNat, hlead]
      omega
    . simp only [UInt8.lt_iff_toNat_lt, UInt8.reduceToNat, hlead]
      omega
    . rw [secondByteOk_iff, toNat_continuation, hlead]
      repeat' split
      all_goals omega
    . apply isContinuation_continuation
    . apply isContinuation_continuation
    . apply isContinuation_continuation
    . have hvalue : (c.toNat / 262144 + 0xF0) % 8 * 262144 + c.toNat / 4096 % 64 * 4096
          + c.toNat / 64 % 64 * 64 + c.toNat % 64 = c.toNat := by omega
      rw [hlead, payload_continuation, payload_continuation, payload_continuation, hvalue,
        Char.ofNat_toNat]

namespace Form

variable {c : Char} {bytes : List UInt8}

theorem readChar_append (h : Form c bytes) (s : List UInt8)
    : readChar (bytes ++ s) = .char c s := by
  cases h with
  | one h value =>
    rw [List.cons_append, List.nil_append, readChar_ascii h, value]
  | two h₁ h₂ hb₁ value =>
    simp only [List.cons_append, List.nil_append]
    rw [readChar_two h₁ h₂ hb₁, value]
  | three h₁ h₂ hok hb₁ hb₂ value =>
    simp only [List.cons_append, List.nil_append]
    rw [readChar_three h₁ h₂ hok hb₂, value]
  | four h₁ h₂ hok hb₁ hb₂ hb₃ value =>
    simp only [List.cons_append, List.nil_append]
    rw [readChar_four h₁ h₂ hok hb₂ hb₃, value]

theorem readChar_take (h : Form c bytes) {n : Nat} (hn : n < bytes.length)
    : readChar (bytes.take n) = .cut := by
  cases n with
  | zero => rfl
  | succ n =>
    cases h with
    | one => contradiction
    | two h₁ h₂ =>
      have : n = 0 := by
        simp only [List.length_cons, List.length_nil] at hn
        omega
      subst n
      exact readChar_first h₁ (UInt8.lt_trans h₂ (by decide))
    | three h₁ h₂ hok =>
      have h₀ := UInt8.le_trans (show (0xC2 : UInt8) ≤ 0xE0 by decide) h₁
      have h₃ := UInt8.lt_trans h₂ (show (0xF0 : UInt8) < 0xF5 by decide)
      have : n = 0 ∨ n = 1 := by
        simp only [List.length_cons, List.length_nil] at hn
        omega
      rcases this with rfl | rfl
      . exact readChar_first h₀ h₃
      . exact readChar_second h₁ h₃ hok
    | four h₁ h₂ hok hb₁ hb₂ =>
      have h₀ := UInt8.le_trans (show (0xC2 : UInt8) ≤ 0xF0 by decide) h₁
      have h₃ := UInt8.le_trans (show (0xE0 : UInt8) ≤ 0xF0 by decide) h₁
      have : n = 0 ∨ n = 1 ∨ n = 2 := by
        simp only [List.length_cons, List.length_nil] at hn
        omega
      rcases this with rfl | rfl | rfl
      . exact readChar_first h₀ h₂
      . exact readChar_second h₃ h₂ hok
      . exact readChar_third h₁ h₂ hok hb₂

end Form

theorem not_isContinuation_of_lt {b : UInt8} (h : b < 0x80) : isContinuation b = false := by
  rw [Bool.eq_false_iff, ne_eq, isContinuation_iff]
  simp only [UInt8.lt_iff_toNat_lt, UInt8.reduceToNat] at h
  omega

theorem not_isContinuation_of_le {b : UInt8} (h : 0xC2 ≤ b) : isContinuation b = false := by
  rw [Bool.eq_false_iff, ne_eq, isContinuation_iff]
  simp only [UInt8.le_iff_toNat_le, UInt8.reduceToNat] at h
  omega

namespace Form

variable {c : Char} {bytes : List UInt8}

theorem isContinuation_of_mem_tail (h : Form c bytes) {b : UInt8} (hb : b ∈ bytes.tail)
    : isContinuation b = true := by
  cases h with
  | one => contradiction
  | two h₁ h₂ hb₁ =>
    rw [List.tail_cons, List.mem_singleton] at hb
    rw [hb]
    exact hb₁
  | three h₁ h₂ hok hb₁ hb₂ =>
    rw [List.tail_cons, List.mem_cons, List.mem_singleton] at hb
    rcases hb with rfl | rfl
    . exact hb₁
    . exact hb₂
  | four h₁ h₂ hok hb₁ hb₂ hb₃ =>
    rw [List.tail_cons, List.mem_cons, List.mem_cons, List.mem_singleton] at hb
    rcases hb with rfl | rfl | rfl
    . exact hb₁
    . exact hb₂
    . exact hb₃

theorem eq_cons (h : Form c bytes)
    : ∃ b s, bytes = b :: s ∧ isContinuation b = false ∧ (b < 0x80 → s = []) := by
  cases h with
  | one h =>
    exact ⟨_, _, rfl, not_isContinuation_of_lt h, fun _ => rfl⟩
  | two h₁ =>
    refine ⟨_, _, rfl, not_isContinuation_of_le h₁, fun h => absurd h ?_⟩
    exact UInt8.not_lt.mpr (UInt8.le_trans (by decide) h₁)
  | three h₁ =>
    refine ⟨_, _, rfl, not_isContinuation_of_le (UInt8.le_trans (by decide) h₁),
      fun h => absurd h ?_⟩
    exact UInt8.not_lt.mpr (UInt8.le_trans (by decide) h₁)
  | four h₁ =>
    refine ⟨_, _, rfl, not_isContinuation_of_le (UInt8.le_trans (by decide) h₁),
      fun h => absurd h ?_⟩
    exact UInt8.not_lt.mpr (UInt8.le_trans (by decide) h₁)

end Form

section

variable (c : Char) (s t : List Char)

@[simp] theorem encode_nil : encode [] = [] :=
  rfl

@[simp] theorem encode_cons : encode (c :: s) = utf8EncodeChar c ++ encode s :=
  rfl

@[simp] theorem encode_append : encode (s ++ t) = encode s ++ encode t := by
  unfold encode
  apply List.flatMap_append

theorem size_eq_length : size s = (encode s).length := by
  have (n : Nat) : s.foldl (fun n c => n + c.utf8Size) n = n + (encode s).length := by
    induction s generalizing n with
    | nil => rfl
    | cons c s ih =>
      rw [List.foldl_cons, ih, encode_cons, List.length_append, String.length_utf8EncodeChar]
      omega
  unfold size
  rw [this, Nat.zero_add]

@[simp] theorem size_nil : size [] = 0 :=
  rfl

@[simp] theorem size_cons : size (c :: s) = c.utf8Size + size s := by
  rw [size_eq_length, size_eq_length, encode_cons, List.length_append, String.length_utf8EncodeChar]

@[simp] theorem size_append : size (s ++ t) = size s + size t := by
  rw [size_eq_length, size_eq_length, size_eq_length, encode_append, List.length_append]

theorem dropBytes_cons {n : Nat} (hn : 0 < n)
    : dropBytes n (c :: s) = if c.utf8Size ≤ n then dropBytes (n - c.utf8Size) s else none := by
  cases n with
  | zero => contradiction
  | succ n => rw [dropBytes]

theorem dropBytes_size : dropBytes (size s) (s ++ t) = some t := by
  induction s with
  | nil =>
    rw [size_nil, dropBytes, List.nil_append]
  | cons c s ih =>
    have hc := c.utf8Size_pos
    rw [size_cons, List.cons_append, dropBytes_cons _ _ (by omega), if_pos (by omega)]
    rw [Nat.add_sub_cancel_left, ih]

end

theorem size_of_dropBytes {n : Nat} {s t : List Char} (h : dropBytes n s = some t)
    : size s = n + size t := by
  induction n, s using dropBytes.induct with
  | case1 s =>
    rw [dropBytes, Option.some.injEq] at h
    rw [h, Nat.zero_add]
  | case2 n =>
    rw [dropBytes] at h
    contradiction
  | case3 n c s hle ih =>
    rw [dropBytes, if_pos hle] at h
    have := ih h
    rw [size_cons]
    omega
  | case4 n c s hle =>
    rw [dropBytes, if_neg hle] at h
    contradiction

theorem prefix_of_size_le {s t u : List Char} (hs : s <+: u) (ht : t <+: u) (h : size s ≤ size t)
    : s <+: t := by
  cases List.prefix_or_prefix_of_prefix hs ht with
  | inl hst => exact hst
  | inr hts =>
    obtain ⟨more, rfl⟩ := hts
    cases more with
    | nil => simp
    | cons c more =>
      have hpos := c.utf8Size_pos
      rw [size_append, size_cons] at h
      omega

theorem eq_of_size_eq {s t u : List Char} (hs : s <+: u) (ht : t <+: u) (h : size s = size t)
    : s = t := by
  have hst := prefix_of_size_le hs ht (Nat.le_of_eq h)
  have hts := prefix_of_size_le ht hs (Nat.le_of_eq h.symm)
  exact hst.eq_of_length_le hts.length_le

theorem eq_nil_of_size_eq_zero {s : List Char} (h : size s = 0) : s = [] :=
  eq_of_size_eq List.prefix_rfl List.nil_prefix h

theorem readChars_go_of_char {s rest : List UInt8} {c : Char} (h : readChar s = .char c rest)
    (read : List Char)
    : readChars.go s read = readChars.go rest (c :: read) := by
  rw [readChars.go.eq_def]
  split
  . next h' =>
    rw [h, Reading.char.injEq] at h'
    rw [h'.1, h'.2]
  . next h' =>
    exact absurd h (h' c rest)

theorem readChars_go_of_not_char {s : List UInt8} (h : ∀ c rest, readChar s ≠ .char c rest)
    (read : List Char)
    : readChars.go s read = (read.reverse, readChar s) := by
  rw [readChars.go.eq_def]
  split
  . next c rest h' =>
    exact absurd h' (h c rest)
  . rfl

theorem readChars_go_append (s : List UInt8) (read before : List Char)
    : readChars.go s (read ++ before)
        =
      (before.reverse ++ (readChars.go s read).1, (readChars.go s read).2) := by
  induction s, read using readChars.go.induct with
  | case1 s read c rest h ih =>
    rw [readChars_go_of_char h, readChars_go_of_char h, ← List.cons_append, ih]
  | case2 s read h =>
    rw [readChars_go_of_not_char h, readChars_go_of_not_char h, List.reverse_append]

theorem readChars_of_char {s rest : List UInt8} {c : Char} (h : readChar s = .char c rest)
    : readChars s = (c :: (readChars rest).1, (readChars rest).2) := by
  rw [readChars, readChars_go_of_char h, ← List.nil_append [c], readChars_go_append]
  rfl

theorem readChars_of_cut {s : List UInt8} (h : readChar s = .cut) : readChars s = ([], .cut) := by
  have hne (c : Char) (rest : List UInt8) : readChar s ≠ .char c rest := by
    rw [h]
    exact Reading.noConfusion
  rw [readChars, readChars_go_of_not_char hne, h, List.reverse_nil]

theorem decodeOpen_nil : decodeOpen [] = some [] := by
  rw [decodeOpen, readChars_of_cut rfl]

/-- The characters at the front of a text whose bytes fit in the first `n`. -/
def fitting : Nat → List Char → List Char
  | _, [] => []
  | n, c :: s => if c.utf8Size ≤ n then c :: fitting (n - c.utf8Size) s else []

section

variable (n : Nat) (s : List Char)

theorem fitting_prefix : fitting n s <+: s := by
  induction s generalizing n with
  | nil =>
    apply List.nil_prefix
  | cons c s ih =>
    rw [fitting]
    split
    . rw [List.prefix_cons_inj]
      apply ih
    . apply List.nil_prefix

theorem size_fitting_le : size (fitting n s) ≤ n := by
  induction s generalizing n with
  | nil =>
    rw [fitting, size_nil]
    apply Nat.zero_le
  | cons c s ih =>
    rw [fitting]
    split
    . have := ih (n - c.utf8Size)
      rw [size_cons]
      omega
    . apply Nat.zero_le

theorem fitting_append {n : Nat} {s : List Char} (t : List Char) (h : size s ≤ n)
    : fitting n (s ++ t) = s ++ fitting (n - size s) t := by
  induction s generalizing n with
  | nil =>
    rw [size_nil, List.nil_append, List.nil_append, Nat.sub_zero]
  | cons c s ih =>
    rw [size_cons] at h
    rw [List.cons_append, fitting, if_pos (by omega), ih (by omega), size_cons]
    rw [List.cons_append, Nat.sub_sub]

theorem fitting_prefix_fitting {n m : Nat} (h : n ≤ m) (s : List Char)
    : fitting n s <+: fitting m s := by
  induction s generalizing n m with
  | nil =>
    apply List.nil_prefix
  | cons c s ih =>
    rw [fitting, fitting]
    split
    . next hn =>
      rw [if_pos (by omega), List.prefix_cons_inj]
      apply ih
      omega
    . apply List.nil_prefix

theorem prefix_of_append_eq {n : Nat} {before text s : List Char} (h : before ++ text = fitting n s)
    : before <+: s :=
  (List.prefix_append before text).trans (h ▸ fitting_prefix n s)

theorem fitting_eq_append {n m : Nat} {before text text' s : List Char} (hle : n ≤ m)
    (h : before ++ text = fitting n s) (h' : before ++ text' = fitting m s)
    : ∃ more, text' = text ++ more ∧ fitting n s ++ more = fitting m s := by
  obtain ⟨more, hmore⟩ := fitting_prefix_fitting hle s
  refine ⟨more, ?_, hmore⟩
  rw [← hmore, ← h, List.append_assoc] at h'
  exact List.append_cancel_left h'

/-- Bytes cut off at any place are read as the characters that are complete. -/
theorem readChars_take_encode : readChars ((encode s).take n) = (fitting n s, .cut) := by
  induction s generalizing n with
  | nil =>
    rw [encode_nil, List.take_nil, fitting]
    exact readChars_of_cut rfl
  | cons c s ih =>
    have hlen := String.length_utf8EncodeChar c
    rw [encode_cons, List.take_append, fitting, hlen]
    split
    . next h =>
      rw [List.take_of_length_le (by omega)]
      rw [readChars_of_char ((form_encodeChar c).readChar_append _), ih]
    . next h =>
      rw [Nat.sub_eq_zero_of_le (by omega), List.take_zero, List.append_nil]
      exact readChars_of_cut ((form_encodeChar c).readChar_take (by omega))

theorem decodeOpen_take_encode : decodeOpen ((encode s).take n) = some (fitting n s) := by
  rw [decodeOpen, readChars_take_encode]

end

end RangeTail.Text.Utf8
