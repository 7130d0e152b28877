import Mathlib.Data.List.DropRight
import RangeTail.Proofs.Text.Lossy
import RangeTail.Url.Form

/-!
This module contains the proof that the pairs of a query are read back as they were written, whatever
their keys and values are: a character is written without any of the signs that divide the query, and
what is written for it is read back as its bytes.
-/

namespace RangeTail

namespace Url

open Text (Utf8.encode)
open String (utf8EncodeChar)

/-! Bytes -/

/-- The digit as a byte. -/
def hexByte (n : Nat) : UInt8 :=
  UInt8.ofNat (upperHexDigit n).toNat

theorem hexByte_spec
    : ∀ n < 16, utf8EncodeChar (upperHexDigit n) = [hexByte n] ∧ hexByteValue? (hexByte n) = some n
        ∧ upperHexDigit n ∉ ['+', '&', '='] := by
  decide +kernel

theorem percentDecode_cons {a : UInt8} (h : a ≠ 0x25) (s : List UInt8)
    : percentDecode (a :: s) = a :: percentDecode s := by
  rw [percentDecode]
  intro _ _ _ heq
  contradiction

theorem percentDecode_percentByte (b : UInt8) (s : List UInt8)
    : percentDecode (Utf8.encode (percentByte b) ++ s) = b :: percentDecode s := by
  have hb := b.toNat_lt
  obtain ⟨hhigh, hhigh', _⟩ := hexByte_spec (b.toNat / 16) (by omega)
  obtain ⟨hlow, hlow', _⟩ := hexByte_spec (b.toNat % 16) (by omega)
  have hpercent : utf8EncodeChar '%' = [0x25] := by decide
  have hvalue : 16 * (b.toNat / 16) + b.toNat % 16 = b.toNat := by omega
  simp only [percentByte, Text.Utf8.encode_cons, Text.Utf8.encode_nil, hpercent, hhigh, hlow,
    List.append_nil, List.cons_append, List.nil_append]
  rw [percentDecode, hhigh', hlow']
  simp [hvalue]

theorem percentDecode_percentBytes (bytes s : List UInt8)
    : percentDecode (Utf8.encode (bytes.flatMap percentByte) ++ s) = bytes ++ percentDecode s := by
  induction bytes with
  | nil => rfl
  | cons b bytes ih =>
    rw [List.flatMap_cons, Text.Utf8.encode_append, List.append_assoc, percentDecode_percentByte, ih]
    rfl

theorem not_mem_percentByte {c : Char} (hc : c ∈ ['+', '&', '=']) (b : UInt8)
    : c ∉ percentByte b := by
  have hb := b.toNat_lt
  have hhigh := (hexByte_spec (b.toNat / 16) (by omega)).2.2
  have hlow := (hexByte_spec (b.toNat % 16) (by omega)).2.2
  unfold percentByte
  grind

namespace Form

/-- A plus sign stands for a blank. -/
def unplus (c : Char) : Char :=
  if c = '+' then ' ' else c

theorem map_unplus {s : List Char} (h : '+' ∉ s) : s.map unplus = s := by
  induction s with
  | nil => rfl
  | cons c s ih =>
    simp only [List.mem_cons, not_or] at h
    rw [List.map_cons, ih h.2, unplus, if_neg (Ne.symm h.1)]

theorem ne_of_isPlain {c sign : Char} (h : isPlain c = true) (hsign : sign ∈ ['+', '&', '=', '%'])
    : c ≠ sign := by
  rintro rfl
  simp only [List.mem_cons, List.not_mem_nil, or_false] at hsign
  rcases hsign with rfl | rfl | rfl | rfl <;> simp [isPlain] at h

theorem toNat_lt_of_isPlain {c : Char} (h : isPlain c = true) : c.toNat < 0x80 := by
  unfold isPlain at h
  rw [Bool.or_eq_true, decide_eq_true_eq] at h
  cases h with
  | inl h =>
    -- the ranges of the letters and of the digits
    have hranges : (decide ('A'.val ≤ c.val ∧ c.val ≤ 'Z'.val)
        || 'a'.val ≤ c.val && c.val ≤ 'z'.val
        || '0'.val ≤ c.val && c.val ≤ '9'.val) = true := h
    simp only [Bool.or_eq_true, Bool.and_eq_true, decide_eq_true_eq, UInt32.le_iff_toNat_le,
      Char.toNat_val, Char.reduceToNat] at hranges
    omega
  | inr h =>
    simp only [List.mem_cons, List.not_mem_nil, or_false] at h
    rcases h with rfl | rfl | rfl | rfl <;> decide

theorem not_mem_encode {sign : Char} (hsign : sign ∈ ['&', '=']) (s : List Char)
    : sign ∉ encode s := by
  intro hmem
  obtain ⟨c, _, hc⟩ := List.mem_flatMap.mp hmem
  split at hc
  . next hplain =>
    have hne : c ≠ sign := ne_of_isPlain hplain (by grind)
    exact hne (List.mem_singleton.mp hc).symm
  . split at hc
    . grind
    . obtain ⟨b, _, hb⟩ := List.mem_flatMap.mp hc
      exact not_mem_percentByte (by grind) b hb

/-- What is written for a character is read as its bytes. -/
theorem percentDecode_encode_singleton (c : Char) (s : List UInt8)
    : percentDecode (Utf8.encode ((encode [c]).map unplus) ++ s)
        =
      utf8EncodeChar c ++ percentDecode s := by
  rw [encode, List.flatMap_singleton]
  split
  . next hplain =>
    have hplus : '+' ∉ [c] := by
      rw [List.mem_singleton]
      exact (ne_of_isPlain hplain (by decide)).symm
    have hpercent : UInt8.ofNat c.toNat ≠ 0x25 := by
      intro h
      have hne : c ≠ '%' := ne_of_isPlain hplain (by decide)
      apply hne
      have hlt := toNat_lt_of_isPlain hplain
      rw [← UInt8.toNat_inj, Text.Utf8.toNat_ofNat (by omega)] at h
      rw [← Char.ofNat_toNat c, h]
      rfl
    rw [map_unplus hplus, Text.Utf8.encode_cons, Text.Utf8.encode_nil, List.append_nil]
    rw [Text.Utf8.encodeChar_one (toNat_lt_of_isPlain hplain)]
    exact percentDecode_cons hpercent s
  . split
    . next hblank =>
      rw [hblank]
      exact percentDecode_cons (by decide) s
    . rw [map_unplus, percentDecode_percentBytes]
      intro hmem
      obtain ⟨b, _, hb⟩ := List.mem_flatMap.mp hmem
      exact not_mem_percentByte (by decide) b hb

theorem percentDecode_encode (s : List Char)
    : percentDecode (Utf8.encode ((encode s).map unplus)) = Utf8.encode s := by
  induction s with
  | nil => rfl
  | cons c s ih =>
    have hcons : encode (c :: s) = encode [c] ++ encode s := by simp [encode]
    rw [hcons, List.map_append, Text.Utf8.encode_append, percentDecode_encode_singleton, ih]
    rfl

/-- What is written for a key or a value is read as what was meant. -/
theorem decode_encode (s : List Char) : decode (encode s) = s := by
  have hdecode : decode (encode s)
      = Text.Utf8.decodeLossy (percentDecode (Utf8.encode ((encode s).map unplus))) := rfl
  rw [hdecode, percentDecode_encode, Text.Utf8.decodeLossy_encode]

/-- A pair as it is written. -/
def piece (p : String × String) : List Char :=
  encode p.1.toList ++ '=' :: encode p.2.toList

theorem cutAt_piece (p : String × String)
    : Text.cutAt '=' (piece p) = some (encode p.1.toList, encode p.2.toList) := by
  apply Text.cutAt_eq_some.mpr
  exact ⟨rfl, not_mem_encode (by decide) _⟩

theorem splitOn_query (ps : List (String × String)) (hne : ps ≠ [])
    : Text.splitOn '&' (query ps) = ps.map piece := by
  rw [Text.splitOn_eq]
  apply List.splitOn_intercalate
  . intro s hs
    obtain ⟨p, _, rfl⟩ := List.mem_map.mp hs
    have h₁ : '&' ∉ encode p.1.toList := not_mem_encode (by decide) _
    have h₂ : '&' ∉ encode p.2.toList := not_mem_encode (by decide) _
    simp [h₁, h₂]
  . simpa

/-- The pairs of a query are read as they were written. -/
theorem pairs_query (ps : List (String × String)) : pairs (query ps) = ps := by
  by_cases hne : ps = []
  . subst hne
    rfl
  . have hpieces : (ps.map piece).filter (· ≠ []) = ps.map piece := by
      rw [List.filter_eq_self]
      intro s hs
      obtain ⟨p, _, rfl⟩ := List.mem_map.mp hs
      simp [piece]
    unfold pairs
    rw [splitOn_query ps hne, hpieces, List.map_map]
    conv => rhs; rw [← List.map_id ps]
    apply List.map_congr_left
    intro p _
    simp [cutAt_piece, decode_encode]

end Form

theorem pairs_withPairs (u : Url) (ps : List (String × String)) : (u.withPairs ps).pairs = ps := by
  unfold withPairs
  split
  . next hps =>
    rw [hps]
    rfl
  . exact Form.pairs_query ps

theorem withPairs_withPairs (u : Url) (ps : List (String × String))
    : (u.withPairs ps).withPairs ps = u.withPairs ps := by
  unfold withPairs
  split
  . rcases u with ⟨_, _, _, _, _, path, _, fragment⟩
    cases path with
    | rooted => rfl
    | rootless text =>
      cases fragment with
      | some => rfl
      | none => simp [List.dropWhile_idempotent]
  . rfl

end Url
end RangeTail
