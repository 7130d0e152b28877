import Mathlib.Logic.Basic
import RangeTail.Json.Reader

/-!
This module contains the bound on the natural numbers in JSON values that were read: 64 bits hold
them. A number that is larger is read as one with a floating point.
-/

namespace RangeTail.Json

/-- Whether 64 bits hold the natural numbers in a value, at any depth. -/
inductive Value.Fits : Value → Prop where
  | null : Fits .null
  | boolean {b : Bool} : Fits (.boolean b)
  | natural {n : Nat} (h : n ≤ maxOffset) : Fits (.natural n)
  | negative {n : Nat} : Fits (.negative n)
  | float {negative : Bool} {size : Binary64} : Fits (.float negative size)
  | string {s : String} : Fits (.string s)
  | array {vs : List Value} (h : ∀ v ∈ vs, Fits v) : Fits (.array vs)
  | object {es : List (String × Value)} (h : ∀ p ∈ es, Fits p.2) : Fits (.object es)

section

variable {s rest : List Char} {v : Value} {es : List (String × Value)} {key : String} {d : Digits}

theorem fits_of_insert (hv : v.Fits) (h : ∀ p ∈ es, p.2.Fits)
    : ∀ p ∈ Json.insert key v es, p.2.Fits := by
  induction es with
  | nil => simpa [Json.insert] using hv
  | cons q es ih =>
    obtain ⟨hq, hrest⟩ := List.forall_mem_cons.mp h
    unfold Json.insert
    split
    . exact List.forall_mem_cons.mpr ⟨hv, hrest⟩
    . split
      . exact List.forall_mem_cons.mpr ⟨hv, h⟩
      . exact List.forall_mem_cons.mpr ⟨hq, ih hrest⟩

theorem value_push_le (h : d.value ≤ maxOffset) (c : Char) : (d.push c).value ≤ maxOffset := by
  unfold Digits.push
  dsimp only
  split
  . exact h
  . next hle => exact Nat.le_of_not_lt (not_or.mp hle).2

theorem value_foldl_push_le (h : d.value ≤ maxOffset) (digits : List Char)
    : (digits.foldl Digits.push d).value ≤ maxOffset := by
  induction digits generalizing d with
  | nil => exact h
  | cons c digits ih => exact ih (value_push_le h c)

theorem fits_of_bind_float {x : Option Binary64} {negative : Bool}
    (h : (x >>= fun size => some (Value.float negative size, s)) = some (v, rest))
    : v.Fits := by
  obtain ⟨size, _, h⟩ := Option.bind_eq_some_iff.mp h
  cases h
  exact .float

theorem fits_of_number (h : number s = some (v, rest)) : v.Fits := by
  unfold number at h
  obtain ⟨⟨whole, s⟩, _, h⟩ := Option.bind_eq_some_iff.mp h
  obtain ⟨⟨fraction, s⟩, _, h⟩ := Option.bind_eq_some_iff.mp h
  obtain ⟨⟨exponent, s⟩, _, h⟩ := Option.bind_eq_some_iff.mp h
  have hwhole : (whole.foldl Digits.push {}).value ≤ maxOffset :=
    value_foldl_push_le (Nat.zero_le maxOffset) whole
  dsimp only at h
  generalize whole.foldl Digits.push {} = d at hwhole h
  -- the digits are a natural number only if no minus sign, no point and no power stands by them
  rcases ite_eq_iff.mp h with ⟨_, h⟩ | ⟨_, h⟩
  . rcases ite_eq_iff.mp h with ⟨_, h⟩ | ⟨_, h⟩
    . cases h
      exact .natural hwhole
    . rcases ite_eq_iff.mp h with ⟨_, h⟩ | ⟨_, h⟩
      . cases h
        exact .negative
      . exact fits_of_bind_float h
  . exact fits_of_bind_float h

/-- Whether what is read with some fuel fits. -/
structure ReadsFit (fuel : Nat) : Prop where
  value : ∀ depth s v rest, value fuel depth s = some (v, rest) → v.Fits
  items : ∀ depth s vs rest, items fuel depth s = some (vs, rest) → ∀ v ∈ vs, v.Fits
  members : ∀ depth s read es rest, members fuel depth s read = some (es, rest) →
    (∀ p ∈ read, p.2.Fits) → ∀ p ∈ es, p.2.Fits

theorem readsFit (fuel : Nat) : ReadsFit fuel := by
  induction fuel with
  | zero =>
    constructor
    . intro depth s v rest h
      simp [value] at h
    . intro depth s v rest h
      simp [items] at h
    . intro depth s read v rest h
      simp [members] at h
  | succ fuel ih =>
    constructor
    case value =>
      intro depth s v rest h
      unfold value at h
      split at h
      . cases h
        exact .null
      . cases h
        exact .boolean
      . cases h
        exact .boolean
      . obtain ⟨_, _, heq⟩ := Option.map_eq_some_iff.mp h
        cases heq
        exact .string
      . split at h
        . contradiction
        . split at h
          . cases h
            exact .array nofun
          . obtain ⟨⟨vs, s⟩, hitems, heq⟩ := Option.map_eq_some_iff.mp h
            cases heq
            exact .array (ih.items _ _ _ _ hitems)
      . split at h
        . contradiction
        . split at h
          . cases h
            exact .object nofun
          . obtain ⟨⟨es, s⟩, hmembers, heq⟩ := Option.map_eq_some_iff.mp h
            cases heq
            exact .object (ih.members _ _ _ _ _ hmembers nofun)
      . exact fits_of_number h
    case items =>
      intro depth s vs rest h
      unfold items at h
      obtain ⟨⟨v, s⟩, hvalue, h⟩ := Option.bind_eq_some_iff.mp h
      have hv := ih.value _ _ v s hvalue
      dsimp only at h
      split at h
      . obtain ⟨⟨vs, s⟩, hitems, heq⟩ := Option.bind_eq_some_iff.mp h
        cases heq
        exact List.forall_mem_cons.mpr ⟨hv, ih.items _ _ vs s hitems⟩
      . cases h
        exact List.forall_mem_singleton.mpr hv
      . contradiction
    case members =>
      intro depth s read es rest h hread
      unfold members at h
      split at h
      . obtain ⟨⟨key, s⟩, _, h⟩ := Option.bind_eq_some_iff.mp h
        dsimp only at h
        split at h
        . obtain ⟨⟨v, s⟩, hvalue, h⟩ := Option.bind_eq_some_iff.mp h
          have hinsert : ∀ p ∈ Json.insert key v read, p.2.Fits :=
            fits_of_insert (ih.value _ _ v s hvalue) hread
          dsimp only at h
          split at h
          . exact ih.members _ _ _ es rest h hinsert
          . cases h
            exact hinsert
          . contradiction
        . contradiction
      . contradiction

theorem fits_of_parse (h : parse s = some v) : v.Fits := by
  unfold parse at h
  split at h
  . next hvalue =>
    split at h
    . cases h
      exact (readsFit _).value _ _ _ _ hvalue
    . contradiction
  . contradiction

end

end RangeTail.Json
