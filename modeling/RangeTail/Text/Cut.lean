/-!
This module contains the cutting of text at a character, and the search of text for another.
-/

namespace RangeTail.Text

/--
Cut text at the first `c`: what stands before it and what follows it, or nothing if `c` does not
occur.
-/
def cutAt (c : Char) : List Char → Option (List Char × List Char)
  | [] => none
  | x :: s => if x = c then some ([], s) else (cutAt c s).map fun (a, b) => (x :: a, b)

theorem cutAt_eq_some {c : Char} {s a b : List Char} :
    cutAt c s = some (a, b) ↔ s = a ++ c :: b ∧ c ∉ a := by
  induction s generalizing a b with
  | nil => simp [cutAt]
  | cons x s ih =>
    by_cases h : x = c
    · subst h
      constructor
      · intro h
        simp only [cutAt, ↓reduceIte, Option.some.injEq, Prod.mk.injEq] at h
        obtain ⟨rfl, rfl⟩ := h
        simp
      · rintro ⟨h, hn⟩
        cases a with
        | nil => simpa [cutAt] using h
        | cons y a =>
          simp only [List.cons_append, List.cons.injEq] at h
          simp [h.1] at hn
    · simp only [cutAt, h, ↓reduceIte, Option.map_eq_some_iff, Prod.mk.injEq]
      constructor
      · rintro ⟨⟨a', b'⟩, h', rfl, rfl⟩
        obtain ⟨rfl, hn⟩ := ih.1 h'
        exact ⟨rfl, by simp [hn, Ne.symm h]⟩
      · rintro ⟨h', hn⟩
        cases a with
        | nil => simp only [List.nil_append, List.cons.injEq] at h'; exact absurd h'.1 h
        | cons y a =>
          simp only [List.cons_append, List.cons.injEq] at h'
          obtain ⟨rfl, rfl⟩ := h'
          exact ⟨(a, b), ih.2 ⟨rfl, fun hm => hn (by simp [hm])⟩, rfl, rfl⟩

/-- The pieces of a text between the occurrences of `c`; there is one more of them than of `c`. -/
def splitOn (c : Char) (s : List Char) : List (List Char) :=
  go s [] []
where
  go : List Char → List Char → List (List Char) → List (List Char)
    | [], piece, done => (piece.reverse :: done).reverse
    | x :: s, piece, done => if x = c then go s [] (piece.reverse :: done) else go s (x :: piece) done

/-- Whether one text stands somewhere in another. -/
def occursIn (part : List Char) : List Char → Bool
  | [] => part.isEmpty
  | c :: s => part.isPrefixOf (c :: s) || occursIn part s

/-- Equality up to the case of ASCII letters. -/
def eqIgnoreCase (a b : List Char) : Bool :=
  a.map Char.toLower == b.map Char.toLower

end RangeTail.Text
