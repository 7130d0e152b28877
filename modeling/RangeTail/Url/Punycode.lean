/-!
This module contains Punycode: text written with letters, digits and hyphens only. What other
characters it holds is written as steps of a counter that runs through all places of all characters.
-/

namespace RangeTail.Url.Punycode

def digitChar (d : Nat) : Char :=
  Char.ofNat (if d < 26 then 0x61 + d else 0x30 + (d - 26))

def digitValue? (c : Char) : Option Nat :=
  if 'a' ≤ c ∧ c ≤ 'z' then some (c.toNat - 0x61)
  else if 'A' ≤ c ∧ c ≤ 'Z' then some (c.toNat - 0x41)
  else if '0' ≤ c ∧ c ≤ '9' then some (c.toNat - 0x30 + 26)
  else none

/-- The least digit at a place that is not the last one of its number. -/
def threshold (place bias : Nat) : Nat :=
  if place ≤ bias then 1 else if bias + 26 ≤ place then 26 else place - bias

theorem threshold_bounds (place bias : Nat) :
    1 ≤ threshold place bias ∧ threshold place bias ≤ 26 := by
  unfold threshold
  split
  · omega
  · split <;> omega

/-- The bias for the next number, from the step just written and the characters so far. -/
def adapt (delta count : Nat) (isFirst : Bool) : Nat :=
  let delta := if isFirst then delta / 700 else delta / 2
  go (delta + delta / count) 0
where
  go (delta place : Nat) : Nat :=
    if 455 < delta then go (delta / 35) (place + 36) else place + 36 * delta / (delta + 38)
  termination_by delta

/-- The digits of a number, the last of them below its threshold. -/
def writeNumber (bias place n : Nat) : List Char :=
  let t := threshold place bias
  if n < t then [digitChar n]
  else digitChar (t + (n - t) % (36 - t)) :: writeNumber bias (place + 36) ((n - t) / (36 - t))
termination_by n
decreasing_by
  have h := threshold_bounds place bias
  have := Nat.div_le_self (n - threshold place bias) (36 - threshold place bias)
  omega

/--
A number read from its digits, added to `sum`, and the digits after it. Neither the sum nor the
weight of a digit may need more than 32 bits.
-/
def readNumber (bias place weight sum : Nat) : List Char → Option (Nat × List Char)
  | [] => none
  | c :: s => do
    let d ← digitValue? c
    let t := threshold place bias
    if 0x100000000 ≤ weight ∨ 0x100000000 ≤ sum + d * weight then none
    else if d < t then return (sum + d * weight, s)
    else readNumber bias (place + 36) (weight * (36 - t)) (sum + d * weight) s

theorem length_readNumber {bias place weight sum n : Nat} {s rest : List Char}
    (h : readNumber bias place weight sum s = some (n, rest)) : rest.length < s.length := by
  induction s generalizing place weight sum with
  | nil => simp [readNumber] at h
  | cons c s ih =>
    simp only [readNumber, Option.bind_eq_bind, Option.bind_eq_some_iff] at h
    obtain ⟨d, -, h⟩ := h
    split at h
    · simp at h
    · split at h
      · simp only [Option.pure_def, Option.some.injEq, Prod.mk.injEq] at h
        simp [← h.2]
      · have := ih h
        simp only [List.length_cons]
        omega

/-- A writing in progress. -/
structure Writing where
  out : List Char
  delta : Nat
  bias : Nat
  count : Nat
  /-- Nothing but ASCII has been written. -/
  isFirst : Bool

/-- Pass one character of the text while the counter stands at the code point `n`. -/
def Writing.pass (n : Nat) (w : Writing) (c : Char) : Writing :=
  if c.toNat < n then { w with delta := w.delta + 1 }
  else if c.toNat = n then
    { out := w.out ++ writeNumber w.bias 36 w.delta
      delta := 0
      bias := adapt w.delta (w.count + 1) w.isFirst
      count := w.count + 1
      isFirst := false }
  else w

/-- Insert a code point into an increasing list that need not hold it. -/
def insertCode (n : Nat) : List Nat → List Nat
  | [] => [n]
  | m :: ms => if n < m then n :: m :: ms else if n = m then m :: ms else m :: insertCode n ms

/-- A text in Punycode. -/
def encode (s : List Char) : List Char :=
  let basic := s.filter (·.toNat < 0x80)
  let codes := (s.map Char.toNat).foldl (fun l n => if n < 0x80 then l else insertCode n l) []
  let start := if basic.isEmpty then [] else basic ++ ['-']
  (go codes 0x80 ⟨start, 0, 72, basic.length, true⟩).out
where
  go : List Nat → Nat → Writing → Writing
    | [], _, w => w
    | m :: ms, n, w =>
      let w := { w with delta := w.delta + (m - n) * (w.count + 1) }
      let w := s.foldl (Writing.pass m) w
      go ms (m + 1) { w with delta := w.delta + 1 }

/-- The text that is written in Punycode, if any is. -/
def decode (s : List Char) : Option (List Char) :=
  match s.reverse.span (· ≠ '-') with
  | (tail, _ :: head) => go tail.reverse 0x80 0 72 head.reverse
  | (tail, []) => go tail.reverse 0x80 0 72 []
where
  go (s : List Char) (n i bias : Nat) (read : List Char) : Option (List Char) :=
    match s with
    | [] => some read
    | c :: s =>
      match _h : readNumber bias 36 1 i (c :: s) with
      | none => none
      | some (j, rest) =>
        let count := read.length + 1
        let code := n + j / count
        if code.isValidChar then
          go rest code (j % count + 1) (adapt (j - i) count (i == 0))
            (read.take (j % count) ++ Char.ofNat code :: read.drop (j % count))
        else none
  termination_by s.length
  decreasing_by exact length_readNumber _h

end RangeTail.Url.Punycode
