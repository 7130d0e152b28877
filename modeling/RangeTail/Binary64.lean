/-!
This module contains double-precision numbers without a sign: the number nearest to a fraction, and
the shortest decimal that is read back as the same number.
-/

namespace RangeTail

/-- The number `mantissa * 2 ^ exponent`. -/
structure Binary64 where
  mantissa : Nat
  exponent : Int
  deriving DecidableEq, Repr

namespace Binary64

def zero : Binary64 := ⟨0, -1074⟩

/-- The fraction that a number is. -/
def ratio (x : Binary64) : Nat × Nat :=
  (x.mantissa * Nat.pow 2 x.exponent.toNat, Nat.pow 2 (-x.exponent).toNat)

/-- A quotient rounded to the nearest integer, and to the even one of two. -/
def roundDiv (num den : Nat) : Nat :=
  let q := num / den
  let r := num % den
  if 2 * r < den then q
  else if den < 2 * r then q + 1
  else if q % 2 = 0 then q else q + 1

/-- The number nearest to a fraction, unless that lies past the largest one. -/
def nearest (num den : Nat) : Option Binary64 :=
  if num = 0 then some zero
  else
    let low : Int := max (-1074) (Int.ofNat num.log2 - Int.ofNat den.log2 - 53)
    let fits (e : Int) :=
      num * Nat.pow 2 (-e).toNat < Nat.pow 2 53 * (den * Nat.pow 2 e.toNat)
    let e := if fits low then low else low + 1
    let m := roundDiv (num * Nat.pow 2 (-e).toNat) (den * Nat.pow 2 e.toNat)
    let x : Binary64 := if m = Nat.pow 2 53 then ⟨Nat.pow 2 52, e + 1⟩ else ⟨m, e⟩
    if x.exponent ≤ 971 then some x else none

/-- The product of two numbers. -/
def mul (x y : Binary64) : Option Binary64 :=
  nearest (x.ratio.1 * y.ratio.1) (x.ratio.2 * y.ratio.2)

/-- The quotient of two numbers. -/
def div (x y : Binary64) : Option Binary64 :=
  nearest (x.ratio.1 * y.ratio.2) (x.ratio.2 * y.ratio.1)

/-- A decimal: its digits, and where its point stands, counted from before the first of them. -/
structure Decimal where
  digits : List Char
  point : Int
  deriving DecidableEq, Repr

/-- The bounds between which all decimals are read as `x`, over one denominator with `x` itself. -/
structure Interval where
  low : Nat
  value : Nat
  high : Nat
  den : Nat
  /-- The bounds themselves are read as `x` too. -/
  closed : Bool

def interval (x : Binary64) : Interval :=
  let (num, den) := x.ratio
  let gap := Nat.pow 2 x.exponent.toNat
  let halved := x.mantissa = Nat.pow 2 52 ∧ -1074 < x.exponent
  { low := 4 * num - (if halved then gap else 2 * gap)
    value := 4 * num
    high := 4 * num + 2 * gap
    den := 4 * den
    closed := x.mantissa % 2 = 0 }

/-- Whether `k * 10 ^ step` lies in the interval. -/
def Interval.has (i : Interval) (k : Nat) (step : Int) : Bool :=
  let n := k * Nat.pow 10 step.toNat * i.den
  let scale := Nat.pow 10 (-step).toNat
  if i.closed then i.low * scale ≤ n && n ≤ i.high * scale
  else i.low * scale < n && n < i.high * scale

/-- The power of ten above a positive number: the place of its point before the first digit. -/
def Interval.point (i : Interval) : Int :=
  if i.den ≤ i.value then ((toString (i.value / i.den)).length : Int)
  else
    match (List.range 330).find? fun j => i.den ≤ i.value * Nat.pow 10 (j + 1) with
    | some j => -(j : Int)
    | none => 0

/--
The shortest decimal in the interval: with the fewest digits a neighbour of the number on the grid
of decimals of that length lies in it, and the nearer one is taken of two, the even one of two
equally near.
-/
def Interval.shortest (i : Interval) : Decimal :=
  let found := (List.range 17).findSome? fun n =>
    let step := i.point - Int.ofNat (n + 1)
    let num := i.value * Nat.pow 10 (-step).toNat
    let den := i.den * Nat.pow 10 step.toNat
    let below := num / den
    let near := roundDiv num den
    if i.has near step then some (near, step)
    else if i.has below step then some (below, step)
    else if i.has (below + 1) step then some (below + 1, step)
    else none
  match found with
  | some (k, step) =>
    let digits := (toString k).toList
    let kept := (digits.reverse.dropWhile (· == '0')).reverse
    ⟨kept, step + digits.length⟩
  | none => ⟨['0'], 1⟩

/-- The shortest decimal that is read as `x`. -/
def shortest (x : Binary64) : Decimal :=
  if x.mantissa = 0 then ⟨['0'], 1⟩ else x.interval.shortest

end Binary64
end RangeTail
