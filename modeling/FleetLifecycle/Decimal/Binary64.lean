import FleetLifecycle.Decimal.Power

/-!
# Binary64 — double-precision numbers as exact integers

A magnitude is `mantissa * 2 ^ exponent` with a mantissa below `2 ^ 53`.  Every operation rounds
an exact ratio once, to the nearest such number and to the even one of two.

1. `Binary64`, its value as a ratio of natural numbers;
2. `roundRatio`, the nearest number to a ratio, `none` beyond the largest finite one;
3. `ofNat`, `mul` and `div`.
-/

namespace FleetLifecycle

/-- The magnitude of a finite double-precision number: `mantissa * 2 ^ exponent`. -/
structure Binary64 where
  mantissa : Nat
  exponent : Int
  deriving DecidableEq, Repr

namespace Binary64

def zero : Binary64 := ⟨0, -1074⟩

def ratio (x : Binary64) : Nat × Nat :=
  if 0 ≤ x.exponent then (x.mantissa * twoTo x.exponent.toNat, 1)
  else (x.mantissa, twoTo (-x.exponent).toNat)

/-- A quotient rounded to the nearest whole number, a half to the even one. -/
def divNearest (num den : Nat) : Nat :=
  let q := num / den
  let r := num % den
  if 2 * r < den then q
  else if den < 2 * r then q + 1
  else if q % 2 = 0 then q else q + 1

/-- The ratio `num / den` divided by `2 ^ e`, to the nearest whole number. -/
def scaled (num den : Nat) (e : Int) : Nat :=
  if 0 ≤ e then divNearest num (den * twoTo e.toNat)
  else divNearest (num * twoTo (-e).toNat) den

/-- The exponent at which the ratio has a mantissa of 53 bits, or the least exponent. -/
def exponentFor (num den : Nat) : Int :=
  let guess : Int := (Nat.log2 num : Int) - (Nat.log2 den : Int) - 52
  -- the first guess is exact or one too large
  let fits : Bool :=
    if 0 ≤ guess then den * twoTo guess.toNat * twoTo 52 ≤ num
    else den * twoTo 52 ≤ num * twoTo (-guess).toNat
  max (if fits then guess else guess - 1) (-1074)

/-- The number nearest to `num / den`, or `none` if that is beyond the largest finite number. -/
def roundRatio (num den : Nat) : Option Binary64 :=
  if num = 0 then some zero
  else
    let e := exponentFor num den
    let m := scaled num den e
    let x : Binary64 := if m = twoTo 53 then ⟨twoTo 52, e + 1⟩ else ⟨m, e⟩
    if 971 < x.exponent then none else some x

def ofNat (n : Nat) : Option Binary64 :=
  roundRatio n 1

def mul (x y : Binary64) : Option Binary64 :=
  roundRatio (x.ratio.1 * y.ratio.1) (x.ratio.2 * y.ratio.2)

/-- The rounded quotient; the divisor is not zero where it is used. -/
def div (x y : Binary64) : Option Binary64 :=
  roundRatio (x.ratio.1 * y.ratio.2) (x.ratio.2 * y.ratio.1)

end Binary64
end FleetLifecycle
