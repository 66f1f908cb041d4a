import FleetLifecycle.Decimal.Binary64
import FleetLifecycle.Text.Digits

/-!
# Shortest — the fewest decimal digits that name a double-precision number

A number is shown with the fewest significant digits that read back as the same number, and among
those with the digits nearest to its exact value.  Of two that are equally near, a style says
which.

1. `Decimal`, significant digits and the position of the decimal point;
2. `shortest`, the decimal of a number: the first grid of 1, 2, … 17 digits that has a point in the
   interval of values that round to the number;
3. `Style`, where positional writing ends, how an exponent is written and which way a tie goes;
4. `Decimal.render` and `Style.write`.
-/

namespace FleetLifecycle

/-- The value `0.d₁d₂… * 10 ^ point`, for the decimal digits `d₁d₂…` of `digits`. -/
structure Decimal where
  digits : Nat
  point : Int
  deriving DecidableEq, Repr

namespace Decimal

inductive Tie where
  | even
  /-- The one farther from zero. -/
  | away
  deriving DecidableEq, Repr

/-- A quotient rounded to the nearest whole number, a half as `tie` says. -/
def Tie.divNearest (tie : Tie) (num den : Nat) : Nat :=
  match tie with
  | .even => Binary64.divNearest num den
  | .away => (2 * num + den) / (2 * den)

/-- `num / den < 10 ^ p`. -/
def belowPowerOfTen (num den : Nat) (p : Int) : Bool :=
  if 0 ≤ p then num < den * tenTo p.toNat else num * tenTo (-p).toNat < den

/-- The least `p` with `num / den < 10 ^ p`, from a candidate that is at most two too small. -/
def pointOf (num den : Nat) : Int :=
  -- 1233 / 4096 is the decimal logarithm of two, a little rounded down
  let guess : Int := ((Nat.log2 num : Int) - (Nat.log2 den : Int) - 1) * 1233 / 4096
  let candidates := (List.range 5).map (fun (i : Nat) => guess + (i : Int))
  (candidates.find? (belowPowerOfTen num den)).getD guess

/-- Whether `c * 10 ^ g` rounds to `x`: it lies between the midpoints to the neighbours of `x`,
which belong to `x` when its mantissa is even. -/
def roundsTo (x : Binary64) (c : Nat) (g : Int) : Bool :=
  let narrow := x.mantissa = twoTo 52 ∧ -1074 < x.exponent
  -- everything in quarters of `2 ^ exponent`
  let low := 4 * x.mantissa - (if narrow then 1 else 2)
  let high := 4 * x.mantissa + 2
  let (cn, cd) := if 0 ≤ g then (c * tenTo g.toNat, 1) else (c, tenTo (-g).toNat)
  let (en, ed) := if 0 ≤ x.exponent then (twoTo x.exponent.toNat, 1)
    else (1, twoTo (-x.exponent).toNat)
  let value := 4 * cn * ed
  let unit := en * cd
  if x.mantissa % 2 = 0 then low * unit ≤ value && value ≤ high * unit
  else low * unit < value && value < high * unit

/-- The best point of the grid `10 ^ g` for `x`: of its two neighbours that round to `x` the
nearer. -/
def onGrid (tie : Tie) (x : Binary64) (g : Int) : Option Nat :=
  let (num, den) := x.ratio
  let (n, d) := if 0 ≤ g then (num, den * tenTo g.toNat) else (num * tenTo (-g).toNat, den)
  let below := n / d
  let nearest := tie.divNearest n d
  let other := if nearest = below then below + 1 else below
  if roundsTo x nearest g then some nearest
  else if roundsTo x other g then some other
  else none

/-- The first grid of 1, 2, … digits that has a point rounding to `x`. -/
def firstGrid (tie : Tie) (x : Binary64) (point : Int) : List Nat → Option Decimal
  | [] => none
  | n :: ns =>
    match onGrid tie x (point - (n : Int)) with
    | some c =>
      -- a carry to the next power of ten moves the point
      if c = tenTo n then some ⟨1, point + 1⟩ else some ⟨c, point⟩
    | none => firstGrid tie x point ns

def shortest (tie : Tie) (x : Binary64) : Decimal :=
  if x.mantissa = 0 then ⟨0, 1⟩
  else
    let (num, den) := x.ratio
    let point := pointOf num den
    (firstGrid tie x point ((List.range 17).map (· + 1))).getD ⟨0, 1⟩

/-- How a number is written: positionally while the point lies in `first … last`, otherwise with
an exponent. -/
structure Style where
  first : Int
  last : Int
  /-- Whether an exponent that is not negative has a plus sign. -/
  plus : Bool
  tie : Tie
  deriving DecidableEq, Repr

/-- Numbers of a JSON text: positional from `0.00001` to below `10 ^ 16`, beyond that as in
`1e+16`. -/
def json : Style := ⟨-4, 16, true, .even⟩

/-- Numbers of a settings text: always positional. -/
def positional : Style := ⟨-400, 400, false, .away⟩

def exponent (style : Style) (e : Int) : List Char :=
  if style.plus ∧ 0 ≤ e then '+' :: Text.decimalInt e else Text.decimalInt e

/-- A decimal in the given style; a whole number keeps a fraction of zero. -/
def render (style : Style) (d : Decimal) : List Char :=
  let ds := Text.decimal d.digits
  let n : Int := ds.length
  if d.digits = 0 then ['0', '.', '0']
  else if d.point < style.first ∨ style.last < d.point then
    let mantissa := match ds with
      | [] => []
      | [c] => [c]
      | c :: cs => c :: '.' :: cs
    mantissa ++ 'e' :: exponent style (d.point - 1)
  -- the point behind all digits, among them, or before the first
  else if n ≤ d.point then
    ds ++ List.replicate (d.point - n).toNat '0' ++ ['.', '0']
  else if 0 < d.point then
    ds.take d.point.toNat ++ '.' :: ds.drop d.point.toNat
  else
    '0' :: '.' :: List.replicate (-d.point).toNat '0' ++ ds

def Style.write (style : Style) (x : Binary64) : List Char :=
  render style (shortest style.tie x)

end Decimal
end FleetLifecycle
