import FleetLifecycle.Decimal.Shortest
import FleetLifecycle.Json.Basic

/-!
# JSON numbers — from a literal to a value

A literal without fraction and exponent is a whole number as long as it fits 64 bits (unsigned, or
signed below zero).  Every other literal is a double-precision number.  Its significant digits are
collected in 64 bits, digits beyond are dropped, and the result is scaled by one power of ten; for
long literals this may differ in the last place from the nearest double.

1. `NumberLiteral`, the parts of a literal, and `scan?`, which splits one off a text;
2. `significand`, `scale`, the two halves of reading a literal as a double;
3. `toJson?`, the value, `none` beyond the largest double.
-/

namespace FleetLifecycle

/-- A number as it is written: sign, whole digits, fraction digits, and a signed exponent. -/
structure NumberLiteral where
  negative : Bool
  whole : List Char
  fraction : Option (List Char)
  exponent : Option (Bool × List Char)
  deriving DecidableEq, Repr

namespace NumberLiteral

def digits? (cs : List Char) : Option (List Char × List Char) :=
  match cs.takeWhile Char.isDigit with
  | [] => none
  | ds => some (ds, cs.dropWhile Char.isDigit)

def whole? (cs : List Char) : Option (List Char × List Char) :=
  match digits? cs with
  | some (ds, rest) => if ds.head? = some '0' ∧ 1 < ds.length then none else some (ds, rest)
  | none => none

def fraction? : List Char → Option (Option (List Char) × List Char)
  | '.' :: cs => (digits? cs).map (fun (ds, rest) => (some ds, rest))
  | cs => some (none, cs)

/-- The exponent, if the letter for it follows; the flag says that it is negative. -/
def exponent? (cs : List Char) : Option (Option (Bool × List Char) × List Char) :=
  match cs with
  | [] => some (none, [])
  | c :: rest =>
    if c = 'e' ∨ c = 'E' then
      let (negative, unsigned) := match rest with
        | '+' :: r => (false, r)
        | '-' :: r => (true, r)
        | r => (false, r)
      (digits? unsigned).map (fun (ds, rest) => (some (negative, ds), rest))
    else some (none, cs)

/-- Splits a number off the front of a text. -/
def scan? (cs : List Char) : Option (NumberLiteral × List Char) := do
  let (negative, cs) := match cs with
    | '-' :: r => (true, r)
    | r => (false, r)
  let (whole, cs) ← whole? cs
  let (fraction, cs) ← fraction? cs
  let (exponent, cs) ← exponent? cs
  return (⟨negative, whole, fraction, exponent⟩, cs)

def maxWord : Nat := unsignedBound - 1

/-- Collects whole digits while the number fits 64 bits, and counts the digits after that. -/
def collectWhole (n : Nat) : List Char → Nat × Nat
  | [] => (n, 0)
  | c :: cs =>
    let next := n * 10 + Text.digitValue c
    if maxWord < next then (n, cs.length + 1) else collectWhole next cs

/-- Collects fraction digits while the number fits 64 bits, counting them. -/
def collectFraction (n count : Nat) : List Char → Nat × Nat
  | [] => (n, count)
  | c :: cs =>
    let next := n * 10 + Text.digitValue c
    if maxWord < next then (n, count) else collectFraction next (count + 1) cs

/-- Significant digits as a number, and the power of ten they are to be scaled by. -/
def significand (lit : NumberLiteral) : Nat × Int :=
  let (n, dropped) := collectWhole 0 lit.whole
  match lit.fraction with
  | none => (n, dropped)
  | some ds =>
    let (n, count) := collectFraction n 0 ds
    (n, (dropped : Int) - (count : Int))

/-- A power of ten as the nearest double; the exponent is at most 308. -/
def powerOfTen (e : Nat) : Binary64 :=
  (Binary64.ofNat (tenTo e)).getD Binary64.zero

/-- Scales by a power of ten, by steps of 308 powers at most; `none` beyond the largest double.
The fuel bounds the steps down: each divides by `10 ^ 308`, so the fourth reaches zero. -/
def scale (fuel : Nat) (x : Binary64) (e : Int) : Option Binary64 :=
  if 0 ≤ e then
    if e ≤ 308 then x.mul (powerOfTen e.toNat)
    else if x.mantissa = 0 then some Binary64.zero else none
  else if -308 ≤ e then x.div (powerOfTen (-e).toNat)
  else if x.mantissa = 0 then some Binary64.zero
  else
    match fuel with
    | 0 => some Binary64.zero
    | fuel + 1 =>
      match x.div (powerOfTen 308) with
      | some y => scale fuel y (e + 308)
      | none => none

def exponentValue? (lit : NumberLiteral) : Option Int :=
  match lit.exponent with
  | none => some 0
  | some (negative, ds) =>
    let n := Text.ofDigits ds
    if n < twoTo 31 then some (if negative then -(n : Int) else n) else none

/-- A literal as a double, `none` beyond the largest one. -/
def toBinary64? (lit : NumberLiteral) : Option Binary64 :=
  let (n, e) := lit.significand
  match lit.exponentValue? with
  | some e' => (Binary64.ofNat n).bind (fun x => scale 4 x (e + e'))
  | none =>
    -- an exponent that large leaves nothing or too much
    if n ≠ 0 ∧ lit.exponent.map (·.1) = some false then none else some Binary64.zero

/-- A double with its sign, as JSON shows it. -/
def shown (negative : Bool) (x : Binary64) : String :=
  let digits := Decimal.json.write x
  String.ofList (if negative then '-' :: digits else digits)

def toJson? (lit : NumberLiteral) : Option Json :=
  let n := Text.ofDigits lit.whole
  let isWhole := lit.fraction.isNone && lit.exponent.isNone
  if isWhole && !lit.negative && n ≤ maxWord then some (.integer n)
  else if isWhole && lit.negative && 0 < n && n ≤ signedBound then some (.integer (-(n : Int)))
  else lit.toBinary64?.map (fun x => .real (shown lit.negative x))

end NumberLiteral
end FleetLifecycle
