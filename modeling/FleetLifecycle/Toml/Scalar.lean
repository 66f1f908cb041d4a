import FleetLifecycle.Decimal.Shortest
import FleetLifecycle.Json.Basic
import FleetLifecycle.Toml.Strings

/-!
# Values without parts in settings text

1. `moment`, a date, a time of day, or both, with or without an offset;
2. `integer`, in base 10, 16, 8 or 2, within 64 bits;
3. `float`, and the names of infinity and of what is no number;
4. `scalar`, any of these, a string, or a truth value.

No setting is a date, a time or a fraction, so of a moment only its being one is kept, and of a
fraction the text that messages show.
-/

namespace FleetLifecycle
namespace Toml

/-! ## Dates and times -/

/-- A number of exactly `width` digits within bounds. -/
def fixed (width low high : Nat) : Scan Nat := fun cs =>
  let digits := cs.take width
  let n := Text.ofDigits digits
  if digits.length = width ∧ Text.isDigits digits ∧ low ≤ n ∧ n ≤ high then
    some (n, cs.drop width)
  else none

def daysOf (year month : Nat) : Nat :=
  if month = 2 then
    if year % 4 = 0 ∧ (year % 100 ≠ 0 ∨ year % 400 = 0) then 29 else 28
  else if month = 4 ∨ month = 6 ∨ month = 9 ∨ month = 11 then 30
  else 31

def date (cs : List Char) : Option (List Char) := do
  let (year, cs) ← fixed 4 0 9999 cs
  let cs ← after ['-'] cs
  let (month, cs) ← fixed 2 1 12 cs
  let cs ← after ['-'] cs
  let (_, cs) ← fixed 2 1 (daysOf year month) cs
  return cs

/-- The text after a time of day. -/
def clock (cs : List Char) : Option (List Char) := do
  let (_, cs) ← fixed 2 0 23 cs
  let cs ← after [':'] cs
  let (_, cs) ← fixed 2 0 59 cs
  let cs ← after [':'] cs
  let (_, cs) ← fixed 2 0 60 cs
  match cs with
  | '.' :: rest =>
    if rest.head?.any Char.isDigit then return rest.dropWhile Char.isDigit else none
  | cs => return cs

/-- The text after an offset, if there is one. -/
def offset (cs : List Char) : List Char :=
  match cs with
  | [] => []
  | c :: rest =>
    if c = 'Z' ∨ c = 'z' then rest
    else if c = '+' ∨ c = '-' then
      (do
        let (_, rest) ← fixed 2 0 23 rest
        let rest ← after [':'] rest
        let (_, rest) ← fixed 2 0 59 rest
        return rest).getD cs
    else cs

/-- A moment: an object of one entry, which no settings know. -/
def momentValue : Json := .object [("moment", .null)]

def moment : Scan Json := fun cs =>
  match date cs with
  | some rest =>
    match rest with
    | c :: next =>
      if c = 'T' ∨ c = 't' ∨ c = ' ' then
        -- without a time of day after it, a separator is not part of the moment
        match clock next with
        | some next => some (momentValue, offset next)
        | none => some (momentValue, rest)
      else some (momentValue, rest)
    | [] => some (momentValue, [])
  | none => (clock cs).map (fun rest => (momentValue, rest))

/-! ## Numbers -/

def sign : List Char → Bool × List Char
  | '+' :: cs => (false, cs)
  | '-' :: cs => (true, cs)
  | cs => (false, cs)

/-- Digits in base 10 that do not begin with a zero, or a zero. -/
def wholeDigits : Scan (List Char)
  | '0' :: cs => some (['0'], cs)
  | cs => digitRun Char.isDigit cs

/-- A number of 64 bits in a base other than ten, after its two leading characters. -/
def based (base : Nat) (cs : List Char) : Option (Json × List Char) := do
  let inBase (c : Char) : Bool := (Text.hexValue? c).any (fun d => d.val < base)
  let (digits, rest) ← digitRun inBase cs
  let n := digits.foldl (fun n c => n * base + ((Text.hexValue? c).map Fin.val).getD 0) 0
  if n < signedBound then some (.integer n, rest) else none

def integer : Scan Json
  | '0' :: 'x' :: cs => based 16 cs
  | '0' :: 'o' :: cs => based 8 cs
  | '0' :: 'b' :: cs => based 2 cs
  | cs => do
    let (negative, cs) := sign cs
    let (digits, rest) ← wholeDigits cs
    let n := Text.ofDigits digits
    if negative then
      if n ≤ signedBound then some (.integer (-(n : Int)), rest) else none
    else if n < signedBound then some (.integer n, rest)
    else none

/-- The number `n * 10 ^ e` to the nearest double; `none` beyond the largest.  `digits` is how many
digits `n` may have. -/
def nearest (n digits : Nat) (e : Int) : Option Binary64 :=
  if n = 0 then some Binary64.zero
  -- far outside the range of doubles no power of ten has to be computed
  else if 400 < e then none
  else if (digits : Int) + e < -400 then some Binary64.zero
  else if 0 ≤ e then Binary64.roundRatio (n * tenTo e.toNat) 1
  else Binary64.roundRatio n (tenTo (-e).toNat)

def shown (negative : Bool) (x : Option Binary64) : String :=
  let digits := match x with
    | some x => Decimal.positional.write x
    | none => ['i', 'n', 'f']
  String.ofList (if negative then '-' :: digits else digits)

def exponent : Scan Int
  | [] => none
  | c :: cs =>
    if c = 'e' ∨ c = 'E' then do
      let (negative, cs) := sign cs
      let (digits, rest) ← digitRun Char.isDigit cs
      let n : Int := Text.ofDigits digits
      return (if negative then -n else n, rest)
    else none

def fractionDigits : Scan (List Char)
  | '.' :: cs => digitRun Char.isDigit cs
  | _ => none

/-- A number with a fraction, an exponent, or both; beyond the largest double only a negative one is
taken. -/
def float : Scan Json := fun cs => do
  let (negative, cs) := sign cs
  let (whole, cs) ← wholeDigits cs
  let (fraction, e, rest) ← match fractionDigits cs with
    | some (fraction, cs) =>
      match exponent cs with
      | some (e, cs) => some (fraction, e, cs)
      | none => some (fraction, 0, cs)
    | none => (exponent cs).map (fun (e, cs) => ([], e, cs))
  let digits := whole ++ fraction
  let x := nearest (Text.ofDigits digits) digits.length (e - (fraction.length : Int))
  if x.isNone ∧ !negative then none else some (.real (shown negative x), rest)

/-- Infinity, or what is no number. -/
def special : Scan Json := fun cs =>
  let (negative, cs) := sign cs
  match after ['i', 'n', 'f'] cs with
  | some rest => some (.real (shown negative none), rest)
  | none => (after ['n', 'a', 'n'] cs).map (fun rest => (.real "NaN", rest))

def truth : Scan Json := fun cs =>
  match after ['t', 'r', 'u', 'e'] cs with
  | some rest => some (.bool true, rest)
  | none => (after ['f', 'a', 'l', 's', 'e'] cs).map (fun rest => (.bool false, rest))

def scalar : Scan Json := fun cs =>
  match string cs with
  | some (s, rest) => some (.string s, rest)
  | none =>
    -- moments and fractions begin like whole numbers, so they go first
    match moment cs with
    | some r => some r
    | none =>
      match float cs with
      | some r => some r
      | none =>
        match special cs with
        | some r => some r
        | none =>
          match integer cs with
          | some r => some r
          | none => truth cs

end Toml
end FleetLifecycle
