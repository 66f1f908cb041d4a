/-!
# Digits — whole numbers written in ASCII digits

1. `isDigits` and `ofDigits` read a run of decimal digits, leading zeros included;
2. `decimal` writes a natural number with no leading zero, `decimalInt` an integer;
3. `padded` writes a natural number with at least a given number of digits;
4. `hexValue?` and `hexDigit` do the same for one hexadecimal digit.
-/

namespace FleetLifecycle
namespace Text

def isDigits (cs : List Char) : Bool :=
  cs.all Char.isDigit

def digitValue (c : Char) : Nat :=
  c.toNat - '0'.toNat

/-- The value of a run of decimal digits, the most significant first. -/
def ofDigits (cs : List Char) : Nat :=
  cs.foldl (fun n c => n * 10 + digitValue c) 0

/-- A natural number in decimal digits, without leading zeros. -/
def decimal (n : Nat) : List Char :=
  Nat.toDigits 10 n

/-- An integer in decimal digits, a minus sign before a negative one. -/
def decimalInt : Int → List Char
  | .ofNat n => decimal n
  | .negSucc n => '-' :: decimal (n + 1)

/-- A natural number in at least `width` digits. -/
def padded (width n : Nat) : List Char :=
  let digits := decimal n
  List.replicate (width - digits.length) '0' ++ digits

def nibble (n : Nat) : Fin 16 :=
  ⟨n % 16, Nat.mod_lt n (by decide)⟩

/-- The value of a hexadecimal digit of either case. -/
def hexValue? (c : Char) : Option (Fin 16) :=
  if '0' ≤ c ∧ c ≤ '9' then some (nibble (c.toNat - '0'.toNat))
  else if 'a' ≤ c ∧ c ≤ 'f' then some (nibble (c.toNat - 'a'.toNat + 10))
  else if 'A' ≤ c ∧ c ≤ 'F' then some (nibble (c.toNat - 'A'.toNat + 10))
  else none

/-- The lower-case hexadecimal digit of a value. -/
def hexDigit (n : Fin 16) : Char :=
  if n.val < 10 then Char.ofNat ('0'.toNat + n.val) else Char.ofNat ('a'.toNat + n.val - 10)

theorem hexValue?_hexDigit (n : Fin 16) : hexValue? (hexDigit n) = some n := by
  revert n; decide

/-- A text with the letters `A` to `Z` in lower case; all else stays. -/
def lowerAscii (s : String) : String :=
  String.ofList (s.toList.map Char.toLower)

end Text
end FleetLifecycle
