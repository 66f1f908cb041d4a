import FleetLifecycle.Calendar.Reading
import FleetLifecycle.Json.Number
import Mathlib.Data.List.TakeWhile

/-!
# Numerals — numbers that are written in digits and read again

Dates, times and JSON numbers are runs of digits, with or without leading zeros.  Concretely, we:

1. show that digits have the value that was written (`Text.ofDigits_decimal`,
   `Text.ofDigits_padded`), and how many of them there are;
2. cut a run of digits off the text in front of which it stands (`Text.takeWhile_isDigit_append`,
   `Text.padded_append_inj`);
3. read fields of dates and times again (`TimeText.field_padded`), and give whole numbers of JSON
   their value (`NumberLiteral.toJson?_ofInt`).
-/

namespace FleetLifecycle

namespace Text

/-! ## Values of digits -/

theorem bounds_of_isDigit {c : Char} (h : c.isDigit = true) : 48 ≤ c.toNat ∧ c.toNat ≤ 57 := by
  simpa [Char.isDigit, UInt32.le_iff_toNat_le] using h

theorem ofDigits_eq (cs : List Char) : ofDigits cs = Nat.ofDigitChars 10 cs 0 := by
  simp only [ofDigits, digitValue, Nat.ofDigitChars_eq_foldl, Nat.mul_comm]

theorem ofDigits_decimal (n : Nat) : ofDigits (decimal n) = n := by
  rw [ofDigits_eq, decimal, Nat.ofDigitChars_ten_toDigits]

theorem isDigit_of_mem_decimal {n : Nat} {c : Char} (h : c ∈ decimal n) : c.isDigit = true :=
  Nat.isDigit_of_mem_toDigits (by decide) (by decide) h

theorem decimal_ne_nil (n : Nat) : decimal n ≠ [] :=
  Nat.toDigits_ne_nil

/-- Only zero begins with the digit zero. -/
theorem head?_decimal_ne {n : Nat} (h : 0 < n) : (decimal n).head? ≠ some '0' := by
  induction n using Nat.strongRecOn with
  | ind n ih =>
    rw [decimal, Nat.toDigits_eq_if (by decide)]
    split
    · have hne : n ≠ 0 := Nat.ne_of_gt h
      simp [hne]
    · have hhead := ih (n / 10) (by omega) (by omega)
      obtain ⟨c, cs, hcs⟩ := List.exists_cons_of_ne_nil (decimal_ne_nil (n / 10))
      rw [decimal] at hhead hcs
      rw [hcs] at hhead ⊢
      exact hhead

variable {width n : Nat}

theorem isDigit_of_mem_padded {c : Char} (h : c ∈ padded width n) : c.isDigit = true := by
  rcases List.mem_append.1 h with hzero | hdigit
  · rw [List.eq_of_mem_replicate hzero]
    rfl
  · exact isDigit_of_mem_decimal hdigit

theorem ofDigits_padded (width n : Nat) : ofDigits (padded width n) = n := by
  rw [padded, ofDigits_eq, Nat.ofDigitChars_append, Nat.ofDigitChars_replicate_zero, Nat.mul_zero,
    ← ofDigits_eq, ofDigits_decimal]

theorem padded_ne_nil (width n : Nat) : padded width n ≠ [] := by
  have hne := decimal_ne_nil n
  simp [padded, hne]

/-- A number that fits has as many digits as are asked for. -/
theorem length_padded (h : n < tenTo width) (hwidth : 0 < width) :
    (padded width n).length = width := by
  have hle : (decimal n).length ≤ width := (Nat.length_toDigits_le_iff (by decide) hwidth).2 h
  simp only [padded, List.length_append, List.length_replicate]
  omega

/-! ## Runs of digits in a text -/

/-- The text does not begin with a digit. -/
def NoDigit (rest : List Char) : Prop :=
  ∀ c, rest.head? = some c → c.isDigit = false

variable {ds rest : List Char}

theorem noDigit_nil : NoDigit [] := by
  rintro c ⟨⟩

theorem noDigit_cons {c : Char} (h : c.isDigit = false) : NoDigit (c :: rest) := by
  simp [NoDigit, h]

theorem noDigit_append_iff {cs : List Char} (hne : cs ≠ []) :
    NoDigit (cs ++ rest) ↔ NoDigit cs := by
  obtain ⟨c, cs, rfl⟩ := List.exists_cons_of_ne_nil hne
  rfl

theorem takeWhile_isDigit_append (hds : ∀ c ∈ ds, c.isDigit = true) (hrest : NoDigit rest) :
    (ds ++ rest).takeWhile Char.isDigit = ds := by
  rw [List.takeWhile_append_of_pos hds]
  cases rest with
  | nil =>
    simp
  | cons c rest =>
    simp [hrest c rfl]

theorem dropWhile_isDigit_append (hds : ∀ c ∈ ds, c.isDigit = true) (hrest : NoDigit rest) :
    (ds ++ rest).dropWhile Char.isDigit = rest := by
  rw [List.dropWhile_append_of_pos hds]
  cases rest with
  | nil =>
    rfl
  | cons c rest =>
    simp [hrest c rfl]

/-- A number and what follows it can be told from the text, if no digit follows. -/
theorem padded_append_inj {n' : Nat} {rest' : List Char} (hrest : NoDigit rest)
    (hrest' : NoDigit rest') (h : padded width n ++ rest = padded width n' ++ rest') :
    n = n' ∧ rest = rest' := by
  have hds : ∀ m, ∀ c ∈ padded width m, c.isDigit = true := fun _ _ hc => isDigit_of_mem_padded hc
  constructor
  · have hdigits := congrArg (List.takeWhile Char.isDigit) h
    rw [takeWhile_isDigit_append (hds n) hrest, takeWhile_isDigit_append (hds n') hrest'] at hdigits
    rw [← ofDigits_padded width n, hdigits, ofDigits_padded]
  · have hafter := congrArg (List.dropWhile Char.isDigit) h
    rwa [dropWhile_isDigit_append (hds n) hrest, dropWhile_isDigit_append (hds n') hrest'] at hafter

/-! ## Blanks -/

/-- The text does not begin with a blank. -/
def NoBlank (cs : List Char) : Prop :=
  ∀ c, cs.head? = some c → isBlank c = false

theorem isBlank_of_isDigit {c : Char} (h : c.isDigit = true) : isBlank c = false := by
  have hbounds := bounds_of_isDigit h
  simp only [isBlank, Bool.or_eq_false_iff, Bool.and_eq_false_iff, decide_eq_false_iff_not,
    beq_eq_false_iff_ne]
  omega

theorem trimStart_of_noBlank {cs : List Char} (h : NoBlank cs) : trimStart cs = cs := by
  cases cs with
  | nil =>
    rfl
  | cons c cs =>
    simp [trimStart, h c rfl]

theorem noBlank_of_isDigit (hds : ∀ c ∈ ds, c.isDigit = true) : NoBlank ds :=
  fun c hc => isBlank_of_isDigit (hds c (List.mem_of_mem_head? hc))

theorem noBlank_append {cs : List Char} (hne : cs ≠ []) (h : NoBlank cs) (more : List Char) :
    NoBlank (cs ++ more) := by
  obtain ⟨c, cs, rfl⟩ := List.exists_cons_of_ne_nil hne
  exact h

end Text

namespace TimeText

open Text

variable {ds rest : List Char}

/-! ## Fields of dates and times -/

theorem le_ofDigitChars (ds : List Char) (n : Nat) : n ≤ Nat.ofDigitChars 10 ds n := by
  induction ds generalizing n with
  | nil =>
    exact Nat.le_refl n
  | cons d ds ih =>
    rw [Nat.ofDigitChars_cons]
    exact Nat.le_trans (by omega) (ih _)

/-- Digits are read up to the width of the number, or to where they end. -/
theorem moreDigits_append {width : Option Nat} {n : Nat} (hds : ∀ c ∈ ds, c.isDigit = true)
    (hwidth : ∀ w, width = some w → ds.length ≤ w) (hend : width = some ds.length ∨ NoDigit rest)
    (hmax : Nat.ofDigitChars 10 ds n ≤ maxNumber) :
    moreDigits n width (ds ++ rest) = .ok (Nat.ofDigitChars 10 ds n, rest) := by
  induction ds generalizing n width with
  | nil =>
    rw [List.nil_append, Nat.ofDigitChars_nil]
    rcases hend with rfl | hrest
    · rw [List.length_nil, moreDigits]
    · rcases width with _ | _ | w
      all_goals
        cases rest with
        | nil =>
          simp [moreDigits]
        | cons c rest =>
          simp [moreDigits, hrest c rfl]
  | cons d ds ih =>
    have hvalue : Nat.ofDigitChars 10 (d :: ds) n =
        Nat.ofDigitChars 10 ds (n * 10 + digitValue d) := by
      rw [Nat.ofDigitChars_cons, Nat.mul_comm, digitValue]
    rw [hvalue] at hmax ⊢
    have hd : d.isDigit = true := hds d List.mem_cons_self
    have hds' : ∀ c ∈ ds, c.isDigit = true := fun c hc => hds c (List.mem_cons_of_mem _ hc)
    have hnext : ¬ maxNumber < n * 10 + digitValue d :=
      Nat.not_lt.2 (Nat.le_trans (le_ofDigitChars ds _) hmax)
    rcases width with _ | _ | w
    · have hend' : none = some ds.length ∨ NoDigit rest := hend.imp_left (by simp)
      have hrest := ih hds' (by rintro w ⟨⟩) hend' hmax
      simpa [moreDigits, hd, hnext] using hrest
    · exact absurd (hwidth 0 rfl) (Nat.not_succ_le_zero _)
    · have hwidth' : ∀ w', some w = some w' → ds.length ≤ w' := by
        rintro w' ⟨⟩
        exact Nat.le_of_succ_le_succ (hwidth (w + 1) rfl)
      have hend' : some w = some ds.length ∨ NoDigit rest := hend.imp_left (by simp)
      have hrest := ih hds' hwidth' hend' hmax
      simpa [moreDigits, hd, hnext] using hrest

/-- A number of at least one digit is read as digits are. -/
theorem number_append {width : Option Nat} (hne : ds ≠ []) (hds : ∀ c ∈ ds, c.isDigit = true)
    (hwidth : ∀ w, width = some w → ds.length ≤ w) (hend : width = some ds.length ∨ NoDigit rest)
    (hmax : ofDigits ds ≤ maxNumber) : number width (ds ++ rest) = .ok (ofDigits ds, rest) := by
  rw [ofDigits_eq] at hmax ⊢
  have hmore := moreDigits_append hds hwidth hend hmax
  obtain ⟨d, ds, rfl⟩ := List.exists_cons_of_ne_nil hne
  rw [List.cons_append] at hmore ⊢
  rw [number, if_pos (hds d List.mem_cons_self), hmore]

theorem number_padded {digits n : Nat} {width : Option Nat}
    (hwidth : ∀ w, width = some w → (padded digits n).length ≤ w)
    (hend : width = some (padded digits n).length ∨ NoDigit rest) (hmax : n ≤ maxNumber) :
    number width (padded digits n ++ rest) = .ok (n, rest) := by
  have hds : ∀ c ∈ padded digits n, c.isDigit = true := fun c hc => isDigit_of_mem_padded hc
  have hvalue : ofDigits (padded digits n) = n := ofDigits_padded digits n
  have hnumber := number_append (padded_ne_nil digits n) hds hwidth hend (hvalue.symm ▸ hmax)
  rwa [hvalue] at hnumber

/-- A number of as many digits as it may have is read whatever follows. -/
theorem number_of_width {digits n : Nat} (h : n < tenTo digits) (hpos : 0 < digits)
    (hmax : n ≤ maxNumber) (rest : List Char) :
    number (some digits) (padded digits n ++ rest) = .ok (n, rest) := by
  have hlength : (padded digits n).length = digits := length_padded h hpos
  refine number_padded ?_ (.inl (congrArg some hlength.symm)) hmax
  rintro w ⟨⟩
  exact Nat.le_of_eq hlength

/-- Two digits are read as the field they were written for, whatever follows. -/
theorem field_padded {low high n : Nat} (hlow : low ≤ n) (hhigh : n ≤ high) (h : n < 100) :
    field low high (padded 2 n ++ rest) = .ok (n, rest) := by
  have hds : ∀ c ∈ padded 2 n, c.isDigit = true := fun c hc => isDigit_of_mem_padded hc
  have hmax : n ≤ maxNumber := Nat.le_trans (Nat.le_of_lt h) (by decide)
  rw [field, trimStart_of_noBlank (noBlank_append (padded_ne_nil 2 n) (noBlank_of_isDigit hds) _),
    number_of_width h (by decide) hmax]
  exact if_pos ⟨hlow, hhigh⟩

end TimeText

namespace NumberLiteral

open Text

/-! ## Numbers of JSON -/

/-- The text goes on with nothing that a number could go on with. -/
def Stops (rest : List Char) : Prop :=
  ∀ c, rest.head? = some c → c.isDigit = false ∧ c ≠ '.' ∧ c ≠ 'e' ∧ c ≠ 'E'

/-- The literal of a whole number. -/
def ofInt (n : Int) : NumberLiteral where
  negative := n < 0
  whole := decimal n.natAbs
  fraction := none
  exponent := none

/-- A whole number of 64 bits is the value of its literal. -/
theorem toJson?_ofInt {n : Int} (hlow : -(signedBound : Int) ≤ n)
    (hhigh : n < (unsignedBound : Int)) : (ofInt n).toJson? = some (.integer n) := by
  have hbound : 0 < unsignedBound := by decide
  simp only [toJson?, ofInt, ofDigits_decimal, maxWord]
  rcases Int.lt_or_le n 0 with hneg | hpos
  · have habs : 0 < n.natAbs ∧ n.natAbs ≤ signedBound := by omega
    have hvalue : -(n.natAbs : Int) = n := by omega
    simp only [hneg, habs, hvalue, decide_true, Bool.not_true, Bool.and_false, Bool.false_and,
      Bool.and_true, Bool.false_eq_true, if_false, Option.isNone_none, if_true]
  · have hsign : ¬ n < 0 := Int.not_lt.2 hpos
    have habs : n.natAbs ≤ unsignedBound - 1 := by omega
    have hvalue : (n.natAbs : Int) = n := by omega
    simp [hsign, habs, hvalue]

end NumberLiteral
end FleetLifecycle
