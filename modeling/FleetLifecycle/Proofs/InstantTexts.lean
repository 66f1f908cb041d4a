import FleetLifecycle.Proofs.CalendarDates
import FleetLifecycle.Proofs.Numerals

/-!
# Instant texts — a written instant is read again

Years may have a sign and any number of digits, seconds may be leap seconds, and fractions have as
many digits as they need.  Concretely, we:

1. show that what a clock shows tells the instant (`LocalTime.seconds_ofSeconds`), stays within the
   fields of a clock (`LocalTime.OnClock`), and may be any time there
   (`LocalTime.ofSeconds_seconds`);
2. read what is a text of a year (`TimeText.YearText`, `TimeText.year_append`), as a written one is,
   and a written fraction of a second (`TimeText.fraction_fractionDigits`) again;
3. put the fields together: a written instant is read again if it is one that can be read at all
   (`Instant.Readable`, `Instant.read_rfc3339`), and any other as the one that its text looks like
   (`Instant.asWritten`, `Instant.read_rfc3339_asWritten`).
-/

namespace FleetLifecycle

namespace LocalTime

/-! ## Clocks -/

/-- The fields of a time are those of a clock and of the calendar. -/
structure OnClock (t : LocalTime) : Prop where
  valid : t.date.isValid = true
  year : firstYear ≤ t.date.year ∧ t.date.year ≤ lastYear
  hour : t.hour ≤ 23
  minute : t.minute ≤ 59
  second : t.second ≤ 60
  nanos : t.nanos < secondNanos

theorem onClock_ofSeconds {seconds : Int} {nanos : Nat} (h : Instant.Fits seconds nanos) :
    OnClock (ofSeconds seconds nanos) := by
  obtain ⟨hfirst, hlast, hnanos⟩ := h
  have hday : firstDay ≤ seconds / daySeconds ∧ seconds / daySeconds ≤ lastDay := by
    simp only [daySeconds] at hfirst hlast ⊢
    omega
  have hofDay : (seconds % daySeconds).toNat < 86400 := by
    simp only [daySeconds]
    omega
  constructor
  case valid =>
    exact Date.isValid_ofDayNumber _
  case year =>
    exact Date.year_ofDayNumber hday.1 hday.2
  all_goals
    simp only [ofSeconds]
  case nanos =>
    split <;> omega
  case second =>
    split <;> omega
  all_goals
    omega

/-- The way back from what a clock shows. -/
theorem seconds_ofSeconds {seconds : Int} {nanos : Nat}
    (hleap : secondNanos ≤ nanos → seconds % 60 = 59) :
    (ofSeconds seconds nanos).seconds = (seconds, nanos) := by
  simp only [LocalTime.seconds, ofSeconds, Date.dayNumber_ofDayNumber, daySeconds]
  rcases Nat.lt_or_ge nanos secondNanos with hlt | hle
  · have hsecond : ¬ (seconds % 86400).toNat % 60 = 60 := by omega
    simp only [Nat.not_le.2 hlt, if_false, Nat.add_zero, hsecond, Prod.mk.injEq, and_true]
    omega
  · -- a leap second is the last of a minute
    have hsecond : (seconds % 86400).toNat % 60 + 1 = 60 := by
      have hlast := hleap hle
      omega
    simp only [hle, if_true, hsecond, Prod.mk.injEq]
    omega

/-- A clock whose hands are turned to a time shows that time. -/
theorem ofSeconds_seconds {t : LocalTime} (h : t.OnClock) :
    ofSeconds t.seconds.1 t.seconds.2 = t := by
  obtain ⟨date, hour, minute, second, nanos⟩ := t
  obtain ⟨hvalid, -, hhour, hminute, hsecond, hnanos⟩ := h
  dsimp only at hvalid hhour hminute hsecond hnanos
  -- what has passed of the day, the second 60 counted as the second 59
  obtain ⟨ofDay, hofDay⟩ :
      ∃ n, n = hour * 3600 + minute * 60 + (if second = 60 then 59 else second) := ⟨_, rfl⟩
  have hsplit : (date.dayNumber * 86400 + ofDay) / 86400 = date.dayNumber ∧
      ((date.dayNumber * 86400 + ofDay) % 86400).toNat = ofDay := by
    have hlt : ofDay < 86400 := by
      rw [hofDay]
      split <;> omega
    omega
  simp only [LocalTime.seconds, ofSeconds, daySeconds, ← hofDay, hsplit,
    Date.ofDayNumber_dayNumber hvalid, mk.injEq, true_and]
  by_cases hleap : second = 60
  · have hover : secondNanos ≤ nanos + secondNanos := Nat.le_add_left _ _
    simp only [hleap, if_true, hover] at hofDay ⊢
    omega
  · have hwithin : ¬ secondNanos ≤ nanos := Nat.not_le.2 hnanos
    simp only [hleap, if_false, hwithin, and_true] at hofDay ⊢
    omega

end LocalTime

namespace TimeText

open Text

variable {cs rest : List Char} {y : Int}

/-! ## Years -/

/-- The text is digits that write the number, no more than the width allows. -/
structure NumberText (width : Option Nat) (cs : List Char) (n : Nat) : Prop where
  nonempty : cs ≠ []
  isDigit : ∀ c ∈ cs, c.isDigit = true
  fits : ∀ w, width = some w → cs.length ≤ w
  value : ofDigits cs = n

/-- The text writes the year: in up to four digits, or in any number of digits after a sign. -/
inductive YearText : List Char → Int → Prop where
  | unsigned {cs : List Char} {n : Nat} : NumberText (some 4) cs n → YearText cs n
  | plus {cs : List Char} {n : Nat} : NumberText none cs n → YearText ('+' :: cs) n
  | minus {cs : List Char} {n : Nat} : NumberText none cs n → YearText ('-' :: cs) (-n)

/-- A year without a sign has up to four digits. -/
theorem year_of_isDigit {d : Char} {cs : List Char} {n : Nat} (hd : d.isDigit = true)
    (hnumber : number (some 4) (d :: cs) = .ok (n, rest)) (hbound : n < twoTo 31) :
    year (d :: cs) = .ok (n, rest) := by
  have hblank : trimStart (d :: cs) = d :: cs := by
    simp [trimStart, isBlank_of_isDigit hd]
  simp only [year, hblank]
  split
  · next heq =>
    obtain ⟨rfl, -⟩ := List.cons.inj heq
    exact absurd hd (by decide)
  · next heq =>
    obtain ⟨rfl, -⟩ := List.cons.inj heq
    exact absurd hd (by decide)
  · simp only [hnumber, Except.map, bind, Except.bind]
    exact if_pos ⟨by omega, by omega⟩

/-- Numbers that years may be are no more than a number may be while it is read. -/
theorem year_append (h : YearText cs y) (hrest : NoDigit rest) (hfirst : firstYear ≤ y)
    (hlast : y ≤ lastYear) : year (cs ++ rest) = .ok (y, rest) := by
  have hpower : twoTo 31 = 2147483648 := by decide
  have hnumber : maxNumber = 9223372036854775807 := by decide
  simp only [firstYear, lastYear] at hfirst hlast
  have hbound : -(twoTo 31 : Int) ≤ y ∧ y < (twoTo 31 : Int) := by omega
  cases h with
  | unsigned h =>
    obtain ⟨hne, hds, hfits, rfl⟩ := h
    have hread := number_append hne hds hfits (.inr hrest) (by omega)
    obtain ⟨d, ds, rfl⟩ := List.exists_cons_of_ne_nil hne
    exact year_of_isDigit (hds d List.mem_cons_self) hread (by omega)
  | plus h =>
    obtain ⟨hne, hds, hfits, rfl⟩ := h
    have hblank : ∀ cs, trimStart ('+' :: cs) = '+' :: cs := fun cs => rfl
    have hread := number_append hne hds hfits (.inr hrest) (by omega)
    simp only [year, List.cons_append, hblank, hread, Except.map, bind, Except.bind]
    exact if_pos hbound
  | minus h =>
    obtain ⟨hne, hds, hfits, rfl⟩ := h
    have hblank : ∀ cs, trimStart ('-' :: cs) = '-' :: cs := fun cs => rfl
    have hread := number_append hne hds hfits (.inr hrest) (by omega)
    simp only [year, List.cons_append, hblank, hread, Except.map, bind, Except.bind]
    exact if_pos hbound

theorem numberText_padded {width : Option Nat} {digits n : Nat}
    (hfits : ∀ w, width = some w → (padded digits n).length ≤ w) :
    NumberText width (padded digits n) n :=
  ⟨padded_ne_nil digits n, fun _ hc => isDigit_of_mem_padded hc, hfits, ofDigits_padded digits n⟩

theorem yearText_yearDigits (y : Int) : YearText (LocalTime.yearDigits y) y := by
  have hsigned : NumberText none (padded 4 y.natAbs) y.natAbs := numberText_padded (by simp)
  unfold LocalTime.yearDigits
  split
  · have hvalue : -(y.natAbs : Int) = y := by omega
    have htext := YearText.minus hsigned
    rwa [hvalue] at htext
  · have hvalue : (y.natAbs : Int) = y := by omega
    split
    · have htext := YearText.plus hsigned
      rwa [hvalue] at htext
    · have hfour : y.natAbs < tenTo 4 := by
        have hpower : tenTo 4 = 10000 := by decide
        omega
      have hfits : ∀ w, some 4 = some w → (padded 4 y.natAbs).length ≤ w := by
        rintro w ⟨⟩
        exact Nat.le_of_eq (length_padded hfour (by decide))
      have htext := YearText.unsigned (numberText_padded hfits)
      rwa [hvalue] at htext

/-! ## Fractions -/

theorem fraction_padded {digits n : Nat} (hpos : 0 < digits) (hle : digits ≤ 9)
    (h : n < tenTo digits) (hrest : NoDigit rest) :
    fraction ('.' :: (padded digits n ++ rest)) = .ok (n * tenTo (9 - digits), rest) := by
  have hlength : (padded digits n).length = digits := length_padded h hpos
  have hmax : n ≤ maxNumber := by
    have hnine : tenTo digits ≤ tenTo 9 := Nat.pow_le_pow_right (by decide) hle
    exact Nat.le_trans (Nat.le_of_lt (Nat.lt_of_lt_of_le h hnine)) (by decide)
  have hwidth : ∀ w, some 9 = some w → (padded digits n).length ≤ w := by
    rintro w ⟨⟩
    rwa [hlength]
  have hnumber := number_padded hwidth (.inr hrest) hmax
  have hused : (padded digits n ++ rest).length - rest.length = digits := by
    rw [List.length_append, hlength, Nat.add_sub_cancel]
  have hnone : ∀ c ∈ ([] : List Char), c.isDigit = true := by simp
  have hdrop : rest.dropWhile Char.isDigit = rest := dropWhile_isDigit_append hnone hrest
  simp only [fraction, hnumber, bind, Except.bind, hused, hdrop, pure, Except.pure]

/-- Digits are enough for nanoseconds if those that are left out are zeros. -/
theorem fraction_of_mod (digits : Nat) {n : Nat} (hpos : 0 < digits) (hle : digits ≤ 9)
    (hzeros : n % tenTo (9 - digits) = 0) (h : n < secondNanos) (hrest : NoDigit rest) :
    fraction ('.' :: (padded digits (n / tenTo (9 - digits)) ++ rest)) = .ok (n, rest) := by
  have hpowers : tenTo (9 - digits) * tenTo digits = secondNanos := by
    calc
      tenTo (9 - digits) * tenTo digits
          = 10 ^ (9 - digits + digits) := (Nat.pow_add 10 _ _).symm
      _ = 10 ^ 9 := by rw [Nat.sub_add_cancel hle]
      _ = secondNanos := by decide
  have hlt : n / tenTo (9 - digits) < tenTo digits :=
    Nat.div_lt_of_lt_mul (hpowers.symm ▸ h)
  rw [fraction_padded hpos hle hlt hrest, Nat.div_mul_cancel (Nat.dvd_of_mod_eq_zero hzeros)]

theorem fraction_fractionDigits {n : Nat} (h : n < secondNanos) (rest : List Char) :
    fraction (LocalTime.fractionDigits n ++ 'Z' :: rest) = .ok (n, 'Z' :: rest) := by
  have hstop : NoDigit ('Z' :: rest) := noDigit_cons (by decide)
  unfold LocalTime.fractionDigits
  split
  · next hzero =>
    rw [hzero]
    rfl
  · split
    · next hmillis =>
      exact fraction_of_mod 3 (by decide) (by decide) hmillis h hstop
    · split
      · next hmicros =>
        exact fraction_of_mod 6 (by decide) (by decide) hmicros h hstop
      · have hall : n / tenTo (9 - 9) = n := Nat.div_one n
        have hread := fraction_of_mod 9 (by decide) (by decide) (Nat.mod_one n) h hstop
        rwa [hall] at hread

end TimeText

/-! ## Instants -/

namespace Instant

open Text TimeText

theorem toList_rfc3339 (t : Instant) :
    t.rfc3339.toList =
      LocalTime.yearDigits t.utc.date.year ++ '-' :: (padded 2 t.utc.date.month ++
        '-' :: (padded 2 t.utc.date.day ++ 'T' :: (padded 2 t.utc.hour ++
          ':' :: (padded 2 t.utc.minute ++ ':' :: (padded 2 t.utc.second ++
            (LocalTime.fractionDigits t.utc.nanos ++ ['Z'])))))) := by
  simp [rfc3339, LocalTime.dateDigits, LocalTime.clockDigits]

/-- An instant is told by its seconds and nanoseconds. -/
theorem of?_eq_some_iff {seconds : Int} {nanos : Nat} {t : Instant} :
    of? seconds nanos = some t ↔ t.seconds = seconds ∧ t.nanos = nanos := by
  unfold of?
  constructor
  · intro h
    split at h
    · cases h
      exact ⟨rfl, rfl⟩
    · cases h
  · rintro ⟨rfl, rfl⟩
    exact dif_pos t.fits

/-- A leap second ends a minute at longitude zero: texts have no other. -/
def Readable (t : Instant) : Prop :=
  secondNanos ≤ t.nanos → t.seconds % 60 = 59

instance (t : Instant) : Decidable t.Readable := by
  unfold Readable; infer_instance

/-- The instant of a written text is the one that was written. -/
theorem read_rfc3339 {t : Instant} (readable : t.Readable) : Instant.read t.rfc3339 = .ok t := by
  have hclock : t.utc.OnClock := LocalTime.onClock_ofSeconds t.fits
  have hseconds : t.utc.seconds = (t.seconds, t.nanos) := LocalTime.seconds_ofSeconds readable
  have htext := t.toList_rfc3339
  generalize t.utc = shown at hclock hseconds htext
  obtain ⟨hvalid, hyear, hhour, hminute, hsecond, hnanos⟩ := hclock
  obtain ⟨hmonth, hday⟩ := Date.bounds_of_isValid hvalid
  have hcheck : checkDate shown.date = .ok shown.date := if_pos ⟨hvalid, hyear⟩
  have hinstant : Instant.of? (t.seconds - 0) t.nanos = some t := by
    rw [Int.sub_zero]
    exact dif_pos t.fits
  -- what stands between the fields
  have hhyphen : ∀ cs, literal '-' (trimStart ('-' :: cs)) = .ok ((), cs) := fun cs => rfl
  have hcolon : ∀ cs, literal ':' (trimStart (':' :: cs)) = .ok ((), cs) := fun cs => rfl
  have hseparator : ∀ cs, separator ('T' :: cs) = .ok ((), cs) := fun cs => rfl
  have hoffset : offset (trimStart ['Z']) = .ok (0, []) := rfl
  have hend : (trimStart []).isEmpty = true := rfl
  have hzone : (0 : Int).natAbs < 86400 := by decide
  have hreadYear : ∀ cs, year (LocalTime.yearDigits shown.date.year ++ '-' :: cs) =
      .ok (shown.date.year, '-' :: cs) := fun cs =>
    year_append (yearText_yearDigits _) (noDigit_cons (by decide)) hyear.1 hyear.2
  rw [Instant.read, htext]
  simp only [instant, bind, Except.bind, hreadYear, hhyphen, hcolon,
    field_padded hmonth.1 hmonth.2 (by omega), field_padded hday.1 hday.2 (by omega), hseparator,
    field_padded (Nat.zero_le _) hhour (by omega), field_padded (Nat.zero_le _) hminute (by omega),
    field_padded (Nat.zero_le _) hsecond (by omega), fraction_fractionDigits hnanos, hoffset, hend,
    if_true, hcheck, hzone, hseconds, hinstant]

/-! ## Leap seconds within a minute -/

/-- A leap second within a minute looks like the second after it. -/
theorem ofSeconds_succ {seconds : Int} {nanos : Nat} (hleap : secondNanos ≤ nanos)
    (hnanos : nanos < 2 * secondNanos) (hwithin : seconds % 60 ≠ 59) :
    LocalTime.ofSeconds (seconds + 1) (nanos - secondNanos) = LocalTime.ofSeconds seconds nanos := by
  have hcommon : ¬ secondNanos ≤ nanos - secondNanos := by omega
  simp only [LocalTime.ofSeconds, hleap, hcommon, if_true, if_false, LocalTime.mk.injEq, daySeconds,
    and_true]
  have hday : (seconds + 1) / 86400 = seconds / 86400 := by omega
  rw [hday]
  exact ⟨rfl, by omega, by omega, by omega⟩

/-- The instant that a written instant is read as: a leap second within a minute is taken for the
second after it. -/
def asWritten (t : Instant) : Instant :=
  if h : t.Readable then t
  else
    { seconds := t.seconds + 1
      nanos := t.nanos - secondNanos
      fits := by
        obtain ⟨hfirst, hlast, hnanos⟩ := t.fits
        rw [Readable, Classical.not_imp] at h
        simp only [Fits, daySeconds, secondNanos] at hfirst hlast hnanos h ⊢
        omega }

theorem asWritten_of_readable {t : Instant} (h : t.Readable) : t.asWritten = t :=
  dif_pos h

theorem readable_asWritten (t : Instant) : t.asWritten.Readable := by
  unfold asWritten
  split
  · next h =>
    exact h
  · intro hleap
    have hnanos := t.fits.2.2
    dsimp only at hleap
    omega

theorem rfc3339_asWritten (t : Instant) : t.asWritten.rfc3339 = t.rfc3339 := by
  unfold asWritten
  split
  · rfl
  · next h =>
    rw [Readable, Classical.not_imp] at h
    simp only [rfc3339, utc, ofSeconds_succ h.1 t.fits.2.2 h.2]

/-- Every written instant can be read. -/
theorem read_rfc3339_asWritten (t : Instant) : Instant.read t.rfc3339 = .ok t.asWritten := by
  rw [← t.rfc3339_asWritten]
  exact read_rfc3339 t.readable_asWritten

end Instant
end FleetLifecycle
