import FleetLifecycle.Calendar.Date
import Mathlib.Tactic.IntervalCases

/-!
# Calendar dates — dates and day numbers tell each other

Dates are computed from day numbers by divisions that allow for the leap days.  Concretely, we:

1. show that these divisions give the year of an era that a day lies in, years taken to begin in
   March (`Date.inYear_yearOfEra`);
2. describe the date of a day number by era, year, month and day (`Date.OnDay`);
3. conclude that it is a date of the calendar (`Date.isValid_ofDayNumber`), that it has the day
   number that it was computed from (`Date.dayNumber_ofDayNumber`), and that the years of dates in
   the span of instants are those of the span (`Date.year_ofDayNumber`);
4. describe every date of the calendar by its day of a year that begins in March
   (`Date.FromMarch`), which the day number tells, so that the date of its day number is the date
   itself (`Date.ofDayNumber_dayNumber`).
-/

namespace FleetLifecycle
namespace Date

/-! ## Years of an era -/

/-- The year of an era that a day of the era lies in. -/
def yearOfEra (n : Int) : Int :=
  (n - n / 1460 + n / 36524 - n / 146096) / 365

/-- The days of an era before one of its years. -/
def daysBefore (y : Int) : Int :=
  365 * y + y / 4 - y / 100

/-- The day of an era lies in the year, and only a leap year has a day 366. -/
structure InYear (n y : Int) : Prop where
  nonneg : 0 ≤ y
  le : y ≤ 399
  begun : daysBefore y ≤ n
  notOver : n ≤ daysBefore y + 365
  leap : n = daysBefore y + 365 → isLeapYear (y + 1) = true

section Century

variable {n y d : Int}

/-- A day of a century lies in a year of that century. -/
theorem year_of_century (hd : 0 ≤ d ∧ d ≤ 3) (hn : 36524 * d ≤ n ∧ n < 36524 * (d + 1))
    (hy : y = (n - n / 1460 + d) / 365) : 100 * d ≤ y ∧ y ≤ 100 * d + 99 := by
  obtain ⟨hd0, hd3⟩ := hd
  interval_cases d <;> omega

theorem daysBefore_le (hd : 0 ≤ d ∧ d ≤ 3) (hn : 36524 * d ≤ n ∧ n < 36524 * (d + 1))
    (hy : y = (n - n / 1460 + d) / 365) : 365 * y + y / 4 - d ≤ n := by
  obtain ⟨hd0, hd3⟩ := hd
  interval_cases d <;> omega

theorem le_daysBefore (hd : 0 ≤ d ∧ d ≤ 3) (hn : 36524 * d ≤ n ∧ n < 36524 * (d + 1))
    (hy : y = (n - n / 1460 + d) / 365) : n ≤ 365 * y + y / 4 - d + 365 := by
  obtain ⟨hd0, hd3⟩ := hd
  interval_cases d <;> omega

/-- The last day of a cycle of four years comes after that of its three common years. -/
theorem leap_of_century (hd : 0 ≤ d ∧ d ≤ 3) (hn : 36524 * d ≤ n ∧ n < 36524 * (d + 1))
    (hy : y = (n - n / 1460 + d) / 365) (hlast : n = 365 * y + y / 4 - d + 365) :
    (y + 1) % 4 = 0 ∧ (y + 1) % 100 ≠ 0 := by
  have hyear := year_of_century hd hn hy
  obtain ⟨hd0, hd3⟩ := hd
  have hcycle : y / 4 + 1 = n / 1460 := by
    interval_cases d <;> omega
  have hfourth : 4 * (n / 1460) - 1 ≤ y := by
    interval_cases d <;> omega
  constructor
  · omega
  · interval_cases d <;> omega

end Century

theorem inYear_yearOfEra {n : Int} (h0 : 0 ≤ n) (h1 : n < 146097) : InYear n (yearOfEra n) := by
  rcases Int.lt_or_le n 146096 with hlt | hle
  · have hera : n / 146096 = 0 := by omega
    have hd : 0 ≤ n / 36524 ∧ n / 36524 ≤ 3 := by omega
    have hn : 36524 * (n / 36524) ≤ n ∧ n < 36524 * (n / 36524 + 1) := by omega
    have hy : yearOfEra n = (n - n / 1460 + n / 36524) / 365 := by
      rw [yearOfEra, hera, Int.sub_zero]
    have hyear := year_of_century hd hn hy
    have hcentury : yearOfEra n / 100 = n / 36524 := by omega
    have hbegun := daysBefore_le hd hn hy
    have hover := le_daysBefore hd hn hy
    have hleap := leap_of_century hd hn hy
    have hdays : daysBefore (yearOfEra n) =
        365 * yearOfEra n + yearOfEra n / 4 - n / 36524 := by
      rw [daysBefore, hcentury]
    refine ⟨by omega, by omega, hdays ▸ hbegun, hdays ▸ hover, fun hlast => ?_⟩
    obtain ⟨hfour, hhundred⟩ := hleap (hdays ▸ hlast)
    simp [isLeapYear, hfour, hhundred]
  · -- the last day of an era
    obtain rfl : n = 146096 := by omega
    exact ⟨by decide, by decide, by decide, by decide, by decide⟩

/-! ## Dates of day numbers -/

/-- The days of a year before one of its months, which are counted from March. -/
def daysBeforeMonth (m : Int) : Int :=
  (153 * m + 2) / 5

/-- The day number is that of a day of the month `m` from March of the year `y` of an era, with
`k` days of the month before it. -/
structure OnDay (n era y m k : Int) : Prop where
  inYear : InYear (daysBefore y + daysBeforeMonth m + k) y
  month : 0 ≤ m ∧ m ≤ 11
  day : 0 ≤ k ∧ k < daysBeforeMonth (m + 1) - daysBeforeMonth m
  number : n + 719468 = era * 146097 + (daysBefore y + daysBeforeMonth m + k)
  date : ofDayNumber n =
    ⟨if m < 10 then y + era * 400 else y + era * 400 + 1,
      (if m < 10 then m + 3 else m - 9).toNat, (k + 1).toNat⟩

theorem exists_onDay (n : Int) : ∃ era y m k, OnDay n era y m k := by
  have hrange : 0 ≤ (n + 719468) % 146097 ∧ (n + 719468) % 146097 < 146097 := by omega
  have hyear := inYear_yearOfEra hrange.1 hrange.2
  set dayOfEra := (n + 719468) % 146097 with hera
  set y := yearOfEra dayOfEra
  set dayOfYear := dayOfEra - daysBefore y with hdays
  set m := (5 * dayOfYear + 2) / 153 with hm
  have hbounds : 0 ≤ dayOfYear ∧ dayOfYear ≤ 365 := by
    have hbegun := hyear.begun
    have hover := hyear.notOver
    omega
  have hday : daysBefore y + daysBeforeMonth m + (dayOfYear - daysBeforeMonth m) = dayOfEra := by
    omega
  refine ⟨(n + 719468) / 146097, y, m, dayOfYear - daysBeforeMonth m, hday.symm ▸ hyear, ?_, ?_, ?_,
    ?_⟩
  · omega
  · simp only [daysBeforeMonth]
    omega
  · omega
  · have hdate : ofDayNumber n =
        ⟨if (if m < 10 then m + 3 else m - 9) ≤ 2 then y + (n + 719468) / 146097 * 400 + 1
            else y + (n + 719468) / 146097 * 400,
          (if m < 10 then m + 3 else m - 9).toNat, (dayOfYear - daysBeforeMonth m + 1).toNat⟩ :=
      rfl
    have hspring : (if m < 10 then m + 3 else m - 9) ≤ 2 ↔ ¬ m < 10 := by
      split <;> omega
    rw [hdate]
    simp only [hspring, ite_not]

variable {n era y m k : Int}

theorem OnDay.dayNumber_eq (h : OnDay n era y m k) : (ofDayNumber n).dayNumber = n := by
  obtain ⟨hyear, hm, hk, hnumber, hdate⟩ := h
  have hera : (y + era * 400) / 400 = era ∧ (y + era * 400) % 400 = y := by
    have hnonneg := hyear.nonneg
    have hle := hyear.le
    omega
  have hday : ((k + 1).toNat : Int) = k + 1 := by omega
  simp only [daysBefore, daysBeforeMonth] at hnumber
  rcases Int.lt_or_le m 10 with hlt | hle
  · have hmonth : (((m + 3).toNat + 9) % 12 : Nat) = m := by omega
    have hspring : ¬ (m + 3).toNat ≤ 2 := by omega
    simp only [hdate, dayNumber, if_pos hlt, if_neg hspring, hera, hmonth, hday]
    omega
  · have hlt : ¬ m < 10 := Int.not_lt.2 hle
    have hmonth : (((m - 9).toNat + 9) % 12 : Nat) = m := by omega
    have hwinter : (m - 9).toNat ≤ 2 := by omega
    simp only [hdate, dayNumber, if_neg hlt, if_pos hwinter, Int.add_sub_cancel, hera, hmonth, hday]
    omega

/-- Leap years come again with every era. -/
theorem isLeapYear_add_era (y era : Int) : isLeapYear (y + era * 400) = isLeapYear y := by
  have hfour : (y + era * 400) % 4 = y % 4 := by omega
  have hhundred : (y + era * 400) % 100 = y % 100 := by omega
  have hera : (y + era * 400) % 400 = y % 400 := by omega
  simp only [isLeapYear, hfour, hhundred, hera]

theorem OnDay.isValid (h : OnDay n era y m k) : (ofDayNumber n).isValid = true := by
  obtain ⟨hyear, ⟨hm0, hm11⟩, hk, -, hdate⟩ := h
  rw [hdate]
  rcases Int.lt_or_le m 11 with hlt | hle
  · simp only [daysBeforeMonth] at hk
    interval_cases m
    all_goals
      simp [Date.isValid, daysInMonth]
      omega
  · -- February is the last month, so only it depends on the year
    obtain rfl : m = 11 := by omega
    have hleap : k = 28 → isLeapYear (y + era * 400 + 1) = true := by
      intro hlast
      rw [Int.add_right_comm, isLeapYear_add_era]
      refine hyear.leap ?_
      simp only [daysBeforeMonth]
      omega
    have hover := hyear.notOver
    simp only [daysBeforeMonth] at hover
    have hday : (k + 1).toNat ≤ if isLeapYear (y + era * 400 + 1) then 29 else 28 := by
      split
      · omega
      · have hne : k ≠ 28 := fun hlast => absurd (hleap hlast) ‹_›
        omega
    have hfirst : 1 ≤ (k + 1).toNat := by omega
    simp [Date.isValid, daysInMonth, hday, hfirst]

theorem dayNumber_ofDayNumber (n : Int) : (ofDayNumber n).dayNumber = n := by
  obtain ⟨era, y, m, k, h⟩ := exists_onDay n
  exact h.dayNumber_eq

theorem isValid_ofDayNumber (n : Int) : (ofDayNumber n).isValid = true := by
  obtain ⟨era, y, m, k, h⟩ := exists_onDay n
  exact h.isValid

theorem bounds_of_isValid {d : Date} (h : d.isValid = true) :
    (1 ≤ d.month ∧ d.month ≤ 12) ∧ 1 ≤ d.day ∧ d.day ≤ 31 := by
  have hlength : daysInMonth d.year d.month ≤ 31 := by
    unfold daysInMonth
    repeat' split
    all_goals
      decide
  simp only [isValid, Bool.and_eq_true, decide_eq_true_eq] at h
  omega

/-- The days of instants lie in the years of instants. -/
theorem year_ofDayNumber (hfirst : firstDay ≤ n) (hlast : n ≤ lastDay) :
    firstYear ≤ (ofDayNumber n).year ∧ (ofDayNumber n).year ≤ lastYear := by
  obtain ⟨era, y, m, k, hyear, hm, hk, hnumber, hdate⟩ := exists_onDay n
  have hfirstDay : firstDay = -96465292 := by decide
  have hlastDay : lastDay = 95026236 := by decide
  have hnonneg := hyear.nonneg
  have hle := hyear.le
  have hover := hyear.notOver
  simp only [daysBefore, daysBeforeMonth] at hk hnumber hover
  have hera : -656 ≤ era ∧ era ≤ 655 := by omega
  have hdays : era = -656 → 93808 ≤ 365 * y + y / 4 - y / 100 + (153 * m + 2) / 5 + k := by omega
  have hdays' : era = 655 → 365 * y + y / 4 - y / 100 + (153 * m + 2) / 5 + k ≤ 52169 := by omega
  rw [hdate, firstYear, lastYear]
  constructor
  · rcases Int.lt_or_le (-656) era with hlt | hle'
    · dsimp only
      split <;> omega
    · have := hdays (by omega)
      dsimp only
      split <;> omega
  · rcases Int.lt_or_le era 655 with hlt | hle'
    · dsimp only
      split <;> omega
    · have := hdays' (by omega)
      dsimp only
      split <;> omega

/-! ## Day numbers of dates -/

/-- The days from 0000-03-01 to the first of March of a year. -/
def daysBeforeYear (y : Int) : Int :=
  365 * y + y / 4 - y / 100 + y / 400

/-- The date is that of the day `k` of the month `m` from March of the year `y`, which begins in
March; days and months are counted from zero. -/
structure FromMarch (d : Date) (y m k : Int) : Prop where
  month : 0 ≤ m ∧ m ≤ 11
  day : 0 ≤ k
  inMonth : daysBeforeMonth m + k < daysBeforeMonth (m + 1)
  inYear : daysBeforeYear y + daysBeforeMonth m + k < daysBeforeYear (y + 1)
  date : d = ⟨if m < 10 then y else y + 1, (if m < 10 then m + 3 else m - 9).toNat, (k + 1).toNat⟩
  number : d.dayNumber = daysBeforeYear y + daysBeforeMonth m + k - 719468

theorem daysBeforeYear_succ (y : Int) :
    daysBeforeYear (y + 1) = daysBeforeYear y + (if isLeapYear (y + 1) then 366 else 365) := by
  simp only [daysBeforeYear, isLeapYear, Bool.and_eq_true, Bool.or_eq_true, decide_eq_true_eq]
  split <;> omega

theorem exists_fromMarch {d : Date} (h : d.isValid = true) : ∃ y m k, FromMarch d y m k := by
  have hbounds := bounds_of_isValid h
  obtain ⟨year, month, day⟩ := d
  dsimp only at hbounds
  obtain ⟨⟨hfirst, hlast⟩, hday, hlong⟩ := hbounds
  have hlength : day ≤ daysInMonth year month := by
    simp only [isValid, Bool.and_eq_true, decide_eq_true_eq] at h
    exact h.2
  refine ⟨if month ≤ 2 then year - 1 else year, ((month + 9) % 12 : Nat), day - 1, ?_⟩
  constructor
  case month => omega
  case day => omega
  case inMonth =>
    have hfebruary : (if isLeapYear year = true then 29 else 28) ≤ 29 := by
      split <;> decide
    simp only [daysBeforeMonth]
    interval_cases month
    all_goals
      simp [daysInMonth] at hlength ⊢
      omega
  case inYear =>
    rw [daysBeforeYear_succ, Int.add_assoc]
    refine Int.add_lt_add_left ?_ _
    simp only [daysBeforeMonth]
    rcases Nat.lt_trichotomy month 2 with hwinter | rfl | hspring
    · split <;> omega
    · -- February is the last month, so only it depends on the year
      have hyear : year - 1 + 1 = year := Int.sub_add_cancel year 1
      simp only [daysInMonth, if_true, Nat.le_refl, hyear] at hlength ⊢
      by_cases hleap : isLeapYear year = true
      · rw [if_pos hleap] at hlength ⊢
        omega
      · rw [if_neg hleap] at hlength ⊢
        omega
    · split <;> omega
  case date =>
    simp only [mk.injEq]
    refine ⟨?_, ?_, by omega⟩
    · split <;> split <;> omega
    · split <;> omega
  case number =>
    simp only [dayNumber, daysBeforeYear, daysBeforeMonth]
    omega

/-- The days before a year leave room for every year before it. -/
theorem daysBeforeYear_le {y y' : Int} (h : y < y') :
    daysBeforeYear (y + 1) ≤ daysBeforeYear y' := by
  simp only [daysBeforeYear]
  omega

theorem daysBeforeMonth_le {m m' : Int} (h : m < m') :
    daysBeforeMonth (m + 1) ≤ daysBeforeMonth m' := by
  simp only [daysBeforeMonth]
  omega

/-- Where steps go up, a number lies on one step only. -/
theorem eq_of_between {f : Int → Int} (steps : ∀ {a b}, a < b → f (a + 1) ≤ f b) {a b x : Int}
    (ha : f a ≤ x ∧ x < f (a + 1)) (hb : f b ≤ x ∧ x < f (b + 1)) : a = b := by
  rcases Int.lt_trichotomy a b with hlt | heq | hlt
  · have hroom := steps hlt
    omega
  · exact heq
  · have hroom := steps hlt
    omega

/-- Day numbers tell the year, the month and the day. -/
theorem FromMarch.unique {d d' : Date} {y y' m m' k k' : Int} (h : FromMarch d y m k)
    (h' : FromMarch d' y' m' k') (hnumber : d.dayNumber = d'.dayNumber) : d = d' := by
  obtain ⟨⟨hm, hm11⟩, hk, hmonth, hyear, hdate, hd⟩ := h
  obtain ⟨⟨hm', hm11'⟩, hk', hmonth', hyear', hdate', hd'⟩ := h'
  have hbegun : 0 ≤ daysBeforeMonth m ∧ 0 ≤ daysBeforeMonth m' := by
    simp only [daysBeforeMonth]
    omega
  have hsum : daysBeforeYear y' + daysBeforeMonth m' + k' =
      daysBeforeYear y + daysBeforeMonth m + k := by omega
  obtain rfl : y = y' :=
    eq_of_between daysBeforeYear_le ⟨by omega, hyear⟩ ⟨by omega, hsum ▸ hyear'⟩
  have hsum' : daysBeforeMonth m' + k' = daysBeforeMonth m + k := by omega
  obtain rfl : m = m' :=
    eq_of_between daysBeforeMonth_le ⟨by omega, hmonth⟩ ⟨by omega, hsum' ▸ hmonth'⟩
  obtain rfl : k = k' := by omega
  rw [hdate, hdate']

/-- Dates of the calendar are those of their day numbers. -/
theorem ofDayNumber_dayNumber {d : Date} (h : d.isValid = true) : ofDayNumber d.dayNumber = d := by
  obtain ⟨y, m, k, hd⟩ := exists_fromMarch h
  obtain ⟨y', m', k', hd'⟩ := exists_fromMarch (isValid_ofDayNumber d.dayNumber)
  exact hd'.unique hd (dayNumber_ofDayNumber d.dayNumber)

end Date
end FleetLifecycle
