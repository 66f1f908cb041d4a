import FleetLifecycle.Schedule.Window
import Mathlib.Data.Set.Lattice
import Mathlib.Data.Set.Function

/-!
# Open hours — one rule for all schedules

A schedule decides day by day whether its window is open, with exceptions for the days around a
weekend.  This file shows that the exceptions follow from one rule: a window opens on certain days,
and the hours after midnight belong to the day on which it opened.  Concretely, we:

1. say on which days a schedule opens (`Schedule.OpensOn`) and which local hours a window that
   opens on one day covers (`Window.Covers`);
2. reduce `Schedule.isOpen` to both, once for windows within a day and once for windows that run
   past midnight;
3. number the hours of the week and compare the open hours with the stretches of consecutive hours
   that begin on the opening days (`Window.stretch`).
-/

namespace FleetLifecycle

/-! ## Days -/

namespace Weekday

/-- The day before. -/
def previous : Weekday → Weekday
  | .sunday => .saturday
  | .monday => .sunday
  | .tuesday => .monday
  | .wednesday => .tuesday
  | .thursday => .wednesday
  | .friday => .thursday
  | .saturday => .friday

@[simp]
theorem next_previous (d : Weekday) : d.previous.next = d := by
  cases d <;> rfl

@[simp]
theorem previous_next (d : Weekday) : d.next.previous = d := by
  cases d <;> rfl

theorem eq_next_iff {d e : Weekday} : e = d.next ↔ d = e.previous := by
  constructor
  · rintro rfl
    exact (previous_next d).symm
  · rintro rfl
    exact (next_previous e).symm

theorem index_injective : Function.Injective index := by
  intro d e h
  -- the number of a day gives the day back
  have hd : some d = some e := by
    rw [← ofIndex?_index d, ← ofIndex?_index e, h]
  exact Option.some.inj hd

end Weekday

/-! ## Opening days and covered hours -/

/-- The days on which a window opens: every day, Monday to Friday, or the target day, if there is
one. -/
def Schedule.OpensOn (s : Schedule) (target : Option Weekday) (d : Weekday) : Prop :=
  match s with
  | .daily => True
  | .workdays => Weekday.monday.index ≤ d.index ∧ d.index ≤ Weekday.friday.index
  | .weekly => target = some d

namespace Window

/-- The local hours of a window that opens on a day: those of the day itself and, if the window
runs past midnight, the first hours of the next day. -/
def Covers (w : Window) (d : Weekday) (now : LocalHour) : Prop :=
  (now.day = d ∧ w.onHour ≤ now.hour ∧ (now.hour < w.offHour ∨ w.offHour < w.onHour)) ∨
    (w.offHour < w.onHour ∧ now.day = d.next ∧ now.hour < w.offHour)

theorem containsHour_of_wraps {w : Window} (h : w.offHour < w.onHour) (hour : UInt8) :
    w.containsHour hour = true ↔ w.onHour ≤ hour ∨ hour < w.offHour := by
  have hne : ¬ w.onHour = w.offHour := (UInt8.ne_of_lt h).symm
  simp only [containsHour, isEmpty, wraps, h, hne, decide_false, decide_true]
  simp only [Bool.false_eq_true, if_false, if_true, Bool.not_eq_true', Bool.and_eq_false_iff,
    decide_eq_false_iff_not, UInt8.not_le, UInt8.not_lt]
  exact Or.comm

theorem containsHour_of_lt {w : Window} (h : w.onHour < w.offHour) (hour : UInt8) :
    w.containsHour hour = true ↔ w.onHour ≤ hour ∧ hour < w.offHour := by
  have hne : ¬ w.onHour = w.offHour := UInt8.ne_of_lt h
  have hnw : ¬ w.offHour < w.onHour := UInt8.not_lt.2 (UInt8.le_of_lt h)
  simp [containsHour, isEmpty, wraps, hne, hnw]

theorem covers_of_lt {w : Window} (h : w.onHour < w.offHour) (d : Weekday) (now : LocalHour) :
    w.Covers d now ↔ now.day = d ∧ w.onHour ≤ now.hour ∧ now.hour < w.offHour := by
  have hnw : ¬ w.offHour < w.onHour := UInt8.not_lt.2 (UInt8.le_of_lt h)
  simp [Covers, hnw]

/-- Past midnight a window covers the late hours of one day and the early hours of the next. -/
theorem covers_of_wraps {w : Window} (h : w.offHour < w.onHour) (d : Weekday) (now : LocalHour) :
    w.Covers d now ↔
      (d = now.day ∧ w.onHour ≤ now.hour) ∨ (d = now.day.previous ∧ now.hour < w.offHour) := by
  -- both days are said of the day of the window
  simp only [Covers, h, or_true, and_true, true_and, Weekday.eq_next_iff]
  rw [eq_comm (a := now.day)]

end Window

namespace Schedule

/-! ## One rule for all schedules -/

theorem isOpen_of_isEmpty (s : Schedule) {w : Window} (h : w.onHour = w.offHour)
    (target : Option Weekday) (now : LocalHour) : s.isOpen w target now = false := by
  simp [isOpen, Window.isEmpty, h]

theorem isOpen_of_lt (s : Schedule) {w : Window} (h : w.onHour < w.offHour)
    (target : Option Weekday) (now : LocalHour) :
    s.isOpen w target now = true ↔
      s.OpensOn target now.day ∧ w.onHour ≤ now.hour ∧ now.hour < w.offHour := by
  have hne : ¬ w.onHour = w.offHour := UInt8.ne_of_lt h
  have hnw : ¬ w.offHour < w.onHour := UInt8.not_lt.2 (UInt8.le_of_lt h)
  have hhours := Window.containsHour_of_lt h now.hour
  simp only [isOpen, Window.isEmpty, Window.wraps, hne, hnw, decide_false, Bool.false_eq_true,
    if_false]
  cases s with
  | daily =>
    simpa [OpensOn] using hhours
  | workdays =>
    rw [Bool.and_eq_true, hhours, and_comm]
    have hday : now.day.isWorkday = true ↔ OpensOn .workdays target now.day := by
      cases now.day <;> simp [OpensOn, Weekday.isWorkday, Weekday.index]
    rw [hday]
  | weekly =>
    rw [Bool.and_eq_true, hhours, and_comm, decide_eq_true_iff]
    rfl

/-- A window past midnight is open late on the opening days and early on the days after them. -/
theorem isOpen_of_wraps (s : Schedule) {w : Window} (h : w.offHour < w.onHour)
    (target : Option Weekday) (now : LocalHour) :
    s.isOpen w target now = true ↔
      (s.OpensOn target now.day ∧ w.onHour ≤ now.hour) ∨
        (s.OpensOn target now.day.previous ∧ now.hour < w.offHour) := by
  have hne : ¬ w.onHour = w.offHour := (UInt8.ne_of_lt h).symm
  have hhours := Window.containsHour_of_wraps h now.hour
  simp only [isOpen, Window.isEmpty, Window.wraps, hne, h, decide_false, decide_true,
    Bool.false_eq_true, if_false, if_true]
  cases s with
  | daily =>
    simpa [OpensOn] using hhours
  | workdays =>
    -- each day by itself: `isOpen` has exceptions for Monday, Saturday and Sunday
    cases now.day <;>
      simp [OpensOn, Weekday.previous, Weekday.index, hhours]
  | weekly =>
    cases target with
    | none =>
      simp [OpensOn]
    | some d =>
      simp only [OpensOn, Bool.or_eq_true, Bool.and_eq_true, decide_eq_true_eq,
        Option.some.injEq, Weekday.eq_next_iff]
      rw [eq_comm (a := now.day)]

/-- A schedule is open exactly at the hours that a window opening on one of its days covers. -/
theorem isOpen_iff_covers (s : Schedule) (w : Window) (target : Option Weekday) (now : LocalHour) :
    s.isOpen w target now = true ↔
      w.onHour ≠ w.offHour ∧ ∃ d, s.OpensOn target d ∧ w.Covers d now := by
  -- within a day, past midnight, or empty
  rcases UInt8.lt_or_le w.onHour w.offHour with hlt | hle
  · have hne : w.onHour ≠ w.offHour := UInt8.ne_of_lt hlt
    rw [isOpen_of_lt s hlt]
    constructor
    · rintro ⟨hday, hhours⟩
      exact ⟨hne, now.day, hday, (Window.covers_of_lt hlt _ _).2 ⟨rfl, hhours⟩⟩
    · rintro ⟨-, d, hday, hcovers⟩
      rcases (Window.covers_of_lt hlt _ _).1 hcovers with ⟨rfl, hhours⟩
      exact ⟨hday, hhours⟩
  · rcases UInt8.lt_or_eq_of_le hle with hlt | heq
    · have hne : w.onHour ≠ w.offHour := (UInt8.ne_of_lt hlt).symm
      rw [isOpen_of_wraps s hlt]
      constructor
      · rintro (⟨hday, hhour⟩ | ⟨hday, hhour⟩)
        · exact ⟨hne, now.day, hday, (Window.covers_of_wraps hlt _ _).2 (.inl ⟨rfl, hhour⟩)⟩
        -- the early hours belong to the window that opened the day before
        · exact ⟨hne, now.day.previous, hday,
            (Window.covers_of_wraps hlt _ _).2 (.inr ⟨rfl, hhour⟩)⟩
      · rintro ⟨-, d, hday, hcovers⟩
        rcases (Window.covers_of_wraps hlt _ _).1 hcovers with ⟨rfl, hhour⟩ | ⟨rfl, hhour⟩
        · exact .inl ⟨hday, hhour⟩
        · exact .inr ⟨hday, hhour⟩
    · simp [isOpen_of_isEmpty s heq.symm, heq]

end Schedule

/-! ## The hours of the week -/

/-- The number of a local hour in its week, 0 for the first hour of Sunday. -/
def LocalHour.weekHour (t : LocalHour) : Nat :=
  t.day.index * 24 + t.hour.toNat

namespace LocalHour

theorem weekHour_injOn : Set.InjOn weekHour {t | t.hour < 24} := by
  intro t ht u hu h
  -- day and hour are quotient and remainder by 24
  have ht' : t.hour.toNat < 24 := UInt8.lt_iff_toNat_lt.1 ht
  have hu' : u.hour.toNat < 24 := UInt8.lt_iff_toNat_lt.1 hu
  simp only [weekHour] at h
  have hday : t.day = u.day := Weekday.index_injective (by omega)
  have hhour : t.hour = u.hour := UInt8.toNat_inj.1 (by omega)
  cases t
  cases u
  simp_all

/-- Every hour of the week is an hour of a clock on one of its days. -/
theorem exists_weekHour_eq {n : Nat} (h : n < 168) :
    ∃ t : LocalHour, t.hour < 24 ∧ t.weekHour = n := by
  -- the list of all days has each of them at its number
  have hday : n / 24 < Weekday.all.length := by
    change n / 24 < 7
    omega
  have hindex : ∀ i (hi : i < Weekday.all.length), (Weekday.all[i]).index = i := by
    decide
  have hhour : (UInt8.ofNat (n % 24)).toNat = n % 24 := by
    rw [UInt8.toNat_ofNat']
    omega
  refine ⟨⟨UInt8.ofNat (n % 24), Weekday.all[n / 24]⟩, ?_, ?_⟩
  · rw [UInt8.lt_iff_toNat_lt, hhour]
    exact Nat.mod_lt n (by decide)
  · simp only [weekHour, hindex, hhour]
    omega

end LocalHour

namespace Window

/-- How many hours a window is open: the distance on a clock from the first hour to the second. -/
def length (w : Window) : Nat :=
  (((w.offHour.toNat : Int) - w.onHour.toNat) % 24).toNat

/-- The consecutive hours of the week for which a window is open that opens on a day.  After the
last hour of the week comes its first. -/
def stretch (w : Window) (d : Weekday) : Set Nat :=
  {n | ∃ k < w.length, n = (LocalHour.weekHour ⟨w.onHour, d⟩ + k) % 168}

theorem covers_iff_toNat (w : Window) (d : Weekday) (now : LocalHour) :
    w.Covers d now ↔
      (now.day.index = d.index ∧ w.onHour.toNat ≤ now.hour.toNat ∧
          (now.hour.toNat < w.offHour.toNat ∨ w.offHour.toNat < w.onHour.toNat)) ∨
        (w.offHour.toNat < w.onHour.toNat ∧ now.day.index = (d.index + 1) % 7 ∧
          now.hour.toNat < w.offHour.toNat) := by
  rw [← Weekday.index_next, Weekday.index_injective.eq_iff, Weekday.index_injective.eq_iff]
  simp only [Covers, UInt8.lt_iff_toNat_lt, UInt8.le_iff_toNat_le]

theorem lt_of_mem_stretch {w : Window} {d : Weekday} {n : Nat} (h : n ∈ w.stretch d) :
    n < 168 := by
  rcases h with ⟨k, -, rfl⟩
  exact Nat.mod_lt _ (by decide)

/-- The stretch of a window consists of the hours that the window covers. -/
theorem weekHour_mem_stretch {w : Window} (hon : w.onHour < 24) (hoff : w.offHour < 24)
    (d : Weekday) {now : LocalHour} (hnow : now.hour < 24) :
    now.weekHour ∈ w.stretch d ↔ w.onHour ≠ w.offHour ∧ w.Covers d now := by
  have hon' : w.onHour.toNat < 24 := UInt8.lt_iff_toNat_lt.1 hon
  have hoff' : w.offHour.toNat < 24 := UInt8.lt_iff_toNat_lt.1 hoff
  have hnow' : now.hour.toNat < 24 := UInt8.lt_iff_toNat_lt.1 hnow
  have hd := d.index_lt
  have hday := now.day.index_lt
  -- in numbers the rest is arithmetic modulo 168
  rw [covers_iff_toNat, ← UInt8.toNat_inj.ne]
  simp only [stretch, length, LocalHour.weekHour, Set.mem_ofPred_eq]
  constructor
  · rintro ⟨k, hk, heq⟩
    omega
  · rintro ⟨hne, hcovers⟩
    -- the hours that have passed since the window opened
    refine ⟨(now.hour.toNat + 24 - w.onHour.toNat) % 24, ?_, ?_⟩
    · omega
    · omega

end Window

namespace Schedule

/-- A schedule is open exactly at the hours that a window opening on one of its days covers, and
in a week these are the stretches of consecutive hours that begin on its opening days. -/
theorem open_hours (s : Schedule) (w : Window) (target : Option Weekday) :
    (∀ now : LocalHour, s.isOpen w target now = true ↔
      w.onHour ≠ w.offHour ∧ ∃ d, s.OpensOn target d ∧ w.Covers d now) ∧
    (w.onHour < 24 → w.offHour < 24 →
      Set.BijOn LocalHour.weekHour {now | now.hour < 24 ∧ s.isOpen w target now = true}
        (⋃ d ∈ {d | s.OpensOn target d}, w.stretch d)) := by
  refine ⟨isOpen_iff_covers s w target, ?_⟩
  intro hon hoff
  -- among the hours of a clock the union of the stretches holds just the open ones
  have hmem : ∀ now : LocalHour, now.hour < 24 →
      (now.weekHour ∈ (⋃ d ∈ {d | s.OpensOn target d}, w.stretch d) ↔
        s.isOpen w target now = true) := by
    intro now hnow
    simp only [Set.mem_iUnion, Set.mem_ofPred_eq, exists_prop, isOpen_iff_covers,
      Window.weekHour_mem_stretch hon hoff _ hnow]
    tauto
  refine ⟨?_, ?_, ?_⟩
  · rintro now ⟨hnow, hopen⟩
    exact (hmem now hnow).2 hopen
  · exact LocalHour.weekHour_injOn.mono (fun now h => h.1)
  · intro n hn
    have hlt : n < 168 := by
      rcases Set.mem_iUnion₂.1 hn with ⟨d, -, hd⟩
      exact Window.lt_of_mem_stretch hd
    -- a number below 168 is an hour of a clock, to which the characterization applies
    rcases LocalHour.exists_weekHour_eq hlt with ⟨now, hnow, rfl⟩
    exact ⟨now, ⟨hnow, (hmem now hnow).1 hn⟩, rfl⟩

/-- The night from Saturday to Sunday, across the end of the week. -/
theorem open_hours_saturday_night :
    ((22 : UInt8) < 24 ∧ (4 : UInt8) < 24) ∧
      Set.BijOn LocalHour.weekHour
        {now | now.hour < 24 ∧ isOpen .weekly ⟨22, 4⟩ (some .saturday) now = true}
        (⋃ d ∈ {d | OpensOn .weekly (some .saturday) d}, Window.stretch ⟨22, 4⟩ d) :=
  ⟨⟨by decide, by decide⟩,
    (open_hours .weekly ⟨22, 4⟩ (some .saturday)).2 (by decide) (by decide)⟩

end Schedule
end FleetLifecycle
