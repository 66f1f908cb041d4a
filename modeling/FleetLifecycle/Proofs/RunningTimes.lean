import FleetLifecycle.Proofs.Gate

/-!
# Running times — a limit that has passed stays passed

The time between two instants counts a leap second only if it lies between their times of day, so
around a leap second the same machine can seem to have been running for less at a later instant.
Concretely, we:

1. write the time between two instants as a difference of clocks and a count of leap seconds
   (`Instant.elapsed_eq`);
2. show that it is only set back by leap seconds and for a moment
   (`Instant.leapSecond_of_elapsed_lt`), and by less than two seconds (`Instant.elapsed_lt_add`);
3. follow the time to whole seconds and milliseconds, none of which overflow;
4. conclude with `Policy.limit_persists`: a machine beyond a limit stays beyond it while no less
   time is counted, and a machine beyond a limit is beyond every smaller one.
-/

namespace FleetLifecycle

namespace Instant

/-! ## Clocks and leap seconds -/

/-- The instant lies in a leap second. -/
def InLeapSecond (t : Instant) : Prop :=
  secondNanos ≤ t.nanos

/-- The leap seconds between `start` and `t` that count beside the seconds of a clock. -/
def leapCount (t start : Instant) : Int :=
  if start.secondOfDay < t.secondOfDay ∧ secondNanos ≤ start.nanos then 1
  else if t.secondOfDay < start.secondOfDay ∧ secondNanos ≤ t.nanos then -1
  else 0

/-- The leap seconds that count are that of `start` at a later time of day, and less that of `t` at
an earlier one. -/
inductive Counts (start t : Instant) : Int → Prop where
  | gained (leap : 1000000000 ≤ start.nanos) (late : start.secondOfDay < t.secondOfDay) :
      Counts start t 1
  | lost (leap : 1000000000 ≤ t.nanos) (early : t.secondOfDay < start.secondOfDay) :
      Counts start t (-1)
  | none (gained : 1000000000 ≤ start.nanos → t.secondOfDay ≤ start.secondOfDay)
      (lost : 1000000000 ≤ t.nanos → start.secondOfDay ≤ t.secondOfDay) : Counts start t 0

theorem counts_leapCount (start t : Instant) : Counts start t (t.leapCount start) := by
  unfold leapCount
  split
  · next h =>
    exact .gained h.2 h.1
  · next hgained =>
    split
    · next h =>
      exact .lost h.2 h.1
    · next hlost =>
      simp only [secondNanos] at hgained hlost
      exact .none (by omega) (by omega)

/-- Where an instant lies in its day. -/
structure OnDay (t : Instant) : Prop where
  seconds : t.seconds = 86400 * t.dayNumber + t.secondOfDay
  nonneg : 0 ≤ t.secondOfDay
  lt : t.secondOfDay < 86400
  nanos : t.nanos < 2000000000

theorem onDay (t : Instant) : t.OnDay := by
  constructor
  case nanos =>
    exact t.fits.2.2
  all_goals
    simp only [dayNumber, secondOfDay, daySeconds]
    omega

theorem elapsed_eq (t start : Instant) :
    t.elapsed start = (t.seconds - start.seconds + t.leapCount start) * secondNanos +
      (t.nanos - start.nanos) := by
  have hclock : (t.dayNumber - start.dayNumber) * daySeconds +
      (t.secondOfDay - start.secondOfDay) = t.seconds - start.seconds := by
    rw [t.onDay.seconds, start.onDay.seconds, daySeconds]
    omega
  rw [← hclock]
  rfl

/-- The time between two instants is the difference of their clocks and the leap seconds that
count. -/
theorem exists_counts (t start : Instant) :
    ∃ leaps, Counts start t leaps ∧
      t.elapsed start = (t.seconds - start.seconds + leaps) * 1000000000 +
        (t.nanos - start.nanos) :=
  ⟨t.leapCount start, counts_leapCount start t, elapsed_eq t start⟩

variable {start t u : Instant}

/-! ## Times that are set back -/

/-- Less time is counted at a later instant only if one of the three lies in a leap second, and
only for a moment. -/
theorem leapSecond_of_elapsed_lt (h : t ≤ u) (hlt : u.elapsed start < t.elapsed start) :
    (start.InLeapSecond ∨ t.InLeapSecond ∨ u.InLeapSecond) ∧ u.seconds < t.seconds + 3 := by
  have hle : t.seconds < u.seconds ∨ t.seconds = u.seconds ∧ t.nanos ≤ u.nanos := h
  have htnanos := t.onDay.nanos
  obtain ⟨m, hucount, hm⟩ := u.exists_counts start
  obtain ⟨n, htcount, hn⟩ := t.exists_counts start
  rw [hm, hn] at hlt
  simp only [InLeapSecond, secondNanos]
  cases hucount <;> cases htcount <;> omega

/-- Leap seconds never cost a later instant two seconds. -/
theorem elapsed_lt_add (h : t ≤ u) :
    t.elapsed start < u.elapsed start + 2 * secondNanos := by
  have hle : t.seconds < u.seconds ∨ t.seconds = u.seconds ∧ t.nanos ≤ u.nanos := h
  obtain ⟨ht, ht0, ht1, htnanos⟩ := t.onDay
  obtain ⟨hu, hu0, hu1, hunanos⟩ := u.onDay
  obtain ⟨m, hucount, hm⟩ := u.exists_counts start
  obtain ⟨n, htcount, hn⟩ := t.exists_counts start
  rw [hm, hn, secondNanos]
  cases hucount <;> cases htcount <;> omega

/-! ## Whole seconds and milliseconds -/

/-- The seconds between two instants fit a word. -/
theorem elapsed_lt_word (t start : Instant) :
    (t.elapsed start).toNat / secondNanos < UInt64.size := by
  have hfirst : firstDay = -96465292 := by decide
  have hlast : lastDay = 95026236 := by decide
  obtain ⟨-, ht, -⟩ := t.fits
  obtain ⟨hs, -, -⟩ := start.fits
  have hnanos := t.onDay.nanos
  obtain ⟨n, hcount, helapsed⟩ := t.exists_counts start
  have hn : n ≤ 1 := by
    cases hcount <;> decide
  rw [hlast, daySeconds] at ht
  rw [hfirst, daySeconds] at hs
  rw [helapsed]
  simp only [secondNanos, UInt64.size]
  omega

/-- Time that is negative is none at all. -/
theorem since_eq (t start : Instant) : t.since start = .ofNanos (t.elapsed start).toNat := by
  simp only [since]
  split
  · next hneg =>
    have hzero : (t.elapsed start).toNat = 0 := Int.toNat_of_nonpos (Int.le_of_lt hneg)
    rw [hzero]
    rfl
  · rfl

theorem toNat_secs_since (t start : Instant) :
    (t.since start).secs.toNat = (t.elapsed start).toNat / secondNanos := by
  rw [since_eq]
  exact UInt64.toNat_ofNat_of_lt (elapsed_lt_word t start)

theorem toNat_nanos_since (t start : Instant) :
    (t.since start).nanos.toNat = (t.elapsed start).toNat % secondNanos := by
  rw [since_eq]
  have hlt : (t.elapsed start).toNat % secondNanos < secondNanos := Nat.mod_lt _ (by decide)
  exact UInt32.toNat_ofNat_of_lt (Nat.lt_trans hlt (by decide))

theorem millis_since (t start : Instant) :
    (t.since start).millis = (t.elapsed start).toNat / 1000000 := by
  rw [Elapsed.millis, toNat_secs_since, toNat_nanos_since, secondNanos]
  omega

theorem secs_since_le (h : t.elapsed start ≤ u.elapsed start) :
    (t.since start).secs ≤ (u.since start).secs := by
  rw [UInt64.le_iff_toNat_le, toNat_secs_since, toNat_secs_since]
  exact Nat.div_le_div_right (Int.toNat_le_toNat h)

theorem millis_since_le (h : t.elapsed start ≤ u.elapsed start) :
    (t.since start).millis ≤ (u.since start).millis := by
  rw [millis_since, millis_since]
  exact Nat.div_le_div_right (Int.toNat_le_toNat h)

end Instant

/-! ## Limits on machines -/

namespace Policy

variable {p : Policy} {a : Action} {hours : UInt32}

/-- A machine accepts every kind of policy. -/
theorem isAcceptedBy_machine (p : Policy) (m : ComputeInstance) (t : Instant) :
    p.kind.isAcceptedBy ((Resource.compute m).observe t).capabilities = true := by
  cases p.kind <;> rfl

/-- What a limit asks for about a machine that has been running since its launch. -/
theorem decide_running {m : ComputeInstance} {launch : Instant} (running : m.state = "running")
    (launched : m.launchTime = some launch) (limit : p.HasLimit a hours) (t : Instant)
    (now : LocalHour) :
    p.decide ((Resource.compute m).observe t) now =
      if hours.toNat * hourMillis < (t.since launch).millis then
        ⟨a, .limitExceeded (t.since launch).secs hours⟩
      else .none (.withinLimit hours) := by
  have hobserved : ((Resource.compute m).observe t).runningFor = some (t.since launch) := by
    simp [Resource.observe, Resource.runningFor, Resource.runState, Resource.readState,
      Resource.stateText, Resource.resourceClass, Resource.runningText, Resource.launchedAt,
      RunState.isRunning, running, launched]
  rw [decide_of_hasLimit limit (isAcceptedBy_machine p m t), Decision.pastLimit, hobserved]
  simp [isBeyondLimit]

/-- The limit has passed if and only if the decision says so. -/
theorem reason_decide_running_iff {m : ComputeInstance} {launch : Instant}
    (running : m.state = "running") (launched : m.launchTime = some launch)
    (limit : p.HasLimit a hours) (t : Instant) (now : LocalHour) {secs : UInt64}
    {reported : UInt32} :
    (p.decide ((Resource.compute m).observe t) now).reason = .limitExceeded secs reported ↔
      hours.toNat * hourMillis < (t.since launch).millis ∧ (t.since launch).secs = secs ∧
        hours = reported := by
  rw [decide_running running launched limit]
  split
  · next h =>
    simp [h]
  · next h =>
    simp [h, Decision.none]

/-- A machine beyond a limit is beyond it whenever no less time is counted since its launch: the
action is the same and the reported seconds are no fewer.  At a later instant less is counted only
if this, the earlier one or the launch lies in a leap second, within three seconds, and it is less
by under two seconds.  At one instant, a machine beyond a limit is beyond every smaller one. -/
theorem limit_persists (m : ComputeInstance) (launch : Instant) (running : m.state = "running")
    (launched : m.launchTime = some launch) (p : Policy) (a : Action) (hours : UInt32)
    (limit : p.HasLimit a hours) :
    (∀ (t u : Instant) (now now' : LocalHour) (secs : UInt64) (reported : UInt32),
      ¬ u.elapsed launch < t.elapsed launch →
        (p.decide ((Resource.compute m).observe t) now).reason = .limitExceeded secs reported →
          (p.decide ((Resource.compute m).observe t) now).action = a ∧
          ∃ secs', secs ≤ secs' ∧
            p.decide ((Resource.compute m).observe u) now' =
              ⟨a, .limitExceeded secs' reported⟩) ∧
    (∀ t u : Instant, t ≤ u → u.elapsed launch < t.elapsed launch →
      (launch.InLeapSecond ∨ t.InLeapSecond ∨ u.InLeapSecond) ∧ u.seconds < t.seconds + 3 ∧
        t.elapsed launch < u.elapsed launch + 2 * secondNanos) ∧
    ∀ (t : Instant) (now : LocalHour) (secs : UInt64) (reported : UInt32),
      (p.decide ((Resource.compute m).observe t) now).reason = .limitExceeded secs reported →
        ∀ (p' : Policy) (a' : Action) (fewer : UInt32), p'.HasLimit a' fewer → fewer ≤ hours →
          p'.decide ((Resource.compute m).observe t) now = ⟨a', .limitExceeded secs fewer⟩ := by
  refine ⟨?_, ?_, ?_⟩
  · intro t u now now' secs reported calm hreason
    obtain ⟨hpast, rfl, rfl⟩ := (reason_decide_running_iff running launched limit t now).1 hreason
    have hle : t.elapsed launch ≤ u.elapsed launch := Int.not_lt.1 calm
    have hstill : hours.toNat * hourMillis < (u.since launch).millis :=
      Nat.lt_of_lt_of_le hpast (Instant.millis_since_le hle)
    refine ⟨?_, (u.since launch).secs, Instant.secs_since_le hle, ?_⟩
    · rw [decide_running running launched limit, if_pos hpast]
    · rw [decide_running running launched limit, if_pos hstill]
  · intro t u h hless
    obtain ⟨hleap, hsoon⟩ := Instant.leapSecond_of_elapsed_lt h hless
    exact ⟨hleap, hsoon, Instant.elapsed_lt_add h⟩
  · intro t now secs reported hreason p' a' fewer limit' hfewer
    obtain ⟨hpast, rfl, -⟩ := (reason_decide_running_iff running launched limit t now).1 hreason
    have hpast' : fewer.toNat * hourMillis < (t.since launch).millis :=
      Nat.lt_of_le_of_lt (Nat.mul_le_mul_right _ (UInt32.le_iff_toNat_le.1 hfewer)) hpast
    rw [decide_running running launched limit', if_pos hpast']

/-- The leap second at the end of 2016, when half of it has passed. -/
def leapSecond : Instant := ⟨1483228799, 1500000000, by decide⟩

/-- A machine that was launched an hour before 2017. -/
def eveMachine : ComputeInstance :=
  ⟨"i-build", "running", some ⟨1483225200, 0, by decide⟩, Tags.empty⟩

theorem hasLimit_stop : (parse "limit-stop:1").HasLimit .stop 1 :=
  ⟨.stop (by decide), eq_ok_of_toOption (by decide +kernel)⟩

/-- A machine that is beyond its limit in a leap second is beyond it a second after midnight, and
beyond a limit of no hours at all. -/
theorem limit_persists_leapSecond :
    let launch : Instant := ⟨1483225200, 0, by decide⟩
    let later : Instant := ⟨1483228801, 0, by decide⟩
    let now : LocalHour := ⟨23, .saturday⟩
    let now' : LocalHour := ⟨0, .sunday⟩
    let notice := parse "limit-email:0/ops@example.com"
    eveMachine.state = "running" ∧ eveMachine.launchTime = some launch ∧
      (parse "limit-stop:1").HasLimit .stop 1 ∧
      ¬ later.elapsed launch < leapSecond.elapsed launch ∧
      ((parse "limit-stop:1").decide ((Resource.compute eveMachine).observe leapSecond)
        now).reason = .limitExceeded 3600 1 ∧
      (∃ secs, 3600 ≤ secs ∧
        (parse "limit-stop:1").decide ((Resource.compute eveMachine).observe later) now' =
          ⟨.stop, .limitExceeded secs 1⟩) ∧
      notice.HasLimit (.email "ops@example.com") 0 ∧
      notice.decide ((Resource.compute eveMachine).observe leapSecond) now =
        ⟨.email "ops@example.com", .limitExceeded 3600 0⟩ := by
  intro launch later now now' notice
  have hcalm : ¬ later.elapsed launch < leapSecond.elapsed launch := by
    decide
  have hreason : ((parse "limit-stop:1").decide
      ((Resource.compute eveMachine).observe leapSecond) now).reason = .limitExceeded 3600 1 := by
    decide +kernel
  have hnotice : notice.HasLimit (.email "ops@example.com") 0 :=
    ⟨.email (by decide) (eq_ok_of_toOption (by decide +kernel)),
      eq_ok_of_toOption (by decide +kernel)⟩
  obtain ⟨persists, -, smaller⟩ := limit_persists eveMachine launch rfl rfl _ _ _ hasLimit_stop
  exact ⟨rfl, rfl, hasLimit_stop, hcalm, hreason,
    (persists _ _ now now' _ _ hcalm hreason).2, hnotice,
    smaller _ now _ _ hreason notice _ _ hnotice (by decide)⟩

/-- At midnight the leap second is over, and the same machine is no longer beyond its limit. -/
theorem limit_lifted_after_leapSecond :
    let midnight : Instant := ⟨1483228800, 0, by decide⟩
    eveMachine.state = "running" ∧ (parse "limit-stop:1").HasLimit .stop 1 ∧
      leapSecond ≤ midnight ∧
      (parse "limit-stop:1").decide ((Resource.compute eveMachine).observe leapSecond)
        ⟨23, .saturday⟩ = ⟨.stop, .limitExceeded 3600 1⟩ ∧
      (parse "limit-stop:1").decide ((Resource.compute eveMachine).observe midnight)
        ⟨0, .sunday⟩ = .none (.withinLimit 1) := by
  intro midnight
  exact ⟨rfl, hasLimit_stop, .inl (by decide), by decide +kernel, by decide +kernel⟩

end Policy
end FleetLifecycle
