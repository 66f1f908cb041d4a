import FleetLifecycle.Proofs.CalendarDates
import FleetLifecycle.Proofs.Numerals
import FleetLifecycle.Proofs.Payloads
import FleetLifecycle.Proofs.RunningTimes
import FleetLifecycle.Zone.America

/-!
# Snapshot names — when the name of a snapshot comes back

The name of a snapshot is stamped with the minute that clocks in the configured zone show, and
clocks that are set back show some minutes twice.  Concretely, we:

1. show that a stamp determines date, hour and minute (`LocalTime.minuteStamp_eq_iff`), and hence
   the minute that a wall clock has reached (`LocalTime.minuteStamp_ofSeconds_eq_iff`);
2. show that no resource takes the name of another one's snapshot, whatever the ids look like
   (`snapshotName_inj`, `Settings.snapshots_told_apart`);
3. count the seconds of a clock between instants that are a minute apart
   (`Instant.seconds_of_minute_le`);
4. conclude with `Settings.snapshotId_eq_iff`: names are the same exactly if clocks show the same
   minute, and that takes clocks that are set back, or a leap second.
-/

namespace FleetLifecycle

/-! ## Stamps -/

namespace LocalTime

open Text

/-- The sign of a year that does not lie between 0 and 9999. -/
def yearSign (year : Int) : List Char :=
  if year < 0 then ['-'] else if 9999 < year then ['+'] else []

theorem yearSign_eq_minus_iff {year : Int} : yearSign year = ['-'] ↔ year < 0 := by
  unfold yearSign
  split
  · next hneg =>
    simp [hneg]
  · next hpos =>
    split <;> simp [hpos]

theorem yearDigits_eq (year : Int) :
    yearDigits year = yearSign year ++ padded 4 year.natAbs := by
  unfold yearDigits yearSign
  repeat' split
  all_goals
    rfl

theorem takeWhile_yearDigits (year : Int) (rest : List Char) :
    (yearDigits year ++ rest).takeWhile (fun c => !c.isDigit) = yearSign year := by
  obtain ⟨d, ds, hdigits⟩ := List.exists_cons_of_ne_nil (padded_ne_nil 4 year.natAbs)
  have hd : d.isDigit = true := isDigit_of_mem_padded (hdigits ▸ List.mem_cons_self)
  rw [yearDigits_eq, hdigits, yearSign]
  repeat' split
  all_goals
    simp [hd]

theorem yearDigits_append_inj {year year' : Int} {rest rest' : List Char} (hrest : NoDigit rest)
    (hrest' : NoDigit rest') (h : yearDigits year ++ rest = yearDigits year' ++ rest') :
    year = year' ∧ rest = rest' := by
  have hsign : yearSign year = yearSign year' := by
    rw [← takeWhile_yearDigits year rest, h, takeWhile_yearDigits]
  rw [yearDigits_eq, yearDigits_eq, hsign, List.append_assoc, List.append_assoc,
    List.append_right_inj] at h
  obtain ⟨habs, hafter⟩ := padded_append_inj hrest hrest' h
  refine ⟨?_, hafter⟩
  -- the sign tells a year from the one on the other side of zero
  have hneg : year < 0 ↔ year' < 0 := by
    rw [← yearSign_eq_minus_iff, hsign, yearSign_eq_minus_iff]
  omega

/-- A stamp determines date, hour and minute. -/
theorem minuteStamp_eq_iff {a b : LocalTime} :
    a.minuteStamp = b.minuteStamp ↔ a.date = b.date ∧ a.hour = b.hour ∧ a.minute = b.minute := by
  constructor
  · intro h
    have hyphen : ∀ rest, NoDigit ('-' :: rest) := fun rest => noDigit_cons rfl
    have htext := String.ofList_injective h
    simp only [dateDigits, List.append_assoc, List.cons_append] at htext
    obtain ⟨hyear, htext⟩ := yearDigits_append_inj (hyphen _) (hyphen _) htext
    obtain ⟨hmonth, htext⟩ := padded_append_inj (hyphen _) (hyphen _) (List.cons.inj htext).2
    obtain ⟨hday, htext⟩ := padded_append_inj (hyphen _) (hyphen _) (List.cons.inj htext).2
    obtain ⟨hhour, htext⟩ := padded_append_inj (hyphen _) (hyphen _) (List.cons.inj htext).2
    rw [← List.append_nil (padded 2 a.minute), ← List.append_nil (padded 2 b.minute)] at htext
    obtain ⟨hminute, -⟩ := padded_append_inj noDigit_nil noDigit_nil (List.cons.inj htext).2
    have hdate : a.date = b.date := by
      rcases hb : b.date with ⟨year, month, day⟩
      rcases ha : a.date with ⟨year', month', day'⟩
      simp only [ha, hb] at hyear hmonth hday
      rw [hyear, hmonth, hday]
    exact ⟨hdate, hhour, hminute⟩
  · rintro ⟨hdate, hhour, hminute⟩
    simp only [minuteStamp, dateDigits, hdate, hhour, hminute]

/-- Stamps are the same in the same minute since 1970-01-01 on the wall. -/
theorem minuteStamp_ofSeconds_eq_iff {x y : Int} {m n : Nat} :
    (ofSeconds x m).minuteStamp = (ofSeconds y n).minuteStamp ↔ x / 60 = y / 60 := by
  rw [minuteStamp_eq_iff]
  simp only [ofSeconds, daySeconds]
  constructor
  · rintro ⟨hdate, hhour, hminute⟩
    have hday := congrArg Date.dayNumber hdate
    rw [Date.dayNumber_ofDayNumber, Date.dayNumber_ofDayNumber] at hday
    omega
  · intro h
    have hday : x / 86400 = y / 86400 := by omega
    have hminutes : (x % 86400).toNat / 60 = (y % 86400).toNat / 60 := by omega
    refine ⟨congrArg Date.ofDayNumber hday, ?_, congrArg (· % 60) hminutes⟩
    omega

/-- A stamp is made of digits, hyphens and the sign of a year. -/
theorem mem_minuteStamp {t : LocalTime} {c : Char} (h : c ∈ t.minuteStamp.toList) :
    c.isDigit = true ∨ c = '-' ∨ c = '+' := by
  have hpadded : ∀ {width n}, c ∈ padded width n → c.isDigit = true := isDigit_of_mem_padded
  have hyear : c ∈ yearDigits t.date.year → c.isDigit = true ∨ c = '-' ∨ c = '+' := by
    rw [yearDigits_eq, yearSign, List.mem_append]
    rintro (hsign | hdigit)
    · split at hsign
      · exact .inr (.inl (List.mem_singleton.1 hsign))
      · split at hsign
        · exact .inr (.inr (List.mem_singleton.1 hsign))
        · exact absurd hsign List.not_mem_nil
    · exact .inl (hpadded hdigit)
  simp only [minuteStamp, dateDigits, String.toList_ofList, List.mem_append, List.mem_cons] at h
  tauto

end LocalTime

/-! ## Ids and stamps -/

/-- A text can be cut where a character stands for the last time. -/
theorem Text.append_cons_inj_of_last {c : Char} {before before' after after' : List Char}
    (hlast : c ∉ after) (hlast' : c ∉ after') :
    before ++ c :: after = before' ++ c :: after' ↔ before = before' ∧ after = after' := by
  constructor
  · intro h
    -- whatever the longer text before has on top of the shorter would hold the character again
    rcases List.append_eq_append_iff.1 h with ⟨more, rfl, hmore⟩ | ⟨more, rfl, hmore⟩
    all_goals
      cases more with
      | nil =>
        simp_all
      | cons d more =>
        obtain ⟨-, rfl⟩ := List.cons.inj hmore
        simp at hlast hlast'
  · rintro ⟨rfl, rfl⟩
    rfl

/-- The name of a snapshot determines the id of the resource and the stamp, even if the id holds
what separates them, or looks like the name of a snapshot itself. -/
theorem snapshotName_inj {id id' : String} {a b : LocalTime} :
    snapshotName id a = snapshotName id' b ↔ id = id' ∧ a.minuteStamp = b.minuteStamp := by
  -- the last letter of a name is that of the separator, since a stamp has none
  have hletter : ∀ t : LocalTime, 'e' ∉ '-' :: t.minuteStamp.toList := by
    intro t hmem
    rcases List.mem_cons.1 hmem with hyphen | hstamp
    · exact absurd hyphen (by decide)
    · exact absurd (LocalTime.mem_minuteStamp hstamp) (by decide)
  have hname : ∀ (id : String) (t : LocalTime), (snapshotName id t).toList =
      (id.toList ++ "-lifecycl".toList) ++ 'e' :: '-' :: t.minuteStamp.toList := by
    simp [snapshotName]
  rw [← String.toList_inj, hname, hname, Text.append_cons_inj_of_last (hletter a) (hletter b),
    List.append_left_inj, List.cons_inj_right, String.toList_inj, String.toList_inj]

theorem snapshotName_eq_iff {id : String} {a b : LocalTime} :
    snapshotName id a = snapshotName id b ↔ a.minuteStamp = b.minuteStamp := by
  simp [snapshotName]

/-! ## Minutes on the wall -/

/-- The minutes since the midnight of 1970-01-01 that a wall clock in the zone shows. -/
def Zone.wallMinute (z : Zone) (t : Instant) : Int :=
  (t.seconds + z.offsetAt t.seconds) / 60

theorem Zone.minuteStamp_localTime_eq_iff {z : Zone} {t u : Instant} :
    (z.localTime t).minuteStamp = (z.localTime u).minuteStamp ↔ z.wallMinute t = z.wallMinute u :=
  LocalTime.minuteStamp_ofSeconds_eq_iff

/-- A minute after an instant a clock has run on by sixty seconds, or the minute that the instant
began ends in a leap second. -/
theorem Instant.seconds_of_minute_le {t u : Instant} (h : 60 * secondNanos ≤ u.elapsed t) :
    t.seconds + 60 ≤ u.seconds ∨ u.InLeapSecond ∧ u.seconds = t.seconds + 59 := by
  obtain ⟨ht, ht0, ht1, htnanos⟩ := t.onDay
  obtain ⟨hu, hu0, hu1, hunanos⟩ := u.onDay
  obtain ⟨n, hcount, hn⟩ := u.exists_counts t
  rw [hn, secondNanos] at h
  simp only [InLeapSecond, secondNanos]
  cases hcount with
  | gained leap late =>
    omega
  | lost leap early =>
    omega
  | none gained lost =>
    omega

/-- A clock that shows the same minute a minute later has been set back, or a leap second has been
inserted at the end of that minute. -/
theorem Zone.offsetAt_lt_of_wallMinute_eq {z : Zone} {t u : Instant}
    (apart : 60 * secondNanos ≤ u.elapsed t) (same : z.wallMinute t = z.wallMinute u) :
    z.offsetAt u.seconds < z.offsetAt t.seconds ∨
      u.InLeapSecond ∧ u.seconds = t.seconds + 59 := by
  rcases Instant.seconds_of_minute_le apart with hlater | hleap
  · left
    simp only [wallMinute] at same
    omega
  · exact .inr hleap

/-! ## Names of snapshots -/

namespace Settings

variable {s : Settings} {r : Resource} {id : CycleId} {t : Instant} {req : ActionRequest}
  {name : String}

theorem snapshotId_of_evaluate (h : s.evaluate r (s.beginCycle id t) = some req)
    (hname : req.snapshotId = some name) : name = snapshotName r.id (s.zone.localTime t) := by
  rcases exists_tag_of_evaluate h with ⟨tag, -, rfl⟩
  rw [request_snapshotId, snapshotFor_eq_some_iff] at hname
  exact hname.2.symm

/-- A request for a snapshot is named after the resource and the time that clocks show. -/
theorem snapshotId_of_mem_requests {fleet : List Resource}
    (h : req ∈ (s.evaluateFleet id fleet t).requests) (hname : req.snapshotId = some name) :
    name = snapshotName req.resourceId (s.zone.localTime t) := by
  obtain ⟨r, -, hreq⟩ := List.mem_filterMap.1 h
  rw [snapshotId_of_evaluate hreq hname]
  obtain ⟨tag, -, rfl⟩ := exists_tag_of_evaluate hreq
  rfl

/-- The name of a snapshot determines the resource that it is taken of and the minute that clocks
show then, for ids of any characters and in every year.  So within a cycle no two resources are
given one name. -/
theorem snapshots_told_apart :
    (∀ (id id' : String) (a b : LocalTime), snapshotName id a = snapshotName id' b ↔
      id = id' ∧ a.date = b.date ∧ a.hour = b.hour ∧ a.minute = b.minute) ∧
    ∀ (s : Settings) (id : CycleId) (fleet : List Resource) (t : Instant),
      ∀ req ∈ (s.evaluateFleet id fleet t).requests,
        ∀ req' ∈ (s.evaluateFleet id fleet t).requests, req.resourceId ≠ req'.resourceId →
          ∀ name, req.snapshotId = some name → req'.snapshotId ≠ some name := by
  constructor
  · intro id id' a b
    rw [snapshotName_inj, LocalTime.minuteStamp_eq_iff]
  · intro s id fleet t req hreq req' hreq' hne name hname hname'
    have hsame : snapshotName req.resourceId (s.zone.localTime t) =
        snapshotName req'.resourceId (s.zone.localTime t) :=
      (snapshotId_of_mem_requests hreq hname).symm.trans (snapshotId_of_mem_requests hreq' hname')
    exact hne (snapshotName_inj.1 hsame).1

/-- One database is called like the snapshot of another.  Both are stopped at half past one, and
the names of their snapshots differ. -/
theorem snapshots_told_apart_stamped :
    let s := { Settings.default with zone := Zone.newYork }
    let pinned (identifier : String) : Resource :=
      .database ⟨identifier, none, "available", none,
        Tags.ofList [("lifecycle-policy", "always-off")]⟩
    let stamped := "reports-lifecycle-2025-11-02-01-30"
    let fleet := [pinned "reports", pinned stamped]
    ∃ req ∈ (s.evaluateFleet .zero fleet ⟨1762061400, 0, by decide⟩).requests,
      ∃ req' ∈ (s.evaluateFleet .zero fleet ⟨1762061400, 0, by decide⟩).requests,
        req.resourceId = "reports" ∧ req'.resourceId = stamped ∧ req.snapshotId = some stamped ∧
          req'.snapshotId ≠ some stamped := by
  intro s pinned stamped fleet
  obtain ⟨req, hreq, req', hreq', hid, hid', hname⟩ :
      ∃ req ∈ (s.evaluateFleet .zero fleet ⟨1762061400, 0, by decide⟩).requests,
        ∃ req' ∈ (s.evaluateFleet .zero fleet ⟨1762061400, 0, by decide⟩).requests,
          req.resourceId = "reports" ∧ req'.resourceId = stamped ∧
            req.snapshotId = some stamped := by
    decide +kernel
  have hne : req.resourceId ≠ req'.resourceId := by
    rw [hid, hid']
    decide
  exact ⟨req, hreq, req', hreq', hid, hid', hname,
    snapshots_told_apart.2 s .zero fleet _ req hreq req' hreq' hne stamped hname⟩

/-- Names of two snapshots of a resource, taken with one configuration and at least a minute apart,
are the same if and only if clocks in the configured zone show the same minute at both instants.
That takes clocks that have been set back in between, or an instant within the leap second at the
end of the minute that the earlier one began. -/
theorem snapshotId_eq_iff (s : Settings) (r r' : Resource) (same : r'.id = r.id)
    (id id' : CycleId) (t u : Instant) (apart : 60 * secondNanos ≤ u.elapsed t)
    (req req' : ActionRequest) (evaluated : s.evaluate r (s.beginCycle id t) = some req)
    (evaluated' : s.evaluate r' (s.beginCycle id' u) = some req') (name name' : String)
    (named : req.snapshotId = some name) (named' : req'.snapshotId = some name') :
    (name = name' ↔ s.zone.wallMinute t = s.zone.wallMinute u) ∧
      (name = name' → s.zone.offsetAt u.seconds < s.zone.offsetAt t.seconds ∨
        u.InLeapSecond ∧ u.seconds = t.seconds + 59) := by
  have hnames : name = name' ↔ s.zone.wallMinute t = s.zone.wallMinute u := by
    rw [snapshotId_of_evaluate evaluated named, snapshotId_of_evaluate evaluated' named', same,
      snapshotName_eq_iff, Zone.minuteStamp_localTime_eq_iff]
  refine ⟨hnames, ?_⟩
  intro heq
  exact Zone.offsetAt_lt_of_wallMinute_eq apart (hnames.1 heq)

/-- A database that runs and is always to be stopped. -/
def pinnedDatabase : Resource :=
  .database ⟨"db-reports", none, "available", none,
    Tags.ofList [("lifecycle-policy", "always-off")]⟩

/-- The settings of one who gives nothing but a zone. -/
def inZone (z : Zone) : Settings :=
  { Settings.default with zone := z }

/-- In any zone and at any instant it is stopped and saved. -/
theorem evaluate_pinnedDatabase (z : Zone) (id : CycleId) (t : Instant) :
    ∃ req, (inZone z).evaluate pinnedDatabase ((inZone z).beginCycle id t) = some req ∧
      req.action = .stop ∧ req.snapshotId = some (snapshotName "db-reports" (z.localTime t)) := by
  have htag : pinnedDatabase.tags.get? (inZone z).policyTag = some "always-off" := by
    change pinnedDatabase.tags.get? "lifecycle-policy" = some "always-off"
    decide
  have hgate : (inZone z).gate.isUnaddressable pinnedDatabase.tags = false := by
    change Settings.default.gate.isUnaddressable pinnedDatabase.tags = false
    decide
  have haction : ((inZone z).request pinnedDatabase (Policy.parse "always-off")
      ((inZone z).beginCycle id t)).action = .stop := by
    rw [request_action, Resource.proposal_alwaysOff (by decide), GateTags.apply, hgate,
      Bool.and_false]
    rfl
  refine ⟨_, evaluate_eq_some htag, haction, ?_⟩
  rw [request_snapshotId, haction]
  exact snapshotFor_eq_some_iff.2 ⟨⟨rfl, rfl, rfl⟩, rfl⟩

/-- An hour later on a day without a change of clocks the name is another one. -/
theorem snapshotId_eq_iff_in_autumn :
    let s := inZone Zone.newYork
    let night : Instant := ⟨1761975000, 0, by decide⟩
    let later : Instant := ⟨1761978600, 0, by decide⟩
    60 * secondNanos ≤ later.elapsed night ∧ ∃ req req' name name',
      s.evaluate pinnedDatabase (s.beginCycle .zero night) = some req ∧
      s.evaluate pinnedDatabase (s.beginCycle .zero later) = some req' ∧
      req.snapshotId = some name ∧ req'.snapshotId = some name' ∧ name ≠ name' := by
  intro s night later
  have apart : 60 * secondNanos ≤ later.elapsed night := by
    decide
  have hminutes : s.zone.wallMinute night ≠ s.zone.wallMinute later := by
    decide +kernel
  obtain ⟨req, hreq, -, named⟩ := evaluate_pinnedDatabase Zone.newYork .zero night
  obtain ⟨req', hreq', -, named'⟩ := evaluate_pinnedDatabase Zone.newYork .zero later
  refine ⟨apart, req, req', _, _, hreq, hreq', named, named', ?_⟩
  intro heq
  exact hminutes ((snapshotId_eq_iff s pinnedDatabase pinnedDatabase rfl .zero .zero night later
    apart req req' hreq hreq' _ _ named named').1.1 heq)

/-- When clocks are set back an hour, the database that is stopped at half past one, started again
and stopped at half past one again gets one name for both snapshots. -/
theorem snapshotId_repeats_in_fold :
    let s := inZone Zone.newYork
    let first : Instant := ⟨1762061400, 0, by decide⟩
    let second : Instant := ⟨1762065000, 0, by decide⟩
    60 * secondNanos ≤ second.elapsed first ∧ ∃ req req',
      s.evaluate pinnedDatabase (s.beginCycle .zero first) = some req ∧
      s.evaluate pinnedDatabase (s.beginCycle .zero second) = some req' ∧
      req.action = .stop ∧ req'.action = .stop ∧
      req.snapshotId = some "db-reports-lifecycle-2025-11-02-01-30" ∧
      req'.snapshotId = some "db-reports-lifecycle-2025-11-02-01-30" := by
  intro s first second
  obtain ⟨req, hreq, hstop, named⟩ := evaluate_pinnedDatabase Zone.newYork .zero first
  obtain ⟨req', hreq', hstop', named'⟩ := evaluate_pinnedDatabase Zone.newYork .zero second
  have hfirst : snapshotName "db-reports" (Zone.newYork.localTime first) =
      "db-reports-lifecycle-2025-11-02-01-30" := by
    decide +kernel
  have hsecond : snapshotName "db-reports" (Zone.newYork.localTime second) =
      "db-reports-lifecycle-2025-11-02-01-30" := by
    decide +kernel
  exact ⟨by decide, req, req', hreq, hreq', hstop, hstop', hfirst ▸ named, hsecond ▸ named'⟩

end Settings
end FleetLifecycle
