import FleetLifecycle.Proofs.PolicyTexts
import FleetLifecycle.Proofs.RunningTimes

/-!
# Exact limits — from the text of a tag to the millisecond

A tag with a limit names a number of hours, and an address if somebody is to be notified.  The
action is taken a millisecond after the limit, for every number of 32 bits and every two instants.
Concretely, we:

1. say which tags set a limit (`Policy.SetsLimit`) and read them (`Policy.hasLimit_of_setsLimit`);
2. say when a machine has run beyond a limit (`ComputeInstance.RunsBeyond`), and compare this with
   the decision (`Policy.decide_of_runsBeyond`);
3. show that no count overflows on the way (`Instant.countsFit`), and conclude with
   `Settings.evaluate_limit`.
-/

namespace FleetLifecycle

/-! ## Tags that set a limit -/

namespace Policy

open Text (NoBlank Numeral isBlank)

/-- The tag sets a limit of so many hours and says what is done past it.  An address ends at the
next slash. -/
inductive SetsLimit (hours : UInt32) : List Char → Action → Prop where
  | stop {digits : List Char} (numeral : Numeral digits hours) :
      SetsLimit hours ("limit-stop:".toList ++ digits) .stop
  | terminate {digits : List Char} (numeral : Numeral digits hours) :
      SetsLimit hours ("limit-terminate:".toList ++ digits) .terminate
  | email {digits address : List Char} (numeral : Numeral digits hours)
      (notBlank : ∃ c ∈ address.takeWhile (· ≠ '/'), isBlank c = false) :
      SetsLimit hours ("limit-email:".toList ++ digits ++ '/' :: address)
        (.email (String.ofList (Text.trimChars (address.takeWhile (· ≠ '/')))))

variable {tag : String} {hours : UInt32} {digits address : List Char} {a : Action}

/-- The tag is a word, a colon and a number, which ends at a slash if there is one. -/
theorem parse_of_numeral (word : List Char) {rest blanks : List Char}
    (htag : tag.toList = word ++ ':' :: rest ++ blanks) (hword : ':' ∉ word)
    (hfirst : NoBlank (word ++ [':'])) (hlast : NoBlank (':' :: rest).reverse)
    (hblanks : ∀ c ∈ blanks, isBlank c = true) (numeral : Numeral digits hours)
    (hdigits : rest.takeWhile (· ≠ '/') = digits) :
    (parse tag).kind = PolicyKind.ofToken (String.ofList word) ∧
      (parse tag).parameters = parametersOf (some rest) ∧
      (parse tag).number 0 "hour limit" = .ok hours := by
  obtain ⟨hkind, hparameters⟩ := parse_of_toList htag hword hfirst hlast hblanks
  have hrest : rest ≠ [] := by
    rintro rfl
    exact numeral.nonempty hdigits.symm
  refine ⟨hkind, hparameters, number_of_numeral ?_ numeral _⟩
  rw [hparameters, parametersOf_zero hrest, hdigits]

/-- The number is all that follows the colon. -/
theorem parse_of_digits (word : List Char) (htag : tag.toList = word ++ ':' :: digits)
    (hword : ':' ∉ word) (hfirst : NoBlank (word ++ [':'])) (numeral : Numeral digits hours) :
    (parse tag).kind = PolicyKind.ofToken (String.ofList word) ∧
      (parse tag).number 0 "hour limit" = .ok hours := by
  have hlast : NoBlank (':' :: digits).reverse := by
    rw [List.reverse_cons]
    exact Text.noBlank_append (by simpa using numeral.nonempty) numeral.noBlank_reverse _
  have hdigits : digits.takeWhile (· ≠ '/') = digits := by
    refine List.takeWhile_eq_self_iff.2 (fun c hc => ?_)
    simpa using ne_of_mem_of_not_mem hc (numeral.notMem (by decide))
  obtain ⟨hkind, -, hhours⟩ := parse_of_numeral word (htag.trans (List.append_nil _).symm) hword
    hfirst hlast (by simp) numeral hdigits
  exact ⟨hkind, hhours⟩

/-- The number is followed by an address. -/
theorem parse_of_address (htag : tag.toList = "limit-email:".toList ++ digits ++ '/' :: address)
    (numeral : Numeral digits hours)
    (notBlank : ∃ c ∈ address.takeWhile (· ≠ '/'), isBlank c = false) :
    (parse tag).kind = .limitEmail ∧ (parse tag).number 0 "hour limit" = .ok hours ∧
      (parse tag).text 1 "notify address" =
        .ok (String.ofList (Text.trimChars (address.takeWhile (· ≠ '/')))) := by
  -- the blanks behind the address are cut off with those behind the tag
  obtain ⟨core, blanks, rfl, hblanks, hcore⟩ := Text.exists_trimEnd address
  obtain ⟨more, hmore, hmoreBlank⟩ := Text.exists_takeWhile_append core (· ≠ '/') hblanks
  rw [hmore] at notBlank ⊢
  have hvalue : ∃ c ∈ core.takeWhile (· ≠ '/'), isBlank c = false := by
    obtain ⟨c, hc, hblank⟩ := notBlank
    rcases List.mem_append.1 hc with hc | hc
    · exact ⟨c, hc, hblank⟩
    · rw [hmoreBlank c hc] at hblank
      cases hblank
  have hlast : NoBlank (':' :: (digits ++ '/' :: core)).reverse := by
    obtain ⟨c, hc, -⟩ := hvalue
    have hne : core.reverse ≠ [] := by
      rintro hnil
      rw [List.reverse_eq_nil_iff.1 hnil] at hc
      cases hc
    simpa using Text.noBlank_append hne hcore ('/' :: (digits.reverse ++ [':']))
  have hslash : '/' ∉ digits := numeral.notMem (by decide)
  have hdigits : (digits ++ '/' :: core).takeWhile (· ≠ '/') = digits := by
    rw [List.takeWhile_append_of_pos (by simpa using fun c hc => ne_of_mem_of_not_mem hc hslash)]
    simp
  obtain ⟨hkind, hparameters, hhours⟩ := parse_of_numeral "limit-email".toList
    (htag.trans (by simp)) (by decide) (by rintro c ⟨⟩; rfl) hlast hblanks numeral hdigits
  refine ⟨hkind, hhours, ?_⟩
  rw [Text.trimChars_append_blanks hmoreBlank]
  refine text_of_parameter ?_ hvalue _
  rw [hparameters, parametersOf_one hslash]

theorem hasLimit_of_setsLimit (h : SetsLimit hours tag.toList a) :
    (parse tag).HasLimit a hours := by
  generalize htag : tag.toList = cs at h
  cases h with
  | stop numeral =>
    obtain ⟨hkind, hhours⟩ := parse_of_digits "limit-stop".toList htag (by decide)
      (by rintro c ⟨⟩; rfl) numeral
    exact ⟨.stop hkind, hhours⟩
  | terminate numeral =>
    obtain ⟨hkind, hhours⟩ := parse_of_digits "limit-terminate".toList htag (by decide)
      (by rintro c ⟨⟩; rfl) numeral
    exact ⟨.terminate hkind, hhours⟩
  | email numeral notBlank =>
    obtain ⟨hkind, hhours, htext⟩ := parse_of_address htag numeral notBlank
    exact ⟨.email hkind htext, hhours⟩

end Policy

/-! ## Counting -/

namespace Instant

/-- No number on the way to a comparison with a limit leaves the word that holds it: the difference,
as a signed word of milliseconds, the seconds and nanoseconds of what is not negative, and the
milliseconds on both sides. -/
structure CountsFit (t start : Instant) (hours : UInt32) : Prop where
  difference : (t.elapsed start).natAbs ≤ (signedBound - 1) * 1000000
  elapsed : (t.since start).secs.toNat * 1000000000 + (t.since start).nanos.toNat =
    (t.elapsed start).toNat
  nanos : (t.since start).nanos.toNat < 1000000000
  millis : (t.since start).millis < twoTo 128
  limit : hours.toNat * hourMillis < twoTo 128

theorem natAbs_elapsed_le (t start : Instant) :
    (t.elapsed start).natAbs ≤ (signedBound - 1) * 1000000 := by
  have hfirst : firstDay = -96465292 := by decide
  have hlast : lastDay = 95026236 := by decide
  have hword : signedBound = 9223372036854775808 := by decide
  obtain ⟨ht, ht', -⟩ := t.fits
  obtain ⟨hs, hs', -⟩ := start.fits
  have htnanos := t.onDay.nanos
  have hsnanos := start.onDay.nanos
  obtain ⟨n, hcount, helapsed⟩ := t.exists_counts start
  have hn : -1 ≤ n ∧ n ≤ 1 := by
    cases hcount <;> decide
  rw [hlast, daySeconds] at ht' hs'
  rw [hfirst, daySeconds] at ht hs
  rw [helapsed, hword]
  omega

theorem countsFit (t start : Instant) (hours : UInt32) : t.CountsFit start hours := by
  have hnanos := toNat_nanos_since t start
  have hsecs := toNat_secs_since t start
  rw [secondNanos] at hnanos hsecs
  have hword : twoTo 128 = 18446744073709551616 * 18446744073709551616 := by decide
  constructor
  case difference =>
    exact natAbs_elapsed_le t start
  case elapsed =>
    omega
  case nanos =>
    omega
  case millis =>
    have hbound := (t.since start).secs.toNat_lt
    rw [Elapsed.millis, hword]
    omega
  case limit =>
    have hbound := hours.toNat_lt
    rw [hourMillis, hword]
    omega

/-- More than a number of hours in whole milliseconds is at least a millisecond more. -/
theorem lt_millis_since_iff (t start : Instant) (hours : Nat) :
    hours * hourMillis < (t.since start).millis ↔
      (hours * 3600 * 1000000000 + 1000000 : Int) ≤ t.elapsed start := by
  rw [millis_since, hourMillis]
  omega

/-- The whole seconds, once a limit has passed. -/
theorem secs_since_of_le {t start : Instant} {hours : Nat}
    (h : (hours * 3600 * 1000000000 + 1000000 : Int) ≤ t.elapsed start) :
    ((t.since start).secs.toNat : Int) = t.elapsed start / 1000000000 ∧
      hours * 3600 ≤ (t.since start).secs.toNat := by
  rw [toNat_secs_since, secondNanos]
  omega

end Instant

/-! ## Machines beyond a limit -/

/-- The machine has been running for so many hours and at least a millisecond more. -/
def ComputeInstance.RunsBeyond (m : ComputeInstance) (hours : UInt32) (t : Instant) : Prop :=
  m.state = "running" ∧ ∃ launch, m.launchTime = some launch ∧
    (hours.toNat * 3600 * 1000000000 + 1000000 : Int) ≤ t.elapsed launch

theorem ComputeInstance.runState_eq_running_iff (m : ComputeInstance) :
    (Resource.compute m).runState = .running ↔ m.state = "running" := by
  unfold Resource.runState Resource.readState
  split
  · next h =>
    exact ⟨fun _ => h, fun _ => rfl⟩
  · next h =>
    refine ⟨fun hrun => ?_, fun hstate => absurd hstate h⟩
    split at hrun <;> cases hrun

namespace Policy

variable {p : Policy} {a : Action} {hours : UInt32} {m : ComputeInstance} {t : Instant}

theorem decide_of_runsBeyond (limit : p.HasLimit a hours) (beyond : m.RunsBeyond hours t)
    (now : LocalHour) :
    ∃ secs, p.decide ((Resource.compute m).observe t) now = ⟨a, .limitExceeded secs hours⟩ ∧
      ∃ launch, m.launchTime = some launch ∧
        (secs.toNat : Int) = t.elapsed launch / 1000000000 ∧ hours.toNat * 3600 ≤ secs.toNat := by
  obtain ⟨running, launch, launched, hlimit⟩ := beyond
  refine ⟨(t.since launch).secs, ?_, launch, launched, Instant.secs_since_of_le hlimit⟩
  rw [decide_running running launched limit, if_pos ((t.lt_millis_since_iff launch _).2 hlimit)]

theorem decide_of_not_runsBeyond (limit : p.HasLimit a hours) (within : ¬ m.RunsBeyond hours t)
    (now : LocalHour) :
    p.decide ((Resource.compute m).observe t) now = .none (.withinLimit hours) := by
  have accepted := isAcceptedBy_machine p m t
  by_cases running : m.state = "running"
  · cases launched : m.launchTime with
    | none =>
      refine decide_of_idle limit accepted ?_ now
      simp [Resource.observe, Resource.runningFor, Resource.launchedAt, launched]
    | some launch =>
      have hwithin : ¬ hours.toNat * hourMillis < (t.since launch).millis := by
        rw [Instant.lt_millis_since_iff]
        exact fun hlimit => within ⟨running, launch, launched, hlimit⟩
      rw [decide_running running launched limit, if_neg hwithin]
  · refine decide_of_idle limit accepted ?_ now
    have hrun : (Resource.compute m).runState.isRunning = false :=
      RunState.isRunning_eq_false_iff.2 (mt m.runState_eq_running_iff.1 running)
    simp [Resource.observe, Resource.runningFor, hrun]

end Policy

namespace Settings

/-- A machine with a limit, unless the gate holds the request back, is stopped or terminated, or
somebody is notified of it, if and only if it has been running for so many hours and at least a
millisecond more; the reason then names the whole seconds, of which there are as many as the hours
have.  Otherwise nothing is done, since it is within the limit.  No count overflows for any hours,
instant and launch time. -/
theorem evaluate_limit (s : Settings) (m : ComputeInstance) (id : CycleId) (t : Instant)
    {tag : String} {a : Action} {hours : UInt32} (tagged : m.tags.get? s.policyTag = some tag)
    (limit : Policy.SetsLimit hours tag.toList a)
    (passes : ¬ (s.gate.Unaddressable m.tags ∧
      ((Resource.compute m).proposal tag (s.beginCycle id t)).action ∈ Action.runStateActions)) :
    ∃ req, s.evaluate (.compute m) (s.beginCycle id t) = some req ∧
      ((∃ secs, req.action = a ∧ req.reason = .limitExceeded secs hours) ↔
        m.RunsBeyond hours t) ∧
      (∀ secs, req.reason = .limitExceeded secs hours → ∃ launch, m.launchTime = some launch ∧
        (secs.toNat : Int) = t.elapsed launch / 1000000000 ∧ hours.toNat * 3600 ≤ secs.toNat) ∧
      (¬ m.RunsBeyond hours t → req.action = .none ∧ req.reason = .withinLimit hours) ∧
      ∀ launch, m.launchTime = some launch → t.CountsFit launch hours := by
  have hlimit := Policy.hasLimit_of_setsLimit limit
  obtain ⟨haction, hreason⟩ := request_of_passes (r := .compute m) passes
  refine ⟨_, evaluate_eq_some tagged, ?_⟩
  by_cases beyond : m.RunsBeyond hours t
  · obtain ⟨secs, hdecide, hsecs⟩ :=
      Policy.decide_of_runsBeyond hlimit beyond (s.beginCycle id t).now
    have hproposal : (Resource.compute m).proposal tag (s.beginCycle id t) = _ := hdecide
    rw [hproposal] at haction hreason
    refine ⟨⟨fun _ => beyond, fun _ => ⟨secs, haction, hreason⟩⟩, ?_, absurd beyond, ?_⟩
    · intro secs' hreason'
      obtain ⟨rfl, -⟩ := Reason.limitExceeded.inj (hreason.symm.trans hreason')
      exact hsecs
    · exact fun launch _ => t.countsFit launch hours
  · have hproposal : (Resource.compute m).proposal tag (s.beginCycle id t) = _ :=
      Policy.decide_of_not_runsBeyond hlimit beyond (s.beginCycle id t).now
    rw [hproposal] at haction hreason
    refine ⟨⟨?_, fun h => absurd h beyond⟩, ?_, fun _ => ⟨haction, hreason⟩, ?_⟩
    · rintro ⟨secs, -, hsecs⟩
      cases hreason.symm.trans hsecs
    · intro secs hsecs
      cases hreason.symm.trans hsecs
    · exact fun launch _ => t.countsFit launch hours

/-- The highest limit is half a million years.  A machine launched on the first of all days is
beyond it a millisecond later. -/
theorem evaluate_limit_highest :
    let tag := "limit-email:4294967295/ ops@example.com "
    let launch : Instant := ⟨-8334601228800, 0, by decide⟩
    let m : ComputeInstance :=
      ⟨"i-build", "running", some launch, Tags.ofList [("lifecycle-policy", tag)]⟩
    let t : Instant := ⟨7127281033200, 1000000, by decide⟩
    launch.seconds = firstDay * daySeconds ∧
      Policy.SetsLimit 4294967295 tag.toList (.email "ops@example.com") ∧
      ∃ req, default.evaluate (.compute m) (default.beginCycle .zero t) = some req ∧
        req.action = .email "ops@example.com" ∧
        ∃ secs, req.reason = .limitExceeded secs 4294967295 ∧ secs.toNat = 15461882262000 := by
  intro tag launch m t
  have hfirst : launch.seconds = firstDay * daySeconds := by
    decide
  have htag : m.tags.get? default.policyTag = some tag := by
    decide
  have hlimit : Policy.SetsLimit 4294967295 tag.toList (.email "ops@example.com") := by
    have hdigits : "4294967295".toList.all Char.isDigit = true := by
      decide
    have hnumeral : Text.Numeral "4294967295".toList 4294967295 :=
      ⟨by decide, List.all_eq_true.1 hdigits, by decide⟩
    have haddress : ∃ c ∈ " ops@example.com ".toList.takeWhile (· ≠ '/'),
        Text.isBlank c = false :=
      ⟨'o', by decide, by decide⟩
    have hparts : tag.toList =
        "limit-email:".toList ++ "4294967295".toList ++ '/' :: " ops@example.com ".toList := by
      decide
    have hrecipient : String.ofList (Text.trimChars
        (" ops@example.com ".toList.takeWhile (· ≠ '/'))) = "ops@example.com" := by
      decide
    rw [hparts, ← hrecipient]
    exact .email hnumeral haddress
  have hpasses : ¬ (default.gate.Unaddressable m.tags ∧
      ((Resource.compute m).proposal tag (default.beginCycle .zero t)).action ∈
        Action.runStateActions) := by
    rw [← GateTags.isUnaddressable_iff]
    rintro ⟨hgate, -⟩
    exact absurd hgate (by decide)
  have hbeyond : m.RunsBeyond 4294967295 t := ⟨rfl, launch, rfl, by decide⟩
  obtain ⟨req, hreq, hiff, hsecs, -, -⟩ :=
    evaluate_limit default m .zero t htag hlimit hpasses
  obtain ⟨secs, haction, hreason⟩ := hiff.2 hbeyond
  obtain ⟨launch', hlaunch, hseconds, -⟩ := hsecs secs hreason
  cases hlaunch
  have helapsed : t.elapsed launch / 1000000000 = 15461882262000 := by
    decide
  exact ⟨hfirst, hlimit, req, hreq, haction, secs, hreason, by omega⟩

/-- Where an address has a slash, only what stands before it is notified. -/
theorem evaluate_limit_slash :
    let address := "ops@example.com/oncall"
    let m : ComputeInstance := ⟨"i-build", "running", some .epoch,
      Tags.ofList [("lifecycle-policy", "limit-email:1/" ++ address)]⟩
    let noon : Instant := ⟨43200, 0, by decide⟩
    Text.isBlankText address = false ∧ m.RunsBeyond 1 noon ∧
      ¬ default.gate.Unaddressable m.tags ∧
      ∃ req, default.evaluate (.compute m) (default.beginCycle .zero noon) = some req ∧
        req.action = .email "ops@example.com" ∧ req.action ≠ .email (Text.trim address) := by
  intro address m noon
  have hactions : (default.evaluate (.compute m) (default.beginCycle .zero noon)).map
      (·.action) = some (.email "ops@example.com") := by
    decide +kernel
  obtain ⟨req, hreq, haction⟩ := Option.map_eq_some_iff.1 hactions
  refine ⟨by decide, ⟨rfl, .epoch, rfl, by decide⟩, ?_, req, hreq, haction, ?_⟩
  · rw [← GateTags.isUnaddressable_iff]
    decide
  · rw [haction]
    decide

end Settings
end FleetLifecycle
