import FleetLifecycle.Cycle.Evaluate
import FleetLifecycle.Proofs.WallClockTexts
import FleetLifecycle.Zone.Bundled
import FleetLifecycle.Zone.WallClock
import Mathlib.Data.List.Chain

/-!
# Wall clocks — the instant that a wall-clock time names

Clocks that are put forward skip some times, and clocks that are set back show some times twice.
A time in a text is the first instant at which clocks in the zone stand at it, if the library knows
the first and the last of them.  Concretely, we:

1. say when clocks stand at a local time (`Zone.StandsAt`), which then is what they show
   (`Zone.StandsAt.localTime_eq`), and what a library has to know of them
   (`ZoneLibrary.Resolves`);
2. find every second at which a clock has run for a given time among those that are listed, in
   ascending order (`Zone.mem_instantsOf`, `Zone.pairwise_instantsOf`), so that a look at all
   periods resolves a zone (`Zone.describes_localOffset`, `ZoneLibrary.resolves_bundled`);
3. conclude that the first of them is found, if there is one (`ZoneLibrary.first_of_earliest?`,
   `ZoneLibrary.earliest?_eq_none_iff`);
4. put texts and clocks together (`Settings.beginCycle_readWallClock`).
-/

namespace FleetLifecycle

/-! ## Instants and periods -/

theorem Period.contains_iff {p : Period} {second : Int} :
    p.contains second = true ↔ (∀ s ∈ p.start, s ≤ second) ∧ ∀ s ∈ p.stop, second < s := by
  simp [Period.contains, Option.all_eq_true]

/-! ## Clocks in a zone -/

namespace Zone

/-- At the second, clocks in the zone have run for so many seconds since their midnight of
1970-01-01. -/
def HasRun (z : Zone) (second seconds : Int) : Prop :=
  second + z.offsetAt second = seconds

/-- At the instant, clocks in the zone have run for as long as they have whenever they show the
time.  What is shown would not do here, since a leap second within a minute looks like the second
after. -/
def StandsAt (z : Zone) (t : Instant) (l : LocalTime) : Prop :=
  l.seconds = (t.seconds + z.offsetAt t.seconds, t.nanos)

/-- Offsets are less than a day, and no change is within two days of the first or the last date. -/
structure Bounded (z : Zone) : Prop where
  first : z.first.natAbs < daySeconds
  offset : ∀ c ∈ z.changes, c.offset.natAbs < daySeconds
  time : ∀ c ∈ z.changes,
    (firstDay + 2) * daySeconds ≤ c.time ∧ c.time ≤ (lastDay - 1) * daySeconds

/-- Each change of the zone comes after the one before. -/
def Ordered (z : Zone) : Prop :=
  z.changes.IsChain (fun c d => c.time < d.time)

variable {z : Zone} {t u : Instant} {l : LocalTime}

theorem standsAt_iff :
    z.StandsAt t l ↔ z.HasRun t.seconds l.seconds.1 ∧ t.nanos = l.seconds.2 := by
  rw [StandsAt, HasRun, Prod.ext_iff]
  exact and_congr eq_comm eq_comm

/-- Clocks show what they stand at. -/
theorem StandsAt.localTime_eq (h : z.StandsAt t l) (hclock : l.OnClock) : z.localTime t = l := by
  have hshown := LocalTime.ofSeconds_seconds hclock
  rwa [h] at hshown

end Zone

/-- What is known of a local time describes the seconds at which clocks in the zone have run for so
long: there are none, there is one, or these are the first and the last of them. -/
inductive LocalOffset.Describes (z : Zone) (seconds : Int) : LocalOffset → Prop where
  | none (never : ∀ second, ¬ z.HasRun second seconds) : Describes z seconds .none
  | single {offset : Int}
      (once : ∀ second, z.HasRun second seconds ↔ second = seconds - offset) :
      Describes z seconds (.single offset)
  | ambiguous {earliest latest : Int} (first : z.HasRun (seconds - earliest) seconds)
      (last : z.HasRun (seconds - latest) seconds)
      (between : ∀ second, z.HasRun second seconds →
        seconds - earliest ≤ second ∧ second ≤ seconds - latest) :
      Describes z seconds (.ambiguous earliest latest)

/-- The library knows when clocks in the zone show a local time. -/
def ZoneLibrary.Resolves (library : ZoneLibrary) (z : Zone) : Prop :=
  ∀ seconds, (library.localOffset z seconds).Describes z seconds

namespace Zone

/-! ## The seconds of a local time -/

variable {z : Zone} {start : Option Int} {seconds second : Int} {changes : List Change}

/-- Every second from the first period on lies in a period, with the offset that then holds. -/
theorem exists_period_iff (offset : Int) (hstart : ∀ s ∈ start, ∀ c ∈ changes.head?, s < c.time)
    (hchanges : changes.IsChain (fun c d => c.time < d.time)) (second here : Int) :
    (∃ p ∈ periodsFrom start offset changes, p.contains second = true ∧ p.offset = here) ↔
      (∀ s ∈ start, s ≤ second) ∧ offsetFrom offset changes second = here := by
  induction changes generalizing start offset with
  | nil =>
    simp [periodsFrom, offsetFrom, Period.contains_iff]
  | cons c changes ih =>
    rcases List.isChain_cons.1 hchanges with ⟨hnext, hrest⟩
    have hbegun : ∀ s ∈ start, s < c.time := fun s hs => hstart s hs c rfl
    have hnext' : ∀ s ∈ some c.time, ∀ d ∈ changes.head?, s < d.time := by
      rintro s ⟨⟩
      exact hnext
    rw [periodsFrom, List.exists_mem_cons_iff, ih c.offset hnext' hrest, Period.contains_iff,
      offsetFrom]
    simp only [Option.mem_some_iff, forall_eq']
    rcases Int.lt_or_le second c.time with hbefore | hafter
    · have hnot : ¬ c.time ≤ second := Int.not_le.2 hbefore
      simp only [hbefore, hnot, if_false, and_true, false_and, or_false]
    · have hnot : ¬ second < c.time := Int.not_lt.2 hafter
      have hpast : ∀ s ∈ start, s ≤ second := fun s hs =>
        Int.le_of_lt (Int.lt_of_lt_of_le (hbegun s hs) hafter)
      simp only [hnot, hafter, if_true, and_false, false_and, false_or, true_and]
      exact (and_iff_right hpast).symm

/-- The seconds that are listed are those at which the wall clock has run for so long. -/
theorem mem_instantsOf (ordered : z.Ordered) :
    second ∈ z.instantsOf seconds ↔ z.HasRun second seconds := by
  have hnone : ∀ s ∈ (none : Option Int), ∀ c ∈ z.changes.head?, s < c.time := by
    rintro s ⟨⟩
  have hperiods : (∃ p ∈ z.periods, p.contains second = true ∧ p.offset = seconds - second) ↔
      z.offsetAt second = seconds - second := by
    have hperiods := exists_period_iff z.first hnone ordered second (seconds - second)
    simpa [periods, offsetAt] using hperiods
  have hsum : z.HasRun second seconds ↔ z.offsetAt second = seconds - second := by
    unfold HasRun
    omega
  rw [hsum, ← hperiods, instantsOf, List.mem_filterMap]
  refine exists_congr (fun p => and_congr_right (fun hp => ?_))
  simp only [Option.ite_none_right_eq_some, Option.some.injEq]
  constructor
  · rintro ⟨hcontains, rfl⟩
    exact ⟨hcontains, by omega⟩
  · rintro ⟨hcontains, hoffset⟩
    obtain rfl : second = seconds - p.offset := by omega
    exact ⟨hcontains, rfl⟩

/-- What lies in a period comes before what lies in a later one. -/
theorem pairwise_periodsFrom (start : Option Int) (offset : Int)
    (hchanges : changes.IsChain (fun c d => c.time < d.time)) :
    (periodsFrom start offset changes).Pairwise
      (fun p q => ∀ x y, p.contains x = true → q.contains y = true → x < y) := by
  induction changes generalizing start offset with
  | nil =>
    exact List.pairwise_singleton _ _
  | cons c changes ih =>
    rcases List.isChain_cons.1 hchanges with ⟨hnext, hrest⟩
    have hnext' : ∀ s ∈ some c.time, ∀ d ∈ changes.head?, s < d.time := by
      rintro s ⟨⟩
      exact hnext
    rw [periodsFrom, List.pairwise_cons]
    refine ⟨fun q hq x y hx hy => ?_, ih _ _ hrest⟩
    have hbefore : x < c.time := (Period.contains_iff.1 hx).2 c.time rfl
    have hafter := ((exists_period_iff c.offset hnext' hrest y q.offset).1 ⟨q, hq, hy, rfl⟩).1
    exact Int.lt_of_lt_of_le hbefore (hafter c.time rfl)

theorem pairwise_instantsOf (ordered : z.Ordered) (seconds : Int) :
    (z.instantsOf seconds).Pairwise (· < ·) := by
  refine List.Pairwise.filterMap _ ?_ (pairwise_periodsFrom none z.first ordered)
  intro p q hpq x hx y hy
  simp only [Option.ite_none_right_eq_some, Option.some.injEq] at hx hy
  exact hpq x y (hx.2 ▸ hx.1) (hy.2 ▸ hy.1)

/-- A look at all periods tells when clocks show a local time. -/
theorem describes_localOffset (ordered : z.Ordered) (seconds : Int) :
    (z.localOffset seconds).Describes z seconds := by
  have hmem : ∀ second, z.HasRun second seconds ↔ second ∈ z.instantsOf seconds :=
    fun _ => (mem_instantsOf ordered).symm
  have hsorted := pairwise_instantsOf ordered seconds
  unfold localOffset
  split
  · next hlist =>
    refine .none (fun second => ?_)
    rw [hmem, hlist]
    exact List.not_mem_nil
  · next first hlist =>
    refine .single (fun second => ?_)
    rw [hmem, hlist, List.mem_singleton, Int.sub_sub_self]
  · next first later _ hlist =>
    rw [hlist] at hsorted hmem
    have hrising : (first :: later).Pairwise (· ≤ ·) := hsorted.imp Int.le_of_lt
    refine .ambiguous ?_ ?_ (fun second hrun => ?_)
    · rw [Int.sub_sub_self, hmem]
      exact List.mem_cons_self
    · rw [Int.sub_sub_self, hmem]
      exact List.getLastD_mem_cons
    · have hsecond := (hmem second).1 hrun
      have hlast := hrising.rel_getLast hsecond
      rw [List.getLast_eq_getLastD] at hlast
      rw [Int.sub_sub_self, Int.sub_sub_self]
      exact ⟨hrising.rel_head hsecond, hlast⟩

/-! ## Local times that recur -/

theorem offsetFrom_mem (offset : Int) (changes : List Change) (second : Int) :
    offsetFrom offset changes second = offset ∨
      ∃ c ∈ changes, offsetFrom offset changes second = c.offset := by
  induction changes generalizing offset with
  | nil =>
    exact .inl rfl
  | cons c changes ih =>
    rw [offsetFrom]
    split
    · refine .inr ?_
      rcases ih c.offset with hnow | ⟨d, hd, hlater⟩
      · exact ⟨c, List.mem_cons_self, hnow⟩
      · exact ⟨d, List.mem_cons_of_mem c hd, hlater⟩
    · exact .inl rfl

theorem Bounded.offsetAt_lt (bounded : z.Bounded) (second : Int) :
    (z.offsetAt second).natAbs < daySeconds := by
  unfold offsetAt
  rcases offsetFrom_mem z.first z.changes second with hfirst | ⟨c, hc, hchange⟩
  · rw [hfirst]
    exact bounded.first
  · rw [hchange]
    exact bounded.offset c hc

/-- The offset is the same at two seconds if no change lies between them. -/
theorem offsetFrom_congr {second second' : Int} (offset : Int)
    (h : ∀ c ∈ changes, c.time ≤ second ↔ c.time ≤ second') :
    offsetFrom offset changes second = offsetFrom offset changes second' := by
  induction changes generalizing offset with
  | nil =>
    rfl
  | cons c changes ih =>
    rcases List.forall_mem_cons.1 h with ⟨hfirst, hrest⟩
    simp only [offsetFrom, hfirst, ih c.offset hrest]

/-- Where a local time recurs, clocks are set back in between, which they are not near the ends of
the calendar. -/
theorem Bounded.span_of_recurs (bounded : z.Bounded) {second second' : Int} (hlt : second < second')
    (hfirst : z.HasRun second seconds) (hagain : z.HasRun second' seconds) :
    firstDay * daySeconds ≤ second ∧ second' < (lastDay + 1) * daySeconds := by
  unfold HasRun at hfirst hagain
  have hchange : ∃ c ∈ z.changes, second < c.time ∧ c.time ≤ second' := by
    by_contra hnone
    have hsame : z.offsetAt second = z.offsetAt second' := by
      refine offsetFrom_congr z.first (fun c hc => ⟨fun hpast => by omega, fun hpast => ?_⟩)
      by_contra hnot
      exact hnone ⟨c, hc, Int.not_le.1 hnot, hpast⟩
    omega
  rcases hchange with ⟨c, hc, hbefore, hafter⟩
  rcases bounded.time c hc with ⟨hearly, hlate⟩
  have hoffset := bounded.offsetAt_lt second
  have hoffset' := bounded.offsetAt_lt second'
  simp only [daySeconds] at hearly hlate hoffset hoffset' ⊢
  omega

/-- Where an instant has a local time, every second that has it belongs to an instant. -/
theorem StandsAt.fits (bounded : z.Bounded) (h : z.StandsAt t l)
    (hsecond : z.HasRun second l.seconds.1) : Instant.Fits second l.seconds.2 := by
  rcases standsAt_iff.1 h with ⟨hrun, hnanos⟩
  rcases t.fits with ⟨hfirst, hlast, hlt⟩
  rw [hnanos] at hlt
  rcases Int.lt_trichotomy second t.seconds with hbefore | rfl | hafter
  · exact ⟨(bounded.span_of_recurs hbefore hsecond hrun).1, Int.lt_trans hbefore hlast, hlt⟩
  · exact ⟨hfirst, hlast, hlt⟩
  · exact ⟨Int.le_of_lt (Int.lt_of_le_of_lt hfirst hafter),
      (bounded.span_of_recurs hafter hrun hsecond).2, hlt⟩

end Zone

/-! ## Zones that come with the programs -/

namespace ZoneLibrary

variable {library : ZoneLibrary} {z : Zone} {t u : Instant} {l : LocalTime}

theorem ordered_of_mem_bundled (h : z ∈ bundled.zones) : z.Ordered := by
  revert z
  unfold Zone.Ordered
  decide +kernel

theorem resolves_bundled (h : z ∈ bundled.zones) : bundled.Resolves z :=
  z.describes_localOffset (ordered_of_mem_bundled h)

theorem bounded_of_mem_bundled (h : z ∈ bundled.zones) : z.Bounded := by
  have hbounded : z.first.natAbs < daySeconds ∧ (∀ c ∈ z.changes, c.offset.natAbs < daySeconds) ∧
      ∀ c ∈ z.changes,
        (firstDay + 2) * daySeconds ≤ c.time ∧ c.time ≤ (lastDay - 1) * daySeconds := by
    revert z
    decide +kernel
  exact ⟨hbounded.1, hbounded.2.1, hbounded.2.2⟩

/-! ## The first instant of a local time -/

/-- What is found is the first of the instants that have the time. -/
theorem first_of_earliest? (resolves : library.Resolves z) (h : library.earliest? z l = some t) :
    z.StandsAt t l ∧ ∀ u, z.StandsAt u l → t ≤ u := by
  have hknown := resolves l.seconds.1
  unfold earliest? at h
  dsimp only at h
  generalize library.localOffset z l.seconds.1 = known at h hknown
  cases hknown with
  | none never =>
    cases h
  | single once =>
    rcases Instant.of?_eq_some_iff.1 h with ⟨hsecond, hnanos⟩
    refine ⟨Zone.standsAt_iff.2 ⟨(once _).2 hsecond, hnanos⟩, fun u hu => .inr ?_⟩
    rcases Zone.standsAt_iff.1 hu with ⟨hrun, hnanos'⟩
    have hsecond' := (once _).1 hrun
    exact ⟨hsecond.trans hsecond'.symm, Nat.le_of_eq (hnanos.trans hnanos'.symm)⟩
  | ambiguous first last between =>
    dsimp only at h
    split at h
    · next found _ hfound _ =>
      obtain rfl : found = t := Option.some.inj h
      rcases Instant.of?_eq_some_iff.1 hfound with ⟨hsecond, hnanos⟩
      refine ⟨Zone.standsAt_iff.2 ⟨hsecond.symm ▸ first, hnanos⟩, fun u hu => ?_⟩
      rcases Zone.standsAt_iff.1 hu with ⟨hrun, hnanos'⟩
      have hle : found.seconds ≤ u.seconds := hsecond.symm ▸ (between _ hrun).1
      rcases Int.lt_or_eq_of_le hle with hlt | heq
      · exact .inl hlt
      · exact .inr ⟨heq, Nat.le_of_eq (hnanos.trans hnanos'.symm)⟩
    · cases h

/-- Where an instant has the time, one is found. -/
theorem earliest?_ne_none_of_standsAt (bounded : z.Bounded) (resolves : library.Resolves z)
    (h : z.StandsAt t l) : library.earliest? z l ≠ none := by
  have hknown := resolves l.seconds.1
  have hrun := (Zone.standsAt_iff.1 h).1
  -- every second that has the time belongs to an instant
  have hfits : ∀ second, z.HasRun second l.seconds.1 →
      ∃ u, Instant.of? second l.seconds.2 = some u := fun second hsecond =>
    ⟨⟨second, l.seconds.2, h.fits bounded hsecond⟩, Instant.of?_eq_some_iff.2 ⟨rfl, rfl⟩⟩
  unfold earliest?
  dsimp only
  generalize library.localOffset z l.seconds.1 = known at hknown
  cases hknown with
  | none never =>
    exact absurd hrun (never _)
  | single once =>
    rcases hfits _ ((once _).2 rfl) with ⟨u, hu⟩
    simp [hu]
  | ambiguous first last =>
    rcases hfits _ first with ⟨u, hu⟩
    rcases hfits _ last with ⟨u', hu'⟩
    simp [hu, hu']

/-- A time is not found if no instant has it: in a gap, or beyond the span of instants. -/
theorem earliest?_eq_none_iff (bounded : z.Bounded) (resolves : library.Resolves z) :
    library.earliest? z l = none ↔ ∀ t, ¬ z.StandsAt t l := by
  constructor
  · intro h t ht
    exact earliest?_ne_none_of_standsAt bounded resolves ht h
  · intro h
    by_contra hfound
    rcases Option.ne_none_iff_exists'.1 hfound with ⟨t, ht⟩
    exact h t (first_of_earliest? resolves ht).1

theorem readWallClock_eq_ok_iff {text : String} : library.readWallClock z text = .ok t ↔
    ∃ shown, LocalTime.read text = .ok shown ∧ library.earliest? z shown = some t := by
  unfold readWallClock
  cases LocalTime.read text with
  | error reason =>
    simp
  | ok shown =>
    cases hearliest : library.earliest? z shown <;> simp [hearliest]

end ZoneLibrary

/-! ## Wall-clock times in texts -/

namespace Settings

open TimeText

/-- A wall-clock time means the first instant at which clocks in the zone of the settings stand at
it: a cycle then has its hour and the weekday of its date, and what clocks show, written down, means
the same instant.  A time of the clock, on a date in the years that there are dates of, is refused
only if clocks never stand there. -/
theorem beginCycle_readWallClock (library : ZoneLibrary) (s : Settings) (bounded : s.zone.Bounded)
    (resolves : library.Resolves s.zone) (text : String) :
    (∀ t, library.readWallClock s.zone text = .ok t →
      ∃ shown, (∀ l, Names text.toList l ∧ l.OnClock ↔ l = shown) ∧ s.zone.localTime t = shown ∧
        (∀ id, (s.beginCycle id t).now.hour.toNat = shown.hour ∧
          (s.beginCycle id t).now.day = weekdayOf shown.date.dayNumber) ∧
        s.zone.StandsAt t shown ∧ (∀ u, s.zone.StandsAt u shown → t ≤ u) ∧
        library.readWallClock s.zone (s.zone.localTime t).full = .ok t) ∧
    ∀ shown reason, Names text.toList shown → shown.OnClock →
      library.readWallClock s.zone text = .error reason → ∀ u, ¬ s.zone.StandsAt u shown := by
  constructor
  · intro t h
    rcases ZoneLibrary.readWallClock_eq_ok_iff.1 h with ⟨shown, hread, hearliest⟩
    rcases LocalTime.read_eq_ok_iff.1 hread with ⟨hnames, hclock⟩
    rcases ZoneLibrary.first_of_earliest? resolves hearliest with ⟨hstands, hfirst⟩
    have hlocal : s.zone.localTime t = shown := hstands.localTime_eq hclock
    have hnamed : ∀ l, Names text.toList l ∧ l.OnClock ↔ l = shown := by
      intro l
      rw [← LocalTime.read_eq_ok_iff, hread, Except.ok.injEq]
      exact eq_comm
    refine ⟨shown, hnamed, hlocal, fun id => ?_, hstands, hfirst, ?_⟩
    · have hhour : shown.hour < 256 := Nat.lt_of_le_of_lt hclock.hour (by decide)
      simp only [beginCycle, Cycle.now, hlocal]
      exact ⟨UInt8.toNat_ofNat_of_lt' hhour, rfl⟩
    · -- what is written down names the same time, hence the same instant
      rw [hlocal]
      exact ZoneLibrary.readWallClock_eq_ok_iff.2
        ⟨shown, LocalTime.read_full hclock hnames.nanos_eq, hearliest⟩
  · intro shown reason hnames hclock h
    have hread : LocalTime.read text = .ok shown := LocalTime.read_eq_ok_iff.2 ⟨hnames, hclock⟩
    refine (ZoneLibrary.earliest?_eq_none_iff bounded resolves).1 ?_
    cases hearliest : library.earliest? s.zone shown with
    | none =>
      rfl
    | some t =>
      rw [ZoneLibrary.readWallClock_eq_ok_iff.2 ⟨shown, hread, hearliest⟩] at h
      cases h

/-- Clocks in New York show half past one twice on the night they are set back, and never show half
past two on the night they are put forward. -/
theorem beginCycle_readWallClock_newYork :
    let s : Settings := { Settings.default with zone := Zone.newYork }
    let night : Instant := ⟨1762061400, 0, by decide⟩
    s.zone.Bounded ∧ ZoneLibrary.bundled.Resolves s.zone ∧
      ZoneLibrary.bundled.readWallClock s.zone "2025-11-02 01:30:00" = .ok night ∧
      (∀ u, s.zone.StandsAt u ⟨⟨2025, 11, 2⟩, 1, 30, 0, 0⟩ → night ≤ u) ∧
      ZoneLibrary.bundled.readWallClock s.zone (s.zone.localTime night).full = .ok night ∧
      ∀ u, ¬ s.zone.StandsAt u ⟨⟨2025, 3, 9⟩, 2, 30, 0, 0⟩ := by
  intro s night
  have hmem : s.zone ∈ ZoneLibrary.bundled.zones := by simp [s, ZoneLibrary.bundled]
  have bounded := ZoneLibrary.bounded_of_mem_bundled hmem
  have resolves := ZoneLibrary.resolves_bundled hmem
  -- the night in autumn
  have haccepted : ZoneLibrary.bundled.readWallClock s.zone "2025-11-02 01:30:00" = .ok night := by
    decide +kernel
  have hautumn : LocalTime.read "2025-11-02 01:30:00" = .ok ⟨⟨2025, 11, 2⟩, 1, 30, 0, 0⟩ := by
    decide +kernel
  obtain ⟨shown, hnamed, -, -, -, hfirst, hagain⟩ :=
    (beginCycle_readWallClock .bundled s bounded resolves "2025-11-02 01:30:00").1 night haccepted
  obtain rfl := (hnamed _).1 (LocalTime.read_eq_ok_iff.1 hautumn)
  refine ⟨bounded, resolves, haccepted, hfirst, hagain, ?_⟩
  -- the night in spring
  have hrefused : ZoneLibrary.bundled.readWallClock s.zone "2025-03-09 02:30:00" =
      .error (.neverShown "2025-03-09 02:30:00") := by
    decide +kernel
  have hspring : LocalTime.read "2025-03-09 02:30:00" = .ok ⟨⟨2025, 3, 9⟩, 2, 30, 0, 0⟩ := by
    decide +kernel
  rcases LocalTime.read_eq_ok_iff.1 hspring with ⟨hnames, hclock⟩
  exact (beginCycle_readWallClock .bundled s bounded resolves "2025-03-09 02:30:00").2 _ _
    hnames hclock hrefused

end Settings
end FleetLifecycle
