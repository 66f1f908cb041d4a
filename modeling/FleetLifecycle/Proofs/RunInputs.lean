import FleetLifecycle.Command.Run
import FleetLifecycle.Proofs.AcceptedSettings
import FleetLifecycle.Proofs.Outcomes

/-!
# Inputs of a run — what the command reads before it evaluates a fleet

A run needs settings, an instant and a fleet, which come from a settings file, a wall-clock time or
the clock, and an inventory.  Concretely, we:

1. say what the inputs are if each of them can be read (`Machine.Reads`), and what is given of the
   settings (`Machine.Gives`);
2. say when one of them is rejected (`Machine.Rejects`), whichever is looked at first;
3. show that a cycle is carried out exactly with inputs that can be read
   (`Machine.cycle_eq_ok_iff`), and that this fails exactly if one is rejected
   (`Machine.reads_or_rejects`, `Machine.Reads.not_rejects`).
-/

namespace FleetLifecycle

namespace Machine

/-! ## Readable and rejected inputs -/

/-- The file in which settings are looked for. -/
def settingsPath (m : Machine) (a : Arguments) : String :=
  a.settings.getD m.usualPath

/-- A run wants the file if it is named, or if it stands in the usual place. -/
def WantsFile (m : Machine) (a : Arguments) : Prop :=
  a.settings ≠ none ∨ m.stands m.usualPath = true

/-- What is given of the settings: what the settings file says, or nothing but the version if no
file is wanted. -/
inductive Gives (m : Machine) (a : Arguments) : GivenSettings → Prop where
  | file {text : String} {g : GivenSettings} (wanted : m.WantsFile a)
      (content : m.files.text (m.settingsPath a) = .ok text)
      (given : GivenSettings.ofText text = .ok g) : Gives m a g
  | builtIn (unwanted : ¬ m.WantsFile a) : Gives m a ⟨settingsVersion, .empty, .empty⟩

/-- The settings of a run: those in the settings file, or the built-in ones if no file is wanted. -/
inductive ReadsSettings (m : Machine) (a : Arguments) : Settings → Prop where
  | file {text : String} {s : Settings} (wanted : m.WantsFile a)
      (content : m.files.text (m.settingsPath a) = .ok text)
      (settings : Settings.ofTextIn m.library.zones text = .ok s) : ReadsSettings m a s
  | builtIn (unwanted : ¬ m.WantsFile a) : ReadsSettings m a .default

/-- What a run reads: settings, the instant that is given as a wall-clock time in their zone or
else that of the clock, and the fleet that the inventory lists. -/
structure Reads (m : Machine) (a : Arguments) (s : Settings) (t : Instant)
    (fleet : List Resource) : Prop where
  settings : m.ReadsSettings a s
  given : ∀ text, a.wallClock = some text → m.library.readWallClock s.zone text = .ok t
  clock : a.wallClock = none → t = m.clock
  fleet : Inventory.load m.files a.inventory = .ok fleet

/-- An input of a run is rejected: the text of the settings, a settings file that is none, the
wall-clock time in the zone of the settings, or the inventory. -/
inductive Rejects (m : Machine) (a : Arguments) : Prop where
  | settings {text : String} {e : SettingsError} (wanted : m.WantsFile a)
      (content : m.files.text (m.settingsPath a) = .ok text)
      (fault : Settings.ofTextIn m.library.zones text = .error e) : Rejects m a
  | noText {e : FileError} (wanted : m.WantsFile a)
      (content : m.files.text (m.settingsPath a) = .error e) : Rejects m a
  | wallClock {s : Settings} {text : String} {e : WallClockError} (settings : m.ReadsSettings a s)
      (given : a.wallClock = some text)
      (fault : m.library.readWallClock s.zone text = .error e) : Rejects m a
  | fleet {e : InventoryError} (fault : Inventory.load m.files a.inventory = .error e) :
      Rejects m a

variable {m : Machine} {a : Arguments} {s : Settings} {t : Instant} {fleet : List Resource}

/-! ## Settings -/

theorem load_eq_ok_iff {zones : List Zone} {files : FileSystem} {path : String} :
    Settings.load zones files path = .ok s ↔
      ∃ text, files.text path = .ok text ∧ Settings.ofTextIn zones text = .ok s := by
  unfold Settings.load
  cases files.text path <;> simp

theorem settingsFor_of_wantsFile (wanted : m.WantsFile a) :
    m.settingsFor a =
      (Settings.load m.library.zones m.files (m.settingsPath a)).mapError
        (.settings (m.settingsPath a)) := by
  unfold WantsFile at wanted
  unfold settingsFor settingsPath Surroundings.loadSettings
  cases hnamed : a.settings with
  | some path =>
    rfl
  | none =>
    simp only [hnamed, ne_eq, not_true_eq_false, false_or] at wanted
    simp [wanted]

theorem settingsFor_of_not_wantsFile (unwanted : ¬ m.WantsFile a) :
    m.settingsFor a = .ok .default := by
  unfold WantsFile at unwanted
  unfold settingsFor
  cases hnamed : a.settings with
  | some path =>
    simp [hnamed] at unwanted
  | none =>
    simp only [hnamed, ne_eq, not_true_eq_false, false_or] at unwanted
    simp [unwanted]

theorem settingsFor_eq_ok_iff : m.settingsFor a = .ok s ↔ m.ReadsSettings a s := by
  constructor
  · intro h
    by_cases wanted : m.WantsFile a
    · rw [settingsFor_of_wantsFile wanted, mapError_eq_ok_iff, load_eq_ok_iff] at h
      rcases h with ⟨text, content, settings⟩
      exact .file wanted content settings
    · rw [settingsFor_of_not_wantsFile wanted] at h
      cases h
      exact .builtIn wanted
  · intro h
    cases h with
    | file wanted content settings =>
      rw [settingsFor_of_wantsFile wanted, mapError_eq_ok_iff, load_eq_ok_iff]
      exact ⟨_, content, settings⟩
    | builtIn unwanted =>
      exact settingsFor_of_not_wantsFile unwanted

/-- Settings that are read are those that are given, with defaults for the others. -/
theorem ReadsSettings.exists_given (h : m.ReadsSettings a s) :
    ∃ g, m.Gives a g ∧ s.Follows m.library.zones g := by
  cases h with
  | file wanted content settings =>
    rcases Settings.exists_given_of_ofTextIn settings with ⟨g, hgiven, -, -, rfl⟩
    exact ⟨g, .file wanted content hgiven, Settings.follows_toSettingsIn _ g⟩
  | builtIn unwanted =>
    exact ⟨_, .builtIn unwanted, Settings.follows_toSettingsIn _ ⟨settingsVersion, .empty, .empty⟩⟩

/-- There is one way to read the settings. -/
theorem ReadsSettings.unique {s' : Settings} (h : m.ReadsSettings a s)
    (h' : m.ReadsSettings a s') : s = s' := by
  have heq : Except.ok (ε := Failure) s = .ok s' :=
    (settingsFor_eq_ok_iff.2 h).symm.trans (settingsFor_eq_ok_iff.2 h')
  exact Except.ok.inj heq

/-! ## All inputs -/

theorem instantFor_eq_ok_iff :
    m.instantFor a s = .ok t ↔
      (∀ text, a.wallClock = some text → m.library.readWallClock s.zone text = .ok t) ∧
        (a.wallClock = none → t = m.clock) := by
  unfold instantFor
  cases a.wallClock with
  | none =>
    simp [eq_comm]
  | some text =>
    simp [mapError_eq_ok_iff]

/-- A cycle is carried out exactly with inputs that can be read. -/
theorem cycle_eq_ok_iff {result : CycleSummary × Journal} :
    m.cycle a = .ok result ↔
      ∃ s t fleet, m.Reads a s t fleet ∧ m.carryOut (withDryRun a s) t fleet = result := by
  constructor
  · intro h
    rcases bind_eq_ok_iff.1 h with ⟨s, hs, hrest⟩
    rcases bind_eq_ok_iff.1 hrest with ⟨t, ht, hrest⟩
    rcases bind_eq_ok_iff.1 hrest with ⟨fleet, hfleet, hresult⟩
    cases hresult
    have hinstant := instantFor_eq_ok_iff.1 ht
    exact ⟨s, t, fleet, ⟨settingsFor_eq_ok_iff.1 hs, hinstant.1, hinstant.2,
      mapError_eq_ok_iff.1 hfleet⟩, rfl⟩
  · rintro ⟨s, t, fleet, reads, rfl⟩
    have hs := settingsFor_eq_ok_iff.2 reads.settings
    -- the zone is that of the settings, with or without a dry run
    have ht : m.instantFor a (withDryRun a s) = .ok t :=
      instantFor_eq_ok_iff.2 ⟨reads.given, reads.clock⟩
    have hfleet : m.fleetFor a = .ok fleet := mapError_eq_ok_iff.2 reads.fleet
    simp only [cycle, hs, bind, Except.bind, ht, hfleet]
    rfl

theorem Reads.not_rejects (reads : m.Reads a s t fleet) : ¬ m.Rejects a := by
  intro rejects
  cases rejects with
  | settings wanted content fault =>
    cases reads.settings with
    | file _ content' settings =>
      cases content.symm.trans content'
      cases settings.symm.trans fault
    | builtIn unwanted =>
      exact unwanted wanted
  | noText wanted content =>
    cases reads.settings with
    | file _ content' settings =>
      cases content.symm.trans content'
    | builtIn unwanted =>
      exact unwanted wanted
  | wallClock settings given fault =>
    rw [settings.unique reads.settings, reads.given _ given] at fault
    cases fault
  | fleet fault =>
    cases reads.fleet.symm.trans fault

theorem readsSettings_or_rejects (m : Machine) (a : Arguments) :
    (∃ s, m.ReadsSettings a s) ∨ m.Rejects a := by
  by_cases wanted : m.WantsFile a
  · cases content : m.files.text (m.settingsPath a) with
    | ok text =>
      cases settings : Settings.ofTextIn m.library.zones text with
      | ok s =>
        exact .inl ⟨s, .file wanted content settings⟩
      | error e =>
        exact .inr (.settings wanted content settings)
    | error e =>
      exact .inr (.noText wanted content)
  · exact .inl ⟨_, .builtIn wanted⟩

/-- Either all inputs can be read, or one of them is rejected. -/
theorem reads_or_rejects (m : Machine) (a : Arguments) :
    (∃ s t fleet, m.Reads a s t fleet) ∨ m.Rejects a := by
  rcases m.readsSettings_or_rejects a with ⟨s, hs⟩ | hrejects
  · cases hfleet : Inventory.load m.files a.inventory with
    | error e =>
      exact .inr (.fleet hfleet)
    | ok fleet =>
      cases htext : a.wallClock with
      | none =>
        exact .inl ⟨s, m.clock, fleet, hs, by simp [htext], fun _ => rfl, hfleet⟩
      | some text =>
        cases hread : m.library.readWallClock s.zone text with
        | ok t =>
          exact .inl ⟨s, t, fleet, hs, by simp [htext, hread], by simp [htext], hfleet⟩
        | error e =>
          exact .inr (.wallClock hs htext hread)
  · exact .inr hrejects

end Machine
end FleetLifecycle
