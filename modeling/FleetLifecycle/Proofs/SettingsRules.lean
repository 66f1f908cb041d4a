import FleetLifecycle.Proofs.AcceptedSettings
import FleetLifecycle.Zone.Bundled
import Mathlib.Data.List.Forall2

/-!
# Settings rules — which rules are reported, and what accepted settings are good for

Given settings are checked rule by rule, and defaults are filled in afterwards.  The two agree: each
broken rule is reported once, and where none is broken the settings in force keep them all, given or
not.  Concretely, we:

1. say what an address is (`IsAddress`) and when given settings break a rule
   (`GivenSettings.Breaks`);
2. show of each rule that its fault is reported exactly if it is broken (`GivenSettings.Reports`);
3. put the rules together in `GivenSettings.reports_broken`, which rules are reported and what
   becomes of a settings text;
4. say when settings can be relied on (`Settings.Reliable`), and conclude with
   `Settings.reliable_of_ofTextIn`.
-/

namespace FleetLifecycle

/-! ## Addresses -/

/-- An address has one at sign and something on either side of it. -/
def IsAddress (address : String) : Prop :=
  ∃ name domain, address.toList = name ++ '@' :: domain ∧ name ≠ [] ∧ domain ≠ [] ∧
    '@' ∉ name ∧ '@' ∉ domain

theorem isPlausibleAddress_iff {address : String} :
    isPlausibleAddress address = true ↔ IsAddress address := by
  unfold isPlausibleAddress
  constructor
  · intro h
    by_cases hsign : '@' ∈ address.toList
    · obtain ⟨name, domain, hparts, hname⟩ := List.eq_append_cons_of_mem hsign
      rw [hparts, Text.splitFirst_append hname] at h
      simp only [Bool.and_eq_true, Bool.not_eq_true', List.isEmpty_eq_false_iff,
        List.contains_eq_mem, decide_eq_false_iff_not] at h
      exact ⟨name, domain, hparts, h.1.1, h.1.2, hname, h.2⟩
    · rw [Text.splitFirst_of_notMem hsign] at h
      cases h
  · rintro ⟨name, domain, hparts, hname, hdomain, hfirst, hsecond⟩
    rw [hparts, Text.splitFirst_append hfirst]
    simp [hname, hdomain, hsecond]

/-! ## Rules -/

/-- The tags that settings name. -/
inductive NamedTag where
  | policy
  | marker
  | identifier
  deriving DecidableEq

/-- Where settings name the tag. -/
def NamedTag.path : NamedTag → String
  | .policy => "automanage.policy_tag"
  | .marker => "gate.marker_tag"
  | .identifier => "gate.identifier_tag"

/-- A setting that is given or left out. -/
inductive SettingsField where
  | version
  | timezone
  | dryRun
  | snapshotOnStop
  | sender
  | tagName (tag : NamedTag)
  deriving DecidableEq

/-- A rule for given settings. -/
inductive SettingsRule where
  | zone
  | sender
  | tagName (tag : NamedTag)
  | distinctTags
  deriving DecidableEq

namespace SettingsRule

/-- The rules in the order in which they are reported. -/
def inOrder : List SettingsRule :=
  [.zone, .sender, .tagName .policy, .tagName .marker, .tagName .identifier, .distinctTags]

/-- The settings that a rule is about. -/
def fields : SettingsRule → List SettingsField
  | .zone => [.timezone]
  | .sender => [.sender]
  | .tagName tag => [.tagName tag]
  | .distinctTags => [.tagName .marker, .tagName .identifier]

theorem mem_inOrder (rule : SettingsRule) : rule ∈ inOrder := by
  rcases rule with _ | _ | (_ | _ | _) | _ <;> decide

end SettingsRule

/-- There is nothing but white space in the name, if anything at all. -/
def IsBlankName (name : String) : Prop :=
  ∀ ch ∈ name.toList, Text.isBlank ch = true

theorem isBlankText_iff {name : String} : Text.isBlankText name = true ↔ IsBlankName name :=
  List.all_eq_true

theorem Zone.readIn?_eq_none_iff {zones : List Zone} {name : String} :
    readIn? zones name = none ↔ ∀ z ∈ zones, z.name ≠ Text.trim name := by
  simp [readIn?, named?]

theorem Zone.mem_and_name_of_readIn? {zones : List Zone} {name : String} {z : Zone}
    (h : readIn? zones name = some z) : z ∈ zones ∧ z.name = Text.trim name :=
  ⟨List.mem_of_find?_eq_some h, by simpa using List.find?_some h⟩

namespace GivenSettings

/-- The name that is given for a tag. -/
def tagName (g : GivenSettings) : NamedTag → Option String
  | .policy => g.evaluation.policyTag
  | .marker => g.gate.marker
  | .identifier => g.gate.identifier

/-- The given settings say the same of a setting. -/
def SameAt (g g' : GivenSettings) : SettingsField → Prop
  | .version => g.version = g'.version
  | .timezone => g.evaluation.timezone = g'.evaluation.timezone
  | .dryRun => g.evaluation.dryRun = g'.evaluation.dryRun
  | .snapshotOnStop => g.evaluation.snapshotOnStop = g'.evaluation.snapshotOnStop
  | .sender => g.evaluation.sender = g'.evaluation.sender
  | .tagName tag => g.tagName tag = g'.tagName tag

theorem SameAt.symm {g g' : GivenSettings} {field : SettingsField} (h : g.SameAt g' field) :
    g'.SameAt g field := by
  cases field <;> exact Eq.symm h

/-- The given settings break the rule, and the fault says how. -/
inductive Breaks (zones : List Zone) (g : GivenSettings) : SettingsRule → SettingsFault → Prop where
  | zone {name : String} (given : g.evaluation.timezone = some name)
      (unknown : ∀ z ∈ zones, z.name ≠ Text.trim name) : Breaks zones g .zone (.unknownZone name)
  | sender {address : String} (given : g.evaluation.sender = some address)
      (bad : ¬ IsAddress address) : Breaks zones g .sender (.badSender address)
  | tagName {tag : NamedTag} {name : String} (given : g.tagName tag = some name)
      (blank : IsBlankName name) : Breaks zones g (.tagName tag) (.blankTagName tag.path)
  -- the names in force are the defaults where none are given
  | distinctTags {name : String} (marker : (g.tagName .marker).getD "fleet-group" = name)
      (identifier : (g.tagName .identifier).getD "fleet-member-id" = name) :
      Breaks zones g .distinctTags (.sameGateTags name)

/-- The faults reported of a rule: one if it is broken, and none if it is kept. -/
inductive Reports (zones : List Zone) (g : GivenSettings) (rule : SettingsRule) :
    List SettingsFault → Prop where
  | kept : (∀ fault, ¬ g.Breaks zones rule fault) → Reports zones g rule []
  | broken {fault : SettingsFault} : g.Breaks zones rule fault → Reports zones g rule [fault]

variable {zones : List Zone} {g g' : GivenSettings} {rule : SettingsRule} {fault : SettingsFault}

/-- A rule looks at its own settings and at nothing else. -/
theorem Breaks.congr (h : g.Breaks zones rule fault)
    (same : ∀ field ∈ rule.fields, g.SameAt g' field) : g'.Breaks zones rule fault := by
  cases h with
  | zone given unknown =>
    have hzone : g.evaluation.timezone = g'.evaluation.timezone := same .timezone List.mem_cons_self
    exact .zone (hzone ▸ given) unknown
  | sender given bad =>
    have hsender : g.evaluation.sender = g'.evaluation.sender := same .sender List.mem_cons_self
    exact .sender (hsender ▸ given) bad
  | @tagName tag _ given blank =>
    have hname : g.tagName tag = g'.tagName tag := same (.tagName tag) List.mem_cons_self
    exact .tagName (hname ▸ given) blank
  | distinctTags marker identifier =>
    have hmarker : g.tagName .marker = g'.tagName .marker :=
      same (.tagName .marker) List.mem_cons_self
    have hidentifier : g.tagName .identifier = g'.tagName .identifier :=
      same (.tagName .identifier) (List.mem_cons_of_mem _ List.mem_cons_self)
    exact .distinctTags (hmarker ▸ marker) (hidentifier ▸ identifier)

/-! ## What is reported of a rule -/

/-- A rule for one setting is broken by a text that is given and does not do. -/
theorem reports_faultOf {given : Option String} {bad : String → Bool}
    {faultFor : String → SettingsFault}
    (hbreaks : ∀ fault, g.Breaks zones rule fault ↔
      ∃ text, given = some text ∧ bad text = true ∧ faultFor text = fault) :
    g.Reports zones rule (faultOf given bad faultFor) := by
  cases given with
  | none =>
    exact .kept (by simp [hbreaks])
  | some text =>
    by_cases hbad : bad text = true
    · simp only [faultOf, hbad, if_true]
      exact .broken ((hbreaks _).2 ⟨text, rfl, hbad, rfl⟩)
    · simp only [faultOf, hbad]
      exact .kept (by simp [hbreaks, hbad])

theorem reports_zone : g.Reports zones .zone (g.evaluation.zoneFaults zones) := by
  refine reports_faultOf (fun fault => ?_)
  simp only [Option.isNone_iff_eq_none, Zone.readIn?_eq_none_iff]
  constructor
  · intro h
    cases h with
    | zone given unknown =>
      exact ⟨_, given, unknown, rfl⟩
  · rintro ⟨name, given, unknown, rfl⟩
    exact .zone given unknown

theorem reports_sender : g.Reports zones .sender g.evaluation.senderFaults := by
  refine reports_faultOf (fun fault => ?_)
  simp only [Bool.not_eq_true', ← Bool.not_eq_true, isPlausibleAddress_iff]
  constructor
  · intro h
    cases h with
    | sender given bad =>
      exact ⟨_, given, bad, rfl⟩
  · rintro ⟨address, given, bad, rfl⟩
    exact .sender given bad

theorem reports_tagName (tag : NamedTag) :
    g.Reports zones (.tagName tag) (blankName tag.path (g.tagName tag)) := by
  refine reports_faultOf (fun fault => ?_)
  simp only [isBlankText_iff]
  constructor
  · intro h
    cases h with
    | tagName given blank =>
      exact ⟨_, given, blank, rfl⟩
  · rintro ⟨name, given, blank, rfl⟩
    exact .tagName given blank

theorem reports_distinctTags : g.Reports zones .distinctTags g.gate.tagFaults := by
  unfold GivenGate.tagFaults
  by_cases hsame : g.gate.toGateTags.marker = g.gate.toGateTags.identifier
  · simp only [hsame, if_true]
    exact .broken (.distinctTags hsame rfl)
  · simp only [hsame, if_false]
    refine .kept (fun fault h => ?_)
    cases h with
    | distinctTags marker identifier =>
      exact hsame (marker.trans identifier.symm)

/-- The faults of given settings are those of the rules, one rule after the other. -/
theorem exists_reports (zones : List Zone) (g : GivenSettings) :
    ∃ reported, List.Forall₂ (g.Reports zones) SettingsRule.inOrder reported ∧
      reported.flatten = g.faultsIn zones := by
  refine ⟨_, .cons reports_zone (.cons reports_sender (.cons (reports_tagName .policy)
    (.cons (reports_tagName .marker) (.cons (reports_tagName .identifier)
      (.cons reports_distinctTags .nil))))), ?_⟩
  simp [faultsIn, GivenEvaluation.faults, GivenGate.faults, NamedTag.path, tagName]

open Classical in
/-- Of the rules that are reported on, the broken ones have a fault each. -/
theorem forall₂_breaks {rules : List SettingsRule} {reported : List (List SettingsFault)}
    (h : List.Forall₂ (g.Reports zones) rules reported) :
    List.Forall₂ (g.Breaks zones)
      (rules.filter (fun rule => ∃ fault, g.Breaks zones rule fault)) reported.flatten := by
  induction h with
  | nil =>
    exact .nil
  | cons hrule _ ih =>
    cases hrule with
    | kept hkept =>
      simpa [hkept] using ih
    | @broken fault hbroken =>
      have hsome : ∃ fault, g.Breaks zones _ fault := ⟨fault, hbroken⟩
      simpa [List.filter_cons, hsome] using List.Forall₂.cons hbroken ih

/-- The rules that are broken are reported, each once and in order. -/
theorem exists_broken (zones : List Zone) (g : GivenSettings) :
    ∃ broken, broken.Sublist SettingsRule.inOrder ∧
      List.Forall₂ (g.Breaks zones) broken (g.faultsIn zones) ∧
        ∀ rule, rule ∈ broken ↔ ∃ fault, g.Breaks zones rule fault := by
  classical
  obtain ⟨reported, hreports, hfaults⟩ := exists_reports zones g
  refine ⟨_, List.filter_sublist, hfaults ▸ forall₂_breaks hreports, fun rule => ?_⟩
  simp [SettingsRule.mem_inOrder]

theorem Breaks.unique {fault' : SettingsFault} (h : g.Breaks zones rule fault)
    (h' : g.Breaks zones rule fault') : fault = fault' := by
  cases h with
  | zone given =>
    cases h' with
    | zone given' =>
      rw [Option.some.inj (given.symm.trans given')]
  | sender given =>
    cases h' with
    | sender given' =>
      rw [Option.some.inj (given.symm.trans given')]
  | tagName =>
    cases h' with
    | tagName =>
      rfl
  | distinctTags marker =>
    cases h' with
    | distinctTags marker' =>
      rw [marker.symm.trans marker']

theorem Breaks.mem_faultsIn (h : g.Breaks zones rule fault) : fault ∈ g.faultsIn zones := by
  obtain ⟨broken, -, hfaults, hbroken⟩ := exists_broken zones g
  obtain ⟨i, hi, hrule⟩ := List.getElem_of_mem ((hbroken rule).2 ⟨fault, h⟩)
  have hi' : i < (g.faultsIn zones).length := hfaults.length_eq ▸ hi
  -- the fault in the place of the rule is the only one there can be of the rule
  have h' : g.Breaks zones rule (g.faultsIn zones)[i] := hrule ▸ hfaults.get hi hi'
  rw [h.unique h']
  exact List.getElem_mem hi'

/-- No fault is reported of settings that keep all rules. -/
theorem faultsIn_eq_nil_iff :
    g.faultsIn zones = [] ↔ ∀ rule fault, ¬ g.Breaks zones rule fault := by
  constructor
  · intro hnone rule fault h
    exact absurd h.mem_faultsIn (hnone ▸ List.not_mem_nil)
  · intro hkept
    obtain ⟨broken, -, hfaults, hbroken⟩ := exists_broken zones g
    have hnone : broken = [] := by
      refine List.eq_nil_iff_forall_not_mem.2 (fun rule hrule => ?_)
      obtain ⟨fault, h⟩ := (hbroken rule).1 hrule
      exact hkept rule fault h
    rwa [hnone, List.forall₂_nil_left_iff] at hfaults

/-- The faults of given settings are those of the rules that they break, each reported once and in
order, so that a setting has no say in what is reported of rules about others.  A text that gives
settings is refused for its version first, whatever else is wrong with it, next for all broken rules
together, and has settings otherwise. -/
theorem reports_broken (zones : List Zone) :
    (∀ g : GivenSettings, ∃ broken, broken.Sublist SettingsRule.inOrder ∧
      List.Forall₂ (g.Breaks zones) broken (g.faultsIn zones) ∧
        ∀ rule, rule ∈ broken ↔ ∃ fault, g.Breaks zones rule fault) ∧
    (∀ (g g' : GivenSettings) (field : SettingsField),
      (∀ other, other ≠ field → g.SameAt g' other) →
        ∀ rule : SettingsRule, field ∉ rule.fields → ∀ fault,
          g.Breaks zones rule fault ∧ fault ∈ g.faultsIn zones ↔
            g'.Breaks zones rule fault ∧ fault ∈ g'.faultsIn zones) ∧
    ∀ (text : String) (g : GivenSettings), ofText text = .ok g →
      (g.version ≠ 1 → Settings.ofTextIn zones text = .error (.unsupportedVersion g.version)) ∧
      (g.version = 1 → g.faultsIn zones ≠ [] →
        Settings.ofTextIn zones text = .error (.invalid (g.faultsIn zones))) ∧
      (g.version = 1 → g.faultsIn zones = [] →
        Settings.ofTextIn zones text = .ok (g.toSettingsIn zones)) := by
  refine ⟨exists_broken zones, ?_, ?_⟩
  · intro g g' field same rule hrule fault
    have hsame : ∀ other ∈ rule.fields, g.SameAt g' other := by
      intro other hother
      refine same other ?_
      rintro rfl
      exact hrule hother
    constructor
    · rintro ⟨h, -⟩
      have h' := h.congr hsame
      exact ⟨h', h'.mem_faultsIn⟩
    · rintro ⟨h', -⟩
      have h := h'.congr (fun other hother => (hsame other hother).symm)
      exact ⟨h, h.mem_faultsIn⟩
  · intro text g hgiven
    have htext : Settings.ofTextIn zones text = g.acceptIn zones := by
      rw [Settings.ofTextIn, hgiven]
      rfl
    rw [htext, acceptIn, settingsVersion]
    refine ⟨?_, ?_, ?_⟩
    · intro hversion
      rw [if_pos hversion]
    · intro hversion hfaults
      rw [if_neg (not_not.2 hversion), if_neg hfaults]
    · intro hversion hfaults
      rw [if_neg (not_not.2 hversion), if_pos hfaults]

/-- Four broken rules are reported together, that about the zone also where the sender is an
address, and none of them where the version is another. -/
theorem reports_broken_together :
    let text := fun version => "config_version = " ++ version ++ "\n[automanage]\n" ++
      "timezone = 'Mars/Olympus_Mons'\nemail_from = 'nobody'\npolicy_tag = ' '\n" ++
      "[gate]\nmarker_tag = 'fleet-member-id'\n"
    let evaluation := fun sender : String =>
      GivenEvaluation.mk (some "Mars/Olympus_Mons") none none (some sender) (some " ")
    let gate := GivenGate.mk (some "fleet-member-id") none
    let unknown := SettingsFault.unknownZone "Mars/Olympus_Mons"
    let zones := ZoneLibrary.bundled.zones
    Settings.ofTextIn zones (text "1") = .error (.invalid [unknown, .badSender "nobody",
        .blankTagName "automanage.policy_tag", .sameGateTags "fleet-member-id"]) ∧
      unknown ∈ (GivenSettings.mk 1 (evaluation "ops@example.com") gate).faultsIn zones ∧
      Settings.ofTextIn zones (text "2") = .error (.unsupportedVersion 2) := by
  intro text evaluation gate unknown zones
  obtain ⟨-, hother, htext⟩ := reports_broken zones
  have hgiven : ofText (text "1") = .ok ⟨1, evaluation "nobody", gate⟩ :=
    eq_ok_of_toOption (by decide +kernel)
  have hgiven' : ofText (text "2") = .ok ⟨2, evaluation "nobody", gate⟩ :=
    eq_ok_of_toOption (by decide +kernel)
  have hfaults : faultsIn zones ⟨1, evaluation "nobody", gate⟩ = [unknown, .badSender "nobody",
      .blankTagName "automanage.policy_tag", .sameGateTags "fleet-member-id"] := by
    decide +kernel
  have hbreaks : Breaks zones ⟨1, evaluation "nobody", gate⟩ .zone unknown :=
    .zone rfl (by decide +kernel)
  have hsame : ∀ field, field ≠ .sender →
      SameAt ⟨1, evaluation "nobody", gate⟩ ⟨1, evaluation "ops@example.com", gate⟩ field := by
    intro field hne
    cases field with
    | sender => exact absurd rfl hne
    | tagName tag => cases tag <;> rfl
    | _ => rfl
  refine ⟨?_, ?_, (htext _ _ hgiven').1 (by decide)⟩
  · rw [← hfaults]
    exact (htext _ _ hgiven).2.1 rfl (by simp [hfaults])
  · exact ((hother _ _ .sender hsame .zone (by decide) unknown).1 ⟨hbreaks, hbreaks.mem_faultsIn⟩).2

end GivenSettings

namespace Settings

/-- What a cycle relies on in its settings, when the given name of the zone is known: the zone is
the one that is named, in a table of zones, and UTC only if that is named or none is. -/
structure Reliable (zones : List Zone) (timezone : Option String) (s : Settings) : Prop where
  notGiven : timezone = none → s.zone = Zone.utc
  given : ∀ name, timezone = some name → s.zone ∈ zones ∧ s.zone.name = Text.trim name
  utc : s.zone = Zone.utc →
    timezone = none ∨ ∃ name, timezone = some name ∧ Text.trim name = "UTC"
  sender : IsAddress s.sender
  policyTag : ¬ IsBlankName s.policyTag
  marker : ¬ IsBlankName s.gate.marker
  identifier : ¬ IsBlankName s.gate.identifier
  distinctTags : s.gate.marker ≠ s.gate.identifier

section

variable {zones : List Zone} {g : GivenSettings}

/-- A zone that is given is known unless the rule about it is broken. -/
theorem exists_zone_of_kept (kept : ∀ rule fault, ¬ g.Breaks zones rule fault) {name : String}
    (given : g.evaluation.timezone = some name) : ∃ z, Zone.readIn? zones name = some z := by
  rw [← Option.ne_none_iff_exists']
  intro hnone
  exact kept _ _ (.zone given (Zone.readIn?_eq_none_iff.1 hnone))

theorem isAddress_of_kept (kept : ∀ rule fault, ¬ g.Breaks zones rule fault) :
    IsAddress (g.evaluation.sender.getD default.sender) := by
  cases given : g.evaluation.sender with
  | none =>
    exact isPlausibleAddress_iff.1 (by decide)
  | some address =>
    by_contra bad
    exact kept _ _ (.sender given bad)

/-- A name that is given is not blank unless the rule about it is broken. -/
theorem not_blank_of_kept (kept : ∀ rule fault, ¬ g.Breaks zones rule fault) (tag : NamedTag)
    {name : String} (default : Text.isBlankText name = false) :
    ¬ IsBlankName ((g.tagName tag).getD name) := by
  cases given : g.tagName tag with
  | none =>
    simpa [← isBlankText_iff] using default
  | some name =>
    exact fun hblank => kept _ _ (.tagName given hblank)

/-- Settings can be relied on if no rule is broken. -/
theorem reliable_of_kept (kept : ∀ rule fault, ¬ g.Breaks zones rule fault) :
    (g.toSettingsIn zones).Reliable zones g.evaluation.timezone := by
  have follows := follows_toSettingsIn zones g
  have hgiven : ∀ name, g.evaluation.timezone = some name →
      (g.toSettingsIn zones).zone ∈ zones ∧
        (g.toSettingsIn zones).zone.name = Text.trim name := by
    intro name given
    obtain ⟨z, hz⟩ := exists_zone_of_kept kept given
    rw [follows.inZone name z given hz]
    exact Zone.mem_and_name_of_readIn? hz
  constructor
  case notGiven =>
    exact follows.inUtc
  case given =>
    exact hgiven
  case utc =>
    intro hutc
    cases given : g.evaluation.timezone with
    | none =>
      exact .inl rfl
    | some name =>
      -- the zone has the name that is given, and UTC has its own
      have hname := (hgiven name given).2
      rw [hutc] at hname
      exact .inr ⟨name, rfl, hname.symm⟩
  case sender =>
    exact isAddress_of_kept kept
  case policyTag =>
    exact not_blank_of_kept kept .policy (by decide)
  case marker =>
    exact not_blank_of_kept kept .marker (by decide)
  case identifier =>
    exact not_blank_of_kept kept .identifier (by decide)
  case distinctTags =>
    exact fun hsame => kept _ _ (.distinctTags hsame rfl)

end

/-- Settings that are accepted can be relied on, whatever is given in the text and whatever is left
out: the zone is the one that the text names, never another in its stead; the sender is an address;
and the names of tags are not blank, nor are the two of the gate the same. -/
theorem reliable_of_ofTextIn {zones : List Zone} {text : String} {s : Settings}
    (h : ofTextIn zones text = .ok s) :
    ∃ g, GivenSettings.ofText text = .ok g ∧ s.Reliable zones g.evaluation.timezone := by
  obtain ⟨g, hgiven, -, hfaults, rfl⟩ := exists_given_of_ofTextIn h
  exact ⟨g, hgiven, reliable_of_kept (GivenSettings.faultsIn_eq_nil_iff.1 hfaults)⟩

/-- A text that names a zone between blanks and one of the tags of the gate. -/
theorem reliable_of_ofTextIn_berlin :
    let text := "config_version = 1\n[automanage]\ntimezone = ' Europe/Berlin '\n" ++
      "[gate]\nmarker_tag = 'asg-name'\n"
    let s : Settings :=
      { default with zone := Zone.berlin, gate := ⟨"asg-name", defaultIdentifier⟩ }
    ofTextIn ZoneLibrary.bundled.zones text = .ok s ∧
      s.zone.name = Text.trim " Europe/Berlin " ∧ IsAddress s.sender ∧
        s.gate.marker ≠ s.gate.identifier := by
  intro text s
  have htext : ofTextIn ZoneLibrary.bundled.zones text = .ok s :=
    eq_ok_of_toOption (by decide +kernel)
  have hgiven : GivenSettings.ofText text =
      .ok ⟨1, ⟨some " Europe/Berlin ", none, none, none, none⟩, ⟨some "asg-name", none⟩⟩ :=
    eq_ok_of_toOption (by decide +kernel)
  obtain ⟨g, hg, hreliable⟩ := reliable_of_ofTextIn htext
  rw [hgiven, Except.ok.injEq] at hg
  subst hg
  exact ⟨htext, (hreliable.given _ rfl).2, hreliable.sender, hreliable.distinctTags⟩

end Settings
end FleetLifecycle
