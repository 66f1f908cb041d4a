import FleetLifecycle.Proofs.PolicyTexts
import FleetLifecycle.Settings.Reading
import Mathlib.Data.List.TakeWhile

/-!
# Accepted settings — when the gate protects a resource without an identifier

Settings are accepted if the two tags of the gate have different names.  Nothing is said of the tag
that holds the policy, which may bear the name of the identifier: then a policy passes for an
identifier, and the gate stands open.  Concretely, we:

1. follow a settings text to the rules that it keeps (`Settings.exists_given_of_ofTextIn`), and the
   settings to what is given or left out in it (`Settings.Follows`);
2. look at resources that carry a policy and the mark of a group, and nothing else
   (`Resource.CarriesOnly`);
3. show in `Settings.gate_effective_iff` that the gate holds them back exactly if policy and
   identifier are different tags.
-/

namespace FleetLifecycle

/-! ## Rules that accepted settings keep -/

namespace GivenSettings

variable {zones : List Zone} {g : GivenSettings} {s : Settings}

theorem acceptIn_eq_ok_iff :
    g.acceptIn zones = .ok s ↔
      g.version = settingsVersion ∧ g.faultsIn zones = [] ∧ g.toSettingsIn zones = s := by
  unfold acceptIn
  by_cases hversion : g.version = settingsVersion
  · by_cases hfaults : g.faultsIn zones = []
    · simp [hversion, hfaults]
    · simp [hversion, hfaults]
  · simp [hversion]

theorem marker_ne_identifier (h : g.faultsIn zones = []) :
    (g.toSettingsIn zones).gate.marker ≠ (g.toSettingsIn zones).gate.identifier := by
  intro heq
  -- equal names would be a fault of the section of the gate
  have hfault : SettingsFault.sameGateTags g.gate.toGateTags.marker ∈ g.faultsIn zones := by
    have heq' : g.gate.toGateTags.marker = g.gate.toGateTags.identifier := heq
    simp [faultsIn, GivenGate.faults, GivenGate.tagFaults, heq']
  simp [h] at hfault

end GivenSettings

namespace Settings

/-- Settings in a text are those that the text gives, and no rule is broken. -/
theorem exists_given_of_ofTextIn {zones : List Zone} {text : String} {s : Settings}
    (h : ofTextIn zones text = .ok s) :
    ∃ g, GivenSettings.ofText text = .ok g ∧ g.version = settingsVersion ∧
      g.faultsIn zones = [] ∧ g.toSettingsIn zones = s := by
  rcases bind_eq_ok_iff.1 h with ⟨g, hgiven, haccept⟩
  exact ⟨g, hgiven, GivenSettings.acceptIn_eq_ok_iff.1 haccept⟩

/-- Each setting is the one that is given, or else its default. -/
structure Follows (s : Settings) (zones : List Zone) (g : GivenSettings) : Prop where
  inUtc : g.evaluation.timezone = none → s.zone = Zone.utc
  inZone : ∀ name z, g.evaluation.timezone = some name → Zone.readIn? zones name = some z →
    s.zone = z
  dryRun : s.dryRun = g.evaluation.dryRun.getD false
  snapshotOnStop : s.snapshotOnStop = g.evaluation.snapshotOnStop.getD true
  sender : s.sender = g.evaluation.sender.getD "automanage@localhost"
  policyTag : s.policyTag = g.evaluation.policyTag.getD "lifecycle-policy"
  marker : s.gate.marker = g.gate.marker.getD "fleet-group"
  identifier : s.gate.identifier = g.gate.identifier.getD "fleet-member-id"

theorem follows_toSettingsIn (zones : List Zone) (g : GivenSettings) :
    (g.toSettingsIn zones).Follows zones g where
  inUtc := by
    intro hnone
    simp [GivenSettings.toSettingsIn, hnone, default]
  inZone := by
    intro name z hname hz
    simp [GivenSettings.toSettingsIn, hname, hz]
  dryRun := rfl
  snapshotOnStop := rfl
  sender := rfl
  policyTag := rfl
  marker := rfl
  identifier := rfl

theorem marker_ne_identifier_of_ofTextIn {zones : List Zone} {text : String} {s : Settings}
    (h : ofTextIn zones text = .ok s) : s.gate.marker ≠ s.gate.identifier := by
  rcases exists_given_of_ofTextIn h with ⟨g, -, -, hfaults, rfl⟩
  exact GivenSettings.marker_ne_identifier hfaults

end Settings

/-! ## Blank policies -/

/-- A tag of nothing but white space asks for nothing. -/
theorem Policy.parse_kind_of_blank {tag : String}
    (h : ∀ ch ∈ tag.toList, Text.isBlank ch = true) : (Policy.parse tag).kind = .none := by
  have htrim : Text.trimChars tag.toList = [] := Text.trimChars_eq_nil_iff.2 h
  simp [Policy.parse, htrim, Text.splitFirst, PolicyKind.ofToken]

theorem Resource.proposal_of_blank {tag : String} (h : ∀ ch ∈ tag.toList, Text.isBlank ch = true)
    (r : Resource) (c : Cycle) : r.proposal tag c = .none .noPolicy := by
  simp [Resource.proposal, Policy.decide, Decision.ofPolicy, Policy.parse_kind_of_blank h]

/-! ## Members of a group without an identifier -/

/-- The resource carries a policy and the mark of a group, each under its configured name, and no
other tag. -/
structure Resource.CarriesOnly (r : Resource) (s : Settings) (policy mark : String) : Prop where
  policy : r.tags.get? s.policyTag = some policy
  mark : r.tags.get? s.gate.marker = some mark
  only : ∀ name, name ≠ s.policyTag → name ≠ s.gate.marker → r.tags.get? name = none

namespace Resource.CarriesOnly

variable {r : Resource} {s : Settings} {policy mark : String}

/-- Such a resource can only be taken for one with an identifier if the policy is its identifier. -/
theorem unaddressable_iff (h : r.CarriesOnly s policy mark)
    (hne : s.gate.marker ≠ s.gate.identifier) :
    s.gate.Unaddressable r.tags ↔
      (s.gate.identifier = s.policyTag → ∀ ch ∈ policy.toList, Text.isBlank ch = true) := by
  constructor
  · intro hgate heq
    exact hgate.2 policy (heq ▸ h.policy)
  · intro hblank
    refine ⟨⟨mark, h.mark⟩, ?_⟩
    intro id hid
    by_cases heq : s.gate.identifier = s.policyTag
    · have hpolicy : id = policy := by
        rw [heq, h.policy] at hid
        exact (Option.some.inj hid).symm
      rw [hpolicy]
      exact hblank heq
    · -- the resource has no tag of that name
      rw [h.only _ heq hne.symm] at hid
      cases hid

/-- Its run state is changed exactly if its policy asks for that and passes for an identifier. -/
theorem action_request_mem (h : r.CarriesOnly s policy mark)
    (hne : s.gate.marker ≠ s.gate.identifier) (c : Cycle) :
    (s.request r (Policy.parse policy) c).action ∈ Action.runStateActions ↔
      s.gate.identifier = s.policyTag ∧ (r.proposal policy c).action ∈ Action.runStateActions := by
  rw [Settings.request_action]
  by_cases hgate : s.gate.Unaddressable r.tags
  · have hquiet := GateTags.action_apply_notMem (d := r.proposal policy c) hgate
    constructor
    · intro hmem
      exact absurd hmem hquiet
    · rintro ⟨heq, hmem⟩
      -- held back although the policy is its identifier: the policy is blank and asks for nothing
      have hblank := (h.unaddressable_iff hne).1 hgate heq
      rw [Resource.proposal_of_blank hblank] at hmem
      simp [Decision.none, Action.runStateActions] at hmem
  · -- let through: only the policy can have been its identifier
    have heq : s.gate.identifier = s.policyTag := by
      by_contra hdiff
      refine hgate ((h.unaddressable_iff hne).2 ?_)
      intro heq
      exact absurd heq hdiff
    rw [GateTags.apply_eq_self (fun hboth => hgate hboth.1)]
    simp [heq]

end Resource.CarriesOnly

namespace Settings

/-- A running machine that is pinned off and carries the mark of a group. -/
def pinnedMember (s : Settings) : Resource :=
  .compute ⟨"i-member", "running", none,
    (Tags.empty.insert s.policyTag "always-off").insert s.gate.marker "web"⟩

theorem carriesOnly_pinnedMember {s : Settings} (h : s.gate.marker ≠ s.policyTag) :
    s.pinnedMember.CarriesOnly s "always-off" "web" where
  policy := by
    simp [pinnedMember, Resource.tags, h]
  mark := by
    simp [pinnedMember, Resource.tags]
  only := by
    intro name hpolicy hmarker
    simp [pinnedMember, Resource.tags, hpolicy.symm, hmarker.symm]

/-- Whatever zones are known, accepted settings let the gate hold back every member of a group that
carries no other tag but its policy, exactly if the policy does not stand in the tag of the
identifier. -/
theorem gate_effective_iff {zones : List Zone} {text : String} {s : Settings}
    (h : ofTextIn zones text = .ok s) :
    (∀ (r : Resource) (policy mark : String) (id : CycleId) (t : Instant),
      r.CarriesOnly s policy mark →
        ∃ req, s.evaluate r (s.beginCycle id t) = some req ∧
          (req.action ∈ Action.runStateActions ↔
            s.gate.identifier = s.policyTag ∧
              (r.proposal policy (s.beginCycle id t)).action ∈ Action.runStateActions)) ∧
    ((∀ (r : Resource) (policy mark : String) (id : CycleId) (t : Instant) (req : ActionRequest),
      r.CarriesOnly s policy mark → s.evaluate r (s.beginCycle id t) = some req →
        req.action ∉ Action.runStateActions) ↔ s.gate.identifier ≠ s.policyTag) := by
  have hne := marker_ne_identifier_of_ofTextIn h
  refine ⟨?_, ?_, ?_⟩
  · intro r policy mark id t hr
    exact ⟨_, evaluate_eq_some hr.policy, hr.action_request_mem hne _⟩
  · intro hquiet heq
    -- a pinned member is stopped if the two tags are one
    have hr : s.pinnedMember.CarriesOnly s "always-off" "web" :=
      carriesOnly_pinnedMember (heq ▸ hne)
    refine hquiet _ _ _ .zero .epoch _ hr (evaluate_eq_some hr.policy) ?_
    rw [hr.action_request_mem hne, Resource.proposal_alwaysOff (by rfl)]
    exact ⟨heq, by simp [Action.runStateActions]⟩
  · intro hdiff r policy mark id t req hr hreq hmem
    rw [evaluate_eq_some hr.policy] at hreq
    cases hreq
    exact hdiff ((hr.action_request_mem hne _).1 hmem).1

/-- With the settings of one who has given none, the gate holds a pinned member back. -/
theorem gate_effective_default :
    ofTextIn [.utc] "config_version = 1\n" = .ok default ∧
      default.pinnedMember.CarriesOnly default "always-off" "web" ∧
      ∃ req, default.evaluate default.pinnedMember (default.beginCycle .zero .epoch) = some req ∧
        req.action ∉ Action.runStateActions := by
  have htext : ofTextIn [.utc] "config_version = 1\n" = .ok default :=
    eq_ok_of_toOption (by decide +kernel)
  have hr : default.pinnedMember.CarriesOnly default "always-off" "web" :=
    carriesOnly_pinnedMember (by decide)
  rcases (gate_effective_iff htext).1 _ _ _ .zero .epoch hr with ⟨req, hreq, -⟩
  exact ⟨htext, hr, req, hreq,
    (gate_effective_iff htext).2.2 (by decide) _ _ _ .zero .epoch req hr hreq⟩

/-- Where the policy stands in the tag of the identifier, a pinned member is stopped. -/
theorem policy_passes_for_identifier :
    ∃ (s : Settings) (req : ActionRequest),
      ofTextIn [.utc] "config_version = 1\n[gate]\nidentifier_tag = 'lifecycle-policy'\n" = .ok s ∧
        s.pinnedMember.CarriesOnly s "always-off" "web" ∧
        s.evaluate s.pinnedMember (s.beginCycle .zero .epoch) = some req ∧ req.action = .stop := by
  have htext : ofTextIn [.utc] "config_version = 1\n[gate]\nidentifier_tag = 'lifecycle-policy'\n" =
      .ok { default with gate := ⟨defaultMarker, default.policyTag⟩ } :=
    eq_ok_of_toOption (by decide +kernel)
  have hr := carriesOnly_pinnedMember (marker_ne_identifier_of_ofTextIn htext)
  refine ⟨_, _, htext, hr, evaluate_eq_some hr.policy, ?_⟩
  have hgate : ¬ GateTags.Unaddressable ⟨defaultMarker, default.policyTag⟩
      (pinnedMember { default with gate := ⟨defaultMarker, default.policyTag⟩ }).tags := by
    rw [hr.unaddressable_iff (marker_ne_identifier_of_ofTextIn htext)]
    intro hblank
    -- a policy that is not blank counts as an identifier
    have ha : Text.isBlank 'a' = true := hblank rfl 'a' (by simp)
    exact absurd ha (by decide)
  rw [request_action, GateTags.apply_eq_self (fun hboth => hgate hboth.1),
    Resource.proposal_alwaysOff (by rfl)]

end Settings
end FleetLifecycle
