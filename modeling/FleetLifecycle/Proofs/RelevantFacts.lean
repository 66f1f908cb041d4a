import FleetLifecycle.Proofs.Gate

/-!
# Relevant facts — what the decision about a resource depends on

A decision depends on the class of a resource, on what its provider says about its state and its
launch, and on what three tags say.  Concretely, we:

1. show that a policy is read off its tag without the blanks around it
   (`Policy.parse_eq_of_trim_eq`);
2. say when two resources look alike to an evaluation (`Settings.LooksAlike`): all that is not named
   there may differ;
3. show that such resources are observed alike and pass the same gate, and conclude with
   `Settings.evaluate_of_looksAlike`.
-/

namespace FleetLifecycle

/-- Tags that differ in the blanks around their texts say the same policy. -/
theorem Policy.parse_eq_of_trim_eq {a b : String} (h : Text.trim a = Text.trim b) :
    parse a = parse b := by
  have hchars : Text.trimChars a.toList = Text.trimChars b.toList := by
    simpa [Text.trim] using congrArg String.toList h
  simp only [parse, hchars]

/-! ## Resources that look alike -/

/-- The tags say the same to an evaluation: the same policy, up to the blanks around it, and the
same about a group and an identifier in it, whose values do not matter. -/
structure Settings.TagsAgree (s : Settings) (a b : Tags) : Prop where
  policy : (a.get? s.policyTag).map Text.trim = (b.get? s.policyTag).map Text.trim
  marker : (∃ mark, a.get? s.gate.marker = some mark) ↔ ∃ mark, b.get? s.gate.marker = some mark
  identifier :
    (∃ id, a.get? s.gate.identifier = some id ∧ ∃ ch ∈ id.toList, Text.isBlank ch = false) ↔
      ∃ id, b.get? s.gate.identifier = some id ∧ ∃ ch ∈ id.toList, Text.isBlank ch = false

/-- The resources look alike to an evaluation.  Their ids, their names and all other tags may
differ. -/
structure Settings.LooksAlike (s : Settings) (r r' : Resource) : Prop where
  resourceClass : r.resourceClass = r'.resourceClass
  stateText : r.stateText = r'.stateText
  launchedAt : r.launchedAt = r'.launchedAt
  tags : s.TagsAgree r.tags r'.tags

/-- What cannot be addressed is marked, and no identifier of it is more than blanks. -/
theorem GateTags.unaddressable_iff_marked {gate : GateTags} {tags : Tags} :
    gate.Unaddressable tags ↔
      (∃ mark, tags.get? gate.marker = some mark) ∧
        ¬ ∃ id, tags.get? gate.identifier = some id ∧ ∃ ch ∈ id.toList, Text.isBlank ch = false := by
  simp [Unaddressable]

namespace Settings

variable {s : Settings} {r r' : Resource} {a b : Tags}

theorem TagsAgree.apply_eq (h : s.TagsAgree a b) (d : Decision) :
    s.gate.apply a d = s.gate.apply b d := by
  have hgate : s.gate.isUnaddressable a = s.gate.isUnaddressable b := by
    rw [Bool.eq_iff_iff, GateTags.isUnaddressable_iff, GateTags.isUnaddressable_iff,
      GateTags.unaddressable_iff_marked, GateTags.unaddressable_iff_marked, h.marker, h.identifier]
  rw [GateTags.apply, GateTags.apply, hgate]

/-- Both resources are passed over, or both have a policy, and it is the same one. -/
theorem TagsAgree.policy_cases (h : s.TagsAgree a b) :
    (a.get? s.policyTag = none ∧ b.get? s.policyTag = none) ∨
      ∃ tag tag', a.get? s.policyTag = some tag ∧ b.get? s.policyTag = some tag' ∧
        Policy.parse tag = Policy.parse tag' := by
  have hpolicy := h.policy
  cases ha : a.get? s.policyTag with
  | none =>
    rw [ha] at hpolicy
    exact .inl ⟨rfl, Option.map_eq_none_iff.1 hpolicy.symm⟩
  | some tag =>
    rw [ha] at hpolicy
    obtain ⟨tag', hb, htrim⟩ := Option.map_eq_some_iff.1 hpolicy.symm
    exact .inr ⟨tag, tag', rfl, hb, Policy.parse_eq_of_trim_eq htrim.symm⟩

theorem LooksAlike.observe_eq (h : s.LooksAlike r r') (t : Instant) :
    r.observe t = r'.observe t := by
  have hstate : r.runState = r'.runState := by
    rw [Resource.runState, Resource.runState, h.resourceClass, h.stateText]
  have hrunning : r.runningFor t = r'.runningFor t := by
    rw [Resource.runningFor, Resource.runningFor, hstate, h.launchedAt]
  simp only [Resource.observe, Resource.capabilities, hstate, hrunning, h.resourceClass]

theorem LooksAlike.decide_eq (h : s.LooksAlike r r') (p : Policy) (id id' : CycleId) (t : Instant) :
    s.decide r p (s.beginCycle id t) = s.decide r' p (s.beginCycle id' t) := by
  have hinstant : ∀ id, (s.beginCycle id t).instant = t := fun _ => rfl
  have hnow : (s.beginCycle id t).now = (s.beginCycle id' t).now := rfl
  rw [decide, decide, h.tags.apply_eq, hinstant, hinstant, h.observe_eq, hnow]

/-- Resources that look alike are both passed over, or are both asked for the same action with the
same reason, in whatever cycles as of one instant. -/
theorem evaluate_of_looksAlike (s : Settings) (id id' : CycleId) (t : Instant) {r r' : Resource}
    (alike : s.LooksAlike r r') :
    (s.evaluate r (s.beginCycle id t) = none ∧ s.evaluate r' (s.beginCycle id' t) = none) ∨
      ∃ req req', s.evaluate r (s.beginCycle id t) = some req ∧
        s.evaluate r' (s.beginCycle id' t) = some req' ∧
        req.action = req'.action ∧ req.reason = req'.reason := by
  rcases alike.tags.policy_cases with ⟨hnone, hnone'⟩ | ⟨tag, tag', htag, htag', hpolicy⟩
  · exact .inl ⟨evaluate_eq_none hnone, evaluate_eq_none hnone'⟩
  · refine .inr ⟨_, _, evaluate_eq_some htag, evaluate_eq_some htag', ?_⟩
    have hdecide := alike.decide_eq (Policy.parse tag) id id' t
    rw [hpolicy] at hdecide ⊢
    simp only [request, hdecide, and_self]

/-- A name, a note and what the tag of the group says make no difference: neither of two members
without an identifier is stopped, though one of them has a blank one. -/
theorem evaluate_of_looksAlike_members :
    let r := Resource.compute ⟨"i-first", "running", none,
      Tags.ofList [("lifecycle-policy", "always-off"), ("fleet-group", "web"), ("Name", "first"),
        ("fleet-member-id", " ")]⟩
    let r' := Resource.compute ⟨"i-second", "running", none,
      Tags.ofList [("lifecycle-policy", " always-off\n"), ("fleet-group", ""), ("note", "stop me")]⟩
    default.LooksAlike r r' ∧
      ∃ req req', default.evaluate r (default.beginCycle .zero .epoch) = some req ∧
        default.evaluate r' (default.beginCycle .zero .epoch) = some req' ∧
        req.action = req'.action ∧ req.reason = req'.reason ∧
        req.reason = .gated .stop "fleet-group" := by
  intro r r'
  have hpolicy : r.tags.get? default.policyTag = some "always-off" := by
    decide
  have hpolicy' : r'.tags.get? default.policyTag = some " always-off\n" := by
    decide
  have hmarker : r.tags.get? default.gate.marker = some "web" ∧
      r'.tags.get? default.gate.marker = some "" := by
    decide
  have hidentifier : r.tags.get? default.gate.identifier = some " " ∧
      r'.tags.get? default.gate.identifier = none := by
    decide
  have alike : default.LooksAlike r r' := by
    refine ⟨rfl, rfl, rfl, ?_, ?_, ?_⟩
    · rw [hpolicy, hpolicy']
      decide
    · simp [hmarker]
    · simp [hidentifier, Text.isBlank]
  refine ⟨alike, ?_⟩
  rcases evaluate_of_looksAlike default .zero .zero .epoch alike with ⟨hnone, -⟩ | hboth
  · rw [evaluate_eq_some hpolicy] at hnone
    cases hnone
  · obtain ⟨req, req', hreq, hreq', haction, hreason⟩ := hboth
    refine ⟨req, req', hreq, hreq', haction, hreason, ?_⟩
    have hgated : (default.evaluate r (default.beginCycle .zero .epoch)).map (·.reason) =
        some (.gated .stop "fleet-group") := by
      decide +kernel
    simpa [hreq] using hgated

end Settings
end FleetLifecycle
