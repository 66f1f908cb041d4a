import FleetLifecycle.Cycle.Evaluate
import FleetLifecycle.Proofs.Outcomes

/-!
# The gate in an evaluation — nothing is done behind an orchestrator's back

A request is made of the decision that the gate lets through.  Concretely, we:

1. say when a resource cannot be addressed (`GateTags.Unaddressable`) and what the gate makes of a
   decision about it;
2. show that the gate has nothing to add to its own result (`GateTags.apply_apply`);
3. follow a decision through `Settings.evaluate` (`Settings.evaluate_eq_some`);
4. conclude with `Settings.evaluate_gated`: no request changes the run state of a resource that
   cannot be addressed, and every other request is what its policy calls for.
-/

namespace FleetLifecycle

namespace Action

/-- The actions that change the run state of a resource. -/
def runStateActions : List Action :=
  [.start, .stop, .terminate]

theorem changesRunState_iff {a : Action} : a.changesRunState = true ↔ a ∈ runStateActions := by
  cases a <;> simp [changesRunState, runStateActions]

end Action

/-! ## The gate -/

namespace GateTags

/-- The tags mark a member of an orchestrated group, and its identifier is absent or holds nothing
but white space. -/
def Unaddressable (gate : GateTags) (tags : Tags) : Prop :=
  (∃ text, tags.get? gate.marker = some text) ∧
    ∀ id, tags.get? gate.identifier = some id → ∀ ch ∈ id.toList, Text.isBlank ch = true

theorem isUnaddressable_iff {gate : GateTags} {tags : Tags} :
    gate.isUnaddressable tags = true ↔ gate.Unaddressable tags := by
  simp only [isUnaddressable, Unaddressable, Tags.contains, Bool.and_eq_true,
    Option.isSome_iff_exists]
  cases h : tags.get? gate.identifier with
  | none =>
    simp
  | some id =>
    -- a blank identifier counts as none
    simp [Text.isBlankText]

variable {gate : GateTags} {tags : Tags} {d : Decision}

theorem apply_of_unaddressable (h : gate.Unaddressable tags)
    (hd : d.action ∈ Action.runStateActions) :
    gate.apply tags d = .none (.gated d.action gate.marker) := by
  simp [apply, isUnaddressable_iff.2 h, Action.changesRunState_iff.2 hd]

theorem apply_eq_self (h : ¬ (gate.Unaddressable tags ∧ d.action ∈ Action.runStateActions)) :
    gate.apply tags d = d := by
  have hcond : ¬ (d.action.changesRunState && gate.isUnaddressable tags) = true := by
    rw [Bool.and_eq_true, Action.changesRunState_iff, isUnaddressable_iff]
    intro hboth
    exact h hboth.symm
  rw [apply, if_neg hcond]

/-- Nothing that changes a run state gets past the gate. -/
theorem action_apply_notMem (h : gate.Unaddressable tags) :
    (gate.apply tags d).action ∉ Action.runStateActions := by
  by_cases hd : d.action ∈ Action.runStateActions
  · -- a gated decision does nothing
    rw [apply_of_unaddressable h hd]
    simp [Decision.none, Action.runStateActions]
  · rw [apply_eq_self (fun hboth => hd hboth.2)]
    exact hd

/-- The gate has nothing to add to its own result. -/
theorem apply_apply (gate : GateTags) (tags : Tags) (d : Decision) :
    gate.apply tags (gate.apply tags d) = gate.apply tags d := by
  refine apply_eq_self ?_
  rintro ⟨hgate, hmem⟩
  exact action_apply_notMem hgate hmem

end GateTags

/-! ## Evaluation past the gate -/

/-- The start of 1970. -/
def Instant.epoch : Instant := ⟨0, 0, by decide⟩

/-- The id with no digit but zero. -/
def CycleId.zero : CycleId := ⟨List.replicate 32 0, List.length_replicate⟩

/-- What a policy calls for in a cycle, before the gate has seen it. -/
def Resource.proposal (r : Resource) (tag : String) (c : Cycle) : Decision :=
  (Policy.parse tag).decide (r.observe c.instant) c.now

theorem Resource.proposal_alwaysOff {r : Resource} (h : r.runState = .running) (c : Cycle) :
    r.proposal "always-off" c = ⟨.stop, .pinnedOff⟩ := by
  have hkind : (Policy.parse "always-off").kind = .alwaysOff := by
    decide
  have hrun : (r.observe c.instant).isRunning = true := by
    simp [Resource.observe, Observation.isRunning, RunState.isRunning, h]
  simp [proposal, Policy.decide, Decision.ofPolicy, hkind, Decision.wantStopped, hrun]

/-- No policy calls for what only the gate decides. -/
theorem Policy.decide_reason_ne_gated (p : Policy) (o : Observation) (now : LocalHour)
    (a : Action) (marker : String) : (p.decide o now).reason ≠ .gated a marker := by
  have h := p.outcome_decide o now
  generalize p.decide o now = d at h
  cases h with
  -- only these two carry a reason that the outcome does not name
  | start wish =>
    rintro rfl
    simpa using wish.reason_mem
  | stop wish =>
    rintro rfl
    simpa using wish.reason_mem
  | _ =>
    simp [Decision.none, Decision.error]

namespace Settings

variable {s : Settings} {r : Resource} {c : Cycle} {tag : String}

theorem evaluate_eq_some (h : r.tags.get? s.policyTag = some tag) :
    s.evaluate r c = some (s.request r (Policy.parse tag) c) := by
  simp [evaluate, h]

theorem evaluate_eq_none (h : r.tags.get? s.policyTag = none) : s.evaluate r c = none := by
  simp [evaluate, h]

theorem exists_tag_of_evaluate {req : ActionRequest} (h : s.evaluate r c = some req) :
    ∃ tag, r.tags.get? s.policyTag = some tag ∧ s.request r (Policy.parse tag) c = req := by
  simpa [evaluate] using h

theorem decide_eq (s : Settings) (r : Resource) (c : Cycle) (tag : String) :
    s.decide r (Policy.parse tag) c = s.gate.apply r.tags (r.proposal tag c) := by
  rw [decide, Resource.proposal]

theorem request_action (s : Settings) (r : Resource) (c : Cycle) (tag : String) :
    (s.request r (Policy.parse tag) c).action =
      (s.gate.apply r.tags (r.proposal tag c)).action := by
  rw [← decide_eq, request]

theorem request_reason (s : Settings) (r : Resource) (c : Cycle) (tag : String) :
    (s.request r (Policy.parse tag) c).reason =
      (s.gate.apply r.tags (r.proposal tag c)).reason := by
  rw [← decide_eq, request]

theorem request_snapshotId (s : Settings) (r : Resource) (p : Policy) (c : Cycle) :
    (s.request r p c).snapshotId = s.snapshotFor r c (s.request r p c).action := by
  simp only [request]

theorem request_email (s : Settings) (r : Resource) (p : Policy) (c : Cycle) :
    (s.request r p c).email = s.emailFor r p (s.request r p c).action := by
  simp only [request]

/-- Only a stop has a snapshot. -/
theorem snapshotFor_eq_none {a : Action} (h : a ≠ .stop) : s.snapshotFor r c a = none := by
  cases a with
  | stop =>
    exact absurd rfl h
  | _ =>
    rfl

/-- What is asked for is what the policy calls for, unless the gate holds it back. -/
theorem request_of_passes
    (passes :
      ¬ (s.gate.Unaddressable r.tags ∧ (r.proposal tag c).action ∈ Action.runStateActions)) :
    (s.request r (Policy.parse tag) c).action = (r.proposal tag c).action ∧
      (s.request r (Policy.parse tag) c).reason = (r.proposal tag c).reason := by
  rw [request_action, request_reason, GateTags.apply_eq_self passes]
  exact ⟨rfl, rfl⟩

/-- A gated request carries the action that was proposed, which is one that changes a run state. -/
theorem gated_of_request_reason {a : Action} {marker : String}
    (h : (s.request r (Policy.parse tag) c).reason = .gated a marker) :
    a = (r.proposal tag c).action ∧ a ∈ Action.runStateActions ∧ marker = s.gate.marker := by
  rw [request_reason] at h
  by_cases hgate : s.gate.Unaddressable r.tags ∧ (r.proposal tag c).action ∈ Action.runStateActions
  · rw [GateTags.apply_of_unaddressable hgate.1 hgate.2] at h
    have hgated : (r.proposal tag c).action = a ∧ s.gate.marker = marker := by
      simpa [Decision.none] using h
    rcases hgated with ⟨rfl, rfl⟩
    exact ⟨rfl, hgate.2, rfl⟩
  · -- past an open gate the reason is that of the policy
    rw [GateTags.apply_eq_self hgate] at h
    exact absurd h (Policy.decide_reason_ne_gated _ _ _ _ _)

/-- No request changes the run state of a resource that cannot be addressed: if that was proposed,
the request does nothing and says what was proposed.  Every other request is what the policy calls
for, and the gate leaves a decision that it has seen as it is. -/
theorem evaluate_gated (s : Settings) (r : Resource) (c : Cycle) :
    (r.tags.get? s.policyTag = none → s.evaluate r c = none) ∧
    (∀ tag, r.tags.get? s.policyTag = some tag → ∃ req, s.evaluate r c = some req ∧
      (s.gate.Unaddressable r.tags →
        req.action ∉ Action.runStateActions ∧ req.snapshotId = none ∧
        ((r.proposal tag c).action ∈ Action.runStateActions →
          req.action = .none ∧ req.reason = .gated (r.proposal tag c).action s.gate.marker)) ∧
      (¬ (s.gate.Unaddressable r.tags ∧ (r.proposal tag c).action ∈ Action.runStateActions) →
        req.action = (r.proposal tag c).action ∧ req.reason = (r.proposal tag c).reason) ∧
      (∀ a marker, req.reason = .gated a marker →
        a ∈ Action.runStateActions ∧ marker = s.gate.marker)) ∧
    ∀ (gate : GateTags) (tags : Tags) (d : Decision),
      gate.apply tags (gate.apply tags d) = gate.apply tags d := by
  refine ⟨evaluate_eq_none, ?_, GateTags.apply_apply⟩
  intro tag htag
  refine ⟨_, evaluate_eq_some htag, ?_, ?_, ?_⟩
  · intro hgate
    have hquiet : (s.request r (Policy.parse tag) c).action ∉ Action.runStateActions := by
      rw [request_action]
      exact GateTags.action_apply_notMem hgate
    refine ⟨hquiet, ?_, ?_⟩
    · -- the name of a snapshot is made from the gated action, not from the proposed one
      rw [request_snapshotId]
      refine snapshotFor_eq_none ?_
      intro hstop
      exact hquiet (by simp [hstop, Action.runStateActions])
    · intro hproposed
      rw [request_action, request_reason, GateTags.apply_of_unaddressable hgate hproposed]
      exact ⟨rfl, rfl⟩
  · intro hpass
    exact request_of_passes hpass
  · intro a marker hreason
    exact (gated_of_request_reason hreason).2

/-- A machine that belongs to a group without an identifier is not stopped. -/
theorem evaluate_gated_orphan :
    let r := Resource.compute ⟨"i-orphan", "running", none,
      Tags.ofList [("fleet-group", "web"), ("lifecycle-policy", "always-off")]⟩
    let c := Settings.default.beginCycle .zero .epoch
    r.tags.get? Settings.default.policyTag = some "always-off" ∧
      Settings.default.gate.Unaddressable r.tags ∧
      ∃ req, Settings.default.evaluate r c = some req ∧ req.action = .none ∧
        req.reason = .gated .stop "fleet-group" ∧ req.snapshotId = none := by
  intro r c
  have htag : r.tags.get? Settings.default.policyTag = some "always-off" := by
    decide
  have hgate : Settings.default.gate.Unaddressable r.tags :=
    GateTags.isUnaddressable_iff.1 (by decide)
  have hproposal : r.proposal "always-off" c = ⟨.stop, .pinnedOff⟩ :=
    Resource.proposal_alwaysOff (by decide) c
  rcases (evaluate_gated Settings.default r c).2.1 _ htag with ⟨req, hreq, hgated, -⟩
  rcases hgated hgate with ⟨-, hsnapshot, hrequest⟩
  rw [hproposal] at hrequest
  rcases hrequest (by decide) with ⟨haction, hreason⟩
  exact ⟨htag, hgate, req, hreq, haction, hreason, hsnapshot⟩

end Settings
end FleetLifecycle
