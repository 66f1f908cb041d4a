import FleetLifecycle.Proofs.Gate

/-!
# Admissible actions — what may be done in which state

Schedules look at the run state of a resource, limits only at how long it has been running.  That
both act on states in which they may rests on what observing a resource establishes.  Concretely,
we:

1. state this as an invariant of observations (`Observation.Coherent`);
2. say which decisions fit an observation (`Decision.Admissible`), and show that deciding gives only
   such decisions and that the gate keeps them so;
3. conclude for requests with `Settings.evaluate_admissible`.
-/

namespace FleetLifecycle

/-! ## What observing establishes -/

/-- Only what runs has a running time, and capabilities are those of the class. -/
structure Observation.Coherent (o : Observation) : Prop where
  running : ∀ elapsed, o.runningFor = some elapsed → o.runState = .running
  capabilities : o.capabilities = .ofClass o.resourceClass

namespace Resource

variable {r : Resource} {now : Instant} {elapsed : Elapsed}

theorem runState_and_launchedAt_of_runningFor (h : r.runningFor now = some elapsed) :
    r.runState = .running ∧ ∃ t, r.launchedAt = some t := by
  unfold runningFor at h
  cases hstate : r.runState with
  | running =>
    -- the running time is counted from the launch
    simp only [hstate, RunState.isRunning, if_true, Option.map_eq_some_iff] at h
    rcases h with ⟨t, ht, -⟩
    exact ⟨rfl, t, ht⟩
  | stopped =>
    simp [hstate, RunState.isRunning] at h
  | transitional text =>
    simp [hstate, RunState.isRunning] at h

theorem coherent_observe (r : Resource) (now : Instant) : (r.observe now).Coherent where
  running := by
    intro elapsed h
    exact (runState_and_launchedAt_of_runningFor h).1
  capabilities := rfl

end Resource

/-! ## Decisions that fit an observation -/

namespace Action

/-- The actions that end or announce the running of a resource. -/
def IsForRunning (a : Action) : Prop :=
  a = .stop ∨ a = .terminate ∨ ∃ recipient, a = .email recipient

theorem start_or_isForRunning {a : Action} (h : a.hasSideEffect = true) :
    a = .start ∨ a.IsForRunning := by
  cases a <;> simp_all [hasSideEffect, IsForRunning]

end Action

/-- The decision is one that only limits take: it terminates, notifies, or gives a limit as its
reason. -/
def Decision.IsOfLimit (d : Decision) : Prop :=
  d.action = .terminate ∨ (∃ recipient, d.action = .email recipient) ∨
    ∃ secs hours, d.reason = .limitExceeded secs hours

/-- The decision may be taken about what was observed. -/
structure Decision.Admissible (o : Observation) (d : Decision) : Prop where
  start : d.action = .start → o.runState = .stopped
  running : d.action.IsForRunning → o.runState = .running
  limit : d.IsOfLimit → o.resourceClass = .compute ∧ ∃ elapsed, o.runningFor = some elapsed

namespace Decision

variable {o : Observation} {d : Decision}

theorem not_isOfLimit (hterminate : d.action ≠ .terminate)
    (hemail : ∀ recipient, d.action ≠ .email recipient)
    (hreason : ∀ secs hours, d.reason ≠ .limitExceeded secs hours) : ¬ d.IsOfLimit := by
  rintro (h | ⟨recipient, h⟩ | ⟨secs, hours, h⟩)
  · exact hterminate h
  · exact hemail recipient h
  · exact hreason secs hours h

/-- Doing nothing is always admissible. -/
theorem admissible_of_quiet (haction : d.action.hasSideEffect = false)
    (hreason : ∀ secs hours, d.reason ≠ .limitExceeded secs hours) : Admissible o d := by
  have hno : ∀ a : Action, a.hasSideEffect = true → d.action ≠ a := by
    intro a ha heq
    simp [heq, ha] at haction
  refine ⟨?_, ?_, ?_⟩
  · intro h
    exact absurd h (hno _ rfl)
  · rintro (h | h | ⟨recipient, h⟩)
    · exact absurd h (hno _ rfl)
    · exact absurd h (hno _ rfl)
    · exact absurd h (hno _ rfl)
  · intro h
    exact absurd h (not_isOfLimit (hno _ rfl) (fun _ => hno _ rfl) hreason)

theorem admissible_start {reason : Reason} (hstate : o.runState = .stopped)
    (hreason : ∀ secs hours, reason ≠ .limitExceeded secs hours) :
    Admissible o ⟨.start, reason⟩ := by
  refine ⟨fun _ => hstate, by simp [Action.IsForRunning], ?_⟩
  intro h
  exact absurd h (not_isOfLimit (by simp) (by simp) hreason)

theorem admissible_stop {reason : Reason} (hstate : o.runState = .running)
    (hreason : ∀ secs hours, reason ≠ .limitExceeded secs hours) :
    Admissible o ⟨.stop, reason⟩ := by
  refine ⟨by simp, fun _ => hstate, ?_⟩
  intro h
  exact absurd h (not_isOfLimit (by simp) (by simp) hreason)

end Decision

namespace Policy

variable {p : Policy} {o : Observation} {now : LocalHour}

theorem TakesPastLimit.ne_start {a : Action} (h : p.TakesPastLimit a) : a ≠ .start := by
  cases h <;> simp

/-- Only machines accept limits. -/
theorem TakesPastLimit.resourceClass_eq {a : Action} (h : p.TakesPastLimit a) (ho : o.Coherent)
    (accepted : p.kind.isAcceptedBy o.capabilities = true) : o.resourceClass = .compute := by
  rw [ho.capabilities] at accepted
  cases hclass : o.resourceClass with
  | compute =>
    rfl
  | database =>
    -- a database has no capability that a limit needs
    cases h with
    | stop kind | terminate kind | email kind =>
      simp [kind, hclass, PolicyKind.isAcceptedBy, Capabilities.ofClass] at accepted

theorem Wish.reason_ne_limitExceeded {wanted : Bool} {reason : Reason}
    (wish : p.Wish now wanted reason) (secs : UInt64) (hours : UInt32) :
    reason ≠ .limitExceeded secs hours := by
  rintro rfl
  simpa using wish.reason_mem

/-- Deciding about a coherent observation gives an admissible decision. -/
theorem admissible_decide (ho : o.Coherent) : Decision.Admissible o (p.decide o now) := by
  have h := p.outcome_decide o now
  generalize p.decide o now = d at h
  cases h with
  -- a passed limit is the one outcome that acts without having looked at the run state
  | exceeded accepted takes limit running beyond =>
    have hclass := takes.resourceClass_eq ho accepted
    have hstate := ho.running _ running
    refine ⟨?_, fun _ => hstate, fun _ => ⟨hclass, _, running⟩⟩
    intro hstart
    exact absurd hstart takes.ne_start
  | start wish state =>
    exact Decision.admissible_start state wish.reason_ne_limitExceeded
  | stop wish state =>
    exact Decision.admissible_stop state wish.reason_ne_limitExceeded
  | _ =>
    exact Decision.admissible_of_quiet rfl (by simp [Decision.none, Decision.error])

end Policy

/-- The gate keeps a decision admissible. -/
theorem GateTags.admissible_apply {gate : GateTags} {tags : Tags} {o : Observation} {d : Decision}
    (h : Decision.Admissible o d) : Decision.Admissible o (gate.apply tags d) := by
  by_cases hgate : gate.Unaddressable tags ∧ d.action ∈ Action.runStateActions
  · rw [apply_of_unaddressable hgate.1 hgate.2]
    exact Decision.admissible_of_quiet rfl (by simp [Decision.none])
  · rw [apply_eq_self hgate]
    exact h

/-! ## Requests -/

namespace Settings

/-- The decision past the gate is admissible. -/
theorem admissible_gated (s : Settings) (r : Resource) (c : Cycle) (tag : String) :
    Decision.Admissible (r.observe c.instant) (s.gate.apply r.tags (r.proposal tag c)) := by
  rw [Resource.proposal]
  exact GateTags.admissible_apply (Policy.admissible_decide (r.coherent_observe c.instant))

/-- The gate has nothing to say about a limit on a database, which is an error. -/
theorem request_limit_of_database {s : Settings} {r : Resource} {tag : String}
    (kind : (Policy.parse tag).kind.IsLimit) (hclass : r.resourceClass = .database) (c : Cycle) :
    (s.request r (Policy.parse tag) c).action = .error ∧
      (s.request r (Policy.parse tag) c).reason =
        .unsupportedForClass (Policy.parse tag).kind.token .database := by
  have hobserved : (r.observe c.instant).resourceClass = .database := hclass
  have hcap : (r.observe c.instant).capabilities = .ofClass .database := by
    rw [(r.coherent_observe c.instant).capabilities, hobserved]
  have refused :
      (Policy.parse tag).kind.isAcceptedBy (r.observe c.instant).capabilities = false := by
    rw [hcap]
    rcases kind with kind | kind | kind <;>
      simp [kind, PolicyKind.isAcceptedBy, Capabilities.ofClass]
  have hproposal : r.proposal tag c =
      .error (.unsupportedForClass (Policy.parse tag).kind.token .database) := by
    rw [Resource.proposal, Policy.decide_of_refused kind refused, hobserved]
  have passes : ¬ (s.gate.Unaddressable r.tags ∧
      (r.proposal tag c).action ∈ Action.runStateActions) := by
    simp [hproposal, Decision.error, Action.runStateActions]
  obtain ⟨haction, hreason⟩ := request_of_passes passes
  rw [haction, hreason, hproposal]
  exact ⟨rfl, rfl⟩

/-- Requests are only made of states that admit them: a start of what has stopped, anything else of
what runs.  Terminations, notifications and passed limits are for machines with a time of launch,
and a limit on a database is an error whatever it says. -/
theorem evaluate_admissible (s : Settings) (r : Resource) (c : Cycle) :
    (∀ req, s.evaluate r c = some req →
      (req.action = .start → r.runState = .stopped) ∧
      (req.action = .stop ∨ req.action = .terminate ∨
          (∃ recipient, req.action = .email recipient) → r.runState = .running) ∧
      (∀ text, r.runState = .transitional text → req.action.hasSideEffect = false) ∧
      (req.action = .terminate ∨ (∃ recipient, req.action = .email recipient) ∨
          (∃ secs hours, req.reason = .limitExceeded secs hours) →
        r.resourceClass = .compute ∧ ∃ t, r.launchedAt = some t)) ∧
    ∀ tag, r.tags.get? s.policyTag = some tag → (Policy.parse tag).kind.IsLimit →
      r.resourceClass = .database →
        ∃ req, s.evaluate r c = some req ∧ req.action = .error ∧
          req.reason = .unsupportedForClass (Policy.parse tag).kind.token .database := by
  refine ⟨?_, ?_⟩
  · intro req hreq
    rcases exists_tag_of_evaluate hreq with ⟨tag, htag, rfl⟩
    -- of the request only the gated decision matters
    have hfits := s.admissible_gated r c tag
    rw [request_action, request_reason]
    generalize s.gate.apply r.tags (r.proposal tag c) = d at hfits
    refine ⟨hfits.start, hfits.running, ?_, ?_⟩
    · intro text hstate
      rw [Bool.eq_false_iff]
      intro heffect
      -- a side effect needs a state that is not transitional
      rcases Action.start_or_isForRunning heffect with h | h
      · have hstopped : r.runState = .stopped := hfits.start h
        simp [hstate] at hstopped
      · have hrunning : r.runState = .running := hfits.running h
        simp [hstate] at hrunning
    · intro hlimit
      rcases hfits.limit hlimit with ⟨hclass, elapsed, hrun⟩
      exact ⟨hclass, (Resource.runState_and_launchedAt_of_runningFor hrun).2⟩
  · intro tag htag kind hclass
    exact ⟨_, evaluate_eq_some htag, request_limit_of_database kind hclass c⟩

/-- A notification about a machine that has been running for two hours, and a limit on a database
that is refused before its parameter is read. -/
theorem evaluate_admissible_limits :
    let machine := Resource.compute ⟨"i-build", "running", some .epoch,
      Tags.empty.insert "lifecycle-policy" "limit-email:1/ops@example.com"⟩
    let db := Resource.database ⟨"db-reports", none, "available", some .epoch,
      Tags.empty.insert "lifecycle-policy" "limit-terminate:soon"⟩
    let c := Settings.default.beginCycle .zero ⟨7200, 0, by decide⟩
    (∃ req, Settings.default.evaluate machine c = some req ∧
      req.action = .email "ops@example.com" ∧ machine.runState = .running ∧
      machine.resourceClass = .compute ∧ ∃ t, machine.launchedAt = some t) ∧
    ∃ req, Settings.default.evaluate db c = some req ∧ req.action = .error ∧
      req.reason = .unsupportedForClass "limit-terminate" .database := by
  intro machine db c
  have hmachine : machine.tags.get? Settings.default.policyTag =
      some "limit-email:1/ops@example.com" := by
    decide
  have hemail : (Settings.default.request machine
      (Policy.parse "limit-email:1/ops@example.com") c).action = .email "ops@example.com" := by
    decide +kernel
  rcases (evaluate_admissible Settings.default machine c).1 _ (evaluate_eq_some hmachine) with
    ⟨-, hrunning, -, hlimit⟩
  refine ⟨⟨_, evaluate_eq_some hmachine, hemail, hrunning (.inr (.inr ⟨_, hemail⟩)),
    hlimit (.inr (.inl ⟨_, hemail⟩))⟩, ?_⟩
  have hdb : db.tags.get? Settings.default.policyTag = some "limit-terminate:soon" := by
    decide
  have hkind : (Policy.parse "limit-terminate:soon").kind = .limitTerminate := by
    decide
  rcases (evaluate_admissible Settings.default db c).2 _ hdb (.inr (.inl hkind)) rfl with
    ⟨req, hreq, haction, hreason⟩
  rw [hkind] at hreason
  exact ⟨req, hreq, haction, hreason⟩

end Settings
end FleetLifecycle
