import FleetLifecycle.Proofs.Gate
import FleetLifecycle.Proofs.Reconciliation

/-!
# Settling — what has been carried out is not asked for again

A decision to start or stop a resource is taken once: when it has been carried out, the resource is
in a state in which the same policy asks for nothing, as long as clocks show the same hour.
Concretely, we:

1. say what a provider reports of a resource after an action (`Resource.after`);
2. show that a policy that asked for a start or a stop is quiet about the new state, be it a wish
   (`Policy.quiet_of_start`, `Policy.quiet_of_stop`) or a limit, which has nothing to count once
   the resource stands still;
3. follow a resource through a sequence of cycles (`Settings.requestsOver`) and conclude with
   `Settings.evaluate_settles`.
-/

namespace FleetLifecycle

/-- The action starts or stops a resource. -/
def Action.isSwitch : Action → Bool
  | .start | .stop => true
  | _ => false

theorem Action.isSwitch_iff {a : Action} : a.isSwitch = true ↔ a = .start ∨ a = .stop := by
  cases a <;> simp [isSwitch]

/-- How many of some requests start or stop a resource. -/
def switchCount (requests : List ActionRequest) : Nat :=
  requests.countP (·.action.isSwitch)

/-! ## Resources after an action -/

namespace Resource

/-- The resource as reported with another state and time of launch. -/
def withState (state : String) (launch : Option Instant) : Resource → Resource
  | .compute m => .compute { m with state := state, launchTime := launch }
  | .database d => .database { d with status := state, startedAt := launch }

/-- What the provider reports once an action has been carried out: a started resource runs and a
stopped one stands still, with any time of launch. -/
def after (r : Resource) (a : Action) (launch : Option Instant) : Resource :=
  match a with
  | .start => r.withState (runningText r.resourceClass) launch
  | .stop => r.withState stoppedText launch
  | _ => r

variable {r : Resource} {state : String} {launch : Option Instant}

@[simp]
theorem resourceClass_withState : (r.withState state launch).resourceClass = r.resourceClass := by
  cases r <;> rfl

@[simp]
theorem tags_withState : (r.withState state launch).tags = r.tags := by
  cases r <;> rfl

@[simp]
theorem stateText_withState : (r.withState state launch).stateText = state := by
  cases r <;> rfl

theorem runState_withState :
    (r.withState state launch).runState = readState r.resourceClass state := by
  simp [runState]

@[simp]
theorem tags_after {a : Action} : (r.after a launch).tags = r.tags := by
  cases a <;> simp [after]

theorem after_of_not_isSwitch {a : Action} (h : a.isSwitch = false) (launch : Option Instant) :
    r.after a launch = r := by
  cases a <;> simp_all [after, Action.isSwitch]

theorem runState_after_start : (r.after .start launch).runState = .running := by
  simp [after, runState_withState, readState]

theorem runState_after_stop : (r.after .stop launch).runState = .stopped := by
  -- neither class calls a stopped resource by the word for a running one
  cases r <;> simp [after, runState, withState, resourceClass, stateText, readState, runningText,
    stoppedText]

end Resource

/-! ## Quiet policies -/

namespace Policy

variable {p : Policy} {o o' : Observation} {now : LocalHour}

theorem wants_of_start (h : (p.decide o now).action = .start) : p.Wants now true := by
  have houtcome := p.outcome_decide o now
  generalize p.decide o now = d at h houtcome
  cases houtcome with
  | start wish state =>
    exact wish.wants
  | exceeded accepted takes =>
    -- no limit starts anything
    cases takes <;> simp at h
  | _ =>
    simp [Decision.none, Decision.error] at h

/-- A stop comes from a wish or from a limit that the resource accepts. -/
theorem wants_or_limit_of_stop (h : (p.decide o now).action = .stop) :
    p.Wants now false ∨
      p.kind = .limitStop ∧ o.capabilities.runtimeLimits = true ∧
        ∃ hours, p.number 0 "hour limit" = .ok hours := by
  have houtcome := p.outcome_decide o now
  generalize p.decide o now = d at h houtcome
  cases houtcome with
  | stop wish state =>
    exact .inl wish.wants
  | exceeded accepted takes limit running beyond =>
    cases takes with
    | stop kind =>
      have hcap : o.capabilities.runtimeLimits = true := by
        simpa [kind, PolicyKind.isAcceptedBy] using accepted
      exact .inr ⟨kind, hcap, _, limit⟩
    | _ =>
      simp at h
  | _ =>
    simp [Decision.none, Decision.error] at h

/-- What has been started is not asked for again. -/
theorem quiet_of_start (h : (p.decide o now).action = .start) (running : o'.runState = .running) :
    (p.decide o' now).action = .none := by
  rw [action_decide_of_wants (wants_of_start h), running]
  rfl

/-- What has been stopped is not asked for again, whether a wish or a limit stopped it. -/
theorem quiet_of_stop (h : (p.decide o now).action = .stop)
    (capabilities : o'.capabilities = o.capabilities) (stopped : o'.runState = .stopped)
    (idle : o'.runningFor = none) : (p.decide o' now).action = .none := by
  rcases wants_or_limit_of_stop h with wants | ⟨kind, capable, hours, limit⟩
  · rw [action_decide_of_wants wants, stopped]
    rfl
  · have accepted : p.kind.isAcceptedBy o'.capabilities = true := by
      rw [kind, capabilities]
      exact capable
    rw [decide_of_idle ⟨.stop kind, limit⟩ accepted idle]
    rfl

end Policy

/-! ## One cycle after another -/

namespace Resource

theorem runningFor_after_stop (r : Resource) (launch : Option Instant) (t : Instant) :
    (r.after .stop launch).runningFor t = none := by
  simp [runningFor, runState_after_stop, RunState.isRunning]

/-- Once a start or a stop has been carried out, the policy calls for nothing at the same hour. -/
theorem proposal_after {r : Resource} {tag : String} {c c' : Cycle} {a : Action}
    (h : (r.proposal tag c).action = a) (switch : a.isSwitch = true) (hour : c'.now = c.now)
    (launch : Option Instant) : ((r.after a launch).proposal tag c').action = .none := by
  unfold proposal at h ⊢
  rw [hour]
  rcases Action.isSwitch_iff.1 switch with rfl | rfl
  · exact Policy.quiet_of_start h runState_after_start
  · have hcap : ((r.after .stop launch).observe c'.instant).capabilities =
        (r.observe c.instant).capabilities := by
      simp [observe, capabilities, after]
    exact Policy.quiet_of_stop h hcap runState_after_stop (r.runningFor_after_stop launch _)

end Resource

/-- A cycle in a sequence of cycles, and the time of launch that the provider reports after it if
the cycle started or stopped the resource. -/
structure Turn where
  id : CycleId
  instant : Instant
  launch : Option Instant

namespace Settings

/-- Clocks in the configured zone show the same hour of the same day of the week. -/
def SameHour (s : Settings) (t u : Instant) : Prop :=
  (s.zone.localTime t).hour = (s.zone.localTime u).hour ∧
    (s.zone.localTime t).weekday = (s.zone.localTime u).weekday

/-- The requests for a resource in a sequence of cycles, each of them carried out before the next
cycle. -/
def requestsOver (s : Settings) (r : Resource) : List Turn → List ActionRequest
  | [] => []
  | turn :: turns =>
    match s.evaluate r (s.beginCycle turn.id turn.instant) with
    | some req => req :: s.requestsOver (r.after req.action turn.launch) turns
    | none => s.requestsOver r turns

variable {s : Settings} {r : Resource}

theorem now_eq_of_sameHour {t u : Instant} (h : s.SameHour t u) (id id' : CycleId) :
    (s.beginCycle id t).now = (s.beginCycle id' u).now := by
  simp [Cycle.now, beginCycle, h.1, h.2]

/-- The gate adds nothing to what a policy asks for but silence. -/
theorem proposal_action_of_request {tag : String} {c : Cycle}
    (h : (s.request r (Policy.parse tag) c).action ≠ .none) :
    (r.proposal tag c).action = (s.request r (Policy.parse tag) c).action := by
  rw [request_action] at h ⊢
  by_cases hgate : s.gate.Unaddressable r.tags ∧ (r.proposal tag c).action ∈ Action.runStateActions
  · rw [GateTags.apply_of_unaddressable hgate.1 hgate.2] at h
    exact absurd rfl h
  · rw [GateTags.apply_eq_self hgate]

/-- A request to start or stop a resource, once carried out, is followed by a request for nothing
at the same hour. -/
theorem evaluate_after {req : ActionRequest} {c c' : Cycle} (h : s.evaluate r c = some req)
    (switch : req.action.isSwitch = true) (hour : c'.now = c.now) (launch : Option Instant) :
    ∃ req', s.evaluate (r.after req.action launch) c' = some req' ∧ req'.action = .none := by
  rcases exists_tag_of_evaluate h with ⟨tag, htag, rfl⟩
  have hne : (s.request r (Policy.parse tag) c).action ≠ .none := by
    intro hnone
    simp [hnone, Action.isSwitch] at switch
  have hquiet := Resource.proposal_after (proposal_action_of_request hne) switch hour launch
  have htag' : (r.after (s.request r (Policy.parse tag) c).action launch).tags.get? s.policyTag =
      some tag := by
    rw [Resource.tags_after, htag]
  refine ⟨_, evaluate_eq_some htag', ?_⟩
  rw [request_action, GateTags.apply_eq_self, hquiet]
  · simp [hquiet, Action.runStateActions]

/-- A resource about which a whole sequence of cycles is quiet stays as it is. -/
theorem requestsOver_of_quiet {turns : List Turn}
    (quiet : ∀ turn ∈ turns, ∃ req, s.evaluate r (s.beginCycle turn.id turn.instant) = some req ∧
      req.action = .none) :
    ∀ req ∈ s.requestsOver r turns, req.action = .none := by
  induction turns with
  | nil =>
    simp [requestsOver]
  | cons turn turns ih =>
    rcases quiet turn List.mem_cons_self with ⟨req, hreq, hnone⟩
    have hsame : r.after req.action turn.launch = r :=
      Resource.after_of_not_isSwitch (by simp [hnone, Action.isSwitch]) turn.launch
    have hrest := ih (fun t ht => quiet t (List.mem_cons_of_mem _ ht))
    intro req' hmem
    simp only [requestsOver, hreq, hsame, List.mem_cons] at hmem
    rcases hmem with rfl | hmem
    · exact hnone
    · exact hrest req' hmem

/-- In cycles at one hour a resource is started or stopped at most once. -/
theorem switchCount_requestsOver_le {turns : List Turn}
    (hour : ∀ a ∈ turns, ∀ b ∈ turns, s.SameHour a.instant b.instant) :
    switchCount (s.requestsOver r turns) ≤ 1 := by
  induction turns with
  | nil =>
    simp [requestsOver, switchCount]
  | cons turn turns ih =>
    have hfirst : ∀ t ∈ turns, s.SameHour t.instant turn.instant := by
      intro t ht
      exact hour t (List.mem_cons_of_mem _ ht) turn List.mem_cons_self
    have hrest : ∀ a ∈ turns, ∀ b ∈ turns, s.SameHour a.instant b.instant := by
      intro a ha b hb
      exact hour a (List.mem_cons_of_mem _ ha) b (List.mem_cons_of_mem _ hb)
    cases h : s.evaluate r (s.beginCycle turn.id turn.instant) with
    | none =>
      simpa [requestsOver, h] using ih hrest
    | some req =>
      cases switch : req.action.isSwitch with
      | false =>
        -- nothing has changed, so the other cycles see the same resource
        have hsame : r.after req.action turn.launch = r :=
          Resource.after_of_not_isSwitch switch turn.launch
        simpa [requestsOver, h, hsame, switchCount, List.countP_cons, switch] using ih hrest
      | true =>
        have hquiet : ∀ req' ∈ s.requestsOver (r.after req.action turn.launch) turns,
            req'.action = .none := by
          refine requestsOver_of_quiet ?_
          intro t ht
          exact evaluate_after h switch (now_eq_of_sameHour (hfirst t ht) _ _) turn.launch
        have hzero : switchCount (s.requestsOver (r.after req.action turn.launch) turns) = 0 := by
          rw [switchCount, List.countP_eq_zero]
          intro req' hmem
          simp [hquiet req' hmem, Action.isSwitch]
        simp only [switchCount] at hzero
        simp [requestsOver, h, switchCount, switch, hzero]

/-- What has been started or stopped is let be while clocks show the same hour: the next cycle asks
for nothing, and a whole sequence of cycles asks for one start or stop at most. -/
theorem evaluate_settles (s : Settings) (r : Resource) :
    (∀ (id : CycleId) (t : Instant) (req : ActionRequest),
      s.evaluate r (s.beginCycle id t) = some req → req.action = .start ∨ req.action = .stop →
        ∀ (id' : CycleId) (t' : Instant) (launch : Option Instant), s.SameHour t' t →
          ∃ req', s.evaluate (r.after req.action launch) (s.beginCycle id' t') = some req' ∧
            req'.action = .none) ∧
    ∀ turns : List Turn, (∀ a ∈ turns, ∀ b ∈ turns, s.SameHour a.instant b.instant) →
      switchCount (s.requestsOver r turns) ≤ 1 := by
  refine ⟨?_, ?_⟩
  · intro id t req hreq switch id' t' launch hour
    exact evaluate_after hreq (Action.isSwitch_iff.2 switch) (now_eq_of_sameHour hour id' id) launch
  · intro turns hour
    exact switchCount_requestsOver_le hour

/-- A machine that is stopped after two hours under a limit of one is stopped once. -/
theorem evaluate_settles_limit :
    let r := Resource.compute ⟨"i-build", "running", some .epoch,
      Tags.empty.insert "lifecycle-policy" "limit-stop:1"⟩
    let t : Instant := ⟨7200, 0, by decide⟩
    let t' : Instant := ⟨9000, 0, by decide⟩
    (∃ req, default.evaluate r (default.beginCycle .zero t) = some req ∧ req.action = .stop ∧
      default.SameHour t' t ∧
      ∃ req', default.evaluate (r.after req.action none) (default.beginCycle .zero t') =
        some req' ∧ req'.action = .none) ∧
    switchCount (default.requestsOver r [⟨.zero, t, none⟩, ⟨.zero, t', none⟩]) ≤ 1 := by
  intro r t t'
  have htag : r.tags.get? default.policyTag = some "limit-stop:1" := by
    decide
  have hstop : (default.request r (Policy.parse "limit-stop:1")
      (default.beginCycle .zero t)).action = .stop := by
    decide +kernel
  have hour : ∀ a ∈ [(⟨.zero, t, none⟩ : Turn), ⟨.zero, t', none⟩],
      ∀ b ∈ [(⟨.zero, t, none⟩ : Turn), ⟨.zero, t', none⟩],
        default.SameHour a.instant b.instant := by
    simp only [SameHour]
    decide +kernel
  have hlater : default.SameHour t' t :=
    hour ⟨.zero, t', none⟩ (by simp) ⟨.zero, t, none⟩ (by simp)
  refine ⟨⟨_, evaluate_eq_some htag, hstop, hlater, ?_⟩, (evaluate_settles default r).2 _ hour⟩
  exact (evaluate_settles default r).1 .zero t _ (evaluate_eq_some htag) (.inr hstop) .zero t'
    none hlater

end Settings
end FleetLifecycle
