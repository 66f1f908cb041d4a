import FleetLifecycle.Decision.Decide
import FleetLifecycle.Proofs.Results

/-!
# Outcomes — the ways in which a decision comes about

Deciding runs through kinds of policies, parameters, windows, limits and states.  This file says
once what can come of it, so that laws about decisions need not follow the branches again.
Concretely, we define:

1. `Policy.HasWindow` and `Policy.TakesPastLimit`, what a schedule or a limit reads from its
   parameters;
2. `Policy.Wish`, whether a pin or a schedule wants the resource at a local hour, and why;
3. `Policy.Outcome`, every decision with the facts under which it is taken.

The main statement is `Policy.outcome_decide`: each decision is one of these outcomes.
-/

namespace FleetLifecycle

theorem RunState.isRunning_eq_false_iff {s : RunState} : s.isRunning = false ↔ s ≠ .running := by
  cases s <;> simp [isRunning]

namespace PolicyKind

/-- The kinds of policies that a resource with the given capabilities accepts. -/
def isAcceptedBy (c : Capabilities) : PolicyKind → Bool
  | .limitStop | .limitTerminate => c.runtimeLimits
  | .limitEmail => c.notification
  | _ => true

/-- The kind sets a limit to the hours that a resource runs. -/
def IsLimit (k : PolicyKind) : Prop :=
  k = .limitStop ∨ k = .limitTerminate ∨ k = .limitEmail

end PolicyKind

namespace Policy

/-! ## What parameters say -/

/-- The policy is a schedule whose parameters name a window and, if it is weekly, a day. -/
structure HasWindow (p : Policy) (s : Schedule) (w : Window) (target : Option Weekday) : Prop where
  kind : p.kind = .scheduled s
  onHour : p.hour 0 "on hour" = .ok w.onHour
  offHour : p.hour 1 "off hour" = .ok w.offHour
  target : Decision.targetOf s p = .ok target

/-- The action that a policy with a limit takes once the limit has passed. -/
inductive TakesPastLimit (p : Policy) : Action → Prop where
  | stop (kind : p.kind = .limitStop) : TakesPastLimit p .stop
  | terminate (kind : p.kind = .limitTerminate) : TakesPastLimit p .terminate
  | email {recipient : String} (kind : p.kind = .limitEmail)
      (text : p.text 1 "notify address" = .ok recipient) : TakesPastLimit p (.email recipient)

/-- The policy takes the action once a number of hours has passed. -/
structure HasLimit (p : Policy) (a : Action) (hours : UInt32) : Prop where
  takes : p.TakesPastLimit a
  hours : p.number 0 "hour limit" = .ok hours

/-- Whether a pin or a schedule wants the resource to run at a local hour, and the reason. -/
inductive Wish (p : Policy) (now : LocalHour) : Bool → Reason → Prop where
  | pinnedOn (kind : p.kind = .alwaysOn) : Wish p now true .pinnedOn
  | pinnedOff (kind : p.kind = .alwaysOff) : Wish p now false .pinnedOff
  | emptyWindow {s : Schedule} {w : Window} {target : Option Weekday}
      (window : p.HasWindow s w target) (empty : w.isEmpty = true) :
      Wish p now false (.emptyWindow now.hour)
  | windowOpen {s : Schedule} {w : Window} {target : Option Weekday}
      (window : p.HasWindow s w target) (isOpen : s.isOpen w target now = true) :
      Wish p now true (.windowOpen now.hour)
  | windowClosed {s : Schedule} {w : Window} {target : Option Weekday}
      (window : p.HasWindow s w target) (nonempty : w.isEmpty = false)
      (closed : s.isOpen w target now = false) :
      Wish p now false (.windowClosed now.hour)

theorem Wish.reason_mem {p : Policy} {now : LocalHour} {wanted : Bool} {reason : Reason}
    (wish : p.Wish now wanted reason) :
    reason ∈ [.pinnedOn, .pinnedOff, .emptyWindow now.hour, .windowOpen now.hour,
      .windowClosed now.hour] := by
  cases wish <;> simp

/-! ## Outcomes -/

/-- The decisions that a policy can come to, each with the facts under which it does. -/
inductive Outcome (p : Policy) (o : Observation) (now : LocalHour) : Decision → Prop where
  | noPolicy (kind : p.kind = .none) : Outcome p o now (.none .noPolicy)
  | unknownKind {token : String} (kind : p.kind = .unknown token) :
      Outcome p o now (.error (.unknownKind token))
  | unsupported (kind : p.kind.IsLimit) (refused : p.kind.isAcceptedBy o.capabilities = false) :
      Outcome p o now (.error (.unsupportedForClass p.kind.token o.resourceClass))
  | invalid {e : ParameterError} (accepted : p.kind.isAcceptedBy o.capabilities = true)
      (fault : Decision.ofPolicy p o now = .error e) :
      Outcome p o now (.error (.invalidPolicy e.message))
  -- a limit
  | exceeded {action : Action} {hours : UInt32} {elapsed : Elapsed}
      (accepted : p.kind.isAcceptedBy o.capabilities = true) (takes : p.TakesPastLimit action)
      (limit : p.number 0 "hour limit" = .ok hours) (running : o.runningFor = some elapsed)
      (beyond : hours.toNat * hourMillis < elapsed.millis) :
      Outcome p o now ⟨action, .limitExceeded elapsed.secs hours⟩
  | within {action : Action} {hours : UInt32}
      (accepted : p.kind.isAcceptedBy o.capabilities = true) (takes : p.TakesPastLimit action)
      (limit : p.number 0 "hour limit" = .ok hours)
      (notBeyond : isBeyondLimit o.runningFor hours = false) :
      Outcome p o now (.none (.withinLimit hours))
  -- a resource that is wanted
  | alreadyRunning {reason : Reason} (wish : p.Wish now true reason)
      (state : o.runState = .running) : Outcome p o now (.none .alreadyRunning)
  | start {reason : Reason} (wish : p.Wish now true reason) (state : o.runState = .stopped) :
      Outcome p o now ⟨.start, reason⟩
  | notStartable {reason : Reason} {text : String} (wish : p.Wish now true reason)
      (state : o.runState = .transitional text) : Outcome p o now (.none (.notStartable text))
  -- a resource that is not wanted
  | stop {reason : Reason} (wish : p.Wish now false reason) (state : o.runState = .running) :
      Outcome p o now ⟨.stop, reason⟩
  | alreadyStopped {reason : Reason} (wish : p.Wish now false reason)
      (opens : reason ≠ .emptyWindow now.hour) (state : o.runState ≠ .running) :
      Outcome p o now (.none (.alreadyStopped o.runState.text))
  | emptyWindow (wish : p.Wish now false (.emptyWindow now.hour))
      (state : o.runState ≠ .running) : Outcome p o now (.none (.emptyWindow now.hour))

variable {p : Policy} {o : Observation} {now : LocalHour}

theorem outcome_wantRunning {reason : Reason} (wish : p.Wish now true reason) :
    p.Outcome o now (.wantRunning o reason) := by
  cases h : o.runState with
  | running =>
    simpa [Decision.wantRunning, Observation.isRunning, RunState.isRunning, h] using
      Outcome.alreadyRunning (o := o) wish h
  | stopped =>
    simpa [Decision.wantRunning, Observation.isStartable, Observation.isRunning,
      RunState.isRunning, RunState.isStartable, h] using Outcome.start (o := o) wish h
  | transitional text =>
    simpa [Decision.wantRunning, Observation.isStartable, Observation.isRunning,
      RunState.isRunning, RunState.isStartable, RunState.text, h] using
      Outcome.notStartable (o := o) wish h

theorem outcome_wantStopped {reason : Reason} (wish : p.Wish now false reason)
    (opens : reason ≠ .emptyWindow now.hour) : p.Outcome o now (.wantStopped o reason) := by
  by_cases h : o.runState = .running
  · simpa [Decision.wantStopped, Observation.isRunning, RunState.isRunning, h] using
      Outcome.stop (o := o) wish h
  · have hrun : o.isRunning = false := RunState.isRunning_eq_false_iff.2 h
    simpa [Decision.wantStopped, hrun] using Outcome.alreadyStopped wish opens h

theorem outcome_ofWindow {s : Schedule} {w : Window} {target : Option Weekday}
    (window : p.HasWindow s w target) : p.Outcome o now (.ofWindow s w target o now) := by
  unfold Decision.ofWindow
  cases hempty : w.isEmpty with
  | true =>
    -- an empty window keeps its reason even where there is nothing to stop
    have wish : p.Wish now false (.emptyWindow now.hour) := .emptyWindow window hempty
    by_cases h : o.runState = .running
    · simpa [Observation.isRunning, RunState.isRunning, h] using Outcome.stop (o := o) wish h
    · have hrun : o.isRunning = false := RunState.isRunning_eq_false_iff.2 h
      simpa [hrun] using Outcome.emptyWindow wish h
  | false =>
    cases hopen : s.isOpen w target now with
    | true =>
      exact outcome_wantRunning (.windowOpen window hopen)
    | false =>
      exact outcome_wantStopped (.windowClosed window hempty hopen) (by simp)

theorem outcome_pastLimit {action : Action} {hours : UInt32}
    (accepted : p.kind.isAcceptedBy o.capabilities = true) (takes : p.TakesPastLimit action)
    (limit : p.number 0 "hour limit" = .ok hours) :
    p.Outcome o now (.pastLimit o hours action) := by
  unfold Decision.pastLimit
  cases hbeyond : isBeyondLimit o.runningFor hours with
  | false =>
    exact .within accepted takes limit hbeyond
  | true =>
    cases hrun : o.runningFor with
    | none =>
      -- what does not run is never beyond a limit
      simp [isBeyondLimit, hrun] at hbeyond
    | some elapsed =>
      have hlt : hours.toNat * hourMillis < elapsed.millis := by
        simpa [isBeyondLimit, hrun] using hbeyond
      have hexceeded : p.Outcome o now ⟨action, .limitExceeded elapsed.secs hours⟩ :=
        .exceeded accepted takes limit hrun hlt
      simpa using hexceeded

/-! ## Reading parameters -/

theorem outcome_of_ofLimit {action : Action} {d : Decision} (kind : p.kind.IsLimit)
    (accepted : p.kind.isAcceptedBy o.capabilities = o.capabilities.runtimeLimits)
    (takes : p.TakesPastLimit action) (h : Decision.ofLimit action p o = .ok d) :
    p.Outcome o now d := by
  unfold Decision.ofLimit at h
  split at h
  · next hcap =>
    rcases bind_eq_ok_iff.1 h with ⟨hours, hlimit, hpast⟩
    cases hpast
    exact outcome_pastLimit (accepted.trans hcap) takes hlimit
  · next hcap =>
    -- refused before the limit is read
    cases h
    have refused : o.capabilities.runtimeLimits = false := by
      simpa using hcap
    exact .unsupported kind (accepted.trans refused)

theorem outcome_of_ofNotification {d : Decision} (kind : p.kind = .limitEmail)
    (h : Decision.ofNotification p o = .ok d) : p.Outcome o now d := by
  have accepted : p.kind.isAcceptedBy o.capabilities = o.capabilities.notification := by
    simp [kind, PolicyKind.isAcceptedBy]
  unfold Decision.ofNotification at h
  split at h
  · next hcap =>
    rcases bind_eq_ok_iff.1 h with ⟨hours, hlimit, hrest⟩
    rcases bind_eq_ok_iff.1 hrest with ⟨recipient, htext, hpast⟩
    cases hpast
    exact outcome_pastLimit (accepted.trans hcap) (.email kind htext) hlimit
  · next hcap =>
    cases h
    have refused : o.capabilities.notification = false := by
      simpa using hcap
    exact .unsupported (.inr (.inr kind)) (accepted.trans refused)

/-- A schedule comes to a decision exactly if its parameters name a window. -/
theorem ofSchedule_eq_ok_iff {s : Schedule} {d : Decision} (kind : p.kind = .scheduled s) :
    Decision.ofSchedule s p o now = .ok d ↔
      ∃ w target, p.HasWindow s w target ∧ Decision.ofWindow s w target o now = d := by
  constructor
  · intro h
    rcases bind_eq_ok_iff.1 h with ⟨onHour, hon, hrest⟩
    rcases bind_eq_ok_iff.1 hrest with ⟨offHour, hoff, hrest⟩
    rcases bind_eq_ok_iff.1 hrest with ⟨target, htarget, hwindow⟩
    cases hwindow
    exact ⟨⟨onHour, offHour⟩, target, ⟨kind, hon, hoff, htarget⟩, rfl⟩
  · rintro ⟨w, target, window, rfl⟩
    simp only [Decision.ofSchedule, window.onHour, window.offHour, window.target]
    rfl

theorem outcome_of_ofSchedule {s : Schedule} {d : Decision} (kind : p.kind = .scheduled s)
    (h : Decision.ofSchedule s p o now = .ok d) : p.Outcome o now d := by
  rcases (ofSchedule_eq_ok_iff kind).1 h with ⟨w, target, window, rfl⟩
  exact outcome_ofWindow window

theorem outcome_of_ofPolicy {d : Decision} (h : Decision.ofPolicy p o now = .ok d) :
    p.Outcome o now d := by
  unfold Decision.ofPolicy at h
  cases kind : p.kind with
  | none =>
    simp only [kind, Except.ok.injEq] at h
    exact h ▸ .noPolicy kind
  | limitStop =>
    simp only [kind] at h
    exact outcome_of_ofLimit (.inl kind) (by simp [kind, PolicyKind.isAcceptedBy]) (.stop kind) h
  | limitTerminate =>
    simp only [kind] at h
    exact outcome_of_ofLimit (.inr (.inl kind)) (by simp [kind, PolicyKind.isAcceptedBy])
      (.terminate kind) h
  | limitEmail =>
    simp only [kind] at h
    exact outcome_of_ofNotification kind h
  | scheduled s =>
    simp only [kind] at h
    exact outcome_of_ofSchedule kind h
  | alwaysOn =>
    simp only [kind, Except.ok.injEq] at h
    exact h ▸ outcome_wantRunning (.pinnedOn kind)
  | alwaysOff =>
    simp only [kind, Except.ok.injEq] at h
    exact h ▸ outcome_wantStopped (.pinnedOff kind) (by simp)
  | unknown token =>
    simp only [kind, Except.ok.injEq] at h
    exact h ▸ .unknownKind kind

/-- A parameter is at fault only if the policy is accepted: refusal comes first. -/
theorem isAcceptedBy_of_ofPolicy_eq_error {e : ParameterError}
    (h : Decision.ofPolicy p o now = .error e) : p.kind.isAcceptedBy o.capabilities = true := by
  unfold Decision.ofPolicy at h
  -- only limits can be refused; other kinds are accepted by definition
  cases kind : p.kind <;> simp only [PolicyKind.isAcceptedBy]
  all_goals
    simp only [kind, Decision.ofLimit, Decision.ofNotification] at h
    split at h
    · assumption
    · simp at h

/-- A limit that the resource does not accept is refused whatever its parameters. -/
theorem decide_of_refused (kind : p.kind.IsLimit)
    (refused : p.kind.isAcceptedBy o.capabilities = false) :
    p.decide o now = .error (.unsupportedForClass p.kind.token o.resourceClass) := by
  rcases kind with kind | kind | kind
  -- each limit asks for its capability before it reads anything
  all_goals
    simp only [kind, PolicyKind.isAcceptedBy] at refused
    simp [decide, Decision.ofPolicy, Decision.ofLimit, Decision.ofNotification,
      Decision.unsupported, kind, refused]

/-- A limit that the resource accepts is compared with the time that it has been running. -/
theorem decide_of_hasLimit {a : Action} {hours : UInt32} (limit : p.HasLimit a hours)
    (accepted : p.kind.isAcceptedBy o.capabilities = true) (now : LocalHour) :
    p.decide o now = .pastLimit o hours a := by
  obtain ⟨takes, hhours⟩ := limit
  have hpolicy : Decision.ofPolicy p o now = .ok (.pastLimit o hours a) := by
    cases takes with
    | stop kind | terminate kind =>
      have capable : o.capabilities.runtimeLimits = true := by
        simpa [kind, PolicyKind.isAcceptedBy] using accepted
      simp only [Decision.ofPolicy, Decision.ofLimit, kind, capable, hhours, if_true]
      rfl
    | email kind text =>
      have capable : o.capabilities.notification = true := by
        simpa [kind, PolicyKind.isAcceptedBy] using accepted
      simp only [Decision.ofPolicy, Decision.ofNotification, kind, capable, hhours, text, if_true]
      rfl
  rw [decide, hpolicy]

/-- A limit has nothing to count while the resource stands still. -/
theorem decide_of_idle {a : Action} {hours : UInt32} (limit : p.HasLimit a hours)
    (accepted : p.kind.isAcceptedBy o.capabilities = true) (idle : o.runningFor = none)
    (now : LocalHour) : p.decide o now = .none (.withinLimit hours) := by
  rw [decide_of_hasLimit limit accepted, Decision.pastLimit, idle]
  simp [isBeyondLimit]

/-- Every decision is one of the outcomes. -/
theorem outcome_decide (p : Policy) (o : Observation) (now : LocalHour) :
    p.Outcome o now (p.decide o now) := by
  unfold decide
  cases h : Decision.ofPolicy p o now with
  | ok d =>
    exact outcome_of_ofPolicy h
  | error e =>
    exact .invalid (isAcceptedBy_of_ofPolicy_eq_error h) h

end Policy
end FleetLifecycle
