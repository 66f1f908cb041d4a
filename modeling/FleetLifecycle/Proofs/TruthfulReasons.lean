import FleetLifecycle.Proofs.ErrorDecisions
import FleetLifecycle.Proofs.RunningTimes

/-!
# Truthful reasons — what a decision says about itself

Whoever reads the record of a decision learns an action and a reason.  That the reason belongs to
the action, and that it is true, does not follow from the action being right.  Concretely, we:

1. say which reasons an action can have (`Policy.Pairs`);
2. say what each reason asserts about the policy, the resource and the hour (`Reason.HoldsFor`);
3. show both for every way in which a decision comes about, and conclude with
   `Policy.decide_truthful`.
-/

namespace FleetLifecycle

/-! ## Actions and their reasons -/

/-- The action and the reason may stand together in a decision. -/
inductive Policy.Pairs (p : Policy) (o : Observation) : Action → Reason → Prop where
  -- a resource that is wanted
  | startInWindow {hour : UInt8} : Pairs p o .start (.windowOpen hour)
  | startPinned : Pairs p o .start .pinnedOn
  -- a resource that is not wanted
  | stopOutsideWindow {hour : UInt8} : Pairs p o .stop (.windowClosed hour)
  | stopWithoutWindow {hour : UInt8} : Pairs p o .stop (.emptyWindow hour)
  | stopPinned : Pairs p o .stop .pinnedOff
  -- a limit
  | stopPastLimit {secs : UInt64} {hours : UInt32} (kind : p.kind = .limitStop) :
      Pairs p o .stop (.limitExceeded secs hours)
  | terminatePastLimit {secs : UInt64} {hours : UInt32} :
      Pairs p o .terminate (.limitExceeded secs hours)
  | emailPastLimit {recipient : String} {secs : UInt64} {hours : UInt32} :
      Pairs p o (.email recipient) (.limitExceeded secs hours)
  -- nothing can be done
  | invalidPolicy {message : String} : Pairs p o .error (.invalidPolicy message)
  | unsupported {kind : String} {resourceClass : ResourceClass} :
      Pairs p o .error (.unsupportedForClass kind resourceClass)
  | unknownKind {kind : String} : Pairs p o .error (.unknownKind kind)
  -- nothing is to be done
  | noPolicy : Pairs p o .none .noPolicy
  | alreadyRunning : Pairs p o .none .alreadyRunning
  | alreadyStopped {state : String} : Pairs p o .none (.alreadyStopped state)
  | notStartable {state : String} : Pairs p o .none (.notStartable state)
  | idleWithoutWindow {hour : UInt8} (state : o.runState ≠ .running) :
      Pairs p o .none (.emptyWindow hour)
  | withinLimit {hours : UInt32} : Pairs p o .none (.withinLimit hours)

/-! ## What a reason asserts -/

/-- What a reason asserts about the policy, the resource and the local hour. -/
def Reason.HoldsFor (p : Policy) (o : Observation) (now : LocalHour) : Reason → Prop
  | .noPolicy => p.kind = .none
  | .alreadyRunning => o.runState = .running
  | .alreadyStopped state => o.runState ≠ .running ∧ state = o.runState.text
  | .notStartable state => o.runState = .transitional state
  | .windowOpen hour => hour = now.hour ∧
      ∃ s w target, p.HasWindow s w target ∧ s.isOpen w target now = true
  | .windowClosed hour => hour = now.hour ∧
      ∃ s w target, p.HasWindow s w target ∧ w.onHour ≠ w.offHour ∧ s.isOpen w target now = false
  | .emptyWindow hour => hour = now.hour ∧
      ∃ s w target, p.HasWindow s w target ∧ w.onHour = w.offHour
  | .limitExceeded secs hours => p.number 0 "hour limit" = .ok hours ∧
      isBeyondLimit o.runningFor hours = true ∧
      (∃ elapsed, o.runningFor = some elapsed ∧ secs = elapsed.secs) ∧
      3600 * hours.toNat ≤ secs.toNat
  | .withinLimit hours => p.number 0 "hour limit" = .ok hours ∧
      isBeyondLimit o.runningFor hours = false
  | .pinnedOn => p.kind = .alwaysOn
  | .pinnedOff => p.kind = .alwaysOff
  | .invalidPolicy message => ∃ e, p.firstFault? = some e ∧ message = e.message
  | .unsupportedForClass kind resourceClass => p.kind.isAcceptedBy o.capabilities = false ∧
      kind = p.kind.token ∧ resourceClass = o.resourceClass
  | .unknownKind kind => p.kind = .unknown kind
  -- a policy never holds itself back
  | .gated _ _ => False

/-- More than a number of hours in milliseconds is at least as many hours in whole seconds. -/
theorem Elapsed.le_secs {d : Elapsed} {hours : Nat} (beyond : hours * hourMillis < d.millis) :
    3600 * hours ≤ d.secs.toNat := by
  have hnanos := d.nanos_lt
  rw [secondNanos] at hnanos
  rw [millis, hourMillis] at beyond
  omega

namespace Policy

variable {p : Policy} {o : Observation} {now : LocalHour}

/-- What is wished is wished for a reason that is true. -/
theorem Wish.holdsFor {wanted : Bool} {reason : Reason} (wish : p.Wish now wanted reason) :
    reason.HoldsFor p o now := by
  cases wish with
  | pinnedOn kind | pinnedOff kind =>
    exact kind
  | emptyWindow window empty =>
    exact ⟨rfl, _, _, _, window, of_decide_eq_true empty⟩
  | windowOpen window isOpen =>
    exact ⟨rfl, _, _, _, window, isOpen⟩
  | windowClosed window nonempty closed =>
    exact ⟨rfl, _, _, _, window, of_decide_eq_false nonempty, closed⟩

/-! ## Decisions -/

theorem Outcome.pairs {d : Decision} (h : p.Outcome o now d) : p.Pairs o d.action d.reason := by
  cases h with
  | noPolicy kind =>
    exact .noPolicy
  | unknownKind kind =>
    exact .unknownKind
  | unsupported kind refused =>
    exact .unsupported
  | invalid accepted fault =>
    exact .invalidPolicy
  | exceeded accepted takes limit running beyond =>
    cases takes with
    | stop kind =>
      exact .stopPastLimit kind
    | terminate kind =>
      exact .terminatePastLimit
    | email kind text =>
      exact .emailPastLimit
  | within accepted takes limit notBeyond =>
    exact .withinLimit
  | alreadyRunning wish state =>
    exact .alreadyRunning
  | start wish state =>
    cases wish with
    | pinnedOn kind =>
      exact .startPinned
    | windowOpen window isOpen =>
      exact .startInWindow
  | notStartable wish state =>
    exact .notStartable
  | stop wish state =>
    cases wish with
    | pinnedOff kind =>
      exact .stopPinned
    | emptyWindow window empty =>
      exact .stopWithoutWindow
    | windowClosed window nonempty closed =>
      exact .stopOutsideWindow
  | alreadyStopped wish opens state =>
    exact .alreadyStopped
  | emptyWindow wish state =>
    exact .idleWithoutWindow state

theorem Outcome.holdsFor {d : Decision} (h : p.Outcome o now d) : d.reason.HoldsFor p o now := by
  cases h with
  | noPolicy kind | unknownKind kind =>
    exact kind
  | unsupported kind refused =>
    exact ⟨refused, rfl, rfl⟩
  | invalid accepted fault =>
    exact ⟨_, (ofPolicy_eq_error_iff.1 fault).2, rfl⟩
  | exceeded accepted takes limit running beyond =>
    refine ⟨limit, ?_, ⟨_, running, rfl⟩, Elapsed.le_secs beyond⟩
    simpa [isBeyondLimit, running] using beyond
  | within accepted takes limit notBeyond =>
    exact ⟨limit, notBeyond⟩
  | alreadyRunning wish state | notStartable wish state =>
    exact state
  | start wish state | stop wish state =>
    exact wish.holdsFor
  | alreadyStopped wish opens state =>
    exact ⟨state, rfl⟩
  | emptyWindow wish state =>
    exact wish.holdsFor

/-- The reason of a decision belongs to its action, and what it asserts holds. -/
theorem decide_truthful (p : Policy) (o : Observation) (now : LocalHour) :
    p.Pairs o (p.decide o now).action (p.decide o now).reason ∧
      (p.decide o now).reason.HoldsFor p o now := by
  have houtcome := p.outcome_decide o now
  exact ⟨houtcome.pairs, houtcome.holdsFor⟩

end Policy
end FleetLifecycle
