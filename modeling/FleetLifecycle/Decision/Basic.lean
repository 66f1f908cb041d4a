import FleetLifecycle.Fleet.Class

/-!
# Decisions — what is to be done with a resource, and why

1. `Action`, the one thing to do in a cycle;
2. `Reason`, why it was chosen;
3. `Decision`, the pair.
-/

namespace FleetLifecycle

/-- What is to be done with a resource. -/
inductive Action where
  | none
  | start
  | stop
  | terminate
  | email (recipient : String)
  /-- Nothing can be done: the policy is wrong, or wrong for the class. -/
  | error
  deriving DecidableEq, Repr

namespace Action

def name : Action → String
  | .none => "none"
  | .start => "start"
  | .stop => "stop"
  | .terminate => "terminate"
  | .email _ => "email"
  | .error => "error"

def changesRunState : Action → Bool
  | .start | .stop | .terminate => true
  | _ => false

/-- The action reaches beyond the program: it changes a run state or notifies somebody. -/
def hasSideEffect : Action → Bool
  | .start | .stop | .terminate | .email _ => true
  | .none | .error => false

end Action

inductive Reason where
  /-- The tag asks for nothing. -/
  | noPolicy
  /-- The resource is wanted and runs. -/
  | alreadyRunning
  /-- The resource is not wanted and does not run. -/
  | alreadyStopped (state : String)
  /-- The resource is wanted, but cannot be started from its state. -/
  | notStartable (state : String)
  | windowOpen (hour : UInt8)
  | windowClosed (hour : UInt8)
  /-- The schedule's window opens and closes at one hour. -/
  | emptyWindow (hour : UInt8)
  | limitExceeded (runningSecs : UInt64) (limitHours : UInt32)
  | withinLimit (limitHours : UInt32)
  | pinnedOn
  | pinnedOff
  | invalidPolicy (message : String)
  /-- The class of the resource does not accept the kind of policy. -/
  | unsupportedForClass (kind : String) (resourceClass : ResourceClass)
  | unknownKind (kind : String)
  /-- The resource belongs to an orchestrated group and has no identifier in it. -/
  | gated (proposed : Action) (markerTag : String)
  deriving DecidableEq, Repr

namespace Reason

def code : Reason → String
  | .noPolicy => "no_policy"
  | .alreadyRunning => "already_running"
  | .alreadyStopped _ => "already_stopped"
  | .notStartable _ => "not_startable"
  | .windowOpen _ => "window_open"
  | .windowClosed _ => "window_closed"
  | .emptyWindow _ => "empty_window"
  | .limitExceeded _ _ => "limit_exceeded"
  | .withinLimit _ => "within_limit"
  | .pinnedOn => "pinned_on"
  | .pinnedOff => "pinned_off"
  | .invalidPolicy _ => "invalid_policy"
  | .unsupportedForClass _ _ => "unsupported_for_class"
  | .unknownKind _ => "unknown_kind"
  | .gated _ _ => "gated"

end Reason

structure Decision where
  action : Action
  reason : Reason
  deriving DecidableEq, Repr

namespace Decision

def none (reason : Reason) : Decision := ⟨.none, reason⟩

def error (reason : Reason) : Decision := ⟨.error, reason⟩

end Decision
end FleetLifecycle
