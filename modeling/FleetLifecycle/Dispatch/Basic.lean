import FleetLifecycle.Request.Basic

/-!
# Dispatch — carrying out requests

An executor knows how to start, stop, terminate and notify; each of these changes its state and
may fail.  Dispatching sends a request to the one of them that it asks for.

1. `HostError`, what can go wrong, with its wording;
2. `Executor`, over states of type `σ`;
3. `dispatch`, for one request, and `dispatchList`, for one after the other;
4. `Summary` and `summarize`, how often each outcome occurs.
-/

namespace FleetLifecycle

/-- What can go wrong while a fleet is listed or a request is carried out. -/
inductive HostError where
  | listFailed (reason : String)
  | startFailed (reason : String)
  | stopFailed (reason : String)
  | terminateFailed (reason : String)
  | notifyFailed (reason : String)
  /-- A notification is asked for, but there is none. -/
  | missingMessage
  | io (reason : String)
  | internal (reason : String)
  deriving DecidableEq, Repr

namespace HostError

def message : HostError → String
  | .listFailed reason => "Listing failed: " ++ reason
  | .startFailed reason => "Start failed: " ++ reason
  | .stopFailed reason => "Stop failed: " ++ reason
  | .terminateFailed reason => "Terminate failed: " ++ reason
  | .notifyFailed reason => "Notification failed: " ++ reason
  | .missingMessage => "Email action without a composed message"
  | .io reason => "IO error: " ++ reason
  | .internal reason => "Internal error: " ++ reason

end HostError

/-- What comes of a call: success or an error, and the state after it. -/
abbrev Call (σ : Type) : Type := σ → Except HostError Unit × σ

structure Executor (σ : Type) where
  start : ActionRequest → Call σ
  stop : ActionRequest → Call σ
  terminate : ActionRequest → Call σ
  notify : ActionRequest → EmailMessage → Call σ

inductive Dispatched where
  | executed
  | skipped
  deriving DecidableEq, Repr

abbrev Outcome : Type := Except HostError Dispatched

namespace Executor

def executed {σ : Type} : Except HostError Unit × σ → Outcome × σ
  | (.ok (), state) => (.ok .executed, state)
  | (.error e, state) => (.error e, state)

/-- Sends a request to the call that it asks for; a request that asks for none is skipped. -/
def dispatch {σ : Type} (x : Executor σ) (r : ActionRequest) (state : σ) : Outcome × σ :=
  match r.action with
  | .none | .error => (.ok .skipped, state)
  | .start => executed (x.start r state)
  | .stop => executed (x.stop r state)
  | .terminate => executed (x.terminate r state)
  | .email _ =>
    match r.email with
    | some m => executed (x.notify r m state)
    | none => (.error .missingMessage, state)

/-- Dispatches requests one after the other; a failure does not keep the next from its turn. -/
def dispatchList {σ : Type} (x : Executor σ) : List ActionRequest → σ → List Outcome × σ
  | [], state => ([], state)
  | r :: rs, state =>
    let (outcome, state) := x.dispatch r state
    let (outcomes, state) := x.dispatchList rs state
    (outcome :: outcomes, state)

end Executor

structure Summary where
  executed : Nat
  skipped : Nat
  failed : Nat
  deriving DecidableEq, Repr

def Summary.count (s : Summary) : Outcome → Summary
  | .ok .executed => { s with executed := s.executed + 1 }
  | .ok .skipped => { s with skipped := s.skipped + 1 }
  | .error _ => { s with failed := s.failed + 1 }

/-- How often each outcome occurs in a list. -/
def summarize (outcomes : List Outcome) : Summary :=
  outcomes.foldl Summary.count ⟨0, 0, 0⟩

end FleetLifecycle
