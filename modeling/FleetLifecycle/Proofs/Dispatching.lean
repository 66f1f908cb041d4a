import FleetLifecycle.Proofs.Calls
import FleetLifecycle.Proofs.RecordLines

/-!
# Dispatching — what a list of requests leaves in a journal

Carrying out a request means writing its record on a line, unless it asks for nothing.
Concretely, we:

1. name the line of a request and the lines of a list (`ActionRequest.lineBytes`,
   `Journal.stream`), and the errors by which an action fails (`Action.FailsWith`);
2. show which call of a journal a request asks for (`Journal.exists_callFor_executor`), and what
   dispatching it does to a journal with and without a bound;
3. follow a list of requests through both (`Journal.dispatchList_unlimited`,
   `Journal.dispatchList_limited_snd`);
4. count the failures among requests that carry the notifications they ask for
   (`ActionRequest.Complete`), as those of an evaluation do.
-/

namespace FleetLifecycle

namespace ActionRequest

/-- The line that is written of a request, with its line break. -/
def lineBytes (r : ActionRequest) (dryRun : Bool) : List UInt8 :=
  r.line r.action.name dryRun r.notification

theorem length_lineBytes_pos (r : ActionRequest) (dryRun : Bool) :
    0 < (r.lineBytes dryRun).length := by
  simp [lineBytes, line_eq]

/-- The request carries a notification if it asks for one, and only then. -/
def Complete (r : ActionRequest) : Prop :=
  match r.action with
  | .email _ => ∃ m, r.email = some m
  | _ => r.email = none

variable {r : ActionRequest}

theorem Complete.isEffective_eq (h : r.Complete) : r.isEffective = r.action.hasSideEffect := by
  unfold Complete at h
  unfold isEffective
  cases haction : r.action with
  | email recipient =>
    rw [haction] at h
    rcases h with ⟨m, hm⟩
    simp [hm, Action.hasSideEffect]
  | none | error | start | stop | terminate =>
    rfl

end ActionRequest

/-- The errors that tell that an action failed. -/
inductive Action.FailsWith : Action → HostError → Prop where
  | start (reason : String) : FailsWith .start (.startFailed reason)
  | stop (reason : String) : FailsWith .stop (.stopFailed reason)
  | terminate (reason : String) : FailsWith .terminate (.terminateFailed reason)
  | email (recipient reason : String) : FailsWith (.email recipient) (.notifyFailed reason)

namespace Journal

/-- The lines of the requests that have an effect, one after the other. -/
def stream (dryRun : Bool) (requests : List ActionRequest) : List UInt8 :=
  (requests.filter (·.isEffective)).flatMap (·.lineBytes dryRun)

variable {r : ActionRequest} {requests : List ActionRequest} {dryRun : Bool}

@[simp]
theorem stream_nil (dryRun : Bool) : stream dryRun [] = [] :=
  rfl

theorem stream_cons_of_isEffective (h : r.isEffective = true) (dryRun : Bool)
    (requests : List ActionRequest) :
    stream dryRun (r :: requests) = r.lineBytes dryRun ++ stream dryRun requests := by
  simp [stream, h]

theorem stream_cons_of_not_isEffective (h : r.isEffective = false) (dryRun : Bool)
    (requests : List ActionRequest) : stream dryRun (r :: requests) = stream dryRun requests := by
  simp [stream, h]

theorem stream_append (dryRun : Bool) (requests others : List ActionRequest) :
    stream dryRun (requests ++ others) = stream dryRun requests ++ stream dryRun others := by
  simp [stream]

/-! ## One request -/

/-- A request with an effect asks for its line to be written; only the word for a failure differs
from one action to another. -/
theorem exists_callFor_executor (dryRun : Bool) (effective : r.isEffective = true) :
    ∃ fail : String → HostError, (∀ reason, r.action.FailsWith (fail reason)) ∧
      (executor dryRun).callFor r = some (failing fail (write (r.lineBytes dryRun))) := by
  unfold ActionRequest.isEffective at effective
  unfold Executor.callFor ActionRequest.lineBytes ActionRequest.notification
  cases haction : r.action with
  | none | error =>
    simp [haction, Action.hasSideEffect] at effective
  | start =>
    exact ⟨.startFailed, .start, rfl⟩
  | stop =>
    exact ⟨.stopFailed, .stop, rfl⟩
  | terminate =>
    exact ⟨.terminateFailed, .terminate, rfl⟩
  | email recipient =>
    simp only [haction] at effective
    rcases Option.isSome_iff_exists.1 effective with ⟨m, hm⟩
    refine ⟨.notifyFailed, .email recipient, ?_⟩
    rw [hm]
    rfl

theorem dispatch_unlimited (effective : r.isEffective = true) (bytes : List UInt8) :
    (executor dryRun).dispatch r ⟨bytes, none⟩ =
      (.ok .executed, ⟨bytes ++ r.lineBytes dryRun, none⟩) := by
  rcases exists_callFor_executor dryRun effective with ⟨fail, -, hcall⟩
  rw [Executor.dispatch_of_callFor hcall]
  rfl

theorem dispatch_of_le {room : Nat} (effective : r.isEffective = true)
    (h : (r.lineBytes dryRun).length ≤ room) (bytes : List UInt8) :
    (executor dryRun).dispatch r ⟨bytes, some room⟩ =
      (.ok .executed,
        ⟨bytes ++ r.lineBytes dryRun, some (room - (r.lineBytes dryRun).length)⟩) := by
  rcases exists_callFor_executor dryRun effective with ⟨fail, -, hcall⟩
  rw [Executor.dispatch_of_callFor hcall]
  simp [failing, write, h, Executor.executed]

/-- A line that does not fit is cut, and its request fails. -/
theorem dispatch_of_lt {room : Nat} (effective : r.isEffective = true)
    (h : room < (r.lineBytes dryRun).length) (bytes : List UInt8) :
    ∃ e, r.action.FailsWith e ∧ (executor dryRun).dispatch r ⟨bytes, some room⟩ =
      (.error e, ⟨bytes ++ (r.lineBytes dryRun).take room, some 0⟩) := by
  rcases exists_callFor_executor dryRun effective with ⟨fail, hfail, hcall⟩
  refine ⟨_, hfail (HostError.io closed).message, ?_⟩
  rw [Executor.dispatch_of_callFor hcall]
  simp [failing, write, Nat.not_le.2 h, Executor.executed]

/-! ## A list of requests -/

/-- A journal without a bound takes the lines of all requests that have an effect. -/
theorem dispatchList_unlimited (dryRun : Bool) (requests : List ActionRequest)
    (bytes : List UInt8) :
    (executor dryRun).dispatchList requests ⟨bytes, none⟩ =
      (requests.map (fun r => if r.isEffective then .ok .executed else r.refusal),
        ⟨bytes ++ stream dryRun requests, none⟩) := by
  induction requests generalizing bytes with
  | nil =>
    simp
  | cons r requests ih =>
    rw [Executor.dispatchList_cons]
    cases effective : r.isEffective with
    | false =>
      rw [Executor.dispatch_of_not_isEffective effective, ih,
        stream_cons_of_not_isEffective effective]
      simp [effective]
    | true =>
      rw [dispatch_unlimited effective, ih, stream_cons_of_isEffective effective]
      simp [effective]

/-- What is written to a journal with a bound are the first bytes of what one without a bound would
take, and the room that is left is the rest. -/
theorem dispatchList_limited_snd (dryRun : Bool) (requests : List ActionRequest)
    (bytes : List UInt8) (room : Nat) :
    ((executor dryRun).dispatchList requests ⟨bytes, some room⟩).2 =
      ⟨bytes ++ (stream dryRun requests).take room,
        some (room - (stream dryRun requests).length)⟩ := by
  induction requests generalizing bytes room with
  | nil =>
    simp
  | cons r requests ih =>
    rw [Executor.dispatchList_cons]
    cases effective : r.isEffective with
    | false =>
      rw [Executor.dispatch_of_not_isEffective effective, stream_cons_of_not_isEffective effective]
      exact ih bytes room
    | true =>
      rw [stream_cons_of_isEffective effective, List.take_append, List.length_append]
      rcases Nat.lt_or_ge room (r.lineBytes dryRun).length with hlt | hle
      · -- a torn line leaves no room for a later one
        rcases dispatch_of_lt effective hlt bytes with ⟨e, -, hdispatch⟩
        have hroom : room - (r.lineBytes dryRun).length = 0 := by
          omega
        have hrest :
            room - ((r.lineBytes dryRun).length + (stream dryRun requests).length) = 0 := by
          omega
        rw [hdispatch, ih, hroom, hrest]
        simp
      · rw [dispatch_of_le effective hle, ih, List.take_of_length_le hle, Nat.sub_sub]
        simp

/-! ## Requests with their notifications -/

/-- With a journal without a bound, no request fails. -/
theorem failed_dispatchList_unlimited (complete : ∀ r ∈ requests, r.Complete) (bytes : List UInt8) :
    ((executor dryRun).dispatchList requests ⟨bytes, none⟩).1.countP Outcome.failed = 0 := by
  rw [dispatchList_unlimited, List.countP_map, List.countP_eq_zero]
  intro r hr
  rw [Function.comp_apply, (complete r hr).isEffective_eq]
  cases effect : r.action.hasSideEffect with
  | false =>
    simp [r.refusal_of_quiet effect, Outcome.failed]
  | true =>
    simp [Outcome.failed]

/-- With a journal that takes nothing, as many requests fail as ask for something. -/
theorem dispatchList_full (complete : ∀ r ∈ requests, r.Complete) (bytes : List UInt8) :
    ((executor dryRun).dispatchList requests ⟨bytes, some 0⟩).1.countP Outcome.failed =
      requests.countP (·.action.hasSideEffect) := by
  induction requests with
  | nil =>
    rfl
  | cons r requests ih =>
    have hr := complete r List.mem_cons_self
    have hrest := ih (fun r' hr' => complete r' (List.mem_cons_of_mem _ hr'))
    rw [Executor.dispatchList_cons]
    cases effect : r.action.hasSideEffect with
    | false =>
      have effective := hr.isEffective_eq.trans effect
      rw [Executor.dispatch_of_not_isEffective effective, r.refusal_of_quiet effect]
      simp [hrest, effect]
    | true =>
      have effective := hr.isEffective_eq.trans effect
      rcases dispatch_of_lt effective (r.length_lineBytes_pos dryRun) bytes with ⟨e, -, hdispatch⟩
      have htail : ((executor dryRun).dispatchList requests ⟨bytes, some 0⟩).1.countP
          Outcome.failed + 1 = requests.countP (·.action.hasSideEffect) + 1 := by
        rw [hrest]
      simpa [hdispatch, List.countP_cons, effect] using htail

end Journal
end FleetLifecycle
