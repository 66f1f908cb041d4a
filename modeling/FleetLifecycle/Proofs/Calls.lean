import FleetLifecycle.Dispatch.Basic

/-!
# Calls — what dispatching a request asks of an executor

Dispatching a request makes one call or none, and what is left behind depends on that call alone.
Concretely, we:

1. count the outcomes that a summary is made of (`summarize_eq`);
2. say which requests have an effect (`ActionRequest.isEffective`) and what is answered to the
   others (`ActionRequest.refusal`);
3. name the call that a request asks for (`Executor.callFor`) and reduce dispatching to it;
4. follow a list of requests in two parts (`Executor.dispatchList_append`) and up to one of them
   (`Executor.dispatchList_getElem?`).
-/

namespace FleetLifecycle

/-! ## Outcomes -/

def Outcome.failed : Outcome → Bool
  | .ok _ => false
  | .error _ => true

@[simp]
theorem Outcome.failed_ok (d : Dispatched) : Outcome.failed (.ok d) = false :=
  rfl

@[simp]
theorem Outcome.failed_error (e : HostError) : Outcome.failed (.error e) = true :=
  rfl

def Outcome.isExecuted : Outcome → Bool
  | .ok .executed => true
  | _ => false

def Outcome.isSkipped : Outcome → Bool
  | .ok .skipped => true
  | _ => false

theorem Outcome.isExecuted_iff {outcome : Outcome} :
    Outcome.isExecuted outcome = true ↔ outcome = .ok .executed := by
  rcases outcome with e | (_ | _) <;> simp [isExecuted]

/-- Counting goes on from any summary, and every outcome is counted in one place. -/
theorem foldl_count (outcomes : List Outcome) (s : Summary) :
    outcomes.foldl Summary.count s =
      ⟨s.executed + outcomes.countP Outcome.isExecuted,
        s.skipped + outcomes.countP Outcome.isSkipped,
        s.failed + outcomes.countP Outcome.failed⟩ := by
  induction outcomes generalizing s with
  | nil =>
    rfl
  | cons outcome outcomes ih =>
    rw [List.foldl_cons, ih]
    simp only [List.countP_cons]
    rcases outcome with e | (_ | _)
    all_goals
      simp [Summary.count, Outcome.isExecuted, Outcome.isSkipped, Nat.add_comm, Nat.add_left_comm]

/-- A summary says how many requests were executed, skipped and failed. -/
theorem summarize_eq (outcomes : List Outcome) :
    summarize outcomes = ⟨outcomes.countP Outcome.isExecuted, outcomes.countP Outcome.isSkipped,
      outcomes.countP Outcome.failed⟩ := by
  simp [summarize, foldl_count]

theorem failed_summarize (outcomes : List Outcome) :
    (summarize outcomes).failed = outcomes.countP Outcome.failed := by
  rw [summarize_eq]

/-! ## Requests -/

namespace ActionRequest

/-- The request reaches beyond the program: its action has a side effect, and the notification is
there if it asks for one. -/
def isEffective (r : ActionRequest) : Bool :=
  match r.action with
  | .email _ => r.email.isSome
  | a => a.hasSideEffect

/-- The notification that is sent; other actions do not look at the one in the request. -/
def notification (r : ActionRequest) : Option EmailMessage :=
  match r.action with
  | .email _ => r.email
  | _ => none

/-- The outcome of a request that makes no call. -/
def refusal (r : ActionRequest) : Outcome :=
  match r.action with
  | .email _ => .error .missingMessage
  | _ => .ok .skipped

variable {r : ActionRequest}

theorem hasSideEffect_of_isEffective (h : r.isEffective = true) :
    r.action.hasSideEffect = true := by
  unfold isEffective at h
  cases haction : r.action with
  | email recipient =>
    rfl
  | none | error | start | stop | terminate =>
    rw [haction] at h
    exact h

theorem refusal_of_quiet (h : r.action.hasSideEffect = false) : r.refusal = .ok .skipped := by
  unfold refusal
  cases haction : r.action with
  | email recipient =>
    simp [haction, Action.hasSideEffect] at h
  | none | error | start | stop | terminate =>
    rfl

theorem refusal_ne_executed (r : ActionRequest) : r.refusal ≠ .ok .executed := by
  unfold refusal
  cases r.action <;> simp

end ActionRequest

namespace Executor

variable {σ : Type}

/-- The call that a request asks for, if it asks for one. -/
def callFor (x : Executor σ) (r : ActionRequest) : Option (Call σ) :=
  match r.action with
  | .none | .error => none
  | .start => some (x.start r)
  | .stop => some (x.stop r)
  | .terminate => some (x.terminate r)
  | .email _ => r.email.map (x.notify r)

variable {x : Executor σ} {r : ActionRequest}

/-! ## One request -/

theorem isSome_callFor (x : Executor σ) (r : ActionRequest) :
    (x.callFor r).isSome = r.isEffective := by
  unfold callFor ActionRequest.isEffective
  cases r.action with
  | email recipient =>
    exact Option.isSome_map
  | none | error | start | stop | terminate =>
    rfl

theorem exists_callFor (x : Executor σ) (h : r.isEffective = true) :
    ∃ call, x.callFor r = some call := by
  rw [← isSome_callFor x r] at h
  exact Option.isSome_iff_exists.1 h

theorem callFor_eq_none (x : Executor σ) (h : r.isEffective = false) : x.callFor r = none := by
  rw [← isSome_callFor x r] at h
  exact Option.not_isSome_iff_eq_none.1 (by simp [h])

theorem dispatch_of_callFor {call : Call σ} (h : x.callFor r = some call) (state : σ) :
    x.dispatch r state = executed (call state) := by
  unfold callFor at h
  unfold dispatch
  cases haction : r.action with
  | none | error =>
    simp [haction] at h
  | start | stop | terminate =>
    rw [haction] at h
    cases h
    rfl
  | email recipient =>
    rw [haction] at h
    rcases Option.map_eq_some_iff.1 h with ⟨m, hm, rfl⟩
    simp [hm]

/-- A request without effect leaves everything as it is. -/
theorem dispatch_of_not_isEffective (h : r.isEffective = false) (x : Executor σ) (state : σ) :
    x.dispatch r state = (r.refusal, state) := by
  unfold ActionRequest.isEffective at h
  unfold dispatch ActionRequest.refusal
  cases haction : r.action with
  | none | error =>
    rfl
  | start | stop | terminate =>
    simp [haction, Action.hasSideEffect] at h
  | email recipient =>
    rw [haction] at h
    have hemail : r.email = none := Option.not_isSome_iff_eq_none.1 (by simp [h])
    rw [hemail]

@[simp]
theorem executed_snd (answer : Except HostError Unit × σ) : (executed answer).2 = answer.2 := by
  rcases answer with ⟨e | u, state⟩ <;> rfl

/-! ## Lists of requests -/

@[simp]
theorem dispatchList_nil (x : Executor σ) (state : σ) : x.dispatchList [] state = ([], state) :=
  rfl

theorem dispatchList_cons (x : Executor σ) (r : ActionRequest) (rs : List ActionRequest)
    (state : σ) :
    x.dispatchList (r :: rs) state =
      ((x.dispatch r state).1 :: (x.dispatchList rs (x.dispatch r state).2).1,
        (x.dispatchList rs (x.dispatch r state).2).2) :=
  rfl

/-- Every request has its outcome, whatever became of those before it. -/
@[simp]
theorem length_dispatchList (x : Executor σ) (rs : List ActionRequest) (state : σ) :
    (x.dispatchList rs state).1.length = rs.length := by
  induction rs generalizing state with
  | nil =>
    rfl
  | cons r rs ih =>
    simp [dispatchList_cons, ih]

theorem dispatchList_append (x : Executor σ) (rs rs' : List ActionRequest) (state : σ) :
    x.dispatchList (rs ++ rs') state =
      ((x.dispatchList rs state).1 ++ (x.dispatchList rs' (x.dispatchList rs state).2).1,
        (x.dispatchList rs' (x.dispatchList rs state).2).2) := by
  induction rs generalizing state with
  | nil =>
    rfl
  | cons r rs ih =>
    simp [dispatchList_cons, ih]

/-- The outcome of a request is what dispatching it gives after those before it. -/
theorem dispatchList_getElem? (x : Executor σ) (before after : List ActionRequest)
    (r : ActionRequest) (state : σ) :
    (x.dispatchList (before ++ r :: after) state).1[before.length]? =
      some (x.dispatch r (x.dispatchList before state).2).1 := by
  have hlength := length_dispatchList x before state
  rw [dispatchList_append, List.getElem?_append_right (Nat.le_of_eq hlength), hlength,
    Nat.sub_self, dispatchList_cons]
  rfl

end Executor
end FleetLifecycle
