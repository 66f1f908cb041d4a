import FleetLifecycle.Dispatch.RecordedFleet
import FleetLifecycle.Proofs.Calls
import FleetLifecycle.Proofs.Gate
import Mathlib.Data.List.Forall2

/-!
# Fleet logs — a recorded fleet knows exactly what was carried out

A recorded fleet can be made to fail at any time, in the middle of anything that is done with it.
Concretely, we:

1. say which call belongs to a request (`FleetCall.Matches`);
2. show what one dispatched request does to the fleet (`RecordedFleet.dispatch_cases`);
3. follow the requests of a cycle (`RecordedFleet.logged_dispatchList`), one step
   (`RecordedFleet.logged_step`) and a run of steps;
4. conclude with `RecordedFleet.run_logs`: after any run the log is what it was before, followed by
   one call for each request that was reported executed.
-/

namespace FleetLifecycle

/-- The call by which a request is carried out. -/
inductive FleetCall.Matches : FleetCall → ActionRequest → Prop where
  | start {r : ActionRequest} (action : r.action = .start) : Matches (.start r.resourceId) r
  | stop {r : ActionRequest} (action : r.action = .stop) :
      Matches (.stop r.resourceId r.snapshotId) r
  | terminate {r : ActionRequest} (action : r.action = .terminate) :
      Matches (.terminate r.resourceId) r
  | notify {r : ActionRequest} {recipient : String} {m : EmailMessage}
      (action : r.action = .email recipient) (message : r.email = some m) :
      Matches (.notify r.resourceId m.recipient) r

/-- The requests that were reported executed, in the order in which they were dispatched. -/
def executedRequests (dispatches : List (ActionRequest × Outcome)) : List ActionRequest :=
  (dispatches.filter (fun d => Outcome.isExecuted d.2)).map Prod.fst

theorem executedRequests_append (dispatches others : List (ActionRequest × Outcome)) :
    executedRequests (dispatches ++ others) =
      executedRequests dispatches ++ executedRequests others := by
  simp [executedRequests]

/-- The requests that a step dispatches, with the outcomes that its answer gives. -/
def FleetStep.dispatches : FleetStep → FleetAnswer → List (ActionRequest × Outcome)
  | .dispatch r, .dispatched outcome => [(r, outcome)]
  | .cycle _ _, .cycled (.ok (report, outcomes)) => report.requests.zip outcomes
  | _, _ => []

/-- The requests that a run of steps dispatches, with their outcomes. -/
def FleetStep.dispatchesOver (steps : List FleetStep) (answers : List FleetAnswer) :
    List (ActionRequest × Outcome) :=
  (steps.zip answers).flatMap (fun p => p.1.dispatches p.2)

namespace RecordedFleet

/-- The later fleet has written down a call for each request that was executed in between, and
nothing else. -/
def Logged (before after : RecordedFleet) (dispatches : List (ActionRequest × Outcome)) : Prop :=
  ∃ calls, after.calls = before.calls ++ calls ∧
    List.Forall₂ FleetCall.Matches calls (executedRequests dispatches)

variable {f g h : RecordedFleet} {r : ActionRequest} {s : Settings}

theorem Logged.of_calls_eq (calls : g.calls = f.calls) : Logged f g [] :=
  ⟨[], by simp [calls], .nil⟩

theorem Logged.trans {dispatches others : List (ActionRequest × Outcome)}
    (first : Logged f g dispatches) (second : Logged g h others) :
    Logged f h (dispatches ++ others) := by
  rcases first with ⟨calls, hcalls, hmatch⟩
  rcases second with ⟨calls', hcalls', hmatch'⟩
  refine ⟨calls ++ calls', ?_, ?_⟩
  · rw [hcalls', hcalls, List.append_assoc]
  · rw [executedRequests_append]
    exact List.rel_append hmatch hmatch'

/-! ## One request -/

/-- The call that a request asks of a fleet is recorded as the one that belongs to it. -/
theorem exists_matches_of_callFor {call : Call RecordedFleet} (h : executor.callFor r = some call) :
    ∃ c, FleetCall.Matches c r ∧ call = record c := by
  unfold Executor.callFor at h
  cases haction : r.action with
  | none | error =>
    simp [haction] at h
  | start =>
    simp only [haction, Option.some.injEq] at h
    exact ⟨_, .start haction, h.symm⟩
  | stop =>
    simp only [haction, Option.some.injEq] at h
    exact ⟨_, .stop haction, h.symm⟩
  | terminate =>
    simp only [haction, Option.some.injEq] at h
    exact ⟨_, .terminate haction, h.symm⟩
  | email recipient =>
    simp only [haction] at h
    rcases Option.map_eq_some_iff.1 h with ⟨m, hm, hcall⟩
    exact ⟨_, .notify haction hm, hcall.symm⟩

/-- Either a request is executed and its call comes to the end of the log, or the fleet stays as it
is.  Whether a request is executed does not depend on the log. -/
theorem dispatch_cases (f : RecordedFleet) (r : ActionRequest) :
    (r.isEffective = true ∧ f.failActions = false ∧ ∃ c, FleetCall.Matches c r ∧
      executor.dispatch r f = (.ok .executed, { f with calls := f.calls ++ [c] })) ∨
    (r.isEffective = true ∧ f.failActions = true ∧
      executor.dispatch r f = (.error (.internal failure), f)) ∨
    (r.isEffective = false ∧ executor.dispatch r f = (r.refusal, f)) := by
  cases heffective : r.isEffective with
  | false =>
    exact .inr (.inr ⟨rfl, Executor.dispatch_of_not_isEffective heffective executor f⟩)
  | true =>
    rcases Executor.exists_callFor executor heffective with ⟨call, hcall⟩
    rcases exists_matches_of_callFor hcall with ⟨c, hmatches, rfl⟩
    have hdispatch := Executor.dispatch_of_callFor hcall f
    cases hfail : f.failActions with
    | false =>
      refine .inl ⟨rfl, rfl, c, hmatches, ?_⟩
      rw [hdispatch]
      simp [record, hfail, Executor.executed]
    | true =>
      refine .inr (.inl ⟨rfl, rfl, ?_⟩)
      rw [hdispatch]
      simp [record, hfail, Executor.executed]

/-- A request that is not executed leaves the fleet as it is. -/
theorem dispatch_snd_of_not_executed (h : (executor.dispatch r f).1 ≠ .ok .executed) :
    (executor.dispatch r f).2 = f := by
  rcases dispatch_cases f r with ⟨-, -, c, -, hdispatch⟩ | ⟨-, -, hdispatch⟩ | ⟨-, hdispatch⟩
  · simp [hdispatch] at h
  · rw [hdispatch]
  · rw [hdispatch]

theorem logged_dispatch (f : RecordedFleet) (r : ActionRequest) :
    Logged f (executor.dispatch r f).2 [(r, (executor.dispatch r f).1)] := by
  rcases dispatch_cases f r with ⟨-, -, c, hmatches, hdispatch⟩ | ⟨-, -, hdispatch⟩ |
    ⟨-, hdispatch⟩
  · rw [hdispatch]
    exact ⟨[c], rfl, .cons hmatches .nil⟩
  · rw [hdispatch]
    exact ⟨[], (List.append_nil _).symm, .nil⟩
  · have hnot : Outcome.isExecuted r.refusal = false := by
      rw [← Bool.not_eq_true, Outcome.isExecuted_iff]
      exact r.refusal_ne_executed
    rw [hdispatch]
    exact ⟨[], (List.append_nil _).symm, by simp [executedRequests, hnot]⟩

theorem dispatch_fst (f : RecordedFleet) (r : ActionRequest) :
    (executor.dispatch r f).1 =
      if r.isEffective then (if f.failActions then .error (.internal failure) else .ok .executed)
      else r.refusal := by
  rcases dispatch_cases f r with ⟨heffective, hfail, c, -, hdispatch⟩ |
    ⟨heffective, hfail, hdispatch⟩ | ⟨hquiet, hdispatch⟩
  · simp [heffective, hfail, hdispatch]
  · simp [heffective, hfail, hdispatch]
  · simp [hquiet, hdispatch]

/-- The outcome of a request depends on the switch for failures, not on the log. -/
theorem dispatch_fst_congr (h : g.failActions = f.failActions) (r : ActionRequest) :
    (executor.dispatch r g).1 = (executor.dispatch r f).1 := by
  rw [dispatch_fst, dispatch_fst, h]

/-- Dispatching touches the log and nothing else. -/
theorem failActions_dispatch (f : RecordedFleet) (r : ActionRequest) :
    (executor.dispatch r f).2.failActions = f.failActions := by
  rcases dispatch_cases f r with ⟨-, -, c, -, hdispatch⟩ | ⟨-, -, hdispatch⟩ | ⟨-, hdispatch⟩ <;>
    rw [hdispatch]

/-! ## The requests of a cycle -/

theorem logged_dispatchList (f : RecordedFleet) (rs : List ActionRequest) :
    Logged f (executor.dispatchList rs f).2 (rs.zip (executor.dispatchList rs f).1) := by
  induction rs generalizing f with
  | nil =>
    exact .of_calls_eq rfl
  | cons r rs ih =>
    have hhead := logged_dispatch f r
    have htail := ih (executor.dispatch r f).2
    exact hhead.trans htail

/-- Each request of a list has the outcome that it would have by itself: none of them is kept from
its turn by those before it. -/
theorem dispatchList_fst (f : RecordedFleet) (rs : List ActionRequest) :
    (executor.dispatchList rs f).1 = rs.map (fun r => (executor.dispatch r f).1) := by
  induction rs generalizing f with
  | nil =>
    rfl
  | cons r rs ih =>
    have hrest : (executor.dispatchList rs (executor.dispatch r f).2).1 =
        rs.map (fun r => (executor.dispatch r f).1) := by
      rw [ih]
      exact List.map_congr_left (fun r' _ => dispatch_fst_congr (failActions_dispatch f r) r')
    rw [Executor.dispatchList_cons, hrest, List.map_cons]

/-! ## Steps and runs -/

theorem step_cycle_of_failListing (h : f.failListing = true) (s : Settings) (id : CycleId)
    (t : Instant) : f.step s (.cycle id t) = (.cycled (.error (.listFailed failure)), f) := by
  simp [step, cycle, list, h]

theorem step_cycle (h : f.failListing = false) (s : Settings) (id : CycleId) (t : Instant) :
    f.step s (.cycle id t) =
      (.cycled (.ok (s.evaluateFleet id f.resources t,
          (executor.dispatchList (s.evaluateFleet id f.resources t).requests f).1)),
        (executor.dispatchList (s.evaluateFleet id f.resources t).requests f).2) := by
  simp [step, cycle, list, h]

theorem logged_step (s : Settings) (f : RecordedFleet) (x : FleetStep) :
    Logged f (f.step s x).2 (x.dispatches (f.step s x).1) := by
  cases x with
  | failListing value | failActions value | list =>
    exact .of_calls_eq rfl
  | dispatch r =>
    exact logged_dispatch f r
  | cycle id t =>
    cases hlisting : f.failListing with
    | true =>
      rw [step_cycle_of_failListing hlisting]
      exact .of_calls_eq rfl
    | false =>
      rw [step_cycle hlisting]
      exact logged_dispatchList f _

theorem run_append_snd (s : Settings) (f : RecordedFleet) (xs ys : List FleetStep) :
    (f.run s (xs ++ ys)).2 = ((f.run s xs).2.run s ys).2 := by
  induction xs generalizing f with
  | nil =>
    rfl
  | cons x xs ih =>
    exact ih (f.step s x).2

theorem logged_run (s : Settings) (f : RecordedFleet) (xs : List FleetStep) :
    Logged f (f.run s xs).2 (FleetStep.dispatchesOver xs (f.run s xs).1) := by
  induction xs generalizing f with
  | nil =>
    exact .of_calls_eq rfl
  | cons x xs ih =>
    have hhead := logged_step s f x
    have htail := ih (f.step s x).2
    exact hhead.trans htail

theorem calls_prefix_run (s : Settings) (f : RecordedFleet) (xs : List FleetStep) :
    f.calls <+: (f.run s xs).2.calls := by
  rcases logged_run s f xs with ⟨calls, hcalls, -⟩
  exact ⟨calls, hcalls.symm⟩

/-- The log only grows at its end, by one call for each request that is reported executed, in the
order in which requests are dispatched.  A request that is skipped or fails, and a cycle that
cannot list its resources, leave the fleet as it is; in every other cycle each request is
dispatched as if it were the only one. -/
theorem run_logs (s : Settings) (fleet : RecordedFleet) (steps : List FleetStep) :
    (∃ calls, (fleet.run s steps).2.calls = fleet.calls ++ calls ∧
      List.Forall₂ FleetCall.Matches calls
        (executedRequests (FleetStep.dispatchesOver steps (fleet.run s steps).1))) ∧
    (∀ before after, steps = before ++ after →
      (fleet.run s before).2.calls <+: (fleet.run s steps).2.calls) ∧
    ∀ f : RecordedFleet,
      (∀ r, f.step s (.dispatch r) =
          (.dispatched (executor.dispatch r f).1, (executor.dispatch r f).2) ∧
        ((executor.dispatch r f).1 ≠ .ok .executed → (executor.dispatch r f).2 = f)) ∧
      (∀ id t, f.failListing = true →
        f.step s (.cycle id t) = (.cycled (.error (.listFailed failure)), f)) ∧
      ∀ id t, f.failListing = false → ∃ outcomes,
        (f.step s (.cycle id t)).1 =
          .cycled (.ok (s.evaluateFleet id f.resources t, outcomes)) ∧
        outcomes = (s.evaluateFleet id f.resources t).requests.map
          (fun r => (executor.dispatch r f).1) := by
  refine ⟨logged_run s fleet steps, ?_, ?_⟩
  · rintro before after rfl
    rw [run_append_snd]
    exact calls_prefix_run s _ after
  · intro f
    refine ⟨?_, ?_, ?_⟩
    · intro r
      exact ⟨rfl, dispatch_snd_of_not_executed⟩
    · intro id t hlisting
      exact step_cycle_of_failListing hlisting s id t
    · intro id t hlisting
      rw [step_cycle hlisting]
      exact ⟨_, rfl, dispatchList_fst f _⟩

/-- Of three cycles only the first is carried out: in the second every call fails, and in the third
so does the listing. -/
theorem run_logs_interrupted :
    let fleet := ofList
      [.compute ⟨"i-1", "running", none, Tags.empty.insert "lifecycle-policy" "always-off"⟩,
        .compute ⟨"i-2", "stopped", none, Tags.empty.insert "lifecycle-policy" "always-on"⟩]
    let steps : List FleetStep := [.cycle .zero .epoch, .failActions true, .cycle .zero .epoch,
      .failActions false, .failListing true, .cycle .zero .epoch]
    let calls : List FleetCall := [.stop "i-1" none, .start "i-2"]
    (fleet.run .default steps).2.calls = calls ∧
      List.Forall₂ FleetCall.Matches calls
        (executedRequests (FleetStep.dispatchesOver steps (fleet.run .default steps).1)) ∧
      (fleet.run .default (steps.take 1)).2.calls <+: calls ∧
      { fleet with failListing := true }.step .default (.cycle .zero .epoch) =
        (.cycled (.error (.listFailed failure)), { fleet with failListing := true }) := by
  intro fleet steps calls
  have hcalls : (fleet.run .default steps).2.calls = calls := by
    decide +kernel
  rcases run_logs .default fleet steps with ⟨⟨calls', hcalls', hmatches⟩, hprefix, hsteps⟩
  have hsame : calls' = calls := hcalls'.symm.trans hcalls
  have hfirst := hprefix (steps.take 1) (steps.drop 1) rfl
  rw [hcalls] at hfirst
  exact ⟨hcalls, hsame ▸ hmatches, hfirst, (hsteps _).2.1 .zero .epoch rfl⟩

end RecordedFleet
end FleetLifecycle
