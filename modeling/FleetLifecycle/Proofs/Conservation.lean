import FleetLifecycle.Proofs.CommandRun
import FleetLifecycle.Proofs.Independence

/-!
# Conservation — a report and the outcomes of its requests add up

A cycle is counted four times over: resources without a tag, requests by the name of their action,
requests with a side effect, and outcomes.  Concretely, we:

1. show what counting by name gives (`Report.countOf_eq`, `Report.sum_actionCounts`);
2. say what an executor answers while a list is dispatched (`Executor.answers`) and compare the
   outcomes with the answers;
3. conclude with `Settings.evaluateFleet_conserves`: whatever an executor answers, in whatever
   order requests are dispatched and outcomes come in, the counts agree.
-/

namespace FleetLifecycle

namespace Entries

variable {entries : List (String × Nat)}

/-- Inserting a value changes the sum by what the name stood for before. -/
theorem sum_insert (name : String) (value : Nat) (h : entries.Pairwise (fun a b => a.1 < b.1)) :
    ((insert name value entries).map Prod.snd).sum + (find? name entries).getD 0 =
      (entries.map Prod.snd).sum + value := by
  induction entries with
  | nil =>
    simp [insert, find?]
  | cons head rest ih =>
    rcases head with ⟨n, v⟩
    rcases List.pairwise_cons.1 h with ⟨hhead, hrest⟩
    unfold insert
    split
    · next hlt =>
      have hnone : find? name ((n, v) :: rest) = none := find?_cons_eq_none_of_lt hhead hlt
      rw [hnone]
      simp only [List.map_cons, List.sum_cons, Option.getD_none]
      omega
    · split
      · next heq =>
        simp only [heq, find?, if_pos, List.map_cons, List.sum_cons, Option.getD_some]
        omega
      · next hne =>
        have hsum := ih hrest
        have hfind : find? name ((n, v) :: rest) = find? name rest := if_neg (Ne.symm hne)
        rw [hfind]
        simp only [List.map_cons, List.sum_cons]
        omega

end Entries

/-! ## Counting by name -/

namespace Report

/-- How many requests ask for an action of the given name; none if the counts do not have it. -/
def countOf (r : Report) (name : String) : Nat :=
  (Entries.find? name r.actionCounts).getD 0

variable {counts : ActionCounts}

theorem getD_find?_countOne (counts : ActionCounts) (name other : String) :
    (Entries.find? other (countOne counts name)).getD 0 =
      (Entries.find? other counts).getD 0 + (if name = other then 1 else 0) := by
  rw [countOne, Entries.find?_insert]
  by_cases h : name = other
  · simp [h]
  · simp [h]

theorem getD_find?_foldl (names : List String) (counts : ActionCounts) (other : String) :
    (Entries.find? other (names.foldl countOne counts)).getD 0 =
      (Entries.find? other counts).getD 0 + names.count other := by
  induction names generalizing counts with
  | nil =>
    rfl
  | cons name names ih =>
    rw [List.foldl_cons, ih, getD_find?_countOne, List.count_cons]
    by_cases h : name = other
    · simp [h]
      omega
    · simp [h]

theorem countOf_eq (r : Report) (name : String) :
    r.countOf name = r.requests.countP (fun req => req.action.name == name) := by
  have hcount := getD_find?_foldl (r.requests.map (·.action.name)) [] name
  rw [countOf, actionCounts, hcount, List.count, List.countP_map]
  simp [Entries.find?, Function.comp_def]

/-- Counts whose names ascend and that count nothing zero times. -/
structure Tallied (counts : ActionCounts) : Prop where
  ascending : counts.Pairwise (fun a b => a.1 < b.1)
  positive : ∀ c ∈ counts, 0 < c.2

theorem tallied_countOne (h : Tallied counts) (name : String) : Tallied (countOne counts name) where
  ascending := Entries.pairwise_insert name _ h.ascending
  positive := by
    intro c hc
    rcases Entries.mem_insert hc with rfl | hold
    · exact Nat.succ_pos _
    · exact h.positive c hold

theorem sum_countOne (h : Tallied counts) (name : String) :
    ((countOne counts name).map Prod.snd).sum = (counts.map Prod.snd).sum + 1 := by
  have hsum := Entries.sum_insert name ((Entries.find? name counts).getD 0 + 1) h.ascending
  rw [countOne]
  omega

theorem tallied_foldl (names : List String) (h : Tallied counts) :
    Tallied (names.foldl countOne counts) ∧
      ((names.foldl countOne counts).map Prod.snd).sum =
        (counts.map Prod.snd).sum + names.length := by
  induction names generalizing counts with
  | nil =>
    exact ⟨h, rfl⟩
  | cons name names ih =>
    rcases ih (tallied_countOne h name) with ⟨htallied, hsum⟩
    refine ⟨htallied, ?_⟩
    rw [List.foldl_cons, hsum, sum_countOne h, List.length_cons]
    omega

theorem tallied_actionCounts (r : Report) :
    Tallied r.actionCounts ∧ (r.actionCounts.map Prod.snd).sum = r.requests.length := by
  have hnil : Tallied [] := ⟨.nil, by simp⟩
  have hfold := tallied_foldl (r.requests.map (·.action.name)) hnil
  simpa [actionCounts] using hfold

theorem length_sideEffects (r : Report) :
    r.sideEffects.length = r.requests.countP (·.action.hasSideEffect) := by
  rw [sideEffects, List.countP_eq_length_filter]

/-- The actions with a side effect are those of four names. -/
theorem countP_hasSideEffect (r : Report) :
    r.requests.countP (·.action.hasSideEffect) =
      r.countOf "start" + r.countOf "stop" + r.countOf "terminate" + r.countOf "email" := by
  simp only [countOf_eq]
  induction r.requests with
  | nil =>
    rfl
  | cons req requests ih =>
    simp only [List.countP_cons, ih]
    cases req.action <;> simp [Action.hasSideEffect, Action.name] <;> omega

/-- The actions without a side effect are those of two names. -/
theorem countP_quiet (r : Report) :
    r.requests.countP (fun req => !req.action.hasSideEffect) =
      r.countOf "none" + r.countOf "error" := by
  simp only [countOf_eq]
  induction r.requests with
  | nil =>
    rfl
  | cons req requests ih =>
    simp only [List.countP_cons, ih]
    cases req.action <;> simp [Action.hasSideEffect, Action.name] <;> omega

end Report

/-! ## Outcomes and answers -/

namespace Executor

variable {σ : Type} {x : Executor σ} {r : ActionRequest}

/-- What an executor answers to the calls that dispatching a list makes. -/
def answers (x : Executor σ) : List ActionRequest → σ → List (Except HostError Unit)
  | [], _ => []
  | r :: rs, state =>
    ((x.callFor r).map (fun call => (call state).1)).toList ++
      x.answers rs (x.dispatch r state).2

theorem isSkipped_dispatch (x : Executor σ) (r : ActionRequest) (state : σ) :
    Outcome.isSkipped (x.dispatch r state).1 = !r.action.hasSideEffect := by
  cases effective : r.isEffective with
  | true =>
    rcases exists_callFor x effective with ⟨call, hcall⟩
    rw [dispatch_of_callFor hcall, r.hasSideEffect_of_isEffective effective]
    -- a call is executed or fails
    rcases call state with ⟨e | u, state'⟩ <;> rfl
  | false =>
    rw [dispatch_of_not_isEffective effective]
    unfold ActionRequest.isEffective at effective
    unfold ActionRequest.refusal
    cases haction : r.action with
    | none | error | email recipient =>
      rfl
    | start | stop | terminate =>
      simp [haction, Action.hasSideEffect] at effective

theorem countP_isSkipped (x : Executor σ) (rs : List ActionRequest) (state : σ) :
    (x.dispatchList rs state).1.countP Outcome.isSkipped =
      rs.countP (fun r => !r.action.hasSideEffect) := by
  induction rs generalizing state with
  | nil =>
    rfl
  | cons r rs ih =>
    rw [dispatchList_cons, List.countP_cons, List.countP_cons, ih, isSkipped_dispatch]

/-- Each outcome is of one of three kinds. -/
theorem countP_outcomes (outcomes : List Outcome) :
    outcomes.countP Outcome.isExecuted + outcomes.countP Outcome.isSkipped +
      outcomes.countP Outcome.failed = outcomes.length := by
  induction outcomes with
  | nil =>
    rfl
  | cons outcome outcomes ih =>
    simp only [List.countP_cons, List.length_cons]
    rcases outcome with e | (_ | _) <;> simp [Outcome.isExecuted, Outcome.isSkipped] <;> omega

/-- What is not skipped is executed or fails: the requests with a side effect. -/
theorem countP_executed_add_failed (x : Executor σ) (rs : List ActionRequest) (state : σ) :
    (x.dispatchList rs state).1.countP Outcome.isExecuted +
        (x.dispatchList rs state).1.countP Outcome.failed =
      rs.countP (·.action.hasSideEffect) := by
  have hthree := countP_outcomes (x.dispatchList rs state).1
  have hskipped := x.countP_isSkipped rs state
  have hlength := x.length_dispatchList rs state
  have htwo := List.length_eq_countP_add_countP (fun r : ActionRequest => r.action.hasSideEffect)
    (l := rs)
  simp only [Bool.not_eq_true, Bool.decide_eq_false] at htwo
  omega

/-- A request with its notification fails only by the answer to its call. -/
theorem countP_failed_dispatch (complete : r.Complete) (x : Executor σ) (state : σ) :
    (if Outcome.failed (x.dispatch r state).1 then 1 else 0) =
      ((x.callFor r).map (fun call => (call state).1)).toList.countP (fun a => !a.isOk) := by
  cases effective : r.isEffective with
  | true =>
    rcases exists_callFor x effective with ⟨call, hcall⟩
    rw [dispatch_of_callFor hcall, hcall]
    rcases hanswer : call state with ⟨e | u, state'⟩ <;>
      simp [executed, hanswer, Except.isOk, Except.toBool]
  | false =>
    have hquiet : r.action.hasSideEffect = false := complete.isEffective_eq.symm.trans effective
    rw [dispatch_of_not_isEffective effective, callFor_eq_none x effective,
      r.refusal_of_quiet hquiet]
    rfl

/-- Requests with their notifications fail as often as the executor answers with an error. -/
theorem countP_failed {rs : List ActionRequest} (complete : ∀ r ∈ rs, r.Complete) (x : Executor σ)
    (state : σ) :
    (x.dispatchList rs state).1.countP Outcome.failed =
      (x.answers rs state).countP (fun a => !a.isOk) := by
  induction rs generalizing state with
  | nil =>
    rfl
  | cons r rs ih =>
    have hhead := countP_failed_dispatch (complete r List.mem_cons_self) x state
    have hrest := ih (fun r' hr' => complete r' (List.mem_cons_of_mem _ hr'))
      (x.dispatch r state).2
    rw [dispatchList_cons, List.countP_cons, answers, List.countP_append, hrest, hhead]
    omega

end Executor

namespace Settings

/-- A resource either has the policy tag and gives a request, or is counted as untagged. -/
theorem untagged_add_length (s : Settings) (id : CycleId) (fleet : List Resource) (t : Instant) :
    (s.evaluateFleet id fleet t).untagged + (s.evaluateFleet id fleet t).requests.length =
      fleet.length :=
  (covers_evaluateFleet s id fleet t).untagged

/-- The counts of a cycle agree.  Resources are untagged or give a request; requests are counted by
the names of their actions, four of which have side effects; and dispatching the requests in any
order, with any answers of the executor and with the outcomes coming in in any order, skips the
requests without side effects, executes or fails the others, and fails exactly as many as the
executor answers with an error. -/
theorem evaluateFleet_conserves (s : Settings) (id : CycleId) (fleet : List Resource)
    (t : Instant) :
    let report := s.evaluateFleet id fleet t
    report.untagged + report.requests.length = fleet.length ∧
    (∀ c ∈ report.actionCounts, 0 < c.2) ∧
    (report.actionCounts.map Prod.snd).sum = report.requests.length ∧
    report.sideEffects.length =
      report.countOf "start" + report.countOf "stop" + report.countOf "terminate" +
        report.countOf "email" ∧
    (∀ req ∈ report.requests, req.action.hasSideEffect = true → req.isEffective = true) ∧
    ∀ {σ : Type} (x : Executor σ) (state : σ) (order : List ActionRequest) (joined : List Outcome),
      order.Perm report.requests → joined.Perm (x.dispatchList order state).1 →
      (summarize joined).skipped = report.countOf "none" + report.countOf "error" ∧
      (summarize joined).executed + (summarize joined).failed = report.sideEffects.length ∧
      (summarize joined).failed = (x.answers order state).countP (fun a => !a.isOk) ∧
      ((∀ a ∈ x.answers order state, a = .ok ()) → (summarize joined).failed = 0) := by
  intro report
  have complete : ∀ req ∈ report.requests, req.Complete := fun _ => complete_of_mem_requests
  rcases report.tallied_actionCounts with ⟨htallied, hsum⟩
  have heffects := report.length_sideEffects.trans report.countP_hasSideEffect
  refine ⟨s.untagged_add_length id fleet t, htallied.positive, hsum, heffects, ?_, ?_⟩
  · intro req hreq heffect
    exact (complete req hreq).isEffective_eq.trans heffect
  · intro σ x state order joined horder hjoined
    have hskipped : joined.countP Outcome.isSkipped =
        report.countOf "none" + report.countOf "error" := by
      rw [hjoined.countP_eq, x.countP_isSkipped, horder.countP_eq, report.countP_quiet]
    have hfailed : joined.countP Outcome.failed =
        (x.answers order state).countP (fun a => !a.isOk) := by
      rw [hjoined.countP_eq]
      exact Executor.countP_failed (fun req hreq => complete req (horder.mem_iff.1 hreq)) x state
    have hdone : joined.countP Outcome.isExecuted + joined.countP Outcome.failed =
        report.sideEffects.length := by
      rw [hjoined.countP_eq, hjoined.countP_eq, x.countP_executed_add_failed, horder.countP_eq,
        report.length_sideEffects]
    rw [summarize_eq]
    refine ⟨hskipped, hdone, hfailed, ?_⟩
    · intro hok
      change joined.countP Outcome.failed = 0
      rw [hfailed, List.countP_eq_zero]
      intro a ha
      rw [hok a ha]
      simp [Except.isOk, Except.toBool]

/-- An executor that fails every second call carries out one of two requests, and the outcomes may
come in in reverse. -/
theorem evaluateFleet_conserves_alternating :
    let report := Settings.default.evaluateFleet .zero Machine.pairFleet .epoch
    let call : Call Nat := fun n => (if n % 2 = 0 then .ok () else .error (.internal "odd"), n + 1)
    let x : Executor Nat := ⟨fun _ => call, fun _ => call, fun _ => call, fun _ _ => call⟩
    let order := report.requests.reverse
    let joined := (x.dispatchList order 0).1.reverse
    order.Perm report.requests ∧ joined.Perm (x.dispatchList order 0).1 ∧
      report.untagged = 0 ∧ report.sideEffects.length = 2 ∧
      (summarize joined).executed + (summarize joined).failed = 2 ∧
      (summarize joined).failed = 1 := by
  intro report call x order joined
  have horder : order.Perm report.requests := List.reverse_perm _
  have hjoined : joined.Perm (x.dispatchList order 0).1 := List.reverse_perm _
  have huntagged : report.untagged = 0 := by
    decide +kernel
  have heffects : report.sideEffects.length = 2 := by
    decide +kernel
  have hanswers : (x.answers order 0).countP (fun a => !a.isOk) = 1 := by
    decide +kernel
  rcases evaluateFleet_conserves .default .zero Machine.pairFleet .epoch with
    ⟨-, -, -, -, -, hdispatched⟩
  rcases hdispatched x 0 order joined horder hjoined with ⟨-, htotal, hfailed, -⟩
  exact ⟨horder, hjoined, huntagged, heffects, htotal.trans heffects, hfailed.trans hanswers⟩

end Settings
end FleetLifecycle
