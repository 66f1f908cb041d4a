import FleetLifecycle.Proofs.Gate
import Mathlib.Data.List.Forall2
import Mathlib.Data.List.Induction

/-!
# Independence — no resource has a say in what is asked about another

A cycle goes through the fleet once and keeps the requests and the number of resources without a
policy tag.  Concretely, we:

1. show that the id of the cycle goes into a request as a name and no further
   (`Settings.request_inCycle`);
2. say when a report covers a fleet (`Report.Covers`), follow one more resource
   (`Report.Covers.add`) and from it the whole fleet (`Settings.covers_evaluateFleet`);
3. follow the requests of fleets put together, in another cycle and in another order;
4. conclude with `Settings.evaluateFleet_independent`.
-/

namespace FleetLifecycle

/-- The same request in another cycle. -/
def ActionRequest.inCycle (req : ActionRequest) (id : CycleId) : ActionRequest :=
  { req with cycleId := id }

namespace Settings

/-- The resource carries the policy tag. -/
def manages (s : Settings) (r : Resource) : Bool :=
  (r.tags.get? s.policyTag).isSome

/-- The request for a resource in a cycle: it is what the resource gives by itself, and it names
the resource, the cycle and the instant of the cycle. -/
structure Asks (s : Settings) (id : CycleId) (t : Instant) (r : Resource) (req : ActionRequest) :
    Prop where
  evaluated : s.evaluate r (s.beginCycle id t) = some req
  resourceId : req.resourceId = r.id
  resourceName : req.resourceName = r.displayName
  resourceClass : req.resourceClass = r.resourceClass
  cycleId : req.cycleId = id
  evaluatedAt : req.evaluatedAt = t

variable {s : Settings} {r : Resource} {req : ActionRequest} {id : CycleId} {t : Instant}

theorem asks_of_evaluate (h : s.evaluate r (s.beginCycle id t) = some req) :
    s.Asks id t r req := by
  rcases exists_tag_of_evaluate h with ⟨tag, -, rfl⟩
  exact ⟨h, rfl, rfl, rfl, rfl, rfl⟩

theorem exists_evaluate_iff {c : Cycle} :
    (∃ req, s.evaluate r c = some req) ↔ s.manages r = true := by
  rw [manages, Option.isSome_iff_exists]
  simp [evaluate]

/-- The id of the cycle goes into a request as a name and no further. -/
theorem request_inCycle (s : Settings) (r : Resource) (p : Policy) (id id' : CycleId)
    (t : Instant) :
    s.request r p (s.beginCycle id' t) = (s.request r p (s.beginCycle id t)).inCycle id' := by
  have hdecide : s.decide r p (s.beginCycle id' t) = s.decide r p (s.beginCycle id t) := by
    simp only [decide, beginCycle, Cycle.now]
  have hsnapshot : ∀ a, s.snapshotFor r (s.beginCycle id' t) a =
      s.snapshotFor r (s.beginCycle id t) a := by
    intro a
    cases a <;> simp only [snapshotFor, beginCycle]
  simp only [request, ActionRequest.inCycle, hdecide, hsnapshot]
  simp only [beginCycle]

theorem evaluate_inCycle (s : Settings) (r : Resource) (id id' : CycleId) (t : Instant) :
    s.evaluate r (s.beginCycle id' t) =
      (s.evaluate r (s.beginCycle id t)).map (·.inCycle id') := by
  cases h : r.tags.get? s.policyTag with
  | none =>
    rw [evaluate_eq_none h, evaluate_eq_none h]
    rfl
  | some tag =>
    rw [evaluate_eq_some h, evaluate_eq_some h, Option.map_some, request_inCycle s r _ id id' t]

end Settings

/-! ## One pass over a fleet -/

namespace Report

/-- The report with what one more resource gives. -/
def add (report : Report) : Option ActionRequest → Report
  | some req => { report with requests := report.requests ++ [req] }
  | none => { report with untagged := report.untagged + 1 }

/-- The report has a request for every resource with a policy tag, in the order of the fleet, and
counts the others. -/
structure Covers (s : Settings) (fleet : List Resource) (report : Report) : Prop where
  requests : List.Forall₂ (s.Asks report.cycleId report.evaluatedAt)
    (fleet.filter (s.manages ·)) report.requests
  untagged : report.untagged + report.requests.length = fleet.length

variable {s : Settings} {fleet : List Resource} {report : Report}

theorem Covers.add (h : report.Covers s fleet) (r : Resource) :
    (report.add (s.evaluate r (s.beginCycle report.cycleId report.evaluatedAt))).Covers s
      (fleet ++ [r]) := by
  obtain ⟨hrequests, hcount⟩ := h
  cases hanswer : s.evaluate r (s.beginCycle report.cycleId report.evaluatedAt) with
  | none =>
    have hpassed : s.manages r = false := by
      rw [← Bool.not_eq_true, ← Settings.exists_evaluate_iff, hanswer]
      simp
    constructor
    · simpa [Report.add, List.filter_append, hpassed] using hrequests
    · simp only [Report.add, List.length_append, List.length_singleton]
      omega
  | some req =>
    have hmanaged : s.manages r = true := Settings.exists_evaluate_iff.1 ⟨req, hanswer⟩
    constructor
    · have hlast : List.Forall₂ (s.Asks report.cycleId report.evaluatedAt) [r] [req] :=
        .cons (Settings.asks_of_evaluate hanswer) .nil
      simpa [Report.add, List.filter_append, hmanaged] using List.rel_append hrequests hlast
    · simp only [Report.add, List.length_append, List.length_singleton]
      omega

end Report

namespace Settings

variable {id : CycleId} {t : Instant}

theorem evaluateFleet_concat (s : Settings) (id : CycleId) (fleet : List Resource) (r : Resource)
    (t : Instant) :
    s.evaluateFleet id (fleet ++ [r]) t =
      (s.evaluateFleet id fleet t).add (s.evaluate r (s.beginCycle id t)) := by
  cases h : r.tags.get? s.policyTag with
  | none =>
    simp [evaluateFleet, evaluate_eq_none h, Report.add, h]
  | some tag =>
    simp [evaluateFleet, evaluate_eq_some h, Report.add, h]

theorem covers_evaluateFleet (s : Settings) (id : CycleId) (fleet : List Resource) (t : Instant) :
    (s.evaluateFleet id fleet t).Covers s fleet := by
  induction fleet using List.reverseRecOn with
  | nil =>
    exact ⟨.nil, rfl⟩
  | append_singleton fleet r ih =>
    rw [evaluateFleet_concat]
    exact ih.add r

/-! ## Fleets put together -/

theorem requests_append (s : Settings) (id : CycleId) (xs ys : List Resource) (t : Instant) :
    (s.evaluateFleet id (xs ++ ys) t).requests =
      (s.evaluateFleet id xs t).requests ++ (s.evaluateFleet id ys t).requests :=
  List.filterMap_append

theorem untagged_append (s : Settings) (id : CycleId) (xs ys : List Resource) (t : Instant) :
    (s.evaluateFleet id (xs ++ ys) t).untagged =
      (s.evaluateFleet id xs t).untagged + (s.evaluateFleet id ys t).untagged :=
  List.countP_append

theorem requests_singleton (s : Settings) (id : CycleId) (r : Resource) (t : Instant) :
    (s.evaluateFleet id [r] t).requests = (s.evaluate r (s.beginCycle id t)).toList := by
  cases h : s.evaluate r (s.beginCycle id t) <;> simp [evaluateFleet, h]

theorem requests_inCycle (s : Settings) (id id' : CycleId) (fleet : List Resource) (t : Instant) :
    (s.evaluateFleet id' fleet t).requests =
      (s.evaluateFleet id fleet t).requests.map (·.inCycle id') := by
  simp only [evaluateFleet, List.map_filterMap]
  congr
  funext r
  exact evaluate_inCycle s r id id' t

/-- A resource stands for its own request and nothing else. -/
theorem requests_between (s : Settings) (id : CycleId) (before after : List Resource)
    (r : Resource) (t : Instant) :
    (s.evaluateFleet id (before ++ r :: after) t).requests =
      (s.evaluateFleet id before t).requests ++ (s.evaluate r (s.beginCycle id t)).toList ++
        (s.evaluateFleet id after t).requests := by
  have hsplit : before ++ r :: after = before ++ [r] ++ after := by
    simp
  rw [hsplit, requests_append, requests_append, requests_singleton]

/-- The fleet is looked at in order and without loss, and no resource has a say in what is asked
about another.  The requests of two fleets put together are those of each, whatever the cycles are
called; each resource with a policy tag gives one request, which names it and is what it gives by
itself; another resource in its place, or none, changes nothing about the rest; and resources in
another order give the same requests in another order. -/
theorem evaluateFleet_independent (s : Settings) (t : Instant) :
    (∀ (id id₁ id₂ : CycleId) (xs ys : List Resource),
      (s.evaluateFleet id (xs ++ ys) t).requests =
          ((s.evaluateFleet id₁ xs t).requests ++ (s.evaluateFleet id₂ ys t).requests).map
            (·.inCycle id) ∧
        (s.evaluateFleet id (xs ++ ys) t).untagged =
          (s.evaluateFleet id₁ xs t).untagged + (s.evaluateFleet id₂ ys t).untagged) ∧
    (∀ (id : CycleId) (fleet : List Resource),
      (s.evaluateFleet id fleet t).cycleId = id ∧ (s.evaluateFleet id fleet t).evaluatedAt = t ∧
        List.Forall₂ (s.Asks id t) (fleet.filter (s.manages ·))
          (s.evaluateFleet id fleet t).requests ∧
        (s.evaluateFleet id fleet t).untagged + (s.evaluateFleet id fleet t).requests.length =
          fleet.length) ∧
    (∀ (id : CycleId) (before after : List Resource) (r : Resource),
      (s.evaluateFleet id (before ++ r :: after) t).requests =
          (s.evaluateFleet id before t).requests ++ (s.evaluate r (s.beginCycle id t)).toList ++
            (s.evaluateFleet id after t).requests ∧
        (s.evaluateFleet id (before ++ after) t).requests =
          (s.evaluateFleet id before t).requests ++ (s.evaluateFleet id after t).requests) ∧
    ∀ (id : CycleId) (xs ys : List Resource), xs.Perm ys →
      (s.evaluateFleet id xs t).requests.Perm (s.evaluateFleet id ys t).requests ∧
        (s.evaluateFleet id xs t).untagged = (s.evaluateFleet id ys t).untagged := by
  refine ⟨?_, ?_, ?_, ?_⟩
  · intro id id₁ id₂ xs ys
    constructor
    · rw [requests_append, requests_inCycle s id₁ id xs, requests_inCycle s id₂ id ys,
        List.map_append]
    · -- the id has no part in the count
      exact untagged_append s id xs ys t
  · intro id fleet
    have hcovers := covers_evaluateFleet s id fleet t
    exact ⟨rfl, rfl, hcovers.requests, hcovers.untagged⟩
  · intro id before after r
    exact ⟨requests_between s id before after r t, requests_append s id before after t⟩
  · intro id xs ys h
    exact ⟨h.filterMap _, h.countP_eq _⟩

/-- A machine with a policy that is none and one that is kept on can change places: the one gives
an error and the other is started. -/
theorem evaluateFleet_independent_typo :
    let typo := Resource.compute ⟨"i-typo", "stopped", none,
      Tags.ofList [("lifecycle-policy", "cycle-daly:08/18")]⟩
    let good := Resource.compute ⟨"i-good", "stopped", none,
      Tags.ofList [("lifecycle-policy", "always-on")]⟩
    let requests := fun fleet => (Settings.default.evaluateFleet .zero fleet .epoch).requests
    [typo, good].Perm [good, typo] ∧ (requests [typo, good]).Perm (requests [good, typo]) ∧
      (requests [typo, good]).map (fun req => (req.resourceId, req.action)) =
        [("i-typo", .error), ("i-good", .start)] := by
  intro typo good requests
  have hperm : [typo, good].Perm [good, typo] := .swap _ _ _
  exact ⟨hperm, ((evaluateFleet_independent Settings.default .epoch).2.2.2 .zero _ _ hperm).1,
    by decide +kernel⟩

end Settings
end FleetLifecycle
