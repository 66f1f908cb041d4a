import FleetLifecycle.Proofs.Dispatching
import FleetLifecycle.Proofs.Gate
import Mathlib.Data.List.Forall2

/-!
# Execution settings — how requests are carried out, never which

A dry run, snapshots and the sender of notifications concern the carrying out of requests.  What is
asked for does not depend on them.  Concretely, we:

1. say when settings lead to the same decisions (`Settings.DecidesLike`) and what two requests then
   have in common (`ActionRequest.AgreesWith`);
2. compare the requests for one resource, and from them those for a fleet
   (`Settings.DecidesLike.evaluate_cases`, `Settings.DecidesLike.requests_agree`);
3. show that the records of a request in a dry run and in a real one differ in one entry
   (`ActionRequest.differInMode_record`), and conclude with `Settings.evaluateFleet_decidesLike`.
-/

namespace FleetLifecycle

/-- The settings differ in nothing but how requests are carried out: in the wish for a dry run, in
that for snapshots, and in the sender of notifications. -/
structure Settings.DecidesLike (s s' : Settings) : Prop where
  zone : s.zone = s'.zone
  policyTag : s.policyTag = s'.policyTag
  gate : s.gate = s'.gate

/-- The requests ask for the same.  Only the sender of a notification may differ, and whether there
is a snapshot; if both have one, it has one name. -/
structure ActionRequest.AgreesWith (req req' : ActionRequest) : Prop where
  resourceId : req.resourceId = req'.resourceId
  resourceName : req.resourceName = req'.resourceName
  resourceClass : req.resourceClass = req'.resourceClass
  policy : req.policy = req'.policy
  action : req.action = req'.action
  reason : req.reason = req'.reason
  evaluatedAt : req.evaluatedAt = req'.evaluatedAt
  snapshotId : ∀ name name',
    req.snapshotId = some name → req'.snapshotId = some name' → name = name'
  email : req.email.map (fun m => (m.recipient, m.subject, m.body)) =
    req'.email.map (fun m => (m.recipient, m.subject, m.body))

namespace Settings

variable {s s' : Settings} {r : Resource} {p : Policy} {id id' : CycleId} {t : Instant}

/-! ## Requests -/

namespace DecidesLike

theorem decide_eq (h : s.DecidesLike s') (r : Resource) (p : Policy) (id id' : CycleId)
    (t : Instant) : s.decide r p (s.beginCycle id t) = s'.decide r p (s'.beginCycle id' t) := by
  simp only [decide, beginCycle, Cycle.now, h.zone, h.gate]

/-- The name of a snapshot is made of the resource and the local time. -/
theorem snapshotFor_congr (h : s.DecidesLike s') {a : Action} {name name' : String}
    (hname : s.snapshotFor r (s.beginCycle id t) a = some name)
    (hname' : s'.snapshotFor r (s'.beginCycle id' t) a = some name') : name = name' := by
  cases a with
  | stop =>
    simp only [snapshotFor, Option.ite_none_right_eq_some] at hname hname'
    have hshown : (s.beginCycle id t).shown = (s'.beginCycle id' t).shown := by
      simp only [beginCycle, h.zone]
    exact Option.some.inj (hname.2.symm.trans (hshown ▸ hname'.2))
  | none | start | terminate | email | error =>
    cases hname

theorem snapshotFor_eq (h : s.DecidesLike s') (snapshots : s.snapshotOnStop = s'.snapshotOnStop)
    (a : Action) :
    s.snapshotFor r (s.beginCycle id t) a = s'.snapshotFor r (s'.beginCycle id' t) a := by
  cases a with
  | stop =>
    simp only [snapshotFor, beginCycle, h.zone, snapshots]
  | none | start | terminate | email | error =>
    rfl

theorem agreesWith_request (h : s.DecidesLike s') (r : Resource) (p : Policy) (id id' : CycleId)
    (t : Instant) :
    (s.request r p (s.beginCycle id t)).AgreesWith (s'.request r p (s'.beginCycle id' t)) := by
  have hdecide := h.decide_eq r p id id' t
  have haction : (s.request r p (s.beginCycle id t)).action =
      (s'.request r p (s'.beginCycle id' t)).action := by
    simp only [request, hdecide]
  constructor
  case snapshotId =>
    intro name name' hname hname'
    rw [request_snapshotId] at hname hname'
    exact h.snapshotFor_congr hname (haction ▸ hname')
  case email =>
    rw [request_email, request_email, haction]
    -- the sender is the only part of a notification that the settings name
    cases (s'.request r p (s'.beginCycle id' t)).action <;> rfl
  case action =>
    exact haction
  case reason =>
    simp only [request, hdecide]
  all_goals rfl

/-- A resource is passed over under both settings, or gives requests that agree. -/
theorem evaluate_cases (h : s.DecidesLike s') (r : Resource) (id id' : CycleId) (t : Instant) :
    (s.evaluate r (s.beginCycle id t) = none ∧ s'.evaluate r (s'.beginCycle id' t) = none) ∨
      ∃ p, s.evaluate r (s.beginCycle id t) = some (s.request r p (s.beginCycle id t)) ∧
        s'.evaluate r (s'.beginCycle id' t) = some (s'.request r p (s'.beginCycle id' t)) := by
  cases htag : r.tags.get? s.policyTag with
  | none =>
    exact .inl ⟨evaluate_eq_none htag, evaluate_eq_none (h.policyTag ▸ htag)⟩
  | some tag =>
    exact .inr ⟨_, evaluate_eq_some htag, evaluate_eq_some (h.policyTag ▸ htag)⟩

/-! ## Fleets -/

/-- Requests for a fleet are compared one by one. -/
theorem forall₂_requests (h : s.DecidesLike s') {Same : ActionRequest → ActionRequest → Prop}
    {id id' : CycleId} {t : Instant}
    (same : ∀ r p, Same (s.request r p (s.beginCycle id t)) (s'.request r p (s'.beginCycle id' t)))
    (fleet : List Resource) :
    List.Forall₂ Same (s.evaluateFleet id fleet t).requests
      (s'.evaluateFleet id' fleet t).requests := by
  induction fleet with
  | nil =>
    exact .nil
  | cons r fleet ih =>
    simp only [evaluateFleet] at ih ⊢
    rcases h.evaluate_cases r id id' t with ⟨hnone, hnone'⟩ | ⟨p, hreq, hreq'⟩
    · simp only [List.filterMap_cons, hnone, hnone']
      exact ih
    · simp only [List.filterMap_cons, hreq, hreq']
      exact .cons (same r p) ih

theorem untagged_eq (h : s.DecidesLike s') (id id' : CycleId) (fleet : List Resource)
    (t : Instant) :
    (s.evaluateFleet id fleet t).untagged = (s'.evaluateFleet id' fleet t).untagged := by
  simp only [evaluateFleet, h.policyTag]

end DecidesLike
end Settings

/-! ## Records -/

/-- The objects are the same but for the entry that says whether the run is a dry one. -/
def Json.DifferInMode (dry real : Json) : Prop :=
  ∃ before after, dry = .object (before ++ ("dry_run", .bool true) :: after) ∧
    real = .object (before ++ ("dry_run", .bool false) :: after) ∧
    ∀ e ∈ before ++ after, e.1 ≠ "dry_run"

/-- A record of a request in a dry run and one in a real run. -/
theorem ActionRequest.differInMode_record (r : ActionRequest) (op : String)
    (email : Option EmailMessage) :
    (r.record op true email).DifferInMode (r.record op false email) := by
  refine ⟨[("op", .string op)], _, rfl, rfl, ?_⟩
  cases r.snapshotId <;> cases email <;> simp [Json.entryOf]

/-- JSON values on lines of their own. -/
def Journal.lines (records : List Json) : List UInt8 :=
  records.flatMap (fun v => v.compact.toUTF8.toList ++ [0x0A])

theorem Journal.stream_eq_lines (dryRun : Bool) (requests : List ActionRequest) :
    stream dryRun requests =
      lines ((requests.filter (·.isEffective)).map
        (fun r => r.record r.action.name dryRun r.notification)) := by
  simp only [stream, lines, List.flatMap_map, ActionRequest.lineBytes, ActionRequest.line_eq]

namespace Settings

variable {s s' : Settings}

/-- Settings that differ in how requests are carried out ask for the same of every fleet: the same
actions for the same reasons, the same notifications but for their sender, and snapshots of the same
names.  Carried out in a dry run or in a real one, requests have the same outcomes, and leave
records that differ in the entry that tells the two apart. -/
theorem evaluateFleet_decidesLike (alike : s.DecidesLike s') :
    (∀ (id id' : CycleId) (fleet : List Resource) (t : Instant),
      (s.evaluateFleet id fleet t).untagged = (s'.evaluateFleet id' fleet t).untagged ∧
        List.Forall₂ ActionRequest.AgreesWith (s.evaluateFleet id fleet t).requests
          (s'.evaluateFleet id' fleet t).requests ∧
        (s.snapshotOnStop = s'.snapshotOnStop →
          (s.evaluateFleet id fleet t).requests.map (·.snapshotId) =
            (s'.evaluateFleet id' fleet t).requests.map (·.snapshotId))) ∧
    ∀ requests : List ActionRequest,
      let run := fun dryRun => (Journal.executor dryRun).dispatchList requests (.empty none)
      (run true).1 = (run false).1 ∧
        ∃ dry real, (run true).2.bytes = Journal.lines dry ∧
          (run false).2.bytes = Journal.lines real ∧ List.Forall₂ Json.DifferInMode dry real := by
  constructor
  · intro id id' fleet t
    refine ⟨alike.untagged_eq id id' fleet t, ?_, ?_⟩
    · exact alike.forall₂_requests (fun r p => alike.agreesWith_request r p id id' t) fleet
    · intro snapshots
      rw [← List.forall₂_eq_eq_eq, List.forall₂_map_left_iff, List.forall₂_map_right_iff]
      refine alike.forall₂_requests ?_ fleet
      intro r p
      have haction := (alike.agreesWith_request r p id id' t).action
      rw [request_snapshotId, request_snapshotId, haction]
      exact alike.snapshotFor_eq snapshots _
  · intro requests run
    have hrun : ∀ dryRun, run dryRun = _ := fun dryRun =>
      Journal.dispatchList_unlimited dryRun requests []
    let records := fun dryRun => (requests.filter (·.isEffective)).map
      (fun r => r.record r.action.name dryRun r.notification)
    refine ⟨by simp only [hrun], records true, records false, ?_, ?_, ?_⟩
    · rw [hrun, List.nil_append, Journal.stream_eq_lines]
    · rw [hrun, List.nil_append, Journal.stream_eq_lines]
    · rw [List.forall₂_map_left_iff, List.forall₂_map_right_iff, List.forall₂_same]
      intro r _
      exact r.differInMode_record _ _

/-- A dry run without snapshots and with a sender of its own: the database is stopped and the notice
is sent in both runs, and the snapshot is missing from one. -/
theorem evaluateFleet_decidesLike_rehearsal :
    let rehearsal : Settings :=
      { default with dryRun := true, snapshotOnStop := false, sender := "rehearsal@example.com" }
    let fleet := [Resource.database ⟨"db-reports", none, "available", none,
        Tags.ofList [("lifecycle-policy", "always-off")]⟩,
      Resource.compute ⟨"i-build", "running", some .epoch,
        Tags.ofList [("lifecycle-policy", "limit-email:1/ops@example.com")]⟩]
    let noon : Instant := ⟨43200, 0, by decide⟩
    default.DecidesLike rehearsal ∧
      List.Forall₂ ActionRequest.AgreesWith (default.evaluateFleet .zero fleet noon).requests
        (rehearsal.evaluateFleet .zero fleet noon).requests ∧
      (default.evaluateFleet .zero fleet noon).requests.map
          (fun req => (req.action, req.snapshotId, req.email.map (·.sender))) =
        [(.stop, some "db-reports-lifecycle-1970-01-01-12-00", none),
          (.email "ops@example.com", none, some "automanage@localhost")] ∧
      (rehearsal.evaluateFleet .zero fleet noon).requests.map
          (fun req => (req.action, req.snapshotId, req.email.map (·.sender))) =
        [(.stop, none, none),
          (.email "ops@example.com", none, some "rehearsal@example.com")] := by
  intro rehearsal fleet noon
  have alike : default.DecidesLike rehearsal := ⟨rfl, rfl, rfl⟩
  have hagree := ((evaluateFleet_decidesLike alike).1 .zero .zero fleet noon).2.1
  exact ⟨alike, hagree, by decide +kernel, by decide +kernel⟩

end Settings
end FleetLifecycle
