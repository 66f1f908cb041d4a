import FleetLifecycle.Proofs.Outcomes

/-!
# Error decisions — what is wrong with a policy does not depend on the hour

A policy that cannot be applied is an error in every state and at every hour: its kind is unknown,
the resource does not accept it, or one of the parameters it needs is missing or malformed.
Concretely, we:

1. list the parameters that a kind of policy needs, in order (`PolicyKind.needs`), and the first
   of them that is at fault (`Policy.firstFault?`);
2. show that a parameter stands in the way of a decision exactly if it is the first at fault
   (`Policy.ofPolicy_eq_error_iff`);
3. say which reasons an error can have (`Policy.ErrorReason`), without looking at state or hour, and
   conclude with `Policy.decide_error_iff`.
-/

namespace FleetLifecycle

/-! ## Parameters that are needed -/

/-- A parameter that a kind of policy needs, by what it is read as, its index and its name. -/
inductive Need where
  | number (index : Nat) (name : String)
  | text (index : Nat) (name : String)
  | hour (index : Nat) (name : String)
  | weekday (index : Nat) (name : String)
  deriving DecidableEq, Repr

/-- What is wrong with a parameter that was read, if anything. -/
@[simp]
def ParameterError.ofReading? {α : Type} : Except ParameterError α → Option ParameterError
  | .ok _ => none
  | .error e => some e

/-- What keeps a policy from meeting a need: the parameter is missing or malformed. -/
@[simp]
def Need.fault? (p : Policy) : Need → Option ParameterError
  | .number index name => ParameterError.ofReading? (p.number index name)
  | .text index name => ParameterError.ofReading? (p.text index name)
  | .hour index name => ParameterError.ofReading? (p.hour index name)
  | .weekday index name => ParameterError.ofReading? (p.weekday index name)

/-- The parameters that a kind of policy needs, in the order in which they are looked at. -/
def PolicyKind.needs : PolicyKind → List Need
  | .limitStop | .limitTerminate => [.number 0 "hour limit"]
  | .limitEmail => [.number 0 "hour limit", .text 1 "notify address"]
  | .scheduled .daily | .scheduled .workdays => [.hour 0 "on hour", .hour 1 "off hour"]
  | .scheduled .weekly => [.hour 0 "on hour", .hour 1 "off hour", .weekday 2 "target day"]
  | .none | .alwaysOn | .alwaysOff | .unknown _ => []

namespace Policy

/-- The first parameter that is needed and at fault. -/
def firstFault? (p : Policy) : Option ParameterError :=
  p.kind.needs.findSome? (·.fault? p)

/-- Why a policy is an error for resources of a class with certain capabilities. -/
inductive ErrorReason (p : Policy) (capabilities : Capabilities) (resourceClass : ResourceClass) :
    Reason → Prop where
  | unknownKind {token : String} (kind : p.kind = .unknown token) :
      ErrorReason p capabilities resourceClass (.unknownKind token)
  | unsupported (kind : p.kind.IsLimit) (refused : p.kind.isAcceptedBy capabilities = false) :
      ErrorReason p capabilities resourceClass (.unsupportedForClass p.kind.token resourceClass)
  | invalid {e : ParameterError} (accepted : p.kind.isAcceptedBy capabilities = true)
      (fault : p.firstFault? = some e) :
      ErrorReason p capabilities resourceClass (.invalidPolicy e.message)

variable {p : Policy} {o : Observation} {now : LocalHour} {e : ParameterError}

/-! ## The first fault -/

theorem ofLimit_eq_error_iff {action : Action}
    (needs : p.kind.needs = [.number 0 "hour limit"]) :
    Decision.ofLimit action p o = .error e ↔
      o.capabilities.runtimeLimits = true ∧ p.firstFault? = some e := by
  unfold Decision.ofLimit
  cases hcap : o.capabilities.runtimeLimits <;> cases hlimit : p.number 0 "hour limit" <;>
    simp [firstFault?, needs, hlimit, bind, Except.bind, pure, Except.pure]

theorem ofNotification_eq_error_iff (kind : p.kind = .limitEmail) :
    Decision.ofNotification p o = .error e ↔
      o.capabilities.notification = true ∧ p.firstFault? = some e := by
  unfold Decision.ofNotification
  -- the address is only looked at once the limit has been read
  cases hcap : o.capabilities.notification <;> cases hlimit : p.number 0 "hour limit" <;>
    cases htext : p.text 1 "notify address" <;>
    simp [firstFault?, kind, PolicyKind.needs, hlimit, htext, bind, Except.bind, pure, Except.pure]

theorem ofSchedule_eq_error_iff {s : Schedule} (kind : p.kind = .scheduled s) :
    Decision.ofSchedule s p o now = .error e ↔ p.firstFault? = some e := by
  unfold Decision.ofSchedule
  cases hon : p.hour 0 "on hour" with
  | error =>
    cases s <;> simp [firstFault?, kind, PolicyKind.needs, hon, bind, Except.bind]
  | ok =>
    cases hoff : p.hour 1 "off hour" with
    | error =>
      cases s <;> simp [firstFault?, kind, PolicyKind.needs, hon, hoff, bind, Except.bind]
    | ok =>
      -- only a weekly schedule needs a third parameter
      cases s <;> cases hday : p.weekday 2 "target day" <;>
        simp [firstFault?, kind, PolicyKind.needs, Decision.targetOf, hon, hoff, hday, bind,
          Except.bind, pure, Except.pure, Except.map]

/-- A parameter stands in the way exactly if the policy is accepted and it is the first at fault. -/
theorem ofPolicy_eq_error_iff :
    Decision.ofPolicy p o now = .error e ↔
      p.kind.isAcceptedBy o.capabilities = true ∧ p.firstFault? = some e := by
  unfold Decision.ofPolicy
  cases kind : p.kind with
  | limitStop | limitTerminate =>
    exact ofLimit_eq_error_iff (by rw [kind]; rfl)
  | limitEmail =>
    exact ofNotification_eq_error_iff kind
  | scheduled s =>
    simpa [PolicyKind.isAcceptedBy] using ofSchedule_eq_error_iff kind
  | none | alwaysOn | alwaysOff | unknown =>
    -- these kinds need no parameters
    simp [firstFault?, kind, PolicyKind.needs]

/-! ## Errors -/

theorem decide_eq_error_of_errorReason {reason : Reason}
    (h : p.ErrorReason o.capabilities o.resourceClass reason) :
    p.decide o now = .error reason := by
  cases h with
  | unknownKind kind =>
    simp [decide, Decision.ofPolicy, kind]
  | unsupported kind refused =>
    exact decide_of_refused kind refused
  | invalid accepted fault =>
    simp [decide, ofPolicy_eq_error_iff.2 ⟨accepted, fault⟩]

theorem errorReason_of_action_decide (h : (p.decide o now).action = .error) :
    p.ErrorReason o.capabilities o.resourceClass (p.decide o now).reason := by
  have houtcome := p.outcome_decide o now
  generalize p.decide o now = d at h houtcome
  cases houtcome with
  | unknownKind kind =>
    exact .unknownKind kind
  | unsupported kind refused =>
    exact .unsupported kind refused
  | invalid accepted fault =>
    exact .invalid accepted (ofPolicy_eq_error_iff.1 fault).2
  | exceeded accepted takes =>
    -- what a limit asks for is no error
    cases takes <;> simp at h
  | _ =>
    simp [Decision.none] at h

/-- An error is the same in every state and at every hour: no reason for one mentions them. -/
theorem decide_eq_of_action_eq_error {o' : Observation} {now' : LocalHour}
    (hclass : o.resourceClass = o'.resourceClass) (hcap : o.capabilities = o'.capabilities)
    (h : (p.decide o now).action = .error) : p.decide o' now' = p.decide o now := by
  have hreason := errorReason_of_action_decide h
  have hthis : p.decide o now = .error (p.decide o now).reason :=
    decide_eq_error_of_errorReason hreason
  rw [hclass, hcap] at hreason
  exact (decide_eq_error_of_errorReason hreason).trans hthis.symm

/-- The decision is an error for a reason exactly if the policy has that reason to be one. -/
theorem action_and_reason_decide_iff {reason : Reason} :
    ((p.decide o now).action = .error ∧ (p.decide o now).reason = reason) ↔
      p.ErrorReason o.capabilities o.resourceClass reason := by
  constructor
  · rintro ⟨haction, rfl⟩
    exact errorReason_of_action_decide haction
  · intro h
    rw [decide_eq_error_of_errorReason h]
    exact ⟨rfl, rfl⟩

/-- Whether deciding ends in an error, and why, depends on the policy, the class and its
capabilities alone.  It does if the kind is unknown, if the resource does not accept it, or else if
one of the parameters that it needs is missing or malformed, and then for the first of them. -/
theorem decide_error_iff (p : Policy) :
    (∀ (o o' : Observation) (now now' : LocalHour), o.resourceClass = o'.resourceClass →
      o.capabilities = o'.capabilities →
        ((p.decide o now).action = .error ↔ (p.decide o' now').action = .error) ∧
        ((p.decide o now).action = .error →
          (p.decide o now).reason = (p.decide o' now').reason)) ∧
    ∀ (o : Observation) (now : LocalHour) (reason : Reason),
      ((p.decide o now).action = .error ∧ (p.decide o now).reason = reason) ↔
        p.ErrorReason o.capabilities o.resourceClass reason := by
  refine ⟨?_, fun o now reason => action_and_reason_decide_iff⟩
  intro o o' now now' hclass hcap
  refine ⟨⟨?_, ?_⟩, ?_⟩
  · intro haction
    rw [decide_eq_of_action_eq_error hclass hcap haction, haction]
  · intro haction
    rw [decide_eq_of_action_eq_error hclass.symm hcap.symm haction, haction]
  · intro haction
    rw [decide_eq_of_action_eq_error hclass hcap haction]

/-- Of two malformed hours the first is reported, by night and by day, whatever the state. -/
theorem decide_error_iff_hours :
    let p := parse "cycle-weekly:noon/24"
    let o : Observation := ⟨.running, some .zero, .database, .ofClass .database⟩
    let o' : Observation := ⟨.transitional "starting", none, .database, .ofClass .database⟩
    o.resourceClass = o'.resourceClass ∧ o.capabilities = o'.capabilities ∧
      p.decide o ⟨3, .monday⟩ = .error (.invalidPolicy "on hour 'noon' is not a whole number") ∧
      (p.decide o ⟨3, .monday⟩).reason = (p.decide o' ⟨12, .sunday⟩).reason := by
  intro p o o'
  have hfault : p.firstFault? = some (.notNumber "on hour" "noon") := by
    decide +kernel
  have hreason : p.ErrorReason o.capabilities o.resourceClass
      (.invalidPolicy "on hour 'noon' is not a whole number") :=
    .invalid (e := .notNumber "on hour" "noon") (by decide) hfault
  rcases ((decide_error_iff p).2 o ⟨3, .monday⟩ _).2 hreason with ⟨haction, hmessage⟩
  refine ⟨rfl, rfl, ?_, ((decide_error_iff p).1 o o' _ _ rfl rfl).2 haction⟩
  rw [Decision.error, ← haction, ← hmessage]

end Policy
end FleetLifecycle
