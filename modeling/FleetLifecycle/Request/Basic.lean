import FleetLifecycle.Calendar.Instant
import FleetLifecycle.Decision.Basic
import FleetLifecycle.Request.CycleId

/-!
# Requests — what a cycle asks for

1. `EmailMessage`, a notification ready to be sent;
2. `ActionRequest`, what is to be done with one resource in one cycle.
-/

namespace FleetLifecycle

structure EmailMessage where
  sender : String
  recipient : String
  subject : String
  body : String
  deriving DecidableEq, Repr

/-- What is to be done with one resource in one cycle. -/
structure ActionRequest where
  cycleId : CycleId
  resourceId : String
  resourceName : String
  resourceClass : ResourceClass
  /-- The value of the policy tag, without the blanks around it. -/
  policy : String
  action : Action
  reason : Reason
  /-- The name of the snapshot to be taken while the resource stops. -/
  snapshotId : Option String
  email : Option EmailMessage
  evaluatedAt : Instant
  deriving DecidableEq

end FleetLifecycle
