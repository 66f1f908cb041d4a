import FleetLifecycle.Form.Decision
import FleetLifecycle.Form.Resource
import FleetLifecycle.Request.Basic

/-!
# Written forms of requests

1. notifications;
2. cycle ids;
3. action requests, whose snapshot and notification are left out when there are none.
-/

namespace FleetLifecycle

namespace EmailMessage

def toJson (m : EmailMessage) : Json :=
  .object [("from", .string m.sender), ("to", .string m.recipient),
    ("subject", .string m.subject), ("body", .string m.body)]

def reader : Reader EmailMessage :=
  Shape.read "struct EmailMessage"
    (((((Shape.done EmailMessage.mk).andThen
      (.required "from" Reader.text)).andThen
      (.required "to" Reader.text)).andThen
      (.required "subject" Reader.text)).andThen
      (.required "body" Reader.text))

end EmailMessage

namespace CycleId

/-- The written form of a cycle id. -/
def toJson (id : CycleId) : Json := .string id.text

def reader : Reader CycleId :=
  Reader.parsed "a formatted UUID string"
    (fun s => (CycleId.read s).mapError (fun e => "UUID parsing failed: " ++ e.message))

end CycleId

namespace Json

/-- An entry that is left out when there is no value. -/
def entryOf {α : Type} (key : String) (write : α → Json) (value : Option α) :
    List (String × Json) :=
  (value.map (fun a => (key, write a))).toList

end Json

namespace ActionRequest

def toJson (r : ActionRequest) : Json :=
  .object
    ([("cycle_id", r.cycleId.toJson), ("resource_id", .string r.resourceId),
        ("resource_name", .string r.resourceName), ("class", r.resourceClass.toJson),
        ("policy", .string r.policy), ("action", r.action.toJson), ("reason", r.reason.toJson)] ++
      Json.entryOf "snapshot_id" .string r.snapshotId ++
      Json.entryOf "email" EmailMessage.toJson r.email ++
      [("evaluated_at", r.evaluatedAt.toJson)])

def reader : Reader ActionRequest :=
  Shape.read "struct ActionRequest"
    (((((((((((Shape.done ActionRequest.mk).andThen
      (.required "cycle_id" CycleId.reader)).andThen
      (.required "resource_id" Reader.text)).andThen
      (.required "resource_name" Reader.text)).andThen
      (.required "class" ResourceClass.reader)).andThen
      (.required "policy" Reader.text)).andThen
      (.required "action" Action.reader)).andThen
      (.required "reason" Reason.reader)).andThen
      (.defaulted "snapshot_id" (Reader.optional Reader.text) none)).andThen
      (.defaulted "email" (Reader.optional EmailMessage.reader) none)).andThen
      (.required "evaluated_at" Instant.reader))

end ActionRequest
end FleetLifecycle
