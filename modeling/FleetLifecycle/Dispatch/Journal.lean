import FleetLifecycle.Dispatch.Basic
import FleetLifecycle.Form.Request
import FleetLifecycle.Json.Printer

/-!
# Journals — requests carried out by writing them down, one to a line

A journal is an output that takes bytes until it is full.  Each request that is carried out adds a
JSON object and a line break; a line that does not fit is cut, and its request fails.

1. `Journal` and `Journal.write`;
2. `ActionRequest.record` and `ActionRequest.line`, what is written of a request;
3. `Journal.executor`.
-/

namespace FleetLifecycle

/-- What was written, and how many more bytes the output takes, if there is a bound. -/
structure Journal where
  bytes : List UInt8
  room : Option Nat
  deriving DecidableEq, Repr

namespace Journal

def empty (room : Option Nat) : Journal := ⟨[], room⟩

def closed : String := "closed"

/-- Writes bytes; those beyond the bound are lost. -/
def write (text : List UInt8) : Call Journal := fun j =>
  match j.room with
  | none => (.ok (), { j with bytes := j.bytes ++ text })
  | some room =>
    -- of a line that does not fit, the part that does is written
    if text.length ≤ room then (.ok (), ⟨j.bytes ++ text, some (room - text.length)⟩)
    else (.error (.io closed), ⟨j.bytes ++ text.take room, some 0⟩)

end Journal

namespace ActionRequest

/-- What is written of a request: `op` is the word for what is done, and a notification is given
when one is sent. -/
def record (r : ActionRequest) (op : String) (dryRun : Bool) (email : Option EmailMessage) : Json :=
  .object
    ([("op", .string op), ("dry_run", .bool dryRun), ("cycle_id", r.cycleId.toJson),
        ("resource_id", .string r.resourceId), ("resource_name", .string r.resourceName),
        ("class", r.resourceClass.toJson), ("policy", .string r.policy),
        ("reason", r.reason.toJson)] ++
      Json.entryOf "snapshot_id" .string r.snapshotId ++
      Json.entryOf "email" EmailMessage.toJson email ++
      [("evaluated_at", r.evaluatedAt.toJson)])

def line (r : ActionRequest) (op : String) (dryRun : Bool) (email : Option EmailMessage) :
    List UInt8 :=
  ((r.record op dryRun email).compact ++ "\n").toUTF8.toList

end ActionRequest

namespace Journal

/-- The same call, its error told as that of an action. -/
def failing (fail : String → HostError) (call : Call Journal) : Call Journal := fun j =>
  match call j with
  | (.ok (), j) => (.ok (), j)
  | (.error e, j) => (.error (fail e.message), j)

/-- Carries out requests by writing them down. -/
def executor (dryRun : Bool) : Executor Journal where
  start r := failing .startFailed (write (r.line "start" dryRun none))
  stop r := failing .stopFailed (write (r.line "stop" dryRun none))
  terminate r := failing .terminateFailed (write (r.line "terminate" dryRun none))
  notify r m := failing .notifyFailed (write (r.line "email" dryRun (some m)))

end Journal
end FleetLifecycle
