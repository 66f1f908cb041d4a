import FleetLifecycle.Decision.Basic
import FleetLifecycle.Json.Reader
import FleetLifecycle.Schedule.Window

/-!
# Written forms of decisions

Each type has `toJson`, the value it is written as, and `reader`, which reads that value and the
lenient variants of it.

1. classes, run states, capabilities and local hours;
2. actions and reasons, objects in which an entry names the variant;
3. decisions.
-/

namespace FleetLifecycle

namespace ResourceClass

def toJson (c : ResourceClass) : Json := .string c.token

def reader : Reader ResourceClass :=
  readChoice [.unit "instance" .compute, .unit "database" .database]

end ResourceClass

namespace RunState

/-- The written form of a run state. -/
def toJson : RunState → Json
  | .running => .string "running"
  | .stopped => .string "stopped"
  | .transitional state => .object [("transitional", .string state)]

def reader : Reader RunState :=
  readChoice [.unit "running" .running, .unit "stopped" .stopped,
    .one "transitional" Reader.text .transitional]

end RunState

namespace Capabilities

def toJson (c : Capabilities) : Json :=
  .object [("supports_runtime_limits", .bool c.runtimeLimits),
    ("supports_notification", .bool c.notification),
    ("snapshot_on_stop", .bool c.snapshotOnStop)]

def reader : Reader Capabilities :=
  Shape.read "struct ResourceCapabilities"
    ((((Shape.done Capabilities.mk).andThen
      (.required "supports_runtime_limits" Reader.flag)).andThen
      (.required "supports_notification" Reader.flag)).andThen
      (.required "snapshot_on_stop" Reader.flag))

end Capabilities

namespace Weekday

def toJson (d : Weekday) : Json := .string d.shortName

/-- Reads a day by its short or full name. -/
def reader : Reader Weekday :=
  Reader.parsed "Weekday" fun s =>
    match ofName? s with
    | some d => .ok d
    | none => .error "short or long weekday names expected"

end Weekday

namespace LocalHour

/-- The written form of a local hour. -/
def toJson (now : LocalHour) : Json :=
  .object [("hour", .integer now.hour.toNat), ("day", now.day.toJson)]

/-- Reads a local hour; any number of 8 bits is taken for the hour. -/
def reader : Reader LocalHour :=
  Shape.read "struct TimeContext"
    (((Shape.done LocalHour.mk).andThen
      (.required "hour" Reader.word8)).andThen
      (.required "day" Weekday.reader))

end LocalHour

namespace Action

def toJson : Action → Json
  | .email recipient =>
    .object [("action", .string "email"), ("to", .string recipient)]
  | a => .object [("action", .string a.name)]

def reader : Reader Action :=
  readTagged "Action" "action"
    [.unit "none" .none, .unit "start" .start, .unit "stop" .stop, .unit "terminate" .terminate,
      .record "email" "struct variant Action::Email"
        ((Shape.done Action.email).andThen (.required "to" Reader.text)),
      .unit "error" .error]

end Action

namespace Reason

/-- The fields of a reason, besides its code. -/
def fields : Reason → List (String × Json)
  | .noPolicy | .alreadyRunning | .pinnedOn | .pinnedOff => []
  | .alreadyStopped state | .notStartable state => [("state", .string state)]
  | .windowOpen hour | .windowClosed hour | .emptyWindow hour => [("hour", .integer hour.toNat)]
  | .limitExceeded runningSecs limitHours =>
    [("running_secs", .integer runningSecs.toNat), ("limit_hours", .integer limitHours.toNat)]
  | .withinLimit limitHours => [("limit_hours", .integer limitHours.toNat)]
  | .invalidPolicy message => [("message", .string message)]
  | .unsupportedForClass kind resourceClass =>
    [("kind", .string kind), ("class", resourceClass.toJson)]
  | .unknownKind kind => [("kind", .string kind)]
  | .gated proposed markerTag =>
    [("proposed", proposed.toJson), ("marker_tag", .string markerTag)]

def toJson (r : Reason) : Json :=
  .object (("code", .string r.code) :: r.fields)

def ofState (make : String → Reason) : Shape Reason :=
  (Shape.done make).andThen (.required "state" Reader.text)

def ofHour (make : UInt8 → Reason) : Shape Reason :=
  (Shape.done make).andThen (.required "hour" Reader.word8)

def reader : Reader Reason :=
  readTagged "DecisionReason" "code"
    [.unit "no_policy" .noPolicy,
      .unit "already_running" .alreadyRunning,
      .record "already_stopped" "struct variant DecisionReason::AlreadyStopped"
        (ofState .alreadyStopped),
      .record "not_startable" "struct variant DecisionReason::NotStartable"
        (ofState .notStartable),
      .record "window_open" "struct variant DecisionReason::WindowOpen" (ofHour .windowOpen),
      .record "window_closed" "struct variant DecisionReason::WindowClosed"
        (ofHour .windowClosed),
      .record "empty_window" "struct variant DecisionReason::EmptyWindow" (ofHour .emptyWindow),
      .record "limit_exceeded" "struct variant DecisionReason::LimitExceeded"
        (((Shape.done Reason.limitExceeded).andThen
          (.required "running_secs" Reader.word64)).andThen
          (.required "limit_hours" Reader.word32)),
      .record "within_limit" "struct variant DecisionReason::WithinLimit"
        ((Shape.done Reason.withinLimit).andThen (.required "limit_hours" Reader.word32)),
      .unit "pinned_on" .pinnedOn,
      .unit "pinned_off" .pinnedOff,
      .record "invalid_policy" "struct variant DecisionReason::InvalidPolicy"
        ((Shape.done Reason.invalidPolicy).andThen (.required "message" Reader.text)),
      .record "unsupported_for_class" "struct variant DecisionReason::UnsupportedForClass"
        (((Shape.done Reason.unsupportedForClass).andThen
          (.required "kind" Reader.text)).andThen
          (.required "class" ResourceClass.reader)),
      .record "unknown_kind" "struct variant DecisionReason::UnknownKind"
        ((Shape.done Reason.unknownKind).andThen (.required "kind" Reader.text)),
      .record "gated" "struct variant DecisionReason::Gated"
        (((Shape.done Reason.gated).andThen
          (.required "proposed" Action.reader)).andThen
          (.required "marker_tag" Reader.text))]

end Reason

namespace Decision

def toJson (d : Decision) : Json :=
  .object [("action", d.action.toJson), ("reason", d.reason.toJson)]

def reader : Reader Decision :=
  Shape.read "struct Decision"
    (((Shape.done Decision.mk).andThen
      (.required "action" Action.reader)).andThen
      (.required "reason" Reason.reader))

end Decision
end FleetLifecycle
