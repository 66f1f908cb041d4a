import FleetLifecycle.Form.Resource
import FleetLifecycle.Settings.Given

/-!
# Written form of given settings

A section that is left out counts as one that gives nothing.
-/

namespace FleetLifecycle

namespace GivenEvaluation

/-- The written form of the settings of evaluation. -/
def toJson (e : GivenEvaluation) : Json :=
  .object [("timezone", Json.ofOption .string e.timezone),
    ("dry_run", Json.ofOption .bool e.dryRun),
    ("snapshot_on_stop", Json.ofOption .bool e.snapshotOnStop),
    ("email_from", Json.ofOption .string e.sender),
    ("policy_tag", Json.ofOption .string e.policyTag)]

def reader : Reader GivenEvaluation :=
  Shape.read "struct RawAutomanageConfig"
    ((((((Shape.done GivenEvaluation.mk).andThen
      (.optional "timezone" Reader.text)).andThen
      (.optional "dry_run" Reader.flag)).andThen
      (.optional "snapshot_on_stop" Reader.flag)).andThen
      (.optional "email_from" Reader.text)).andThen
      (.optional "policy_tag" Reader.text))

end GivenEvaluation

namespace GivenGate

/-- The written form of the settings of the gate. -/
def toJson (g : GivenGate) : Json :=
  .object [("marker_tag", Json.ofOption .string g.marker),
    ("identifier_tag", Json.ofOption .string g.identifier)]

def reader : Reader GivenGate :=
  Shape.read "struct RawGateConfig"
    (((Shape.done GivenGate.mk).andThen
      (.optional "marker_tag" Reader.text)).andThen
      (.optional "identifier_tag" Reader.text))

end GivenGate

namespace GivenSettings

def toJson (g : GivenSettings) : Json :=
  .object [("config_version", .integer g.version.toNat),
    ("automanage", g.evaluation.toJson), ("gate", g.gate.toJson)]

def reader : Reader GivenSettings :=
  Shape.read "struct RawConfig"
    ((((Shape.done GivenSettings.mk).andThen
      (.required "config_version" Reader.word32)).andThen
      (.defaulted "automanage" GivenEvaluation.reader GivenEvaluation.empty)).andThen
      (.defaulted "gate" GivenGate.reader GivenGate.empty))

end GivenSettings
end FleetLifecycle
