import FleetLifecycle.Decision.Basic
import FleetLifecycle.Fleet.Tags
import FleetLifecycle.Text.Blank

/-!
# The gate — no run-state changes behind an orchestrator's back

A resource that is marked as a member of an orchestrated group, but has no identifier in it, cannot
be addressed through the orchestrator.  Its run state is left alone; notifications and errors pass.

1. `GateTags`, the names of the two tags, and `GateTags.isUnaddressable`;
2. `GateTags.apply`, the decision that the gate lets through.
-/

namespace FleetLifecycle

/-- The names of the tags that orchestrated resources carry. -/
structure GateTags where
  /-- The tag that marks a member of a group. -/
  marker : String
  identifier : String
  deriving DecidableEq, Repr

namespace GateTags

/-- Marked as a member, without an identifier that is more than blanks. -/
def isUnaddressable (gate : GateTags) (tags : Tags) : Bool :=
  tags.contains gate.marker &&
    match tags.get? gate.identifier with
    | some id => Text.isBlankText id
    | none => true

/-- The decision that the gate lets through. -/
def apply (gate : GateTags) (tags : Tags) (d : Decision) : Decision :=
  if d.action.changesRunState && gate.isUnaddressable tags then
    .none (.gated d.action gate.marker)
  else d

end GateTags
end FleetLifecycle
