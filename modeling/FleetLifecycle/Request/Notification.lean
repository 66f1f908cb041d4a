import FleetLifecycle.Form.Resource
import FleetLifecycle.Json.Printer
import FleetLifecycle.Policy.Basic
import FleetLifecycle.Request.Basic

/-!
# Notifications — what somebody is told about a resource

The body of a notification names the resource and its policy, and ends with everything that is
known about the resource, as a JSON text with ascending keys.

1. `Resource.details`, that text;
2. `EmailMessage.compose`.
-/

namespace FleetLifecycle

/-- Everything that is known about a resource. -/
def Resource.details (r : Resource) : String :=
  r.describe.pretty

namespace EmailMessage

def subjectStart : String := "automanage notification"

def header (r : Resource) (p : Policy) : String :=
  "Notification from automanage\n\nresource id: " ++ r.id ++
    "\nresource name: " ++ r.displayName ++
    "\nclass: " ++ r.resourceClass.token ++
    "\nlifecycle-policy: " ++ p.raw ++ "\n\n\n"

def compose (sender recipient : String) (r : Resource) (p : Policy) : EmailMessage where
  sender := sender
  recipient := recipient
  subject := subjectStart ++ " - " ++ r.displayName
  body := header r p ++ r.details

end EmailMessage
end FleetLifecycle
