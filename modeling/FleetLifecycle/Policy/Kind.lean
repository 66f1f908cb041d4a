import FleetLifecycle.Schedule.Window

/-!
# Policy kinds — the word before the colon of a policy tag

1. `PolicyKind`, the kinds, and a word that is none of them;
2. `PolicyKind.ofToken` and `PolicyKind.token`, from and to the word; words are compared as they
   stand, upper and lower case told apart, and the empty word means no policy;
3. `PolicyKind.schedule?`, the schedule of a kind that has one.
-/

namespace FleetLifecycle

/-- What a policy asks for. -/
inductive PolicyKind where
  | none
  | limitStop
  | limitTerminate
  | limitEmail
  | scheduled (schedule : Schedule)
  | alwaysOn
  | alwaysOff
  | unknown (token : String)
  deriving DecidableEq, Repr

namespace PolicyKind

def ofToken (token : String) : PolicyKind :=
  if token = "" ∨ token = "none" then .none
  else if token = "limit-stop" then .limitStop
  else if token = "limit-terminate" then .limitTerminate
  else if token = "limit-email" then .limitEmail
  else if token = "cycle-daily" then .scheduled .daily
  else if token = "cycle-weekday" then .scheduled .workdays
  else if token = "cycle-weekly" then .scheduled .weekly
  else if token = "always-on" then .alwaysOn
  else if token = "always-off" then .alwaysOff
  else .unknown token

def token : PolicyKind → String
  | .none => "none"
  | .limitStop => "limit-stop"
  | .limitTerminate => "limit-terminate"
  | .limitEmail => "limit-email"
  | .scheduled .daily => "cycle-daily"
  | .scheduled .workdays => "cycle-weekday"
  | .scheduled .weekly => "cycle-weekly"
  | .alwaysOn => "always-on"
  | .alwaysOff => "always-off"
  | .unknown token => token

def schedule? : PolicyKind → Option Schedule
  | .scheduled s => some s
  | _ => Option.none

/-- The word is none of the known kinds. -/
def isUnknown : PolicyKind → Bool
  | .unknown _ => true
  | _ => false

end PolicyKind
end FleetLifecycle
