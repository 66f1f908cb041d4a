import FleetLifecycle.Decimal.Power
import FleetLifecycle.Policy.Kind
import FleetLifecycle.Text.Blank
import FleetLifecycle.Text.Digits
import FleetLifecycle.Text.Split

/-!
# Policies — what the value of a policy tag says

A tag value reads `kind:parameter/parameter/…`.  Reading it never fails: a parameter is looked at
when a decision needs it, so a malformed tag only affects its own resource.

1. `Policy` and `Policy.parse`;
2. `ParameterError`, what can be wrong with a parameter, and its wording;
3. `Policy.text`, `Policy.number`, `Policy.hour` and `Policy.weekday`, a parameter read as what a
   decision needs.
-/

namespace FleetLifecycle

/-- A policy: its kind, its parameters as written, and the tag value without the blanks around
it. -/
structure Policy where
  kind : PolicyKind
  parameters : List String
  raw : String
  deriving DecidableEq, Repr

namespace Policy

/-- The parameters in the text after the colon; an empty text has none. -/
def parametersOf : Option (List Char) → List String
  | none => []
  | some [] => []
  | some cs => (Text.splitAll '/' cs).map String.ofList

/-- The policy in a tag value; blanks around the value do not count. -/
def parse (tagValue : String) : Policy :=
  let raw := Text.trimChars tagValue.toList
  let (kind, parameters) := Text.splitFirst ':' raw
  { kind := PolicyKind.ofToken (String.ofList kind)
    parameters := parametersOf parameters
    raw := String.ofList raw }

end Policy

/-- What is wrong with a parameter, which is named as a reader of the message knows it. -/
inductive ParameterError where
  /-- The parameter is absent or blank; positions count from one. -/
  | missing (name : String) (position : Nat)
  | notNumber (name : String) (value : String)
  | hourOutOfRange (name : String) (value : UInt32)
  | dayOutOfRange (name : String) (value : UInt32)
  deriving DecidableEq, Repr

namespace ParameterError

def message : ParameterError → String
  | .missing name position =>
    "missing " ++ name ++ " (parameter " ++ String.ofList (Text.decimal position) ++ ")"
  | .notNumber name value => name ++ " '" ++ value ++ "' is not a whole number"
  | .hourOutOfRange name value =>
    name ++ " " ++ String.ofList (Text.decimal value.toNat) ++ " is outside 0-23"
  | .dayOutOfRange name value =>
    name ++ " " ++ String.ofList (Text.decimal value.toNat) ++ " is outside 0-6 (0 = Sunday)"

end ParameterError

namespace Policy

/-- The parameter at an index, without the blanks around it; a blank one counts as missing. -/
def text (p : Policy) (index : Nat) (name : String) : Except ParameterError String :=
  match p.parameters[index]? with
  | none => .error (.missing name (index + 1))
  | some value =>
    if Text.isBlankText value then .error (.missing name (index + 1)) else .ok (Text.trim value)

/-- A number written in ASCII digits, leading zeros allowed, that fits 32 bits. -/
def number (p : Policy) (index : Nat) (name : String) : Except ParameterError UInt32 := do
  let value ← p.text index name
  let n := Text.ofDigits value.toList
  if Text.isDigits value.toList ∧ n < twoTo 32 then .ok (UInt32.ofNat n)
  else .error (.notNumber name value)

def hour (p : Policy) (index : Nat) (name : String) : Except ParameterError UInt8 := do
  let n ← p.number index name
  if n < 24 then .ok (UInt8.ofNat n.toNat) else .error (.hourOutOfRange name n)

def weekday (p : Policy) (index : Nat) (name : String) : Except ParameterError Weekday := do
  let n ← p.number index name
  match Weekday.ofIndex? n.toNat with
  | some d => .ok d
  | none => .error (.dayOutOfRange name n)

end Policy
end FleetLifecycle
