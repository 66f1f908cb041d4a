import FleetLifecycle.Entries

/-!
# JSON values

Records, requests and settings are exchanged as JSON values.

1. `Json`, a value; an object is a list of entries, so order and repetition are kept;
2. `Json.member` and `Json.member?`, the value under a key;
3. `canonical`, the value with the keys of every object in ascending order and, of entries under
   one key, only the last.

A number that is not a whole number of at most 64 bits is kept as the text that shows it: no
record has a field for one, so it is only ever named in a message.
-/

namespace FleetLifecycle

inductive Json where
  | null
  | bool (value : Bool)
  | integer (value : Int)
  | real (shown : String)
  | string (value : String)
  | array (items : List Json)
  | object (entries : List (String × Json))
  deriving Repr, Inhabited

namespace Json

/-- The value under a key of an object; null when the key is absent. -/
def member (key : String) : Json → Json
  | .object entries => (Entries.find? key entries).getD .null
  | _ => .null

/-- The value under a key of an object, if the key occurs. -/
def member? (key : String) : Json → Option Json
  | .object entries => Entries.find? key entries
  | _ => none

mutual

/-- The value with every object's keys ascending and distinct. -/
def canonical : Json → Json
  | .null => .null
  | .bool b => .bool b
  | .integer n => .integer n
  | .real t => .real t
  | .string s => .string s
  | .array items => .array (canonicalItems items)
  | .object entries => .object (Entries.sort (canonicalEntries entries))

def canonicalItems : List Json → List Json
  | [] => []
  | v :: items => canonical v :: canonicalItems items

def canonicalEntries : List (String × Json) → List (String × Json)
  | [] => []
  | (k, v) :: entries => (k, canonical v) :: canonicalEntries entries

end

end Json
end FleetLifecycle
