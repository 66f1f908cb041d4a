import FleetLifecycle.Dispatch.Basic
import FleetLifecycle.Files
import FleetLifecycle.Form.Resource
import FleetLifecycle.Json.Draft

/-!
# Inventories — a fleet listed in a JSON file

An inventory is an object whose entry `resources` lists the fleet; all other entries are passed
over, whatever they hold.  Where no fleet can be listed, either the text is no JSON value at all,
or the first thing that does not fit, from left to right, is the reason.

1. `InventoryError`;
2. `Draft.found?`, what a draft shows at first sight;
3. `readResource`, `readFleet` and `readFile`, a resource, the list, and the whole;
4. `Inventory.ofText` and `Inventory.load`.
-/

namespace FleetLifecycle

/-- Why a text or a file lists no fleet. -/
inductive InventoryError where
  | unreadable (reason : FileError)
  /-- The text is no JSON value. -/
  | malformed
  /-- The text says something that does not fit. -/
  | unfit (reason : ReadError)
  /-- A file given as an array has more than its one field. -/
  | surplus
  deriving DecidableEq, Repr

namespace Draft

/-- What a reader meets first in a draft. -/
def found? : Draft → Option Found
  | .null => some .null
  | .bool b => some (.boolean b)
  | .number lit => lit.toJson?.map Json.found
  | .string s => s.map .string
  | .array _ => some .sequence
  | .object _ => some .map

end Draft

namespace Inventory

/-- The value is of another type than the expected one, or no value at all. -/
def wrongType {α : Type} (d : Draft) (expected : String) : Except InventoryError α :=
  match d.found? with
  | some found => .error (.unfit (.wrongType found expected))
  | none => .error .malformed

/-- How deep the values of a resource may nest: the resource itself, the list and the file take
three levels. -/
def fieldDepth : Nat := Draft.depthLimit - 3

/-- The value of a field of a resource. -/
def readField (d : Draft) : Except InventoryError Json :=
  match d.value? fieldDepth with
  | some v => .ok v
  | none => .error .malformed

/-- The values of the items of a resource. -/
def readItems : List Draft → Except InventoryError (List Json)
  | [] => .ok []
  | d :: items => do
    let v ← readField d
    let vs ← readItems items
    return v :: vs

/-- The class that an entry or an item names. -/
def readClass (d : Draft) : Except InventoryError (Variant Resource) :=
  match d with
  | .string (some s) => (readName Resource.variants .direct (.string s)).mapError .unfit
  | d => wrongType d "variant identifier"

/-- The entries of a resource: the class is read where it stands, all else is set aside. -/
def readEntries : Option (Variant Resource) → List (Option String × Draft) →
    Except InventoryError (Variant Resource × List (String × Json))
  | some variant, [] => .ok (variant, [])
  | none, [] => .error (.unfit (.missingField Resource.classKey))
  | tag, (some key, d) :: entries =>
    if key = Resource.classKey then
      match tag with
      | some _ => .error (.unfit (.duplicateField key))
      | none => do
        let variant ← readClass d
        readEntries (some variant) entries
    else do
      let v ← readField d
      let (variant, rest) ← readEntries tag entries
      return (variant, (key, v) :: rest)
  | _, (none, _) :: _ => .error .malformed

def readResource (d : Draft) : Except InventoryError Resource :=
  match d with
  | .object entries => do
    let (variant, rest) ← readEntries none entries
    (variant.read .setAside (.object rest)).mapError .unfit
  | .array [] => .error (.unfit (.missingField Resource.classKey))
  | .array (tag :: items) => do
    let variant ← readClass tag
    let rest ← readItems items
    (variant.read .setAside (.array rest)).mapError .unfit
  | d => wrongType d "internally tagged enum ResourceRecord"

def readResources : List Draft → Except InventoryError (List Resource)
  | [] => .ok []
  | d :: items => do
    let r ← readResource d
    let rs ← readResources items
    return r :: rs

def readFleet (d : Draft) : Except InventoryError (List Resource) :=
  match d with
  | .array items => readResources items
  | d => wrongType d "a sequence"

def fleetKey : String := "resources"

def readFile : Option (List Resource) → List (Option String × Draft) →
    Except InventoryError (List Resource)
  | fleet, [] => .ok (fleet.getD [])
  | fleet, (some key, d) :: entries =>
    if key = fleetKey then
      match fleet with
      | some _ => .error (.unfit (.duplicateField key))
      | none => do
        let rs ← readFleet d
        readFile (some rs) entries
    else readFile fleet entries
  | _, (none, _) :: _ => .error .malformed

def ofDraft (d : Draft) : Except InventoryError (List Resource) :=
  match d with
  | .object entries => readFile none entries
  | .array [] => .ok []
  | .array (d :: items) => do
    let rs ← readFleet d
    if items.isEmpty then return rs else .error .surplus
  | d => wrongType d "struct InventoryFile"

/-- The fleet that a text lists.  A text that is no JSON value is refused as such, unless the faulty
value is one that is passed over. -/
def ofText (text : String) : Except InventoryError (List Resource) :=
  match Draft.ofText? text with
  | none => .error .malformed
  | some d =>
    match ofDraft d with
    | .ok fleet => .ok fleet
    | .error e => .error (if (d.value? Draft.depthLimit).isSome then e else .malformed)

def load (files : FileSystem) (path : String) : Except InventoryError (List Resource) :=
  match files.text path with
  | .ok text => ofText text
  | .error e => .error (.unreadable e)

end Inventory

namespace InventoryError

/-- The failure of listing the fleet in the file at `path`. -/
def toHostError (path : String) : InventoryError → HostError
  | .unreadable reason => .io reason.message
  | .malformed => .listFailed (path ++ ": not a JSON text")
  | .unfit reason => .listFailed (path ++ ": " ++ reason.message)
  | .surplus => .listFailed (path ++ ": trailing characters")

end InventoryError
end FleetLifecycle
