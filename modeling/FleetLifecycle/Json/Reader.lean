import FleetLifecycle.Decimal.Power
import FleetLifecycle.Json.Basic
import FleetLifecycle.Text.Digits
import FleetLifecycle.Text.Quoted

/-!
# Reading typed values — fields, variants and what can be wrong with them

A typed value is read from a JSON value in the order in which the value lists its parts, and the
first part that does not fit ends the reading.

1. `ReadError`, the causes, and `ReadError.message`, their wording;
2. `Origin`, where a value stands: this decides about surplus items and a few lenient forms;
3. readers for texts, flags, bounded whole numbers and optional values;
4. `Shape`, the fields of a record, put together one after the other; `Shape.read` accepts an
   object with the fields in any order, or an array with the fields in declared order;
5. `readTagged`, a variant named by an entry of the object itself, and `readChoice`, a variant
   named by a string or by the only key of an object.
-/

namespace FleetLifecycle

/-- What a reader met, as messages name it. -/
inductive Found where
  | null
  | boolean (value : Bool)
  | integer (value : Int)
  | real (shown : String)
  | string (value : String)
  | sequence
  | map
  /-- A variant without a value. -/
  | unitVariant
  deriving DecidableEq, Repr

namespace Found

def describe : Found → String
  | .null => "null"
  | .boolean b => "boolean `" ++ (if b then "true" else "false") ++ "`"
  | .integer n => "integer `" ++ String.ofList (Text.decimalInt n) ++ "`"
  | .real t => "floating point `" ++ t ++ "`"
  | .string s => "string " ++ Text.quote s
  | .sequence => "sequence"
  | .map => "map"
  | .unitVariant => "unit variant"

end Found

/-- Why a value does not fit a type. -/
inductive ReadError where
  | missingField (name : String)
  | duplicateField (name : String)
  | unknownVariant (found : String) (known : List String)
  | wrongType (found : Found) (expected : String)
  | wrongValue (found : Found) (expected : String)
  | wrongLength (length : Nat) (expected : String)
  /-- A string whose content is not in its own format. -/
  | unreadable (reason : String)
  deriving DecidableEq, Repr

namespace ReadError

def named (s : String) : String :=
  "`" ++ s ++ "`"

/-- The known names: none, one, two joined by "or", or a list. -/
def known : List String → String
  | [] => "there are no variants"
  | [a] => "expected " ++ named a
  | [a, b] => "expected " ++ named a ++ " or " ++ named b
  | names => "expected one of " ++ String.intercalate ", " (names.map named)

def message : ReadError → String
  | .missingField name => "missing field " ++ named name
  | .duplicateField name => "duplicate field " ++ named name
  | .unknownVariant found names => "unknown variant " ++ named found ++ ", " ++ known names
  | .wrongType found expected => "invalid type: " ++ found.describe ++ ", expected " ++ expected
  | .wrongValue found expected => "invalid value: " ++ found.describe ++ ", expected " ++ expected
  | .wrongLength n expected =>
    "invalid length " ++ String.ofList (Text.decimal n) ++ ", expected " ++ expected
  | .unreadable reason => reason

end ReadError

/-- Where a value stands. -/
inductive Origin where
  | direct
  /-- It was set aside until the variant it belongs to was known. -/
  | setAside
  /-- It comes from a settings text. -/
  | settings
  deriving DecidableEq, Repr

abbrev Reader (α : Type) : Type :=
  Origin → Json → Except ReadError α

namespace Json

def found : Json → Found
  | .null => .null
  | .bool b => .boolean b
  | .integer n => .integer n
  | .real t => .real t
  | .string s => .string s
  | .array _ => .sequence
  | .object _ => .map

end Json

namespace Reader

def text : Reader String := fun _ v =>
  match v with
  | .string s => .ok s
  | v => .error (.wrongType v.found "a string")

def flag : Reader Bool := fun _ v =>
  match v with
  | .bool b => .ok b
  | v => .error (.wrongType v.found "a boolean")

/-- A natural number that fits the unsigned type of the given width in bits. -/
def word (width : Nat) : Reader Nat := fun _ v =>
  let expected := "u" ++ String.ofList (Text.decimal width)
  match v with
  | .integer n =>
    if 0 ≤ n ∧ n.toNat < twoTo width then .ok n.toNat
    else .error (.wrongValue (.integer n) expected)
  | v => .error (.wrongType v.found expected)

def word8 : Reader UInt8 := fun origin v => (word 8 origin v).map UInt8.ofNat

def word32 : Reader UInt32 := fun origin v => (word 32 origin v).map UInt32.ofNat

def word64 : Reader UInt64 := fun origin v => (word 64 origin v).map UInt64.ofNat

def optional {α : Type} (read : Reader α) : Reader (Option α) := fun origin v =>
  match v with
  | .null => .ok none
  | v => (read origin v).map some

/-- A string in a format of its own. -/
def parsed {α : Type} (expected : String) (parse : String → Except String α) : Reader α :=
  fun _ v =>
    match v with
    | .string s => (parse s).mapError .unreadable
    | v => .error (.wrongType v.found expected)

end Reader

/-! ## Records -/

/-- A field as the form sees it: its name, whether its value fits, and whether an array may end
before it. -/
structure Slot where
  name : String
  check : Origin → Json → Except ReadError Unit
  mayOmit : Bool

/-- A record: its fields in declared order, and how it is built once all values are at hand. -/
structure Shape (α : Type) where
  slots : List Slot
  build : Origin → (String → Option Json) → Except ReadError α

namespace Shape

/-- Reads one field; `absent` is its value when an object does not have it. -/
def slot {α : Type} (name : String) (read : Reader α) (absent : Option α) (mayOmit : Bool) :
    Shape α where
  slots := [⟨name, fun origin v => (read origin v).map (fun _ => ()), mayOmit⟩]
  build origin get :=
    match get name with
    | some v => read origin v
    | none =>
      match absent with
      | some a => .ok a
      | none => .error (.missingField name)

def required {α : Type} (name : String) (read : Reader α) : Shape α :=
  slot name read none false

/-- A field that an object may leave out, or give as null; an array has to have it. -/
def optional {α : Type} (name : String) (read : Reader α) : Shape (Option α) :=
  slot name (Reader.optional read) (some none) false

/-- A field with a default for the form that leaves it out. -/
def defaulted {α : Type} (name : String) (read : Reader α) (default : α) : Shape α :=
  slot name read (some default) true

def done {α : Type} (a : α) : Shape α where
  slots := []
  build _ _ := .ok a

def andThen {α β : Type} (f : Shape (α → β)) (a : Shape α) : Shape β where
  slots := f.slots ++ a.slots
  build origin get := do
    let g ← f.build origin get
    let x ← a.build origin get
    return g x

/-- "1 element", "5 elements". -/
def elements (n : Nat) : String :=
  String.ofList (Text.decimal n) ++ (if n = 1 then " element" else " elements")

/-- Goes through the entries of an object in order: a known field is read when it comes up, and
must not come up again. -/
def checkEntries (origin : Origin) (slots : List Slot) :
    List String → List (String × Json) → Except ReadError Unit
  | _, [] => .ok ()
  | seen, (key, v) :: entries =>
    match slots.find? (fun s => s.name = key) with
    | none => checkEntries origin slots seen entries
    | some s =>
      if key ∈ seen then .error (.duplicateField key)
      else do
        s.check origin v
        checkEntries origin slots (key :: seen) entries

/-- Goes through the items of an array in order, next to the declared fields; gives the items that
are left over. -/
def checkItems (origin : Origin) (expected : String) :
    Nat → List Slot → List Json → Except ReadError (List Json)
  | _, [], items => .ok items
  | n, s :: slots, [] =>
    if s.mayOmit then checkItems origin expected (n + 1) slots []
    else .error (.wrongLength n expected)
  | n, s :: slots, v :: items => do
    s.check origin v
    checkItems origin expected (n + 1) slots items

/-- Surplus items of an array, as its origin sees them. -/
def checkSurplus (origin : Origin) (fields total : Nat) : Except ReadError Unit :=
  match origin with
  | .direct =>
    if fields < total then .error (.wrongLength total "fewer elements in array") else .ok ()
  | .setAside =>
    if fields < total then .error (.wrongLength total (elements fields ++ " in sequence"))
    else .ok ()
  | .settings => .ok ()

/-- Reads a record from an object, or from an array of its fields; `what` names the record. -/
def read {α : Type} (what : String) (shape : Shape α) : Reader α := fun origin v =>
  match v with
  | .object entries => do
    checkEntries origin shape.slots [] entries
    shape.build origin (fun name => Entries.find? name entries)
  | .array items => do
    let expected := what ++ " with " ++ elements shape.slots.length
    let _ ← checkItems origin expected 0 shape.slots items
    checkSurplus origin shape.slots.length items.length
    shape.build origin (fun name => Entries.find? name ((shape.slots.map (·.name)).zip items))
  | v => .error (.wrongType v.found what)

end Shape

/-! ## Variants -/

/-- A variant of a type: its name, and how its content is read. -/
structure Variant (α : Type) where
  name : String
  read : Reader α

namespace Variant

def unit {α : Type} (name : String) (value : α) : Variant α where
  name := name
  read _ v :=
    match v with
    | .array (_ :: items) =>
      .error (.wrongLength (items.length + 1) (Shape.elements 0 ++ " in sequence"))
    | _ => .ok value

def record {α : Type} (name what : String) (shape : Shape α) : Variant α where
  name := name
  read := shape.read what

end Variant

/-- The variant that a value names; a value that was set aside may give its position instead. -/
def readName {α : Type} (variants : List (Variant α)) (origin : Origin) (v : Json) :
    Except ReadError (Variant α) :=
  match v with
  | .string s =>
    match variants.find? (fun variant => variant.name = s) with
    | some variant => .ok variant
    | none => .error (.unknownVariant s (variants.map (·.name)))
  | .integer n =>
    if origin = .setAside ∧ 0 ≤ n then
      match variants[n.toNat]? with
      | some variant => .ok variant
      | none =>
        .error (.wrongValue (.integer n)
          ("variant index 0 <= i < " ++ String.ofList (Text.decimal variants.length)))
    else .error (.wrongType (.integer n) "variant identifier")
  | v => .error (.wrongType v.found "variant identifier")

/-- The entry of an object that names the variant: read where it stands, and only once. -/
def readTag {α : Type} (key : String) (variants : List (Variant α)) (origin : Origin) :
    Option (Variant α) → List (String × Json) → Except ReadError (Variant α)
  | some variant, [] => .ok variant
  | none, [] => .error (.missingField key)
  | tag, (k, v) :: entries =>
    if k = key then
      match tag with
      | some _ => .error (.duplicateField key)
      | none => do
        let variant ← readName variants origin v
        readTag key variants origin (some variant) entries
    else readTag key variants origin tag entries

/-- A value whose variant is named by its entry `key`, or by the first item of an array.  The rest
is set aside until the variant is known. -/
def readTagged {α : Type} (what key : String) (variants : List (Variant α)) : Reader α :=
  fun origin v =>
    match v with
    | .object entries => do
      let variant ← readTag key variants origin none entries
      variant.read .setAside (.object (entries.filter (fun e => e.1 ≠ key)))
    | .array [] => .error (.missingField key)
    | .array (tag :: items) => do
      let variant ← readName variants origin tag
      variant.read .setAside (.array items)
    | v => .error (.wrongType v.found ("internally tagged enum " ++ what))

/-- A choice: its name, and how it is read from the value beside the name, if there is one. -/
structure Choice (α : Type) where
  name : String
  read : Origin → Option Json → Except ReadError α

namespace Choice

/-- A choice without a value; null counts as none, and so does an empty object set aside. -/
def unit {α : Type} (name : String) (value : α) : Choice α where
  name := name
  read origin payload :=
    match payload with
    | none => .ok value
    | some .null => .ok value
    | some (.object []) =>
      if origin = .setAside then .ok value else .error (.wrongType .map "unit")
    | some v => .error (.wrongType v.found "unit")

def one {α β : Type} (name : String) (read : Reader α) (make : α → β) : Choice β where
  name := name
  read origin payload :=
    match payload with
    | none => .error (.wrongType .unitVariant "newtype variant")
    | some v => (read origin v).map make

end Choice

/-- A value that is the name of a choice, or an object with that name as its only key. -/
def readChoice {α : Type} (choices : List (Choice α)) : Reader α := fun origin v =>
  let choose (name : String) (payload : Option Json) : Except ReadError α :=
    match choices.find? (fun choice => choice.name = name) with
    | some choice => choice.read origin payload
    | none => .error (.unknownVariant name (choices.map (·.name)))
  match v with
  | .string s => choose s none
  | .object [(name, payload)] => choose name (some payload)
  | .object _ => .error (.wrongValue .map "map with a single key")
  | v => .error (.wrongType v.found "string or map")

end FleetLifecycle
