import FleetLifecycle.Calendar.Reading
import FleetLifecycle.Fleet.Resource
import FleetLifecycle.Json.Reader

/-!
# Written forms of resources

1. instants and tags;
2. `ComputeInstance` and `DatabaseInstance`;
3. `Resource`, an object in which the entry `class` names the class;
4. `Resource.describe`, the fields of a resource with ascending keys.
-/

namespace FleetLifecycle

namespace Instant

def toJson (t : Instant) : Json := .string t.rfc3339

def reader : Reader Instant :=
  Reader.parsed "an RFC 3339 formatted date and time string"
    (fun s => (Instant.read s).mapError (·.message))

end Instant

namespace Json

/-- Null, or the written form of a value. -/
def ofOption {α : Type} (write : α → Json) : Option α → Json
  | none => .null
  | some a => write a

end Json

namespace Tags

def toJson (tags : Tags) : Json :=
  .object (tags.entries.map (fun e => (e.1, .string e.2)))

/-- Reads the texts of entries, in order. -/
def readEntries (origin : Origin) :
    List (String × Json) → Except ReadError (List (String × String))
  | [] => .ok []
  | (name, v) :: entries => do
    let text ← Reader.text origin v
    let rest ← readEntries origin entries
    return (name, text) :: rest

/-- Reads tags; of several entries under one name the last counts. -/
def reader : Reader Tags := fun origin v =>
  match v with
  | .object entries => (readEntries origin entries).map Tags.ofList
  | v => .error (.wrongType v.found "a map")

end Tags

namespace ComputeInstance

def fields (m : ComputeInstance) : List (String × Json) :=
  [("instance_id", .string m.id), ("state", .string m.state),
    ("launch_time", Json.ofOption Instant.toJson m.launchTime), ("tags", m.tags.toJson)]

def toJson (m : ComputeInstance) : Json := .object m.fields

/-- The fields of a machine, as they are read. -/
def shape : Shape ComputeInstance :=
  ((((Shape.done ComputeInstance.mk).andThen
    (.required "instance_id" Reader.text)).andThen
    (.required "state" Reader.text)).andThen
    (.defaulted "launch_time" (Reader.optional Instant.reader) none)).andThen
    (.defaulted "tags" Tags.reader Tags.empty)

def formName : String := "struct ComputeInstance"

def reader : Reader ComputeInstance := shape.read formName

end ComputeInstance

namespace DatabaseInstance

def fields (d : DatabaseInstance) : List (String × Json) :=
  [("identifier", .string d.identifier), ("db_name", Json.ofOption .string d.dbName),
    ("status", .string d.status), ("started_at", Json.ofOption Instant.toJson d.startedAt),
    ("tags", d.tags.toJson)]

def toJson (d : DatabaseInstance) : Json := .object d.fields

/-- The fields of a database, as they are read. -/
def shape : Shape DatabaseInstance :=
  (((((Shape.done DatabaseInstance.mk).andThen
    (.required "identifier" Reader.text)).andThen
    (.defaulted "db_name" (Reader.optional Reader.text) none)).andThen
    (.required "status" Reader.text)).andThen
    (.defaulted "started_at" (Reader.optional Instant.reader) none)).andThen
    (.defaulted "tags" Tags.reader Tags.empty)

def formName : String := "struct DatabaseInstance"

def reader : Reader DatabaseInstance := shape.read formName

end DatabaseInstance

namespace Resource

def fields : Resource → List (String × Json)
  | .compute m => m.fields
  | .database d => d.fields

def toJson (r : Resource) : Json :=
  .object (("class", .string r.resourceClass.token) :: r.fields)

def classKey : String := "class"

def variants : List (Variant Resource) :=
  [⟨"instance", fun origin v => (ComputeInstance.reader origin v).map .compute⟩,
    ⟨"database", fun origin v => (DatabaseInstance.reader origin v).map .database⟩]

def reader : Reader Resource :=
  readTagged "ResourceRecord" classKey variants

/-- The fields of a resource, keys ascending. -/
def describe (r : Resource) : Json :=
  (Json.object r.fields).canonical

end Resource
end FleetLifecycle
