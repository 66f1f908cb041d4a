import FleetLifecycle.Form.Resource
import FleetLifecycle.Proofs.InstantTexts
import FleetLifecycle.Proofs.RecordReading

/-!
# Resource records — the values that stand for a resource

A record names its class and has the fields of that class.  Some fields may be left out, and tags
may come in any order.  Concretely, we:

1. say what the fields of a machine and of a database say (`ComputeInstance.TakenFrom`,
   `DatabaseInstance.TakenFrom`);
2. say which values are records of a resource (`Resource.RecordedBy`);
3. show that these are the values it is read from (`Resource.reader_eq_ok_iff`).
-/

namespace FleetLifecycle

/-! ## Fields -/

/-- A field that may be left out says nothing if it is not there, or null. -/
inductive Json.OptionallySays {α : Type} (Says : Json → α → Prop) :
    Option Json → Option α → Prop where
  | absent : OptionallySays Says none none
  | null : OptionallySays Says (some .null) none
  | given {v : Json} {a : α} : Says v a → OptionallySays Says (some v) (some a)

/-- The value is a text. -/
def Json.SaysText (v : Json) (s : String) : Prop :=
  v = .string s

/-- The value is a text for an instant. -/
def Json.SaysInstant (v : Json) (t : Instant) : Prop :=
  ∃ s, v = .string s ∧ Instant.read s = .ok t

/-- The field has tags, of several under one name the last; there are none if it is not there. -/
inductive Json.SaysTags : Option Json → Tags → Prop where
  | absent : SaysTags none .empty
  | given (entries : List (String × String)) :
      SaysTags (some (.object (entries.map (fun e => (e.1, .string e.2))))) (.ofList entries)

/-- The values under the names of fields are those of the machine. -/
structure ComputeInstance.TakenFrom (get : String → Option Json) (m : ComputeInstance) : Prop where
  id : get "instance_id" = some (.string m.id)
  state : get "state" = some (.string m.state)
  launchTime : Json.OptionallySays Json.SaysInstant (get "launch_time") m.launchTime
  tags : Json.SaysTags (get "tags") m.tags

/-- The values under the names of fields are those of the database. -/
structure DatabaseInstance.TakenFrom (get : String → Option Json) (d : DatabaseInstance) :
    Prop where
  identifier : get "identifier" = some (.string d.identifier)
  dbName : Json.OptionallySays Json.SaysText (get "db_name") d.dbName
  status : get "status" = some (.string d.status)
  startedAt : Json.OptionallySays Json.SaysInstant (get "started_at") d.startedAt
  tags : Json.SaysTags (get "tags") d.tags

/-- The value is a record of the resource: it names the class, and what else it holds are the fields
of the resource. -/
inductive Resource.RecordedBy : Json → Resource → Prop where
  | compute {v rest : Json} {get : String → Option Json} {m : ComputeInstance} :
      v.Tagged "class" "instance" rest →
        rest.Parts ["instance_id", "state", "launch_time", "tags"] get → m.TakenFrom get →
          RecordedBy v (.compute m)
  | database {v rest : Json} {get : String → Option Json} {d : DatabaseInstance} :
      v.Tagged "class" "database" rest →
        rest.Parts ["identifier", "db_name", "status", "started_at", "tags"] get →
          d.TakenFrom get → RecordedBy v (.database d)

/-! ## Reading fields -/

section Fields

variable {origin : Origin} {v : Json}

theorem Reader.text_eq_ok_iff {s : String} : text origin v = .ok s ↔ v = .string s := by
  cases v <;> simp [text]

theorem Instant.reader_eq_ok_iff {t : Instant} : reader origin v = .ok t ↔ v.SaysInstant t := by
  cases v <;> simp [reader, Reader.parsed, Json.SaysInstant, mapError_eq_ok_iff]

theorem Reader.optional_eq_ok_iff {α : Type} {read : Reader α} {Says : Json → α → Prop}
    (hnull : ∀ a, ¬ Says .null a) (hread : ∀ {v a}, read origin v = .ok a ↔ Says v a)
    {a : Option α} : optional read origin v = .ok a ↔ Json.OptionallySays Says (some v) a := by
  constructor
  · intro h
    cases v with
    | null =>
      cases h
      exact .null
    | bool | integer | real | string | array | object =>
      obtain ⟨b, hb, rfl⟩ := map_eq_ok_iff.1 h
      exact .given (hread.1 hb)
  · intro h
    cases h with
    | null =>
      rfl
    | given hv =>
      cases v with
      | null =>
        exact absurd hv (hnull _)
      | bool | integer | real | string | array | object =>
        exact map_eq_ok_iff.2 ⟨_, hread.2 hv, rfl⟩

theorem Tags.readEntries_eq_ok_iff {entries : List (String × Json)}
    {texts : List (String × String)} :
    readEntries origin entries = .ok texts ↔
      entries = texts.map (fun e => (e.1, .string e.2)) := by
  induction entries generalizing texts with
  | nil =>
    cases texts <;> simp [readEntries]
  | cons e entries ih =>
    simp only [readEntries, bind_eq_ok_iff, Reader.text_eq_ok_iff, ih, pure, Except.pure,
      Except.ok.injEq]
    constructor
    · rintro ⟨text, hv, rest, rfl, rfl⟩
      rw [List.map_cons, ← hv]
    · intro h
      cases texts with
      | nil =>
        cases h
      | cons e' texts =>
        cases h
        exact ⟨e'.2, rfl, texts, rfl, rfl⟩

end Fields

section Building

variable {origin : Origin} {get : String → Option Json} {name : String}

theorem build_optional_eq_ok_iff {α : Type} {read : Reader α} {Says : Json → α → Prop}
    (hnull : ∀ a, ¬ Says .null a) (hread : ∀ {v a}, read origin v = .ok a ↔ Says v a)
    {a : Option α} :
    (Shape.defaulted name (Reader.optional read) none).build origin get = .ok a ↔
      Json.OptionallySays Says (get name) a := by
  rw [Shape.build_defaulted_eq_ok_iff]
  cases hget : get name with
  | none =>
    constructor
    · rintro (⟨-, rfl⟩ | ⟨v, hv, -⟩)
      · exact .absent
      · cases hv
    · intro h
      cases h
      exact .inl ⟨rfl, rfl⟩
  | some v =>
    simp only [reduceCtorEq, false_and, false_or, Option.some.injEq, exists_eq_left',
      Reader.optional_eq_ok_iff hnull hread]

theorem build_tags_eq_ok_iff {tags : Tags} :
    (Shape.defaulted name Tags.reader .empty).build origin get = .ok tags ↔
      Json.SaysTags (get name) tags := by
  rw [Shape.build_defaulted_eq_ok_iff]
  constructor
  · rintro (⟨hget, rfl⟩ | ⟨v, hget, hread⟩)
    · rw [hget]
      exact .absent
    · rw [hget]
      cases v with
      | object entries =>
        obtain ⟨texts, htexts, rfl⟩ := map_eq_ok_iff.1 hread
        rw [Tags.readEntries_eq_ok_iff.1 htexts]
        exact .given texts
      | null | bool | integer | real | string | array =>
        cases hread
  · generalize get name = field
    intro h
    cases h with
    | absent =>
      exact .inl ⟨rfl, rfl⟩
    | given texts =>
      refine .inr ⟨_, rfl, ?_⟩
      exact map_eq_ok_iff.2 ⟨texts, Tags.readEntries_eq_ok_iff.2 rfl, rfl⟩

theorem build_text_eq_ok_iff {s : String} :
    (Shape.required name Reader.text).build origin get = .ok s ↔ get name = some (.string s) := by
  simp [Shape.build_required_eq_ok_iff, Reader.text_eq_ok_iff]

end Building

/-! ## Machines and databases -/

namespace ComputeInstance

theorem lawful_shape : shape.Lawful :=
  ((((Shape.lawful_done _).andThen (Shape.lawful_required _ _)).andThen
    (Shape.lawful_required _ _)).andThen (Shape.lawful_defaulted _ _ _)).andThen
    (Shape.lawful_defaulted _ _ _)

theorem build_eq_ok_iff {origin : Origin} {get : String → Option Json} {m : ComputeInstance} :
    shape.build origin get = .ok m ↔ m.TakenFrom get := by
  have hinstants := @build_optional_eq_ok_iff origin get "launch_time" Instant Instant.reader
    Json.SaysInstant (by simp [Json.SaysInstant]) Instant.reader_eq_ok_iff
  simp only [shape, Shape.build_andThen_eq_ok_iff, build_text_eq_ok_iff, build_tags_eq_ok_iff,
    hinstants, Shape.done, Except.ok.injEq]
  constructor
  · rintro ⟨_, ⟨_, ⟨_, ⟨_, rfl, id, hid, rfl⟩, state, hstate, rfl⟩, launched, hlaunched, rfl⟩, tags,
      htags, rfl⟩
    exact ⟨hid, hstate, hlaunched, htags⟩
  · intro h
    exact ⟨_, ⟨_, ⟨_, ⟨_, rfl, _, h.id, rfl⟩, _, h.state, rfl⟩, _, h.launchTime, rfl⟩, _, h.tags,
      rfl⟩

theorem reader_eq_ok_iff {origin : Origin} (horigin : origin ≠ .settings) {v : Json}
    {m : ComputeInstance} :
    reader origin v = .ok m ↔
      ∃ get, v.Parts ["instance_id", "state", "launch_time", "tags"] get ∧ m.TakenFrom get := by
  have hnames : (shape.slots.map (·.name)).Nodup := by
    decide
  refine (lawful_shape.read_eq_ok_iff hnames horigin).trans ?_
  exact exists_congr (fun get => and_congr_right (fun _ => build_eq_ok_iff))

end ComputeInstance

namespace DatabaseInstance

theorem lawful_shape : shape.Lawful :=
  (((((Shape.lawful_done _).andThen (Shape.lawful_required _ _)).andThen
    (Shape.lawful_defaulted _ _ _)).andThen (Shape.lawful_required _ _)).andThen
    (Shape.lawful_defaulted _ _ _)).andThen (Shape.lawful_defaulted _ _ _)

theorem build_eq_ok_iff {origin : Origin} {get : String → Option Json} {d : DatabaseInstance} :
    shape.build origin get = .ok d ↔ d.TakenFrom get := by
  have htexts := @build_optional_eq_ok_iff origin get "db_name" String Reader.text
    Json.SaysText (by simp [Json.SaysText]) Reader.text_eq_ok_iff
  have hinstants := @build_optional_eq_ok_iff origin get "started_at" Instant Instant.reader
    Json.SaysInstant (by simp [Json.SaysInstant]) Instant.reader_eq_ok_iff
  simp only [shape, Shape.build_andThen_eq_ok_iff, build_text_eq_ok_iff, build_tags_eq_ok_iff,
    htexts, hinstants, Shape.done, Except.ok.injEq]
  constructor
  · rintro ⟨_, ⟨_, ⟨_, ⟨_, ⟨_, rfl, id, hid, rfl⟩, dbName, hname, rfl⟩, status, hstatus, rfl⟩,
      started, hstarted, rfl⟩, tags, htags, rfl⟩
    exact ⟨hid, hname, hstatus, hstarted, htags⟩
  · intro h
    exact ⟨_, ⟨_, ⟨_, ⟨_, ⟨_, rfl, _, h.identifier, rfl⟩, _, h.dbName, rfl⟩, _, h.status, rfl⟩, _,
      h.startedAt, rfl⟩, _, h.tags, rfl⟩

theorem reader_eq_ok_iff {origin : Origin} (horigin : origin ≠ .settings) {v : Json}
    {d : DatabaseInstance} :
    reader origin v = .ok d ↔
      ∃ get, v.Parts ["identifier", "db_name", "status", "started_at", "tags"] get ∧
        d.TakenFrom get := by
  have hnames : (shape.slots.map (·.name)).Nodup := by
    decide
  refine (lawful_shape.read_eq_ok_iff hnames horigin).trans ?_
  exact exists_congr (fun get => and_congr_right (fun _ => build_eq_ok_iff))

end DatabaseInstance

namespace Resource

theorem find?_variants {name : String} {x : Variant Resource} :
    variants.find? (fun x => x.name = name) = some x ↔
      (name = "instance" ∧
        ⟨"instance", fun origin v => (ComputeInstance.reader origin v).map .compute⟩ = x) ∨
      (name = "database" ∧
        ⟨"database", fun origin v => (DatabaseInstance.reader origin v).map .database⟩ = x) := by
  by_cases hinstance : "instance" = name
  · subst hinstance
    simp [variants]
  · by_cases hdatabase : "database" = name
    · subst hdatabase
      simp [variants]
    · simp [variants, hinstance, hdatabase, eq_comm (a := name)]

/-- A resource is read from its records, and from nothing else. -/
theorem reader_eq_ok_iff {v : Json} {r : Resource} : reader .direct v = .ok r ↔ RecordedBy v r := by
  rw [reader, readTagged_eq_ok_iff]
  constructor
  · rintro ⟨name, rest, htagged, variant, hfind, hread⟩
    rcases find?_variants.1 hfind with ⟨rfl, rfl⟩ | ⟨rfl, rfl⟩
    -- what is set aside for the class is read as a record of that class
    · obtain ⟨m, hm, rfl⟩ := map_eq_ok_iff.1 hread
      obtain ⟨get, hparts, htaken⟩ := (ComputeInstance.reader_eq_ok_iff (by decide)).1 hm
      exact .compute htagged hparts htaken
    · obtain ⟨d, hd, rfl⟩ := map_eq_ok_iff.1 hread
      obtain ⟨get, hparts, htaken⟩ := (DatabaseInstance.reader_eq_ok_iff (by decide)).1 hd
      exact .database htagged hparts htaken
  · intro h
    cases h with
    | compute htagged hparts htaken =>
      have hread : ComputeInstance.reader .setAside _ = .ok _ :=
        (ComputeInstance.reader_eq_ok_iff (by decide)).2 ⟨_, hparts, htaken⟩
      exact ⟨_, _, htagged, _, find?_variants.2 (.inl ⟨rfl, rfl⟩), map_eq_ok_iff.2 ⟨_, hread, rfl⟩⟩
    | database htagged hparts htaken =>
      have hread : DatabaseInstance.reader .setAside _ = .ok _ :=
        (DatabaseInstance.reader_eq_ok_iff (by decide)).2 ⟨_, hparts, htaken⟩
      exact ⟨_, _, htagged, _, find?_variants.2 (.inr ⟨rfl, rfl⟩), map_eq_ok_iff.2 ⟨_, hread, rfl⟩⟩

end Resource

/-! ## Tags -/

theorem Tags.nodup_names (tags : Tags) : (tags.entries.map (·.1)).Nodup :=
  Entries.nodup_of_ascending tags.ascending

/-- Tags are made of their entries. -/
theorem Tags.ofList_entries (tags : Tags) : Tags.ofList tags.entries = tags :=
  Tags.ext_get? (fun _ => Entries.find?_sort_of_nodup tags.nodup_names)

end FleetLifecycle
