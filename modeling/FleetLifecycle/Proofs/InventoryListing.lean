import FleetLifecycle.Inventory.Reading
import FleetLifecycle.Proofs.ReadableInstants
import FleetLifecycle.Proofs.WrittenTexts
import Mathlib.Data.List.Forall2

/-!
# Inventory listing — a file lists its fleet as a whole or not at all

Everything that stands in the list of an inventory has to be a record of a resource, and whatever
stands beside the list is passed over.  Concretely, we:

1. say where a draft holds the list (`Draft.HoldsResources`), and which drafts are records
   (`Draft.Records`);
2. follow the reader from the entries of a record to the list and to the file, with one lemma that
   says from what each step gives a result;
3. find the written forms of a fleet among the inventories
   (`Inventory.holdsResources_of_value?`), and conclude with `Inventory.load_lists`.
-/

namespace FleetLifecycle

namespace Draft

/-! ## Inventories -/

/-- The draft is a record of the resource.  Its values nest no deeper than the list and the file
around it leave room for. -/
def Records (d : Draft) (r : Resource) : Prop :=
  ∃ v, d.value? (depthLimit - 2) = some v ∧ Resource.RecordedBy v r

/-- None of the entries has the list. -/
def NoList (entries : List (Option String × Draft)) : Prop :=
  ∀ e ∈ entries, ∃ key, e.1 = some key ∧ key ≠ "resources"

/-- The draft is an inventory with the given items in its list: an object in which the list stands
under its key and nowhere else, or is missing, or an array of the list alone, or of nothing. -/
inductive HoldsResources : Draft → List Draft → Prop where
  | absent {entries : List (Option String × Draft)} :
      NoList entries → HoldsResources (.object entries) []
  | entry {before after : List (Option String × Draft)} {items : List Draft} :
      NoList before → NoList after →
        HoldsResources (.object (before ++ (some "resources", .array items) :: after)) items
  | nothing : HoldsResources (.array []) []
  | item {items : List Draft} : HoldsResources (.array [.array items]) items

end Draft

/-- The file is a JSON text in UTF-8 that holds a list, and every item of the list is a record. -/
def FileSystem.HasInventory (files : FileSystem) (path : String) : Prop :=
  ∃ (text : String) (d : Draft) (items : List Draft), files path = .ok text.toUTF8 ∧
    d.Laid text.toList ∧ d.HoldsResources items ∧ ∀ item ∈ items, ∃ r, item.Records r

namespace Draft

/-! ## Values of drafts -/

section Values

variable {depth : Nat} {d : Draft}

/-- A number is a whole number or a real. -/
theorem toJson?_ne {lit : NumberLiteral} {v : Json} (hinteger : ∀ n, v ≠ .integer n)
    (hreal : ∀ shown, v ≠ .real shown) : lit.toJson? ≠ some v := by
  intro h
  simp only [NumberLiteral.toJson?] at h
  split at h
  · exact hinteger _ (Option.some.inj h).symm
  split at h
  · exact hinteger _ (Option.some.inj h).symm
  · obtain ⟨x, -, hx⟩ := Option.map_eq_some_iff.1 h
    exact hreal _ hx.symm

theorem value?_eq_string_iff {s : String} :
    d.value? depth = some (.string s) ↔ d = .string (some s) := by
  cases d with
  | number lit =>
    simp only [value?, reduceCtorEq, iff_false]
    exact toJson?_ne (by simp) (by simp)
  | array | object =>
    cases depth <;> simp [value?]
  | null | bool | string =>
    simp [value?]

theorem value?_eq_array_iff {vs : List Json} :
    d.value? (depth + 1) = some (.array vs) ↔
      ∃ items, d = .array items ∧ values? depth items = some vs := by
  cases d with
  | number lit =>
    simp only [value?, reduceCtorEq, false_and, exists_false, iff_false]
    exact toJson?_ne (by simp) (by simp)
  | null | bool | string | array | object =>
    simp [value?]

theorem value?_eq_object_iff {vs : List (String × Json)} :
    d.value? (depth + 1) = some (.object vs) ↔
      ∃ entries, d = .object entries ∧ entries? depth entries = some vs := by
  cases d with
  | number lit =>
    simp only [value?, reduceCtorEq, false_and, exists_false, iff_false]
    exact toJson?_ne (by simp) (by simp)
  | null | bool | string | array | object =>
    simp [value?]

theorem values?_eq_some_iff {items : List Draft} {vs : List Json} :
    values? depth items = some vs ↔
      List.Forall₂ (fun d v => d.value? depth = some v) items vs := by
  induction items generalizing vs with
  | nil =>
    simp [values?, eq_comm]
  | cons d items ih =>
    simp only [values?, Option.bind_eq_bind, Option.bind_eq_some_iff, ih, Option.pure_def,
      Option.some.injEq, List.forall₂_cons_left_iff]
    constructor
    · rintro ⟨v, hv, ws, hws, rfl⟩
      exact ⟨v, ws, hv, hws, rfl⟩
    · rintro ⟨v, ws, hv, hws, rfl⟩
      exact ⟨v, hv, ws, hws, rfl⟩

theorem entries?_cons_eq_some_iff {key : Option String} {entries : List (Option String × Draft)}
    {vs : List (String × Json)} :
    entries? depth ((key, d) :: entries) = some vs ↔
      ∃ k v ws, key = some k ∧ d.value? depth = some v ∧ entries? depth entries = some ws ∧
        vs = (k, v) :: ws := by
  simp only [entries?, Option.bind_eq_bind, Option.bind_eq_some_iff, Option.pure_def,
    Option.some.injEq]
  constructor
  · rintro ⟨k, rfl, v, hv, ws, hws, rfl⟩
    exact ⟨k, v, ws, rfl, hv, hws, rfl⟩
  · rintro ⟨k, v, ws, rfl, hv, hws, rfl⟩
    exact ⟨k, rfl, v, hv, ws, hws, rfl⟩

end Values

end Draft

namespace Inventory

open Draft (Records HoldsResources NoList)

/-! ## Records -/

section Steps

variable {d : Draft} {variant : Variant Resource}

theorem wrongType_ne_ok {α : Type} {expected : String} {a : α} : wrongType d expected ≠ .ok a := by
  unfold wrongType
  split <;> simp

theorem readField_eq_ok_iff {v : Json} : readField d = .ok v ↔ d.value? fieldDepth = some v := by
  unfold readField
  split <;> simp_all

theorem readItems_eq_ok_iff {items : List Draft} {vs : List Json} :
    readItems items = .ok vs ↔ Draft.values? fieldDepth items = some vs := by
  induction items generalizing vs with
  | nil =>
    simp [readItems, Draft.values?]
  | cons d items ih =>
    simp only [readItems, bind_eq_ok_iff, readField_eq_ok_iff, ih, pure, Except.pure,
      Except.ok.injEq, Draft.values?, Option.bind_eq_bind, Option.bind_eq_some_iff,
      Option.some.injEq]

/-- The class is read from a draft as it would be from its value. -/
theorem readClass_eq_ok_iff :
    readClass d = .ok variant ↔
      ∃ v, d.value? fieldDepth = some v ∧ readName Resource.variants .direct v = .ok variant := by
  simp only [readName_eq_ok_iff]
  constructor
  · intro h
    unfold readClass at h
    split at h
    · next s =>
      obtain ⟨name, hname, hvariant⟩ := readName_eq_ok_iff.1 (mapError_eq_ok_iff.1 h)
      exact ⟨.string s, rfl, name, hname, hvariant⟩
    · exact absurd h wrongType_ne_ok
  · rintro ⟨v, hv, name, rfl, hvariant⟩
    rw [Draft.value?_eq_string_iff] at hv
    rw [hv]
    exact mapError_eq_ok_iff.2 (readName_eq_ok_iff.2 ⟨name, rfl, hvariant⟩)

theorem readEntries_cons_of_ne {tag : Option (Variant Resource)} {key : String}
    {entries : List (Option String × Draft)} (hkey : key ≠ Resource.classKey) :
    readEntries tag ((some key, d) :: entries) =
      (readField d >>= fun v => readEntries tag entries >>= fun (variant, rest) =>
        .ok (variant, (key, v) :: rest)) := by
  cases tag <;> simp only [readEntries, hkey, if_false] <;> rfl

/-- The entries of a record are read as they would be from their values. -/
theorem readEntries_eq_ok_iff {tag : Option (Variant Resource)}
    {entries : List (Option String × Draft)} {rest : List (String × Json)} :
    readEntries tag entries = .ok (variant, rest) ↔
      ∃ vs, Draft.entries? fieldDepth entries = some vs ∧
        readTag Resource.classKey Resource.variants .direct tag vs = .ok variant ∧
        rest = vs.filter (fun e => e.1 ≠ Resource.classKey) := by
  induction entries generalizing tag variant rest with
  | nil =>
    cases tag <;> simp [readEntries, Draft.entries?, readTag, eq_comm]
  | cons e entries ih =>
    obtain ⟨key, d⟩ := e
    cases key with
    | none =>
      simp [readEntries, Draft.entries?]
    | some key =>
      by_cases hkey : key = Resource.classKey
      · -- the class is taken from the entry, unless it is known already
        cases tag with
        | some x =>
          simp [readEntries, readTag, hkey, Draft.entries?_cons_eq_some_iff]
        | none =>
          simp only [readEntries, hkey, if_true, bind_eq_ok_iff, readClass_eq_ok_iff, ih,
            Draft.entries?_cons_eq_some_iff, Option.some.injEq]
          constructor
          · rintro ⟨x, ⟨v, hv, hname⟩, ws, hws, htag, hrest⟩
            refine ⟨_, ⟨_, v, ws, rfl, hv, hws, rfl⟩, ?_, ?_⟩
            · simpa [readTag, bind_eq_ok_iff] using ⟨x, hname, htag⟩
            · simpa using hrest
          · rintro ⟨_, ⟨_, v, ws, rfl, hv, hws, rfl⟩, htag, hrest⟩
            rw [readTag, if_pos rfl] at htag
            obtain ⟨x, hname, htag⟩ := bind_eq_ok_iff.1 htag
            exact ⟨x, ⟨v, hv, hname⟩, ws, hws, htag, by simpa using hrest⟩
      · -- any other entry is kept for later
        simp only [readEntries_cons_of_ne hkey, bind_eq_ok_iff, readField_eq_ok_iff, Prod.exists,
          ih, Draft.entries?_cons_eq_some_iff, Option.some.injEq]
        constructor
        · rintro ⟨v, hv, x, rest', ⟨ws, hws, htag, rfl⟩, heq⟩
          cases heq
          refine ⟨_, ⟨_, v, ws, rfl, hv, hws, rfl⟩, ?_, ?_⟩
          · rwa [readTag_cons_of_ne hkey]
          · simp [hkey]
        · rintro ⟨_, ⟨_, v, ws, rfl, hv, hws, rfl⟩, htag, rfl⟩
          rw [readTag_cons_of_ne hkey] at htag
          refine ⟨v, hv, variant, _, ⟨ws, hws, htag, rfl⟩, ?_⟩
          simp [hkey]

/-- A record is read from a draft as it would be from its value. -/
theorem readResource_eq_ok_iff {r : Resource} : readResource d = .ok r ↔ d.Records r := by
  simp only [Records, ← Resource.reader_eq_ok_iff]
  have hdepth : Draft.depthLimit - 2 = fieldDepth + 1 := rfl
  cases d with
  | object entries =>
    simp only [readResource, bind_eq_ok_iff, Prod.exists, readEntries_eq_ok_iff, mapError_eq_ok_iff,
      hdepth, Draft.value?, Option.map_eq_some_iff]
    constructor
    · rintro ⟨variant, rest, ⟨vs, hvs, htag, rfl⟩, hread⟩
      exact ⟨_, ⟨vs, hvs, rfl⟩, bind_eq_ok_iff.2 ⟨variant, htag, hread⟩⟩
    · rintro ⟨_, ⟨vs, hvs, rfl⟩, hreader⟩
      obtain ⟨variant, htag, hread⟩ := bind_eq_ok_iff.1 hreader
      exact ⟨variant, _, ⟨vs, hvs, htag, rfl⟩, hread⟩
  | array items =>
    cases items with
    | nil =>
      simp [readResource, hdepth, Draft.value?, Draft.values?, Resource.reader, readTagged]
    | cons tag items =>
      simp only [readResource, bind_eq_ok_iff, readClass_eq_ok_iff, readItems_eq_ok_iff,
        mapError_eq_ok_iff, hdepth, Draft.value?, Draft.values?, Option.map_eq_some_iff,
        Option.bind_eq_bind, Option.bind_eq_some_iff, Option.pure_def, Option.some.injEq]
      constructor
      · rintro ⟨variant, ⟨v, hv, hname⟩, vs, hvs, hread⟩
        exact ⟨_, ⟨_, ⟨v, hv, vs, hvs, rfl⟩, rfl⟩, bind_eq_ok_iff.2 ⟨variant, hname, hread⟩⟩
      · rintro ⟨_, ⟨_, ⟨v, hv, vs, hvs, rfl⟩, rfl⟩, hreader⟩
        obtain ⟨variant, hname, hread⟩ := bind_eq_ok_iff.1 hreader
        exact ⟨variant, ⟨v, hv, hname⟩, vs, hvs, hread⟩
  | null | bool | number | string =>
    constructor
    · intro h
      simp only [readResource] at h
      exact absurd h wrongType_ne_ok
    · rintro ⟨v, hv, hreader⟩
      rw [hdepth] at hv
      cases v with
      | object =>
        obtain ⟨_, hd, -⟩ := Draft.value?_eq_object_iff.1 hv
        cases hd
      | array =>
        obtain ⟨_, hd, -⟩ := Draft.value?_eq_array_iff.1 hv
        cases hd
      | null | bool | integer | real | string =>
        cases hreader

/-! ## Lists and files -/

theorem readResources_eq_ok_iff {items : List Draft} {fleet : List Resource} :
    readResources items = .ok fleet ↔ List.Forall₂ Records items fleet := by
  induction items generalizing fleet with
  | nil =>
    simp [readResources, eq_comm]
  | cons d items ih =>
    simp only [readResources, bind_eq_ok_iff, readResource_eq_ok_iff, ih, pure, Except.pure,
      Except.ok.injEq, List.forall₂_cons_left_iff]
    constructor
    · rintro ⟨r, hr, rs, hrs, rfl⟩
      exact ⟨r, rs, hr, hrs, rfl⟩
    · rintro ⟨r, rs, hr, hrs, rfl⟩
      exact ⟨r, hr, rs, hrs, rfl⟩

theorem exists_forall₂_records_iff {items : List Draft} :
    (∃ fleet, List.Forall₂ Records items fleet) ↔ ∀ item ∈ items, ∃ r, item.Records r := by
  induction items with
  | nil =>
    simp
  | cons d items ih =>
    simp only [List.forall₂_cons_left_iff, List.forall_mem_cons, ← ih]
    constructor
    · rintro ⟨_, r, fleet, hr, hfleet, rfl⟩
      exact ⟨⟨r, hr⟩, fleet, hfleet⟩
    · rintro ⟨⟨r, hr⟩, fleet, hfleet⟩
      exact ⟨_, r, fleet, hr, hfleet, rfl⟩

theorem readFleet_eq_ok_iff {fleet : List Resource} :
    readFleet d = .ok fleet ↔ ∃ items, d = .array items ∧ List.Forall₂ Records items fleet := by
  cases d with
  | array items =>
    simp [readFleet, readResources_eq_ok_iff]
  | null | bool | number | string | object =>
    simp [readFleet, wrongType_ne_ok]

theorem noList_cons {key : Option String} {entries : List (Option String × Draft)} :
    NoList ((key, d) :: entries) ↔ (∃ k, key = some k ∧ k ≠ "resources") ∧ NoList entries :=
  List.forall_mem_cons

/-- Other entries are passed over, whatever they hold. -/
theorem readFile_append {before entries : List (Option String × Draft)} (hbefore : NoList before)
    (fleet : Option (List Resource)) :
    readFile fleet (before ++ entries) = readFile fleet entries := by
  induction before with
  | nil =>
    rfl
  | cons e before ih =>
    obtain ⟨key, d⟩ := e
    obtain ⟨⟨k, rfl, hkey⟩, hrest⟩ := noList_cons.1 hbefore
    rw [List.cons_append, ← ih hrest]
    cases fleet <;> simp [readFile, fleetKey, hkey]

/-- Once the list is read, no other list may follow. -/
theorem readFile_some_eq_ok_iff {entries : List (Option String × Draft)}
    {fleet fleet' : List Resource} :
    readFile (some fleet) entries = .ok fleet' ↔ NoList entries ∧ fleet = fleet' := by
  induction entries with
  | nil =>
    simp [readFile, NoList]
  | cons e entries ih =>
    obtain ⟨key, d⟩ := e
    rw [noList_cons]
    cases key with
    | none =>
      simp [readFile]
    | some key =>
      by_cases hkey : key = "resources" <;> simp [readFile, fleetKey, hkey, ih]

theorem readFile_list_eq_ok_iff {entries : List (Option String × Draft)} {fleet : List Resource} :
    readFile none ((some "resources", d) :: entries) = .ok fleet ↔
      NoList entries ∧ ∃ items, d = .array items ∧ List.Forall₂ Records items fleet := by
  have hread : readFile none ((some "resources", d) :: entries) =
      (readFleet d >>= fun rs => readFile (some rs) entries) := by
    simp only [readFile, fleetKey, if_true]
  rw [hread, bind_eq_ok_iff]
  constructor
  · rintro ⟨rs, hrs, hfile⟩
    obtain ⟨hrest, rfl⟩ := readFile_some_eq_ok_iff.1 hfile
    exact ⟨hrest, readFleet_eq_ok_iff.1 hrs⟩
  · rintro ⟨hrest, hlist⟩
    exact ⟨fleet, readFleet_eq_ok_iff.2 hlist, readFile_some_eq_ok_iff.2 ⟨hrest, rfl⟩⟩

theorem exists_holdsResources_of_readFile {entries : List (Option String × Draft)}
    {fleet : List Resource} (h : readFile none entries = .ok fleet) :
    ∃ items, (Draft.object entries).HoldsResources items ∧ List.Forall₂ Records items fleet := by
  induction entries with
  | nil =>
    cases h
    exact ⟨[], .absent (by simp [NoList]), .nil⟩
  | cons e entries ih =>
    obtain ⟨key, d⟩ := e
    cases key with
    | none =>
      cases h
    | some key =>
      -- the first entry is the list, or stands before it
      by_cases hkey : key = "resources"
      · subst hkey
        obtain ⟨hrest, items, rfl, hitems⟩ := readFile_list_eq_ok_iff.1 h
        exact ⟨items, @HoldsResources.entry [] entries items (by simp [NoList]) hrest, hitems⟩
      · have hfirst : NoList [(some key, d)] := noList_cons.2 ⟨⟨key, rfl, hkey⟩, by simp [NoList]⟩
        obtain ⟨items, hholds, hitems⟩ := ih ((readFile_append hfirst none).symm.trans h)
        refine ⟨items, ?_, hitems⟩
        cases hholds with
        | absent hnone =>
          exact .absent (noList_cons.2 ⟨⟨key, rfl, hkey⟩, hnone⟩)
        | @entry before after _ hbefore hafter =>
          exact @HoldsResources.entry ((some key, d) :: before) after items
            (noList_cons.2 ⟨⟨key, rfl, hkey⟩, hbefore⟩) hafter

/-- A draft lists what its list holds. -/
theorem ofDraft_eq_ok_iff {fleet : List Resource} :
    ofDraft d = .ok fleet ↔ ∃ items, d.HoldsResources items ∧ List.Forall₂ Records items fleet := by
  constructor
  · intro h
    cases d with
    | object entries =>
      exact exists_holdsResources_of_readFile h
    | array items =>
      cases items with
      | nil =>
        cases h
        exact ⟨[], .nothing, .nil⟩
      | cons first items =>
        obtain ⟨rs, hrs, hrest⟩ := bind_eq_ok_iff.1 h
        obtain ⟨list, rfl, hitems⟩ := readFleet_eq_ok_iff.1 hrs
        cases items with
        | nil =>
          cases hrest
          exact ⟨list, .item, hitems⟩
        | cons second items =>
          cases hrest
    | null | bool | number | string =>
      simp only [ofDraft] at h
      exact absurd h wrongType_ne_ok
  · rintro ⟨items, hholds, hitems⟩
    cases hholds with
    | @absent entries hnone =>
      cases hitems
      have hread : readFile none (entries ++ []) = .ok [] := readFile_append hnone none
      rwa [List.append_nil] at hread
    | entry hbefore hafter =>
      have hread := readFile_list_eq_ok_iff.2 ⟨hafter, items, rfl, hitems⟩
      exact (readFile_append hbefore none).trans hread
    | nothing =>
      cases hitems
      rfl
    | item =>
      exact bind_eq_ok_iff.2 ⟨fleet, readFleet_eq_ok_iff.2 ⟨items, rfl, hitems⟩, rfl⟩

end Steps

theorem ofText_eq_ok_iff {text : String} {fleet : List Resource} :
    ofText text = .ok fleet ↔
      ∃ (d : Draft) (items : List Draft), d.Laid text.toList ∧ d.HoldsResources items ∧
        List.Forall₂ Records items fleet := by
  have hofDraft : ∀ d, ofDraft d = .ok fleet ↔
      ∃ items, d.HoldsResources items ∧ List.Forall₂ Records items fleet :=
    fun _ => ofDraft_eq_ok_iff
  simp only [exists_and_left, ← hofDraft, ← Draft.ofText?_eq_some_iff]
  unfold ofText
  split
  · next hnone =>
    simp [hnone]
  · next d hd =>
    simp only [hd, Option.some.injEq, exists_eq_left']
    split <;> simp_all

/-- The value that lists a fleet: an object with the written form of each resource. -/
def toJson (fleet : List Resource) : Json :=
  .object [("resources", .array (fleet.map Resource.toJson))]

theorem fitsIn_toJson (fleet : List Resource) : (toJson fleet).fitsIn Draft.depthLimit = true := by
  refine Json.fitsIn_object (List.forall_mem_singleton.2 (Json.fitsIn_array ?_))
  exact List.forall_mem_map.2 (fun r _ => r.fitsIn_toJson 123)

/-- A written form of a resource is one of its records, and the list of a fleet holds such forms. -/
theorem exists_records_of_writtenOf {v : Json} {fleet : List Resource}
    (readable : ∀ r ∈ fleet, r.Readable) (h : Json.WrittenOf toJson fleet v) :
    ∃ vs, v = .object [("resources", .array vs)] ∧ List.Forall₂ Resource.RecordedBy vs fleet := by
  have hrecorded : ∀ {r w}, r.Readable → Json.WrittenOf Resource.toJson r w →
      Resource.RecordedBy w r := by
    intro r w hr hw
    exact Resource.reader_eq_ok_iff.1
      (Resource.orderFree_reader.read_writtenOf (Resource.reader_toJson hr .direct) hw)
  have hitems : ∀ {vs}, Json.ReorderedItems (fleet.map Resource.toJson) vs →
      List.Forall₂ Resource.RecordedBy vs fleet := by
    clear h
    induction fleet with
    | nil =>
      rintro _ ⟨⟩
      exact .nil
    | cons r fleet ih =>
      obtain ⟨hr, hfleet⟩ := List.forall_mem_cons.1 readable
      rintro _ ⟨⟩
      next hw hrest => exact .cons (hrecorded hr (.reordered hw)) (ih hfleet hrest)
  cases h with
  | inOrder =>
    refine ⟨_, rfl, List.forall₂_map_left_iff.2 (List.forall₂_same.2 ?_)⟩
    exact fun r hr => hrecorded (readable r hr) .inOrder
  | reordered h =>
    -- the list has the only key, so nothing but the records can be reordered
    cases h with
    | object _ hchanged hperm =>
      obtain - | ⟨_, hlist, hrest⟩ := hchanged
      cases hrest
      cases hlist with
      | array hvs =>
        exact ⟨_, congrArg Json.object (List.singleton_perm.1 hperm).symm, hitems hvs⟩

/-- Items with the values of records are records. -/
theorem forall₂_records {items : List Draft} {vs : List Json} {fleet : List Resource}
    (hitems : List.Forall₂ (fun d v => d.value? (Draft.depthLimit - 2) = some v) items vs)
    (hvs : List.Forall₂ Resource.RecordedBy vs fleet) : List.Forall₂ Records items fleet := by
  induction hitems generalizing fleet with
  | nil =>
    cases hvs
    exact .nil
  | cons hd _ ih =>
    cases hvs with
    | cons hv hrest =>
      exact .cons ⟨_, hd, hv⟩ (ih hrest)

/-- What is scanned of a value that lists a fleet lists it. -/
theorem holdsResources_of_value? {d : Draft} {v : Json} {fleet : List Resource}
    (readable : ∀ r ∈ fleet, r.Readable) (hv : Json.WrittenOf toJson fleet v)
    (h : d.value? Draft.depthLimit = some v) :
    ∃ items, d.HoldsResources items ∧ List.Forall₂ Records items fleet := by
  obtain ⟨vs, rfl, hvs⟩ := exists_records_of_writtenOf readable hv
  obtain ⟨entries, rfl, hentries⟩ := Draft.value?_eq_object_iff.1 h
  obtain - | ⟨⟨key, d⟩, entries⟩ := entries
  · cases hentries
  obtain ⟨k, v, ws, rfl, hvalue, hrest, heq⟩ := Draft.entries?_cons_eq_some_iff.1 hentries
  cases heq
  obtain - | ⟨⟨key, d'⟩, entries⟩ := entries
  · obtain ⟨items, rfl, hitems⟩ := Draft.value?_eq_array_iff.1 hvalue
    refine ⟨items, @HoldsResources.entry [] [] items (by simp [NoList]) (by simp [NoList]), ?_⟩
    exact forall₂_records (Draft.values?_eq_some_iff.1 hitems) hvs
  · obtain ⟨k, v, ws, -, -, -, heq⟩ := Draft.entries?_cons_eq_some_iff.1 hrest
    cases heq

theorem load_eq_ok_iff {files : FileSystem} {path : String} {fleet : List Resource} :
    load files path = .ok fleet ↔
      ∃ text, files path = .ok text.toUTF8 ∧ ofText text = .ok fleet := by
  simp only [← FileSystem.text_eq_ok_iff]
  unfold load
  cases files.text path <;> simp

/-- The instants of resources that are listed can be read again. -/
theorem readable_of_forall₂_records {items : List Draft} {fleet : List Resource}
    (h : List.Forall₂ Records items fleet) : ∀ r ∈ fleet, r.Readable := by
  induction h with
  | nil =>
    simp
  | cons hrecord _ ih =>
    obtain ⟨v, -, hv⟩ := hrecord
    have hr := Resource.readable_of_reader (Resource.reader_eq_ok_iff.2 hv)
    exact List.forall_mem_cons.2 ⟨hr, ih⟩

/-- A file lists a fleet exactly if it is a JSON text in UTF-8 that holds a list of records, one for
each resource and in that order; if an item of the list is no record, or the file is something else,
there is an error and no resource.  Instants that are listed can be read again.  Every text of the
written form of a fleet whose instants can be read lists that fleet, in whatever order tags and
other keys were written, and the texts on one line and over several lines are such texts. -/
theorem load_lists (files : FileSystem) (path : String) :
    (∀ fleet, load files path = .ok fleet ↔
      ∃ (text : String) (d : Draft) (items : List Draft), files path = .ok text.toUTF8 ∧
        d.Laid text.toList ∧ d.HoldsResources items ∧ List.Forall₂ Records items fleet) ∧
    ((∃ fleet, load files path = .ok fleet) ↔ files.HasInventory path) ∧
    ((∃ e, load files path = .error e) ↔ ¬ files.HasInventory path) ∧
    (∀ fleet, load files path = .ok fleet → ∀ r ∈ fleet, r.Readable) ∧
    (∀ (fleet : List Resource) (v : Json) (text : String), (∀ r ∈ fleet, r.Readable) →
      Json.WrittenOf toJson fleet v → files path = .ok text.toUTF8 → v.HasText text →
        load files path = .ok fleet) ∧
    ∀ fleet v, Json.WrittenOf toJson fleet v → v.HasText v.compact ∧ v.HasText v.pretty := by
  have hload : ∀ fleet, load files path = .ok fleet ↔
      ∃ (text : String) (d : Draft) (items : List Draft), files path = .ok text.toUTF8 ∧
        d.Laid text.toList ∧ d.HoldsResources items ∧ List.Forall₂ Records items fleet := by
    intro fleet
    simp only [load_eq_ok_iff, ofText_eq_ok_iff, exists_and_left]
  have hsuccess : (∃ fleet, load files path = .ok fleet) ↔ files.HasInventory path := by
    simp only [hload, FileSystem.HasInventory, ← exists_forall₂_records_iff]
    constructor
    · rintro ⟨fleet, text, d, items, hfile, hlaid, hholds, hitems⟩
      exact ⟨text, d, items, hfile, hlaid, hholds, fleet, hitems⟩
    · rintro ⟨text, d, items, hfile, hlaid, hholds, fleet, hitems⟩
      exact ⟨fleet, text, d, items, hfile, hlaid, hholds, hitems⟩
  refine ⟨hload, hsuccess, ?_, ?_, ?_, ?_⟩
  · rw [← hsuccess]
    cases load files path <;> simp
  · intro fleet h
    obtain ⟨-, -, items, -, -, -, hitems⟩ := (hload fleet).1 h
    exact readable_of_forall₂_records hitems
  · intro fleet v text readable hv hfile htext
    obtain ⟨d, hlaid, hvalue⟩ := htext
    obtain ⟨items, hholds, hitems⟩ := holdsResources_of_value? readable hv hvalue
    exact (hload fleet).2 ⟨text, d, items, hfile, hlaid, hholds, hitems⟩
  · intro fleet v hv
    have hfits := hv.fitsIn (fitsIn_toJson fleet)
    exact ⟨Json.hasText_compact hfits, Json.hasText_pretty hfits⟩

/-- A machine with a quotation mark in its id and a tabulator in its name is listed by a file of
several lines. -/
theorem load_lists_pretty :
    let fleet := [Resource.compute ⟨"i-\"1\"", "running", none, Tags.ofList [("Name", "a\tb")]⟩]
    let text := "\x7b\n  \"resources\": [\n    \x7b\n      \"class\": \"instance\",\n" ++
      "      \"instance_id\": \"i-\\\"1\\\"\",\n      \"state\": \"running\",\n" ++
      "      \"launch_time\": null,\n      \"tags\": \x7b\n        \"Name\": \"a\\tb\"\n" ++
      "      \x7d\n    \x7d\n  ]\n\x7d"
    let files : FileSystem := fun _ => .ok text.toUTF8
    (toJson fleet).HasText text ∧ load files "fleet.json" = .ok fleet := by
  intro fleet text files
  have htext : (toJson fleet).pretty = text := by
    decide +kernel
  have readable : ∀ r ∈ fleet, r.Readable := by
    simp [fleet, Resource.Readable, Resource.launchedAt]
  obtain ⟨-, -, -, -, hload, htexts⟩ := load_lists files "fleet.json"
  have hpretty := (htexts fleet _ .inOrder).2
  rw [htext] at hpretty
  exact ⟨hpretty, hload fleet _ text readable .inOrder rfl hpretty⟩

end Inventory
end FleetLifecycle
