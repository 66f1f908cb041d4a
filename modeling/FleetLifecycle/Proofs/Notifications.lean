import FleetLifecycle.Proofs.RecordLines
import FleetLifecycle.Proofs.ReorderedInventories

/-!
# Notifications — what the body of a message tells about a resource

The body of a notification names a resource and ends with its description.  Nothing that is known of
the resource is missing there: with its class put back among the fields, the description is read as
the resource again.  Concretely, we:

1. say when a text comes before another one byte by byte (`Text.BytesBefore`), and show that UTF-8
   keeps the order of texts (`Text.bytesBefore_of_lt`);
2. show that keys in canonical order ascend in all objects of a value (`Json.keysAscend_canonical`),
   and that distinct keys only change places for it (`Json.Reordered.canonical_right`);
3. show that a description is read as the one resource it is of, if the instant of the resource can
   be read at all (`Resource.reader_describe`, `Resource.eq_of_details_eq`);
4. conclude with `EmailMessage.body_tells_resource`.
-/

namespace FleetLifecycle

/-! ## Byte order -/

namespace Text

/-- The one text comes before the other when they are compared byte by byte. -/
def BytesBefore (a b : String) : Prop :=
  a.toUTF8.toList < b.toUTF8.toList

/-- In UTF-8 a lower character has lower bytes, whatever follows the two. -/
theorem utf8EncodeChar_append_lt {c d : Char} (h : c < d) (bytes bytes' : List UInt8) :
    String.utf8EncodeChar c ++ bytes < String.utf8EncodeChar d ++ bytes' := by
  have hlt : c.val.toNat < d.val.toNat := UInt32.lt_iff_toNat_lt.1 (Char.lt_def.1 h)
  have hbound : d.val.toNat < 0x110000 := by
    rcases d.valid with hlow | hhigh
    · omega
    · exact hhigh.2
  simp only [String.utf8EncodeChar]
  generalize c.val.toNat = m at hlt ⊢
  generalize d.val.toNat = n at hlt hbound ⊢
  -- of two encodings the longer one begins with a higher byte; equally long ones are compared
  -- from the highest bits on
  repeat' split
  all_goals
    simp only [List.cons_append, List.nil_append, List.cons_lt_cons_iff, UInt8.lt_iff_toNat_lt,
      ← UInt8.toNat_inj, UInt8.toNat_ofNat']
    simp (disch := omega) only [Nat.mod_eq_of_lt]
  all_goals
    omega

theorem flatMap_utf8EncodeChar_lt {cs ds : List Char} (h : cs < ds) :
    cs.flatMap String.utf8EncodeChar < ds.flatMap String.utf8EncodeChar := by
  change List.Lex (· < ·) cs ds at h
  induction h with
  | @nil d ds =>
    obtain ⟨b, bytes, hd⟩ := List.exists_cons_of_ne_nil (String.utf8EncodeChar_ne_nil (c := d))
    rw [List.flatMap_nil, List.flatMap_cons, hd, List.cons_append]
    exact List.nil_lt_cons _ _
  | cons _ ih =>
    rw [List.flatMap_cons, List.flatMap_cons]
    exact List.append_left_lt ih
  | rel hlt =>
    rw [List.flatMap_cons, List.flatMap_cons]
    exact utf8EncodeChar_append_lt hlt _ _

/-- Texts in ascending order are in this order byte by byte too. -/
theorem bytesBefore_of_lt {a b : String} (h : a < b) : BytesBefore a b := by
  rw [BytesBefore, toList_toUTF8, toList_toUTF8]
  exact flatMap_utf8EncodeChar_lt (String.lt_iff.1 h)

end Text

/-! ## Ascending keys -/

namespace Json

/-- In every object of the value, the keys ascend byte by byte. -/
inductive KeysAscend : Json → Prop where
  | null : KeysAscend .null
  | bool (b : Bool) : KeysAscend (.bool b)
  | integer (n : Int) : KeysAscend (.integer n)
  | real (shown : String) : KeysAscend (.real shown)
  | string (s : String) : KeysAscend (.string s)
  | array {items : List Json} : (∀ v ∈ items, KeysAscend v) → KeysAscend (.array items)
  | object {entries : List (String × Json)} :
      entries.Pairwise (fun a b => Text.BytesBefore a.1 b.1) → (∀ e ∈ entries, KeysAscend e.2) →
        KeysAscend (.object entries)

mutual

theorem keysAscend_canonical : (v : Json) → v.canonical.KeysAscend
  | .null => .null
  | .bool b => .bool b
  | .integer n => .integer n
  | .real shown => .real shown
  | .string s => .string s
  | .array items => .array (keysAscend_of_mem_canonicalItems items)
  | .object entries =>
    .object ((Entries.pairwise_sort _).imp Text.bytesBefore_of_lt)
      (fun e he => keysAscend_of_mem_canonicalEntries entries e (Entries.mem_of_mem_sort he))

theorem keysAscend_of_mem_canonicalItems : (items : List Json) →
    ∀ v ∈ canonicalItems items, v.KeysAscend
  | [] => fun _ hv => absurd hv List.not_mem_nil
  | v :: items =>
    List.forall_mem_cons.2 ⟨keysAscend_canonical v, keysAscend_of_mem_canonicalItems items⟩

theorem keysAscend_of_mem_canonicalEntries : (entries : List (String × Json)) →
    ∀ e ∈ canonicalEntries entries, e.2.KeysAscend
  | [] => fun _ he => absurd he List.not_mem_nil
  | (_, v) :: entries =>
    List.forall_mem_cons.2 ⟨keysAscend_canonical v, keysAscend_of_mem_canonicalEntries entries⟩

end

mutual

/-- Where keys are distinct, canonical order is one of the orders that they can be put in. -/
theorem Reordered.canonical_right : {v w : Json} → v.Reordered w → v.Reordered w.canonical
  | _, _, .null => .null
  | _, _, .bool b => .bool b
  | _, _, .integer n => .integer n
  | _, _, .real shown => .real shown
  | _, _, .string s => .string s
  | _, _, .array hitems => .array hitems.canonicalItems_right
  | _, _, @Reordered.object entries changed entries' hkeys hchanged hperm => by
    have hentries := hchanged.canonicalEntries_right
    have hplaces : (canonicalEntries changed).Perm (canonicalEntries entries') := by
      rw [canonicalEntries_eq_map, canonicalEntries_eq_map]
      exact hperm.map _
    have hkeys' : ((canonicalEntries entries').map (·.1)).Nodup :=
      (hplaces.map _).nodup_iff.1 (hentries.keys_eq ▸ hkeys)
    exact .object hkeys hentries (hplaces.trans (Entries.perm_sort hkeys'))

theorem ReorderedItems.canonicalItems_right : {items items' : List Json} →
    ReorderedItems items items' → ReorderedItems items (canonicalItems items')
  | _, _, .nil => .nil
  | _, _, .cons hv hitems => .cons hv.canonical_right hitems.canonicalItems_right

theorem ReorderedEntries.canonicalEntries_right : {entries entries' : List (String × Json)} →
    ReorderedEntries entries entries' → ReorderedEntries entries (canonicalEntries entries')
  | _, _, .nil => .nil
  | _, _, .cons key hv hentries => .cons key hv.canonical_right hentries.canonicalEntries_right

end

variable {entries before after : List (String × Json)} {key : String} {x : Json}

theorem reorderedEntries_refl (h : ∀ e ∈ entries, e.2.Reordered e.2) :
    ReorderedEntries entries entries := by
  induction entries with
  | nil =>
    exact .nil
  | cons e entries ih =>
    obtain ⟨hfirst, hrest⟩ := List.forall_mem_cons.1 h
    exact .cons e.1 hfirst (ih hrest)

/-- An object is a reordering of itself if its keys are distinct, and those within it. -/
theorem reordered_object (hkeys : (entries.map (·.1)).Nodup)
    (h : ∀ e ∈ entries, e.2.Reordered e.2) : Reordered (.object entries) (.object entries) :=
  .object hkeys (reorderedEntries_refl h) (.refl _)

theorem reordered_ofOption {α : Type} {write : α → Json} (h : ∀ a, (write a).Reordered (write a))
    (a : Option α) : (ofOption write a).Reordered (ofOption write a) := by
  cases a with
  | none =>
    exact .null
  | some a =>
    exact h a

/-- An entry under a new key may be put anywhere among the entries of a reordered object. -/
theorem Reordered.put_entry (h : Reordered (.object entries) (.object (before ++ after)))
    (hkey : key ∉ entries.map (·.1)) (hx : x.Reordered x) :
    Reordered (.object ((key, x) :: entries)) (.object (before ++ (key, x) :: after)) := by
  cases h with
  | object hkeys hchanged hperm =>
    exact .object (List.nodup_cons.2 ⟨hkey, hkeys⟩) (.cons key hx hchanged)
      ((hperm.cons _).trans List.perm_middle.symm)

end Json

/-! ## Descriptions -/

theorem Tags.reordered_toJson (tags : Tags) : tags.toJson.Reordered tags.toJson := by
  refine Json.reordered_object ?_ (List.forall_mem_map.2 (fun e _ => .string e.2))
  rw [List.map_map]
  exact tags.nodup_names

namespace Resource

open Json (reordered_object reordered_ofOption)

variable {r r' : Resource} {before after : List (String × Json)}

/-- The keys of a resource's fields are distinct, and so are those of its tags. -/
theorem reordered_fields (r : Resource) : (Json.object r.fields).Reordered (.object r.fields) := by
  cases r with
  | compute m =>
    refine reordered_object (by simp [fields, ComputeInstance.fields]) ?_
    simp only [fields, ComputeInstance.fields, List.forall_mem_cons, List.not_mem_nil,
      false_implies, implies_true, and_true]
    exact ⟨.string _, .string _, reordered_ofOption (fun _ => .string _) _,
      m.tags.reordered_toJson⟩
  | database d =>
    refine reordered_object (by simp [fields, DatabaseInstance.fields]) ?_
    simp only [fields, DatabaseInstance.fields, List.forall_mem_cons, List.not_mem_nil,
      false_implies, implies_true, and_true]
    exact ⟨.string _, reordered_ofOption (fun _ => .string _) _, .string _,
      reordered_ofOption (fun _ => .string _) _, d.tags.reordered_toJson⟩

theorem reordered_describe (r : Resource) : (Json.object r.fields).Reordered r.describe :=
  r.reordered_fields.canonical_right

theorem classKey_notMem_fields (r : Resource) : classKey ∉ r.fields.map (·.1) := by
  cases r <;> simp [classKey, fields, ComputeInstance.fields, DatabaseInstance.fields]

/-- A description is read as the resource it is of, wherever the class is put among its fields. -/
theorem reader_describe (readable : r.Readable) (h : r.describe = .object (before ++ after))
    (origin : Origin) :
    reader origin (.object (before ++ (classKey, .string r.resourceClass.token) :: after)) =
      .ok r :=
  orderFree_reader ((h ▸ r.reordered_describe).put_entry r.classKey_notMem_fields (.string _))
    (reader_toJson readable origin)

/-- Resources of the two classes have different numbers of fields, so a description tells of which
class its resource is. -/
theorem resourceClass_eq_of_describe_eq (h : r.describe = r'.describe) :
    r.resourceClass = r'.resourceClass := by
  obtain ⟨entries, hr, -, -, hkeys, -⟩ := r.reordered_describe.exists_object
  obtain ⟨entries', hr', -, -, hkeys', -⟩ := r'.reordered_describe.exists_object
  obtain rfl : entries = entries' := Json.object.inj (hr.symm.trans (h.trans hr'))
  have hsame := (hkeys.trans hkeys'.symm).length_eq
  cases r <;> cases r' <;>
    simp [fields, ComputeInstance.fields, DatabaseInstance.fields, resourceClass] at hsame ⊢

/-- Resources with one description are the same. -/
theorem eq_of_describe_eq (readable : r.Readable) (readable' : r'.Readable)
    (h : r.describe = r'.describe) : r = r' := by
  have hr : r.describe = .object ([] ++ Entries.sort (Json.canonicalEntries r.fields)) := rfl
  have hread := reader_describe readable hr .direct
  rw [resourceClass_eq_of_describe_eq h] at hread
  exact Except.ok.inj (hread.symm.trans (reader_describe readable' (h ▸ hr) .direct))

theorem parse?_details (r : Resource) : Json.parse? r.details = some r.describe := by
  refine Json.parse?_pretty ?_
  rw [← r.reordered_describe.fitsIn_eq]
  exact r.fitsIn_fields 125

theorem eq_of_details_eq (readable : r.Readable) (readable' : r'.Readable)
    (h : r.details = r'.details) : r = r' := by
  have hparse := r.parse?_details
  rw [h, r'.parse?_details] at hparse
  exact eq_of_describe_eq readable readable' (Option.some.inj hparse).symm

end Resource

/-! ## Bodies -/

namespace EmailMessage

/-- The body of a notification names its resource, with the class and the text of the policy, which
has no blanks around it, and ends with a JSON text.  All of a resource whose instant can be read is
in this text: its keys ascend in every object, and with the class put anywhere among the fields it
is read as the resource again.  So different resources that are named alike never have the same
body. -/
theorem body_tells_resource (sender recipient : String) (r : Resource) (readable : r.Readable)
    (p : Policy) :
    (∃ details entries,
      (compose sender recipient r p).body =
        "Notification from automanage\n\nresource id: " ++ r.id ++
          "\nresource name: " ++ r.displayName ++
          "\nclass: " ++ r.resourceClass.token ++
          "\nlifecycle-policy: " ++ p.raw ++ "\n\n\n" ++ details ∧
      Json.parse? details = some (.object entries) ∧
      (Json.object entries).KeysAscend ∧
      ∀ before after, before ++ after = entries → ∀ origin,
        Resource.reader origin
          (.object (before ++ (Resource.classKey, .string r.resourceClass.token) :: after)) =
            .ok r) ∧
    (∀ tag, p = Policy.parse tag → Text.TrimsTo tag.toList p.raw.toList) ∧
    ∀ sender' recipient' r' p', r'.Readable → header r' p' = header r p → r' ≠ r →
      (compose sender' recipient' r' p').body ≠ (compose sender recipient r p).body := by
  refine ⟨⟨r.details, _, rfl, r.parse?_details, Json.keysAscend_canonical (.object r.fields), ?_⟩,
    ?_, ?_⟩
  · intro before after hentries origin
    exact Resource.reader_describe readable (congrArg Json.object hentries.symm) origin
  · rintro tag rfl
    exact Text.trimsTo_trim tag
  · intro sender' recipient' r' p' readable' hheader hne hbody
    rw [compose, compose, hheader, String.append_right_inj] at hbody
    exact hne (Resource.eq_of_details_eq readable' readable hbody)

/-- Two machines with the same name, one running and one stopped.  Their tags hold a quotation mark
and a line break, and a name that is no ASCII text. -/
theorem body_tells_resource_states :
    let tag := " limit-email:1/ops@example.com\n"
    let p := Policy.parse tag
    let machine : String → Resource := fun state =>
      .compute ⟨"i-build", state, none, Tags.ofList [("é", "\"\n"), ("Name", "Build")]⟩
    let message := fun state => compose "automanage@localhost" "ops@example.com" (machine state) p
    (∃ details entries,
      (message "running").body =
        "Notification from automanage\n\nresource id: i-build\nresource name: Build\n" ++
          "class: instance\nlifecycle-policy: limit-email:1/ops@example.com\n\n\n" ++ details ∧
      Json.parse? details = some (.object entries) ∧
      Resource.reader .direct (.object (entries ++ [("class", .string "instance")])) =
        .ok (machine "running")) ∧
    Text.TrimsTo tag.toList p.raw.toList ∧ (machine "running").Readable ∧
    (message "stopped").body ≠ (message "running").body := by
  intro tag p machine message
  have readable : ∀ state, (machine state).Readable := by
    simp [machine, Resource.Readable, Resource.launchedAt]
  obtain ⟨⟨details, entries, hbody, hparse, -, hread⟩, htag, hother⟩ :=
    body_tells_resource "automanage@localhost" "ops@example.com" _ (readable "running") p
  have hstate : machine "stopped" ≠ machine "running" := by
    simp [machine]
  have hheader : header (machine "running") p =
      "Notification from automanage\n\nresource id: i-build\nresource name: Build\n" ++
        "class: instance\nlifecycle-policy: limit-email:1/ops@example.com\n\n\n" := by
    decide +kernel
  exact ⟨⟨details, entries, hbody.trans (congrArg (· ++ details) hheader), hparse,
    hread entries [] (List.append_nil _) .direct⟩, htag tag rfl, readable "running",
    hother _ _ (machine "stopped") p (readable "stopped") rfl hstate⟩

end EmailMessage
end FleetLifecycle
