import FleetLifecycle.Proofs.ExecutionSettings
import FleetLifecycle.Proofs.Independence
import FleetLifecycle.Proofs.InventoryListing
import FleetLifecycle.Proofs.Payloads

/-!
# Reordered inventories — files that differ in the order of keys give the same outputs

The class of a resource may stand behind its fields, tags come in any order, and what is passed over
may be anything.  None of this shows in what a cycle asks for, nor in what is written of it.
Concretely, we:

1. say when the drafts of two texts differ in nothing but the order of keys (`Draft.Reordered`), and
   follow this to values, records and lists (`Draft.HoldsResources.reordered`);
2. show that keys in canonical order are the same whatever order they came in
   (`Json.Reordered.canonical_eq`), hence also the details in a notification
   (`Resource.details_eq_of_reordered`);
3. say when two reports agree but for the id of their cycles (`Report.AgreesWith`), and conclude
   with `Inventory.load_reordered`.
-/

namespace FleetLifecycle

namespace Draft

/-! ## Reordered drafts -/

mutual

/-- The drafts differ in nothing but the order of keys, and no object has a key twice. -/
inductive Reordered : Draft → Draft → Prop where
  | null : Reordered .null .null
  | bool (b : Bool) : Reordered (.bool b) (.bool b)
  | number (lit : NumberLiteral) : Reordered (.number lit) (.number lit)
  | string (s : Option String) : Reordered (.string s) (.string s)
  | array {items items' : List Draft} :
      ReorderedItems items items' → Reordered (.array items) (.array items')
  -- keys with a lone surrogate are no strings, so nothing is known of whether they are distinct
  | object {entries changed entries' : List (Option String × Draft)} :
      (entries.filterMap (·.1)).Nodup → ReorderedEntries entries changed →
        changed.Perm entries' → Reordered (.object entries) (.object entries')

inductive ReorderedItems : List Draft → List Draft → Prop where
  | nil : ReorderedItems [] []
  | cons {d d' : Draft} {items items' : List Draft} :
      Reordered d d' → ReorderedItems items items' → ReorderedItems (d :: items) (d' :: items')

/-- The drafts of the entries are reordered, each under its key. -/
inductive ReorderedEntries :
    List (Option String × Draft) → List (Option String × Draft) → Prop where
  | nil : ReorderedEntries [] []
  | cons {d d' : Draft} {entries entries' : List (Option String × Draft)} (key : Option String) :
      Reordered d d' → ReorderedEntries entries entries' →
        ReorderedEntries ((key, d) :: entries) ((key, d') :: entries')

end

variable {d d' : Draft} {items items' : List Draft}
  {entries entries' before after : List (Option String × Draft)} {depth : Nat}

/-! ## Values -/

theorem ReorderedEntries.keys_eq (h : ReorderedEntries entries entries') :
    entries.map (·.1) = entries'.map (·.1) := by
  induction entries generalizing entries' with
  | nil =>
    cases h
    rfl
  | cons e entries ih =>
    cases h with
    | cons key _ hentries =>
      exact congrArg (key :: ·) (ih hentries)

theorem entries?_eq_some_iff {vs : List (String × Json)} :
    entries? depth entries = some vs ↔
      List.Forall₂ (fun e v => e.1 = some v.1 ∧ e.2.value? depth = some v.2) entries vs := by
  induction entries generalizing vs with
  | nil =>
    simp [entries?, eq_comm]
  | cons e entries ih =>
    obtain ⟨key, d⟩ := e
    simp only [entries?_cons_eq_some_iff, ih, List.forall₂_cons_left_iff]
    constructor
    · rintro ⟨k, v, ws, hkey, hv, hws, rfl⟩
      exact ⟨(k, v), ws, ⟨hkey, hv⟩, hws, rfl⟩
    · rintro ⟨⟨k, v⟩, ws, ⟨hkey, hv⟩, hws, rfl⟩
      exact ⟨k, v, ws, hkey, hv, hws, rfl⟩

/-- An object with a value has strings as its keys. -/
theorem keys_of_entries? {vs : List (String × Json)} (h : entries? depth entries = some vs) :
    entries.filterMap (·.1) = vs.map (·.1) := by
  rw [entries?_eq_some_iff] at h
  induction h with
  | nil =>
    rfl
  | cons hfirst _ ih =>
    rw [List.filterMap_cons_some hfirst.1, ih, List.map_cons]

/-- The value of a number has no keys. -/
theorem reordered_of_toJson? {lit : NumberLiteral} {v : Json} (h : lit.toJson? = some v) :
    v.Reordered v := by
  cases v with
  | integer n =>
    exact .integer n
  | real shown =>
    exact .real shown
  | null | bool | string | array | object =>
    exact absurd h (toJson?_ne (by simp) (by simp))

mutual

/-- A reordered draft has a value if the draft has one, and the value is reordered. -/
theorem Reordered.exists_value? : {d d' : Draft} → d.Reordered d' → {depth : Nat} → {v : Json} →
    d.value? depth = some v → ∃ v', d'.value? depth = some v' ∧ v.Reordered v'
  | _, _, .null, _, v, h => by
    obtain rfl : Json.null = v := Option.some.inj h
    exact ⟨_, rfl, .null⟩
  | _, _, .bool b, _, v, h => by
    obtain rfl : Json.bool b = v := Option.some.inj h
    exact ⟨_, rfl, .bool b⟩
  | _, _, .number lit, _, v, h => ⟨v, h, reordered_of_toJson? h⟩
  | _, _, .string s, _, v, h => by
    obtain ⟨t, rfl, rfl⟩ := Option.map_eq_some_iff.1 h
    exact ⟨_, rfl, .string t⟩
  | _, _, .array hitems, 0, _, h => nomatch h
  | _, _, .array hitems, depth + 1, _, h => by
    obtain ⟨vs, hvs, rfl⟩ := Option.map_eq_some_iff.1 h
    obtain ⟨vs', hvs', hreordered⟩ := hitems.exists_values? hvs
    exact ⟨_, Option.map_eq_some_iff.2 ⟨vs', hvs', rfl⟩, .array hreordered⟩
  | _, _, .object _ _ _, 0, _, h => nomatch h
  | _, _, .object hkeys hchanged hperm, depth + 1, _, h => by
    obtain ⟨vs, hvs, rfl⟩ := Option.map_eq_some_iff.1 h
    rw [keys_of_entries? hvs] at hkeys
    obtain ⟨ws, hws, hreordered⟩ := hchanged.exists_entries? hvs
    -- where the entries change places, their values do so too
    obtain ⟨ws', hws', hplaces⟩ := List.perm_comp_forall₂ hperm.symm (entries?_eq_some_iff.1 hws)
    exact ⟨_, Option.map_eq_some_iff.2 ⟨ws', entries?_eq_some_iff.2 hws', rfl⟩,
      .object hkeys hreordered hplaces.symm⟩

theorem ReorderedItems.exists_values? : {items items' : List Draft} →
    ReorderedItems items items' → {depth : Nat} → {vs : List Json} →
    values? depth items = some vs →
      ∃ vs', values? depth items' = some vs' ∧ Json.ReorderedItems vs vs'
  | _, _, .nil, _, vs, h => by
    obtain rfl : [] = vs := Option.some.inj h
    exact ⟨_, rfl, .nil⟩
  | _, _, .cons hd hitems, _, _, h => by
    rw [values?_eq_some_iff, List.forall₂_cons_left_iff] at h
    obtain ⟨v, vs, hv, hvs, rfl⟩ := h
    obtain ⟨v', hv', hfirst⟩ := hd.exists_value? hv
    obtain ⟨vs', hvs', hrest⟩ := hitems.exists_values? (values?_eq_some_iff.2 hvs)
    exact ⟨v' :: vs', values?_eq_some_iff.2 (.cons hv' (values?_eq_some_iff.1 hvs')),
      .cons hfirst hrest⟩

theorem ReorderedEntries.exists_entries? : {entries entries' : List (Option String × Draft)} →
    ReorderedEntries entries entries' → {depth : Nat} → {vs : List (String × Json)} →
    entries? depth entries = some vs →
      ∃ vs', entries? depth entries' = some vs' ∧ Json.ReorderedEntries vs vs'
  | _, _, .nil, _, vs, h => by
    obtain rfl : [] = vs := Option.some.inj h
    exact ⟨_, rfl, .nil⟩
  | _, _, .cons key hd hentries, _, _, h => by
    obtain ⟨k, v, vs, rfl, hv, hvs, rfl⟩ := entries?_cons_eq_some_iff.1 h
    obtain ⟨v', hv', hfirst⟩ := hd.exists_value? hv
    obtain ⟨vs', hvs', hrest⟩ := hentries.exists_entries? hvs
    exact ⟨(k, v') :: vs', entries?_cons_eq_some_iff.2 ⟨k, v', vs', rfl, hv', hvs', rfl⟩,
      .cons k hfirst hrest⟩

end

/-! ## Records and lists -/

theorem Records.reordered {r : Resource} (h : d.Records r) (hd : d.Reordered d') :
    d'.Records r := by
  obtain ⟨v, hv, hrecorded⟩ := h
  obtain ⟨v', hv', hreordered⟩ := hd.exists_value? hv
  -- a resource is read from its records, whatever the order of keys
  have hread := Resource.orderFree_reader hreordered (Resource.reader_eq_ok_iff.2 hrecorded)
  exact ⟨v', hv', Resource.reader_eq_ok_iff.1 hread⟩

theorem ReorderedItems.forall₂_records {fleet : List Resource} (h : ReorderedItems items items')
    (hrecords : List.Forall₂ Records items fleet) : List.Forall₂ Records items' fleet := by
  induction hrecords generalizing items' with
  | nil =>
    cases h
    exact .nil
  | cons hr _ ih =>
    cases h with
    | cons hd hitems =>
      exact .cons (hr.reordered hd) (ih hitems)

theorem noList_iff_keys :
    NoList entries ↔
      ∀ k ∈ entries.map (·.1), ∃ key, k = some key ∧ key ≠ "resources" := by
  rw [NoList, List.forall_mem_map]

theorem NoList.reordered (h : NoList entries) (hentries : ReorderedEntries entries entries') :
    NoList entries' := by
  rwa [noList_iff_keys, ← hentries.keys_eq, ← noList_iff_keys]

theorem NoList.perm (h : NoList entries) (hperm : entries.Perm entries') : NoList entries' :=
  fun e he => h e (hperm.mem_iff.2 he)

theorem noList_append : NoList (before ++ after) ↔ NoList before ∧ NoList after :=
  List.forall_mem_append

/-- Whatever places entries change, one of them stands among the others. -/
theorem exists_place {e : Option String × Draft} (hperm : (before ++ e :: after).Perm entries) :
    ∃ front back, entries = front ++ e :: back ∧ (before ++ after).Perm (front ++ back) := by
  obtain ⟨front, back, rfl⟩ := List.append_of_mem (hperm.mem_iff.1 List.mem_append_cons_self)
  have hmoved := List.perm_middle.symm.trans (hperm.trans List.perm_middle)
  exact ⟨front, back, rfl, hmoved.cons_inv⟩

theorem ReorderedEntries.exists_parts {key : Option String}
    (h : ReorderedEntries (before ++ (key, d) :: after) entries') :
    ∃ before' d' after', entries' = before' ++ (key, d') :: after' ∧
      ReorderedEntries before before' ∧ d.Reordered d' ∧ ReorderedEntries after after' := by
  induction before generalizing entries' with
  | nil =>
    cases h with
    | cons _ hd hafter =>
      exact ⟨[], _, _, rfl, .nil, hd, hafter⟩
  | cons e before ih =>
    cases h with
    | cons k hfirst hrest =>
      obtain ⟨before', d', after', rfl, hbefore, hd, hafter⟩ := ih hrest
      exact ⟨_, d', after', rfl, .cons k hfirst hbefore, hd, hafter⟩

/-- The list may stand elsewhere among the other entries, with its items reordered. -/
theorem HoldsResources.reordered (h : d.HoldsResources items) (hd : d.Reordered d') :
    ∃ items', d'.HoldsResources items' ∧ ReorderedItems items items' := by
  cases h with
  | absent hnone =>
    cases hd with
    | object _ hchanged hperm =>
      exact ⟨[], .absent ((hnone.reordered hchanged).perm hperm), .nil⟩
  | entry hbefore hafter =>
    cases hd with
    | object _ hchanged hperm =>
      obtain ⟨before', d', after', rfl, hbefore', hlist, hafter'⟩ := hchanged.exists_parts
      obtain @⟨⟩ | @⟨⟩ | @⟨⟩ | @⟨⟩ | @⟨_, items', hitems⟩ := hlist
      obtain ⟨front, back, rfl, hothers⟩ := exists_place hperm
      have hnone : NoList (before' ++ after') :=
        noList_append.2 ⟨hbefore.reordered hbefore', hafter.reordered hafter'⟩
      obtain ⟨hfront, hback⟩ := noList_append.1 (hnone.perm hothers)
      exact ⟨items', .entry hfront hback, hitems⟩
  | nothing =>
    cases hd with
    | array hitems =>
      cases hitems
      exact ⟨[], .nothing, .nil⟩
  | item =>
    cases hd with
    | array hitems =>
      obtain - | ⟨hlist, hrest⟩ := hitems
      cases hrest
      cases hlist with
      | array hitems =>
        exact ⟨_, .item, hitems⟩

end Draft

/-! ## Canonical order -/

namespace Json

theorem canonicalEntries_eq_map (entries : List (String × Json)) :
    canonicalEntries entries = entries.map (fun e => (e.1, e.2.canonical)) := by
  induction entries with
  | nil =>
    rfl
  | cons e entries ih =>
    rw [canonicalEntries, ih, List.map_cons]

mutual

/-- In canonical order, the keys come in one order whatever order they had. -/
theorem Reordered.canonical_eq : {v w : Json} → v.Reordered w → v.canonical = w.canonical
  | _, _, .null | _, _, .bool _ | _, _, .integer _ | _, _, .real _ | _, _, .string _ => rfl
  | _, _, .array hitems => by
    rw [canonical, canonical, hitems.canonicalItems_eq]
  | _, _, @Reordered.object _ changed _ hkeys hchanged hperm => by
    -- the keys of the canonical entries are those of the entries, so they are distinct too
    have hnodup : ((canonicalEntries changed).map (·.1)).Nodup := by
      rw [canonicalEntries_eq_map, List.map_map]
      exact hchanged.keys_eq ▸ hkeys
    have hplaces := hperm.map (fun e => (e.1, e.2.canonical))
    rw [← canonicalEntries_eq_map, ← canonicalEntries_eq_map] at hplaces
    rw [canonical, canonical, hchanged.canonicalEntries_eq, Entries.sort_perm hnodup hplaces]

theorem ReorderedItems.canonicalItems_eq : {items items' : List Json} →
    ReorderedItems items items' → canonicalItems items = canonicalItems items'
  | _, _, .nil => rfl
  | _, _, .cons hv hitems => by
    rw [canonicalItems, canonicalItems, hv.canonical_eq, hitems.canonicalItems_eq]

theorem ReorderedEntries.canonicalEntries_eq : {entries entries' : List (String × Json)} →
    ReorderedEntries entries entries' → canonicalEntries entries = canonicalEntries entries'
  | _, _, .nil => rfl
  | _, _, .cons _ hv hentries => by
    rw [canonicalEntries, canonicalEntries, hv.canonical_eq, hentries.canonicalEntries_eq]

end

end Json

/-- The details of a resource are the same whatever order its fields and tags are taken in. -/
theorem Resource.details_eq_of_reordered {r : Resource} {w : Json}
    (h : (Json.object r.fields).Reordered w) : r.details = w.canonical.pretty := by
  rw [details, describe, h.canonical_eq]

/-! ## Reports -/

/-- The objects are the same but for the entry under the key, which is `x` in the one and `y` in the
other. -/
def Json.DifferUnder (key : String) (x y v w : Json) : Prop :=
  ∃ before after, v = .object (before ++ (key, x) :: after) ∧
    w = .object (before ++ (key, y) :: after) ∧ ∀ e ∈ before ++ after, e.1 ≠ key

/-- Records of a request in two cycles differ in the id of the cycle. -/
theorem ActionRequest.differUnder_record (r : ActionRequest) (id : CycleId) (op : String)
    (dryRun : Bool) (email : Option EmailMessage) :
    Json.DifferUnder "cycle_id" r.cycleId.toJson id.toJson (r.record op dryRun email)
      ((r.inCycle id).record op dryRun email) := by
  refine ⟨[("op", .string op), ("dry_run", .bool dryRun)], _, rfl, rfl, ?_⟩
  cases r.snapshotId <;> cases email <;> simp [Json.entryOf]

/-- The reports are the same but for the ids of their cycles.  The requests carry the same
notifications, and the lines written of them differ in the id alone. -/
structure Report.SameButForId (a b : Report) : Prop where
  evaluatedAt : a.evaluatedAt = b.evaluatedAt
  untagged : a.untagged = b.untagged
  requests : b.requests = a.requests.map (·.inCycle b.cycleId)
  emails : a.requests.map (·.email) = b.requests.map (·.email)
  lines : ∀ dryRun,
    let written := fun report : Report =>
      ((Journal.executor dryRun).dispatchList report.requests (.empty none)).2.bytes
    ∃ records records', written a = Journal.lines records ∧ written b = Journal.lines records' ∧
      List.Forall₂ (Json.DifferUnder "cycle_id" a.cycleId.toJson b.cycleId.toJson) records records'

namespace Settings

/-- All requests of a cycle carry its id. -/
theorem cycleId_of_mem_requests {s : Settings} {id : CycleId} {fleet : List Resource} {t : Instant}
    {req : ActionRequest} (h : req ∈ (s.evaluateFleet id fleet t).requests) : req.cycleId = id := by
  obtain ⟨r, -, hreq⟩ := List.mem_filterMap.1 h
  exact (asks_of_evaluate hreq).cycleId

theorem sameButForId_evaluateFleet (s : Settings) (id id' : CycleId) (fleet : List Resource)
    (t : Instant) :
    (s.evaluateFleet id fleet t).SameButForId (s.evaluateFleet id' fleet t) := by
  have hrequests := requests_inCycle s id id' fleet t
  constructor
  case requests =>
    exact hrequests
  case emails =>
    rw [hrequests, List.map_map]
    rfl
  case lines =>
    intro dryRun written
    let records := fun requests : List ActionRequest => (requests.filter (·.isEffective)).map
      (fun r => r.record r.action.name dryRun r.notification)
    have hwritten : ∀ report : Report,
        written report = Journal.lines (records report.requests) := by
      intro report
      have hrun := Journal.dispatchList_unlimited dryRun report.requests []
      simp only [written, records, Journal.empty, hrun, List.nil_append, Journal.stream_eq_lines]
    refine ⟨_, _, hwritten _, hwritten _, ?_⟩
    rw [hrequests]
    simp only [records, List.filter_map, List.map_map]
    rw [List.forall₂_map_left_iff, List.forall₂_map_right_iff]
    refine List.forall₂_same.2 (fun req hreq => ?_)
    have hid := cycleId_of_mem_requests (List.mem_of_mem_filter hreq)
    have hdiffer := req.differUnder_record id' req.action.name dryRun req.notification
    rwa [hid] at hdiffer
  all_goals rfl

end Settings

namespace Inventory

variable {files files' : FileSystem} {path path' text text' : String} {d d' : Draft}
  {fleet : List Resource}

/-- What a file lists can be told from the draft of its text. -/
theorem load_eq_ok_iff_of_laid (file : files path = .ok text.toUTF8) (laid : d.Laid text.toList) :
    load files path = .ok fleet ↔
      ∃ items, d.HoldsResources items ∧ List.Forall₂ Draft.Records items fleet := by
  rw [load_eq_ok_iff]
  constructor
  · rintro ⟨text₀, hfile, hread⟩
    obtain ⟨d₀, items, hlaid, hitems⟩ := ofText_eq_ok_iff.1 hread
    -- a file has one text, and a text one draft
    have htext := (FileSystem.text_eq_ok_iff.2 hfile).symm.trans (FileSystem.text_eq_ok_iff.2 file)
    cases htext
    have hdraft :=
      (Draft.ofText?_eq_some_iff.2 hlaid).symm.trans (Draft.ofText?_eq_some_iff.2 laid)
    cases hdraft
    exact ⟨items, hitems⟩
  · rintro ⟨items, hholds, hitems⟩
    exact ⟨text, file, ofText_eq_ok_iff.2 ⟨d, items, laid, hholds, hitems⟩⟩

/-- A file that lists a fleet lists the same fleet with its keys in any other order: with the class
of a resource behind its fields, and with its tags as they come.  So whatever the settings and the
instant are, the reports are the same but for the ids of their cycles, and the body of each
notification ends with the details of its resource in the one order, whatever order its fields and
tags are taken in. -/
theorem load_reordered (file : files path = .ok text.toUTF8) (laid : d.Laid text.toList)
    (file' : files' path' = .ok text'.toUTF8) (laid' : d'.Laid text'.toList)
    (reordered : d.Reordered d') (listed : load files path = .ok fleet) :
    ∃ fleet', load files' path' = .ok fleet' ∧ fleet' = fleet ∧
      ∀ (s : Settings) (t : Instant) (id id' : CycleId),
        (s.evaluateFleet id fleet t).SameButForId (s.evaluateFleet id' fleet' t) ∧
          ∀ r ∈ fleet', ∀ req m, s.evaluate r (s.beginCycle id' t) = some req →
            req.email = some m → ∀ w, (Json.object r.fields).Reordered w →
              ∃ tag, r.tags.get? s.policyTag = some tag ∧
                m.body = EmailMessage.header r (Policy.parse tag) ++ w.canonical.pretty := by
  obtain ⟨items, hholds, hrecords⟩ := (load_eq_ok_iff_of_laid file laid).1 listed
  obtain ⟨items', hholds', hitems⟩ := hholds.reordered reordered
  have hlisted' := (load_eq_ok_iff_of_laid file' laid').2
    ⟨items', hholds', hitems.forall₂_records hrecords⟩
  refine ⟨fleet, hlisted', rfl, fun s t id id' => ⟨s.sameButForId_evaluateFleet id id' fleet t, ?_⟩⟩
  intro r _ req m hreq hemail w hw
  obtain ⟨tag, htag, rfl⟩ := Settings.exists_tag_of_evaluate hreq
  obtain ⟨recipient, -, rfl⟩ := Settings.email_request_eq_some_iff.1 hemail
  refine ⟨tag, htag, ?_⟩
  rw [EmailMessage.compose, Resource.details_eq_of_reordered hw]

/-- The class of a machine may stand behind its fields, and its tags the other way round. -/
theorem load_reordered_machine :
    let file := fun fields => Json.object [("resources", .array [.object fields])]
    let known := fun tags => [("instance_id", Json.string "i-build"), ("state", .string "running"),
      ("tags", .object tags)]
    let tag := ("class", Json.string "instance")
    let name := ("Name", Json.string "Build")
    let policy := ("lifecycle-policy", Json.string "limit-email:1/ops@example.com")
    let v := file (tag :: known [name, policy])
    let w := file (known [policy, name] ++ [tag])
    let fleet := [Resource.compute ⟨"i-build", "running", none,
      Tags.ofList [("lifecycle-policy", "limit-email:1/ops@example.com"), ("Name", "Build")]⟩]
    let files : Json → FileSystem := fun file _ => .ok file.compact.toUTF8
    v.draft.Reordered w.draft ∧ load (files v) "fleet.json" = .ok fleet ∧
      load (files w) "fleet.json" = .ok fleet := by
  intro file known tag name policy v w fleet files
  have htags : (Json.object [name, policy]).draft.Reordered (Json.object [policy, name]).draft :=
    .object (by decide) (.cons _ (.string _) (.cons _ (.string _) .nil)) (.swap _ _ _)
  have hfields : (Json.object (tag :: known [name, policy])).draft.Reordered
      (Json.object (known [policy, name] ++ [tag])).draft :=
    .object (by decide) (.cons _ (.string _) (.cons _ (.string _) (.cons _ (.string _)
      (.cons _ htags .nil)))) (List.perm_append_singleton _ _).symm
  have hfile : v.draft.Reordered w.draft :=
    .object (by decide) (.cons _ (.array (.cons hfields .nil)) .nil) (.refl _)
  have hlisted : load (files v) "fleet.json" = .ok fleet :=
    eq_ok_of_toOption (by decide +kernel)
  have hother : files w "fleet.json" = .ok w.compact.toUTF8 := rfl
  obtain ⟨_, hlisted', rfl, -⟩ :=
    load_reordered rfl (Json.laid_compact rfl) hother (Json.laid_compact rfl) hfile hlisted
  exact ⟨hfile, hlisted, hlisted'⟩

end Inventory
end FleetLifecycle
