import FleetLifecycle.Json.Reader
import FleetLifecycle.Proofs.Results
import Mathlib.Data.List.Count
import Mathlib.Data.List.Nodup

/-!
# Record reading — from which values a record is read

A record is read from an object with its fields in any order, or from an array of its fields in
declared order.  A form goes through the value first, then looks the fields up; here the two come
together.  Concretely, we:

1. say which values stand in a JSON value under the names of fields (`Json.Parts`), and how a value
   names its variant (`Json.Tagged`);
2. say which forms check nothing but what they use (`Shape.Lawful`), and show that all forms are
   such that are put together from fields;
3. conclude with `Shape.Lawful.read_eq_ok_iff` and `readTagged_eq_ok_iff`.
-/

namespace FleetLifecycle

namespace Json

/-- The values under the names: those of an object, in which none of the names is repeated, or those
of an array, which are given in order. -/
inductive Parts (names : List String) : Json → (String → Option Json) → Prop where
  | object {entries : List (String × Json)} :
      (∀ name ∈ names, (entries.map (·.1)).count name ≤ 1) →
        Parts names (.object entries) (fun name => Entries.find? name entries)
  | array {items : List Json} :
      items.length ≤ names.length →
        Parts names (.array items) (fun name => Entries.find? name (names.zip items))

/-- The value names a variant, in the only entry under the key or in the first item, and has the
rest as its content. -/
inductive Tagged (key : String) : Json → String → Json → Prop where
  | object {entries : List (String × Json)} {name : String} :
      (entries.map (·.1)).count key ≤ 1 → Entries.find? key entries = some (.string name) →
        Tagged key (.object entries) name (.object (entries.filter (fun e => e.1 ≠ key)))
  | array {name : String} {items : List Json} :
      Tagged key (.array (.string name :: items)) name (.array items)

end Json

namespace Entries

variable {α : Type} {entries : List (String × α)} {e : String × α} {name : String} {a : α}

/-- An entry is found under its name if no other entry has the name. -/
theorem find?_of_count_le_one (hcount : (entries.map (·.1)).count e.1 ≤ 1) (h : e ∈ entries) :
    find? e.1 entries = some e.2 := by
  induction entries with
  | nil =>
    exact absurd h List.not_mem_nil
  | cons first rest ih =>
    rw [List.map_cons, List.count_cons] at hcount
    rcases List.mem_cons.1 h with rfl | hmem
    · simp [find?]
    · have hpos : 0 < (rest.map (·.1)).count e.1 :=
        List.count_pos_iff.2 (List.mem_map_of_mem hmem)
      by_cases hname : first.1 = e.1
      · simp only [hname, beq_self_eq_true, if_true] at hcount
        omega
      · have hle : (rest.map (·.1)).count e.1 ≤ 1 := by omega
        simp [find?, hname, ih hle hmem]

theorem find?_of_mem (hnodup : (entries.map (·.1)).Nodup) (h : e ∈ entries) :
    find? e.1 entries = some e.2 :=
  find?_of_count_le_one (List.nodup_iff_count_le_one.1 hnodup e.1) h

theorem mem_of_find? (h : find? name entries = some a) : (name, a) ∈ entries := by
  induction entries with
  | nil =>
    cases h
  | cons first rest ih =>
    by_cases hname : first.1 = name
    · simp only [find?, hname, if_true, Option.some.injEq] at h
      exact List.mem_cons.2 (.inl (by rw [← hname, ← h]))
    · simp only [find?, hname, if_false] at h
      exact List.mem_cons_of_mem _ (ih h)

theorem find?_eq_none_iff : find? name entries = none ↔ name ∉ entries.map (·.1) := by
  induction entries with
  | nil =>
    simp [find?]
  | cons first rest ih =>
    by_cases hname : first.1 = name
    · simp [find?, hname]
    · have hname' : ¬ name = first.1 := fun heq => hname heq.symm
      simp only [find?, hname, if_false, ih, List.map_cons, List.mem_cons, hname', false_or]

theorem find?_append {more : List (String × α)} :
    find? name (entries ++ more) = (find? name entries).or (find? name more) := by
  induction entries with
  | nil =>
    rfl
  | cons first rest ih =>
    by_cases hname : first.1 = name <;> simp [find?, hname, ih]

/-- The order of entries does not matter if their names are distinct. -/
theorem find?_perm {entries' : List (String × α)} (hnodup : (entries.map (·.1)).Nodup)
    (h : entries.Perm entries') : find? name entries = find? name entries' := by
  have hnodup' : (entries'.map (·.1)).Nodup := (h.map _).nodup_iff.1 hnodup
  cases hfind : find? name entries with
  | none =>
    rw [eq_comm, find?_eq_none_iff, ← (h.map _).mem_iff]
    exact find?_eq_none_iff.1 hfind
  | some a =>
    have hmem : (name, a) ∈ entries' := h.mem_iff.1 (mem_of_find? hfind)
    exact (find?_of_mem hnodup' hmem).symm

/-- Of several entries under one name, the last is sorted in. -/
theorem find?_sort (name : String) (entries : List (String × α)) :
    find? name (sort entries) = find? name entries.reverse := by
  -- whatever was sorted in before gives way
  have hfold : ∀ sorted : List (String × α),
      find? name (entries.foldl (fun sorted e => insert e.1 e.2 sorted) sorted) =
        (find? name entries.reverse).or (find? name sorted) := by
    induction entries with
    | nil =>
      intro sorted
      rfl
    | cons e entries ih =>
      intro sorted
      rw [List.foldl_cons, ih, find?_insert, List.reverse_cons, find?_append, Option.or_assoc]
      by_cases hname : e.1 = name <;> simp [find?, hname]
  rw [sort, hfold, find?, Option.or_none]

/-- Entries with distinct names are found where they were sorted in. -/
theorem find?_sort_of_nodup (hnodup : (entries.map (·.1)).Nodup) :
    find? name (sort entries) = find? name entries := by
  rw [find?_sort]
  exact (find?_perm hnodup entries.reverse_perm.symm).symm

/-- Entries with distinct names are sorted in one way, whatever order they come in. -/
theorem sort_perm {entries' : List (String × α)} (hnodup : (entries.map (·.1)).Nodup)
    (h : entries.Perm entries') : sort entries = sort entries' := by
  have hnodup' : (entries'.map (·.1)).Nodup := (h.map _).nodup_iff.1 hnodup
  refine eq_of_find?_eq (pairwise_sort _) (pairwise_sort _) (fun name => ?_)
  rw [find?_sort_of_nodup hnodup, find?_sort_of_nodup hnodup', find?_perm hnodup h]

theorem nodup_of_ascending (h : entries.Pairwise (fun a b => a.1 < b.1)) :
    (entries.map (·.1)).Nodup :=
  List.pairwise_map.2 (h.imp (fun hlt => String.ne_of_lt hlt))

theorem nodup_sort : ((sort entries).map (·.1)).Nodup :=
  nodup_of_ascending (pairwise_sort entries)

/-- Nothing is sorted in that was not there. -/
theorem mem_of_mem_sort (h : e ∈ sort entries) : e ∈ entries := by
  have hfind := find?_of_mem nodup_sort h
  rw [find?_sort] at hfind
  exact List.mem_reverse.1 (mem_of_find? hfind)

/-- Entries with distinct names only change places where they are sorted. -/
theorem perm_sort (hnodup : (entries.map (·.1)).Nodup) : entries.Perm (sort entries) := by
  rw [List.perm_ext_iff_of_nodup hnodup.of_map nodup_sort.of_map]
  refine fun e => ⟨fun hmem => ?_, mem_of_mem_sort⟩
  have hfind := find?_of_mem hnodup hmem
  rw [← find?_sort_of_nodup hnodup] at hfind
  exact mem_of_find? hfind

end Entries

namespace Shape

variable {α β : Type} {origin : Origin}

/-! ## Forms -/

/-- The form checks nothing but what it uses: every value that goes into a record fits, and an array
may end before a field that is not there. -/
structure Lawful (shape : Shape α) : Prop where
  -- going through a value finds nothing wrong that building from it does not find
  checks : ∀ {origin get a}, shape.build origin get = .ok a →
    ∀ s ∈ shape.slots, ∀ v, get s.name = some v → s.check origin v = .ok ()
  omits : ∀ {origin get a}, shape.build origin get = .ok a →
    ∀ s ∈ shape.slots, get s.name = none → s.mayOmit = true

theorem lawful_done (a : α) : (done a).Lawful := by
  constructor <;> simp [done]

theorem Lawful.andThen {f : Shape (α → β)} {x : Shape α} (hf : f.Lawful) (hx : x.Lawful) :
    (f.andThen x).Lawful := by
  constructor
  case checks =>
    intro origin get b h s hs
    obtain ⟨g, hg, hrest⟩ := bind_eq_ok_iff.1 h
    obtain ⟨a, ha, -⟩ := bind_eq_ok_iff.1 hrest
    rcases List.mem_append.1 hs with hs | hs
    · exact hf.checks hg s hs
    · exact hx.checks ha s hs
  case omits =>
    intro origin get b h s hs
    obtain ⟨g, hg, hrest⟩ := bind_eq_ok_iff.1 h
    obtain ⟨a, ha, -⟩ := bind_eq_ok_iff.1 hrest
    rcases List.mem_append.1 hs with hs | hs
    · exact hf.omits hg s hs
    · exact hx.omits ha s hs

/-- A field is a lawful form if an array may leave it out as an object may. -/
theorem lawful_slot (name : String) (read : Reader α) {absent : Option α} {mayOmit : Bool}
    (homit : absent ≠ none → mayOmit = true) : (slot name read absent mayOmit).Lawful := by
  constructor
  case checks =>
    intro origin get a h s hs v hv
    obtain rfl : s = _ := List.mem_singleton.1 hs
    simp only [slot, hv] at h ⊢
    exact map_eq_ok_iff.2 ⟨a, h, rfl⟩
  case omits =>
    intro origin get a h s hs hnone
    obtain rfl : s = _ := List.mem_singleton.1 hs
    simp only [slot, hnone] at h ⊢
    apply homit
    rintro rfl
    cases h

theorem lawful_required (name : String) (read : Reader α) : (required name read).Lawful :=
  lawful_slot name read (fun h => absurd rfl h)

theorem lawful_defaulted (name : String) (read : Reader α) (a : α) :
    (defaulted name read a).Lawful :=
  lawful_slot name read (fun _ => rfl)

/-! ## Building -/

section Building

variable {get : String → Option Json} {name : String} {read : Reader α} {a : α}

theorem build_andThen_eq_ok_iff {f : Shape (α → β)} {x : Shape α} {b : β} :
    (f.andThen x).build origin get = .ok b ↔
      ∃ g, f.build origin get = .ok g ∧ ∃ a, x.build origin get = .ok a ∧ g a = b := by
  simp only [andThen, bind_eq_ok_iff, pure, Except.pure, Except.ok.injEq]

theorem build_required_eq_ok_iff :
    (required name read).build origin get = .ok a ↔
      ∃ v, get name = some v ∧ read origin v = .ok a := by
  cases hget : get name <;> simp [required, slot, hget]

theorem build_defaulted_eq_ok_iff {default : α} :
    (defaulted name read default).build origin get = .ok a ↔
      (get name = none ∧ default = a) ∨ ∃ v, get name = some v ∧ read origin v = .ok a := by
  cases hget : get name <;> simp [defaulted, slot, hget]

end Building

/-! ## Objects -/

/-- A name does not stand among keys twice, or once more after it was seen. -/
def Unrepeated (name : String) (seen keys : List String) : Prop :=
  keys.count name ≤ 1 ∧ (name ∈ seen → name ∉ keys)

theorem unrepeated_cons_of_ne {name key : String} {seen keys : List String} (h : name ≠ key) :
    Unrepeated name seen (key :: keys) ↔ Unrepeated name seen keys := by
  have hcount : (key :: keys).count name = keys.count name := List.count_cons_of_ne h.symm
  simp only [Unrepeated, hcount, List.mem_cons, h, false_or]

/-- A key that comes up is seen from then on. -/
theorem unrepeated_cons {name key : String} {seen keys : List String} (hseen : key ∉ seen) :
    Unrepeated name seen (key :: keys) ↔ Unrepeated name (key :: seen) keys := by
  by_cases h : name = key
  · subst h
    have hcount : (name :: keys).count name = keys.count name + 1 := List.count_cons_self
    simp only [Unrepeated, hcount, hseen, List.mem_cons, true_or, false_implies, true_implies,
      and_true, Nat.succ_le_succ_iff, Nat.le_zero, List.count_eq_zero]
    constructor
    · intro hnot
      exact ⟨List.count_eq_zero.2 hnot ▸ Nat.zero_le 1, hnot⟩
    · intro h
      exact h.2
  · rw [unrepeated_cons_of_ne h]
    simp only [Unrepeated, List.mem_cons, h, false_or]

theorem checkEntries_eq_ok_iff {slots : List Slot} {seen : List String}
    {entries : List (String × Json)} :
    checkEntries origin slots seen entries = .ok () ↔
      (∀ s ∈ slots, Unrepeated s.name seen (entries.map (·.1))) ∧
      ∀ e ∈ entries, ∀ s, slots.find? (fun s => s.name = e.1) = some s →
        s.check origin e.2 = .ok () := by
  induction entries generalizing seen with
  | nil =>
    simp [checkEntries, Unrepeated]
  | cons e entries ih =>
    obtain ⟨key, v⟩ := e
    rw [List.forall_mem_cons, List.map_cons]
    cases hfind : slots.find? (fun s => s.name = key) with
    | none =>
      have hne : ∀ s ∈ slots, s.name ≠ key := by
        simpa using hfind
      simp only [checkEntries, hfind, ih, reduceCtorEq, false_implies, implies_true, true_and]
      refine and_congr_left (fun _ => forall₂_congr (fun s hs => ?_))
      exact (unrepeated_cons_of_ne (hne s hs)).symm
    | some s₀ =>
      -- the key is that of a field, so it must not have been seen and is seen from now on
      have hs₀ : s₀ ∈ slots := List.mem_of_find?_eq_some hfind
      have hname : s₀.name = key := by simpa using List.find?_some hfind
      by_cases hseen : key ∈ seen
      · simp only [checkEntries, hfind, hseen, if_true, reduceCtorEq, false_iff]
        rintro ⟨hkeys, -⟩
        exact (hkeys s₀ hs₀).2 (hname ▸ hseen) (hname ▸ List.mem_cons_self)
      · simp only [checkEntries, hfind, hseen, if_false, check_eq_ok_iff, ih, Option.some.injEq,
          forall_eq']
        constructor
        · rintro ⟨hcheck, hkeys, hrest⟩
          exact ⟨fun s hs => (unrepeated_cons hseen).2 (hkeys s hs), hcheck, hrest⟩
        · rintro ⟨hkeys, hcheck, hrest⟩
          exact ⟨hcheck, fun s hs => (unrepeated_cons hseen).1 (hkeys s hs), hrest⟩

/-! ## Arrays -/

theorem checkItems_eq_ok_iff {slots : List Slot} {items : List Json} {expected : String} {n : Nat} :
    (∃ rest, checkItems origin expected n slots items = .ok rest) ↔
      (∀ p ∈ slots.zip items, p.1.check origin p.2 = .ok ()) ∧
        ∀ s ∈ slots.drop items.length, s.mayOmit = true := by
  induction slots generalizing items n with
  | nil =>
    simp [checkItems]
  | cons s slots ih =>
    cases items with
    | nil =>
      have hrest := @ih [] (n + 1)
      cases homit : s.mayOmit with
      | true => simpa [checkItems, homit] using hrest
      | false => simp [checkItems, homit]
    | cons v items =>
      have hrest := @ih items (n + 1)
      simp only [checkItems, check_eq_ok_iff, List.zip_cons_cons, List.forall_mem_cons,
        List.length_cons, List.drop_succ_cons, exists_and_left, hrest, and_assoc]

theorem checkSurplus_eq_ok_iff {fields total : Nat} :
    checkSurplus origin fields total = .ok () ↔ (origin ≠ .settings → total ≤ fields) := by
  have hle : ¬ fields < total ↔ total ≤ fields := Nat.not_lt
  cases origin with
  | direct | setAside =>
    simp [checkSurplus, hle]
  | settings =>
    simp [checkSurplus]

/-- In an array the values stand next to the names. -/
theorem find?_zip {names : List String} (hnames : names.Nodup) {items : List Json} {name : String}
    {v : Json} (h : (name, v) ∈ names.zip items) :
    Entries.find? name (names.zip items) = some v := by
  induction names generalizing items with
  | nil =>
    exact absurd h List.not_mem_nil
  | cons first names ih =>
    obtain ⟨hfirst, hrest⟩ := List.nodup_cons.1 hnames
    cases items with
    | nil =>
      exact absurd h List.not_mem_nil
    | cons w items =>
      rcases List.mem_cons.1 h with heq | hmem
      · cases heq
        simp [Entries.find?]
      · have hne : first ≠ name := by
          rintro rfl
          exact hfirst (List.of_mem_zip hmem).1
        simp [Entries.find?, hne, ih hrest hmem]

/-! ## Records -/

/-- A name next to which there is no value. -/
theorem find?_zip_drop {names : List String} (hnames : names.Nodup) {items : List Json}
    {name : String} (h : name ∈ names.drop items.length) :
    Entries.find? name (names.zip items) = none := by
  induction names generalizing items with
  | nil =>
    rfl
  | cons first names ih =>
    obtain ⟨hfirst, hrest⟩ := List.nodup_cons.1 hnames
    cases items with
    | nil =>
      rfl
    | cons w items =>
      have hne : first ≠ name := by
        rintro rfl
        exact hfirst (List.mem_of_mem_drop h)
      simp [Entries.find?, hne, ih hrest h]

/-- A record is read from a value if it can be built of the values under the names of its fields. -/
theorem Lawful.read_eq_ok_iff {shape : Shape α} (hlawful : shape.Lawful)
    (hnames : (shape.slots.map (·.name)).Nodup) (horigin : origin ≠ .settings) {what : String}
    {v : Json} {a : α} :
    shape.read what origin v = .ok a ↔
      ∃ get, v.Parts (shape.slots.map (·.name)) get ∧ shape.build origin get = .ok a := by
  cases v with
  | object entries =>
    simp only [read, check_eq_ok_iff, checkEntries_eq_ok_iff, Unrepeated, List.not_mem_nil,
      false_implies, and_true]
    constructor
    · rintro ⟨⟨hcount, -⟩, hbuild⟩
      exact ⟨_, .object (List.forall_mem_map.2 hcount), hbuild⟩
    · rintro ⟨_, ⟨hcount⟩, hbuild⟩
      rw [List.forall_mem_map] at hcount
      refine ⟨⟨hcount, ?_⟩, hbuild⟩
      -- an entry that is checked is the one that the field is built of
      intro e he s hs
      have hmem : s ∈ shape.slots := List.mem_of_find?_eq_some hs
      have hname : s.name = e.1 := by simpa using List.find?_some hs
      refine hlawful.checks hbuild s hmem e.2 ?_
      rw [hname]
      exact Entries.find?_of_count_le_one (hname ▸ hcount s hmem) he
  | array items =>
    simp only [read]
    rw [bind_eq_ok_iff]
    simp only [check_eq_ok_iff, checkSurplus_eq_ok_iff]
    constructor
    · rintro ⟨_, -, hsurplus, hbuild⟩
      have hlength : items.length ≤ (shape.slots.map (·.name)).length := by
        rw [List.length_map]
        exact hsurplus horigin
      exact ⟨_, .array hlength, hbuild⟩
    · rintro ⟨_, hparts, hbuild⟩
      obtain - | hlength := hparts
      rw [List.length_map] at hlength
      -- items stand next to the fields that are built of them
      have hchecks : ∀ p ∈ shape.slots.zip items, p.1.check origin p.2 = .ok () := by
        intro p hp
        refine hlawful.checks hbuild p.1 (List.of_mem_zip hp).1 p.2 (find?_zip hnames ?_)
        rw [List.zip_map_left]
        exact List.mem_map_of_mem (f := Prod.map (·.name) id) hp
      -- fields without an item are built of nothing
      have homits : ∀ s ∈ shape.slots.drop items.length, s.mayOmit = true := by
        intro s hs
        refine hlawful.omits hbuild s (List.mem_of_mem_drop hs) (find?_zip_drop hnames ?_)
        rw [← List.map_drop]
        exact List.mem_map_of_mem hs
      obtain ⟨rest, hitems⟩ := checkItems_eq_ok_iff.2 ⟨hchecks, homits⟩
      exact ⟨rest, hitems, fun _ => hlength, hbuild⟩
  | null | bool | integer | real | string =>
    constructor
    · intro h
      cases h
    · rintro ⟨_, hparts, -⟩
      cases hparts

end Shape

/-! ## Variants -/

section Variants

variable {α : Type} {key : String} {variants : List (Variant α)} {variant : Variant α}

theorem readName_eq_ok_iff {v : Json} :
    readName variants .direct v = .ok variant ↔
      ∃ name, v = .string name ∧ variants.find? (fun x => x.name = name) = some variant := by
  cases v with
  | string s =>
    simp only [readName, Json.string.injEq, exists_eq_left']
    cases variants.find? (fun x => x.name = s) <;> simp
  | integer n =>
    simp [readName]
  | null | bool | real | array | object =>
    simp [readName]

variable {origin : Origin} {entries : List (String × Json)}

theorem readTag_cons_of_ne {tag : Option (Variant α)} {name : String} {v : Json}
    (hkey : name ≠ key) :
    readTag key variants origin tag ((name, v) :: entries) =
      readTag key variants origin tag entries := by
  cases tag <;> rw [readTag, if_neg hkey]

/-- Once the variant is known it is not named again. -/
theorem readTag_some_eq_ok_iff {x : Variant α} :
    readTag key variants origin (some x) entries = .ok variant ↔
      key ∉ entries.map (·.1) ∧ x = variant := by
  induction entries with
  | nil =>
    simp [readTag]
  | cons e entries ih =>
    by_cases hkey : e.1 = key
    · simp [readTag, hkey]
    · have hkey' : ¬ key = e.1 := fun heq => hkey heq.symm
      simp only [readTag, hkey, if_false, ih, List.map_cons, List.mem_cons, hkey', false_or]

/-- The variant is named by the only entry under the key. -/
theorem readTag_none_eq_ok_iff :
    readTag key variants origin none entries = .ok variant ↔
      (entries.map (·.1)).count key ≤ 1 ∧
        ∃ v, Entries.find? key entries = some v ∧ readName variants origin v = .ok variant := by
  induction entries with
  | nil =>
    simp [readTag, Entries.find?]
  | cons e entries ih =>
    by_cases hkey : e.1 = key
    · have hcount : (key :: entries.map (·.1)).count key ≤ 1 ↔ key ∉ entries.map (·.1) := by
        rw [List.count_cons_self, Nat.succ_le_succ_iff, Nat.le_zero, List.count_eq_zero]
      simp only [readTag, hkey, if_true, bind_eq_ok_iff, readTag_some_eq_ok_iff, List.map_cons,
        hcount, Entries.find?, Option.some.injEq, exists_eq_left']
      constructor
      · rintro ⟨x, hread, hnot, rfl⟩
        exact ⟨hnot, hread⟩
      · rintro ⟨hnot, hread⟩
        exact ⟨variant, hread, hnot, rfl⟩
    · have hcount : (e.1 :: entries.map (·.1)).count key = (entries.map (·.1)).count key :=
        List.count_cons_of_ne hkey
      simp only [readTag, hkey, if_false, ih, List.map_cons, hcount, Entries.find?]

/-- A value is read as the variant that it names, from what else it holds. -/
theorem readTagged_eq_ok_iff {what : String} {v : Json} {a : α} :
    readTagged what key variants .direct v = .ok a ↔
      ∃ name rest, v.Tagged key name rest ∧
        ∃ variant, variants.find? (fun x => x.name = name) = some variant ∧
          variant.read .setAside rest = .ok a := by
  constructor
  · intro h
    cases v with
    | object entries =>
      simp only [readTagged, bind_eq_ok_iff, readTag_none_eq_ok_iff, readName_eq_ok_iff] at h
      obtain ⟨variant, ⟨hcount, w, hfind, name, rfl, hvariant⟩, hread⟩ := h
      exact ⟨name, _, .object hcount hfind, variant, hvariant, hread⟩
    | array items =>
      cases items with
      | nil =>
        cases h
      | cons tag items =>
        simp only [readTagged, bind_eq_ok_iff, readName_eq_ok_iff] at h
        obtain ⟨variant, ⟨name, rfl, hvariant⟩, hread⟩ := h
        exact ⟨name, _, .array, variant, hvariant, hread⟩
    | null | bool | integer | real | string =>
      cases h
  · rintro ⟨name, rest, htagged, variant, hvariant, hread⟩
    cases htagged with
    | object hcount hfind =>
      have htag := readTag_none_eq_ok_iff.2
        ⟨hcount, _, hfind, readName_eq_ok_iff.2 ⟨name, rfl, hvariant⟩⟩
      exact bind_eq_ok_iff.2 ⟨variant, htag, hread⟩
    | array =>
      exact bind_eq_ok_iff.2 ⟨variant, readName_eq_ok_iff.2 ⟨name, rfl, hvariant⟩, hread⟩

end Variants
end FleetLifecycle
