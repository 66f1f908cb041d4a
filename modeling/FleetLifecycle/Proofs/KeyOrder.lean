import FleetLifecycle.Proofs.WrittenForms
import Mathlib.Data.List.Perm.Basic
import Mathlib.Data.Set.List

/-!
# Key order — readers do not mind in which order keys stand

An object is a list of entries, and a form goes through it in order.  What is read of an object is
nevertheless the same for every order of its keys, as long as they are distinct.  Concretely, we:

1. say when values differ in nothing but the order of keys (`Json.Reordered`), and what is found in
   the one and in the other;
2. say when a reader does not mind this order (`Reader.OrderFree`), and show it of texts, numbers
   and tags, of records (`Shape.OrderFree.read`), and of variants (`orderFree_readTagged`,
   `orderFree_readChoice`);
3. conclude it for the forms of decisions, requests, resources and settings.
-/

namespace FleetLifecycle

namespace Json

/-! ## Reordered values -/

mutual

/-- The values differ in nothing but the order of keys, and no object has a key twice. -/
inductive Reordered : Json → Json → Prop where
  | null : Reordered .null .null
  | bool (b : Bool) : Reordered (.bool b) (.bool b)
  | integer (n : Int) : Reordered (.integer n) (.integer n)
  | real (shown : String) : Reordered (.real shown) (.real shown)
  | string (s : String) : Reordered (.string s) (.string s)
  | array {items items' : List Json} :
      ReorderedItems items items' → Reordered (.array items) (.array items')
  -- the values of an object change first, then its entries change places
  | object {entries changed entries' : List (String × Json)} :
      (entries.map (·.1)).Nodup → ReorderedEntries entries changed → changed.Perm entries' →
        Reordered (.object entries) (.object entries')

inductive ReorderedItems : List Json → List Json → Prop where
  | nil : ReorderedItems [] []
  | cons {v v' : Json} {items items' : List Json} :
      Reordered v v' → ReorderedItems items items' → ReorderedItems (v :: items) (v' :: items')

/-- The values of the entries are reordered, each under its key. -/
inductive ReorderedEntries : List (String × Json) → List (String × Json) → Prop where
  | nil : ReorderedEntries [] []
  | cons {v v' : Json} {entries entries' : List (String × Json)} (key : String) :
      Reordered v v' → ReorderedEntries entries entries' →
        ReorderedEntries ((key, v) :: entries) ((key, v') :: entries')

end

/-- The written form of a value, or what becomes of it when its keys change their order. -/
inductive WrittenOf {α : Type} (write : α → Json) (a : α) : Json → Prop where
  | inOrder : WrittenOf write a (write a)
  | reordered {w : Json} : (write a).Reordered w → WrittenOf write a w

/-- The values found under each name are reordered, if there are any. -/
def SameParts (get get' : String → Option Json) : Prop :=
  ∀ name, Option.Rel Reordered (get name) (get' name)

section Parts

variable {get get' : String → Option Json} {name : String} {v v' : Json}

theorem SameParts.eq_none (h : SameParts get get') (hget : get name = none) : get' name = none := by
  have hpart := h name
  rw [hget] at hpart
  generalize get' name = part at hpart ⊢
  cases hpart
  rfl

theorem SameParts.exists_right (h : SameParts get get') (hget : get name = some v) :
    ∃ v', get' name = some v' ∧ Reordered v v' := by
  have hpart := h name
  rw [hget] at hpart
  generalize get' name = part at hpart ⊢
  cases hpart with
  | some hv =>
    exact ⟨_, rfl, hv⟩

theorem SameParts.exists_left (h : SameParts get get') (hget : get' name = some v') :
    ∃ v, get name = some v ∧ Reordered v v' := by
  have hpart := h name
  rw [hget] at hpart
  generalize get name = part at hpart ⊢
  cases hpart with
  | some hv =>
    exact ⟨_, rfl, hv⟩

end Parts

variable {items items' : List Json} {entries entries' : List (String × Json)}

theorem ReorderedItems.length_eq (h : ReorderedItems items items') :
    items.length = items'.length := by
  induction items generalizing items' with
  | nil =>
    cases h
    rfl
  | cons v items ih =>
    cases h with
    | cons _ hitems =>
      exact congrArg (· + 1) (ih hitems)

/-- Items next to names are reordered as entries are. -/
theorem ReorderedItems.zip (h : ReorderedItems items items') (names : List String) :
    ReorderedEntries (names.zip items) (names.zip items') := by
  induction names generalizing items items' with
  | nil =>
    exact .nil
  | cons name names ih =>
    cases h with
    | nil =>
      exact .nil
    | cons hv hitems =>
      exact .cons name hv (ih hitems)

/-- What stands next to an item stands next to the item that was reordered. -/
theorem ReorderedItems.exists_mem_zip {β : Type} (h : ReorderedItems items items') {xs : List β}
    {p : β × Json} (hp : p ∈ xs.zip items') : ∃ v, (p.1, v) ∈ xs.zip items ∧ Reordered v p.2 := by
  induction xs generalizing items items' with
  | nil =>
    exact absurd hp List.not_mem_nil
  | cons x xs ih =>
    cases h with
    | nil =>
      exact absurd hp List.not_mem_nil
    | cons hv hitems =>
      rcases List.mem_cons.1 hp with rfl | hp
      · exact ⟨_, List.mem_cons_self, hv⟩
      · obtain ⟨v, hmem, hv⟩ := ih hitems hp
        exact ⟨v, List.mem_cons_of_mem _ hmem, hv⟩

theorem ReorderedEntries.keys_eq (h : ReorderedEntries entries entries') :
    entries.map (·.1) = entries'.map (·.1) := by
  induction entries generalizing entries' with
  | nil =>
    cases h
    rfl
  | cons e entries ih =>
    cases h with
    | cons key _ hentries =>
      exact congrArg (key :: ·) (ih hentries)

theorem ReorderedEntries.sameParts (h : ReorderedEntries entries entries') :
    SameParts (fun name => Entries.find? name entries)
      (fun name => Entries.find? name entries') := by
  intro name
  induction entries generalizing entries' with
  | nil =>
    cases h
    exact .none
  | cons e entries ih =>
    cases h with
    | cons key hv hentries =>
      by_cases hname : key = name
      · simpa [Entries.find?, hname] using Option.Rel.some hv
      · simpa [Entries.find?, hname] using ih hentries

theorem ReorderedEntries.filter (h : ReorderedEntries entries entries') (keep : String → Bool) :
    ReorderedEntries (entries.filter (fun e => keep e.1))
      (entries'.filter (fun e => keep e.1)) := by
  induction entries generalizing entries' with
  | nil =>
    cases h
    exact .nil
  | cons e entries ih =>
    cases h with
    | cons key hv hentries =>
      by_cases hkeep : keep key = true
      · simpa [List.filter_cons, hkeep] using ReorderedEntries.cons key hv (ih hentries)
      · simpa [List.filter_cons, hkeep] using ih hentries

/-- An object with distinct keys becomes one with the same keys, and under each of them stands the
reordered value. -/
theorem Reordered.exists_object {v : Json} (h : Reordered (.object entries) v) :
    ∃ entries', v = .object entries' ∧ (entries.map (·.1)).Nodup ∧ (entries'.map (·.1)).Nodup ∧
      (entries.map (·.1)).Perm (entries'.map (·.1)) ∧
      SameParts (fun name => Entries.find? name entries)
        (fun name => Entries.find? name entries') := by
  cases h with
  | @object _ changed entries' hnodup hchanged hperm =>
    have hkeys := hchanged.keys_eq
    have hnodup' : (changed.map (·.1)).Nodup := hkeys ▸ hnodup
    refine ⟨entries', rfl, hnodup, (hperm.map _).nodup_iff.1 hnodup', hkeys ▸ hperm.map _, ?_⟩
    intro name
    show Option.Rel Reordered (Entries.find? name entries) (Entries.find? name entries')
    rw [← Entries.find?_perm hnodup' hperm]
    exact hchanged.sameParts name

/-- Entries may be taken out of both objects. -/
theorem Reordered.filter (h : Reordered (.object entries) (.object entries'))
    (keep : String → Bool) :
    Reordered (.object (entries.filter (fun e => keep e.1)))
      (.object (entries'.filter (fun e => keep e.1))) := by
  cases h with
  | object hnodup hchanged hperm =>
    have hsublist := (List.filter_sublist (p := fun e => keep e.1) (l := entries)).map (·.1)
    exact .object (hnodup.sublist hsublist) (hchanged.filter keep) (hperm.filter _)

end Json

namespace Reader

open Json (Reordered WrittenOf)

variable {α β : Type} {read : Reader α}

/-! ## Values of a field -/

/-- What is read is the same for every order of keys. -/
def OrderFree (read : Reader α) : Prop :=
  ∀ ⦃origin v v' a⦄, Reordered v v' → read origin v = .ok a → read origin v' = .ok a

/-- A form that is read back is read back with its keys in any order. -/
theorem OrderFree.read_writtenOf (hread : OrderFree read) {write : α → Json} {a : α} {w : Json}
    {origin : Origin} (hwrite : read origin (write a) = .ok a) (hw : WrittenOf write a w) :
    read origin w = .ok a := by
  cases hw with
  | inOrder =>
    exact hwrite
  | reordered hw =>
    exact hread hw hwrite

/-- A reader that takes neither arrays nor objects does not come across keys. -/
theorem orderFree_of_ne (harray : ∀ {origin items a}, read origin (.array items) ≠ .ok a)
    (hobject : ∀ {origin entries a}, read origin (.object entries) ≠ .ok a) : OrderFree read := by
  intro origin v v' a hv h
  cases hv with
  | null | bool | integer | real | string =>
    exact h
  | array =>
    exact absurd h harray
  | object =>
    exact absurd h hobject

theorem orderFree_text : OrderFree text :=
  orderFree_of_ne (by simp [text]) (by simp [text])

theorem orderFree_flag : OrderFree flag :=
  orderFree_of_ne (by simp [flag]) (by simp [flag])

theorem orderFree_word (width : Nat) : OrderFree (word width) :=
  orderFree_of_ne (by simp [word]) (by simp [word])

theorem orderFree_parsed (expected : String) (parse : String → Except String α) :
    OrderFree (parsed expected parse) :=
  orderFree_of_ne (by simp [parsed]) (by simp [parsed])

theorem OrderFree.map (hread : OrderFree read) (f : α → β) :
    OrderFree (fun origin v => (read origin v).map f) := by
  intro origin v v' b hv h
  obtain ⟨a, ha, rfl⟩ := map_eq_ok_iff.1 h
  exact map_eq_ok_iff.2 ⟨a, hread hv ha, rfl⟩

theorem OrderFree.optional (hread : OrderFree read) : OrderFree (Reader.optional read) := by
  intro origin v v' a hv h
  cases hv with
  | null | bool | integer | real | string =>
    exact h
  | array hitems =>
    exact hread.map some (.array hitems) h
  | object hnodup hchanged hperm =>
    exact hread.map some (.object hnodup hchanged hperm) h

end Reader

/-! ## Records -/

namespace Shape

open Json (Reordered ReorderedItems SameParts)

variable {α β : Type}

/-- Neither the checks of a form nor what it builds depends on the order of keys. -/
structure OrderFree (shape : Shape α) : Prop where
  checks : ∀ s ∈ shape.slots, Reader.OrderFree s.check
  builds : ∀ {origin get get' a}, SameParts get get' → shape.build origin get = .ok a →
    shape.build origin get' = .ok a

theorem orderFree_done (a : α) : (done a).OrderFree := by
  constructor
  case checks =>
    simp [done]
  case builds =>
    intro origin get get' b _ h
    exact h

theorem OrderFree.andThen {f : Shape (α → β)} {x : Shape α} (hf : f.OrderFree) (hx : x.OrderFree) :
    (f.andThen x).OrderFree := by
  constructor
  case checks =>
    intro s hs
    rcases List.mem_append.1 hs with hs | hs
    · exact hf.checks s hs
    · exact hx.checks s hs
  case builds =>
    intro origin get get' b hparts h
    obtain ⟨g, hg, a, ha, rfl⟩ := build_andThen_eq_ok_iff.1 h
    exact build_andThen_eq_ok_iff.2 ⟨g, hf.builds hparts hg, a, hx.builds hparts ha, rfl⟩

theorem orderFree_slot {read : Reader α} (hread : Reader.OrderFree read) (name : String)
    (absent : Option α) (mayOmit : Bool) : (slot name read absent mayOmit).OrderFree := by
  constructor
  case checks =>
    intro s hs
    obtain rfl : s = _ := List.mem_singleton.1 hs
    exact hread.map (fun _ => ())
  case builds =>
    intro origin get get' a hparts h
    simp only [slot] at h ⊢
    cases hget : get name with
    | none =>
      rw [hget] at h
      rw [hparts.eq_none hget]
      exact h
    | some v =>
      rw [hget] at h
      obtain ⟨v', hget', hv⟩ := hparts.exists_right hget
      rw [hget']
      exact hread hv h

/-- A record is read from an object with its fields in any order. -/
theorem OrderFree.read {shape : Shape α} (hshape : shape.OrderFree) (what : String) :
    Reader.OrderFree (shape.read what) := by
  intro origin v v' a hv h
  cases hv with
  | null | bool | integer | real | string =>
    cases h
  | @array items items' hitems =>
    simp only [Shape.read] at h ⊢
    rw [bind_eq_ok_iff] at h ⊢
    simp only [check_eq_ok_iff] at h ⊢
    obtain ⟨rest, hcheck, hsurplus, hbuild⟩ := h
    obtain ⟨hchecks, homits⟩ := checkItems_eq_ok_iff.1 ⟨rest, hcheck⟩
    -- the items stay in order, so each is checked by the field that checked it before
    have hchecks' : ∀ p ∈ shape.slots.zip items', p.1.check origin p.2 = .ok () := by
      intro p hp
      obtain ⟨v, hmem, hv⟩ := hitems.exists_mem_zip hp
      exact hshape.checks p.1 (List.of_mem_zip hp).1 hv (hchecks _ hmem)
    rw [hitems.length_eq] at hsurplus homits
    obtain ⟨rest', hcheck'⟩ := checkItems_eq_ok_iff.2 ⟨hchecks', homits⟩
    exact ⟨rest', hcheck', hsurplus, hshape.builds (hitems.zip _).sameParts hbuild⟩
  | object hnodup hchanged hperm =>
    obtain ⟨_, ⟨⟩, -, hnodup', hkeys, hparts⟩ :=
      (Reordered.object hnodup hchanged hperm).exists_object
    simp only [Shape.read, check_eq_ok_iff, checkEntries_eq_ok_iff] at h ⊢
    obtain ⟨⟨-, hchecks⟩, hbuild⟩ := h
    refine ⟨⟨?_, ?_⟩, hshape.builds hparts hbuild⟩
    · intro s _
      have hcount := List.nodup_iff_count_le_one.1 hnodup' s.name
      exact ⟨hcount, fun hseen => absurd hseen List.not_mem_nil⟩
    · -- an entry comes from one under the same key, which was checked
      intro e he s hs
      obtain ⟨v, hfind, hv⟩ := hparts.exists_left (Entries.find?_of_mem hnodup' he)
      have hchecked := hchecks _ (Entries.mem_of_find? hfind) s hs
      exact hshape.checks s (List.mem_of_find?_eq_some hs) hv hchecked

end Shape

/-! ## Variants -/

section Variants

open Json (Reordered ReorderedItems)

variable {α β : Type}

theorem Variant.orderFree_unit (name : String) (a : α) :
    Reader.OrderFree (Variant.unit name a).read := by
  intro origin v v' b hv h
  cases hv with
  | null | bool | integer | real | string | object =>
    exact h
  | array hitems =>
    cases hitems with
    | nil =>
      exact h
    | cons =>
      cases h

theorem Variant.orderFree_record {shape : Shape α} (hshape : shape.OrderFree) (name what : String) :
    Reader.OrderFree (Variant.record name what shape).read :=
  hshape.read what

theorem orderFree_readName (variants : List (Variant α)) :
    Reader.OrderFree (readName variants) :=
  Reader.orderFree_of_ne (by simp [readName]) (by simp [readName])

/-- Only the variants listed are ever named. -/
theorem mem_of_readName {variants : List (Variant α)} {x : Variant α} {origin : Origin} {v : Json}
    (h : readName variants origin v = .ok x) : x ∈ variants := by
  cases v with
  | string s =>
    simp only [readName] at h
    split at h
    · next hfind =>
      cases h
      exact List.mem_of_find?_eq_some hfind
    · cases h
  | integer n =>
    simp only [readName] at h
    split at h
    · split at h
      · next hget =>
        cases h
        exact List.mem_of_getElem? hget
      · cases h
    · cases h
  | null | bool | real | array | object =>
    cases h

/-- The key that names the variant may stand behind the fields it governs. -/
theorem orderFree_readTagged {variants : List (Variant α)}
    (hvariants : ∀ x ∈ variants, Reader.OrderFree x.read) (what key : String) :
    Reader.OrderFree (readTagged what key variants) := by
  intro origin v v' a hv h
  cases hv with
  | null | bool | integer | real | string =>
    cases h
  | array hitems =>
    cases hitems with
    | nil =>
      cases h
    | cons htag hitems =>
      obtain ⟨x, hname, hread⟩ := bind_eq_ok_iff.1 h
      have hname' := orderFree_readName variants htag hname
      have hread' := hvariants x (mem_of_readName hname) (.array hitems) hread
      exact bind_eq_ok_iff.2 ⟨x, hname', hread'⟩
  | object hnodup hchanged hperm =>
    have hreordered := Reordered.object hnodup hchanged hperm
    obtain ⟨_, ⟨⟩, -, hnodup', hkeys, hparts⟩ := hreordered.exists_object
    obtain ⟨x, htag, hread⟩ := bind_eq_ok_iff.1 h
    obtain ⟨-, w, hfind, hname⟩ := readTag_none_eq_ok_iff.1 htag
    obtain ⟨w', hfind', hw⟩ := hparts.exists_right hfind
    have htag' := readTag_none_eq_ok_iff.2
      ⟨List.nodup_iff_count_le_one.1 hnodup' key, w', hfind', orderFree_readName variants hw hname⟩
    -- the rest is reordered too, since the same entry is taken out of both
    have hrest := hreordered.filter (fun name => decide (name ≠ key))
    exact bind_eq_ok_iff.2 ⟨x, htag', hvariants x (mem_of_readName hname) hrest hread⟩

/-- What a choice reads beside its name is the same for every order of keys. -/
def Choice.OrderFree (choice : Choice α) : Prop :=
  ∀ ⦃origin v v' a⦄, Reordered v v' → choice.read origin (some v) = .ok a →
    choice.read origin (some v') = .ok a

theorem Choice.orderFree_unit (name : String) (a : α) : (Choice.unit name a).OrderFree := by
  intro origin v v' b hv h
  cases hv with
  | null | bool | integer | real | string =>
    exact h
  | array =>
    cases h
  | object hnodup hchanged hperm =>
    cases hchanged with
    | nil =>
      rw [← hperm.nil_eq]
      exact h
    | cons =>
      cases h

theorem Choice.orderFree_one {read : Reader α} (hread : Reader.OrderFree read) (name : String)
    (make : α → β) : (Choice.one name read make).OrderFree := by
  intro origin v v' b hv h
  exact hread.map make hv h

theorem orderFree_readChoice {choices : List (Choice α)}
    (hchoices : ∀ x ∈ choices, x.OrderFree) : Reader.OrderFree (readChoice choices) := by
  intro origin v v' a hv h
  cases hv with
  | null | bool | integer | real | string =>
    exact h
  | array =>
    cases h
  | @object entries changed entries' hnodup hchanged hperm =>
    -- an object that is read has the name of the choice as its only key
    cases hchanged with
    | nil =>
      cases h
    | @cons w w' rest rest' name hw hrest =>
      cases hrest with
      | cons =>
        cases h
      | nil =>
        rw [← List.singleton_perm.1 hperm]
        simp only [readChoice] at h ⊢
        cases hfind : choices.find? (fun choice => choice.name = name) with
        | none =>
          rw [hfind] at h
          cases h
        | some x =>
          rw [hfind] at h
          exact hchoices x (List.mem_of_find?_eq_some hfind) hw h

end Variants

/-! ## Tags -/

namespace Tags

open Json (Reordered ReorderedEntries)

/-- Tags are the same for every order of entries with distinct names. -/
theorem ofList_perm {texts texts' : List (String × String)} (hnodup : (texts.map (·.1)).Nodup)
    (h : texts.Perm texts') : ofList texts = ofList texts' := by
  simp only [ofList, Entries.sort_perm hnodup h]

/-- Texts are not reordered within. -/
theorem eq_of_reorderedEntries {texts : List (String × String)} {entries : List (String × Json)}
    (h : ReorderedEntries (texts.map (fun e => (e.1, .string e.2))) entries) :
    entries = texts.map (fun e => (e.1, .string e.2)) := by
  induction texts generalizing entries with
  | nil =>
    cases h
    rfl
  | cons e texts ih =>
    cases h with
    | cons _ hv hentries =>
      cases hv
      rw [ih hentries, List.map_cons]

theorem orderFree_reader : Reader.OrderFree reader := by
  intro origin v v' tags hv h
  cases hv with
  | null | bool | integer | real | string =>
    exact h
  | array =>
    cases h
  | @object entries changed entries' hnodup hchanged hperm =>
    obtain ⟨texts, htexts, rfl⟩ := map_eq_ok_iff.1 h
    obtain rfl := readEntries_eq_ok_iff.1 htexts
    obtain rfl := eq_of_reorderedEntries hchanged
    let entry : String × String → String × Json := fun e => (e.1, .string e.2)
    have hentry : Function.Injective entry := by
      rintro ⟨name, text⟩ ⟨name', text'⟩ h
      cases h
      rfl
    -- entries that are only put in another order are entries of texts again
    obtain ⟨texts', rfl⟩ : entries' ∈ Set.range (List.map entry) := by
      rw [Set.range_list_map]
      intro e he
      obtain ⟨text, -, rfl⟩ := List.mem_map.1 (hperm.mem_iff.2 he)
      exact ⟨text, rfl⟩
    have htexts' : texts.Perm texts' := (List.map_perm_map_iff hentry).1 hperm
    have hnames : (texts.map (·.1)).Nodup := by
      rwa [List.map_map] at hnodup
    exact map_eq_ok_iff.2
      ⟨texts', readEntries_eq_ok_iff.2 rfl, (ofList_perm hnames htexts').symm⟩

end Tags

/-! ## Forms -/

section Forms

open Reader (OrderFree orderFree_text orderFree_flag orderFree_word orderFree_parsed)
open Shape (orderFree_done orderFree_slot)
open Choice (orderFree_one)
open Variant (orderFree_record)

theorem Reader.orderFree_word8 : OrderFree word8 :=
  (orderFree_word 8).map UInt8.ofNat

theorem Reader.orderFree_word32 : OrderFree word32 :=
  (orderFree_word 32).map UInt32.ofNat

theorem Reader.orderFree_word64 : OrderFree word64 :=
  (orderFree_word 64).map UInt64.ofNat

theorem Instant.orderFree_reader : OrderFree reader :=
  orderFree_parsed _ _

theorem CycleId.orderFree_reader : OrderFree reader :=
  orderFree_parsed _ _

theorem Weekday.orderFree_reader : OrderFree reader :=
  orderFree_parsed _ _

theorem ResourceClass.orderFree_reader : OrderFree reader := by
  refine orderFree_readChoice ?_
  simp only [List.forall_mem_cons, List.not_mem_nil, false_implies, implies_true, and_true]
  exact ⟨Choice.orderFree_unit _ _, Choice.orderFree_unit _ _⟩

theorem RunState.orderFree_reader : OrderFree reader := by
  refine orderFree_readChoice ?_
  simp only [List.forall_mem_cons, List.not_mem_nil, false_implies, implies_true, and_true]
  exact ⟨Choice.orderFree_unit _ _, Choice.orderFree_unit _ _,
    orderFree_one orderFree_text _ _⟩

theorem Capabilities.orderFree_reader : OrderFree reader := by
  refine Shape.OrderFree.read ?_ _
  exact (((orderFree_done _).andThen (orderFree_slot orderFree_flag _ _ _)).andThen
    (orderFree_slot orderFree_flag _ _ _)).andThen (orderFree_slot orderFree_flag _ _ _)

theorem LocalHour.orderFree_reader : OrderFree reader := by
  refine Shape.OrderFree.read ?_ _
  exact ((orderFree_done _).andThen (orderFree_slot Reader.orderFree_word8 _ _ _)).andThen
    (orderFree_slot Weekday.orderFree_reader _ _ _)

theorem Action.orderFree_reader : OrderFree reader := by
  refine orderFree_readTagged ?_ _ _
  simp only [List.forall_mem_cons, List.not_mem_nil, false_implies, implies_true, and_true]
  refine ⟨Variant.orderFree_unit _ _, Variant.orderFree_unit _ _, Variant.orderFree_unit _ _,
    Variant.orderFree_unit _ _, orderFree_record ?_ _ _, Variant.orderFree_unit _ _⟩
  exact (orderFree_done _).andThen (orderFree_slot orderFree_text _ _ _)

/-- A variant with one field. -/
theorem Variant.orderFree_field {α β : Type} {read : Reader α} (hread : OrderFree read)
    (make : α → β) (name what field : String) :
    OrderFree (record name what ((Shape.done make).andThen (.required field read))).read :=
  orderFree_record ((orderFree_done _).andThen (orderFree_slot hread _ _ _)) _ _

theorem Reason.orderFree_reader : OrderFree reader := by
  have hunit : ∀ (name : String) (r : Reason), OrderFree (Variant.unit name r).read :=
    Variant.orderFree_unit
  have htext := @Variant.orderFree_field String Reason Reader.text orderFree_text
  have hhour := @Variant.orderFree_field UInt8 Reason Reader.word8 Reader.orderFree_word8
  have hhours := @Variant.orderFree_field UInt32 Reason Reader.word32 Reader.orderFree_word32
  refine orderFree_readTagged ?_ _ _
  simp only [List.forall_mem_cons, List.not_mem_nil, false_implies, implies_true, and_true]
  refine ⟨hunit _ _, hunit _ _, htext _ _ _ _, htext _ _ _ _, hhour _ _ _ _, hhour _ _ _ _,
    hhour _ _ _ _, ?limitExceeded, hhours _ _ _ _, hunit _ _, hunit _ _, htext _ _ _ _,
    ?unsupportedForClass, htext _ _ _ _, ?gated⟩
  case limitExceeded =>
    refine orderFree_record ?_ _ _
    exact ((orderFree_done _).andThen (orderFree_slot Reader.orderFree_word64 _ _ _)).andThen
      (orderFree_slot Reader.orderFree_word32 _ _ _)
  case unsupportedForClass =>
    refine orderFree_record ?_ _ _
    exact ((orderFree_done _).andThen (orderFree_slot orderFree_text _ _ _)).andThen
      (orderFree_slot ResourceClass.orderFree_reader _ _ _)
  case gated =>
    refine orderFree_record ?_ _ _
    exact ((orderFree_done _).andThen (orderFree_slot Action.orderFree_reader _ _ _)).andThen
      (orderFree_slot orderFree_text _ _ _)

theorem Decision.orderFree_reader : OrderFree reader := by
  refine Shape.OrderFree.read ?_ _
  exact ((orderFree_done _).andThen (orderFree_slot Action.orderFree_reader _ _ _)).andThen
    (orderFree_slot Reason.orderFree_reader _ _ _)

theorem EmailMessage.orderFree_reader : OrderFree reader := by
  refine Shape.OrderFree.read ?_ _
  exact ((((orderFree_done _).andThen (orderFree_slot orderFree_text _ _ _)).andThen
    (orderFree_slot orderFree_text _ _ _)).andThen (orderFree_slot orderFree_text _ _ _)).andThen
    (orderFree_slot orderFree_text _ _ _)

theorem ActionRequest.orderFree_reader : OrderFree reader := by
  refine Shape.OrderFree.read ?_ _
  exact ((((((((((orderFree_done _).andThen
    (orderFree_slot CycleId.orderFree_reader _ _ _)).andThen
    (orderFree_slot orderFree_text _ _ _)).andThen
    (orderFree_slot orderFree_text _ _ _)).andThen
    (orderFree_slot ResourceClass.orderFree_reader _ _ _)).andThen
    (orderFree_slot orderFree_text _ _ _)).andThen
    (orderFree_slot Action.orderFree_reader _ _ _)).andThen
    (orderFree_slot Reason.orderFree_reader _ _ _)).andThen
    (orderFree_slot orderFree_text.optional _ _ _)).andThen
    (orderFree_slot EmailMessage.orderFree_reader.optional _ _ _)).andThen
    (orderFree_slot Instant.orderFree_reader _ _ _)

theorem ComputeInstance.orderFree_reader : OrderFree reader := by
  refine Shape.OrderFree.read ?_ _
  exact ((((orderFree_done _).andThen (orderFree_slot orderFree_text _ _ _)).andThen
    (orderFree_slot orderFree_text _ _ _)).andThen
    (orderFree_slot Instant.orderFree_reader.optional _ _ _)).andThen
    (orderFree_slot Tags.orderFree_reader _ _ _)

theorem DatabaseInstance.orderFree_reader : OrderFree reader := by
  refine Shape.OrderFree.read ?_ _
  exact (((((orderFree_done _).andThen (orderFree_slot orderFree_text _ _ _)).andThen
    (orderFree_slot orderFree_text.optional _ _ _)).andThen
    (orderFree_slot orderFree_text _ _ _)).andThen
    (orderFree_slot Instant.orderFree_reader.optional _ _ _)).andThen
    (orderFree_slot Tags.orderFree_reader _ _ _)

theorem Resource.orderFree_reader : OrderFree reader := by
  refine orderFree_readTagged ?_ _ _
  simp only [variants, List.forall_mem_cons, List.not_mem_nil, false_implies, implies_true,
    and_true]
  exact ⟨ComputeInstance.orderFree_reader.map _, DatabaseInstance.orderFree_reader.map _⟩

theorem GivenEvaluation.orderFree_reader : OrderFree reader := by
  refine Shape.OrderFree.read ?_ _
  exact (((((orderFree_done _).andThen (orderFree_slot orderFree_text.optional _ _ _)).andThen
    (orderFree_slot orderFree_flag.optional _ _ _)).andThen
    (orderFree_slot orderFree_flag.optional _ _ _)).andThen
    (orderFree_slot orderFree_text.optional _ _ _)).andThen
    (orderFree_slot orderFree_text.optional _ _ _)

theorem GivenGate.orderFree_reader : OrderFree reader := by
  refine Shape.OrderFree.read ?_ _
  exact ((orderFree_done _).andThen (orderFree_slot orderFree_text.optional _ _ _)).andThen
    (orderFree_slot orderFree_text.optional _ _ _)

theorem GivenSettings.orderFree_reader : OrderFree reader := by
  refine Shape.OrderFree.read ?_ _
  exact (((orderFree_done _).andThen (orderFree_slot Reader.orderFree_word32 _ _ _)).andThen
    (orderFree_slot GivenEvaluation.orderFree_reader _ _ _)).andThen
    (orderFree_slot GivenGate.orderFree_reader _ _ _)

end Forms
end FleetLifecycle
