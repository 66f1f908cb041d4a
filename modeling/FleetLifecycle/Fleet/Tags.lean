import FleetLifecycle.Entries

/-!
# Tags — texts under distinct names

The tags of a resource are kept in ascending order of their names, so two resources with the same
tags are equal, and whatever is written about them comes out in one order.

1. `Tags`, entries with ascending names;
2. `Tags.get?`, `Tags.contains` and `Tags.insert`;
3. `Tags.ofList`, of several entries under one name the last;
4. `Tags.ext_get?`: tags are determined by what is found under each name.
-/

namespace FleetLifecycle

/-- Texts under distinct names. -/
structure Tags where
  entries : List (String × String)
  ascending : entries.Pairwise (fun a b => a.1 < b.1)
  deriving DecidableEq

namespace Tags

def empty : Tags := ⟨[], List.Pairwise.nil⟩

instance : Inhabited Tags := ⟨empty⟩

def get? (tags : Tags) (name : String) : Option String :=
  Entries.find? name tags.entries

def contains (tags : Tags) (name : String) : Bool :=
  (tags.get? name).isSome

def insert (tags : Tags) (name text : String) : Tags :=
  ⟨Entries.insert name text tags.entries, Entries.pairwise_insert name text tags.ascending⟩

/-- The tags of a list of entries, the last under each name. -/
def ofList (entries : List (String × String)) : Tags :=
  ⟨Entries.sort entries, Entries.pairwise_sort entries⟩

@[simp]
theorem get?_insert (tags : Tags) (name text other : String) :
    (tags.insert name text).get? other = if name = other then some text else tags.get? other :=
  Entries.find?_insert name text other tags.entries

@[simp]
theorem get?_empty (name : String) : empty.get? name = none := rfl

/-- Tags are determined by what is found under each name. -/
theorem ext_get? {a b : Tags} (h : ∀ name, a.get? name = b.get? name) : a = b := by
  cases a with
  | mk xs hx =>
    cases b with
    | mk ys hy =>
      have : xs = ys := Entries.eq_of_find?_eq hx hy h
      subst this
      rfl

end Tags
end FleetLifecycle
