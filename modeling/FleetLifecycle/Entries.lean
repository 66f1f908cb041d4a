/-!
# Entries — values under names

Objects and tags are lists of values under names.

1. `Entries.find?`, the first value under a name;
2. `Entries.insert` and `Entries.sort`, lists in which the names ascend and are distinct;
3. `Entries.eq_of_find?_eq`: such a list is determined by what is found under each name.
-/

namespace FleetLifecycle
namespace Entries

def find? {α : Type} (name : String) : List (String × α) → Option α
  | [] => none
  | (n, value) :: entries => if n = name then some value else find? name entries

/-- Puts a value into its place among ascending names; a value under the same name gives way. -/
def insert {α : Type} (name : String) (value : α) : List (String × α) → List (String × α)
  | [] => [(name, value)]
  | (n, v) :: entries =>
    if name < n then (name, value) :: (n, v) :: entries
    else if name = n then (name, value) :: entries
    else (n, v) :: insert name value entries

/-- The entries in ascending order of their names, of several under one name the last. -/
def sort {α : Type} (entries : List (String × α)) : List (String × α) :=
  entries.foldl (fun sorted e => insert e.1 e.2 sorted) []

/-- Every entry after an insertion is the new one or an old one. -/
theorem mem_insert {α : Type} {name : String} {value : α} {entries : List (String × α)}
    {e : String × α} (h : e ∈ insert name value entries) :
    e = (name, value) ∨ e ∈ entries := by
  induction entries with
  | nil => simpa [insert] using h
  | cons head rest ih =>
    simp only [insert] at h
    split at h
    · simpa using h
    · split at h
      · rcases List.mem_cons.1 h with h | h
        · exact .inl h
        · exact .inr (List.mem_cons_of_mem _ h)
      · rcases List.mem_cons.1 h with h | h
        · exact .inr (by simp [h])
        · rcases ih h with h | h
          · exact .inl h
          · exact .inr (List.mem_cons_of_mem _ h)

/-- Names that are neither equal nor ascending descend. -/
theorem lt_of_not_le {a b : String} (h : ¬ a < b) (hne : a ≠ b) : b < a := by
  rcases Decidable.em (b < a) with hba | hba
  · exact hba
  · exact absurd (String.le_antisymm (String.not_lt.1 hba) (String.not_lt.1 h)) hne

theorem pairwise_insert {α : Type} (name : String) (value : α) {entries : List (String × α)}
    (h : entries.Pairwise (fun a b => a.1 < b.1)) :
    (insert name value entries).Pairwise (fun a b => a.1 < b.1) := by
  induction entries with
  | nil => simp [insert]
  | cons head rest ih =>
    obtain ⟨n, t⟩ := head
    obtain ⟨hhead, hrest⟩ := List.pairwise_cons.1 h
    simp only [insert]
    split
    · next hlt =>
      refine List.pairwise_cons.2 ⟨fun e he => ?_, h⟩
      rcases List.mem_cons.1 he with he | he
      · simpa [he] using hlt
      · exact String.lt_trans hlt (hhead e he)
    · next hlt =>
      split
      · next heq => exact List.pairwise_cons.2 ⟨fun e he => heq ▸ hhead e he, hrest⟩
      · next hne =>
        refine List.pairwise_cons.2 ⟨fun e he => ?_, ih hrest⟩
        rcases mem_insert he with he | he
        · rw [he]; exact lt_of_not_le hlt hne
        · exact hhead e he

theorem find?_insert {α : Type} (name : String) (value : α) (other : String)
    (entries : List (String × α)) :
    find? other (insert name value entries) =
      if name = other then some value else find? other entries := by
  induction entries with
  | nil => simp [insert, find?]
  | cons head rest ih =>
    obtain ⟨n, t⟩ := head
    simp only [insert]
    split
    · simp [find?]
    · split
      · next heq =>
        subst heq
        by_cases h : name = other <;> simp [find?, h]
      · next hne =>
        by_cases h : n = other
        · have hno : ¬ name = other := fun e => hne (e.trans h.symm)
          simp [find?, h, hno]
        · simp [find?, h, ih]

/-- A name below all others is not found. -/
theorem find?_eq_none_of_lt {α : Type} {name : String} {entries : List (String × α)}
    (h : ∀ e ∈ entries, name < e.1) : find? name entries = none := by
  induction entries with
  | nil => rfl
  | cons head rest ih =>
    have hne : ¬ head.1 = name := fun e =>
      String.lt_irrefl name (e ▸ h head List.mem_cons_self)
    simp [find?, hne, ih (fun e he => h e (List.mem_cons_of_mem _ he))]

/-- In ascending entries a name below the first one is not found. -/
theorem find?_cons_eq_none_of_lt {α : Type} {name : String} {e : String × α}
    {entries : List (String × α)} (he : ∀ e' ∈ entries, e.1 < e'.1) (h : name < e.1) :
    find? name (e :: entries) = none := by
  refine find?_eq_none_of_lt (fun e' he' => ?_)
  rcases List.mem_cons.1 he' with he' | he'
  · exact he' ▸ h
  · exact String.lt_trans h (he e' he')

/-- The first names of ascending entries with equal findings are equal. -/
theorem head_eq_of_find?_eq {α : Type} {x y : String × α} {xs ys : List (String × α)}
    (hx : ∀ e ∈ xs, x.1 < e.1) (hy : ∀ e ∈ ys, y.1 < e.1)
    (h : ∀ name, find? name (x :: xs) = find? name (y :: ys)) : x.1 = y.1 := by
  refine Decidable.by_contra (fun hne => ?_)
  rcases Decidable.em (x.1 < y.1) with hlt | hlt
  · have hfind := h x.1
    rw [find?_cons_eq_none_of_lt hy hlt] at hfind
    simp [find?] at hfind
  · have hfind := h y.1
    rw [find?_cons_eq_none_of_lt hx (lt_of_not_le hlt hne)] at hfind
    simp [find?] at hfind

/-- Ascending entries are determined by what is found under each name. -/
theorem eq_of_find?_eq {α : Type} {xs ys : List (String × α)}
    (hx : xs.Pairwise (fun a b => a.1 < b.1)) (hy : ys.Pairwise (fun a b => a.1 < b.1))
    (h : ∀ name, find? name xs = find? name ys) : xs = ys := by
  induction xs generalizing ys with
  | nil =>
    cases ys with
    | nil => rfl
    | cons y ys => have := h y.1; simp [find?] at this
  | cons x xs ih =>
    cases ys with
    | nil => have := h x.1; simp [find?] at this
    | cons y ys =>
      obtain ⟨hxs, hx'⟩ := List.pairwise_cons.1 hx
      obtain ⟨hys, hy'⟩ := List.pairwise_cons.1 hy
      have hname : x.1 = y.1 := head_eq_of_find?_eq hxs hys h
      have hvalue : x.2 = y.2 := by
        have hfind := h x.1
        simpa [find?, hname] using hfind
      have hrest : xs = ys := by
        refine ih hx' hy' (fun name => ?_)
        by_cases hn : x.1 = name
        · rw [find?_eq_none_of_lt (fun e he => hn ▸ hxs e he),
            find?_eq_none_of_lt (fun e he => hn ▸ hname ▸ hys e he)]
        · have hfind := h name
          have hn' : ¬ y.1 = name := hname ▸ hn
          simpa [find?, hn, hn'] using hfind
      rw [hrest, Prod.ext hname hvalue]

theorem pairwise_sort {α : Type} (entries : List (String × α)) :
    (sort entries).Pairwise (fun a b => a.1 < b.1) := by
  -- every list that sorting passes through ascends
  have key : ∀ sorted : List (String × α), sorted.Pairwise (fun a b => a.1 < b.1) →
      (entries.foldl (fun sorted e => insert e.1 e.2 sorted) sorted).Pairwise
        (fun a b => a.1 < b.1) := by
    induction entries with
    | nil => intro sorted h; exact h
    | cons e rest ih => intro sorted h; exact ih _ (pairwise_insert e.1 e.2 h)
  exact key [] List.Pairwise.nil

end Entries
end FleetLifecycle
