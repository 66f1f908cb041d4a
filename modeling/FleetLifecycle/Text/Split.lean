/-!
# Split — cutting a text at a separator

A policy tag is cut once at its first colon and its parameters at every slash.  Both cuts lose
nothing: the parts, joined with the separator, give the text back.

1. `splitFirst`, the part before the first separator and, if there is one, the part after it;
2. `splitAll`, the parts between all separators (one more part than separators);
3. `joinWith`, the text that a list of parts makes.
-/

namespace FleetLifecycle
namespace Text

/-- The text before the first `sep` and the text after it, if `sep` occurs. -/
def splitFirst (sep : Char) : List Char → List Char × Option (List Char)
  | [] => ([], none)
  | c :: cs =>
    if c = sep then ([], some cs)
    else
      let (before, after) := splitFirst sep cs
      (c :: before, after)

/-- The parts between the separators; a text without separators is one part. -/
def splitAll (sep : Char) : List Char → List (List Char)
  | [] => [[]]
  | c :: cs =>
    if c = sep then [] :: splitAll sep cs
    else
      match splitAll sep cs with
      | [] => [[c]]
      | part :: parts => (c :: part) :: parts

/-- The parts in a row, with the separator between neighbours. -/
def joinWith (sep : Char) : List (List Char) → List Char
  | [] => []
  | [part] => part
  | part :: parts => part ++ sep :: joinWith sep parts

section

variable {sep : Char} {before cs : List Char}

theorem splitFirst_of_notMem (h : sep ∉ cs) : splitFirst sep cs = (cs, none) := by
  induction cs with
  | nil => rfl
  | cons c cs ih =>
    obtain ⟨hc, hcs⟩ : sep ≠ c ∧ sep ∉ cs := by simpa using h
    simp [splitFirst, Ne.symm hc, ih hcs]

theorem splitFirst_append (h : sep ∉ before) (after : List Char) :
    splitFirst sep (before ++ sep :: after) = (before, some after) := by
  induction before with
  | nil => simp [splitFirst]
  | cons c before ih =>
    obtain ⟨hc, hbefore⟩ : sep ≠ c ∧ sep ∉ before := by simpa using h
    simp [splitFirst, Ne.symm hc, ih hbefore]

theorem splitAll_append (h : sep ∉ before) (after : List Char) :
    splitAll sep (before ++ sep :: after) = before :: splitAll sep after := by
  induction before with
  | nil => simp [splitAll]
  | cons c before ih =>
    obtain ⟨hc, hbefore⟩ : sep ≠ c ∧ sep ∉ before := by simpa using h
    simp [splitAll, Ne.symm hc, ih hbefore]

theorem head?_splitAll (sep : Char) (cs : List Char) :
    (splitAll sep cs).head? = some (cs.takeWhile (· ≠ sep)) := by
  induction cs with
  | nil => rfl
  | cons c cs ih =>
    by_cases hc : c = sep
    · simp [splitAll, hc]
    · cases hs : splitAll sep cs with
      | nil => simp [hs] at ih
      | cons part parts =>
        rw [hs] at ih
        have hpart : part = cs.takeWhile (· ≠ sep) := by simpa using ih
        simp [splitAll, hc, hs, hpart]

end

theorem splitAll_ne_nil (sep : Char) (cs : List Char) : splitAll sep cs ≠ [] := by
  cases cs with
  | nil => simp [splitAll]
  | cons c cs =>
    simp only [splitAll]
    split
    · simp
    · split <;> simp

/-- The parts, joined again, are the text that was cut. -/
theorem joinWith_splitAll (sep : Char) (cs : List Char) :
    joinWith sep (splitAll sep cs) = cs := by
  induction cs with
  | nil => rfl
  | cons c cs ih =>
    simp only [splitAll]
    split
    · next h =>
      cases hs : splitAll sep cs with
      | nil => exact absurd hs (splitAll_ne_nil sep cs)
      | cons part parts => rw [hs] at ih; simp [joinWith, ih, h]
    · cases hs : splitAll sep cs with
      | nil => exact absurd hs (splitAll_ne_nil sep cs)
      | cons part parts =>
        rw [hs] at ih
        cases parts with
        | nil => simpa [joinWith] using ih
        | cons next rest => simpa [joinWith] using ih

end Text
end FleetLifecycle
