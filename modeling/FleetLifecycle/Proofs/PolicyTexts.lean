import FleetLifecycle.Proofs.Payloads
import Mathlib.Data.List.TakeWhile

/-!
# Policy texts — what is read of a tag that is written out

A tag is read without the blanks around it, then cut at its first colon and at every slash, and each
parameter is read without the blanks around it once more.  Concretely, we:

1. show that a text has one text without the blanks around it (`Text.trimChars_eq_iff`);
2. follow a tag to the word for its kind and to its parameters (`Policy.parse_of_toList`);
3. read a parameter as a text or as a number (`Policy.text_of_parameter`,
   `Policy.number_of_numeral`).
-/

namespace FleetLifecycle

namespace Text

/-! ## Blanks around a text -/

variable {outer inner cs blanks : List Char}

theorem trimStart_append (hblanks : ∀ c ∈ blanks, isBlank c = true) :
    trimStart (blanks ++ cs) = trimStart cs :=
  List.dropWhile_append_of_pos hblanks

/-- There is only one text without the blanks around it. -/
theorem trimChars_eq_iff : trimChars outer = inner ↔ TrimsTo outer inner := by
  constructor
  · rintro rfl
    exact trimsTo_trimChars outer
  · rintro ⟨⟨before, after, rfl, hbefore, hafter⟩, hfirst, hlast⟩
    rw [trimChars, List.append_assoc, trimStart_append hbefore]
    cases inner with
    | nil =>
      have hnone : trimStart after = [] := List.dropWhile_eq_nil_iff.2 hafter
      rw [List.nil_append, hnone]
      rfl
    | cons c inner =>
      have hstart : NoBlank (c :: inner ++ after) :=
        noBlank_append (List.cons_ne_nil c inner) hfirst after
      have hafter' : ∀ c ∈ after.reverse, isBlank c = true := by
        simpa using hafter
      rw [trimStart_of_noBlank hstart, List.reverse_append, trimStart_append hafter',
        trimStart_of_noBlank hlast, List.reverse_reverse]

/-- Only blanks leave nothing. -/
theorem trimChars_eq_nil_iff : trimChars cs = [] ↔ ∀ c ∈ cs, isBlank c = true := by
  rw [trimChars_eq_iff]
  constructor
  · rintro ⟨⟨before, after, rfl, hbefore, hafter⟩, -, -⟩
    rw [List.append_nil]
    exact List.forall_mem_append.2 ⟨hbefore, hafter⟩
  · intro h
    exact ⟨⟨cs, [], by simp, h, by simp⟩, by rintro c ⟨⟩, by rintro c ⟨⟩⟩

/-- Blanks that follow do not count. -/
theorem trimChars_append_blanks (hblanks : ∀ c ∈ blanks, isBlank c = true) (cs : List Char) :
    trimChars (cs ++ blanks) = trimChars cs := by
  obtain ⟨⟨before, after, hcs, hbefore, hafter⟩, hfirst, hlast⟩ := trimsTo_trimChars cs
  refine trimChars_eq_iff.2 ⟨⟨before, after ++ blanks, ?_, hbefore, ?_⟩, hfirst, hlast⟩
  · rw [← List.append_assoc, ← hcs]
  · exact List.forall_mem_append.2 ⟨hafter, hblanks⟩

/-- Blanks that follow may be cut off before a text is cut at a character or after. -/
theorem exists_takeWhile_append (cs : List Char) (p : Char → Bool)
    (hblanks : ∀ c ∈ blanks, isBlank c = true) :
    ∃ more, (cs ++ blanks).takeWhile p = cs.takeWhile p ++ more ∧ ∀ c ∈ more, isBlank c = true := by
  rw [List.takeWhile_append]
  split
  · next hall =>
    rw [(List.takeWhile_prefix p).eq_of_length hall]
    exact ⟨_, rfl, fun c hc => hblanks c ((List.takeWhile_sublist p).subset hc)⟩
  · exact ⟨[], by simp, by simp⟩

/-- A text ends with its blanks. -/
theorem exists_trimEnd (cs : List Char) :
    ∃ core blanks, cs = core ++ blanks ∧ (∀ c ∈ blanks, isBlank c = true) ∧
      NoBlank core.reverse := by
  obtain ⟨before, hcs, hbefore⟩ := exists_trimStart cs.reverse
  refine ⟨(trimStart cs.reverse).reverse, before.reverse, ?_, by simpa using hbefore, ?_⟩
  · rw [← List.reverse_append, ← hcs, List.reverse_reverse]
  · rw [List.reverse_reverse]
    exact noBlank_trimStart _

/-! ## Numbers -/

/-- The digits write the number, with or without leading zeros. -/
structure Numeral (digits : List Char) (n : UInt32) : Prop where
  nonempty : digits ≠ []
  isDigit : ∀ c ∈ digits, c.isDigit = true
  value : ofDigits digits = n.toNat

variable {digits : List Char} {n : UInt32}

theorem Numeral.notMem (h : Numeral digits n) {c : Char} (hc : c.isDigit = false) :
    c ∉ digits := by
  intro hmem
  rw [h.isDigit c hmem] at hc
  cases hc

theorem Numeral.noBlank_reverse (h : Numeral digits n) : NoBlank digits.reverse :=
  noBlank_of_isDigit (fun c hc => h.isDigit c (List.mem_reverse.1 hc))

theorem Numeral.trimChars_eq (h : Numeral digits n) : trimChars digits = digits := by
  refine trimChars_eq_iff.2 ⟨⟨[], [], by simp, by simp, by simp⟩, ?_, h.noBlank_reverse⟩
  exact noBlank_of_isDigit h.isDigit

theorem Numeral.exists_notBlank (h : Numeral digits n) : ∃ c ∈ digits, isBlank c = false := by
  obtain ⟨c, hc⟩ := List.exists_mem_of_ne_nil digits h.nonempty
  exact ⟨c, hc, isBlank_of_isDigit (h.isDigit c hc)⟩

end Text

namespace Policy

open Text (NoBlank Numeral isBlank)

variable {p : Policy} {index : Nat} {value digits word rest blanks : List Char} {hours : UInt32}

/-! ## Parameters -/

/-- The first parameter ends where the first slash stands. -/
theorem parametersOf_zero (hne : rest ≠ []) :
    (parametersOf (some rest))[0]? = some (String.ofList (rest.takeWhile (· ≠ '/'))) := by
  obtain ⟨c, cs, rfl⟩ := List.exists_cons_of_ne_nil hne
  rw [parametersOf, List.getElem?_map, ← List.head?_eq_getElem?, Text.head?_splitAll,
    Option.map_some]
  simp

/-- The second parameter stands between the first slash and the next. -/
theorem parametersOf_one (hvalue : '/' ∉ value) :
    (parametersOf (some (value ++ '/' :: rest)))[1]? =
      some (String.ofList (rest.takeWhile (· ≠ '/'))) := by
  have hparameters : parametersOf (some (value ++ '/' :: rest)) =
      String.ofList value :: (Text.splitAll '/' rest).map String.ofList := by
    rw [parametersOf, Text.splitAll_append hvalue, List.map_cons]
    simp
  rw [hparameters, List.getElem?_cons_succ, List.getElem?_map, ← List.head?_eq_getElem?,
    Text.head?_splitAll, Option.map_some]

theorem text_of_parameter (hparameter : p.parameters[index]? = some (String.ofList value))
    (hvalue : ∃ c ∈ value, isBlank c = false) (name : String) :
    p.text index name = .ok (String.ofList (Text.trimChars value)) := by
  have hnot : Text.isBlankText (String.ofList value) = false := by
    obtain ⟨c, hc, hblank⟩ := hvalue
    rw [Text.isBlankText, String.toList_ofList, List.all_eq_false]
    exact ⟨c, hc, by simp [hblank]⟩
  simp [text, hparameter, hnot, Text.trim]

/-- A text of digits is a number. -/
theorem number_of_text {name : String} (htext : p.text index name = .ok (String.ofList digits))
    (numeral : Numeral digits hours) : p.number index name = .ok hours := by
  have hdigits : Text.isDigits digits = true := List.all_eq_true.2 numeral.isDigit
  have hbound : hours.toNat < twoTo 32 := hours.toNat_lt
  rw [number, htext]
  simp [bind, Except.bind, hdigits, numeral.value, hbound]

/-- A parameter of digits is a number. -/
theorem number_of_numeral (hparameter : p.parameters[index]? = some (String.ofList digits))
    (numeral : Numeral digits hours) (name : String) : p.number index name = .ok hours := by
  have htext := text_of_parameter hparameter numeral.exists_notBlank name
  rw [numeral.trimChars_eq] at htext
  exact number_of_text htext numeral

/-! ## Tags -/

/-- A tag is cut at its first colon, once the blanks behind it are gone. -/
theorem parse_of_toList {tag : String} (htag : tag.toList = word ++ ':' :: rest ++ blanks)
    (hword : ':' ∉ word) (hfirst : NoBlank (word ++ [':'])) (hlast : NoBlank (':' :: rest).reverse)
    (hblanks : ∀ c ∈ blanks, isBlank c = true) :
    (parse tag).kind = PolicyKind.ofToken (String.ofList word) ∧
      (parse tag).parameters = parametersOf (some rest) := by
  have htrim : Text.trimChars tag.toList = word ++ ':' :: rest := by
    rw [htag, Text.trimChars_append_blanks hblanks]
    refine Text.trimChars_eq_iff.2 ⟨⟨[], [], by simp, by simp, by simp⟩, ?_, ?_⟩
    · have hstart := Text.noBlank_append (by simp) hfirst rest
      rwa [List.append_assoc] at hstart
    · rw [List.reverse_append]
      exact Text.noBlank_append (by simp) hlast _
  simp [parse, htrim, Text.splitFirst_append hword]

end Policy
end FleetLifecycle
