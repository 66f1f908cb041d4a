import FleetLifecycle.Proofs.PolicyTexts

/-!
# The grammar of policies — reading a tag loses nothing

A tag is a word, or a word, a colon and parameters with slashes between them.  Words hold no colon
and parameters no slash, so a tag is written in one way only.  Concretely, we:

1. show that parts without separators are found again in the text that they make
   (`Text.splitAll_joinWith`);
2. state the grammar as a relation between a text, its word and its parameters (`Policy.Writes`);
3. show that every text is written in this way (`Policy.writes_splitFirst`), and in no other
   (`Policy.Writes.splitFirst_eq`), and that words stay apart as kinds
   (`PolicyKind.token_ofToken`), and conclude with `Policy.parse_iff_writes`.
-/

namespace FleetLifecycle

namespace Text

variable {sep : Char} {cs : List Char} {part : List Char} {parts : List (List Char)}

/-! ## Separators -/

theorem splitAll_of_notMem (h : sep ∉ cs) : splitAll sep cs = [cs] := by
  induction cs with
  | nil =>
    rfl
  | cons c cs ih =>
    obtain ⟨hc, hcs⟩ : sep ≠ c ∧ sep ∉ cs := by simpa using h
    simp [splitAll, Ne.symm hc, ih hcs]

/-- Parts that hold no separator are found again. -/
theorem splitAll_joinWith (hne : parts ≠ []) (h : ∀ part ∈ parts, sep ∉ part) :
    splitAll sep (joinWith sep parts) = parts := by
  induction parts with
  | nil =>
    exact absurd rfl hne
  | cons part parts ih =>
    obtain ⟨hpart, hparts⟩ := List.forall_mem_cons.1 h
    cases parts with
    | nil =>
      exact splitAll_of_notMem hpart
    | cons next rest =>
      rw [joinWith, splitAll_append hpart, ih (List.cons_ne_nil next rest) hparts]
      exact List.cons_ne_nil next rest

theorem notMem_of_mem_splitAll (h : part ∈ splitAll sep cs) : sep ∉ part := by
  induction cs generalizing part with
  | nil =>
    simp_all [splitAll]
  | cons c cs ih =>
    simp only [splitAll] at h
    split at h
    · rcases List.mem_cons.1 h with rfl | hmem
      · simp
      · exact ih hmem
    · next hc =>
      obtain ⟨first, rest, hsplit⟩ := List.exists_cons_of_ne_nil (splitAll_ne_nil sep cs)
      rw [hsplit] at h ih
      rcases List.mem_cons.1 h with rfl | hmem
      · simpa [Ne.symm hc] using ih List.mem_cons_self
      · exact ih (List.mem_cons_of_mem _ hmem)

theorem joinWith_eq_intercalate (sep : Char) (parts : List (List Char)) :
    joinWith sep parts = [sep].intercalate parts := by
  induction parts with
  | nil =>
    rfl
  | cons part parts ih =>
    cases parts with
    | nil =>
      simp [joinWith]
    | cons next rest =>
      rw [joinWith, ih, List.intercalate_cons_cons]
      · simp
      · exact List.cons_ne_nil next rest

end Text

namespace PolicyKind

/-! ## Words -/

/-- Kinds keep the word that they were read from; only the empty word is written out. -/
theorem token_ofToken (word : String) :
    (ofToken word).token = if word = "" then "none" else word := by
  unfold ofToken
  repeat' split
  all_goals
    simp_all [token]

theorem ofToken_eq_none_iff {word : String} :
    ofToken word = .none ↔ word = "" ∨ word = "none" := by
  unfold ofToken
  repeat' split
  all_goals
    simp_all

end PolicyKind

namespace Policy

/-! ## The grammar -/

/-- The text is a word, or a word, a colon and parameters with a slash between neighbours.  A single
empty parameter cannot be told from none. -/
inductive Writes : String → String → List String → Prop where
  | bare {word : String} (noColon : ':' ∉ word.toList) : Writes word word []
  | withParameters {word : String} {parameters : List String} (noColon : ':' ∉ word.toList)
      (noSlash : ∀ value ∈ parameters, '/' ∉ value.toList) (notEmpty : parameters ≠ [""]) :
      Writes (word ++ ":" ++ "/".intercalate parameters) word parameters

variable {text word : String} {parameters : List String} {rest : List Char}

theorem toList_slashes (parameters : List String) :
    ("/".intercalate parameters).toList = Text.joinWith '/' (parameters.map String.toList) := by
  rw [String.toList_intercalate, Text.joinWith_eq_intercalate]
  rfl

/-- Parameters are found again where they are written, unless one empty parameter is all there
is. -/
theorem parametersOf_slashes (noSlash : ∀ value ∈ parameters, '/' ∉ value.toList)
    (notEmpty : parameters ≠ [""]) :
    parametersOf (some ("/".intercalate parameters).toList) = parameters := by
  cases parameters with
  | nil =>
    simp [parametersOf]
  | cons value values =>
    have hsplit : Text.splitAll '/' ("/".intercalate (value :: values)).toList =
        (value :: values).map String.toList := by
      rw [toList_slashes]
      exact Text.splitAll_joinWith (by simp) (by simpa using noSlash)
    have hne : ("/".intercalate (value :: values)).toList ≠ [] := by
      intro hnil
      rw [hnil] at hsplit
      -- the empty text has one part, which is empty
      cases values with
      | nil =>
        have hvalue : value = "" := by
          simpa [Text.splitAll] using hsplit.symm
        exact notEmpty (by rw [hvalue])
      | cons next more =>
        simp [Text.splitAll] at hsplit
    obtain ⟨c, cs, hcs⟩ := List.exists_cons_of_ne_nil hne
    rw [hcs] at hsplit ⊢
    rw [parametersOf, hsplit, List.map_map]
    · simp
    · exact List.cons_ne_nil c cs

/-- The parameters of a text hold no slash, and with slashes they make the text again. -/
theorem slashes_parametersOf (rest : List Char) :
    "/".intercalate (parametersOf (some rest)) = String.ofList rest ∧
      (∀ value ∈ parametersOf (some rest), '/' ∉ value.toList) ∧
      parametersOf (some rest) ≠ [""] := by
  cases rest with
  | nil =>
    simp [parametersOf]
  | cons c cs =>
    have hparts : parametersOf (some (c :: cs)) = (Text.splitAll '/' (c :: cs)).map String.ofList :=
      rfl
    have hjoin : ("/".intercalate (parametersOf (some (c :: cs)))).toList = c :: cs := by
      rw [toList_slashes, hparts, List.map_map]
      simpa [Function.comp_def] using Text.joinWith_splitAll '/' (c :: cs)
    refine ⟨?_, ?_, ?_⟩
    · exact String.toList_injective (hjoin.trans String.toList_ofList.symm)
    · intro value hvalue
      rw [hparts] at hvalue
      obtain ⟨part, hpart, rfl⟩ := List.mem_map.1 hvalue
      rw [String.toList_ofList]
      exact Text.notMem_of_mem_splitAll hpart
    · intro hempty
      simp [hempty] at hjoin

/-- Every text is written as the grammar says, with the parts that reading finds. -/
theorem writes_splitFirst (cs : List Char) :
    Writes (String.ofList cs) (String.ofList (Text.splitFirst ':' cs).1)
      (parametersOf (Text.splitFirst ':' cs).2) := by
  by_cases hcolon : ':' ∈ cs
  · obtain ⟨before, after, rfl, hbefore⟩ := List.eq_append_cons_of_mem hcolon
    obtain ⟨hjoin, noSlash, notEmpty⟩ := slashes_parametersOf after
    have htext : String.ofList (before ++ ':' :: after) =
        String.ofList before ++ ":" ++ "/".intercalate (parametersOf (some after)) := by
      rw [hjoin]
      apply String.toList_injective
      simp
    rw [Text.splitFirst_append hbefore, htext]
    exact .withParameters (by simpa using hbefore) noSlash notEmpty
  · rw [Text.splitFirst_of_notMem hcolon]
    exact .bare (by simpa using hcolon)

/-- Reading finds the word and the parameters that are written. -/
theorem Writes.splitFirst_eq (h : Writes text word parameters) :
    (Text.splitFirst ':' text.toList).1 = word.toList ∧
      parametersOf (Text.splitFirst ':' text.toList).2 = parameters := by
  cases h with
  | bare noColon =>
    rw [Text.splitFirst_of_notMem noColon]
    exact ⟨rfl, rfl⟩
  | withParameters noColon noSlash notEmpty =>
    have htext : (word ++ ":" ++ "/".intercalate parameters).toList =
        word.toList ++ ':' :: ("/".intercalate parameters).toList := by
      simp
    rw [htext, Text.splitFirst_append noColon]
    exact ⟨rfl, parametersOf_slashes noSlash notEmpty⟩

/-! ## Reading -/

/-- Blanks around a tag do not count, and so do not count twice. -/
theorem parse_trim (s : String) : parse (Text.trim s) = parse s := by
  obtain ⟨-, hfirst, hlast⟩ := Text.trimsTo_trimChars s.toList
  have hagain : Text.trimChars (Text.trimChars s.toList) = Text.trimChars s.toList :=
    Text.trimChars_eq_iff.2 ⟨⟨[], [], by simp, by simp, by simp⟩, hfirst, hlast⟩
  simp [parse, Text.trim, hagain]

theorem parse_eq_iff {s : String} {p : Policy} :
    parse s = p ↔ Text.TrimsTo s.toList p.raw.toList ∧
      ∃ word, Writes p.raw word p.parameters ∧ p.kind = .ofToken word := by
  constructor
  · rintro rfl
    exact ⟨Text.trimsTo_trim s, _, writes_splitFirst (Text.trimChars s.toList), rfl⟩
  · rintro ⟨htrim, word, hwrites, hkind⟩
    have hraw : Text.trimChars s.toList = p.raw.toList := Text.trimChars_eq_iff.2 htrim
    obtain ⟨hword, hparameters⟩ := hwrites.splitFirst_eq
    simp [parse, hraw, hword, hparameters, ← hkind]

/-- Reading a tag gives the one policy whose text is the tag without the blanks around it, whose
parameters are written there after a colon and with slashes between them, and whose kind is that of
the word before.  Words other than the empty one can be read off their kinds, so only the empty word
and the word for it are no policy, and words that are not known stay apart. -/
theorem parse_iff_writes :
    (∀ (s : String) (p : Policy), parse s = p ↔ Text.TrimsTo s.toList p.raw.toList ∧
      ∃ word, Writes p.raw word p.parameters ∧ p.kind = .ofToken word) ∧
    (∀ s : String, (parse s).raw = Text.trim s ∧ parse (Text.trim s) = parse s) ∧
    (∀ word, (PolicyKind.ofToken word).token = if word = "" then "none" else word) ∧
    (∀ word, PolicyKind.ofToken word = .none ↔ word = "" ∨ word = "none") ∧
    ∀ word word', (PolicyKind.ofToken word).isUnknown = true →
      PolicyKind.ofToken word = PolicyKind.ofToken word' → word = word' := by
  refine ⟨fun s p => parse_eq_iff, fun s => ⟨rfl, parse_trim s⟩, PolicyKind.token_ofToken,
    fun word => PolicyKind.ofToken_eq_none_iff, ?_⟩
  intro word word' hunknown heq
  -- words that are no policy are known
  have hknown : ∀ w, (PolicyKind.ofToken w).isUnknown = true → w ≠ "" := by
    rintro w hw rfl
    cases hw
  have htoken := congrArg PolicyKind.token heq
  rw [PolicyKind.token_ofToken, PolicyKind.token_ofToken, if_neg (hknown word hunknown),
    if_neg (hknown word' (heq ▸ hunknown))] at htoken
  exact htoken

/-- Slashes at the end and next to each other have empty parameters between them. -/
example : (parse " cycle-daily:08//18/ ").parameters = ["08", "", "18", ""] := by
  decide

end Policy
end FleetLifecycle
