import FleetLifecycle.Json.Printer
import FleetLifecycle.Proofs.JsonScanning

/-!
# JSON round trips — a value that was written is read again

Concretely, we:

1. say which values can be read again at all (`Json.fitsIn`): those of whole numbers of 64 bits
   that do not nest too deep;
2. say which texts are those of a value (`Json.HasText`): the texts it is read from
   (`Json.parse?_eq_some_iff`);
3. show that printed strings and numbers are spelled as they should be, so that what is scanned of
   a printed value is the draft of that value (`Json.draft`), be it printed on one line
   (`Json.hasText_compact`) or over several (`Json.hasText_pretty`).
-/

namespace FleetLifecycle

namespace Json

open Draft (depthLimit space_nil Space Shown Laid LaidItems LaidEntries Spells UnitsSpelled Denotes)

mutual

/-- What is scanned of a text that shows the value; there are none for a real. -/
def draft : Json → Draft
  | .null => .null
  | .bool b => .bool b
  | .integer n => .number (.ofInt n)
  | .real _ => .null
  | .string s => .string (some s)
  | .array items => .array (drafts items)
  | .object entries => .object (entryDrafts entries)

def drafts : List Json → List Draft
  | [] => []
  | v :: items => draft v :: drafts items

def entryDrafts : List (String × Json) → List (Option String × Draft)
  | [] => []
  | (k, v) :: entries => (some k, draft v) :: entryDrafts entries

end

/-! ## Values that can be read again -/

mutual

/-- All numbers are whole and of 64 bits, and arrays and objects nest at most `depth` deep. -/
def fitsIn (depth : Nat) : Json → Bool
  | .null | .bool _ | .string _ => true
  | .integer n => -(signedBound : Int) ≤ n && n < (unsignedBound : Int)
  | .real _ => false
  | .array items =>
    match depth with
    | 0 => false
    | depth + 1 => itemsFitIn depth items
  | .object entries =>
    match depth with
    | 0 => false
    | depth + 1 => entriesFitIn depth entries

def itemsFitIn (depth : Nat) : List Json → Bool
  | [] => true
  | v :: items => fitsIn depth v && itemsFitIn depth items

def entriesFitIn (depth : Nat) : List (String × Json) → Bool
  | [] => true
  | (_, v) :: entries => fitsIn depth v && entriesFitIn depth entries

end

mutual

theorem value?_draft (depth : Nat) : (v : Json) → v.fitsIn depth = true →
    Draft.value? depth v.draft = some v
  | .null, _ => rfl
  | .bool _, _ => rfl
  | .string _, _ => rfl
  | .real _, h => nomatch h
  | .integer n, h => by
    simp only [fitsIn, Bool.and_eq_true, decide_eq_true_eq] at h
    exact NumberLiteral.toJson?_ofInt h.1 h.2
  | .array items, h => by
    cases depth with
    | zero =>
      exact nomatch h
    | succ depth =>
      have hitems := values?_drafts depth items h
      simp [draft, Draft.value?, hitems]
  | .object entries, h => by
    cases depth with
    | zero =>
      exact nomatch h
    | succ depth =>
      have hentries := entries?_entryDrafts depth entries h
      simp [draft, Draft.value?, hentries]

theorem values?_drafts (depth : Nat) : (items : List Json) → itemsFitIn depth items = true →
    Draft.values? depth (drafts items) = some items
  | [], _ => rfl
  | v :: items, h => by
    obtain ⟨hv, hitems⟩ := Bool.and_eq_true_iff.1 h
    simp [drafts, Draft.values?, value?_draft depth v hv, values?_drafts depth items hitems]

theorem entries?_entryDrafts (depth : Nat) : (entries : List (String × Json)) →
    entriesFitIn depth entries = true →
    Draft.entries? depth (entryDrafts entries) = some entries
  | [], _ => rfl
  | (k, v) :: entries, h => by
    obtain ⟨hv, hentries⟩ := Bool.and_eq_true_iff.1 h
    simp [entryDrafts, Draft.entries?, value?_draft depth v hv,
      entries?_entryDrafts depth entries hentries]

end

/-! ## Texts of values -/

/-- The text is one of those that say what the value is, in whatever way it spells its strings and
numbers, and with any white space. -/
def HasText (v : Json) (s : String) : Prop :=
  ∃ d, Laid d s.toList ∧ d.value? depthLimit = some v

/-- A value is read from its texts, and from nothing else. -/
theorem parse?_eq_some_iff {s : String} {v : Json} : parse? s = some v ↔ v.HasText s := by
  rw [parse?, Option.bind_eq_some_iff]
  exact exists_congr (fun d => and_congr_left (fun _ => Draft.ofText?_eq_some_iff))

/-! ## Strings and numbers -/

/-- A character of a string is escaped by a letter, by its number, or not at all. -/
theorem escapeChar_cases (c : Char) :
    (∃ e, Draft.shortEscape? e = some c ∧ escapeChar c = ['\\', e]) ∨
    (c.toNat < 0x20 ∧ escapeChar c =
      ['\\', 'u', '0', '0', Text.hexDigit (Text.nibble (c.toNat / 16)),
        Text.hexDigit (Text.nibble c.toNat)]) ∨
    (c ≠ '"' ∧ c ≠ '\\' ∧ 0x20 ≤ c.toNat ∧ escapeChar c = [c]) := by
  unfold escapeChar
  repeat' split
  all_goals
    first
    | subst c
      exact .inl ⟨_, rfl, rfl⟩
    | skip
  · next h =>
    exact .inr (.inl ⟨h, rfl⟩)
  · next hquote hslash _ _ _ _ _ h =>
    exact .inr (.inr ⟨hquote, hslash, Nat.not_lt.1 h, rfl⟩)

/-- What stands for a character in a string is one unit, and that unit is the character. -/
theorem exists_unit (c : Char) :
    ∃ u : Draft.Unit16, u.Spelled (escapeChar c) ∧
      ∀ us cs, Denotes us cs → Denotes (u :: us) (c :: cs) := by
  rcases escapeChar_cases c with ⟨e, hshort, heq⟩ | ⟨hcontrol, heq⟩ | ⟨hquote, hslash, hle, heq⟩
  · exact ⟨.char c, heq ▸ .letter hshort, fun us cs => .char c⟩
  · -- a control character is escaped by its number, which is no surrogate
    have hzero : Text.hexValue? '0' = some 0 := rfl
    have hcode := Draft.Unit16.Spelled.code hzero hzero
      (Text.hexValue?_hexDigit (Text.nibble (c.toNat / 16)))
      (Text.hexValue?_hexDigit (Text.nibble c.toNat))
    have hvalue : (0 : Fin 16).val * 4096 + (0 : Fin 16).val * 256 +
        (Text.nibble (c.toNat / 16)).val * 16 + (Text.nibble c.toNat).val = c.toNat := by
      simp only [Text.nibble, Fin.val_zero]
      omega
    refine ⟨.escaped c.toNat, ?_, fun us cs h => ?_⟩
    · rw [hvalue] at hcode
      rwa [heq]
    · have hplain : c.toNat < 0xD800 ∨ 0xDFFF < c.toNat := by omega
      have hdenotes := Denotes.code hplain h
      rwa [Char.ofNat_toNat] at hdenotes
  · exact ⟨.char c, heq ▸ .plain hquote hslash hle, fun us cs => .char c⟩

/-- A printed string spells itself. -/
theorem spells_escaped (s : String) : Spells (some s) (s.toList.flatMap escapeChar) := by
  have hunits : ∀ cs : List Char,
      ∃ us, UnitsSpelled us (cs.flatMap escapeChar) ∧ Denotes us cs := by
    intro cs
    induction cs with
    | nil =>
      exact ⟨[], .nil, .nil⟩
    | cons c cs ih =>
      obtain ⟨us, hus, hcs⟩ := ih
      obtain ⟨u, hu, hc⟩ := exists_unit c
      exact ⟨u :: us, .cons hu hus, hc us cs hcs⟩
  obtain ⟨us, hus, hs⟩ := hunits s.toList
  refine Draft.spells_iff.2 ⟨us, hus, ?_⟩
  rw [Draft.characters?_of_denotes hs, Option.map_some, String.ofList_toList]

theorem spelled_decimalInt (n : Int) : (NumberLiteral.ofInt n).Spelled (Text.decimalInt n) := by
  constructor
  case digits =>
    exact ⟨Text.decimal_ne_nil _, fun c hc => Text.isDigit_of_mem_decimal hc⟩
  case zero =>
    intro hhead
    rcases Nat.eq_zero_or_pos n.natAbs with hzero | hpos
    · rw [NumberLiteral.ofInt, hzero]
      rfl
    · exact absurd hhead (Text.head?_decimal_ne hpos)
  case parts =>
    refine ⟨[], [], .none, .none, ?_⟩
    cases n with
    | ofNat n =>
      simp [Text.decimalInt, NumberLiteral.ofInt]
    | negSucc n =>
      simp [Text.decimalInt, NumberLiteral.ofInt, Int.negSucc_lt_zero]

/-! ## The text on one line -/

theorem shown_quoted (s : String) : Shown (.string (some s)) (quoted s) :=
  .string (spells_escaped s)

section Layouts

variable {v : Json} {before between cs ds : List Char}

theorem laidEntries_last (k : String) (hbefore : Space before) (hv : Laid v.draft cs) :
    LaidEntries (entryDrafts [(k, v)]) (before ++ quoted k ++ ':' :: cs) := by
  have hlaid := LaidEntries.last hbefore (spells_escaped k) space_nil hv
  simpa [quoted, entryDrafts] using hlaid

theorem laidEntries_cons (k : String) {entries : List (String × Json)} (hbefore : Space before)
    (hv : Laid v.draft cs) (hentries : LaidEntries (entryDrafts entries) ds) :
    LaidEntries (entryDrafts ((k, v) :: entries))
      (before ++ quoted k ++ ':' :: cs ++ ',' :: ds) := by
  have hlaid := LaidEntries.cons hbefore (spells_escaped k) space_nil hv hentries
  simpa [quoted, entryDrafts] using hlaid

end Layouts

mutual

theorem shown_compactChars (depth : Nat) : (v : Json) → v.fitsIn depth = true →
    Shown v.draft (compactChars v)
  | .null, _ => .null
  | .bool true, _ => .yes
  | .bool false, _ => .no
  | .integer n, _ => .number (spelled_decimalInt n)
  | .real _, h => nomatch h
  | .string s, _ => shown_quoted s
  | .array [], _ => .noItems space_nil
  | .object [], _ => .noEntries space_nil
  | .array (v :: items), h => by
    cases depth with
    | zero =>
      exact nomatch h
    | succ depth =>
      exact .items (laidItems_compactItems depth v items h)
  | .object (e :: entries), h => by
    cases depth with
    | zero =>
      exact nomatch h
    | succ depth =>
      exact .entries (laidEntries_compactEntries depth e entries h)

theorem laidItems_compactItems (depth : Nat) : (v : Json) → (items : List Json) →
    itemsFitIn depth (v :: items) = true →
    LaidItems (drafts (v :: items)) (compactItems (v :: items))
  | v, [], h => by
    obtain ⟨hv, -⟩ := Bool.and_eq_true_iff.1 h
    exact .last (shown_compactChars depth v hv).laid
  | v, w :: items, h => by
    obtain ⟨hv, hitems⟩ := Bool.and_eq_true_iff.1 h
    exact .cons (shown_compactChars depth v hv).laid (laidItems_compactItems depth w items hitems)

theorem laidEntries_compactEntries (depth : Nat) : (e : String × Json) →
    (entries : List (String × Json)) → entriesFitIn depth (e :: entries) = true →
    LaidEntries (entryDrafts (e :: entries)) (compactEntries (e :: entries))
  | (k, v), [], h => by
    obtain ⟨hv, -⟩ := Bool.and_eq_true_iff.1 h
    exact laidEntries_last k space_nil (shown_compactChars depth v hv).laid
  | (k, v), e :: entries, h => by
    obtain ⟨hv, hentries⟩ := Bool.and_eq_true_iff.1 h
    exact laidEntries_cons k space_nil (shown_compactChars depth v hv).laid
      (laidEntries_compactEntries depth e entries hentries)

end

theorem laid_compact {v : Json} (hfits : v.fitsIn depthLimit = true) :
    v.draft.Laid v.compact.toList := by
  rw [compact, String.toList_ofList]
  exact (shown_compactChars depthLimit v hfits).laid

theorem hasText_compact {v : Json} (hfits : v.fitsIn depthLimit = true) : v.HasText v.compact :=
  ⟨v.draft, laid_compact hfits, value?_draft depthLimit v hfits⟩

theorem parse?_compact {v : Json} (hfits : v.fitsIn depthLimit = true) :
    parse? v.compact = some v :=
  parse?_eq_some_iff.2 (hasText_compact hfits)

/-! ## The text over several lines -/

theorem space_newline (level : Nat) : Space (newline level) := by
  intro c hc
  rcases List.mem_cons.1 hc with rfl | hmem
  · rfl
  · rw [List.eq_of_mem_replicate hmem]
    rfl

mutual

theorem shown_prettyChars (depth level : Nat) : (v : Json) → v.fitsIn depth = true →
    Shown v.draft (prettyChars level v)
  | .null, _ => .null
  | .bool true, _ => .yes
  | .bool false, _ => .no
  | .integer n, _ => .number (spelled_decimalInt n)
  | .real _, h => nomatch h
  | .string s, _ => shown_quoted s
  | .array [], _ => .noItems space_nil
  | .object [], _ => .noEntries space_nil
  | .array (v :: items), h => by
    cases depth with
    | zero =>
      exact nomatch h
    | succ depth =>
      exact .items (laidItems_prettyItems depth (level + 1) (space_newline level) v items h)
  | .object (e :: entries), h => by
    cases depth with
    | zero =>
      exact nomatch h
    | succ depth =>
      exact .entries (laidEntries_prettyEntries depth (level + 1) (space_newline level) e entries h)

/-- The line break before the end of an array belongs to its last item. -/
theorem laidItems_prettyItems (depth level : Nat) {after : List Char} (hafter : Space after) :
    (v : Json) → (items : List Json) → itemsFitIn depth (v :: items) = true →
    LaidItems (drafts (v :: items)) (prettyItems level (v :: items) ++ after)
  | v, [], h => by
    obtain ⟨hv, -⟩ := Bool.and_eq_true_iff.1 h
    exact .last (.spaced (space_newline level) (shown_prettyChars depth level v hv) hafter)
  | v, w :: items, h => by
    obtain ⟨hv, hitems⟩ := Bool.and_eq_true_iff.1 h
    have hlaid := LaidItems.cons
      (.spaced (space_newline level) (shown_prettyChars depth level v hv) space_nil)
      (laidItems_prettyItems depth level hafter w items hitems)
    simpa [prettyItems, drafts] using hlaid

theorem laidEntries_prettyEntries (depth level : Nat) {after : List Char} (hafter : Space after) :
    (e : String × Json) → (entries : List (String × Json)) →
    entriesFitIn depth (e :: entries) = true →
    LaidEntries (entryDrafts (e :: entries)) (prettyEntries level (e :: entries) ++ after)
  | (k, v), [], h => by
    obtain ⟨hv, -⟩ := Bool.and_eq_true_iff.1 h
    have hblank : Space [' '] := by
      simp [Space, Draft.isSpace]
    have hlaid := laidEntries_last k (space_newline level)
      (.spaced hblank (shown_prettyChars depth level v hv) hafter)
    simpa [prettyEntries] using hlaid
  | (k, v), e :: entries, h => by
    obtain ⟨hv, hentries⟩ := Bool.and_eq_true_iff.1 h
    have hblank : Space [' '] := by
      simp [Space, Draft.isSpace]
    have hlaid := laidEntries_cons k (space_newline level)
      (.spaced hblank (shown_prettyChars depth level v hv) space_nil)
      (laidEntries_prettyEntries depth level hafter e entries hentries)
    simpa [prettyEntries] using hlaid

end

theorem hasText_pretty {v : Json} (hfits : v.fitsIn depthLimit = true) : v.HasText v.pretty := by
  refine ⟨v.draft, ?_, value?_draft depthLimit v hfits⟩
  rw [pretty, String.toList_ofList]
  exact (shown_prettyChars depthLimit 0 v hfits).laid

theorem parse?_pretty {v : Json} (hfits : v.fitsIn depthLimit = true) : parse? v.pretty = some v :=
  parse?_eq_some_iff.2 (hasText_pretty hfits)

end Json
end FleetLifecycle
