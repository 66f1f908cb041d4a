import FleetLifecycle.Proofs.JsonLexemes
import Mathlib.Data.List.DropRight

/-!
# JSON scanning — the scanner follows the grammar

A value may be laid out in many ways: between its parts a text may hold any white space.
Concretely, we:

1. say which texts show a draft (`Draft.Shown`, and `Draft.Laid` with white space around it);
2. follow the scanner through such a text, one lemma for each kind of value (`Draft.scan?_shown`,
   `Draft.scan?_laid`);
3. show that what was scanned is laid out in the part of the text that is used up
   (`Draft.exists_shown_of_scan?`), and conclude with `Draft.ofText?_eq_some_iff`.
-/

namespace FleetLifecycle
namespace Draft

open NumberLiteral (Stops)

/-! ## White space -/

/-- The text is white space, as it may stand between the parts of a value. -/
def Space (cs : List Char) : Prop :=
  ∀ c ∈ cs, isSpace c = true

theorem space_nil : Space [] := by
  simp [Space]

theorem skip_append {ws : List Char} (h : Space ws) (cs : List Char) :
    skip (ws ++ cs) = skip cs :=
  List.dropWhile_append_of_pos h

theorem skip_cons {c : Char} (h : isSpace c = false) (cs : List Char) :
    skip (c :: cs) = c :: cs := by
  simp [skip, h]

theorem skip_skip (cs : List Char) : skip (skip cs) = skip cs :=
  List.dropWhile_idempotent ..

/-- What is skipped is white space. -/
theorem exists_space (cs : List Char) : ∃ ws, Space ws ∧ cs = ws ++ skip cs := by
  refine ⟨cs.takeWhile isSpace, ?_, (List.takeWhile_append_dropWhile).symm⟩
  intro c hc
  exact List.mem_takeWhile_imp hc

theorem stops_append {ws rest : List Char} (hws : Space ws) (hrest : Stops rest) :
    Stops (ws ++ rest) := by
  cases ws with
  | nil =>
    exact hrest
  | cons w ws =>
    have hw : isSpace w = true := hws w List.mem_cons_self
    rintro c ⟨⟩
    simp only [isSpace, decide_eq_true_eq, Bool.or_eq_true] at hw
    rcases hw with ((rfl | rfl) | rfl) | rfl <;> decide

/-! ## Layouts -/

mutual

/-- The text shows the draft, with no white space around it. -/
inductive Shown : Draft → List Char → Prop where
  | null : Shown .null ['n', 'u', 'l', 'l']
  | yes : Shown (.bool true) ['t', 'r', 'u', 'e']
  | no : Shown (.bool false) ['f', 'a', 'l', 's', 'e']
  | number {lit : NumberLiteral} {cs : List Char} : lit.Spelled cs → Shown (.number lit) cs
  | string {s : Option String} {cs : List Char} :
      Spells s cs → Shown (.string s) ('"' :: cs ++ ['"'])
  | noItems {ws : List Char} : Space ws → Shown (.array []) ('[' :: ws ++ [']'])
  | items {items : List Draft} {cs : List Char} :
      LaidItems items cs → Shown (.array items) ('[' :: cs ++ [']'])
  | noEntries {ws : List Char} : Space ws → Shown (.object []) ('\x7b' :: ws ++ ['\x7d'])
  | entries {entries : List (Option String × Draft)} {cs : List Char} :
      LaidEntries entries cs → Shown (.object entries) ('\x7b' :: cs ++ ['\x7d'])

/-- The text shows the draft, with any white space around it. -/
inductive Laid : Draft → List Char → Prop where
  | spaced {d : Draft} {before cs after : List Char} :
      Space before → Shown d cs → Space after → Laid d (before ++ cs ++ after)

/-- The text shows items, of which there is at least one. -/
inductive LaidItems : List Draft → List Char → Prop where
  | last {d : Draft} {cs : List Char} : Laid d cs → LaidItems [d] cs
  | cons {d : Draft} {items : List Draft} {cs ds : List Char} :
      Laid d cs → LaidItems items ds → LaidItems (d :: items) (cs ++ ',' :: ds)

/-- The text shows entries, of which there is at least one. -/
inductive LaidEntries : List (Option String × Draft) → List Char → Prop where
  | last {k : Option String} {d : Draft} {before key between cs : List Char} :
      Space before → Spells k key → Space between → Laid d cs →
        LaidEntries [(k, d)] (before ++ '"' :: key ++ '"' :: between ++ ':' :: cs)
  | cons {k : Option String} {d : Draft} {entries : List (Option String × Draft)}
      {before key between cs ds : List Char} :
      Space before → Spells k key → Space between → Laid d cs → LaidEntries entries ds →
        LaidEntries ((k, d) :: entries)
          (before ++ '"' :: key ++ '"' :: between ++ ':' :: cs ++ ',' :: ds)

end

theorem Shown.laid {d : Draft} {cs : List Char} (h : Shown d cs) : Laid d cs := by
  simpa using Laid.spaced space_nil h space_nil

/-! ## Where a text begins -/

theorem ne_of_isDigit {c d : Char} (hc : c.isDigit = true ∨ c = '-')
    (hd : ¬ (d.isDigit = true ∨ d = '-')) : c ≠ d := by
  rintro rfl
  exact hd hc

theorem isSpace_of_digit {c : Char} (hc : c.isDigit = true ∨ c = '-') : isSpace c = false := by
  simp [isSpace, ne_of_isDigit hc]

section Heads

variable {d : Draft} {cs : List Char}

/-- A draft begins with a character of its own, which does not close an array. -/
theorem Shown.exists_head (h : Shown d cs) :
    ∃ c ds, cs = c :: ds ∧ isSpace c = false ∧ c ≠ ']' := by
  cases h with
  | number hlit =>
    obtain ⟨c, ds, heq, hc⟩ := hlit.exists_head
    exact ⟨c, ds, heq, isSpace_of_digit hc, ne_of_isDigit hc (by decide)⟩
  | null | yes | no | string | noItems | items | noEntries | entries =>
    exact ⟨_, _, rfl, by decide, by decide⟩

theorem Laid.exists_skip (h : Laid d cs) (rest : List Char) :
    ∃ c ds, skip (cs ++ rest) = c :: ds ∧ c ≠ ']' := by
  obtain ⟨hbefore, hshown, -⟩ := h
  obtain ⟨c, ds, rfl, hspace, hc⟩ := hshown.exists_head
  rw [List.append_assoc, List.append_assoc, skip_append hbefore]
  exact ⟨c, _, skip_cons hspace _, hc⟩

theorem LaidItems.exists_skip {items : List Draft} (h : LaidItems items cs) (rest : List Char) :
    ∃ c ds, skip (cs ++ rest) = c :: ds ∧ c ≠ ']' := by
  cases h with
  | last hd =>
    exact hd.exists_skip rest
  | @cons _ _ _ ds hd _ =>
    rw [List.append_assoc]
    exact hd.exists_skip (',' :: ds ++ rest)

theorem LaidEntries.exists_skip {entries : List (Option String × Draft)}
    (h : LaidEntries entries cs) (rest : List Char) : ∃ ds, skip (cs ++ rest) = '"' :: ds := by
  cases h with
  | last hbefore _ _ _ | cons hbefore _ _ _ _ =>
    simp only [List.append_assoc, List.cons_append]
    rw [skip_append hbefore]
    exact ⟨_, skip_cons (by decide) _⟩

end Heads

/-! ## Scanning -/

theorem scan?_skip (fuel : Nat) (cs : List Char) : scan? fuel (skip cs) = scan? fuel cs := by
  cases fuel with
  | zero =>
    rfl
  | succ fuel =>
    simp only [scan?, skip_skip]

theorem scanItems?_skip (fuel : Nat) (cs : List Char) :
    scanItems? fuel (skip cs) = scanItems? fuel cs := by
  cases fuel with
  | zero =>
    rfl
  | succ fuel =>
    simp only [scanItems?, scan?_skip]

theorem scanEntries?_skip (fuel : Nat) (cs : List Char) :
    scanEntries? fuel (skip cs) = scanEntries? fuel cs := by
  cases fuel with
  | zero =>
    rfl
  | succ fuel =>
    simp only [scanEntries?, skip_skip]

theorem scan?_scalar {c : Char} (hspace : isSpace c = false) (harray : c ≠ '[')
    (hobject : c ≠ '\x7b') (fuel : Nat) (cs : List Char) :
    scan? (fuel + 1) (c :: cs) = scalar? (c :: cs) := by
  simp [scan?, skip_cons hspace, harray, hobject]

theorem scan?_array {cs ds : List Char} {c : Char} (hskip : skip cs = c :: ds) (hc : c ≠ ']')
    (fuel : Nat) :
    scan? (fuel + 1) ('[' :: cs) =
      (scanItems? fuel cs).map (fun (items, rest) => (.array items, rest)) := by
  have hopen : skip ('[' :: cs) = '[' :: cs := skip_cons (by decide) cs
  rw [← scanItems?_skip fuel cs]
  simp [scan?, hopen, hskip, hc]

theorem scan?_object {cs ds : List Char} (hskip : skip cs = '"' :: ds) (fuel : Nat) :
    scan? (fuel + 1) ('\x7b' :: cs) =
      (scanEntries? fuel cs).map (fun (entries, rest) => (.object entries, rest)) := by
  have hopen : skip ('\x7b' :: cs) = '\x7b' :: cs := skip_cons (by decide) cs
  rw [← scanEntries?_skip fuel cs]
  simp [scan?, hopen, hskip]

theorem scan?_noItems {ws : List Char} (hws : Space ws) (fuel : Nat) (rest : List Char) :
    scan? (fuel + 1) ('[' :: (ws ++ ']' :: rest)) = some (.array [], rest) := by
  have hopen : skip ('[' :: (ws ++ ']' :: rest)) = '[' :: (ws ++ ']' :: rest) :=
    skip_cons (by decide) _
  have hclose : skip (']' :: rest) = ']' :: rest := skip_cons (by decide) rest
  simp [scan?, hopen, skip_append hws, hclose]

theorem scan?_noEntries {ws : List Char} (hws : Space ws) (fuel : Nat) (rest : List Char) :
    scan? (fuel + 1) ('\x7b' :: (ws ++ '\x7d' :: rest)) = some (.object [], rest) := by
  have hopen : skip ('\x7b' :: (ws ++ '\x7d' :: rest)) = '\x7b' :: (ws ++ '\x7d' :: rest) :=
    skip_cons (by decide) _
  have hclose : skip ('\x7d' :: rest) = '\x7d' :: rest := skip_cons (by decide) rest
  simp [scan?, hopen, skip_append hws, hclose]

theorem scan?_string {s : Option String} {cs : List Char} (h : Spells s cs) (fuel : Nat)
    (rest : List Char) :
    scan? (fuel + 1) ('"' :: (cs ++ '"' :: rest)) = some (.string s, rest) := by
  have htext : text? (cs ++ '"' :: rest) = some (s, rest) := text?_eq_some_iff.2 ⟨cs, h, rfl⟩
  rw [scan?_scalar (by decide) (by decide) (by decide)]
  simp [scalar?, htext]

theorem scan?_number {lit : NumberLiteral} {cs : List Char} (h : lit.Spelled cs) (fuel : Nat)
    {rest : List Char} (hrest : Stops rest) :
    scan? (fuel + 1) (cs ++ rest) = some (.number lit, rest) := by
  have hnumber := NumberLiteral.scan?_spelled h hrest
  obtain ⟨c, ds, rfl, hc⟩ := h.exists_head
  have hne : ∀ d, ¬ (d.isDigit = true ∨ d = '-') → c ≠ d := fun d => ne_of_isDigit hc
  rw [List.cons_append] at hnumber ⊢
  rw [scan?_scalar (isSpace_of_digit hc) (hne _ (by decide)) (hne _ (by decide))]
  simp [scalar?, hne, hnumber]

section Entries

variable {before key between cs rest : List Char} {k : Option String} {fuel : Nat} {d : Draft}

theorem skip_key (hbefore : Space before) (key cs : List Char) :
    skip (before ++ ('"' :: (key ++ cs))) = '"' :: (key ++ cs) := by
  rw [skip_append hbefore]
  exact skip_cons (by decide) _

theorem skip_colon (hbetween : Space between) (cs : List Char) :
    skip (between ++ ':' :: cs) = ':' :: cs := by
  rw [skip_append hbetween]
  exact skip_cons (by decide) cs

/-- The last entry: a key, a colon, and a value before the end of the object. -/
theorem scanEntries?_last (hbefore : Space before) (hkey : Spells k key) (hbetween : Space between)
    (hscan : scan? fuel cs = some (d, rest)) {rest' : List Char}
    (hskip : skip rest = '\x7d' :: rest') :
    scanEntries? (fuel + 1) (before ++ ('"' :: (key ++ ('"' :: (between ++ ':' :: cs))))) =
      some ([(k, d)], rest') := by
  have htext : text? (key ++ '"' :: (between ++ ':' :: cs)) = some (k, between ++ ':' :: cs) :=
    text?_eq_some_iff.2 ⟨key, hkey, rfl⟩
  simp [scanEntries?, skip_key hbefore, htext, skip_colon hbetween, hscan, hskip]

theorem scanEntries?_cons (hbefore : Space before) (hkey : Spells k key) (hbetween : Space between)
    (hscan : scan? fuel cs = some (d, rest)) {more : List Char} (hskip : skip rest = ',' :: more)
    {entries : List (Option String × Draft)} {rest' : List Char}
    (hmore : scanEntries? fuel more = some (entries, rest')) :
    scanEntries? (fuel + 1) (before ++ ('"' :: (key ++ ('"' :: (between ++ ':' :: cs))))) =
      some ((k, d) :: entries, rest') := by
  have htext : text? (key ++ '"' :: (between ++ ':' :: cs)) = some (k, between ++ ':' :: cs) :=
    text?_eq_some_iff.2 ⟨key, hkey, rfl⟩
  simp [scanEntries?, skip_key hbefore, htext, skip_colon hbetween, hscan, hskip, hmore]

end Entries

mutual

/-- A text that shows a draft is scanned up to its end. -/
theorem scan?_shown {d : Draft} {cs rest : List Char} {fuel : Nat} (h : Shown d cs)
    (hfuel : 2 * cs.length ≤ fuel) (hrest : Stops rest) :
    scan? fuel (cs ++ rest) = some (d, rest) := by
  -- twice the length is fuel enough: a bracket or comma pays for the two calls it leads to
  obtain ⟨c, ds, hhead, -, -⟩ := h.exists_head
  have hpos : 0 < fuel := by
    rw [hhead, List.length_cons] at hfuel
    omega
  obtain ⟨fuel, rfl⟩ := Nat.exists_eq_add_one_of_ne_zero (Nat.ne_of_gt hpos)
  cases h with
  | null | yes | no =>
    exact scan?_scalar (by decide) (by decide) (by decide) fuel _
  | number hlit =>
    exact scan?_number hlit fuel hrest
  | string hs =>
    rw [List.append_assoc]
    exact scan?_string hs fuel rest
  | noItems hws =>
    rw [List.append_assoc]
    exact scan?_noItems hws fuel rest
  | noEntries hws =>
    rw [List.append_assoc]
    exact scan?_noEntries hws fuel rest
  | @items _ cs hitems =>
    have hlength : 2 * cs.length < fuel := by
      simp only [List.length_append, List.length_cons, List.length_nil] at hfuel
      omega
    obtain ⟨c, ds, hskip, hc⟩ := hitems.exists_skip (']' :: rest)
    have hscan := scanItems?_laid hitems rest hlength
    rw [List.append_assoc]
    exact (scan?_array hskip hc fuel).trans (congrArg _ hscan)
  | @entries _ cs hentries =>
    have hlength : 2 * cs.length < fuel := by
      simp only [List.length_append, List.length_cons, List.length_nil] at hfuel
      omega
    obtain ⟨ds, hskip⟩ := hentries.exists_skip ('\x7d' :: rest)
    have hscan := scanEntries?_laid hentries rest hlength
    rw [List.append_assoc]
    exact (scan?_object hskip fuel).trans (congrArg _ hscan)

/-- White space after the draft is left over. -/
theorem scan?_laid {d : Draft} {cs rest : List Char} {fuel : Nat} (h : Laid d cs)
    (hfuel : 2 * cs.length ≤ fuel) (hrest : Stops rest) :
    ∃ after, Space after ∧ scan? fuel (cs ++ rest) = some (d, after ++ rest) := by
  cases h with
  | @spaced _ before cs after hbefore hshown hafter =>
    have hfuel' : 2 * cs.length ≤ fuel := by
      simp only [List.length_append] at hfuel
      omega
    have hscan := scan?_shown hshown hfuel' (stops_append hafter hrest)
    refine ⟨after, hafter, ?_⟩
    rw [List.append_assoc, List.append_assoc, ← scan?_skip, skip_append hbefore, scan?_skip, hscan]

theorem scanItems?_laid {items : List Draft} {cs : List Char} {fuel : Nat}
    (h : LaidItems items cs) (rest : List Char) (hfuel : 2 * cs.length < fuel) :
    scanItems? fuel (cs ++ ']' :: rest) = some (items, rest) := by
  obtain ⟨fuel, rfl⟩ := Nat.exists_eq_add_one_of_ne_zero (Nat.ne_zero_of_lt hfuel)
  cases h with
  | last hd =>
    -- a number before the bracket does not go on with it
    have hstops : Stops (']' :: rest) := by
      rintro c ⟨⟩
      decide
    obtain ⟨after, hafter, hscan⟩ := scan?_laid hd (Nat.le_of_lt_succ hfuel) hstops
    have hclose : skip (']' :: rest) = ']' :: rest := skip_cons (by decide) rest
    simp [scanItems?, hscan, skip_append hafter, hclose]
  | @cons _ _ cs ds hd hitems =>
    have hlength : 2 * cs.length ≤ fuel ∧ 2 * ds.length < fuel := by
      simp only [List.length_append, List.length_cons] at hfuel
      omega
    have hstops : Stops (',' :: (ds ++ ']' :: rest)) := by
      rintro c ⟨⟩
      decide
    obtain ⟨after, hafter, hscan⟩ := scan?_laid hd hlength.1 hstops
    have hmore := scanItems?_laid hitems rest hlength.2
    have hcomma : skip (',' :: (ds ++ ']' :: rest)) = ',' :: (ds ++ ']' :: rest) :=
      skip_cons (by decide) _
    simp [scanItems?, hscan, skip_append hafter, hcomma, hmore]

theorem scanEntries?_laid {entries : List (Option String × Draft)} {cs : List Char} {fuel : Nat}
    (h : LaidEntries entries cs) (rest : List Char) (hfuel : 2 * cs.length < fuel) :
    scanEntries? fuel (cs ++ '\x7d' :: rest) = some (entries, rest) := by
  obtain ⟨fuel, rfl⟩ := Nat.exists_eq_add_one_of_ne_zero (Nat.ne_zero_of_lt hfuel)
  cases h with
  | @last _ _ _ _ _ cs hbefore hkey hbetween hd =>
    have hlength : 2 * cs.length ≤ fuel := by
      simp only [List.length_append, List.length_cons] at hfuel
      omega
    have hstops : Stops ('\x7d' :: rest) := by
      rintro c ⟨⟩
      decide
    obtain ⟨after, hafter, hscan⟩ := scan?_laid hd hlength hstops
    have hclose : skip (after ++ '\x7d' :: rest) = '\x7d' :: rest := by
      rw [skip_append hafter]
      exact skip_cons (by decide) rest
    simp only [List.append_assoc, List.cons_append]
    exact scanEntries?_last hbefore hkey hbetween hscan hclose
  | @cons _ _ _ _ _ _ cs ds hbefore hkey hbetween hd hentries =>
    have hlength : 2 * cs.length ≤ fuel ∧ 2 * ds.length < fuel := by
      simp only [List.length_append, List.length_cons] at hfuel
      omega
    have hstops : Stops (',' :: (ds ++ '\x7d' :: rest)) := by
      rintro c ⟨⟩
      decide
    obtain ⟨after, hafter, hscan⟩ := scan?_laid hd hlength.1 hstops
    have hmore := scanEntries?_laid hentries rest hlength.2
    have hcomma : skip (after ++ ',' :: (ds ++ '\x7d' :: rest)) =
        ',' :: (ds ++ '\x7d' :: rest) := by
      rw [skip_append hafter]
      exact skip_cons (by decide) _
    simp only [List.append_assoc, List.cons_append]
    exact scanEntries?_cons hbefore hkey hbetween hscan hcomma hmore

end

/-! ## What was scanned -/

theorem eq_of_word? {word cs rest : List Char} (h : word? word cs = some rest) :
    cs = word ++ rest := by
  rw [word?, Option.ite_none_right_eq_some] at h
  obtain ⟨htake, heq⟩ := h
  cases heq
  calc
    cs = cs.take word.length ++ cs.drop word.length := (List.take_append_drop _ _).symm
    _ = word ++ cs.drop word.length := by rw [htake]

theorem exists_shown_of_scalar? {cs rest : List Char} {d : Draft}
    (h : scalar? cs = some (d, rest)) : ∃ used, Shown d used ∧ cs = used ++ rest := by
  unfold scalar? at h
  split at h
  · cases h
  · next c more =>
    split at h
    · next hc =>
      obtain ⟨⟨s, r⟩, htext, heq⟩ := Option.map_eq_some_iff.1 h
      cases heq
      obtain ⟨ds, hds, rfl⟩ := text?_eq_some_iff.1 htext
      exact ⟨_, .string hds, by simp [hc]⟩
    split at h
    · next hc =>
      obtain ⟨r, hword, heq⟩ := Option.map_eq_some_iff.1 h
      cases heq
      exact ⟨_, .null, by rw [hc, eq_of_word? hword]; rfl⟩
    split at h
    · next hc =>
      obtain ⟨r, hword, heq⟩ := Option.map_eq_some_iff.1 h
      cases heq
      exact ⟨_, .yes, by rw [hc, eq_of_word? hword]; rfl⟩
    split at h
    · next hc =>
      obtain ⟨r, hword, heq⟩ := Option.map_eq_some_iff.1 h
      cases heq
      exact ⟨_, .no, by rw [hc, eq_of_word? hword]; rfl⟩
    · obtain ⟨⟨lit, r⟩, hnumber, heq⟩ := Option.map_eq_some_iff.1 h
      cases heq
      obtain ⟨used, hused, heq⟩ := NumberLiteral.exists_spelled_of_scan? hnumber
      exact ⟨used, .number hused, heq⟩

section Scanned

variable {cs rest : List Char} {d : Draft}

/-- White space around a draft belongs to its layout. -/
theorem exists_laid {used after : List Char} (h : Shown d used) (hskip : skip cs = used ++ rest)
    (hrest : skip rest = after) : ∃ laid, Laid d laid ∧ cs = laid ++ after := by
  obtain ⟨before, hbefore, hcs⟩ := exists_space cs
  obtain ⟨ws, hws, hafter⟩ := exists_space rest
  refine ⟨before ++ used ++ ws, .spaced hbefore h hws, ?_⟩
  calc
    cs = before ++ (used ++ (ws ++ skip rest)) := by rw [← hafter, ← hskip, ← hcs]
    _ = before ++ used ++ ws ++ after := by simp only [hrest, List.append_assoc]

mutual

/-- What is scanned is shown by the part of the text that is used up. -/
theorem exists_shown_of_scan? {fuel : Nat} {cs rest : List Char} {d : Draft}
    (h : scan? fuel cs = some (d, rest)) : ∃ used, Shown d used ∧ skip cs = used ++ rest := by
  cases fuel with
  | zero =>
    cases h
  | succ fuel =>
    unfold scan? at h
    split at h
    · next more hopen =>
      -- an array, with nothing but white space in it or with items
      split at h
      · next hclose =>
        cases h
        obtain ⟨ws, hws, hmore⟩ := exists_space more
        exact ⟨_, .noItems hws, by rw [hopen, hmore, hclose]; simp⟩
      · obtain ⟨⟨items, r⟩, hitems, heq⟩ := Option.map_eq_some_iff.1 h
        cases heq
        rw [scanItems?_skip] at hitems
        obtain ⟨used, hused, hmore⟩ := exists_laid_of_scanItems? hitems
        exact ⟨_, .items hused, by rw [hopen, hmore]; simp⟩
    · next more hopen =>
      -- an object, likewise
      split at h
      · next hclose =>
        cases h
        obtain ⟨ws, hws, hmore⟩ := exists_space more
        exact ⟨_, .noEntries hws, by rw [hopen, hmore, hclose]; simp⟩
      · obtain ⟨⟨entries, r⟩, hentries, heq⟩ := Option.map_eq_some_iff.1 h
        cases heq
        rw [scanEntries?_skip] at hentries
        obtain ⟨used, hused, hmore⟩ := exists_laid_of_scanEntries? hentries
        exact ⟨_, .entries hused, by rw [hopen, hmore]; simp⟩
    · exact exists_shown_of_scalar? h

theorem exists_laid_of_scanItems? {fuel : Nat} {cs rest : List Char} {items : List Draft}
    (h : scanItems? fuel cs = some (items, rest)) :
    ∃ used, LaidItems items used ∧ cs = used ++ ']' :: rest := by
  cases fuel with
  | zero =>
    cases h
  | succ fuel =>
    simp only [scanItems?, Option.bind_eq_bind, Option.bind_eq_some_iff, Prod.exists] at h
    obtain ⟨d, r, hscan, hnext⟩ := h
    obtain ⟨used, hused, hskip⟩ := exists_shown_of_scan? hscan
    split at hnext
    · next more hcomma =>
      obtain ⟨laid, hlaid, rfl⟩ := exists_laid hused hskip hcomma
      simp only [Option.bind_eq_some_iff, Prod.exists] at hnext
      obtain ⟨items, r', hmore, heq⟩ := hnext
      cases heq
      obtain ⟨used', hused', rfl⟩ := exists_laid_of_scanItems? hmore
      exact ⟨_, .cons hlaid hused', by simp⟩
    · next more hclose =>
      obtain ⟨laid, hlaid, rfl⟩ := exists_laid hused hskip hclose
      cases hnext
      exact ⟨_, .last hlaid, rfl⟩
    · cases hnext

theorem exists_laid_of_scanEntries? {fuel : Nat} {cs rest : List Char}
    {entries : List (Option String × Draft)} (h : scanEntries? fuel cs = some (entries, rest)) :
    ∃ used, LaidEntries entries used ∧ cs = used ++ '\x7d' :: rest := by
  cases fuel with
  | zero =>
    cases h
  | succ fuel =>
    unfold scanEntries? at h
    split at h
    · next more hquote =>
      obtain ⟨before, hbefore, hcs⟩ := exists_space cs
      simp only [Option.bind_eq_bind, Option.bind_eq_some_iff, Prod.exists] at h
      obtain ⟨k, r, hkey, hcolon⟩ := h
      obtain ⟨key, hspells, rfl⟩ := text?_eq_some_iff.1 hkey
      split at hcolon
      · next value hskip =>
        obtain ⟨between, hbetween, hr⟩ := exists_space r
        simp only [Option.bind_eq_some_iff, Prod.exists] at hcolon
        obtain ⟨d, r', hscan, hnext⟩ := hcolon
        obtain ⟨used, hused, hvalue⟩ := exists_shown_of_scan? hscan
        rw [hquote] at hcs
        rw [hskip] at hr
        -- after the value comes another entry, or the end of the object
        split at hnext
        · next more hcomma =>
          obtain ⟨laid, hlaid, rfl⟩ := exists_laid hused hvalue hcomma
          simp only [Option.bind_eq_some_iff, Prod.exists] at hnext
          obtain ⟨entries, r'', hmore, heq⟩ := hnext
          cases heq
          obtain ⟨used', hused', rfl⟩ := exists_laid_of_scanEntries? hmore
          exact ⟨_, .cons hbefore hspells hbetween hlaid hused', by rw [hcs, hr]; simp⟩
        · next more hclose =>
          obtain ⟨laid, hlaid, rfl⟩ := exists_laid hused hvalue hclose
          cases hnext
          exact ⟨_, .last hbefore hspells hbetween hlaid, by rw [hcs, hr]; simp⟩
        · cases hnext
      · cases hcolon
    · cases h

end

/-- The drafts that texts hold are those that they show. -/
theorem ofText?_eq_some_iff {s : String} : ofText? s = some d ↔ Laid d s.toList := by
  constructor
  · intro h
    unfold ofText? at h
    split at h
    · next d' rest hscan =>
      rw [Option.ite_none_right_eq_some] at h
      obtain ⟨hempty, heq⟩ := h
      cases heq
      obtain ⟨used, hused, hskip⟩ := exists_shown_of_scan? hscan
      obtain ⟨laid, hlaid, hs⟩ := exists_laid hused hskip (List.isEmpty_iff.1 hempty)
      rwa [hs, List.append_nil]
    · cases h
  · intro h
    have hstops : Stops [] := by
      simp [Stops]
    have hfuel : 2 * s.toList.length ≤ 2 * s.length + 2 := by
      rw [String.length_toList]
      omega
    obtain ⟨after, hafter, hscan⟩ := scan?_laid h hfuel hstops
    -- nothing but white space is left over at the end of the text
    have hskip : skip (after ++ []) = [] := skip_append hafter []
    simp only [List.append_nil] at hscan hskip
    simp [ofText?, hscan, hskip]

end Scanned

end Draft
end FleetLifecycle
