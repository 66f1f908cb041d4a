import FleetLifecycle.Json.Draft
import FleetLifecycle.Proofs.Numerals

/-!
# JSON lexemes — how strings and numbers are spelled

A string can be spelled in many ways, since any of its characters may be escaped.  Numbers have a
whole part without needless zeros, and may have a fraction and an exponent.  Concretely, we:

1. say what may stand between quotation marks (`Draft.UnitsSpelled`), which characters it stands for
   (`Draft.Denotes`), and which texts spell a string (`Draft.Spells`);
2. show that the reader of strings takes exactly these (`Draft.text?_eq_some_iff`);
3. say which texts spell a number (`NumberLiteral.Spelled`), and follow the reader of numbers in
   both directions (`NumberLiteral.exists_spelled_of_scan?`, `NumberLiteral.scan?_spelled`).
-/

namespace FleetLifecycle
namespace Draft

/-! ## Strings -/

/-- The text is one unit of a string: a character that stands for itself, one that a letter stands
for, or a number of 16 bits. -/
inductive Unit16.Spelled : Unit16 → List Char → Prop where
  | plain {c : Char} : c ≠ '"' → c ≠ '\\' → 0x20 ≤ c.toNat → Spelled (.char c) [c]
  | letter {e c : Char} : shortEscape? e = some c → Spelled (.char c) ['\\', e]
  -- four hexadecimal digits, of either case
  | code {a b c d : Char} {w x y z : Fin 16} :
      Text.hexValue? a = some w → Text.hexValue? b = some x → Text.hexValue? c = some y →
        Text.hexValue? d = some z →
          Spelled (.escaped (w.val * 4096 + x.val * 256 + y.val * 16 + z.val))
            ['\\', 'u', a, b, c, d]

/-- The text is units, one after the other. -/
inductive UnitsSpelled : List Unit16 → List Char → Prop where
  | nil : UnitsSpelled [] []
  | cons {u : Unit16} {us : List Unit16} {cs ds : List Char} :
      u.Spelled cs → UnitsSpelled us ds → UnitsSpelled (u :: us) (cs ++ ds)

/-- The units stand for the characters.  Numbers of 16 bits are characters by themselves, or in
pairs of a high and a low surrogate. -/
inductive Denotes : List Unit16 → List Char → Prop where
  | nil : Denotes [] []
  | char {us : List Unit16} {cs : List Char} (c : Char) :
      Denotes us cs → Denotes (.char c :: us) (c :: cs)
  | code {us : List Unit16} {cs : List Char} {n : Nat} :
      n < 0xD800 ∨ 0xDFFF < n → Denotes us cs → Denotes (.escaped n :: us) (Char.ofNat n :: cs)
  -- a surrogate without its partner stands for nothing, so there is no case for it
  | pair {us : List Unit16} {cs : List Char} {high low : Nat} :
      0xD800 ≤ high → high < 0xDC00 → 0xDC00 ≤ low → low ≤ 0xDFFF → Denotes us cs →
        Denotes (.escaped high :: .escaped low :: us)
          (Char.ofNat (0x10000 + (high - 0xD800) * 1024 + (low - 0xDC00)) :: cs)

/-- Between quotation marks the text spells the string, or no string at all if its units stand for
no characters. -/
def Spells (s : Option String) (cs : List Char) : Prop :=
  ∃ us, UnitsSpelled us cs ∧ ∀ t, s = some t ↔ Denotes us t.toList

variable {us : List Unit16} {cs ds rest : List Char} {fuel : Nat}

theorem denotes_of_characters? (h : characters? us = some cs) : Denotes us cs := by
  fun_induction characters? us generalizing cs with
  | case1 =>
    cases h
    exact .nil
  | case2 c us ih =>
    obtain ⟨cs, hcs, rfl⟩ := Option.map_eq_some_iff.1 h
    exact .char c (ih hcs)
  | case3 us n hn ih =>
    obtain ⟨cs, hcs, rfl⟩ := Option.map_eq_some_iff.1 h
    exact .code hn (ih hcs)
  | case4 =>
    cases h
  | case5 n hn hlow m rest hm ih =>
    obtain ⟨cs, hcs, rfl⟩ := Option.map_eq_some_iff.1 h
    have hhigh : 0xD800 ≤ n := by omega
    exact .pair hhigh (Nat.not_le.1 hlow) hm.1 hm.2 (ih hcs)
  | case6 =>
    cases h
  | case7 =>
    cases h

theorem characters?_of_denotes (h : Denotes us cs) : characters? us = some cs := by
  induction h with
  | nil =>
    rfl
  | char c _ ih =>
    simp only [characters?, ih, Option.map_some]
  | code hn _ ih =>
    rw [characters?.eq_def]
    simp only [hn, if_true, ih, Option.map_some]
  | @pair us cs high low hhigh hlt hlow hle _ ih =>
    have hsurrogate : ¬ (high < 0xD800 ∨ 0xDFFF < high) := by omega
    have hnot : ¬ 0xDC00 ≤ high := Nat.not_le.2 hlt
    simp only [characters?, hsurrogate, hnot, hlow, hle, and_self, if_true, if_false, ih,
      Option.map_some]

theorem characters?_eq_some_iff : characters? us = some cs ↔ Denotes us cs :=
  ⟨denotes_of_characters?, characters?_of_denotes⟩

/-- The string that units are read as. -/
theorem spells_iff {s : Option String} :
    Spells s cs ↔ ∃ us, UnitsSpelled us cs ∧ s = (characters? us).map String.ofList := by
  refine exists_congr (fun us => and_congr_right (fun _ => ?_))
  have hmap : ∀ t, (characters? us).map String.ofList = some t ↔ Denotes us t.toList := by
    intro t
    rw [← characters?_eq_some_iff, Option.map_eq_some_iff]
    constructor
    · rintro ⟨cs, hcs, rfl⟩
      rw [hcs, String.toList_ofList]
    · intro h
      exact ⟨_, h, String.ofList_toList⟩
  constructor
  · intro h
    refine Option.ext (fun t => ?_)
    rw [hmap t]
    exact h t
  · rintro rfl t
    exact hmap t

theorem exists_hex4 {n : Nat} (h : hex4? cs = some (n, rest)) :
    ∃ ds, (Unit16.escaped n).Spelled ('\\' :: 'u' :: ds) ∧ cs = ds ++ rest := by
  unfold hex4? at h
  split at h
  · next a b c d more =>
    simp only [Option.bind_eq_bind, Option.bind_eq_some_iff] at h
    obtain ⟨w, hw, x, hx, y, hy, z, hz, heq⟩ := h
    cases heq
    exact ⟨[a, b, c, d], .code hw hx hy hz, rfl⟩
  · cases h

/-- What is read as units spells them, up to a quotation mark. -/
theorem exists_unitsSpelled_of_units? (h : units? fuel cs = some (us, rest)) :
    ∃ ds, UnitsSpelled us ds ∧ cs = ds ++ '"' :: rest := by
  -- the cases that read something are the closing mark, a number, a letter and a plain character
  fun_induction units? fuel cs generalizing us with
  | case1 | case2 | case4 | case6 | case8 | case9 =>
    cases h
  | case3 =>
    cases h
    exact ⟨[], .nil, rfl⟩
  | case5 fuel more n more' hhex _ ih =>
    obtain ⟨⟨us, r⟩, hus, heq⟩ := Option.map_eq_some_iff.1 h
    cases heq
    obtain ⟨code, hcode, rfl⟩ := exists_hex4 hhex
    obtain ⟨ds, hds, rfl⟩ := ih hus
    exact ⟨_, .cons hcode hds, by simp⟩
  | case7 fuel e more _ d hshort _ ih =>
    obtain ⟨⟨us, r⟩, hus, heq⟩ := Option.map_eq_some_iff.1 h
    cases heq
    obtain ⟨ds, hds, rfl⟩ := ih hus
    exact ⟨_, .cons (.letter hshort) hds, by simp⟩
  | case10 fuel c cs hquote hslash hcontrol ih =>
    obtain ⟨⟨us, r⟩, hus, heq⟩ := Option.map_eq_some_iff.1 h
    cases heq
    obtain ⟨ds, hds, rfl⟩ := ih hus
    exact ⟨_, .cons (.plain hquote hslash (Nat.not_lt.1 hcontrol)) hds, rfl⟩

theorem units?_append {u : Unit16} (h : u.Spelled ds) (fuel : Nat) (cs : List Char) :
    units? (fuel + 1) (ds ++ cs) = (units? fuel cs).map (fun (us, rest) => (u :: us, rest)) := by
  cases h with
  | plain hquote hslash hle =>
    simp [units?, hquote, hslash, Nat.not_lt.2 hle]
  | @letter e c hshort =>
    have hne : e ≠ 'u' := by
      rintro rfl
      simp [shortEscape?] at hshort
    simp [units?, hne, hshort]
  | code hw hx hy hz =>
    simp [units?, hex4?, hw, hx, hy, hz]

theorem units?_of_unitsSpelled (h : UnitsSpelled us ds) (hfuel : ds.length < fuel) :
    units? fuel (ds ++ '"' :: rest) = some (us, rest) := by
  induction h generalizing fuel with
  | nil =>
    obtain ⟨fuel, rfl⟩ := Nat.exists_eq_add_one_of_ne_zero (Nat.ne_of_gt hfuel)
    simp [units?]
  | @cons u us cs ds hu _ ih =>
    obtain ⟨fuel, rfl⟩ := Nat.exists_eq_add_one_of_ne_zero (Nat.ne_zero_of_lt hfuel)
    -- every unit takes at least one character, so the fuel lasts
    have hpos : 0 < cs.length := by
      cases hu <;> exact Nat.zero_lt_succ _
    have hlength : ds.length < fuel := by
      rw [List.length_append] at hfuel
      omega
    rw [List.append_assoc, units?_append hu, ih hlength, Option.map_some]

/-- A string is read from what spells it, up to the closing quotation mark, and from nothing
else. -/
theorem text?_eq_some_iff {s : Option String} :
    text? cs = some (s, rest) ↔ ∃ ds, Spells s ds ∧ cs = ds ++ '"' :: rest := by
  rw [text?, Option.map_eq_some_iff]
  constructor
  · rintro ⟨⟨us, r⟩, hus, heq⟩
    cases heq
    obtain ⟨ds, hds, rfl⟩ := exists_unitsSpelled_of_units? hus
    exact ⟨ds, spells_iff.2 ⟨us, hds, rfl⟩, rfl⟩
  · rintro ⟨ds, hspells, rfl⟩
    obtain ⟨us, hds, rfl⟩ := spells_iff.1 hspells
    have hfuel : ds.length < (ds ++ '"' :: rest).length + 1 := by
      rw [List.length_append]
      omega
    exact ⟨(us, rest), units?_of_unitsSpelled hds hfuel, rfl⟩

end Draft

namespace NumberLiteral

/-! ## Numbers -/

/-- At least one digit. -/
def Digits (ds : List Char) : Prop :=
  ds ≠ [] ∧ ∀ c ∈ ds, c.isDigit = true

inductive FractionSpelled : Option (List Char) → List Char → Prop where
  | none : FractionSpelled none []
  | point {ds : List Char} : Digits ds → FractionSpelled (some ds) ('.' :: ds)

inductive ExponentSpelled : Option (Bool × List Char) → List Char → Prop where
  | none : ExponentSpelled none []
  | unsigned {e : Char} {ds : List Char} :
      e = 'e' ∨ e = 'E' → Digits ds → ExponentSpelled (some (false, ds)) (e :: ds)
  | plus {e : Char} {ds : List Char} :
      e = 'e' ∨ e = 'E' → Digits ds → ExponentSpelled (some (false, ds)) (e :: '+' :: ds)
  | minus {e : Char} {ds : List Char} :
      e = 'e' ∨ e = 'E' → Digits ds → ExponentSpelled (some (true, ds)) (e :: '-' :: ds)

/-- The text spells the number: a sign if it is negative, a whole part that begins with zero only if
it is zero, a fraction and an exponent if there are any. -/
structure Spelled (lit : NumberLiteral) (cs : List Char) : Prop where
  digits : Digits lit.whole
  zero : lit.whole.head? = some '0' → lit.whole = ['0']
  parts : ∃ fs es, FractionSpelled lit.fraction fs ∧ ExponentSpelled lit.exponent es ∧
    cs = (if lit.negative then ['-'] else []) ++ (lit.whole ++ (fs ++ es))

variable {lit : NumberLiteral} {cs ds rest : List Char}

theorem Digits.exists_cons (h : Digits ds) : ∃ d more, ds = d :: more ∧ d.isDigit = true := by
  obtain ⟨d, more, rfl⟩ := List.exists_cons_of_ne_nil h.1
  exact ⟨d, more, rfl, h.2 d List.mem_cons_self⟩

theorem digits_of_digits? (h : digits? cs = some (ds, rest)) : Digits ds ∧ cs = ds ++ rest := by
  unfold digits? at h
  split at h
  · cases h
  · next hne =>
    cases h
    refine ⟨⟨hne, ?_⟩, (List.takeWhile_append_dropWhile).symm⟩
    exact fun c hc => List.mem_takeWhile_imp hc

theorem digits?_append (h : Digits ds) (hrest : Text.NoDigit rest) :
    digits? (ds ++ rest) = some (ds, rest) := by
  obtain ⟨d, more, rfl, -⟩ := h.exists_cons
  rw [digits?, Text.takeWhile_isDigit_append h.2 hrest, Text.dropWhile_isDigit_append h.2 hrest]

theorem exists_fractionSpelled {f : Option (List Char)} (h : fraction? cs = some (f, rest)) :
    ∃ fs, FractionSpelled f fs ∧ cs = fs ++ rest := by
  unfold fraction? at h
  split at h
  · obtain ⟨⟨ds, r⟩, hds, heq⟩ := Option.map_eq_some_iff.1 h
    cases heq
    obtain ⟨hdigits, rfl⟩ := digits_of_digits? hds
    exact ⟨_, .point hdigits, rfl⟩
  · cases h
    exact ⟨[], .none, rfl⟩

theorem fraction?_append {f : Option (List Char)} {fs : List Char} (h : FractionSpelled f fs)
    (hdigit : Text.NoDigit rest) (hpoint : rest.head? ≠ some '.') :
    fraction? (fs ++ rest) = some (f, rest) := by
  cases h with
  | none =>
    cases rest with
    | nil =>
      rfl
    | cons c rest =>
      have hc : c ≠ '.' := fun heq => hpoint (congrArg some heq)
      simp [fraction?, hc]
  | point hds =>
    simp [fraction?, digits?_append hds hdigit]

theorem exists_exponentSpelled {x : Option (Bool × List Char)} (h : exponent? cs = some (x, rest)) :
    ∃ es, ExponentSpelled x es ∧ cs = es ++ rest := by
  unfold exponent? at h
  split at h
  · cases h
    exact ⟨[], .none, rfl⟩
  · next e more =>
    split at h
    · next he =>
      obtain ⟨⟨ds, r⟩, hds, heq⟩ := Option.map_eq_some_iff.1 h
      cases heq
      obtain ⟨hdigits, hmore⟩ := digits_of_digits? hds
      -- a sign, if there is one, stands before the digits
      split at hmore
      · exact ⟨_, .plus he hdigits, congrArg (fun r => e :: '+' :: r) hmore⟩
      · exact ⟨_, .minus he hdigits, congrArg (fun r => e :: '-' :: r) hmore⟩
      · exact ⟨_, .unsigned he hdigits, congrArg (fun r => e :: r) hmore⟩
    · cases h
      exact ⟨[], .none, rfl⟩

theorem exponent?_append {x : Option (Bool × List Char)} {es : List Char}
    (h : ExponentSpelled x es) (hrest : Stops rest) : exponent? (es ++ rest) = some (x, rest) := by
  have hdigit : Text.NoDigit rest := fun c hc => (hrest c hc).1
  cases h with
  | none =>
    cases rest with
    | nil =>
      rfl
    | cons c rest =>
      obtain ⟨-, -, he, hE⟩ := hrest c rfl
      simp [exponent?, he, hE]
  | unsigned he hds =>
    obtain ⟨d, more, rfl, hd⟩ := hds.exists_cons
    have hread := digits?_append hds hdigit
    -- the first digit is not taken for a sign
    have hplus : d ≠ '+' := by
      rintro rfl
      exact absurd hd (by decide)
    have hminus : d ≠ '-' := by
      rintro rfl
      exact absurd hd (by decide)
    rw [List.cons_append] at hread
    simp [exponent?, he, hplus, hminus, hread]
  | plus he hds | minus he hds =>
    simp [exponent?, he, digits?_append hds hdigit]

theorem digits_of_whole? (h : whole? cs = some (ds, rest)) :
    Digits ds ∧ (ds.head? = some '0' → ds = ['0']) ∧ cs = ds ++ rest := by
  unfold whole? at h
  split at h
  · next ds' rest' hds =>
    obtain ⟨hdigits, hcs⟩ := digits_of_digits? hds
    split at h
    · cases h
    · next hzero =>
      cases h
      refine ⟨hdigits, ?_, hcs⟩
      intro hhead
      -- a zero at the beginning is the only digit
      have hlength : ds.length ≤ 1 := Nat.not_lt.1 (fun hlt => hzero ⟨hhead, hlt⟩)
      obtain ⟨d, more, rfl, -⟩ := hdigits.exists_cons
      obtain rfl : d = '0' := Option.some.inj hhead
      cases more with
      | nil =>
        rfl
      | cons d more =>
        exact absurd hlength (Nat.not_le.2 (Nat.succ_lt_succ (Nat.zero_lt_succ _)))
  · cases h

theorem whole?_append (h : Digits ds) (hzero : ds.head? = some '0' → ds = ['0'])
    (hrest : Text.NoDigit rest) : whole? (ds ++ rest) = some (ds, rest) := by
  have hno : ¬ (ds.head? = some '0' ∧ 1 < ds.length) := by
    rintro ⟨hhead, hlength⟩
    rw [hzero hhead] at hlength
    exact absurd hlength (by decide)
  rw [whole?, digits?_append h hrest]
  exact if_neg hno

/-- What follows the digits of a number is no digit. -/
theorem stops_exponent {x : Option (Bool × List Char)} {es : List Char}
    (h : ExponentSpelled x es) (hrest : Stops rest) :
    Text.NoDigit (es ++ rest) ∧ (es ++ rest).head? ≠ some '.' := by
  cases h with
  | none =>
    exact ⟨fun c hc => (hrest c hc).1, fun hc => absurd rfl (hrest '.' hc).2.1⟩
  | unsigned he | plus he | minus he =>
    rcases he with rfl | rfl <;> exact ⟨Text.noDigit_cons (by decide), by simp⟩

theorem noDigit_fraction {f : Option (List Char)} {fs : List Char} (h : FractionSpelled f fs)
    (hrest : Text.NoDigit rest) : Text.NoDigit (fs ++ rest) := by
  cases h with
  | none =>
    exact hrest
  | point =>
    exact Text.noDigit_cons (by decide)

/-- What is split off a text as a number spells it. -/
theorem exists_spelled_of_scan? (h : scan? cs = some (lit, rest)) :
    ∃ used, lit.Spelled used ∧ cs = used ++ rest := by
  simp only [scan?, Option.bind_eq_bind, Option.bind_eq_some_iff, Prod.exists] at h
  obtain ⟨whole, r₁, hwhole, fraction, r₂, hfraction, exponent, r₃, hexponent, heq⟩ := h
  cases heq
  obtain ⟨hdigits, hzero, hunsigned⟩ := digits_of_whole? hwhole
  obtain ⟨fs, hfs, rfl⟩ := exists_fractionSpelled hfraction
  obtain ⟨es, hes, rfl⟩ := exists_exponentSpelled hexponent
  refine ⟨_, ⟨hdigits, hzero, fs, es, hfs, hes, rfl⟩, ?_⟩
  split at hunsigned <;> simp_all

/-- A number is split off a text that goes on with nothing that could belong to it. -/
theorem scan?_spelled (h : lit.Spelled ds) (hrest : Stops rest) :
    scan? (ds ++ rest) = some (lit, rest) := by
  obtain ⟨hdigits, hzero, fs, es, hfs, hes, rfl⟩ := h
  obtain ⟨hdigit, hpoint⟩ := stops_exponent hes hrest
  -- each part ends where the next one begins
  have hwhole := whole?_append hdigits hzero (noDigit_fraction hfs hdigit)
  have hfraction := fraction?_append hfs hdigit hpoint
  have hexponent := exponent?_append hes hrest
  obtain ⟨negative, whole, fraction, exponent⟩ := lit
  cases negative with
  | false =>
    obtain ⟨d, more, rfl, hd⟩ := hdigits.exists_cons
    have hminus : d ≠ '-' := by
      rintro rfl
      exact absurd hd (by decide)
    rw [List.cons_append] at hwhole
    simp [scan?, hminus, hwhole, hfraction, hexponent]
  | true =>
    simp [scan?, hwhole, hfraction, hexponent]

/-- A number begins with a digit or a sign. -/
theorem Spelled.exists_head (h : lit.Spelled ds) :
    ∃ c more, ds = c :: more ∧ (c.isDigit = true ∨ c = '-') := by
  obtain ⟨hdigits, -, fs, es, -, -, rfl⟩ := h
  obtain ⟨negative, whole, fraction, exponent⟩ := lit
  cases negative with
  | false =>
    obtain ⟨d, more, rfl, hd⟩ := hdigits.exists_cons
    exact ⟨d, _, rfl, .inl hd⟩
  | true =>
    exact ⟨'-', _, rfl, .inr rfl⟩

end NumberLiteral
end FleetLifecycle
