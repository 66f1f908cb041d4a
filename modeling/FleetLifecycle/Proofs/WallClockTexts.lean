import FleetLifecycle.Proofs.InstantTexts
import FleetLifecycle.Proofs.PolicyTexts
import FleetLifecycle.Proofs.Results

/-!
# Wall-clock texts — which texts name a time on the wall

A date and a time of day are read leniently: a field may have one digit only and blanks before it,
the year may have a sign, and the blank between date and time may be missing.  Concretely, we:

1. say which texts are numbers, fields and years (`TimeText.NumberText`, `TimeText.FieldText`,
   `TimeText.YearText`) and which name a time (`TimeText.Names`);
2. follow the readers of these pieces from what they have read to the text
   (`TimeText.exists_numberText`, `TimeText.exists_fieldText`, `TimeText.exists_yearText`), and
   back (`TimeText.field_append`, `TimeText.year_append`);
3. conclude that the texts that are read are those that name a time of the calendar and the clock
   (`LocalTime.read_eq_ok_iff`), which the written form does (`LocalTime.read_full`).
-/

namespace FleetLifecycle
namespace TimeText

open Text

/-! ## Texts -/

/-- The text is blanks, then one or two digits that write the number. -/
inductive FieldText : List Char → Nat → Prop where
  | intro {blanks digits : List Char} {n : Nat} :
      (∀ c ∈ blanks, isBlank c = true) → NumberText (some 2) digits n →
        FieldText (blanks ++ digits) n

/-- The text names the date and the time of day, whether or not there is such a time. -/
inductive Names : List Char → LocalTime → Prop where
  | intro {before year month blanks day hour minute second after : List Char} {t : LocalTime} :
      (∀ c ∈ before, isBlank c = true) →
      YearText year t.date.year →
      FieldText month t.date.month →
      (∀ c ∈ blanks, isBlank c = true) →
      NumberText (some 2) day t.date.day →
      -- a second digit belongs to the day, so the hour may follow at once only then
      day.length = 2 ∨ NoDigit hour →
      FieldText hour t.hour →
      FieldText minute t.minute →
      FieldText second t.second →
      (∀ c ∈ after, isBlank c = true) →
      t.nanos = 0 →
        Names (before ++ (year ++ '-' :: (month ++ '-' :: (blanks ++ (day ++ (hour ++
          ':' :: (minute ++ ':' :: second)))))) ++ after) t

/-- A text names whole seconds. -/
theorem Names.nanos_eq {cs : List Char} {t : LocalTime} (h : Names cs t) : t.nanos = 0 := by
  cases h
  assumption

variable {width : Option Nat} {low high n : Nat} {y : Int} {cs rest : List Char}

theorem FieldText.ne_nil (h : FieldText cs n) : cs ≠ [] := by
  obtain ⟨-, hdigits⟩ := h
  exact List.append_ne_nil_of_right_ne_nil _ hdigits.nonempty

/-! ## From what was read to the text -/

theorem exists_digits_of_moreDigits {m : Nat} (h : moreDigits n width cs = .ok (m, rest)) :
    ∃ ds, cs = ds ++ rest ∧ (∀ c ∈ ds, c.isDigit = true) ∧
      (∀ w, width = some w → ds.length ≤ w) ∧ (width = some ds.length ∨ NoDigit rest) ∧
        Nat.ofDigitChars 10 ds n = m := by
  fun_induction moreDigits n width cs with
  | case1 n cs =>
    cases h
    exact ⟨[], rfl, by simp, by simp, .inl rfl, Nat.ofDigitChars_nil⟩
  | case2 n width hwidth =>
    cases h
    exact ⟨[], rfl, by simp, by simp, .inr noDigit_nil, Nat.ofDigitChars_nil⟩
  | case3 n width c cs hwidth hc next hover =>
    cases h
  | case4 n width c cs hwidth hc next hover ih =>
    obtain ⟨ds, rfl, hds, hfits, hend, hvalue⟩ := ih h
    refine ⟨c :: ds, rfl, List.forall_mem_cons.2 ⟨hc, hds⟩, ?_, ?_, ?_⟩
    · rintro w rfl
      have hle := hfits (w - 1) rfl
      have hpos : w ≠ 0 := fun hzero => hwidth (congrArg some hzero)
      rw [List.length_cons]
      omega
    · refine hend.imp_left (fun hlength => ?_)
      cases width with
      | none =>
        cases hlength
      | some w =>
        have hpos : w ≠ 0 := fun hzero => hwidth (congrArg some hzero)
        have hw : w - 1 = ds.length := Option.some.inj hlength
        rw [List.length_cons, ← hw, Nat.sub_add_cancel (Nat.pos_of_ne_zero hpos)]
    · rw [Nat.ofDigitChars_cons, Nat.mul_comm]
      exact hvalue
  | case5 n width c cs hwidth hc =>
    cases h
    have hstop : NoDigit (c :: cs) := noDigit_cons (by simpa using hc)
    exact ⟨[], rfl, by simp, by simp, .inr hstop, Nat.ofDigitChars_nil⟩

/-- What was read as a number is its digits; more digits follow only if the width is used up. -/
theorem exists_numberText (hwidth : width ≠ some 0) (h : number width cs = .ok (n, rest)) :
    ∃ ds, cs = ds ++ rest ∧ NumberText width ds n ∧ (width = some ds.length ∨ NoDigit rest) := by
  unfold number at h
  split at h
  · cases h
  · next c cs =>
    split at h
    · next hc =>
      obtain ⟨ds, hcs, hds, hfits, hend, hvalue⟩ := exists_digits_of_moreDigits h
      rw [← ofDigits_eq] at hvalue
      refine ⟨ds, hcs, ⟨?_, hds, hfits, hvalue⟩, hend⟩
      -- the first character is a digit, so the rest does not begin there
      rintro rfl
      rcases hend with hzero | hrest
      · exact hwidth hzero
      · have hnot := hrest c (by rw [← List.nil_append rest, ← hcs, List.head?_cons])
        exact Bool.false_ne_true (hnot.symm.trans hc)
    · cases h

theorem exists_fieldText (h : field low high cs = .ok (n, rest)) :
    low ≤ n ∧ n ≤ high ∧ ∃ blanks ds, cs = blanks ++ (ds ++ rest) ∧
      (∀ c ∈ blanks, isBlank c = true) ∧ NumberText (some 2) ds n ∧
        (ds.length = 2 ∨ NoDigit rest) := by
  obtain ⟨⟨m, cs'⟩, hnumber, h⟩ := bind_eq_ok_iff.1 h
  dsimp only at h
  split at h
  · next hbounds =>
    cases h
    obtain ⟨blanks, hcs, hblanks⟩ := exists_trimStart cs
    obtain ⟨ds, hds, htext, hend⟩ := exists_numberText (by decide) hnumber
    refine ⟨hbounds.1, hbounds.2, blanks, ds, hds ▸ hcs, hblanks, htext, hend.imp_left ?_⟩
    intro hlength
    exact (Option.some.inj hlength).symm
  · cases h

theorem exists_yearText (h : year cs = .ok (y, rest)) :
    ∃ blanks ys, cs = blanks ++ (ys ++ rest) ∧ (∀ c ∈ blanks, isBlank c = true) ∧
      YearText ys y := by
  obtain ⟨blanks, hcs, hblanks⟩ := exists_trimStart cs
  refine ⟨blanks, ?_⟩
  -- the bounds are checked last, and change nothing
  have hchecked : ∀ x : Except TimeTextError (Int × List Char),
      (x >>= fun p => if -(twoTo 31 : Int) ≤ p.1 ∧ p.1 < (twoTo 31 : Int) then .ok (p.1, p.2)
        else .error .outOfRange) = .ok (y, rest) → x = .ok (y, rest) := by
    intro x hx
    obtain ⟨p, rfl, hp⟩ := bind_eq_ok_iff.1 hx
    split at hp
    · exact hp
    · cases hp
  unfold year at h
  split at h
  · next cs hstart =>
    obtain ⟨⟨n, cs'⟩, hnumber, heq⟩ := map_eq_ok_iff.1 (hchecked _ h)
    cases heq
    obtain ⟨ds, rfl, htext, -⟩ := exists_numberText (by decide) hnumber
    exact ⟨'-' :: ds, by rw [hcs, hstart]; rfl, hblanks, .minus htext⟩
  · next cs hstart =>
    obtain ⟨⟨n, cs'⟩, hnumber, heq⟩ := map_eq_ok_iff.1 (hchecked _ h)
    cases heq
    obtain ⟨ds, rfl, htext, -⟩ := exists_numberText (by decide) hnumber
    exact ⟨'+' :: ds, by rw [hcs, hstart]; rfl, hblanks, .plus htext⟩
  · obtain ⟨⟨n, cs'⟩, hnumber, heq⟩ := map_eq_ok_iff.1 (hchecked _ h)
    cases heq
    obtain ⟨ds, hds, htext, -⟩ := exists_numberText (by decide) hnumber
    exact ⟨ds, hds ▸ hcs, hblanks, .unsigned htext⟩

theorem eq_cons_of_literal {c : Char} {u : Unit} (h : literal c cs = .ok (u, rest)) :
    cs = c :: rest := by
  unfold literal at h
  split at h
  · cases h
  · split at h
    · next heq =>
      cases h
      rw [heq]
    · cases h

theorem eq_of_checkDate {d d' : Date} (h : checkDate d = .ok d') :
    d = d' ∧ d.isValid = true ∧ firstYear ≤ d.year ∧ d.year ≤ lastYear := by
  unfold checkDate at h
  split at h
  · next hd =>
    cases h
    exact ⟨rfl, hd⟩
  · cases h

/-- What was read is a time of the calendar and the clock, and the text names it. -/
theorem names_of_wallClock {t : LocalTime} (h : wallClock cs = .ok t)
    {before after : List Char} (hbefore : ∀ c ∈ before, isBlank c = true)
    (hafter : ∀ c ∈ after, isBlank c = true) : Names (before ++ cs ++ after) t ∧ t.OnClock := by
  unfold wallClock at h
  obtain ⟨⟨y, cs₁⟩, hyear, h⟩ := bind_eq_ok_iff.1 h
  obtain ⟨⟨_, cs₂⟩, hhyphen, h⟩ := bind_eq_ok_iff.1 h
  obtain ⟨⟨month, cs₃⟩, hmonth, h⟩ := bind_eq_ok_iff.1 h
  obtain ⟨⟨_, cs₄⟩, hhyphen', h⟩ := bind_eq_ok_iff.1 h
  obtain ⟨⟨day, cs₅⟩, hday, h⟩ := bind_eq_ok_iff.1 h
  obtain ⟨⟨hour, cs₆⟩, hhour, h⟩ := bind_eq_ok_iff.1 h
  obtain ⟨⟨_, cs₇⟩, hcolon, h⟩ := bind_eq_ok_iff.1 h
  obtain ⟨⟨minute, cs₈⟩, hminute, h⟩ := bind_eq_ok_iff.1 h
  obtain ⟨⟨_, cs₉⟩, hcolon', h⟩ := bind_eq_ok_iff.1 h
  obtain ⟨⟨second, rest⟩, hsecond, h⟩ := bind_eq_ok_iff.1 h
  dsimp only at hhyphen hmonth hhyphen' hday hhour hcolon hminute hcolon' hsecond h
  split at h
  case isFalse => cases h
  next hend =>
  obtain ⟨date, hdate, h⟩ := bind_eq_ok_iff.1 h
  cases h
  obtain ⟨rfl, hvalid, hspan⟩ := eq_of_checkDate hdate
  obtain rfl := List.isEmpty_iff.1 hend
  -- from the end of the text to its beginning
  obtain ⟨-, hlastSecond, bs, ss, rfl, hbs, hss, -⟩ := exists_fieldText hsecond
  obtain rfl := eq_cons_of_literal hcolon'
  obtain ⟨-, hlastMinute, bm, ms, rfl, hbm, hms, -⟩ := exists_fieldText hminute
  obtain rfl := eq_cons_of_literal hcolon
  obtain ⟨-, hlastHour, bh, hs, rfl, hbh, hhs, -⟩ := exists_fieldText hhour
  obtain ⟨-, -, bd, ds, rfl, hbd, hds, hcut⟩ := exists_fieldText hday
  obtain rfl := eq_cons_of_literal hhyphen'
  obtain ⟨-, -, bo, os, rfl, hbo, hos, -⟩ := exists_fieldText hmonth
  obtain rfl := eq_cons_of_literal hhyphen
  obtain ⟨blanks, ys, rfl, hblanks, hys⟩ := exists_yearText hyear
  refine ⟨?_, ⟨hvalid, hspan, hlastHour, hlastMinute, hlastSecond, (by decide : 0 < secondNanos)⟩⟩
  have hcut' : ds.length = 2 ∨ NoDigit (bh ++ hs) := by
    rw [← List.append_assoc] at hcut
    exact hcut.imp_right (noDigit_append_iff (FieldText.intro hbh hhs).ne_nil).1
  have hbefore' : ∀ c ∈ before ++ blanks, isBlank c = true :=
    List.forall_mem_append.2 ⟨hbefore, hblanks⟩
  have hnames : Names _ ⟨⟨y, month, day⟩, hour, minute, second, 0⟩ :=
    .intro hbefore' hys (.intro hbo hos) hbd hds hcut' (.intro hbh hhs) (.intro hbm hms)
      (.intro hbs hss) hafter rfl
  simpa using hnames

/-! ## From the text to what is read -/

theorem NumberText.noBlank (h : NumberText width cs n) : NoBlank cs :=
  noBlank_of_isDigit h.isDigit

/-- A field ends with a digit. -/
theorem FieldText.noBlank_reverse (h : FieldText cs n) : NoBlank cs.reverse := by
  obtain ⟨-, hdigits⟩ := h
  rw [List.reverse_append]
  refine noBlank_append (List.reverse_ne_nil_iff.2 hdigits.nonempty) (noBlank_of_isDigit ?_) _
  exact fun c hc => hdigits.isDigit c (List.mem_reverse.1 hc)

theorem YearText.noBlank_append (h : YearText cs y) (rest : List Char) : NoBlank (cs ++ rest) := by
  cases h with
  | unsigned h =>
    exact Text.noBlank_append h.nonempty h.noBlank rest
  | plus h | minus h =>
    rintro c ⟨⟩
    decide

theorem field_append {blanks ds : List Char} (hblanks : ∀ c ∈ blanks, isBlank c = true)
    (h : NumberText (some 2) ds n) (hend : ds.length = 2 ∨ NoDigit rest) (hlow : low ≤ n)
    (hhigh : n ≤ high) (hmax : high ≤ maxNumber) :
    field low high (blanks ++ (ds ++ rest)) = .ok (n, rest) := by
  obtain ⟨hne, hds, hfits, rfl⟩ := h
  have hstart : trimStart (blanks ++ (ds ++ rest)) = ds ++ rest := by
    rw [trimStart_append hblanks, trimStart_of_noBlank]
    exact Text.noBlank_append hne (noBlank_of_isDigit hds) rest
  have hend' : some 2 = some ds.length ∨ NoDigit rest :=
    hend.imp_left (fun htwo => congrArg some htwo.symm)
  rw [field, hstart, number_append hne hds hfits hend' (Nat.le_trans hhigh hmax)]
  exact if_pos ⟨hlow, hhigh⟩

/-- A time of the calendar and the clock is read from every text that names it. -/
theorem wallClock_of_names {t : LocalTime} (h : Names cs t) (hclock : t.OnClock) :
    wallClock (trimChars cs) = .ok t := by
  obtain ⟨hvalid, hspan, hhour, hminute, hsecond, -⟩ := hclock
  obtain ⟨hmonth, hday⟩ := Date.bounds_of_isValid hvalid
  obtain @⟨before, ys, os, bd, ds, hs, ms, ss, after, t, hbefore, hys, hos, hbd, hds, hcut, hhs,
    hms, hss, hafter, hnanos⟩ := h
  have htrim : trimChars (before ++ (ys ++ '-' :: (os ++ '-' :: (bd ++ (ds ++ (hs ++
      ':' :: (ms ++ ':' :: ss)))))) ++ after) =
      ys ++ '-' :: (os ++ '-' :: (bd ++ (ds ++ (hs ++ ':' :: (ms ++ ':' :: ss))))) := by
    refine trimChars_eq_iff.2 ⟨⟨before, after, rfl, hbefore, hafter⟩, hys.noBlank_append _, ?_⟩
    simp only [List.reverse_append, List.reverse_cons, List.append_assoc]
    exact Text.noBlank_append (List.reverse_ne_nil_iff.2 hss.ne_nil) hss.noBlank_reverse _
  rw [htrim]
  obtain @⟨bo, os, _, hbo, hos⟩ := hos
  obtain @⟨bh, hs, _, hbh, hhs⟩ := hhs
  obtain @⟨bm, ms, _, hbm, hms⟩ := hms
  obtain @⟨bs, ss, _, hbs, hss⟩ := hss
  have hhyphen : ∀ cs, NoDigit ('-' :: cs) := fun cs => noDigit_cons (by decide)
  have hcolon : ∀ cs, NoDigit (':' :: cs) := fun cs => noDigit_cons (by decide)
  have hcut' : ∀ cs, ds.length = 2 ∨ NoDigit (bh ++ (hs ++ cs)) := by
    intro cs
    rw [← List.append_assoc]
    exact hcut.imp_right (noDigit_append_iff (FieldText.intro hbh hhs).ne_nil).2
  have hskip : ∀ c cs, literal c (c :: cs) = .ok ((), cs) := fun c cs => if_pos rfl
  have hreadYear := fun cs => year_append hys (hhyphen cs) hspan.1 hspan.2
  have hreadMonth := fun cs =>
    field_append hbo hos (.inr (hhyphen cs)) hmonth.1 hmonth.2 (by decide)
  have hreadDay := fun cs => field_append hbd hds (hcut' cs) hday.1 hday.2 (by decide)
  have hreadHour := fun cs =>
    field_append hbh hhs (.inr (hcolon cs)) (Nat.zero_le _) hhour (by decide)
  have hreadMinute := fun cs =>
    field_append hbm hms (.inr (hcolon cs)) (Nat.zero_le _) hminute (by decide)
  have hreadSecond := field_append hbs hss (.inr noDigit_nil) (Nat.zero_le _) hsecond (by decide)
  rw [List.append_nil] at hreadSecond
  have hcheck : checkDate t.date = .ok t.date := if_pos ⟨hvalid, hspan⟩
  simp only [wallClock, bind, Except.bind, List.append_assoc, hreadYear, hskip, hreadMonth,
    hreadDay, hreadHour, hreadMinute, hreadSecond, List.isEmpty_nil, if_true, hcheck, pure,
    Except.pure]
  rw [← hnanos]

end TimeText

namespace LocalTime

open Text TimeText

variable {s : String} {t : LocalTime}

/-- The texts that are read are those that name a time of the calendar and the clock. -/
theorem read_eq_ok_iff : LocalTime.read s = .ok t ↔ Names s.toList t ∧ t.OnClock := by
  constructor
  · intro h
    obtain ⟨⟨before, after, hs, hbefore, hafter⟩, -, -⟩ := trimsTo_trimChars s.toList
    rw [hs]
    exact names_of_wallClock h hbefore hafter
  · rintro ⟨hnames, hclock⟩
    exact wallClock_of_names hnames hclock

/-- A sign, short fields, blanks of all kinds, and a leap second at a minute that never has one. -/
example : LocalTime.read " +02025-1- 5\t9:07:60\n" = .ok ⟨⟨2025, 1, 5⟩, 9, 7, 60, 0⟩ := by
  decide +kernel

/-! ## The written form -/

theorem length_padded_two {n : Nat} (h : n < 100) : (padded 2 n).length = 2 :=
  length_padded h (by decide)

theorem numberText_two {n : Nat} (h : n < 100) : NumberText (some 2) (padded 2 n) n := by
  refine numberText_padded ?_
  rintro w ⟨⟩
  exact Nat.le_of_eq (length_padded_two h)

theorem fieldText_two {blanks : List Char} (hblanks : ∀ c ∈ blanks, isBlank c = true) {n : Nat}
    (h : n < 100) : FieldText (blanks ++ padded 2 n) n :=
  .intro hblanks (numberText_two h)

theorem names_full (h : t.OnClock) (hnanos : t.nanos = 0) : Names t.full.toList t := by
  obtain ⟨hvalid, hspan, hhour, hminute, hsecond, -⟩ := h
  obtain ⟨hmonth, hday⟩ := Date.bounds_of_isValid hvalid
  have hnone : ∀ c ∈ ([] : List Char), isBlank c = true := by simp
  have hspace : ∀ c ∈ [' '], isBlank c = true := List.forall_mem_singleton.2 rfl
  have hnames := Names.intro hnone (yearText_yearDigits t.date.year)
    (fieldText_two hnone (by omega : t.date.month < 100)) hnone
    (numberText_two (by omega : t.date.day < 100)) (.inl (length_padded_two (by omega)))
    (fieldText_two hspace (by omega : t.hour < 100))
    (fieldText_two hnone (by omega : t.minute < 100))
    (fieldText_two hnone (by omega : t.second < 100)) hnone hnanos
  simpa [full, dateDigits, clockDigits] using hnames

/-- A time that is written down is read again, as far as whole seconds go. -/
theorem read_full (h : t.OnClock) (hnanos : t.nanos = 0) : LocalTime.read t.full = .ok t :=
  read_eq_ok_iff.2 ⟨names_full h hnanos, h⟩

end LocalTime
end FleetLifecycle
