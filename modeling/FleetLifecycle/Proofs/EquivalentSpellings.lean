import FleetLifecycle.Proofs.ErrorDecisions
import FleetLifecycle.Proofs.PolicyTexts

/-!
# Equivalent spellings — parameters that are read alike

A parameter may be written with blanks around it, a number with leading zeros, and a parameter that
is missing may also be left blank.  What is decided does not depend on such choices, error messages
included, nor on parameters that the kind of policy does not use.  Concretely, we:

1. say when two spellings of a parameter are alike (`Text.SpelledAlike`), and when two policies
   spell a needed parameter alike (`Need.SpelledAlike`);
2. show that parameters spelled alike are read alike, as text and as number
   (`Need.SpelledAlike.readsAlike`);
3. show that a decision only depends on how the needed parameters are read, and conclude with
   `Policy.decide_of_spelledAlike`.
-/

namespace FleetLifecycle

/-! ## Spellings -/

namespace Text

/-- A parameter that is absent or holds nothing but blanks. -/
def Lacking (given : Option String) : Prop :=
  ∀ value, given = some value → ∀ c ∈ value.toList, isBlank c = true

/-- Two spellings of a parameter: none at all in both, the same text up to the blanks around it, or,
where a number is expected, digits of the same number of 32 bits. -/
inductive SpelledAlike (numeric : Prop) : Option String → Option String → Prop where
  | lacking {a b : Option String} (left : Lacking a) (right : Lacking b) :
      SpelledAlike numeric a b
  | trimmed {a b : String} (same : trim a = trim b) : SpelledAlike numeric (some a) (some b)
  | numeral {a b : String} {n : UInt32} (isNumber : numeric) (left : Numeral (trim a).toList n)
      (right : Numeral (trim b).toList n) : SpelledAlike numeric (some a) (some b)

end Text

namespace Need

/-- Where the parameter stands. -/
def index : Need → Nat
  | .number index _ | .text index _ | .hour index _ | .weekday index _ => index

/-- The parameter is a number. -/
def IsNumeric : Need → Prop
  | .number _ _ | .hour _ _ | .weekday _ _ => True
  | .text _ _ => False

/-- Two policies spell a parameter alike. -/
def SpelledAlike (need : Need) (p q : Policy) : Prop :=
  Text.SpelledAlike need.IsNumeric p.parameters[need.index]? q.parameters[need.index]?

/-- Two policies give a parameter the same meaning, or the same fault. -/
def ReadsAlike (p q : Policy) : Need → Prop
  | .number index name => p.number index name = q.number index name
  | .text index name => p.text index name = q.text index name
  | .hour index name => p.hour index name = q.hour index name
  | .weekday index name => p.weekday index name = q.weekday index name

end Need

namespace Policy

variable {p q : Policy} {index : Nat} {name : String}

/-! ## Reading -/

theorem text_of_lacking (h : Text.Lacking p.parameters[index]?) (name : String) :
    p.text index name = .error (.missing name (index + 1)) := by
  unfold text
  cases hvalue : p.parameters[index]? with
  | none =>
    rfl
  | some value =>
    have hblank : Text.isBlankText value = true := List.all_eq_true.2 (h value hvalue)
    simp [hblank]

/-- A text is read as what is left of it without the blanks, or as missing if nothing is left. -/
theorem text_of_some {value : String} (h : p.parameters[index]? = some value) (name : String) :
    p.text index name = if Text.trim value = "" then .error (.missing name (index + 1))
      else .ok (Text.trim value) := by
  have hblank : Text.isBlankText value = true ↔ Text.trim value = "" := by
    rw [Text.isBlankText, List.all_eq_true, ← Text.trimChars_eq_nil_iff, Text.trim,
      String.ofList_eq_empty_iff]
  simp [text, h, hblank]

theorem number_of_trim {value : String} {n : UInt32} (h : p.parameters[index]? = some value)
    (numeral : Text.Numeral (Text.trim value).toList n) (name : String) :
    p.number index name = .ok n := by
  have hne : Text.trim value ≠ "" := by
    intro hempty
    exact numeral.nonempty (by rw [hempty]; rfl)
  refine number_of_text ?_ numeral
  rw [text_of_some h, if_neg hne, String.ofList_toList]

/-- What is not told apart by number or text is not told apart at all. -/
theorem text_eq_of_spelledAlike
    (h : Text.SpelledAlike False p.parameters[index]? q.parameters[index]?) (name : String) :
    p.text index name = q.text index name := by
  generalize hp : p.parameters[index]? = a at h
  generalize hq : q.parameters[index]? = b at h
  cases h with
  | lacking left right =>
    rw [text_of_lacking (hp ▸ left), text_of_lacking (hq ▸ right)]
  | trimmed same =>
    rw [text_of_some hp, text_of_some hq, same]
  | numeral isNumber left right =>
    exact isNumber.elim

theorem number_eq_of_spelledAlike
    (h : Text.SpelledAlike True p.parameters[index]? q.parameters[index]?) (name : String) :
    p.number index name = q.number index name := by
  generalize hp : p.parameters[index]? = a at h
  generalize hq : q.parameters[index]? = b at h
  cases h with
  | lacking left right =>
    rw [number, number, text_of_lacking (hp ▸ left), text_of_lacking (hq ▸ right)]
  | trimmed same =>
    rw [number, number, text_of_some hp, text_of_some hq, same]
  | numeral isNumber left right =>
    rw [number_of_trim hp left, number_of_trim hq right]

end Policy

/-- Parameters that are spelled alike are read alike. -/
theorem Need.SpelledAlike.readsAlike {need : Need} {p q : Policy} (h : need.SpelledAlike p q) :
    need.ReadsAlike p q := by
  cases need with
  | text index name =>
    exact Policy.text_eq_of_spelledAlike h name
  | number index name =>
    exact Policy.number_eq_of_spelledAlike h name
  | hour index name =>
    have hnumber : p.number index name = q.number index name :=
      Policy.number_eq_of_spelledAlike h name
    rw [ReadsAlike, Policy.hour, Policy.hour, hnumber]
  | weekday index name =>
    have hnumber : p.number index name = q.number index name :=
      Policy.number_eq_of_spelledAlike h name
    rw [ReadsAlike, Policy.weekday, Policy.weekday, hnumber]

namespace Policy

variable {p q : Policy} {o : Observation} {now : LocalHour}

/-! ## Deciding -/

theorem ofSchedule_congr {s : Schedule} (kind : p.kind = .scheduled s)
    (alike : ∀ need ∈ p.kind.needs, need.ReadsAlike p q) :
    Decision.ofSchedule s p o now = Decision.ofSchedule s q o now := by
  rw [kind] at alike
  cases s with
  | daily | workdays =>
    obtain ⟨hon, hoff⟩ : p.hour 0 "on hour" = q.hour 0 "on hour" ∧
        p.hour 1 "off hour" = q.hour 1 "off hour" := by
      simpa [PolicyKind.needs, Need.ReadsAlike] using alike
    simp only [Decision.ofSchedule, Decision.targetOf, hon, hoff]
  | weekly =>
    obtain ⟨hon, hoff, hday⟩ : p.hour 0 "on hour" = q.hour 0 "on hour" ∧
        p.hour 1 "off hour" = q.hour 1 "off hour" ∧
        p.weekday 2 "target day" = q.weekday 2 "target day" := by
      simpa [PolicyKind.needs, Need.ReadsAlike] using alike
    simp only [Decision.ofSchedule, Decision.targetOf, hon, hoff, hday]

/-- Of a policy only its kind and the parameters that the kind needs are looked at. -/
theorem ofPolicy_congr (kind : p.kind = q.kind)
    (alike : ∀ need ∈ p.kind.needs, need.ReadsAlike p q) :
    Decision.ofPolicy p o now = Decision.ofPolicy q o now := by
  unfold Decision.ofPolicy
  rw [← kind]
  cases hkind : p.kind with
  | limitStop | limitTerminate =>
    rw [hkind] at alike
    have hlimit : p.number 0 "hour limit" = q.number 0 "hour limit" := by
      simpa [PolicyKind.needs, Need.ReadsAlike] using alike
    simp only [Decision.ofLimit, Decision.unsupported, hlimit, kind]
  | limitEmail =>
    rw [hkind] at alike
    obtain ⟨hlimit, haddress⟩ : p.number 0 "hour limit" = q.number 0 "hour limit" ∧
        p.text 1 "notify address" = q.text 1 "notify address" := by
      simpa [PolicyKind.needs, Need.ReadsAlike] using alike
    simp only [Decision.ofNotification, Decision.unsupported, hlimit, haddress, kind]
  | scheduled s =>
    exact ofSchedule_congr hkind alike
  | none | alwaysOn | alwaysOff | unknown =>
    rfl

/-- Policies of one kind that spell the parameters alike which the kind needs are decided alike, in
action and reason, in every state and at every hour. -/
theorem decide_of_spelledAlike (p q : Policy) (kind : p.kind = q.kind)
    (alike : ∀ need ∈ p.kind.needs, need.SpelledAlike p q) (o : Observation) (now : LocalHour) :
    p.decide o now = q.decide o now := by
  rw [decide, decide, ofPolicy_congr kind fun need hneed => (alike need hneed).readsAlike]

/-- Leading zeros, a wide blank and a blank day in place of none make no difference, by day or by
night, and a fourth parameter none either. -/
theorem decide_of_spelledAlike_weekly :
    let p := parse "cycle-weekly:8/18"
    let q := parse "cycle-weekly:\u3000008/ 18 / /soon"
    p.kind = q.kind ∧ (∀ need ∈ p.kind.needs, need.SpelledAlike p q) ∧
      ∀ (o : Observation) (now : LocalHour), p.decide o now = q.decide o now ∧
        q.decide o now = .error (.invalidPolicy "missing target day (parameter 3)") := by
  intro p q
  have kind : p.kind = q.kind := by
    decide
  have hneeds :
      p.kind.needs = [.hour 0 "on hour", .hour 1 "off hour", .weekday 2 "target day"] := by
    decide
  have eight : Text.Numeral ['8'] 8 := ⟨by decide, by simp, by decide⟩
  have zeros : Text.Numeral ['0', '0', '8'] 8 := ⟨by decide, by simp, by decide⟩
  have hon : (Need.hour 0 "on hour").SpelledAlike p q :=
    .numeral (a := "8") (b := "\u3000008") trivial eight zeros
  have hoff : (Need.hour 1 "off hour").SpelledAlike p q :=
    .trimmed (a := "18") (b := " 18 ") (by decide)
  have hblank : q.parameters[2]? = some " " := by
    decide
  have hday : (Need.weekday 2 "target day").SpelledAlike p q := by
    refine .lacking (by rintro value ⟨⟩) (fun value hvalue => ?_)
    obtain rfl := Option.some.inj (hblank.symm.trans hvalue)
    exact List.forall_mem_singleton.2 rfl
  have alike : ∀ need ∈ p.kind.needs, need.SpelledAlike p q := by
    rw [hneeds]
    simp [hon, hoff, hday]
  refine ⟨kind, alike, ?_⟩
  intro o now
  have hsame := decide_of_spelledAlike p q kind alike o now
  have hfault : p.firstFault? = some (.missing "target day" 3) := by
    decide +kernel
  have hreason : p.ErrorReason o.capabilities o.resourceClass
      (.invalidPolicy "missing target day (parameter 3)") :=
    .invalid (e := .missing "target day" 3) rfl hfault
  exact ⟨hsame, hsame ▸ decide_eq_error_of_errorReason hreason⟩

end Policy
end FleetLifecycle
