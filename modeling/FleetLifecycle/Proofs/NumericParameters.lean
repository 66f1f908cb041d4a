import FleetLifecycle.Proofs.EquivalentSpellings
import Mathlib.Data.List.Induction
import Mathlib.Logic.Function.Iterate

/-!
# Numeric parameters — the one way to write a number

A parameter that stands for a number is written in ASCII digits, with blanks around them and zeros
before them as one likes.  Signs, digits of other scripts, blanks in between and numbers of more
than 32 bits are refused, and so is an hour or a day that does not exist, however it might fit into
fewer bits.  Concretely, we:

1. say which texts write a number (`Text.WritesNumber`), and show that these are the runs of digits
   with its value (`Text.writesNumber_iff`);
2. give one rule for each outcome of reading a number (`Policy.ReadsNumber`) and show that one of
   them always applies (`Policy.exists_readsNumber`);
3. give one rule for each outcome of reading a number below a bound (`Policy.ReadsBelow`), and
   conclude with `Policy.numbers_read`.
-/

namespace FleetLifecycle

/-! ## Numbers in decimal -/

namespace Text

/-- The text is the number in decimal, behind any number of zeros. -/
def WritesNumber (cs : List Char) (n : Nat) : Prop :=
  ∃ zeros, cs = List.replicate zeros '0' ++ Nat.toDigits 10 n

theorem toDigits_digitValue {d : Char} (hd : d.isDigit = true) :
    digitValue d < 10 ∧ Nat.toDigits 10 (digitValue d) = [d] := by
  have hbounds := bounds_of_isDigit hd
  have hvalue : digitValue d = d.toNat - 48 := rfl
  have hlt : digitValue d < 10 := by omega
  refine ⟨hlt, ?_⟩
  have hchar : (digitValue d).digitChar = d := by
    rw [← Char.toNat_inj, Nat.toNat_digitChar_of_lt_ten hlt]
    omega
  rw [Nat.toDigits_of_lt_base hlt, hchar]

theorem ofDigits_concat (ds : List Char) (d : Char) :
    ofDigits (ds ++ [d]) = 10 * ofDigits ds + digitValue d := by
  simp only [ofDigits, List.foldl_append, List.foldl_cons, List.foldl_nil, Nat.mul_comm]

/-- Digits write their value. -/
theorem writesNumber_ofDigits {cs : List Char} (hne : cs ≠ [])
    (hcs : ∀ c ∈ cs, c.isDigit = true) : WritesNumber cs (ofDigits cs) := by
  induction cs using List.reverseRecOn with
  | nil =>
    exact absurd rfl hne
  | append_singleton ds d ih =>
    obtain ⟨hds, hd⟩ := List.forall_mem_append.1 hcs
    obtain ⟨hlt, hdigit⟩ := toDigits_digitValue (hd d List.mem_cons_self)
    rw [ofDigits_concat]
    by_cases hnil : ds = []
    · exact ⟨0, by simp [hnil, ofDigits, hdigit]⟩
    · obtain ⟨zeros, hzeros⟩ := ih hnil hds
      rcases Nat.eq_zero_or_pos (ofDigits ds) with hzero | hpos
      · -- all digits so far are zeros, so the last one is the number
        refine ⟨zeros + 1, ?_⟩
        rw [hzero, Nat.mul_zero, Nat.zero_add, hdigit, hzeros, hzero, List.replicate_succ']
        rfl
      · refine ⟨zeros, ?_⟩
        rw [← Nat.toDigits_append_toDigits (by decide) hpos hlt, hdigit, ← List.append_assoc,
          ← hzeros]

/-- The texts of a number are the runs of digits that have its value. -/
theorem writesNumber_iff {cs : List Char} {n : Nat} :
    WritesNumber cs n ↔ cs ≠ [] ∧ (∀ c ∈ cs, c.isDigit = true) ∧ ofDigits cs = n := by
  constructor
  · rintro ⟨zeros, rfl⟩
    have hpadded : List.replicate zeros '0' ++ Nat.toDigits 10 n =
        padded (zeros + (decimal n).length) n := by
      simp [padded, decimal]
    rw [hpadded]
    exact ⟨padded_ne_nil _ _, fun _ => isDigit_of_mem_padded, ofDigits_padded _ _⟩
  · rintro ⟨hne, hcs, rfl⟩
    exact writesNumber_ofDigits hne hcs

theorem numeral_iff_writesNumber {cs : List Char} {n : UInt32} :
    Numeral cs n ↔ WritesNumber cs n.toNat := by
  rw [writesNumber_iff]
  exact ⟨fun h => ⟨h.nonempty, h.isDigit, h.value⟩, fun h => ⟨h.1, h.2.1, h.2.2⟩⟩

theorem trim_eq_iff {s text : String} : trim s = text ↔ TrimsTo s.toList text.toList := by
  rw [← trimChars_eq_iff, trim, ← String.toList_inj, String.toList_ofList]

end Text

/-- Days are counted from Sunday. -/
theorem Weekday.ofIndex?_of_lt {n : Nat} (h : n < 7) : ofIndex? n = some ((next^[n]) .sunday) := by
  have hall : ∀ i : Fin 7, ofIndex? i = some ((next^[i]) .sunday) := by
    decide
  exact hall ⟨n, h⟩

namespace Policy

open Text (Lacking TrimsTo WritesNumber)

/-! ## Reading a number -/

/-- What the parameter that is given at a position is read as: one rule for each outcome. -/
inductive ReadsNumber (name : String) (position : Nat) :
    Option String → Except ParameterError UInt32 → Prop where
  | lacking {given : Option String} (lacking : Lacking given) :
      ReadsNumber name position given (.error (.missing name position))
  | numeral {value text : String} {n : UInt32} (trims : TrimsTo value.toList text.toList)
      (writes : WritesNumber text.toList n.toNat) :
      ReadsNumber name position (some value) (.ok n)
  -- signs and digits of other scripts write no number at all
  | malformed {value text : String} (trims : TrimsTo value.toList text.toList)
      (notBlank : text ≠ "") (tooLarge : ∀ n, WritesNumber text.toList n → 4294967295 < n) :
      ReadsNumber name position (some value) (.error (.notNumber name text))

variable {p : Policy} {index : Nat} {name : String}

theorem exists_readsNumber (name : String) (position : Nat) (given : Option String) :
    ∃ result, ReadsNumber name position given result := by
  cases given with
  | none =>
    exact ⟨_, .lacking (by simp [Lacking])⟩
  | some value =>
    have trims := Text.trimsTo_trim value
    by_cases hblank : Text.trim value = ""
    · refine ⟨_, .lacking ?_⟩
      rintro _ ⟨⟩
      rw [← Text.trimChars_eq_nil_iff, Text.trimChars_eq_iff]
      simpa [hblank] using trims
    · by_cases hnumber : ∃ n : UInt32, WritesNumber (Text.trim value).toList n.toNat
      · obtain ⟨n, hn⟩ := hnumber
        exact ⟨_, .numeral trims hn⟩
      · refine ⟨_, .malformed trims hblank ?_⟩
        intro n hn
        rw [← Nat.not_le]
        intro hle
        have hword : (UInt32.ofNat n).toNat = n :=
          UInt32.toNat_ofNat_of_lt' (Nat.lt_of_le_of_lt hle (by decide))
        exact hnumber ⟨UInt32.ofNat n, hword.symm ▸ hn⟩

theorem ReadsNumber.number_eq {result : Except ParameterError UInt32}
    (h : ReadsNumber name (index + 1) p.parameters[index]? result) :
    p.number index name = result := by
  generalize hgiven : p.parameters[index]? = given at h
  cases h with
  | lacking lacking =>
    rw [number, text_of_lacking (hgiven ▸ lacking)]
    rfl
  | numeral trims writes =>
    rw [← Text.trim_eq_iff.2 trims, ← Text.numeral_iff_writesNumber] at writes
    exact number_of_trim hgiven writes name
  | @malformed value text trims notBlank tooLarge =>
    have htext : p.text index name = .ok text := by
      rw [text_of_some hgiven, Text.trim_eq_iff.2 trims, if_neg notBlank]
    have hrefused :
        ¬ (Text.isDigits text.toList = true ∧ Text.ofDigits text.toList < twoTo 32) := by
      rintro ⟨hdigits, hlt⟩
      have hne : text.toList ≠ [] := by simpa using notBlank
      have hlarge := tooLarge _ (Text.writesNumber_ofDigits hne (List.all_eq_true.1 hdigits))
      have hbound : twoTo 32 = 4294967296 := by decide
      omega
    rw [number, htext]
    exact if_neg hrefused

/-- A number is read by the rules, and by nothing else. -/
theorem number_eq_iff {result : Except ParameterError UInt32} :
    p.number index name = result ↔ ReadsNumber name (index + 1) p.parameters[index]? result := by
  constructor
  · rintro rfl
    obtain ⟨result, h⟩ := exists_readsNumber name (index + 1) p.parameters[index]?
    rwa [h.number_eq]
  · exact ReadsNumber.number_eq

/-! ## Reading a number below a bound -/

/-- What a number is read as where it counts hours or days and has to lie below a bound: one rule
for each outcome. -/
inductive ReadsBelow {α : Type} (bound : UInt32) (Means : UInt32 → α → Prop)
    (beyond : UInt32 → ParameterError) :
    Except ParameterError UInt32 → Except ParameterError α → Prop where
  | within {n : UInt32} {a : α} (below : n < bound) (means : Means n a) :
      ReadsBelow bound Means beyond (.ok n) (.ok a)
  | beyond {n : UInt32} (reaches : bound ≤ n) :
      ReadsBelow bound Means beyond (.ok n) (.error (beyond n))
  | unread {e : ParameterError} : ReadsBelow bound Means beyond (.error e) (.error e)

/-- Where a number below the bound means one thing and every other is refused, the rules say what is
read. -/
theorem bind_eq_iff_readsBelow {α : Type} {bound : UInt32} {Means : UInt32 → α → Prop}
    {beyond : UInt32 → ParameterError} {read : UInt32 → Except ParameterError α}
    (hwithin : ∀ n, n < bound → ∃ a, read n = .ok a ∧ ∀ b, Means n b ↔ a = b)
    (hbeyond : ∀ n, bound ≤ n → read n = .error (beyond n))
    {number : Except ParameterError UInt32} {result : Except ParameterError α} :
    number >>= read = result ↔ ReadsBelow bound Means beyond number result := by
  cases number with
  | error e =>
    constructor
    · rintro rfl
      exact .unread
    · rintro ⟨⟩
      rfl
  | ok n =>
    have hbind : Except.ok n >>= read = read n := rfl
    rw [hbind]
    rcases UInt32.lt_or_le n bound with hlt | hle
    · obtain ⟨a, hread, hmeans⟩ := hwithin n hlt
      constructor
      · rintro rfl
        rw [hread]
        exact .within hlt ((hmeans a).2 rfl)
      · intro h
        cases h with
        | within _ means =>
          rw [hread, (hmeans _).1 means]
        | beyond reaches =>
          exact absurd reaches (UInt32.not_le.2 hlt)
    · constructor
      · rintro rfl
        rw [hbeyond n hle]
        exact .beyond hle
      · intro h
        cases h with
        | within below _ =>
          exact absurd hle (UInt32.not_le.2 below)
        | beyond =>
          exact hbeyond n hle

theorem hour_eq_iff {result : Except ParameterError UInt8} :
    p.hour index name = result ↔
      ReadsBelow 24 (fun n h => h.toNat = n.toNat) (.hourOutOfRange name) (p.number index name)
        result := by
  refine bind_eq_iff_readsBelow ?_ ?_
  · intro n hn
    have hlt : n.toNat < 24 := UInt32.lt_iff_toNat_lt.1 hn
    have hhour : (UInt8.ofNat n.toNat).toNat = n.toNat :=
      UInt8.toNat_ofNat_of_lt' (Nat.lt_trans hlt (by decide))
    refine ⟨UInt8.ofNat n.toNat, if_pos hn, fun h => ?_⟩
    rw [← UInt8.toNat_inj, hhour, eq_comm]
  · intro n hn
    exact if_neg (UInt32.not_lt.2 hn)

theorem weekday_eq_iff {result : Except ParameterError Weekday} :
    p.weekday index name = result ↔
      ReadsBelow 7 (fun n d => (Weekday.next^[n.toNat]) .sunday = d) (.dayOutOfRange name)
        (p.number index name) result := by
  refine bind_eq_iff_readsBelow ?_ ?_
  · intro n hn
    refine ⟨(Weekday.next^[n.toNat]) .sunday, ?_, fun d => Iff.rfl⟩
    simp only [Weekday.ofIndex?_of_lt (UInt32.lt_iff_toNat_lt.1 hn)]
  · intro n hn
    have hnone : Weekday.ofIndex? n.toNat = none :=
      List.getElem?_eq_none (UInt32.le_iff_toNat_le.1 hn)
    simp only [hnone]

/-- A parameter that is absent or blank is missing, at a position that counts from one; one whose
text without blanks around it is the number in ASCII digits, behind any number of zeros, and fits 32
bits, is that number; any other text is no number.  A number below 24 is an hour, one below 7 the
day that many days after Sunday, and any other is reported in full. -/
theorem numbers_read (p : Policy) (index : Nat) (name : String) :
    (∀ result, p.number index name = result ↔
      ReadsNumber name (index + 1) p.parameters[index]? result) ∧
    (∀ result, p.hour index name = result ↔
      ReadsBelow 24 (fun n h => h.toNat = n.toNat) (.hourOutOfRange name) (p.number index name)
        result) ∧
    ∀ result, p.weekday index name = result ↔
      ReadsBelow 7 (fun n d => (Weekday.next^[n.toNat]) .sunday = d) (.dayOutOfRange name)
        (p.number index name) result :=
  ⟨fun _ => number_eq_iff, fun _ => hour_eq_iff, fun _ => weekday_eq_iff⟩

/-- Zeros and blanks do not count, and 256 is no day, though its last eight bits are those of
Sunday. -/
example :
    let p := parse "cycle-weekly: 0022 /4/256"
    p.hour 0 "on hour" = .ok 22 ∧
      p.weekday 2 "target day" = .error (.dayOutOfRange "target day" 256) := by
  decide

end Policy
end FleetLifecycle
