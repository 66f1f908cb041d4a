import FleetLifecycle.Dispatch.Journal
import FleetLifecycle.Proofs.WrittenTexts

/-!
# Record lines — a record takes one line, whatever its texts hold

A journal holds one record to a line, so a record must not hold a line break.  Its texts may hold
any character: printing escapes those that would break the line.  Concretely, we:

1. show that UTF-8 uses the bytes below `0x20` for control characters only
   (`Text.controlFree_of_utf8`);
2. show that a value printed on one line holds no control character, if it is one that can be read
   again (`Json.controlFree_compactChars`);
3. show that the records of requests are such values (`ActionRequest.fitsIn_record`), so that a
   record is one line, and cut a journal into them again (`Journal.splitOn_lines`).
-/

namespace FleetLifecycle

namespace Text

/-! ## Control characters -/

/-- No character of the text is a control character. -/
def ControlFree (cs : List Char) : Prop :=
  ∀ c ∈ cs, 0x20 ≤ c.toNat

@[simp]
theorem controlFree_nil : ControlFree [] := by
  simp [ControlFree]

@[simp]
theorem controlFree_cons {c : Char} {cs : List Char} :
    ControlFree (c :: cs) ↔ 0x20 ≤ c.toNat ∧ ControlFree cs := by
  simp [ControlFree]

@[simp]
theorem controlFree_append {cs ds : List Char} :
    ControlFree (cs ++ ds) ↔ ControlFree cs ∧ ControlFree ds := by
  simp only [ControlFree, List.mem_append]
  constructor
  · intro h
    exact ⟨fun c hc => h c (.inl hc), fun c hc => h c (.inr hc)⟩
  · rintro ⟨hcs, hds⟩ c (hc | hc)
    · exact hcs c hc
    · exact hds c hc

theorem controlFree_flatMap {cs : List Char} {f : Char → List Char}
    (h : ∀ c, ControlFree (f c)) : ControlFree (cs.flatMap f) := by
  intro c hc
  rcases List.mem_flatMap.1 hc with ⟨d, -, hd⟩
  exact h d c hd

theorem controlFree_decimal (n : Nat) : ControlFree (decimal n) := by
  intro c hc
  have hdigit : c.isDigit = true := isDigit_of_mem_decimal hc
  have hbounds : '0' ≤ c ∧ c ≤ '9' := by
    simpa [Char.isDigit, Char.le_def] using hdigit
  have hle : '0'.toNat ≤ c.toNat := hbounds.1
  exact Nat.le_trans (by decide) hle

theorem controlFree_decimalInt (n : Int) : ControlFree (decimalInt n) := by
  cases n with
  | ofNat n =>
    exact controlFree_decimal n
  | negSucc n =>
    exact controlFree_cons.2 ⟨by decide, controlFree_decimal (n + 1)⟩

theorem le_toNat_hexDigit (n : Fin 16) : 0x20 ≤ (hexDigit n).toNat := by
  revert n
  decide

/-! ## Bytes -/

/-- Reading bytes into a list adds those that are still to be read. -/
theorem toList_loop_of_drop {bytes : ByteArray} {rest : List UInt8} {i : Nat} {before : List UInt8}
    (h : bytes.data.toList.drop i = rest) :
    ByteArray.toList.loop bytes i before = before.reverse ++ rest := by
  induction rest generalizing i before with
  | nil =>
    have hend : ¬ i < bytes.size := by
      simpa using h
    rw [ByteArray.toList.loop, if_neg hend, List.append_nil]
  | cons b rest ih =>
    have hi : i < bytes.data.toList.length := by
      rw [← Nat.not_le, ← List.drop_eq_nil_iff, h]
      simp
    rw [List.drop_eq_getElem_cons hi] at h
    rcases List.cons.inj h with ⟨hb, hrest⟩
    have hget : bytes.get! i = b := by
      rw [← hb, Array.getElem_toList]
      exact getElem!_pos bytes.data i hi
    rw [ByteArray.toList.loop, if_pos (by simpa using hi), ih hrest, hget, List.reverse_cons,
      List.append_assoc, List.singleton_append]

/-- The bytes of a text are those of its characters. -/
theorem toList_toUTF8 (s : String) : s.toUTF8.toList = s.toList.flatMap String.utf8EncodeChar := by
  have hbytes : s.toUTF8.data.toList = s.toList.flatMap String.utf8EncodeChar := by
    rw [String.toUTF8_eq_toByteArray, ← String.utf8Encode_toList, List.utf8Encode,
      List.toList_data_toByteArray]
  exact toList_loop_of_drop hbytes

/-- In UTF-8 a small byte is a control character by itself, never a part of another character. -/
theorem toNat_lt_of_utf8EncodeChar {c : Char} {b : UInt8} (hb : b ∈ String.utf8EncodeChar c)
    (h : b < 0x20) : c.toNat < 0x20 := by
  have hb' : b.toNat < 0x20 := UInt8.lt_iff_toNat_lt.1 h
  have hval : c.toNat = c.val.toNat := rfl
  simp only [String.utf8EncodeChar] at hb
  -- one byte for a small character; all bytes of a longer encoding have their highest bit set
  repeat' split at hb
  all_goals
    simp only [List.mem_cons, List.not_mem_nil, or_false] at hb
    rcases hb with rfl | rfl | rfl | rfl
    all_goals
      rw [UInt8.toNat_ofNat'] at hb'
      omega

theorem controlFree_of_utf8 {s : String} (h : ControlFree s.toList) :
    ∀ b ∈ s.toUTF8.toList, 0x20 ≤ b := by
  intro b hb
  rw [toList_toUTF8] at hb
  rcases List.mem_flatMap.1 hb with ⟨c, hc, hbc⟩
  rw [← UInt8.not_lt]
  intro hlt
  exact absurd (toNat_lt_of_utf8EncodeChar hbc hlt) (Nat.not_lt.2 (h c hc))

end Text

namespace Json

/-! ## Values on one line -/

/-- Control characters are escaped, and what stands for them holds none. -/
theorem controlFree_escapeChar (c : Char) : Text.ControlFree (escapeChar c) := by
  unfold escapeChar
  -- one case for each escape, and one for the characters that stand for themselves
  repeat' split
  all_goals
    simp [Text.le_toNat_hexDigit]
  · next h =>
    exact Nat.not_lt.1 h

theorem controlFree_quoted (s : String) : Text.ControlFree (quoted s) := by
  have hescaped : Text.ControlFree (s.toList.flatMap escapeChar) :=
    Text.controlFree_flatMap controlFree_escapeChar
  simp [quoted, hescaped]

mutual

/-- A value that can be read again is printed without control characters. -/
theorem controlFree_compactChars (depth : Nat) :
    (v : Json) → v.fitsIn depth = true → Text.ControlFree (compactChars v)
  | .null, _ => by simp [compactChars]
  | .bool true, _ => by simp [compactChars]
  | .bool false, _ => by simp [compactChars]
  | .integer n, _ => Text.controlFree_decimalInt n
  | .real _, h => nomatch h
  | .string s, _ => controlFree_quoted s
  | .array items, h => by
    cases depth with
    | zero =>
      exact nomatch h
    | succ depth =>
      have hitems := controlFree_compactItems depth items h
      simp [compactChars, hitems]
  | .object entries, h => by
    cases depth with
    | zero =>
      exact nomatch h
    | succ depth =>
      have hentries := controlFree_compactEntries depth entries h
      simp [compactChars, hentries]

theorem controlFree_compactItems (depth : Nat) :
    (items : List Json) → itemsFitIn depth items = true → Text.ControlFree (compactItems items)
  | [], _ => by simp [compactItems]
  | [v], h => by
    have hv := controlFree_compactChars depth v (by simpa [itemsFitIn] using h)
    simpa [compactItems] using hv
  | v :: w :: items, h => by
    have hboth := Bool.and_eq_true_iff.1 h
    have hv := controlFree_compactChars depth v hboth.1
    have hitems := controlFree_compactItems depth (w :: items) hboth.2
    simp [compactItems, hv, hitems]

theorem controlFree_compactEntries (depth : Nat) :
    (entries : List (String × Json)) → entriesFitIn depth entries = true →
      Text.ControlFree (compactEntries entries)
  | [], _ => by simp [compactEntries]
  | [(k, v)], h => by
    have hv := controlFree_compactChars depth v (by simpa [entriesFitIn] using h)
    simp [compactEntries, controlFree_quoted, hv]
  | (k, v) :: e :: entries, h => by
    have hboth := Bool.and_eq_true_iff.1 h
    have hv := controlFree_compactChars depth v hboth.1
    have hentries := controlFree_compactEntries depth (e :: entries) hboth.2
    simp [compactEntries, controlFree_quoted, hv, hentries]

end

end Json

/-! ## Records can be read -/

namespace ActionRequest

theorem fitsIn_record (r : ActionRequest) (op : String) (dryRun : Bool)
    (email : Option EmailMessage) (depth : Nat) :
    (r.record op dryRun email).fitsIn (depth + 3) = true := by
  refine Json.fitsIn_object ?_
  simp only [List.forall_mem_append, List.forall_mem_cons, List.not_mem_nil, false_implies,
    implies_true, and_true]
  refine ⟨⟨⟨⟨rfl, rfl, rfl, rfl, rfl, rfl, rfl, ?_⟩, ?_⟩, ?_⟩, rfl⟩
  · exact r.reason.fitsIn_toJson depth
  · exact Json.fitsIn_of_mem_entryOf (fun _ => rfl)
  · exact Json.fitsIn_of_mem_entryOf (fun m => m.fitsIn_toJson (depth + 1))

/-- A record is written on a line of its own. -/
theorem line_eq (r : ActionRequest) (op : String) (dryRun : Bool) (email : Option EmailMessage) :
    r.line op dryRun email = (r.record op dryRun email).compact.toUTF8.toList ++ [0x0A] := by
  simp only [line, Text.toList_toUTF8, String.toList_append, List.flatMap_append]
  rfl

/-- A record holds no control character. -/
theorem le_of_mem_record {r : ActionRequest} {op : String} {dryRun : Bool}
    {email : Option EmailMessage} {b : UInt8}
    (h : b ∈ (r.record op dryRun email).compact.toUTF8.toList) : 0x20 ≤ b := by
  have hfree : Text.ControlFree (r.record op dryRun email).compact.toList := by
    rw [Json.compact, String.toList_ofList]
    exact Json.controlFree_compactChars 3 _ (r.fitsIn_record _ _ _ 0)
  exact Text.controlFree_of_utf8 hfree b h

end ActionRequest

/-- Lines that hold no line break can be told apart again. -/
theorem Journal.splitOn_lines {records : List (List UInt8)} (h : ∀ r ∈ records, 0x0A ∉ r) :
    (records.flatMap (· ++ [0x0A])).splitOn 0x0A = records ++ [[]] := by
  induction records with
  | nil =>
    simp [List.splitOn, List.splitOnP_nil]
  | cons r records ih =>
    have hrest := ih (fun r' hr' => h r' (List.mem_cons_of_mem _ hr'))
    rw [List.flatMap_cons, List.append_assoc, List.singleton_append,
      List.splitOn_append_cons_self_of_not_mem (h r List.mem_cons_self), hrest, List.cons_append]

end FleetLifecycle
