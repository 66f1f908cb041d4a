import FleetLifecycle.Form.Request
import FleetLifecycle.Form.Settings
import FleetLifecycle.Proofs.ResourceRecords

/-!
# Written forms — a value is read from the form that it is written in

A form is read field by field, wherever it stands.  Concretely, we:

1. read a record from an object whose entries give it its fields (`Shape.Reads`,
   `Shape.read_object`), and a variant from an object that names it (`readTagged_object`);
2. read numbers, instants and cycle ids from what they are written as;
3. conclude that actions, reasons and requests, resources and given settings are read back from
   their written forms, requests and resources if their instants can be read.
-/

namespace FleetLifecycle

/-! ## Records -/

namespace Shape

variable {α β : Type} {origin : Origin} {entries : List (String × Json)}

/-- The entries give a record its fields: each that occurs fits, and they make up the record. -/
structure Reads (shape : Shape α) (origin : Origin) (entries : List (String × Json)) (a : α) :
    Prop where
  checks : ∀ s ∈ shape.slots, ∀ v, Entries.find? s.name entries = some v →
    s.check origin v = .ok ()
  builds : shape.build origin (fun name => Entries.find? name entries) = .ok a

theorem reads_done (a : α) : (done a).Reads origin entries a :=
  ⟨by simp [done], rfl⟩

theorem Reads.andThen {f : Shape (α → β)} {x : Shape α} {g : α → β} {a : α}
    (hf : f.Reads origin entries g) (hx : x.Reads origin entries a) :
    (f.andThen x).Reads origin entries (g a) := by
  constructor
  case checks =>
    intro s hs
    rcases List.mem_append.1 hs with hs | hs
    · exact hf.checks s hs
    · exact hx.checks s hs
  case builds =>
    simp [Shape.andThen, hf.builds, hx.builds, bind, Except.bind, pure, Except.pure]

section Fields

variable {name : String} {read : Reader α} {v : Json} {a : α}

theorem reads_slot {absent : Option α} {mayOmit : Bool}
    (hfind : Entries.find? name entries = some v) (hread : read origin v = .ok a) :
    (slot name read absent mayOmit).Reads origin entries a := by
  constructor
  case checks =>
    intro s hs w hw
    obtain rfl : s = _ := List.mem_singleton.1 hs
    obtain rfl : v = w := Option.some.inj (hfind.symm.trans hw)
    simp [hread, Except.map]
  case builds =>
    simp [slot, hfind, hread]

/-- An object may leave out a field with a default. -/
theorem reads_absent {mayOmit : Bool} (hfind : Entries.find? name entries = none) :
    (slot name read (some a) mayOmit).Reads origin entries a := by
  constructor
  case checks =>
    intro s hs w hw
    obtain rfl : s = _ := List.mem_singleton.1 hs
    exact absurd (hfind.symm.trans hw) (by simp)
  case builds =>
    simp [slot, hfind]

theorem reads_required (hfind : Entries.find? name entries = some v)
    (hread : read origin v = .ok a) : (required name read).Reads origin entries a :=
  reads_slot hfind hread

end Fields

/-- A record is read from an object in which each of its fields stands once. -/
theorem read_object {shape : Shape α} (what : String) {a : α}
    (hnodup : (entries.map (·.1)).Nodup) (h : shape.Reads origin entries a) :
    shape.read what origin (.object entries) = .ok a := by
  have hcheck : checkEntries origin shape.slots [] entries = .ok () := by
    rw [checkEntries_eq_ok_iff]
    constructor
    · intro s _
      have hcount := List.nodup_iff_count_le_one.1 hnodup s.name
      exact ⟨hcount, fun hseen => absurd hseen List.not_mem_nil⟩
    · intro e he s hs
      have hname : s.name = e.1 := by simpa using List.find?_some hs
      refine h.checks s (List.mem_of_find?_eq_some hs) e.2 ?_
      rw [hname]
      exact Entries.find?_of_mem hnodup he
  simp only [read, hcheck, bind, Except.bind, h.builds]

end Shape

/-! ## Variants -/

section Variants

variable {α : Type} {what key name : String} {variants : List (Variant α)} {origin : Origin}
  {rest : List (String × Json)} {a : α}

/-- A variant is read from an object that names it first. -/
theorem readTagged_object {variant : Variant α}
    (hfind : variants.find? (fun variant => variant.name = name) = some variant)
    (hkey : ∀ e ∈ rest, e.1 ≠ key) (hread : variant.read .setAside (.object rest) = .ok a) :
    readTagged what key variants origin (.object ((key, .string name) :: rest)) = .ok a := by
  have htag : readTag key variants origin (some variant) rest = .ok variant := by
    refine readTag_some_eq_ok_iff.2 ⟨?_, rfl⟩
    rw [List.mem_map]
    rintro ⟨e, he, heq⟩
    exact hkey e he heq
  have hfilter : ((key, Json.string name) :: rest).filter (fun e => e.1 ≠ key) = rest := by
    simpa using hkey
  have hname : readName variants origin (.string name) = .ok variant := by
    simp only [readName, hfind]
  simp only [readTagged, readTag, if_true, hname, htag, bind, Except.bind, hfilter, hread]

/-- A variant that is a record is read from the fields beside its name. -/
theorem readTagged_record {form : String} {shape : Shape α}
    (hfind : variants.find? (fun variant => variant.name = name) = some (.record name form shape))
    (hkey : ∀ e ∈ rest, e.1 ≠ key) (hnodup : (rest.map (·.1)).Nodup)
    (h : shape.Reads .setAside rest a) :
    readTagged what key variants origin (.object ((key, .string name) :: rest)) = .ok a :=
  readTagged_object hfind hkey (Shape.read_object form hnodup h)

end Variants

/-! ## Numbers -/

namespace Reader

variable {origin : Origin}

theorem word_of_lt {width n : Nat} (h : n < twoTo width) :
    word width origin (.integer n) = .ok n := by
  simp [word, h]

theorem word8_toNat (n : UInt8) : word8 origin (.integer n.toNat) = .ok n := by
  simp [word8, word_of_lt (show n.toNat < twoTo 8 from n.toNat_lt), Except.map]

theorem word32_toNat (n : UInt32) : word32 origin (.integer n.toNat) = .ok n := by
  simp [word32, word_of_lt (show n.toNat < twoTo 32 from n.toNat_lt), Except.map]

theorem word64_toNat (n : UInt64) : word64 origin (.integer n.toNat) = .ok n := by
  simp [word64, word_of_lt (show n.toNat < twoTo 64 from n.toNat_lt), Except.map]

end Reader

/-! ## Optional values -/

section Options

variable {α : Type} {read : Reader α} {write : α → Json} {origin : Origin}
  {entries : List (String × Json)} {name : String}

/-- An optional value is read back if no value is written as null. -/
theorem Reader.optional_ofOption (hnull : ∀ a, write a ≠ .null) {a : Option α}
    (hread : ∀ b ∈ a, read origin (write b) = .ok b) :
    Reader.optional read origin (Json.ofOption write a) = .ok a := by
  cases a with
  | none =>
    rfl
  | some a =>
    have hwritten : Reader.optional read origin (write a) = (read origin (write a)).map some := by
      unfold Reader.optional
      split
      · next hv => exact absurd hv (hnull a)
      · rfl
    rw [Json.ofOption, hwritten, hread a rfl]
    rfl

/-- A value that is left out where there is none. -/
theorem Shape.reads_entryOf (hnull : ∀ a, write a ≠ .null)
    (hread : ∀ a, read origin (write a) = .ok a) {a : Option α}
    (hfind : Entries.find? name entries = a.map write) :
    (Shape.defaulted name (Reader.optional read) none).Reads origin entries a := by
  cases a with
  | none =>
    exact reads_absent hfind
  | some a =>
    exact reads_slot hfind (Reader.optional_ofOption hnull (a := some a) (fun b _ => hread b))

end Options

/-! ## Cycle ids -/

namespace CycleId

open Text

/-- A hexadecimal digit begins no frame and is no hyphen. -/
theorem hexDigit_ne (d : Fin 16) :
    hexDigit d ≠ '-' ∧ hexDigit d ≠ '\x7b' ∧ (hexDigit d).toLower ≠ 'u' := by
  revert d
  decide

theorem filter_grouped {cs : List Char} (h : '-' ∉ cs) : (grouped cs).filter (· ≠ '-') = cs := by
  have hpart : ∀ ds : List Char, (∀ c ∈ ds, c ∈ cs) → ds.filter (· ≠ '-') = ds := by
    intro ds hds
    refine List.filter_eq_self.2 (fun c hc => ?_)
    have hne : c ≠ '-' := fun heq => h (heq ▸ hds c hc)
    simpa using hne
  have hfirst : (cs.take 8).filter (· ≠ '-') = cs.take 8 :=
    hpart _ (fun c => List.mem_of_mem_take)
  have hdrop : ∀ n, (cs.drop n).filter (· ≠ '-') = cs.drop n :=
    fun n => hpart _ (fun c => List.mem_of_mem_drop)
  have htake : ∀ n m, ((cs.drop n).take m).filter (· ≠ '-') = (cs.drop n).take m :=
    fun n m => hpart _ (fun c hc => List.mem_of_mem_drop (List.mem_of_mem_take hc))
  -- groups that follow one another make up what they were cut from
  have hcut : ∀ n m, (cs.drop n).take m ++ cs.drop (n + m) = cs.drop n := by
    intro n m
    rw [← List.drop_drop, List.take_append_drop]
  have hhyphen : ∀ ds : List Char, ('-' :: ds).filter (· ≠ '-') = ds.filter (· ≠ '-') :=
    fun ds => rfl
  calc
    (grouped cs).filter (· ≠ '-')
        = cs.take 8 ++ ((cs.drop 8).take 4 ++ ((cs.drop 12).take 4 ++
            ((cs.drop 16).take 4 ++ cs.drop 20))) := by
          simp only [grouped, List.filter_append, hhyphen, hfirst, htake, hdrop,
            List.append_assoc, List.cons_append]
    _ = cs := by
          rw [hcut 16 4, hcut 12 4, hcut 8 4, List.take_append_drop]

theorem ofDigits?_hexDigits (id : CycleId) : ofDigits? (id.digits.map hexDigit) = some id := by
  have hdigits : ∀ ds : List (Fin 16), (ds.map hexDigit).mapM hexValue? = some ds := by
    intro ds
    induction ds with
    | nil =>
      rfl
    | cons d ds ih =>
      simp [List.mapM_cons, hexValue?_hexDigit, ih]
  simp [ofDigits?, hdigits, id.length_eq]

theorem unwrap_grouped (id : CycleId) : unwrap (grouped (id.digits.map hexDigit)) = none := by
  have hlength := id.length_eq
  cases hdigits : id.digits with
  | nil =>
    simp [hdigits] at hlength
  | cons d ds =>
    obtain ⟨-, hbrace, hlower⟩ := hexDigit_ne d
    have hgrouped : ∃ cs, grouped ((d :: ds).map hexDigit) = hexDigit d :: cs := ⟨_, rfl⟩
    obtain ⟨cs, hgrouped⟩ := hgrouped
    -- the text begins with a digit, so it is neither framed nor a name
    have hurn : ¬ ((hexDigit d :: cs).take urn.length).map Char.toLower = urn := by
      intro heq
      exact hlower (List.cons.inj heq).1
    have hframe : ¬ ((hexDigit d :: cs).head? = some '\x7b' ∧
        (hexDigit d :: cs).getLast? = some '\x7d' ∧ 1 < (hexDigit d :: cs).length) := by
      rintro ⟨heq, -⟩
      exact hbrace (Option.some.inj heq)
    rw [hgrouped, unwrap, if_neg hframe, if_neg hurn]

theorem read_text (id : CycleId) : CycleId.read id.text = .ok id := by
  have hhyphen : '-' ∉ id.digits.map hexDigit := by
    intro hmem
    obtain ⟨d, -, heq⟩ := List.mem_map.1 hmem
    exact (hexDigit_ne d).1 heq
  have hgroups : ofGroups? (grouped (id.digits.map hexDigit)) = some id := by
    simp only [ofGroups?, filter_grouped hhyphen, if_true, ofDigits?_hexDigits]
  have hmem : '-' ∈ grouped (id.digits.map hexDigit) := by
    simp [grouped]
  simp [CycleId.read, text, of?, unwrap_grouped, hmem, hgroups]

/-- A cycle id is read from its written form. -/
theorem reader_toJson (id : CycleId) (origin : Origin) : reader origin id.toJson = .ok id := by
  simp [reader, toJson, Reader.parsed, read_text, Except.mapError]

end CycleId

/-! ## Instants, classes and notifications -/

theorem Instant.reader_toJson_asWritten (t : Instant) (origin : Origin) :
    reader origin t.toJson = .ok t.asWritten := by
  simp [reader, toJson, Reader.parsed, t.read_rfc3339_asWritten, Except.mapError]

theorem Instant.reader_toJson {t : Instant} (readable : t.Readable) (origin : Origin) :
    reader origin t.toJson = .ok t := by
  rw [reader_toJson_asWritten, asWritten_of_readable readable]

theorem ResourceClass.reader_toJson (c : ResourceClass) (origin : Origin) :
    reader origin c.toJson = .ok c := by
  cases c <;> rfl

theorem EmailMessage.reader_toJson (m : EmailMessage) (origin : Origin) :
    reader origin m.toJson = .ok m := by
  refine Shape.read_object _ (by simp) ?_
  exact ((((Shape.reads_done _).andThen (Shape.reads_required rfl rfl)).andThen
    (Shape.reads_required rfl rfl)).andThen (Shape.reads_required rfl rfl)).andThen
    (Shape.reads_required rfl rfl)

/-! ## Actions and reasons -/

theorem Action.reader_toJson (a : Action) (origin : Origin) : reader origin a.toJson = .ok a := by
  cases a with
  | none | start | stop | terminate | error =>
    exact readTagged_object rfl (by simp) rfl
  | email recipient =>
    refine readTagged_record rfl (by simp) (by simp) ?_
    exact (Shape.reads_done _).andThen (Shape.reads_required rfl rfl)

/-- Why an action was chosen is read back, a gated action with all that it says. -/
theorem Reason.reader_toJson (r : Reason) (origin : Origin) : reader origin r.toJson = .ok r := by
  have hcode : ∀ e ∈ r.fields, e.1 ≠ "code" := by
    cases r <;> simp [fields]
  have hnodup : (r.fields.map (·.1)).Nodup := by
    cases r <;> simp [fields]
  cases r with
  | noPolicy | alreadyRunning | pinnedOn | pinnedOff =>
    exact readTagged_object rfl hcode rfl
  | alreadyStopped text | notStartable text | invalidPolicy text | unknownKind text =>
    refine readTagged_record rfl hcode hnodup ?_
    exact (Shape.reads_done _).andThen (Shape.reads_required rfl rfl)
  | windowOpen hour | windowClosed hour | emptyWindow hour =>
    refine readTagged_record rfl hcode hnodup ?_
    exact (Shape.reads_done _).andThen (Shape.reads_required rfl (Reader.word8_toNat hour))
  | withinLimit limitHours =>
    refine readTagged_record rfl hcode hnodup ?_
    exact (Shape.reads_done _).andThen (Shape.reads_required rfl (Reader.word32_toNat limitHours))
  | limitExceeded runningSecs limitHours =>
    refine readTagged_record rfl hcode hnodup ?_
    refine ((Shape.reads_done _).andThen (Shape.reads_required rfl ?_)).andThen
      (Shape.reads_required rfl ?_)
    · exact Reader.word64_toNat runningSecs
    · exact Reader.word32_toNat limitHours
  | unsupportedForClass kind resourceClass =>
    refine readTagged_record rfl hcode hnodup ?_
    exact ((Shape.reads_done _).andThen (Shape.reads_required rfl rfl)).andThen
      (Shape.reads_required rfl (resourceClass.reader_toJson _))
  | gated proposed markerTag =>
    refine readTagged_record rfl hcode hnodup ?_
    exact ((Shape.reads_done _).andThen
      (Shape.reads_required rfl (proposed.reader_toJson _))).andThen
      (Shape.reads_required rfl rfl)

/-! ## Decisions and requests -/

theorem RunState.reader_toJson (s : RunState) (origin : Origin) :
    reader origin s.toJson = .ok s := by
  cases s <;> rfl

theorem Capabilities.reader_toJson (c : Capabilities) (origin : Origin) :
    reader origin c.toJson = .ok c := by
  refine Shape.read_object _ (by simp) ?_
  exact (((Shape.reads_done _).andThen (Shape.reads_required rfl rfl)).andThen
    (Shape.reads_required rfl rfl)).andThen (Shape.reads_required rfl rfl)

theorem Weekday.reader_toJson (d : Weekday) (origin : Origin) : reader origin d.toJson = .ok d := by
  have hname : ofName? d.shortName = some d := by
    cases d <;> decide
  simp [reader, toJson, Reader.parsed, hname, Except.mapError]

theorem LocalHour.reader_toJson (now : LocalHour) (origin : Origin) :
    reader origin now.toJson = .ok now := by
  refine Shape.read_object _ (by simp) ?_
  exact ((Shape.reads_done _).andThen
    (Shape.reads_required rfl (Reader.word8_toNat now.hour))).andThen
    (Shape.reads_required rfl (now.day.reader_toJson origin))

theorem Decision.reader_toJson (d : Decision) (origin : Origin) :
    reader origin d.toJson = .ok d := by
  refine Shape.read_object _ (by simp) ?_
  exact ((Shape.reads_done _).andThen
    (Shape.reads_required rfl (d.action.reader_toJson origin))).andThen
    (Shape.reads_required rfl (d.reason.reader_toJson origin))

/-- A request is read back, with the snapshot and the notification that it has or has not. -/
theorem ActionRequest.reader_toJson {r : ActionRequest} (readable : r.evaluatedAt.Readable)
    (origin : Origin) : reader origin r.toJson = .ok r := by
  obtain ⟨entries, hentries⟩ : ∃ entries, r.toJson = .object entries := ⟨_, rfl⟩
  have hnodup : (entries.map (·.1)).Nodup := by
    cases hentries
    cases r.snapshotId <;> cases r.email <;> simp [Json.entryOf]
  have hsnapshot : Entries.find? "snapshot_id" entries = r.snapshotId.map .string := by
    cases hentries
    cases r.snapshotId <;> cases r.email <;> rfl
  have hemail : Entries.find? "email" entries = r.email.map EmailMessage.toJson := by
    cases hentries
    cases r.snapshotId <;> cases r.email <;> rfl
  -- the entries that may be left out come before the instant
  have hinstant : Entries.find? "evaluated_at" entries = some r.evaluatedAt.toJson := by
    cases hentries
    cases r.snapshotId <;> cases r.email <;> rfl
  rw [hentries]
  refine Shape.read_object _ hnodup ?_
  have htext : ∀ s, Reader.text origin (.string s) = .ok s := fun _ => rfl
  have hname := Shape.reads_entryOf (by simp) htext hsnapshot
  have hmessage := Shape.reads_entryOf (by simp [EmailMessage.toJson])
    (fun m => m.reader_toJson origin) hemail
  cases hentries
  exact ((((((((((Shape.reads_done _).andThen
    (Shape.reads_required rfl (r.cycleId.reader_toJson origin))).andThen
    (Shape.reads_required rfl rfl)).andThen
    (Shape.reads_required rfl rfl)).andThen
    (Shape.reads_required rfl (r.resourceClass.reader_toJson origin))).andThen
    (Shape.reads_required rfl rfl)).andThen
    (Shape.reads_required rfl (r.action.reader_toJson origin))).andThen
    (Shape.reads_required rfl (r.reason.reader_toJson origin))).andThen hname).andThen
    hmessage).andThen (Shape.reads_required hinstant (Instant.reader_toJson readable origin))

/-! ## Resources -/

theorem Tags.reader_toJson (tags : Tags) (origin : Origin) :
    reader origin tags.toJson = .ok tags := by
  have htexts : readEntries origin (tags.entries.map (fun e => (e.1, .string e.2))) =
      .ok tags.entries := readEntries_eq_ok_iff.2 rfl
  simp only [reader, toJson, htexts, Except.map, tags.ofList_entries]

section Resources

variable {origin : Origin} {entries : List (String × Json)} {name : String}

theorem reads_instant {t : Option Instant} (readable : ∀ u ∈ t, u.Readable)
    (hfind : Entries.find? name entries = some (Json.ofOption Instant.toJson t)) :
    (Shape.defaulted name (Reader.optional Instant.reader) none).Reads origin entries t :=
  Shape.reads_slot hfind
    (Reader.optional_ofOption (by simp [Instant.toJson])
      (fun u hu => Instant.reader_toJson (readable u hu) origin))

theorem reads_tags {tags : Tags} (hfind : Entries.find? name entries = some tags.toJson) :
    (Shape.defaulted name Tags.reader .empty).Reads origin entries tags :=
  Shape.reads_slot hfind (tags.reader_toJson origin)

end Resources

theorem ComputeInstance.reader_toJson {m : ComputeInstance}
    (readable : ∀ t ∈ m.launchTime, t.Readable) (origin : Origin) :
    reader origin m.toJson = .ok m := by
  refine Shape.read_object _ (by simp [fields]) ?_
  exact ((((Shape.reads_done _).andThen (Shape.reads_required rfl rfl)).andThen
    (Shape.reads_required rfl rfl)).andThen (reads_instant readable rfl)).andThen (reads_tags rfl)

theorem DatabaseInstance.reader_toJson {d : DatabaseInstance}
    (readable : ∀ t ∈ d.startedAt, t.Readable) (origin : Origin) :
    reader origin d.toJson = .ok d := by
  refine Shape.read_object _ (by simp [fields]) ?_
  have hname : Reader.optional Reader.text origin (Json.ofOption .string d.dbName) = .ok d.dbName :=
    Reader.optional_ofOption (by simp) (fun _ _ => rfl)
  exact (((((Shape.reads_done _).andThen (Shape.reads_required rfl rfl)).andThen
    (Shape.reads_slot rfl hname)).andThen (Shape.reads_required rfl rfl)).andThen
    (reads_instant readable rfl)).andThen (reads_tags rfl)

/-- The instant of a resource, if it has one, can be read from its text. -/
def Resource.Readable (r : Resource) : Prop :=
  ∀ t ∈ r.launchedAt, t.Readable

theorem Resource.reader_toJson {r : Resource} (readable : r.Readable) (origin : Origin) :
    reader origin r.toJson = .ok r := by
  cases r with
  | compute m =>
    refine readTagged_object rfl (by simp [classKey, fields, ComputeInstance.fields]) ?_
    exact map_eq_ok_iff.2 ⟨m, ComputeInstance.reader_toJson readable .setAside, rfl⟩
  | database d =>
    refine readTagged_object rfl (by simp [classKey, fields, DatabaseInstance.fields]) ?_
    exact map_eq_ok_iff.2 ⟨d, DatabaseInstance.reader_toJson readable .setAside, rfl⟩

/-! ## Given settings -/

theorem reads_optional {α : Type} {read : Reader α} {write : α → Json} {origin : Origin}
    {entries : List (String × Json)} {name : String} (hnull : ∀ a, write a ≠ .null)
    (hread : ∀ a, read origin (write a) = .ok a) {a : Option α}
    (hfind : Entries.find? name entries = some (Json.ofOption write a)) :
    (Shape.optional name read).Reads origin entries a :=
  Shape.reads_slot hfind (Reader.optional_ofOption hnull (fun b _ => hread b))

theorem GivenEvaluation.reader_toJson (e : GivenEvaluation) (origin : Origin) :
    reader origin e.toJson = .ok e := by
  have htext : ∀ s, Reader.text origin (.string s) = .ok s := fun _ => rfl
  have hflag : ∀ b, Reader.flag origin (.bool b) = .ok b := fun _ => rfl
  refine Shape.read_object _ (by simp) ?_
  exact (((((Shape.reads_done _).andThen (reads_optional (by simp) htext rfl)).andThen
    (reads_optional (by simp) hflag rfl)).andThen (reads_optional (by simp) hflag rfl)).andThen
    (reads_optional (by simp) htext rfl)).andThen (reads_optional (by simp) htext rfl)

theorem GivenGate.reader_toJson (g : GivenGate) (origin : Origin) :
    reader origin g.toJson = .ok g := by
  have htext : ∀ s, Reader.text origin (.string s) = .ok s := fun _ => rfl
  refine Shape.read_object _ (by simp) ?_
  exact ((Shape.reads_done _).andThen (reads_optional (by simp) htext rfl)).andThen
    (reads_optional (by simp) htext rfl)

theorem GivenSettings.reader_toJson (g : GivenSettings) (origin : Origin) :
    reader origin g.toJson = .ok g := by
  refine Shape.read_object _ (by simp) ?_
  exact (((Shape.reads_done _).andThen
    (Shape.reads_required rfl (Reader.word32_toNat g.version))).andThen
    (Shape.reads_slot rfl (g.evaluation.reader_toJson origin))).andThen
    (Shape.reads_slot rfl (g.gate.reader_toJson origin))

end FleetLifecycle
