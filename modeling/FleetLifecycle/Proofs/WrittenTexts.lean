import FleetLifecycle.Proofs.JsonRoundTrips
import FleetLifecycle.Proofs.KeyOrder

/-!
# Written texts — the form of a value can be read from its text

A text is read as a value only if numbers have at most 64 bits and objects nest no deeper than the
limit.  Every form keeps to this: its numbers are words, and its nesting is bounded by its type.
Concretely, we:

1. bound the parts that forms are put together from;
2. show that the order of keys makes no difference (`Json.WrittenOf.fitsIn`);
3. say of each form how deep it nests (`fitsIn_toJson`).
-/

namespace FleetLifecycle

/-! ## Parts of a form -/

namespace Json

/-- Words of up to 64 bits can be read. -/
theorem fitsIn_natCast {n : Nat} (h : n < unsignedBound) (depth : Nat) :
    (integer n).fitsIn depth = true := by
  simp [fitsIn, h]

theorem fitsIn_uint8 (n : UInt8) (depth : Nat) : (integer n.toNat).fitsIn depth = true :=
  fitsIn_natCast (Nat.lt_trans n.toNat_lt (by decide)) depth

theorem fitsIn_uint32 (n : UInt32) (depth : Nat) : (integer n.toNat).fitsIn depth = true :=
  fitsIn_natCast (Nat.lt_trans n.toNat_lt (by decide)) depth

theorem fitsIn_uint64 (n : UInt64) (depth : Nat) : (integer n.toNat).fitsIn depth = true :=
  fitsIn_natCast n.toNat_lt depth

theorem fitsIn_object {entries : List (String × Json)} {depth : Nat}
    (h : ∀ e ∈ entries, e.2.fitsIn depth = true) : (object entries).fitsIn (depth + 1) = true := by
  show entriesFitIn depth entries = true
  induction entries with
  | nil =>
    rfl
  | cons e entries ih =>
    rw [List.forall_mem_cons] at h
    exact Bool.and_eq_true_iff.2 ⟨h.1, ih h.2⟩

theorem fitsIn_array {items : List Json} {depth : Nat}
    (h : ∀ v ∈ items, v.fitsIn depth = true) : (array items).fitsIn (depth + 1) = true := by
  show itemsFitIn depth items = true
  induction items with
  | nil =>
    rfl
  | cons v items ih =>
    rw [List.forall_mem_cons] at h
    exact Bool.and_eq_true_iff.2 ⟨h.1, ih h.2⟩

section Options

variable {α : Type} {write : α → Json} {depth : Nat}

theorem fitsIn_ofOption (h : ∀ a, (write a).fitsIn depth = true) (a : Option α) :
    (ofOption write a).fitsIn depth = true := by
  cases a with
  | none =>
    rfl
  | some a =>
    exact h a

theorem fitsIn_of_mem_entryOf (h : ∀ a, (write a).fitsIn depth = true) {key : String}
    {a : Option α} : ∀ e ∈ entryOf key write a, e.2.fitsIn depth = true := by
  cases a with
  | none =>
    simp [entryOf]
  | some a =>
    simpa [entryOf] using h a

end Options
end Json

/-! ## Reordered keys -/

namespace Json

theorem entriesFitIn_eq_all (depth : Nat) (entries : List (String × Json)) :
    entriesFitIn depth entries = entries.all (fun e => e.2.fitsIn depth) := by
  induction entries with
  | nil =>
    rfl
  | cons e entries ih =>
    rw [entriesFitIn, List.all_cons, ih]

mutual

/-- The order of keys does not change how deep a value nests. -/
theorem Reordered.fitsIn_eq : {v w : Json} → v.Reordered w → (depth : Nat) →
    v.fitsIn depth = w.fitsIn depth
  | _, _, .null, _ | _, _, .bool _, _ | _, _, .integer _, _ | _, _, .real _, _
  | _, _, .string _, _ => rfl
  | _, _, .array _, 0 | _, _, .object _ _ _, 0 => rfl
  | _, _, .array hitems, depth + 1 => hitems.itemsFitIn_eq depth
  | _, _, @Reordered.object entries changed entries' _ hchanged hperm, depth + 1 => by
    calc
      entriesFitIn depth entries = entriesFitIn depth changed := hchanged.entriesFitIn_eq depth
      _ = changed.all (fun e => e.2.fitsIn depth) := entriesFitIn_eq_all depth changed
      _ = entries'.all (fun e => e.2.fitsIn depth) := hperm.all_eq
      _ = entriesFitIn depth entries' := (entriesFitIn_eq_all depth entries').symm

theorem ReorderedItems.itemsFitIn_eq : {items items' : List Json} → ReorderedItems items items' →
    (depth : Nat) → itemsFitIn depth items = itemsFitIn depth items'
  | _, _, .nil, _ => rfl
  | _, _, .cons hv hitems, depth =>
    congrArg₂ and (hv.fitsIn_eq depth) (hitems.itemsFitIn_eq depth)

theorem ReorderedEntries.entriesFitIn_eq : {entries entries' : List (String × Json)} →
    ReorderedEntries entries entries' → (depth : Nat) →
    entriesFitIn depth entries = entriesFitIn depth entries'
  | _, _, .nil, _ => rfl
  | _, _, .cons _ hv hentries, depth =>
    congrArg₂ and (hv.fitsIn_eq depth) (hentries.entriesFitIn_eq depth)

end

theorem WrittenOf.fitsIn {α : Type} {write : α → Json} {a : α} {w : Json} {depth : Nat}
    (hw : WrittenOf write a w) (h : (write a).fitsIn depth = true) : w.fitsIn depth = true := by
  cases hw with
  | inOrder =>
    exact h
  | reordered hw =>
    exact hw.fitsIn_eq depth ▸ h

end Json

/-! ## Forms -/

section Forms

open Json (fitsIn_object fitsIn_ofOption fitsIn_of_mem_entryOf fitsIn_uint8 fitsIn_uint32
  fitsIn_uint64)

variable (depth : Nat)

theorem RunState.fitsIn_toJson (s : RunState) : s.toJson.fitsIn (depth + 1) = true := by
  cases s <;> rfl

theorem Capabilities.fitsIn_toJson (c : Capabilities) : c.toJson.fitsIn (depth + 1) = true := rfl

theorem LocalHour.fitsIn_toJson (now : LocalHour) : now.toJson.fitsIn (depth + 1) = true := by
  refine fitsIn_object ?_
  simp only [List.forall_mem_cons, List.not_mem_nil, false_implies, implies_true, and_true]
  exact ⟨fitsIn_uint8 now.hour depth, rfl⟩

theorem Action.fitsIn_toJson (a : Action) : a.toJson.fitsIn (depth + 1) = true := by
  cases a <;> rfl

/-- A gated reason holds an action, so reasons nest one deeper. -/
theorem Reason.fitsIn_toJson (r : Reason) : r.toJson.fitsIn (depth + 2) = true := by
  refine fitsIn_object (List.forall_mem_cons.2 ⟨rfl, ?_⟩)
  cases r with
  | noPolicy | alreadyRunning | pinnedOn | pinnedOff =>
    exact fun e he => absurd he List.not_mem_nil
  | alreadyStopped text | notStartable text | invalidPolicy text | unknownKind text =>
    exact List.forall_mem_singleton.2 rfl
  | windowOpen hour | windowClosed hour | emptyWindow hour =>
    exact List.forall_mem_singleton.2 (fitsIn_uint8 hour _)
  | withinLimit limitHours =>
    exact List.forall_mem_singleton.2 (fitsIn_uint32 limitHours _)
  | limitExceeded runningSecs limitHours =>
    exact List.forall_mem_cons.2
      ⟨fitsIn_uint64 runningSecs _, List.forall_mem_singleton.2 (fitsIn_uint32 limitHours _)⟩
  | unsupportedForClass kind resourceClass =>
    exact List.forall_mem_cons.2 ⟨rfl, List.forall_mem_singleton.2 rfl⟩
  | gated proposed markerTag =>
    exact List.forall_mem_cons.2
      ⟨proposed.fitsIn_toJson depth, List.forall_mem_singleton.2 rfl⟩

theorem Decision.fitsIn_toJson (d : Decision) : d.toJson.fitsIn (depth + 3) = true := by
  refine fitsIn_object ?_
  simp only [List.forall_mem_cons, List.not_mem_nil, false_implies, implies_true, and_true]
  exact ⟨d.action.fitsIn_toJson (depth + 1), d.reason.fitsIn_toJson depth⟩

theorem EmailMessage.fitsIn_toJson (m : EmailMessage) : m.toJson.fitsIn (depth + 1) = true := rfl

theorem ActionRequest.fitsIn_toJson (r : ActionRequest) : r.toJson.fitsIn (depth + 3) = true := by
  refine fitsIn_object ?_
  simp only [List.forall_mem_append, List.forall_mem_cons, List.not_mem_nil, false_implies,
    implies_true, and_true]
  refine ⟨⟨⟨⟨rfl, rfl, rfl, rfl, rfl, ?_, ?_⟩, ?_⟩, ?_⟩, rfl⟩
  · exact r.action.fitsIn_toJson (depth + 1)
  · exact r.reason.fitsIn_toJson depth
  · exact fitsIn_of_mem_entryOf (fun _ => rfl)
  · exact fitsIn_of_mem_entryOf (fun m => m.fitsIn_toJson (depth + 1))

theorem Tags.fitsIn_toJson (tags : Tags) : tags.toJson.fitsIn (depth + 1) = true := by
  refine fitsIn_object (List.forall_mem_map.2 ?_)
  exact fun e _ => rfl

theorem ComputeInstance.fitsIn_toJson (m : ComputeInstance) :
    m.toJson.fitsIn (depth + 2) = true := by
  refine fitsIn_object ?_
  simp only [fields, List.forall_mem_cons, List.not_mem_nil, false_implies, implies_true, and_true]
  exact ⟨rfl, rfl, fitsIn_ofOption (fun _ => rfl) m.launchTime, m.tags.fitsIn_toJson depth⟩

theorem DatabaseInstance.fitsIn_toJson (d : DatabaseInstance) :
    d.toJson.fitsIn (depth + 2) = true := by
  refine fitsIn_object ?_
  simp only [fields, List.forall_mem_cons, List.not_mem_nil, false_implies, implies_true, and_true]
  exact ⟨rfl, fitsIn_ofOption (fun _ => rfl) d.dbName, rfl,
    fitsIn_ofOption (fun _ => rfl) d.startedAt, d.tags.fitsIn_toJson depth⟩

theorem Resource.fitsIn_fields (r : Resource) :
    (Json.object r.fields).fitsIn (depth + 2) = true := by
  cases r with
  | compute m =>
    exact m.fitsIn_toJson depth
  | database d =>
    exact d.fitsIn_toJson depth

/-- The class of a resource is one more entry among its fields. -/
theorem Resource.fitsIn_toJson (r : Resource) : r.toJson.fitsIn (depth + 2) = true :=
  Bool.and_eq_true_iff.2 ⟨rfl, r.fitsIn_fields depth⟩

theorem GivenEvaluation.fitsIn_toJson (e : GivenEvaluation) :
    e.toJson.fitsIn (depth + 1) = true := by
  refine fitsIn_object ?_
  simp only [List.forall_mem_cons, List.not_mem_nil, false_implies, implies_true, and_true]
  exact ⟨fitsIn_ofOption (fun _ => rfl) _, fitsIn_ofOption (fun _ => rfl) _,
    fitsIn_ofOption (fun _ => rfl) _, fitsIn_ofOption (fun _ => rfl) _,
    fitsIn_ofOption (fun _ => rfl) _⟩

theorem GivenGate.fitsIn_toJson (g : GivenGate) : g.toJson.fitsIn (depth + 1) = true := by
  refine fitsIn_object ?_
  simp only [List.forall_mem_cons, List.not_mem_nil, false_implies, implies_true, and_true]
  exact ⟨fitsIn_ofOption (fun _ => rfl) _, fitsIn_ofOption (fun _ => rfl) _⟩

theorem GivenSettings.fitsIn_toJson (g : GivenSettings) : g.toJson.fitsIn (depth + 2) = true := by
  refine fitsIn_object ?_
  simp only [List.forall_mem_cons, List.not_mem_nil, false_implies, implies_true, and_true]
  exact ⟨fitsIn_uint32 g.version _, g.evaluation.fitsIn_toJson depth, g.gate.fitsIn_toJson depth⟩

end Forms
end FleetLifecycle
