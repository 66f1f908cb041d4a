import FleetLifecycle.Files

/-!
# Results — what a computation that may fail has given

Readers and parsers give a result or the reason for which there is none.  Concretely, we:

1. take computations apart that have given a result (`bind_eq_ok_iff`, `map_eq_ok_iff`,
   `mapError_eq_ok_iff`);
2. say which file has a text (`FileSystem.text_eq_ok_iff`): one that holds the text in UTF-8.
-/

namespace FleetLifecycle

section Steps

variable {ε ε' α β : Type} {x : Except ε α}

/-- A computation in two steps gives a result if both steps do. -/
theorem bind_eq_ok_iff {f : α → Except ε β} {b : β} :
    x >>= f = .ok b ↔ ∃ a, x = .ok a ∧ f a = .ok b := by
  cases x with
  | error e =>
    simp [bind, Except.bind]
  | ok a =>
    simp [bind, Except.bind]

theorem check_eq_ok_iff {x : Except ε Unit} {f : Unit → Except ε β} {b : β} :
    x >>= f = .ok b ↔ x = .ok () ∧ f () = .ok b := by
  rw [bind_eq_ok_iff]
  exact ⟨fun ⟨_, hx, hf⟩ => ⟨hx, hf⟩, fun ⟨hx, hf⟩ => ⟨(), hx, hf⟩⟩

theorem map_eq_ok_iff {f : α → β} {b : β} : x.map f = .ok b ↔ ∃ a, x = .ok a ∧ f a = b := by
  cases x with
  | error e =>
    simp [Except.map]
  | ok a =>
    simp [Except.map]

theorem mapError_eq_ok_iff {f : ε → ε'} {b : α} : x.mapError f = .ok b ↔ x = .ok b := by
  cases x with
  | error e =>
    change Except.error (f e) = .ok b ↔ Except.error e = .ok b
    simp
  | ok a =>
    change Except.ok a = .ok b ↔ Except.ok a = .ok b
    simp

theorem eq_ok_of_toOption {a : α} (h : x.toOption = some a) : x = .ok a := by
  cases x with
  | error e =>
    simp [Except.toOption] at h
  | ok b =>
    simpa [Except.toOption] using h

end Steps

/-! ## Texts of files -/

/-- Bytes are the text that they encode, if there is one. -/
theorem fromUTF8?_eq_some_iff {bytes : ByteArray} {text : String} :
    String.fromUTF8? bytes = some text ↔ bytes = text.toUTF8 := by
  constructor
  · intro h
    unfold String.fromUTF8? at h
    split at h
    · cases h
      rfl
    · cases h
  · rintro rfl
    rw [String.toUTF8_eq_toByteArray, String.fromUTF8?, dif_pos text.isValidUTF8]
    rfl

/-- A file has a text if it holds the text in UTF-8. -/
theorem FileSystem.text_eq_ok_iff {files : FileSystem} {path text : String} :
    files.text path = .ok text ↔ files path = .ok text.toUTF8 := by
  unfold FileSystem.text
  rw [bind_eq_ok_iff]
  constructor
  · rintro ⟨bytes, hbytes, hread⟩
    split at hread
    · next s hs =>
      cases hread
      rw [hbytes, fromUTF8?_eq_some_iff.1 hs]
    · cases hread
  · intro h
    refine ⟨_, h, ?_⟩
    rw [fromUTF8?_eq_some_iff.2 rfl]

end FleetLifecycle
