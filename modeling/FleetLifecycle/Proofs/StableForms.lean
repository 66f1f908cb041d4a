import FleetLifecycle.Proofs.ReadableInstants
import FleetLifecycle.Proofs.WrittenTexts

/-!
# Stable forms — what was read and written once does not change any more

A type takes more values than it writes: fields in any order or in an array, unknown fields, days in
full, instants in any zone.  Writing settles on one form.  Concretely, we:

1. say what it means that nothing is lost or changed from then on (`Reader.Stable`), with the keys
   of the written form in any order, since tags are kept in none;
2. obtain it for a type from four facts: what is read can be read again, its written form is read
   back, whatever the order of keys, and can be read from its texts (`Reader.stable_of`);
3. conclude with `stable_forms`, for all types that are exchanged.
-/

namespace FleetLifecycle

namespace Reader

open Json (WrittenOf)

variable {α : Type} {read : Reader α} {write : α → Json} {Readable : α → Prop}

/-- Reading and writing the values of a type agree on those that can be read. -/
structure Stable (read : Reader α) (write : α → Json) (Readable : α → Prop) : Prop where
  /-- What was read can be read again. -/
  readable : ∀ {origin v a}, read origin v = .ok a → Readable a
  /-- Every such value is read from its written form, wherever this stands. -/
  keeps : ∀ {a w}, Readable a → WrittenOf write a w → ∀ origin, read origin w = .ok a
  /-- What is written of a value that was read is accepted, is read as an equal value, and is
  written the same a second time. -/
  cycles : ∀ {origin v a}, read origin v = .ok a → ∀ {w}, WrittenOf write a w → ∀ origin',
    read origin' w = .ok a ∧ ∀ b, read origin' w = .ok b → b = a ∧ write b = write a
  /-- Values that were read and have the same written form are equal. -/
  determined : ∀ {origin v a origin' v' a'}, read origin v = .ok a → read origin' v' = .ok a' →
    write a = write a' → a = a'
  /-- The texts of a written form, on one line and over several lines, hold just that form. -/
  texts : ∀ {a w}, WrittenOf write a w →
    Json.parse? w.compact = some w ∧ Json.parse? w.pretty = some w

/-- Forms that are read back and printed within the limits are stable. -/
theorem stable_of (hreadable : ∀ {origin v a}, read origin v = .ok a → Readable a)
    (hwrite : ∀ {a}, Readable a → ∀ origin, read origin (write a) = .ok a)
    (horder : OrderFree read) (hfits : ∀ a, (write a).fitsIn Draft.depthLimit = true) :
    Stable read write Readable := by
  have hkeeps : ∀ {a w}, Readable a → WrittenOf write a w → ∀ origin, read origin w = .ok a :=
    fun ha hw origin => horder.read_writtenOf (hwrite ha origin) hw
  constructor
  case readable =>
    exact hreadable
  case keeps =>
    exact hkeeps
  case cycles =>
    intro origin v a hv w hw origin'
    have hagain := hkeeps (hreadable hv) hw origin'
    refine ⟨hagain, ?_⟩
    intro b hb
    obtain rfl : b = a := Except.ok.inj (hb.symm.trans hagain)
    exact ⟨rfl, rfl⟩
  case determined =>
    -- the common form is read as the one and as the other
    intro origin v a origin' v' a' hv hv' heq
    have ha := hwrite (hreadable hv) origin
    rw [heq] at ha
    exact Except.ok.inj (ha.symm.trans (hwrite (hreadable hv') origin))
  case texts =>
    intro a w hw
    have hfits' : w.fitsIn Draft.depthLimit = true := hw.fitsIn (hfits a)
    exact ⟨Json.parse?_compact hfits', Json.parse?_pretty hfits'⟩

/-- Every value of some types can be read from what is written of it. -/
def Anything (_ : α) : Prop := True

theorem stable_of_anything (hwrite : ∀ a origin, read origin (write a) = .ok a)
    (horder : OrderFree read) (hfits : ∀ a, (write a).fitsIn Draft.depthLimit = true) :
    Stable read write Anything :=
  stable_of (fun _ => trivial) (fun _ => hwrite _) horder hfits

end Reader

open Reader (Stable Anything stable_of stable_of_anything)

/-- The forms of all types that are exchanged are stable: run states, actions, reasons and
decisions, notifications and requests, resources and their classes, capabilities, local hours and
given settings.  Only of requests and resources are there values that cannot be read, those with a
leap second within a minute. -/
theorem stable_forms :
    Stable RunState.reader RunState.toJson Anything ∧
    Stable Action.reader Action.toJson Anything ∧
    Stable Reason.reader Reason.toJson Anything ∧
    Stable Decision.reader Decision.toJson Anything ∧
    Stable EmailMessage.reader EmailMessage.toJson Anything ∧
    Stable ActionRequest.reader ActionRequest.toJson (fun r => r.evaluatedAt.Readable) ∧
    Stable Resource.reader Resource.toJson Resource.Readable ∧
    Stable ComputeInstance.reader ComputeInstance.toJson
      (fun m => ∀ t ∈ m.launchTime, t.Readable) ∧
    Stable DatabaseInstance.reader DatabaseInstance.toJson
      (fun d => ∀ t ∈ d.startedAt, t.Readable) ∧
    Stable Capabilities.reader Capabilities.toJson Anything ∧
    Stable LocalHour.reader LocalHour.toJson Anything ∧
    Stable GivenSettings.reader GivenSettings.toJson Anything := by
  refine ⟨?_, ?_, ?_, ?_, ?_, ?_, ?_, ?_, ?_, ?_, ?_, ?_⟩
  · exact stable_of_anything RunState.reader_toJson RunState.orderFree_reader
      (RunState.fitsIn_toJson 126)
  · exact stable_of_anything Action.reader_toJson Action.orderFree_reader (Action.fitsIn_toJson 126)
  · exact stable_of_anything Reason.reader_toJson Reason.orderFree_reader (Reason.fitsIn_toJson 125)
  · exact stable_of_anything Decision.reader_toJson Decision.orderFree_reader
      (Decision.fitsIn_toJson 124)
  · exact stable_of_anything EmailMessage.reader_toJson EmailMessage.orderFree_reader
      (EmailMessage.fitsIn_toJson 126)
  · exact stable_of ActionRequest.readable_of_reader ActionRequest.reader_toJson
      ActionRequest.orderFree_reader (ActionRequest.fitsIn_toJson 124)
  · exact stable_of Resource.readable_of_reader Resource.reader_toJson Resource.orderFree_reader
      (Resource.fitsIn_toJson 125)
  · exact stable_of ComputeInstance.readable_of_reader ComputeInstance.reader_toJson
      ComputeInstance.orderFree_reader (ComputeInstance.fitsIn_toJson 125)
  · exact stable_of DatabaseInstance.readable_of_reader DatabaseInstance.reader_toJson
      DatabaseInstance.orderFree_reader (DatabaseInstance.fitsIn_toJson 125)
  · exact stable_of_anything Capabilities.reader_toJson Capabilities.orderFree_reader
      (Capabilities.fitsIn_toJson 126)
  · exact stable_of_anything LocalHour.reader_toJson LocalHour.orderFree_reader
      (LocalHour.fitsIn_toJson 126)
  · exact stable_of_anything GivenSettings.reader_toJson GivenSettings.orderFree_reader
      (GivenSettings.fitsIn_toJson 125)

/-- A reason is taken from an array, with the largest number of seconds, a local hour from an object
that gives the day in full and holds an unknown field, and given settings without their sections.
Each is read again from the form that it is then written in, the hour also with its keys swapped. -/
theorem stable_forms_lenient :
    let reason := Reason.limitExceeded 18446744073709551615 8
    let now : LocalHour := ⟨7, .monday⟩
    let given : GivenSettings := ⟨1, .empty, .empty⟩
    Reason.reader .direct (.array [.string "limit_exceeded", .integer 18446744073709551615,
      .integer 8]) = .ok reason ∧
    Reason.reader .direct reason.toJson = .ok reason ∧
    LocalHour.reader .direct (.object [("day", .string "MONDAY"), ("zone", .null),
      ("hour", .integer 7)]) = .ok now ∧
    LocalHour.reader .direct now.toJson = .ok now ∧
    LocalHour.reader .setAside (.object [("day", .string "Mon"), ("hour", .integer 7)]) = .ok now ∧
    GivenSettings.reader .direct (.object [("config_version", .integer 1)]) = .ok given ∧
    GivenSettings.reader .direct given.toJson = .ok given := by
  obtain ⟨-, -, hreason, -, -, -, -, -, -, -, hnow, hgiven⟩ := stable_forms
  have htaken : Reason.reader .direct (.array [.string "limit_exceeded",
      .integer 18446744073709551615, .integer 8]) =
      .ok (.limitExceeded 18446744073709551615 8) := by
    rfl
  have htaken' : LocalHour.reader .direct (.object [("day", .string "MONDAY"), ("zone", .null),
      ("hour", .integer 7)]) = .ok ⟨7, .monday⟩ := by
    rfl
  have htaken'' : GivenSettings.reader .direct (.object [("config_version", .integer 1)]) =
      .ok ⟨1, .empty, .empty⟩ := by
    rfl
  have hswapped : (LocalHour.toJson ⟨7, .monday⟩).Reordered
      (.object [("day", .string "Mon"), ("hour", .integer 7)]) :=
    .object (by decide) (.cons _ (.integer 7) (.cons _ (.string "Mon") .nil)) (.swap _ _ _)
  exact ⟨htaken, (hreason.cycles htaken .inOrder .direct).1,
    htaken', (hnow.cycles htaken' .inOrder .direct).1,
    (hnow.cycles htaken' (.reordered hswapped) .setAside).1,
    htaken'', (hgiven.cycles htaken'' .inOrder .direct).1⟩

end FleetLifecycle
