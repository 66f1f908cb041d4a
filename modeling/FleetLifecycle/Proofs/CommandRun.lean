import FleetLifecycle.Proofs.RecordStream
import FleetLifecycle.Proofs.RunInputs

/-!
# Runs of the command — a run writes what the evaluation asks for

With inputs that can be read the command evaluates the fleet once and carries the requests out in
some order.  Concretely, we:

1. show that requests carry the notifications that they ask for, and that the wish for a dry run
   changes none of them;
2. follow the requests into a journal that takes everything and into one that takes nothing
   (`Machine.carryOut_open`, `Machine.carryOut_full`);
3. conclude with `Machine.run_refines`: whatever the order, the lines on standard output tell the
   requests that have to be carried out, and a rejected input leaves none.
-/

namespace FleetLifecycle

namespace Settings

/-! ## Requests of an evaluation -/

/-- Requests carry the notifications that they ask for. -/
theorem complete_request (s : Settings) (r : Resource) (p : Policy) (c : Cycle) :
    (s.request r p c).Complete := by
  unfold ActionRequest.Complete
  rw [request_email]
  cases (s.request r p c).action <;> simp [emailFor]

theorem complete_of_mem_requests {s : Settings} {id : CycleId} {fleet : List Resource} {t : Instant}
    {req : ActionRequest} (h : req ∈ (s.evaluateFleet id fleet t).requests) : req.Complete := by
  rcases List.mem_filterMap.1 h with ⟨r, -, hr⟩
  rcases exists_tag_of_evaluate hr with ⟨tag, -, rfl⟩
  exact complete_request _ _ _ _

/-- What is asked for a resource does not depend on the wish for a dry run. -/
theorem request_withDryRun (s : Settings) (a : Arguments) (r : Resource) (p : Policy) (c : Cycle) :
    (Machine.withDryRun a s).request r p c = s.request r p c := by
  have hdecide : (Machine.withDryRun a s).decide r p c = s.decide r p c := rfl
  have hsnapshot : ∀ action, (Machine.withDryRun a s).snapshotFor r c action =
      s.snapshotFor r c action := fun _ => rfl
  have hemail : ∀ action, (Machine.withDryRun a s).emailFor r p action =
      s.emailFor r p action := fun _ => rfl
  simp only [request, hdecide, hsnapshot, hemail]

theorem evaluateFleet_withDryRun (s : Settings) (a : Arguments) (id : CycleId)
    (fleet : List Resource) (t : Instant) :
    (Machine.withDryRun a s).evaluateFleet id fleet t = s.evaluateFleet id fleet t := by
  simp only [evaluateFleet, evaluate, request_withDryRun]
  simp only [beginCycle, Machine.withDryRun]

end Settings

namespace Machine

variable {m : Machine} {a : Arguments} {s : Settings} {t : Instant} {fleet : List Resource}

/-! ## Carrying requests out -/

/-- The requests of a cycle in the order in which they are carried out. -/
def scheduled (m : Machine) (s : Settings) (t : Instant) (fleet : List Resource) :
    List ActionRequest :=
  m.schedule (s.evaluateFleet m.cycleId fleet t).requests

theorem scheduled_perm :
    (m.scheduled s t fleet).Perm (s.evaluateFleet m.cycleId fleet t).requests :=
  m.schedule_perm _

theorem complete_of_mem_scheduled : ∀ req ∈ m.scheduled s t fleet, req.Complete := by
  intro req hreq
  exact Settings.complete_of_mem_requests (scheduled_perm.mem_iff.1 hreq)

/-- What a cycle leaves behind is what dispatching its requests in order does. -/
theorem carryOut_eq (m : Machine) (s : Settings) (t : Instant) (fleet : List Resource) :
    let run := (Journal.executor s.dryRun).dispatchList (m.scheduled s t fleet) (.empty m.room)
    (m.carryOut s t fleet).1.outcomes = summarize run.1 ∧ (m.carryOut s t fleet).2 = run.2 :=
  ⟨rfl, rfl⟩

/-- The requests that ask for something, in the order in which they are carried out. -/
theorem scheduled_effective_perm :
    ((m.scheduled s t fleet).filter (·.isEffective)).Perm
      (s.evaluateFleet m.cycleId fleet t).sideEffects := by
  have heffective : ∀ req ∈ m.scheduled s t fleet, req.isEffective = req.action.hasSideEffect :=
    fun req hreq => (complete_of_mem_scheduled req hreq).isEffective_eq
  rw [List.filter_congr heffective]
  exact scheduled_perm.filter _

/-- With room for everything no request fails, and each request that asks for something is told on
a line, in the order in which they are carried out. -/
theorem carryOut_open (s : Settings) (t : Instant) (fleet : List Resource) (room : m.room = none) :
    (m.carryOut s t fleet).1.outcomes.failed = 0 ∧
      ∃ (requests : List ActionRequest) (lines : List (List UInt8)),
        requests.Perm (s.evaluateFleet m.cycleId fleet t).sideEffects ∧
        (m.carryOut s t fleet).2.bytes.splitOn 0x0A = lines ++ [[]] ∧
        List.Forall₂ (·.ToldOn s.dryRun) requests lines := by
  rcases m.carryOut_eq s t fleet with ⟨houtcomes, hjournal⟩
  rw [houtcomes, hjournal, room, failed_summarize]
  exact ⟨Journal.failed_dispatchList_unlimited complete_of_mem_scheduled [], _, _,
    scheduled_effective_perm, Journal.splitOn_dispatchList _ _, Journal.forall₂_toldOn _ _⟩

/-- With room for nothing the requests that ask for something fail. -/
theorem carryOut_full (s : Settings) (t : Instant) (fleet : List Resource)
    (room : m.room = some 0) :
    0 < (m.carryOut s t fleet).1.outcomes.failed ↔
      ∃ req ∈ (s.evaluateFleet m.cycleId fleet t).requests, req.action.hasSideEffect = true := by
  rcases m.carryOut_eq s t fleet with ⟨houtcomes, -⟩
  rw [houtcomes, Journal.empty, room, failed_summarize,
    Journal.dispatchList_full complete_of_mem_scheduled, List.countP_pos_iff]
  simp only [scheduled_perm.mem_iff]

/-! ## Runs -/

variable {args : List String}

theorem run_of_cycle_error {f : Failure} (read : Arguments.read m.env args = .ok a)
    (h : m.cycle a = .error f) : (m.run args).exit = 1 ∧ (m.run args).output = [] := by
  simp [run, read, h]

theorem run_of_reads (read : Arguments.read m.env args = .ok a) (reads : m.Reads a s t fleet) :
    (m.run args).exit =
        (if 0 < (m.carryOut (withDryRun a s) t fleet).1.outcomes.failed then 1 else 0) ∧
      (m.run args).output = (m.carryOut (withDryRun a s) t fleet).2.bytes := by
  have hcycle := cycle_eq_ok_iff.2 ⟨s, t, fleet, reads, rfl⟩
  simp [run, read, hcycle]

/-- A run either has a rejected input, fails and writes nothing, or reads settings, an instant and a
fleet.  Then, if everything can be written, it succeeds and each line on standard output tells one
of the requests that have to be carried out, in the order in which that happened; if nothing can be
written, it fails exactly if there is such a request.  A run is a dry one if the arguments or the
given settings ask for it. -/
theorem run_refines (m : Machine) (args : List String) (a : Arguments)
    (read : Arguments.read m.env args = .ok a) :
    ((∃ s t fleet, m.Reads a s t fleet) ∨ m.Rejects a) ∧
    (m.Rejects a → (m.run args).exit = 1 ∧ (m.run args).output = []) ∧
    ∀ s t fleet, m.Reads a s t fleet →
      ∃ given, m.Gives a given ∧ s.Follows m.library.zones given ∧
        (m.room = none → (m.run args).exit = 0 ∧
          ∃ (requests : List ActionRequest) (lines : List (List UInt8)),
            requests.Perm (s.evaluateFleet m.cycleId fleet t).sideEffects ∧
            (m.run args).output.splitOn 0x0A = lines ++ [[]] ∧
            List.Forall₂ (·.ToldOn (a.dryRun || given.evaluation.dryRun.getD false))
              requests lines) ∧
        (m.room = some 0 → ((m.run args).exit = 1 ↔
          ∃ req ∈ (s.evaluateFleet m.cycleId fleet t).requests,
            req.action.hasSideEffect = true)) := by
  refine ⟨m.reads_or_rejects a, ?_, ?_⟩
  · intro rejects
    cases h : m.cycle a with
    | error f =>
      exact run_of_cycle_error read h
    | ok result =>
      -- a cycle is only carried out if nothing is rejected
      rcases cycle_eq_ok_iff.1 h with ⟨s, t, fleet, reads, -⟩
      exact absurd rejects reads.not_rejects
  · intro s t fleet reads
    rcases reads.settings.exists_given with ⟨given, hgives, follows⟩
    rcases run_of_reads read reads with ⟨hexit, houtput⟩
    rw [hexit, houtput, ← Settings.evaluateFleet_withDryRun s a]
    refine ⟨given, hgives, follows, ?_, ?_⟩
    · intro room
      rcases carryOut_open (withDryRun a s) t fleet room with
        ⟨hfailed, requests, lines, hperm, hlines, htold⟩
      have hmode : (withDryRun a s).dryRun = (a.dryRun || given.evaluation.dryRun.getD false) :=
        congrArg (a.dryRun || ·) follows.dryRun
      rw [hmode] at htold
      exact ⟨by simp [hfailed], requests, lines, hperm, hlines, htold⟩
    · intro room
      rw [← carryOut_full _ _ _ room]
      split <;> simp_all

/-- A machine without a settings file, with an inventory in the given text, that carries requests
out in reverse. -/
def ofInventory (text : String) (room : Option Nat) : Machine where
  files path := if path = "fleet.json" then .ok text.toUTF8 else .error .notFound
  stands path := path = "fleet.json"
  env _ := none
  home := none
  library := .bundled
  clock := .epoch
  cycleId := .zero
  room := room
  schedule := List.reverse
  schedule_perm := List.reverse_perm

/-- A dry run over the inventory, at a wall-clock time or now. -/
def dryRunArguments (wallClock : Option String) : Arguments :=
  ⟨none, "fleet.json", wallClock, true, "info", .text⟩

theorem readsSettings_ofInventory (text : String) (room : Option Nat) (wallClock : Option String) :
    (ofInventory text room).ReadsSettings (dryRunArguments wallClock) .default := by
  refine .builtIn ?_
  unfold WantsFile
  simp only [ofInventory, dryRunArguments, Surroundings.usualPath]
  decide

theorem reads_ofInventory {text : String} {fleet : List Resource}
    (h : Inventory.ofText text = .ok fleet) (room : Option Nat) :
    (ofInventory text room).Reads (dryRunArguments none) .default .epoch fleet where
  settings := readsSettings_ofInventory text room none
  given := by
    simp [dryRunArguments]
  clock := fun _ => rfl
  fleet := by
    have htext : (ofInventory text room).files.text "fleet.json" = .ok text :=
      FileSystem.text_eq_ok_iff.2 rfl
    rw [Inventory.load, dryRunArguments, htext]
    exact h

/-- A machine to be stopped and a database to be started. -/
def pairFleet : List Resource :=
  [.compute ⟨"i-1", "running", none, Tags.empty.insert "lifecycle-policy" "always-off"⟩,
    .database ⟨"db-1", none, "stopped", none, Tags.empty.insert "lifecycle-policy" "always-on"⟩]

/-- The inventory that lists them. -/
def pairInventory : String :=
  "[[[\"instance\",\"i-1\",\"running\",null,\x7b\"lifecycle-policy\":\"always-off\"\x7d],
     [\"database\",\"db-1\",null,\"stopped\",null,\x7b\"lifecycle-policy\":\"always-on\"\x7d]]]"

/-- Both requests of a dry run are written, unless nothing can be written or the wall-clock time is
none. -/
theorem run_refines_dryRun :
    let m := ofInventory pairInventory none
    let full := ofInventory pairInventory (some 0)
    let now := ["-i", "fleet.json", "--dry-run"]
    let noon := ["-i", "fleet.json", "--dry-run", "--at", "noon"]
    (m.Reads (dryRunArguments none) .default .epoch pairFleet ∧ (m.run now).exit = 0 ∧
      ∃ (requests : List ActionRequest) (lines : List (List UInt8)), lines.length = 2 ∧
        requests.Perm (Settings.default.evaluateFleet .zero pairFleet .epoch).sideEffects ∧
        (m.run now).output.splitOn 0x0A = lines ++ [[]] ∧
        List.Forall₂ (·.ToldOn true) requests lines) ∧
    (full.run now).exit = 1 ∧
    (m.Rejects (dryRunArguments (some "noon")) ∧ (m.run noon).exit = 1 ∧
      (m.run noon).output = []) := by
  intro m full now noon
  have hnow : Arguments.read (fun _ => none) now = .ok (dryRunArguments none) :=
    eq_ok_of_toOption (by decide +kernel)
  have hnoon : Arguments.read (fun _ => none) noon = .ok (dryRunArguments (some "noon")) :=
    eq_ok_of_toOption (by decide +kernel)
  have hfleet : Inventory.ofText pairInventory = .ok pairFleet :=
    eq_ok_of_toOption (by decide +kernel)
  have heffects :
      (Settings.default.evaluateFleet .zero pairFleet .epoch).sideEffects.length = 2 := by
    decide +kernel
  have heffect : ∃ req ∈ (Settings.default.evaluateFleet .zero pairFleet .epoch).requests,
      req.action.hasSideEffect = true := by
    decide +kernel
  have rejects : m.Rejects (dryRunArguments (some "noon")) :=
    .wallClock (e := .malformed "noon" .invalid) (readsSettings_ofInventory _ _ _) rfl rfl
  refine ⟨⟨reads_ofInventory hfleet none, ?_⟩, ?_, rejects, ?_⟩
  · obtain ⟨given, -, -, hopen, -⟩ :=
      (run_refines m now _ hnow).2.2 _ _ _ (reads_ofInventory hfleet none)
    rcases hopen rfl with ⟨hexit, requests, lines, hperm, hlines, htold⟩
    have hlength : lines.length = 2 := by
      rw [← htold.length_eq, hperm.length_eq]
      exact heffects
    exact ⟨hexit, requests, lines, hlength, hperm, hlines, htold⟩
  · obtain ⟨given, -, -, -, hfull⟩ :=
      (run_refines full now _ hnow).2.2 _ _ _ (reads_ofInventory hfleet (some 0))
    exact (hfull rfl).2 heffect
  · exact (run_refines m noon _ hnoon).2.1 rejects

end Machine
end FleetLifecycle
