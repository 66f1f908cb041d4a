import FleetLifecycle.Proofs.Dispatching
import FleetLifecycle.Proofs.Gate
import FleetLifecycle.Proofs.WrittenForms
import FleetLifecycle.Zone.Bundled
import FleetLifecycle.Zone.WallClock
import Mathlib.Data.List.Forall2

/-!
# Record stream — what a reader gets out of a journal

Whoever carries out the requests reads the journal line by line and each line as JSON.
Concretely, we:

1. say what is read in a record (`ActionRequest.ToldBy`): the request's own values, and the
   notification of a request to notify somebody; only a leap second within a minute is not told as
   what it is (`Instant.asWritten`);
2. find these records in a journal that takes everything (`Journal.splitOn_dispatchList`,
   `ActionRequest.toldOn_toldBytes`);
3. conclude with `Journal.dispatchList_framed`: such a journal holds exactly one line for each
   request that has an effect, in their order, and each line tells its request.
-/

namespace FleetLifecycle

/-! ## What a record tells -/

/-- The object has a member from which the value is read. -/
def Json.Tells {α : Type} (v : Json) (key : String) (read : Reader α) (a : α) : Prop :=
  ∃ w, v.member? key = some w ∧ read .direct w = .ok a

namespace ActionRequest

/-- The object tells the request and whether the run was a dry one: each key stands for one value
of the request, a snapshot is named if there is one, and the notification stands in the records of
requests to notify somebody, and in no other.  The instant is the request's own, if texts have it at
all. -/
structure ToldBy (r : ActionRequest) (dryRun : Bool) (v : Json) : Prop where
  keys : ∃ entries, v = .object entries ∧ (entries.map (·.1)).Nodup
  op : v.Tells "op" Reader.text r.action.name
  mode : v.Tells "dry_run" Reader.flag dryRun
  cycleId : v.Tells "cycle_id" CycleId.reader r.cycleId
  resourceId : v.Tells "resource_id" Reader.text r.resourceId
  resourceName : v.Tells "resource_name" Reader.text r.resourceName
  resourceClass : v.Tells "class" ResourceClass.reader r.resourceClass
  policy : v.Tells "policy" Reader.text r.policy
  reason : v.Tells "reason" Reason.reader r.reason
  snapshotId :
    match r.snapshotId with
    | none => v.member? "snapshot_id" = none
    | some name => v.Tells "snapshot_id" Reader.text name
  email :
    match r.action with
    | .email _ => ∃ m, r.email = some m ∧ v.Tells "email" EmailMessage.reader m
    | _ => v.member? "email" = none
  evaluatedAt : v.Tells "evaluated_at" Instant.reader r.evaluatedAt.asWritten

/-- The line is a JSON text that tells the request. -/
def ToldOn (r : ActionRequest) (dryRun : Bool) (line : List UInt8) : Prop :=
  ∃ text v, text.toUTF8.toList = line ∧ Json.parse? text = some v ∧ r.ToldBy dryRun v

variable {r : ActionRequest} {dryRun : Bool}

/-- The value that is written of a request. -/
def told (r : ActionRequest) (dryRun : Bool) : Json :=
  r.record r.action.name dryRun r.notification

theorem toldBy_told (effective : r.isEffective = true) (dryRun : Bool) :
    r.ToldBy dryRun (r.told dryRun) where
  keys := by
    refine ⟨_, rfl, ?_⟩
    cases r.snapshotId <;> cases r.notification <;> simp [Json.entryOf]
  op := ⟨_, rfl, rfl⟩
  mode := ⟨_, rfl, rfl⟩
  cycleId := ⟨_, rfl, r.cycleId.reader_toJson _⟩
  resourceId := ⟨_, rfl, rfl⟩
  resourceName := ⟨_, rfl, rfl⟩
  resourceClass := ⟨_, rfl, r.resourceClass.reader_toJson _⟩
  policy := ⟨_, rfl, rfl⟩
  reason := ⟨_, rfl, r.reason.reader_toJson _⟩
  snapshotId := by
    unfold told record
    cases r.snapshotId with
    | none =>
      cases r.notification <;> rfl
    | some name =>
      exact ⟨_, rfl, rfl⟩
  email := by
    have hmember : (r.told dryRun).member? "email" = r.notification.map EmailMessage.toJson := by
      unfold told record
      cases r.snapshotId <;> cases r.notification <;> rfl
    unfold isEffective at effective
    unfold notification at hmember
    cases haction : r.action with
    | email recipient =>
      simp only [haction] at effective hmember ⊢
      rcases Option.isSome_iff_exists.1 effective with ⟨m, hm⟩
      rw [hm] at hmember
      exact ⟨m, hm, _, hmember, m.reader_toJson _⟩
    | none | error | start | stop | terminate =>
      rw [haction] at hmember
      exact hmember
  evaluatedAt := by
    refine ⟨r.evaluatedAt.toJson, ?_, r.evaluatedAt.reader_toJson_asWritten _⟩
    unfold told record
    cases r.snapshotId <;> cases r.notification <;> rfl

/-- What is written of a request on its line. -/
def toldBytes (r : ActionRequest) (dryRun : Bool) : List UInt8 :=
  (r.told dryRun).compact.toUTF8.toList

theorem lineBytes_eq (r : ActionRequest) (dryRun : Bool) :
    r.lineBytes dryRun = r.toldBytes dryRun ++ [0x0A] :=
  r.line_eq _ _ _

theorem le_of_mem_toldBytes {b : UInt8} (h : b ∈ r.toldBytes dryRun) : 0x20 ≤ b :=
  le_of_mem_record h

theorem toldOn_toldBytes (effective : r.isEffective = true) (dryRun : Bool) :
    r.ToldOn dryRun (r.toldBytes dryRun) :=
  ⟨_, _, rfl, Json.parse?_compact (r.fitsIn_record _ _ _ 124), r.toldBy_told effective dryRun⟩

end ActionRequest

namespace Journal

/-- A journal that takes everything is cut at its line breaks into the lines of the requests that
have an effect, and an empty rest. -/
theorem splitOn_dispatchList (dryRun : Bool) (requests : List ActionRequest) :
    ((executor dryRun).dispatchList requests (.empty none)).2.bytes.splitOn 0x0A =
      (requests.filter (·.isEffective)).map (·.toldBytes dryRun) ++ [[]] := by
  have hbytes : ((executor dryRun).dispatchList requests (.empty none)).2.bytes =
      ((requests.filter (·.isEffective)).map (·.toldBytes dryRun)).flatMap (· ++ [0x0A]) := by
    rw [empty, dispatchList_unlimited, List.flatMap_map]
    simp only [List.nil_append, stream, ActionRequest.lineBytes_eq]
  rw [hbytes]
  refine splitOn_lines (fun line hline hmem => ?_)
  rcases List.mem_map.1 hline with ⟨r, -, rfl⟩
  exact absurd (ActionRequest.le_of_mem_toldBytes hmem) (by decide)

theorem forall₂_toldOn (dryRun : Bool) (requests : List ActionRequest) :
    List.Forall₂ (·.ToldOn dryRun) (requests.filter (·.isEffective))
      ((requests.filter (·.isEffective)).map (·.toldBytes dryRun)) := by
  rw [List.forall₂_map_right_iff, List.forall₂_same]
  exact fun r hr => r.toldOn_toldBytes (List.mem_filter.1 hr).2 dryRun

/-- A journal that takes everything is cut at its line breaks into one line for each request that
has an effect, in their order, and an empty rest.  No line holds a control character of JSON, and
what is read of a line as JSON tells its request. -/
theorem dispatchList_framed (requests : List ActionRequest) (dryRun : Bool) :
    ∃ lines : List (List UInt8),
      ((executor dryRun).dispatchList requests (.empty none)).2.bytes.splitOn 0x0A = lines ++ [[]] ∧
      (∀ line ∈ lines, ∀ b ∈ line, 0x20 ≤ b) ∧
      List.Forall₂ (·.ToldOn dryRun) (requests.filter (·.isEffective)) lines := by
  refine ⟨_, splitOn_dispatchList dryRun requests, ?_, forall₂_toldOn dryRun requests⟩
  intro line hline b hb
  rcases List.mem_map.1 hline with ⟨r, -, rfl⟩
  exact ActionRequest.le_of_mem_toldBytes hb

/-- Line breaks, quotation marks and control characters stay within the line of their request, and
a request that lacks its notification has no line. -/
theorem dispatchList_framed_lineBreaks :
    let message : EmailMessage := ⟨"ops", "web", "\"1\"", "a\r\nb\x00"⟩
    let notify : ActionRequest :=
      ⟨.zero, "i-1\n", "\\", .compute, "limit-email", .email "web", .limitExceeded 7200 1, none,
        some message, .epoch⟩
    let silent : ActionRequest :=
      ⟨.zero, "i-1\n", "\\", .compute, "limit-email", .email "web", .limitExceeded 7200 1, none,
        none, .epoch⟩
    ∃ text v, ((executor true).dispatchList [notify, silent] (.empty none)).2.bytes.splitOn 0x0A =
        [text.toUTF8.toList, []] ∧
      Json.parse? text = some v ∧ v.Tells "resource_id" Reader.text "i-1\n" ∧
      v.Tells "email" EmailMessage.reader message := by
  intro message notify silent
  rcases dispatchList_framed [notify, silent] true with ⟨lines, hbytes, -, htold⟩
  have hfilter : [notify, silent].filter (·.isEffective) = [notify] := rfl
  rw [hfilter] at htold
  cases htold with
  | cons hline hrest =>
    cases hrest
    rcases hline with ⟨text, v, rfl, hparse, hv⟩
    rcases hv.email with ⟨m, hm, hemail⟩
    obtain rfl : message = m := Option.some.inj hm
    exact ⟨text, v, hbytes, hparse, hv.resourceId, hemail⟩

/-- By the local mean time of New York a leap second falls within a minute at longitude zero.  The
record of a request that was made in it tells the second after. -/
theorem evaluatedAt_not_told :
    let leap : Instant := ⟨-2840122979, 1000000000, by decide⟩
    let next : Instant := ⟨-2840122978, 0, by decide⟩
    let stop : ActionRequest :=
      ⟨.zero, "i-build", "i-build", .compute, "always-off", .stop, .pinnedOff, none, none, leap⟩
    ZoneLibrary.bundled.readWallClock Zone.newYork "1880-01-01 00:00:60" = .ok leap ∧
      ∃ text v, ((executor false).dispatchList [stop] (.empty none)).2.bytes.splitOn 0x0A =
          [text.toUTF8.toList, []] ∧
        Json.parse? text = some v ∧ v.Tells "evaluated_at" Instant.reader next ∧
        ¬ v.Tells "evaluated_at" Instant.reader leap := by
  intro leap next stop
  have effective : stop.isEffective = true := rfl
  rcases stop.toldOn_toldBytes effective false with ⟨text, v, htext, hparse, htold⟩
  have hlines := splitOn_dispatchList false [stop]
  rw [List.filter_cons_of_pos effective, List.filter_nil, List.map_singleton, ← htext] at hlines
  have hwritten : leap.asWritten = next := by
    decide +kernel
  have hnext : v.Tells "evaluated_at" Instant.reader next := hwritten ▸ htold.evaluatedAt
  refine ⟨by decide +kernel, text, v, hlines, hparse, hnext, ?_⟩
  rintro ⟨w, hw, hleap⟩
  rcases hnext with ⟨w', hw', hread⟩
  obtain rfl : w = w' := Option.some.inj (hw.symm.trans hw')
  have heq : leap = next := Except.ok.inj (hleap.symm.trans hread)
  exact absurd heq (by decide)

end Journal
end FleetLifecycle
