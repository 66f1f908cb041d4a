import FleetLifecycle.Dispatch.Basic
import FleetLifecycle.Proofs.Gate
import FleetLifecycle.Proofs.Numerals

/-!
# Payloads — a request carries what its action needs and nothing else

The notification and the name of the snapshot are made beside the action, and whoever carries a
request out trusts that the three agree.  Concretely, we:

1. say what a text is without the blanks around it (`Text.TrimsTo`);
2. follow an action back through the gate to the policy (`Settings.address_of_request`);
3. say when there is a notification and when a snapshot (`Settings.email_request_eq_some_iff`,
   `Settings.snapshotFor_eq_some_iff`), and in which digits its name gives the time
   (`LocalTime.Stamps`);
4. write down every call of a method of an executor (`Executor.traced`) and say which calls belong
   to a request (`ActionRequest.Routes`);
5. conclude with `Settings.evaluate_payload`.
-/

namespace FleetLifecycle

/-! ## Texts without the blanks around them -/

namespace Text

/-- The inner text is the outer one without the blanks at either end. -/
structure TrimsTo (outer inner : List Char) : Prop where
  surrounded : ∃ before after, outer = before ++ inner ++ after ∧
    (∀ c ∈ before, isBlank c = true) ∧ ∀ c ∈ after, isBlank c = true
  first : NoBlank inner
  last : NoBlank inner.reverse

theorem exists_trimStart (cs : List Char) :
    ∃ before, cs = before ++ trimStart cs ∧ ∀ c ∈ before, isBlank c = true :=
  ⟨cs.takeWhile isBlank, List.takeWhile_append_dropWhile.symm, fun _ => List.mem_takeWhile_imp⟩

theorem noBlank_trimStart (cs : List Char) : NoBlank (trimStart cs) := by
  intro c hc
  have hhead := List.head?_dropWhile_not isBlank cs
  rw [← trimStart, hc] at hhead
  exact hhead

theorem trimsTo_trimChars (cs : List Char) : TrimsTo cs (trimChars cs) := by
  obtain ⟨before, hcs, hbefore⟩ := exists_trimStart cs
  obtain ⟨after, hstart, hafter⟩ := exists_trimStart (trimStart cs).reverse
  have hsplit : trimStart cs = trimChars cs ++ after.reverse := by
    rw [trimChars, ← List.reverse_append, ← hstart, List.reverse_reverse]
  constructor
  case surrounded =>
    refine ⟨before, after.reverse, ?_, hbefore, ?_⟩
    · rw [List.append_assoc, ← hsplit]
      exact hcs
    · intro c hc
      exact hafter c (List.mem_reverse.1 hc)
  case first =>
    intro c hc
    refine noBlank_trimStart cs c ?_
    rw [hsplit, List.head?_append, hc, Option.some_or]
  case last =>
    rw [trimChars, List.reverse_reverse]
    exact noBlank_trimStart _

theorem trimsTo_trim (s : String) : TrimsTo s.toList (trim s).toList := by
  rw [trim, String.toList_ofList]
  exact trimsTo_trimChars _

end Text

/-! ## The address of a notification -/

/-- The policy has a second parameter, and the address is what stands there between blanks. -/
def Policy.NamesAddress (p : Policy) (address : String) : Prop :=
  ∃ value, p.parameters[1]? = some value ∧ Text.isBlankText value = false ∧
    Text.TrimsTo value.toList address.toList

namespace Policy

variable {p : Policy} {recipient : String}

theorem namesAddress_of_text {name : String} (h : p.text 1 name = .ok recipient) :
    p.NamesAddress recipient := by
  unfold text at h
  split at h
  · simp at h
  · next value hvalue =>
    split at h
    · simp at h
    · next hblank =>
      cases h
      exact ⟨value, hvalue, by simpa using hblank, Text.trimsTo_trim value⟩

/-- Whoever is notified is named by the policy. -/
theorem namesAddress_of_decide {o : Observation} {now : LocalHour}
    (h : (p.decide o now).action = .email recipient) : p.NamesAddress recipient := by
  have houtcome := p.outcome_decide o now
  generalize p.decide o now = d at h houtcome
  cases houtcome with
  | exceeded accepted takes limit running beyond =>
    obtain rfl : _ = Action.email recipient := h
    cases takes with
    | email kind text =>
      exact namesAddress_of_text text
  | _ =>
    simp [Decision.none, Decision.error] at h

end Policy

/-- Notifications pass the gate. -/
theorem GateTags.apply_eq_self_of_email {gate : GateTags} {tags : Tags} {d : Decision}
    {recipient : String} (h : (gate.apply tags d).action = .email recipient) :
    gate.apply tags d = d := by
  refine apply_eq_self ?_
  rintro ⟨hgate, hd⟩
  rw [apply_of_unaddressable hgate hd] at h
  simp [Decision.none] at h

namespace Settings

variable {s : Settings} {r : Resource} {c : Cycle} {tag recipient : String} {a : Action}

theorem address_of_request (h : (s.request r (Policy.parse tag) c).action = .email recipient) :
    (Policy.parse tag).NamesAddress recipient := by
  rw [request_action] at h
  rw [GateTags.apply_eq_self_of_email h] at h
  exact Policy.namesAddress_of_decide h

/-! ## What goes with an action -/

theorem email_request_eq_some_iff {p : Policy} {m : EmailMessage} :
    (s.request r p c).email = some m ↔ ∃ recipient,
      (s.request r p c).action = .email recipient ∧
        EmailMessage.compose s.sender recipient r p = m := by
  rw [request_email]
  cases (s.request r p c).action with
  | email recipient =>
    simp [emailFor]
  | none | error | start | stop | terminate =>
    simp [emailFor]

/-- Only databases are saved. -/
theorem snapshotOnStop_capabilities_iff :
    r.capabilities.snapshotOnStop = true ↔ r.resourceClass = .database := by
  rw [Resource.capabilities]
  cases r.resourceClass <;> simp [Capabilities.ofClass]

theorem snapshotFor_eq_some_iff {name : String} :
    s.snapshotFor r c a = some name ↔
      (a = .stop ∧ s.snapshotOnStop = true ∧ r.resourceClass = .database) ∧
        snapshotName r.id c.shown = name := by
  cases a with
  | stop =>
    rw [snapshotFor, Option.ite_none_right_eq_some, Bool.and_eq_true,
      snapshotOnStop_capabilities_iff]
    simp
  | none | error | start | terminate | email recipient =>
    simp [snapshotFor]

end Settings

/-! ## Stamps -/

/-- The text is the number in decimal, with zeros before it up to a width. -/
def Text.Writes (width : Nat) (cs : List Char) (n : Nat) : Prop :=
  cs = List.leftpad width '0' (Nat.toDigits 10 n)

theorem Text.writes_padded (width n : Nat) : Writes width (padded width n) n :=
  rfl

namespace LocalTime

/-- The text is the year in at least four digits, with a sign if it does not lie between 0 and
9999. -/
inductive WritesYear : List Char → Int → Prop where
  | plain {cs : List Char} {n : Nat} : n ≤ 9999 → Text.Writes 4 cs n → WritesYear cs n
  | late {cs : List Char} {n : Nat} : 9999 < n → Text.Writes 4 cs n → WritesYear ('+' :: cs) n
  | early {cs : List Char} {n : Nat} : 0 < n → Text.Writes 4 cs n → WritesYear ('-' :: cs) (-n)

/-- The text is year, month, day, hour and minute, joined by hyphens. -/
inductive Stamps : List Char → LocalTime → Prop where
  | intro {year month day hour minute : List Char} {t : LocalTime} :
      WritesYear year t.date.year →
      Text.Writes 2 month t.date.month →
      Text.Writes 2 day t.date.day →
      Text.Writes 2 hour t.hour →
      Text.Writes 2 minute t.minute →
        Stamps (year ++ '-' :: month ++ '-' :: day ++ '-' :: hour ++ '-' :: minute) t

theorem writesYear_yearDigits (year : Int) : WritesYear (yearDigits year) year := by
  have hdigits := Text.writes_padded 4 year.natAbs
  unfold yearDigits
  split
  · have htext := WritesYear.early (by omega) hdigits
    rwa [show -(year.natAbs : Int) = year by omega] at htext
  · have hyear : (year.natAbs : Int) = year := by omega
    split
    · have htext := WritesYear.late (by omega) hdigits
      rwa [hyear] at htext
    · have htext := WritesYear.plain (by omega) hdigits
      rwa [hyear] at htext

theorem stamps_minuteStamp (t : LocalTime) : Stamps t.minuteStamp.toList t := by
  rw [minuteStamp, dateDigits, String.toList_ofList]
  exact .intro (writesYear_yearDigits _) (Text.writes_padded 2 _) (Text.writes_padded 2 _)
    (Text.writes_padded 2 _) (Text.writes_padded 2 _)

end LocalTime

/-! ## Calls of an executor -/

/-- A call of one of the methods of an executor. -/
inductive MethodCall where
  | start (r : ActionRequest)
  | stop (r : ActionRequest)
  | terminate (r : ActionRequest)
  | notify (r : ActionRequest) (m : EmailMessage)

namespace Executor

variable {σ : Type}

def make (x : Executor σ) : MethodCall → Call σ
  | .start r => x.start r
  | .stop r => x.stop r
  | .terminate r => x.terminate r
  | .notify r m => x.notify r m

/-- Makes a call and writes it down. -/
def note (x : Executor σ) (call : MethodCall) : Call (σ × List MethodCall) := fun (state, log) =>
  let answer := x.make call state
  (answer.1, answer.2, log ++ [call])

/-- The executor with a log of the calls that are made. -/
def traced (x : Executor σ) : Executor (σ × List MethodCall) where
  start r := x.note (.start r)
  stop r := x.note (.stop r)
  terminate r := x.note (.terminate r)
  notify r m := x.note (.notify r m)

theorem executed_note (x : Executor σ) (call : MethodCall) (state : σ) (log : List MethodCall) :
    executed (x.note call (state, log)) =
      ((executed (x.make call state)).1, (executed (x.make call state)).2, log ++ [call]) := by
  simp only [note]
  rcases x.make call state with ⟨e | u, state'⟩ <;> rfl

end Executor

/-- The calls that belong to a request: one of the method of its action, or none if there is
nothing to be done.  A notification is the one in the request and goes where the action says. -/
inductive ActionRequest.Routes (req : ActionRequest) : List MethodCall → Prop where
  | none (action : req.action = .none) : Routes req []
  | error (action : req.action = .error) : Routes req []
  | start (action : req.action = .start) : Routes req [.start req]
  | stop (action : req.action = .stop) : Routes req [.stop req]
  | terminate (action : req.action = .terminate) : Routes req [.terminate req]
  | notify {m : EmailMessage} (action : req.action = .email m.recipient)
      (message : req.email = some m) : Routes req [.notify req m]

/-- Dispatching makes the calls that belong to the request and no others. -/
theorem Executor.dispatch_traced {σ : Type} {req : ActionRequest} {calls : List MethodCall}
    (h : req.Routes calls) (x : Executor σ) (state : σ) (log : List MethodCall) :
    x.traced.dispatch req (state, log) =
      ((x.dispatch req state).1, (x.dispatch req state).2, log ++ calls) := by
  cases h with
  | none action | error action =>
    simp [dispatch, action]
  | start action | stop action | terminate action =>
    simp only [dispatch, action, traced, executed_note]
    rfl
  | notify action message =>
    simp only [dispatch, action, message, traced, executed_note]
    rfl

/-! ## Requests of an evaluation -/

namespace Settings

/-- A request for a resource at an instant carries the policy of its tag, and exactly what goes
with its action. -/
structure Payload (s : Settings) (r : Resource) (tag : String) (t : Instant)
    (req : ActionRequest) : Prop where
  policy : Text.TrimsTo tag.toList req.policy.toList
  email_iff : req.email.isSome = true ↔ ∃ recipient, req.action = .email recipient
  email : ∀ m, req.email = some m → req.action = .email m.recipient ∧ m.sender = s.sender
  address : ∀ recipient, req.action = .email recipient →
    (Policy.parse tag).NamesAddress recipient
  snapshot_iff : req.snapshotId.isSome = true ↔
    req.action = .stop ∧ s.snapshotOnStop = true ∧ r.resourceClass = .database
  snapshot : ∀ name, req.snapshotId = some name → ∃ stamp : String,
    name = r.id ++ "-lifecycle-" ++ stamp ∧ LocalTime.Stamps stamp.toList (s.zone.localTime t)

variable {s : Settings} {r : Resource} {tag : String}

theorem payload_request (s : Settings) (r : Resource) (tag : String) (id : CycleId) (t : Instant) :
    s.Payload r tag t (s.request r (Policy.parse tag) (s.beginCycle id t)) := by
  constructor
  case policy =>
    have hraw : (s.request r (Policy.parse tag) (s.beginCycle id t)).policy.toList =
        Text.trimChars tag.toList := by
      rw [request, Policy.parse, String.toList_ofList]
    rw [hraw]
    exact Text.trimsTo_trimChars _
  case email_iff =>
    constructor
    · intro hsome
      obtain ⟨m, hm⟩ := Option.isSome_iff_exists.1 hsome
      obtain ⟨recipient, haction, -⟩ := email_request_eq_some_iff.1 hm
      exact ⟨recipient, haction⟩
    · rintro ⟨recipient, haction⟩
      exact Option.isSome_iff_exists.2 ⟨_, email_request_eq_some_iff.2 ⟨recipient, haction, rfl⟩⟩
  case email =>
    intro m hm
    obtain ⟨recipient, haction, rfl⟩ := email_request_eq_some_iff.1 hm
    exact ⟨haction, rfl⟩
  case address =>
    intro recipient
    exact address_of_request
  case snapshot_iff =>
    simp [Option.isSome_iff_exists, request_snapshotId, snapshotFor_eq_some_iff]
  case snapshot =>
    intro name hname
    rw [request_snapshotId, snapshotFor_eq_some_iff] at hname
    exact ⟨_, hname.2.symm, LocalTime.stamps_minuteStamp _⟩

theorem Payload.exists_routes {t : Instant} {req : ActionRequest} (h : s.Payload r tag t req) :
    ∃ calls, req.Routes calls := by
  cases haction : req.action with
  | none =>
    exact ⟨_, .none haction⟩
  | error =>
    exact ⟨_, .error haction⟩
  | start =>
    exact ⟨_, .start haction⟩
  | stop =>
    exact ⟨_, .stop haction⟩
  | terminate =>
    exact ⟨_, .terminate haction⟩
  | email recipient =>
    obtain ⟨m, hm⟩ := Option.isSome_iff_exists.1 (h.email_iff.2 ⟨recipient, haction⟩)
    exact ⟨_, .notify (h.email m hm).1 hm⟩

/-- The request for a resource with a policy carries a notification if and only if its action is to
notify, from the configured sender to the address of the action, which the policy names; a snapshot
if and only if it stops a database and snapshots are enabled, under the id and the local time of
the cycle; and the tag without the blanks around it.  So whoever carries it out is called once, by
the method of the action, or not at all. -/
theorem evaluate_payload (s : Settings) (r : Resource) (id : CycleId) (t : Instant) (tag : String)
    (tagged : r.tags.get? s.policyTag = some tag) :
    ∃ req, s.evaluate r (s.beginCycle id t) = some req ∧ s.Payload r tag t req ∧
      ∃ calls, req.Routes calls ∧
        ∀ (σ : Type) (x : Executor σ) (state : σ) (log : List MethodCall),
          x.traced.dispatch req (state, log) =
            ((x.dispatch req state).1, (x.dispatch req state).2, log ++ calls) := by
  have hpayload := payload_request s r tag id t
  obtain ⟨calls, hroutes⟩ := hpayload.exists_routes
  refine ⟨_, evaluate_eq_some tagged, hpayload, calls, hroutes, ?_⟩
  intro σ x state log
  exact Executor.dispatch_traced hroutes x state log

/-- Half a day after its launch, somebody is told about a machine that may run for an hour, and a
database that may not run at all is stopped and saved. -/
theorem evaluate_payload_notice :
    let r := Resource.compute ⟨"i-build", "running", some .epoch,
      Tags.ofList [("lifecycle-policy", " limit-email:1/ ops@example.com ")]⟩
    let db := Resource.database ⟨"db-1", none, "available", none,
      Tags.ofList [("lifecycle-policy", "always-off")]⟩
    let noon : Instant := ⟨43200, 0, by decide⟩
    r.tags.get? Settings.default.policyTag = some " limit-email:1/ ops@example.com " ∧
      db.tags.get? Settings.default.policyTag = some "always-off" ∧
      (∃ req m, Settings.default.evaluate r (Settings.default.beginCycle .zero noon) = some req ∧
        req.action = .email "ops@example.com" ∧ req.email = some m ∧
        m.recipient = "ops@example.com" ∧ m.sender = Settings.default.sender) ∧
      ∃ req stamp, Settings.default.evaluate db (Settings.default.beginCycle .zero noon) =
          some req ∧
        req.snapshotId = some ("db-1-lifecycle-" ++ stamp) ∧
        LocalTime.Stamps stamp.toList ⟨⟨1970, 1, 1⟩, 12, 0, 0, 0⟩ := by
  intro r db noon
  have htag : r.tags.get? Settings.default.policyTag = some " limit-email:1/ ops@example.com " := by
    decide
  obtain ⟨req, hreq, hpayload, -⟩ := evaluate_payload Settings.default r .zero noon _ htag
  have haction : req.action = .email "ops@example.com" := by
    have hactions : (Settings.default.evaluate r (Settings.default.beginCycle .zero noon)).map
        (·.action) = some (.email "ops@example.com") := by
      decide +kernel
    simpa [hreq] using hactions
  obtain ⟨m, hm⟩ := Option.isSome_iff_exists.1 (hpayload.email_iff.2 ⟨_, haction⟩)
  obtain ⟨haddress, hsender⟩ := hpayload.email m hm
  have hrecipient : m.recipient = "ops@example.com" := by
    rw [haction] at haddress
    exact (Action.email.inj haddress).symm
  -- the database
  have hdb : db.tags.get? Settings.default.policyTag = some "always-off" := by
    decide
  obtain ⟨stop, hstop, hsaved, -⟩ := evaluate_payload Settings.default db .zero noon _ hdb
  have hstopped : stop.action = .stop := by
    have hactions : (Settings.default.evaluate db (Settings.default.beginCycle .zero noon)).map
        (·.action) = some .stop := by
      decide +kernel
    simpa [hstop] using hactions
  obtain ⟨name, hname⟩ :=
    Option.isSome_iff_exists.1 (hsaved.snapshot_iff.2 ⟨hstopped, rfl, rfl⟩)
  obtain ⟨stamp, rfl, hstamp⟩ := hsaved.snapshot name hname
  have hshown : Settings.default.zone.localTime noon = ⟨⟨1970, 1, 1⟩, 12, 0, 0, 0⟩ := by
    decide +kernel
  rw [hshown] at hstamp
  exact ⟨htag, hdb, ⟨req, m, hreq, haction, hm, hrecipient, hsender⟩, stop, stamp, hstop, hname,
    hstamp⟩

end Settings
end FleetLifecycle
