import FleetLifecycle.Proofs.Dispatching
import FleetLifecycle.Proofs.Gate

/-!
# Limited journals — an output that fills up

The room of a journal may end anywhere: within a record, right before its line break, or between
two records.  Concretely, we:

1. decide by the end of a request's line, counted from the start of the output, whether the request
   is executed (`Journal.outcome_eq_executed_iff`);
2. show that every later line ends beyond the limit as well (`Journal.outcome_after_of_lt`);
3. conclude with `Journal.dispatchList_limited`: what is written is the beginning of what an output
   without a limit would have received, and a request is executed exactly if its whole line is
   part of it.
-/

namespace FleetLifecycle
namespace Journal

variable {r : ActionRequest} {before after : List ActionRequest} {dryRun : Bool} {limit : Nat}

/-- What an output without a limit receives of a list of requests. -/
def received (dryRun : Bool) (requests : List ActionRequest) : List UInt8 :=
  ((executor dryRun).dispatchList requests (.empty none)).2.bytes

theorem received_eq (dryRun : Bool) (requests : List ActionRequest) :
    received dryRun requests = stream dryRun requests := by
  rw [received, empty, dispatchList_unlimited]
  rfl

theorem length_received_append (before : List ActionRequest) (dryRun : Bool)
    (effective : r.isEffective = true) :
    (received dryRun (before ++ [r])).length =
      (received dryRun before).length + (r.lineBytes dryRun).length := by
  rw [received_eq, received_eq, stream_append, stream_cons_of_isEffective effective]
  simp

/-- The output as it is when a request has its turn. -/
theorem limited_snd (dryRun : Bool) (before : List ActionRequest) (limit : Nat) :
    ((executor dryRun).dispatchList before (.empty (some limit))).2 =
      ⟨(received dryRun before).take limit, some (limit - (received dryRun before).length)⟩ := by
  rw [empty, dispatchList_limited_snd, received_eq, List.nil_append]

/-! ## One of many requests -/

/-- A request is executed if its line ends within the limit. -/
theorem outcome_of_le (after : List ActionRequest) (effective : r.isEffective = true)
    (h : (received dryRun (before ++ [r])).length ≤ limit) :
    ((executor dryRun).dispatchList (before ++ r :: after) (.empty (some limit))).1[before.length]? =
      some (.ok .executed) := by
  have hlength := length_received_append before dryRun effective
  have hroom : (r.lineBytes dryRun).length ≤ limit - (received dryRun before).length := by
    omega
  rw [Executor.dispatchList_getElem?, limited_snd, dispatch_of_le effective hroom]

/-- A request fails in its own way if its line, or only the line break, ends beyond the limit. -/
theorem outcome_of_lt (after : List ActionRequest) (effective : r.isEffective = true)
    (h : limit < (received dryRun (before ++ [r])).length) :
    ∃ e, r.action.FailsWith e ∧
      ((executor dryRun).dispatchList (before ++ r :: after)
        (.empty (some limit))).1[before.length]? = some (.error e) := by
  have hlength := length_received_append before dryRun effective
  -- a line has at least its line break, so it does not fit where nothing fits
  have hpos := r.length_lineBytes_pos dryRun
  have hroom : limit - (received dryRun before).length < (r.lineBytes dryRun).length := by
    omega
  rcases dispatch_of_lt effective hroom ((received dryRun before).take limit) with
    ⟨e, hfails, hdispatch⟩
  refine ⟨e, hfails, ?_⟩
  rw [Executor.dispatchList_getElem?, limited_snd, hdispatch]

/-- A request is executed exactly if its line ends within the limit. -/
theorem outcome_eq_executed_iff (after : List ActionRequest) (effective : r.isEffective = true) :
    ((executor dryRun).dispatchList (before ++ r :: after)
        (.empty (some limit))).1[before.length]? = some (.ok .executed) ↔
      (received dryRun (before ++ [r])).length ≤ limit := by
  constructor
  · intro hexecuted
    by_contra hbeyond
    rcases outcome_of_lt after effective (Nat.lt_of_not_le hbeyond) with ⟨e, -, hfailed⟩
    rw [hexecuted] at hfailed
    cases hfailed
  · exact outcome_of_le after effective

/-- Once a line ends beyond the limit, so does every line after it. -/
theorem lt_length_received_of_lt (mid : List ActionRequest) (r' : ActionRequest)
    (h : limit < (received dryRun (before ++ [r])).length) :
    limit < (received dryRun ((before ++ r :: mid) ++ [r'])).length := by
  have hsplit : before ++ r :: mid ++ [r'] = (before ++ [r]) ++ (mid ++ [r']) := by
    simp
  have hle : (received dryRun (before ++ [r])).length ≤
      (received dryRun (before ++ r :: mid ++ [r'])).length := by
    rw [hsplit, received_eq, received_eq, stream_append dryRun (before ++ [r]), List.length_append]
    exact Nat.le_add_right _ _
  exact Nat.lt_of_lt_of_le h hle

/-- After a request whose line ends beyond the limit, every request with an effect fails. -/
theorem outcome_after_of_lt (mid : List ActionRequest) {r' : ActionRequest}
    (rest : List ActionRequest) (effective' : r'.isEffective = true)
    (h : limit < (received dryRun (before ++ [r])).length) :
    ∃ e, r'.action.FailsWith e ∧
      ((executor dryRun).dispatchList (before ++ r :: (mid ++ r' :: rest))
        (.empty (some limit))).1[(before ++ r :: mid).length]? = some (.error e) := by
  have hlater := outcome_of_lt rest effective' (lt_length_received_of_lt mid r' h)
  rwa [List.append_assoc, List.cons_append] at hlater

/-- A request without effect is answered without a call. -/
theorem outcome_of_not_isEffective (before after : List ActionRequest) (dryRun : Bool)
    (limit : Nat) (h : r.isEffective = false) :
    ((executor dryRun).dispatchList (before ++ r :: after)
      (.empty (some limit))).1[before.length]? = some r.refusal := by
  rw [Executor.dispatchList_getElem?, Executor.dispatch_of_not_isEffective h]

/-- A request without effect writes nothing, whatever room is left. -/
theorem limited_snd_of_not_isEffective (h : r.isEffective = false) :
    ((executor dryRun).dispatchList (before ++ [r]) (.empty (some limit))).2 =
      ((executor dryRun).dispatchList before (.empty (some limit))).2 := by
  rw [limited_snd, limited_snd, received_eq, received_eq, stream_append,
    stream_cons_of_not_isEffective h, stream_nil, List.append_nil]

/-! ## All requests -/

/-- An output with a limit receives the beginning of what one without a limit would have received.
A request with an effect is executed exactly if its line, line break included, ends within the
limit; otherwise it fails with the error of its action, and so does every later one.  A request that
asks for nothing is skipped, one that lacks its notification is told so, and neither is written. -/
theorem dispatchList_limited (dryRun : Bool) (requests : List ActionRequest) (limit : Nat) :
    let limited := (executor dryRun).dispatchList requests (.empty (some limit))
    limited.2.bytes = (received dryRun requests).take limit ∧
    limited.1.length = requests.length ∧
    ∀ before r after, requests = before ++ r :: after →
      (r.isEffective = true →
        (limited.1[before.length]? = some (.ok .executed) ↔
          (received dryRun (before ++ [r])).length ≤ limit) ∧
        (limited.1[before.length]? ≠ some (.ok .executed) →
          (∃ e, r.action.FailsWith e ∧ limited.1[before.length]? = some (.error e)) ∧
          ∀ mid r' rest, after = mid ++ r' :: rest → r'.isEffective = true →
            ∃ e, r'.action.FailsWith e ∧
              limited.1[(before ++ r :: mid).length]? = some (.error e))) ∧
      (r.action = .none ∨ r.action = .error →
        limited.1[before.length]? = some (.ok .skipped)) ∧
      (∀ recipient, r.action = .email recipient → r.email = none →
        limited.1[before.length]? = some (.error .missingMessage)) ∧
      (r.isEffective = false →
        ((executor dryRun).dispatchList (before ++ [r]) (.empty (some limit))).2 =
          ((executor dryRun).dispatchList before (.empty (some limit))).2) := by
  intro limited
  have hlimited : limited = (executor dryRun).dispatchList requests (.empty (some limit)) := rfl
  refine ⟨?_, Executor.length_dispatchList _ _ _, ?_⟩
  · rw [hlimited, limited_snd]
  · rintro before r after rfl
    refine ⟨?_, ?_, ?_, limited_snd_of_not_isEffective⟩
    · intro effective
      have hiff : limited.1[before.length]? = some (.ok .executed) ↔
          (received dryRun (before ++ [r])).length ≤ limit :=
        outcome_eq_executed_iff after effective
      refine ⟨hiff, fun hne => ?_⟩
      have hlt : limit < (received dryRun (before ++ [r])).length :=
        Nat.lt_of_not_le fun hle => hne (hiff.2 hle)
      refine ⟨outcome_of_lt after effective hlt, ?_⟩
      rintro mid r' rest rfl effective'
      exact outcome_after_of_lt mid rest effective' hlt
    · intro haction
      have hquiet : r.action.hasSideEffect = false := by
        rcases haction with haction | haction <;> rw [haction] <;> rfl
      have heffective : r.isEffective = false :=
        Bool.eq_false_iff.2 fun h => by simp [r.hasSideEffect_of_isEffective h] at hquiet
      rw [hlimited, outcome_of_not_isEffective before after dryRun limit heffective,
        r.refusal_of_quiet hquiet]
    · intro recipient haction hemail
      have heffective : r.isEffective = false := by
        simp [ActionRequest.isEffective, haction, hemail]
      have hrefusal : r.refusal = .error .missingMessage := by
        simp [ActionRequest.refusal, haction]
      rw [hlimited, outcome_of_not_isEffective before after dryRun limit heffective, hrefusal]

/-- With room for all of the first line but its line break, both requests fail. -/
theorem dispatchList_limited_torn :
    let stop : ActionRequest :=
      ⟨.zero, "i-1", "i-1", .compute, "always-off", .stop, .pinnedOff, none, none, .epoch⟩
    let start : ActionRequest :=
      ⟨.zero, "i-2", "i-2", .compute, "always-on", .start, .pinnedOn, none, none, .epoch⟩
    ∃ limit, (received true [stop]).length = limit + 1 ∧
      stop.isEffective = true ∧ start.isEffective = true ∧
      (∃ reason, ((executor true).dispatchList [stop, start] (.empty (some limit))).1[0]? =
        some (.error (.stopFailed reason))) ∧
      (∃ reason, ((executor true).dispatchList [stop, start] (.empty (some limit))).1[1]? =
        some (.error (.startFailed reason))) ∧
      ((executor true).dispatchList [stop, start] (.empty (some limit))).2.bytes =
        (received true [stop, start]).take limit := by
  intro stop start
  have hpos : 0 < (received true [stop]).length := by
    have hlength := length_received_append (r := stop) [] true rfl
    have hline := stop.length_lineBytes_pos true
    rw [List.nil_append] at hlength
    omega
  rcases Nat.exists_eq_add_one.2 hpos with ⟨limit, hlimit⟩
  rcases dispatchList_limited true [stop, start] limit with ⟨hbytes, -, hall⟩
  have hfate := (hall [] stop [start] rfl).1 rfl
  simp only [List.length_nil, List.nil_append] at hfate
  rcases hfate with ⟨hexecuted, htorn⟩
  have hne : ((executor true).dispatchList [stop, start] (.empty (some limit))).1[0]? ≠
      some (.ok .executed) := by
    intro h
    have hle := hexecuted.1 h
    omega
  rcases htorn hne with ⟨⟨e, hfails, htold⟩, hlater⟩
  rcases hlater [] start [] rfl rfl with ⟨e', hfails', htold'⟩
  cases hfails with
  | stop reason =>
    cases hfails' with
    | start reason' =>
      exact ⟨limit, hlimit, rfl, rfl, ⟨reason, htold⟩, ⟨reason', htold'⟩, hbytes⟩

end Journal
end FleetLifecycle
