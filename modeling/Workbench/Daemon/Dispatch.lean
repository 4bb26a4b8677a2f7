import Workbench.Daemon.Transaction

/-!
# Daemon: what a dispatch is committed after

A `dispatch_started` event is committed by a granted approval, by a reconciliation that
retries, or by `dispatch_workflow_step`.  The first two read the folded state under the
session lock; the third takes the lock anew and does not look at the state again.
-/

namespace Workbench.Daemon

open Workbench.Core Config Storage Library List

def startsNothing (batch : List Event) : Bool := batch.all fun event => !Event.isStart event

section

variable {P : List Event → Commit → Prop} {env : Environment} {s : Session} {point : Point}
  {response : Response}

/-- A property that is about dispatches only. -/
def AboutDispatches (P : List Event → Commit → Prop) : Prop :=
  ∀ history commit, startsNothing commit.batch → P history commit

theorem startsNothing_of_areOf {kinds : List EventPayload} {batch : List Event}
    (h : areOf kinds batch) (hkinds : kinds.elem .dispatchStarted = false) :
    startsNothing batch := by
  refine all_eq_true.mpr fun event hmem => ?_
  have hkind := areOf_iff.mp h event hmem
  obtain ⟨payload, causation, attempt⟩ := event
  cases payload with
  | dispatchStarted => simp_all [Payload.toCore]
  | _ => rfl

/-- Where a batch whose last event alone can start an attempt is split at a start. -/
theorem split_at_start (init : List Event) {before after : List Event} {last event : Event}
    (hinit : startsNothing init) (hsplit : init ++ [last] = before ++ event :: after)
    (hstart : Event.isStart event) : before = init ∧ event = last := by
  rcases eq_nil_or_concat after with rfl | ⟨after, final, rfl⟩
  · obtain ⟨rfl, hlast⟩ := append_inj' hsplit rfl
    cases hlast
    exact ⟨rfl, rfl⟩
  rw [concat_eq_append, ← cons_append, ← append_assoc] at hsplit
  obtain ⟨rfl, _⟩ := append_inj' hsplit rfl
  have hmem : event ∈ before ++ event :: after := by simp
  have hnone := all_eq_true.mp hinit event hmem
  rw [hstart] at hnone
  cases hnone

/-- What is to be shown of the three dispatching transactions. -/
structure Dispatching (P : List Event → Commit → Prop) (s : Session) (point : Point) : Prop where
  grant : ∀ request approvalId folded stored confirmed column,
    point = .command request (.approvalResolve approvalId .grant) →
    s.Awaits approvalId folded →
    P s.events ⟨s.grantEvents request approvalId folded, stored, confirmed, column⟩
  retry : ∀ request attempt evidence stored confirmed column,
    point = .command request (.reconcile attempt .retry evidence) → s.Uncertain attempt →
    P s.events ⟨s.retryEvents request attempt, stored, confirmed, column⟩
  step : ∀ request run plan stored confirmed column, point = .dispatchStep request run →
    P (s.events ++ (stepEvents plan run request s.nextId).take 2)
      ⟨(stepEvents plan run request s.nextId).drop 2, stored, confirmed, column⟩

/-- A property of dispatches has to be shown of the dispatching transactions only. -/
theorem AboutDispatches.transacting (hP : AboutDispatches P)
    (hdispatching : Dispatching P s point) :
    Transacting P s point response := by
  refine ⟨fun done batch stored h column _ => ?_, fun _ _ _ _ _ _ _ _ => hP _ _ rfl⟩
  have hkinds := (areOf_append.mp h.areOf).2
  cases h with
  | command request _ _ _ hcommit =>
    cases hcommit with
    | grant approvalId folded hawaits =>
      rw [append_nil]
      exact hdispatching.grant request approvalId folded _ _ _ rfl hawaits
    | retry attempt evidence _ huncertain =>
      rw [append_nil]
      exact hdispatching.retry request attempt evidence _ _ _ rfl huncertain
    | outcome | decidedAgain => exact hP _ _ rfl
    | _ => exact hP _ _ (startsNothing_of_areOf hkinds rfl)
  | stepRouted request run plan _ event _ hevents =>
    cases hstart : Event.isStart event with
    | true =>
      obtain ⟨rfl, rfl⟩ := split_at_start [_, _] rfl hevents hstart
      exact hdispatching.step request run plan _ _ _ rfl
    | false => exact hP _ _ (by simp [startsNothing, hstart])
  | unavailable | failed =>
    exact hP _ _ (startsNothing_of_areOf (areOf_failureEvent _ _ _ _) rfl)
  | stepRefused => exact hP _ _ rfl
  | _ => exact hP _ _ (startsNothing_of_areOf hkinds rfl)

/-- A property of the three dispatching transactions holds of the dispatches of every run. -/
theorem dispatches_invariant {allowed : Application → Action → Prop} (hP : AboutDispatches P)
    (hdispatching : ∀ {app index task response faults s point},
      Resumes env allowed app index task response faults s point →
      Dispatching P (s.without task) point)
    {app : Application} (hreach : Reaches (Application.step env) allowed .initial app) :
    ∀ s ∈ app.sessions, LogMeets P s :=
  transactions_invariant
    (fun _ _ => ⟨fun _ _ _ h _ _ => hP _ _ (startsNothing_of_areOf (areOf_append.mp h.areOf).2 rfl),
      fun _ _ _ _ _ => hP _ _ rfl⟩)
    (fun _ _ => hP _ _ rfl)
    (fun h _ => hP.transacting (hdispatching h)) hreach

end

/-! ## Blocked automation -/

/-- The states in which no new work may start. -/
def blocksAutomation : SessionState → Bool
  | .pausing | .paused | .cancelRequested | .outcomeUnknown => true
  | state => state.isTerminal

/-- The history folds to a state in which new work may start. -/
def Unblocked (history : List Event) : Prop :=
  ∃ folded, foldSession history = .ok folded ∧ blocksAutomation folded.state = false

/-- Dispatches are appended where work may start, or behind the reconciliation that allows them. -/
def DispatchesUnblocked (history : List Event) (commit : Commit) : Prop :=
  ∀ before event after, commit.batch = before ++ event :: after → Event.isStart event →
    Unblocked (history ++ before) ∨
      ∃ reconciled ∈ before, reconciled.payload = .outcomeReconciled .retry event.attempt

/-- A workflow step is about to be dispatched in a state that blocks automation. -/
def Session.dispatchesBlocked (s : Session) : Point → Bool
  | .dispatchStep _ _ =>
    match foldSession s.events with
    | .ok folded => blocksAutomation folded.state
    | .error _ => true
  | _ => false

/-- The runs in which no workflow step is dispatched while automation is blocked. -/
abbrev DispatchesNoBlockedStep : Application → Action → Prop :=
  StepsMeet fun s point _ => s.dispatchesBlocked point = false

section

variable {s : Session} {point : Point}

theorem dispatchesUnblocked_aboutDispatches : AboutDispatches DispatchesUnblocked := by
  intro history commit hnone before event after hsplit hstart
  have hmem : event ∈ commit.batch := by rw [hsplit]; simp
  have hevent := all_eq_true.mp hnone event hmem
  rw [hstart] at hevent
  cases hevent

theorem dispatching_unblocked (hallowed : s.dispatchesBlocked point = false) :
    Dispatching DispatchesUnblocked s point where
  grant request approvalId folded stored confirmed column _ hawaits := by
    intro before event after hsplit hstart
    obtain ⟨rfl, rfl⟩ := split_at_start [_, _] rfl hsplit hstart
    exact .inl ⟨_, foldSession_append hawaits.fold _, rfl⟩
  retry request attempt evidence stored confirmed column _ _ := by
    intro before event after hsplit hstart
    obtain ⟨rfl, rfl⟩ := split_at_start [_, _] rfl hsplit hstart
    exact .inr ⟨_, mem_cons_self, rfl⟩
  step request run plan stored confirmed column hpoint := by
    intro before event after hsplit hstart
    obtain ⟨rfl, rfl⟩ := split_at_start [] rfl hsplit hstart
    subst hpoint
    cases hfold : foldSession s.events with
    | ok folded =>
      rw [Session.dispatchesBlocked, hfold] at hallowed
      rw [append_nil]
      exact .inl ⟨_, foldSession_append hfold _, hallowed⟩
    | error e =>
      rw [Session.dispatchesBlocked, hfold] at hallowed
      cases hallowed

end

end Workbench.Daemon
