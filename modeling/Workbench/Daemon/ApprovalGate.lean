import Workbench.Daemon.Dispatch

/-!
# Daemon: the approval gate

A prompt is routed and then waits for an approval: the grant and the dispatch it allows
are one transaction.  A retry is allowed by the reconciliation in its transaction.
`dispatch_workflow_step` appends its dispatch in a transaction of its own, which the gate
says nothing about.
-/

namespace Workbench.Daemon

open Workbench.Core Config Storage Library List

/-- The approval was requested for the request of the dispatch and granted together with it. -/
def Approved (history before : List Event) (dispatch : Event) : Prop :=
  ∃ approvalId,
    (∃ requested ∈ history, requested.payload = .approvalRequested approvalId ∧
      ∀ request, requested.causation = some request → dispatch.causation = some request) ∧
    ∃ recorded ∈ before, recorded.payload = .approvalRecorded approvalId .grant

/-- A reconciliation in the transaction of the dispatch names it as its retry. -/
def Retried (before : List Event) (dispatch : Event) : Prop :=
  ∃ reconciled ∈ before, reconciled.payload = .outcomeReconciled .retry dispatch.attempt

/-- Every dispatch that does not start its transaction is approved or is a retry. -/
def Gated (history : List Event) (commit : Commit) : Prop :=
  ∀ before dispatch after, commit.batch = before ++ dispatch :: after → before ≠ [] →
    Event.isStart dispatch → Approved history before dispatch ∨ Retried before dispatch

theorem pendingApproval_requested (events : List Event) {approvalId : Uuid}
    (h : (events.foldl FoldedSession.next .initial).pendingApprovalId = some approvalId) :
    ∃ requested ∈ events, requested.payload = .approvalRequested approvalId ∧
      requested.causation = (events.foldl FoldedSession.next .initial).pendingRequestId := by
  induction events using reverseRecOn with
  | nil => cases h
  | append_singleton events event ih =>
    rw [foldl_concat] at h ⊢
    generalize events.foldl FoldedSession.next .initial = folded at h ih ⊢
    have hkept : folded.pendingApprovalId = some approvalId →
        (folded.next event).pendingRequestId = folded.pendingRequestId →
        ∃ requested ∈ events ++ [event], requested.payload = .approvalRequested approvalId ∧
          requested.causation = (folded.next event).pendingRequestId := by
      intro hpending hsame
      obtain ⟨requested, hmem, hpayload, hcausation⟩ := ih hpending
      exact ⟨requested, mem_append_left _ hmem, hpayload, hcausation.trans hsame.symm⟩
    unfold FoldedSession.next at h hkept ⊢
    cases hpayload : event.payload with
    | approvalRequested =>
      rw [hpayload] at h
      cases h
      exact ⟨event, by simp, hpayload, rfl⟩
    | approvalRecorded => rw [hpayload] at h; cases h
    | sessionRedirected =>
      rw [hpayload] at h hkept
      dsimp only at h hkept ⊢
      split at h <;> exact hkept h (by split <;> rfl)
    | _ =>
      rw [hpayload] at h hkept
      exact hkept h rfl

theorem gated_aboutDispatches : AboutDispatches Gated := by
  intro history commit hnone before dispatch after hsplit _ hstart
  have hmem : dispatch ∈ commit.batch := by rw [hsplit]; simp
  have hevent := all_eq_true.mp hnone dispatch hmem
  rw [hstart] at hevent
  cases hevent

theorem dispatching_gated (s : Session) (point : Point) : Dispatching Gated s point where
  grant request approvalId folded stored confirmed column _ hawaits := by
    intro before dispatch after hsplit _ hstart
    obtain ⟨rfl, rfl⟩ := split_at_start [_, _] rfl hsplit hstart
    obtain ⟨hfold, -, hpending, -⟩ := hawaits
    obtain rfl := foldSession_eq_ok hfold
    obtain ⟨requested, hmem, hpayload, hcausation⟩ := pendingApproval_requested s.events hpending
    refine .inl ⟨approvalId, ⟨requested, hmem, hpayload, fun asked hasked => ?_⟩,
      _, mem_cons_self, rfl⟩
    rw [← hcausation, hasked]
    rfl
  retry request attempt evidence stored confirmed column _ _ := by
    intro before dispatch after hsplit _ hstart
    obtain ⟨rfl, rfl⟩ := split_at_start [_, _] rfl hsplit hstart
    exact .inr ⟨_, mem_cons_self, rfl⟩
  step request run plan stored confirmed column _ := by
    intro before dispatch after hsplit hbefore hstart
    obtain ⟨rfl, rfl⟩ := split_at_start [] rfl hsplit hstart
    exact absurd rfl hbefore

/-- Every dispatch not committed alone is preceded by the request and, in its own transaction, the
grant of its approval, or by the reconciliation that retries with it. -/
theorem dispatches_gated (env : Environment) {app : Application}
    (hreach : Reaches (Application.step env) anyAction .initial app) :
    ∀ s ∈ app.sessions, EveryCommit Gated s.commits := by
  intro s hmem
  have hlog : LogMeets Gated s := dispatches_invariant gated_aboutDispatches
    (fun _ => dispatching_gated _ _) hreach s hmem
  exact hlog.every

/-- A prompt waits for its approval, and the dispatch follows the grant. -/
theorem first_prompt_gated :
    ∃ app, Reaches (Application.step smallEnvironment) anyAction .initial app ∧
      (∃ s ∈ app.sessions, startedAttempts s.events ≠ []) ∧
      ∀ s ∈ app.sessions, EveryCommit Gated s.commits :=
  exists_reaches_and (smallStart .fake [smallStep "a"] ++ [.resume 0 0 .proceed []])
    (by decide +kernel) fun _ hreach _ => dispatches_gated _ hreach

def grantedApprovals (events : List Event) : Nat :=
  events.countP fun event =>
    match event.payload with
    | .approvalRecorded _ .grant => true
    | _ => false

/-- The retries of a history. -/
def retries (events : List Event) : Nat :=
  events.countP fun event =>
    match event.payload with
    | .outcomeReconciled .retry _ => true
    | _ => false

/-- An uncertain attempt is retried without a new approval; and the second step of a workflow is
started with neither an approval nor a retry, although its permission is to ask. -/
theorem retry_and_step_lack_approval :
    (∃ app, Reaches (Application.step smallEnvironment) anyAction .initial app ∧
      ∃ s ∈ app.sessions, effectiveProviderPermission s.configuration = .approvalRequired ∧
        grantedApprovals s.events < (startedAttempts s.events).length ∧ retries s.events = 1) ∧
    ∃ app, Reaches (Application.step smallEnvironment) anyAction .initial app ∧
      ∃ s ∈ app.sessions, effectiveProviderPermission s.configuration = .approvalRequired ∧
        grantedApprovals s.events < (startedAttempts s.events).length ∧ retries s.events = 0 := by
  constructor
  · exact exists_reaches_of_execute
      (smallStart .api [smallStep "a"] ++
        [.resume 0 0 .proceed [], .resume 0 0 (.sessionStarted (.error ⟨"timeout", false⟩)) [],
         .submit 0 103 (.reconcile 17 .retry none), .resume 0 0 .proceed []]) (by decide +kernel)
  · exact exists_reaches_of_execute
      (smallStart .fake [smallStep "a", smallStep "b"] ++
        replicate 4 (.resume 0 0 .proceed [])) (by decide +kernel)

end Workbench.Daemon
