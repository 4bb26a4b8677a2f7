import Workbench.Daemon.WorkflowExec
import Workbench.Storage.Event

/-!
# Daemon: reading a session history

`fold_session` and the searches over a replayed history.  A history is the list of
the session's events in order of their sequence numbers, so "the latest" is the
last match and "later than" is "behind in the list".
-/

namespace Workbench.Daemon

open Workbench.Core Config Storage List

/-- The failures of the daemon; one that is recorded as an outcome is the stored error. -/
inductive DaemonError where
  | invalidRequest (message : String)
  | unsupportedVersion
  | sessionNotFound
  | invalidTransition
  | capabilityUnavailable
  | policyDenied
  | storageUnavailable
  | keyStoreUnavailable
  | clientLagged
  | internal
  deriving DecidableEq

/-! ## Folding -/

/-- What a history says about its session. -/
structure FoldedSession where
  state : SessionState
  lastSequence : Nat
  pendingApprovalId : Option Uuid
  pendingRequestId : Option Uuid
  uncertainAttemptId : Option Uuid
  /-- Latest decision first. -/
  approvalDecisions : List (Uuid × ApprovalDecision)

/-- The state before the first event. -/
def FoldedSession.initial : FoldedSession := ⟨.ready, 0, none, none, none, []⟩

/-- The effect of one event. -/
def FoldedSession.next (folded : FoldedSession) (event : Event) : FoldedSession :=
  let folded := { folded with lastSequence := folded.lastSequence + 1 }
  match event.payload with
  | .dispatchStarted | .sessionResumed _ => { folded with state := .running }
  | .clarificationRequested _ _ => { folded with state := .awaitingClarification }
  | .approvalRequested approvalId =>
    { folded with
      state := .awaitingApproval
      pendingApprovalId := some approvalId
      pendingRequestId := event.causation }
  | .approvalRecorded approvalId decision =>
    { folded with
      approvalDecisions := (approvalId, decision) :: folded.approvalDecisions
      pendingApprovalId := none
      pendingRequestId := none
      state := match decision with
        | .grant => .running
        | .deny => .paused }
  | .pauseRequested _ => { folded with state := .pausing }
  | .sessionPaused _ => { folded with state := .paused }
  | .sessionRedirected _ _ =>
    if folded.state = .awaitingClarification then { folded with state := .ready } else folded
  | .cancelRequested _ => { folded with state := .cancelRequested }
  | .outcomeUnknown _ =>
    { folded with state := .outcomeUnknown, uncertainAttemptId := event.attempt }
  | .outcomeReconciled _ _ => { folded with uncertainAttemptId := none }
  | .sessionCompleted _ => { folded with state := .completed }
  | .sessionFailed _ => { folded with state := .failed }
  | .sessionCancelled _ => { folded with state := .cancelled }
  | .sessionAbandoned _ => { folded with state := .abandoned }
  | .sessionDeletionRequested _ => { folded with state := .deleting }
  | _ => folded

/-- The fold of a non-empty history whose first event created the session. -/
def foldSession (history : List Event) : Except DaemonError FoldedSession :=
  match history with
  | ⟨.sessionCreated _, _, _⟩ :: _ => .ok (history.foldl FoldedSession.next .initial)
  | _ => .error .sessionNotFound

/-- Folding goes on where it stopped. -/
theorem foldSession_append {history : List Event} {folded : FoldedSession}
    (h : foldSession history = .ok folded) (events : List Event) :
    foldSession (history ++ events) = .ok (events.foldl FoldedSession.next folded) := by
  unfold foldSession at h
  split at h
  · cases h
    rw [← foldl_append]
    rfl
  · cases h

/-! ## Searches -/

/-- The last run snapshot in the history. -/
def recoverRun (history : List Event) : Option WorkflowRun :=
  history.reverse.findSome? fun event =>
    match event.payload with
    | .workflowTransition run _ => some run
    | _ => none

/-- The workflow id pinned on session creation. -/
def sessionWorkflowId (history : List Event) : Option String :=
  (history.findSome? fun event =>
    match event.payload with
    | .sessionCreated workflowId => some workflowId
    | _ => none).join

/-- Only a `workflow_transition` event changes the recovered run. -/
theorem recoverRun_concat (history : List Event) (event : Event) :
    recoverRun (history ++ [event])
      = match event.payload with
        | .workflowTransition run _ => some run
        | _ => recoverRun history := by
  unfold recoverRun
  rw [reverse_append, reverse_singleton, singleton_append, findSome?_cons]
  cases event.payload <;> rfl

/-- Events behind the creation do not change the workflow of the session. -/
theorem sessionWorkflowId_concat (history : List Event) (event : Event)
    (hevent : ∀ workflowId, event.payload ≠ .sessionCreated workflowId) :
    sessionWorkflowId (history ++ [event]) = sessionWorkflowId history := by
  unfold sessionWorkflowId
  rw [findSome?_append]
  have hnone : [event].findSome? (fun event => match event.payload with
      | .sessionCreated workflowId => some workflowId
      | _ => none) = none := by
    rw [findSome?_cons]
    split
    · next heq =>
      split at heq
      · next workflowId hpayload => exact absurd hpayload (hevent workflowId)
      · cases heq
    · rfl
  rw [hnone, Option.or_none]

/-- The latest redirect instruction for the next dispatch. -/
def latestRedirectInstruction (history : List Event) : Option String :=
  history.reverse.findSome? fun event =>
    match event.payload with
    | .sessionRedirected _ instruction => some instruction
    | _ => none

/-- A `dispatch_started` event. -/
def Event.isStart (event : Event) : Bool :=
  match event.payload with
  | .dispatchStarted => true
  | _ => false

/-- A definite result of an attempt, or the fact that it has none. -/
def Event.isFinish (event : Event) : Bool :=
  match event.payload with
  | .sessionCompleted _ | .sessionFailed _ | .sessionCancelled _ | .sessionAbandoned _
  | .outcomeUnknown _ => true
  | _ => false

/-- The history from the last `dispatch_started` on, that event first. -/
def fromLastStart (history : List Event) : List Event :=
  match history with
  | [] => []
  | event :: rest =>
    match fromLastStart rest with
    | [] => if Event.isStart event then event :: rest else []
    | found => found

/-- The attempt of the last `dispatch_started`, unless a later event finished it. -/
def latestStartedAttempt (history : List Event) : Option Uuid :=
  match fromLastStart history with
  | [] => none
  | started :: later =>
    match started.attempt with
    | none => none
    | some attempt =>
      if later.any (fun event => event.attempt == some attempt && Event.isFinish event)
      then none else some attempt

/-- Whether some content of the attempt carries the findings marker. -/
def attemptHasFindings (history : List Event) (attempt : Uuid) : Bool :=
  history.any fun event =>
    match event.payload with
    | .providerEvent _ content => event.attempt == some attempt && contentHasFindings content
    | _ => false

/-- The provider, model and prompt to run an attempt with. -/
structure ProviderExecutionContext where
  provider : ProviderId
  runtimeModel : String
  prompt : String

/-- The last event that `pick` accepts and `request` caused, else the last accepted. -/
def selectEvent {α : Type} (history : List Event) (request : Uuid) (pick : Payload → Option α) :
    Option α :=
  (history.reverse.findSome? fun event =>
    if event.causation = some request then pick event.payload else none).or
  (history.reverse.findSome? fun event => pick event.payload)

def providerExecutionContext (history : List Event) (preferredRequestId : Uuid) :
    Except DaemonError ProviderExecutionContext :=
  let routing := selectEvent history preferredRequestId fun
    | .routingPlanned plan _ => some plan.destination
    | _ => none
  let input := selectEvent history preferredRequestId fun
    | .inputRecorded _ content => some content
    | _ => none
  match routing, input with
  | some destination, some prompt =>
    .ok ⟨destination.provider, destination.runtimeModel, prompt⟩
  | _, _ => .error .storageUnavailable

/-- The last recorded input, or the default of a workflow, followed by the latest redirect. -/
def workflowPrompt (history : List Event) : String :=
  let prompt := (history.reverse.findSome? fun event =>
    match event.payload with
    | .inputRecorded _ content => some content
    | _ => none).getD "continue workflow"
  match latestRedirectInstruction history with
  | some instruction => prompt ++ "\n\nRedirect: " ++ instruction
  | none => prompt

end Workbench.Daemon
