import Workbench.Core.Routing
import Workbench.Core.Session
import Workbench.Core.Workflow

/-!
# Storage: errors, events, the state column and the unique indexes

A stored event has a kind and a JSON payload in the source; here each kind is one
constructor that carries the fields some function reads.  Time stamps, event ids,
effect classes, actors and the ciphertext are read by none of them.  An event's
sequence number is its position in the history: `next_sequence` is the largest
number so far plus one, and rows are only ever removed together with the session.
-/

namespace Workbench.Storage

open Workbench.Core

/-- What a storage operation can answer instead of a result. -/
inductive StorageError where
  | invalidInput (message : String)
  | storageUnavailable
  | keyStoreUnavailable
  | authenticationFailed
  | sessionNotFound
  | requestConflict
  | unsafeExportPath
  deriving DecidableEq

/-- Every `Uuid` of the source: request, attempt, approval, control, input, export and deletion. -/
abbrev Uuid := Nat

/-- The workflow fields that `enrich_workflow_routing` adds to a routing payload. -/
structure WorkflowRouting where
  workflowId : String
  stepId : String
  iteration : Nat
  stepIndex : Nat
  deriving DecidableEq

/-- What happened, with the fields of the payload that are read again. -/
inductive Payload where
  | sessionCreated (workflowId : Option String)
  | inputRecorded (inputId : Uuid) (content : String)
  | routingPlanned (plan : RoutingPlan) (workflow : Option WorkflowRouting)
  | clarificationRequested (question reason : String)
  | approvalRequested (approvalId : Uuid)
  | approvalRecorded (approvalId : Uuid) (decision : ApprovalDecision)
  | dispatchPlanned (predecessor : Option Uuid)
  | dispatchStarted
  | dispatchAcknowledged (providerRequestId : Option String)
  | providerEvent (eventType content : String)
  | toolEvent (eventType content : String)
  | pauseRequested (controlId : Uuid)
  | sessionPaused (controlId : Uuid)
  | sessionResumed (controlId : Uuid)
  | sessionRedirected (controlId : Uuid) (instruction : String)
  | cancelRequested (controlId : Uuid)
  | cancelConfirmed (controlId : Uuid)
  | outcomeUnknown (reason : String)
  | outcomeReconciled (resolution : ReconciliationResolution) (replacement : Option Uuid)
  | sessionCompleted (summary : String)
  | sessionFailed (summary : String)
  | sessionCancelled (summary : String)
  | sessionAbandoned (summary : String)
  | sessionExported (exportId : Uuid)
  | sessionDeletionRequested (deletionId : Uuid)
  | workflowTransition (run : WorkflowRun) (reason : TransitionReason)
  deriving DecidableEq

/-- A persisted event. -/
structure Event where
  payload : Payload
  causation : Option Uuid
  attempt : Option Uuid
  deriving DecidableEq

namespace Payload

/-- The event kind in the domain's event model. -/
def toCore : Payload → EventPayload
  | sessionCreated _ => .sessionCreated
  | inputRecorded _ _ => .inputRecorded
  | routingPlanned _ _ => .routingPlanned
  | clarificationRequested _ _ => .clarificationRequested
  | approvalRequested _ => .approvalRequested
  | approvalRecorded _ decision => .approvalRecorded decision
  | dispatchPlanned _ => .dispatchPlanned
  | dispatchStarted => .dispatchStarted
  | dispatchAcknowledged _ => .dispatchAcknowledged
  | providerEvent _ _ => .providerEvent
  | toolEvent _ _ => .toolEvent
  | pauseRequested _ => .pauseRequested
  | sessionPaused _ => .sessionPaused
  | sessionResumed _ => .sessionResumed
  | sessionRedirected _ _ => .sessionRedirected
  | cancelRequested _ => .cancelRequested
  | cancelConfirmed _ => .cancelConfirmed
  | outcomeUnknown _ => .outcomeUnknown
  | outcomeReconciled resolution _ => .outcomeReconciled resolution
  | sessionCompleted _ => .sessionCompleted
  | sessionFailed _ => .sessionFailed
  | sessionCancelled _ => .sessionCancelled
  | sessionAbandoned _ => .sessionAbandoned
  | sessionExported _ => .sessionExported
  | sessionDeletionRequested _ => .sessionDeletionRequested
  | workflowTransition _ _ => .workflowTransition

/-- The four kinds that end a session. -/
def isTerminal : Payload → Bool
  | sessionCompleted _ | sessionFailed _ | sessionCancelled _ | sessionAbandoned _ => true
  | _ => false

/-- The column value a kind sets, if it sets one. -/
def stateForKind : Payload → Option SessionState
  | dispatchStarted | sessionResumed _ => some .running
  | clarificationRequested _ _ => some .awaitingClarification
  | approvalRequested _ => some .awaitingApproval
  | sessionPaused _ => some .paused
  | cancelRequested _ => some .cancelRequested
  | outcomeUnknown _ => some .outcomeUnknown
  | sessionCompleted _ => some .completed
  | sessionFailed _ => some .failed
  | sessionCancelled _ => some .cancelled
  | sessionAbandoned _ => some .abandoned
  | _ => none

/-- The kinds of `session_attempt_unique_fact`, numbered: one row of each per attempt. -/
def uniqueFact : Payload → Option Nat
  | dispatchPlanned _ => some 0
  | dispatchStarted => some 1
  | dispatchAcknowledged _ => some 2
  | outcomeUnknown _ => some 3
  | outcomeReconciled _ _ => some 4
  | _ => none

end Payload

/-- The column after `append_event_in_transaction` has inserted the event. -/
def Event.column (state : SessionState) (event : Event) : SessionState :=
  match event.payload with
  | .sessionRedirected _ _ =>
    if state = .awaitingClarification then .ready else state
  | payload => payload.stateForKind.getD state

/-- Two events break a unique index: the same fact, or two terminal facts, about one attempt. -/
def Event.clash (first second : Event) : Bool :=
  first.attempt.isSome && first.attempt == second.attempt &&
    ((first.payload.uniqueFact.isSome &&
        first.payload.uniqueFact == second.payload.uniqueFact) ||
      (first.payload.isTerminal && second.payload.isTerminal))

/-- Whether the unique indexes accept the batch, row by row, after the history. -/
def accepts (history : List Event) : List Event → Bool
  | [] => true
  | event :: rest =>
    !history.any (fun earlier => earlier.clash event) && accepts (history ++ [event]) rest

def columnAfter (state : SessionState) (batch : List Event) : SessionState :=
  batch.foldl Event.column state

end Workbench.Storage
