import Workbench.Core.Value

/-!
# Core: session states and the domain transition function

The lifecycle of a session as the domain defines it: `transition` accepts an event
in the states where it is legal and rejects it everywhere else.  An event payload
is kept here down to what `transition` reads, which is its kind, the decision of
an approval and the resolution of a reconciliation.
-/

namespace Workbench.Core

/-- Folded state of one durable session. -/
inductive SessionState where
  | ready
  | running
  | pausing
  | paused
  | awaitingClarification
  | awaitingApproval
  | cancelRequested
  | outcomeUnknown
  | completed
  | failed
  | cancelled
  | abandoned
  | deleting
  | deleted
  deriving DecidableEq

/-- Whether this state has a definite terminal outcome. -/
def SessionState.isTerminal : SessionState → Bool
  | .completed | .failed | .cancelled | .abandoned | .deleted => true
  | _ => false

/-- A human approval decision. -/
inductive ApprovalDecision where
  | grant
  | deny
  deriving DecidableEq

/-- How a human resolved an uncertain attempt. -/
inductive ReconciliationResolution where
  | retry
  | acceptResult
  | abandon
  deriving DecidableEq

/-- The event model of the domain. -/
inductive EventPayload where
  | sessionCreated
  | configurationResolved
  | inputRecorded
  | routingPlanned
  | clarificationRequested
  | approvalRequested
  | approvalRecorded (decision : ApprovalDecision)
  | dispatchPlanned
  | dispatchStarted
  | dispatchAcknowledged
  | providerEvent
  | toolEvent
  | pauseRequested
  | sessionPaused
  | sessionResumed
  | sessionRedirected
  | cancelRequested
  | cancelConfirmed
  | outcomeUnknown
  | outcomeReconciled (resolution : ReconciliationResolution)
  | sessionCompleted
  | sessionFailed
  | sessionCancelled
  | sessionAbandoned
  | sessionExported
  | sessionDeletionRequested
  | sessionDeleted
  | workflowTransition
  deriving DecidableEq

/-- Events that are legal in a state and leave it as it is. -/
def isNonTransitioning : SessionState → EventPayload → Bool
  | .ready, .configurationResolved | .ready, .inputRecorded | .ready, .routingPlanned
  | .ready, .dispatchPlanned | .ready, .workflowTransition => true
  | .running, .dispatchPlanned | .running, .dispatchAcknowledged | .running, .providerEvent
  | .running, .toolEvent | .running, .workflowTransition | .running, .routingPlanned
  | .running, .inputRecorded => true
  | .paused, .workflowTransition => true
  | state, .sessionExported => state != .deleted
  | _, _ => false

/-- The error of every illegal session transition. -/
def illegalTransition : CoreError :=
  ⟨.invalidTransition, "session transition is not allowed"⟩

/-- The state after an event, or the error that it is illegal here. -/
def transition : Option SessionState → EventPayload → Except CoreError SessionState
  | none, .sessionCreated => .ok .ready
  | none, _ => .error illegalTransition
  | some state, payload =>
    match state, payload with
    | .ready, .dispatchStarted | .running, .dispatchStarted => .ok .running
    | .ready, .clarificationRequested => .ok .awaitingClarification
    | .ready, .approvalRequested | .running, .approvalRequested => .ok .awaitingApproval
    | .awaitingApproval, .approvalRecorded .grant => .ok .running
    | .awaitingApproval, .approvalRecorded .deny => .ok .paused
    | .running, .pauseRequested => .ok .pausing
    | .pausing, .sessionPaused => .ok .paused
    | .paused, .sessionResumed => .ok .running
    | .paused, .sessionRedirected => .ok .paused
    | .awaitingClarification, .sessionRedirected => .ok .ready
    | .ready, .cancelRequested | .running, .cancelRequested | .pausing, .cancelRequested
    | .paused, .cancelRequested | .awaitingClarification, .cancelRequested
    | .awaitingApproval, .cancelRequested => .ok .cancelRequested
    | .cancelRequested, .cancelConfirmed => .ok .cancelRequested
    | .cancelRequested, .sessionCancelled => .ok .cancelled
    | .running, .outcomeUnknown | .cancelRequested, .outcomeUnknown => .ok .outcomeUnknown
    | .outcomeUnknown, .outcomeReconciled .retry => .ok .running
    | .outcomeUnknown, .outcomeReconciled .acceptResult => .ok .completed
    | .outcomeUnknown, .outcomeReconciled .abandon => .ok .abandoned
    | .running, .sessionCompleted => .ok .completed
    | .running, .sessionFailed => .ok .failed
    | .outcomeUnknown, .sessionAbandoned => .ok .abandoned
    | .completed, .sessionDeletionRequested | .failed, .sessionDeletionRequested
    | .cancelled, .sessionDeletionRequested | .abandoned, .sessionDeletionRequested =>
      .ok .deleting
    | .deleting, .sessionDeleted => .ok .deleted
    | state, payload =>
      if isNonTransitioning state payload then .ok state else .error illegalTransition

end Workbench.Core
