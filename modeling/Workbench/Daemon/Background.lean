import Workbench.Daemon.Handlers

/-!
# Daemon: background tasks

The continuations of a task at each of its points: activation, the provider stream,
the fake provider, workflow advancement and cancellation.
-/

namespace Workbench.Daemon

open Workbench.Core Config Storage Library Program

/-! ## Activation -/

/-- The prompt handed to the adapter; an empty text is refused. -/
def Job.providerPrompt (job : Job) : Except DaemonError ProviderPrompt :=
  match NonEmptyText.parse job.prompt with
  | .ok content => .ok { attempt := job.attempt, runtimeModel := job.runtimeModel, content }
  | .error _ => .error (.invalidRequest "prompt text must not be empty")

/-- The entry of an attempt that a provider runs. -/
def Job.execution (job : Job) : ActiveExecution := ⟨job.attempt, job.request, .provider, false⟩

/-- `activate_attempt` after `start_session`. -/
def afterStartSession (job : Job) (reply : Outcome) (result : Except ProviderFailure Unit) :
    App Progress := do
  match result with
  | .error failure =>
    recordProviderFailure job.request job.attempt failure
    replyWith reply
  | .ok () =>
    let prompt ← lift job.providerPrompt
    if job.kind = .subscriptionCli then
      perform [.activate job.execution, .spawn (.activate prompt)]
      replyWith reply
    else
      perform [.prompted prompt]
      pure (.waits (.promptStream job reply))

/-- `activate_attempt` after `prompt_stream`. -/
def afterPromptStream (job : Job) (reply : Outcome) (result : Except ProviderFailure Unit) :
    App Progress := do
  match result with
  | .error failure =>
    recordProviderFailure job.request job.attempt failure
    replyWith reply
  | .ok () =>
    perform [.activate job.execution, .spawn (.stream job.attempt)]
    replyWith reply

/-- The entry of this attempt, if it is the active one. -/
def activeForAttempt (attempt : Uuid) : App (Option ActiveExecution) :=
  read fun s => s.active.filter fun execution => execution.attempt == attempt

/-- Removes the entry if it is the one of this attempt. -/
def removeActiveAttempt (attempt : Uuid) : App Unit :=
  update fun s =>
    if s.active.any (fun execution => execution.attempt == attempt) then s.apply .deactivate else s

/-- The spawned activation task after `prompt_stream`. -/
def afterActivation (attempt : Uuid) (result : Except ProviderFailure Unit) : App Progress := do
  match result with
  | .ok () => pure (.waits (.stream attempt))
  | .error failure =>
    match ← activeForAttempt attempt with
    | none => pure .finished
    | some active =>
      let state ← currentSessionState
      if state = .cancelRequested then pure .finished
      else
        recordProviderFailure active.request attempt failure
        removeActiveAttempt attempt
        pure .finished

/-! ## The provider stream -/

/-- What a provider can report before it fails or ends. -/
inductive ProviderOutput where
  | acknowledged (providerRequestId : Option String)
  | content (eventType content : String)
  | tool (eventType content : String)
  | completed (summary : String)

inductive ProviderOutputState where
  | streaming
  | cancellationPending
  | terminal

def recordProviderOutput (active : ActiveExecution) (output : ProviderOutput) :
    App ProviderOutputState := do
  let event (payload : Payload) : Event := ⟨payload, some active.request, some active.attempt⟩
  match output with
  | .acknowledged providerRequestId =>
    append (event (.dispatchAcknowledged providerRequestId))
    pure .streaming
  | .content eventType content =>
    append (event (.providerEvent eventType content))
    pure .streaming
  | .tool eventType content =>
    append (event (.toolEvent eventType content))
    pure .streaming
  | .completed summary =>
    let state ← currentSessionState
    if state = .cancelRequested then pure .cancellationPending
    else
      let events ← history
      if (sessionWorkflowId events).isSome then pure .terminal
      else
        append (event (.sessionCompleted summary))
        pure .terminal

/-- An item of the stream that is not a failure. -/
def onStreamItem (attempt : Uuid) (output : ProviderOutput) : App Progress := do
  match ← activeForAttempt attempt with
  | none => pure .finished
  | some active =>
    match ← recordProviderOutput active output with
    | .terminal =>
      let events ← history
      let findings := attemptHasFindings events attempt
      removeActiveAttempt attempt
      -- only `completed` is terminal
      if (sessionWorkflowId events).isSome then
        pure (.waits (.advance active.request attempt findings))
      else pure .finished
    | _ => pure (.waits (.stream attempt))

def onStreamFailure (attempt : Uuid) (failure : ProviderFailure) : App Progress := do
  match ← activeForAttempt attempt with
  | none => pure .finished
  | some active =>
    let state ← currentSessionState
    if state = .cancelRequested then pure .finished
    else
      recordProviderFailure active.request attempt failure
      removeActiveAttempt attempt
      pure .finished

def streamEnded : ProviderFailure :=
  ⟨"provider stream ended without a definite terminal result", false⟩

def onStreamEnd (attempt : Uuid) : App Progress := do
  match ← activeForAttempt attempt with
  | none => pure .finished
  | some active =>
    let state ← currentSessionState
    if state = .running then
      recordProviderFailure active.request attempt streamEnded
      removeActiveAttempt attempt
      pure .finished
    else pure .finished

/-! ## The fake provider -/

def fakeContent (env : Environment) : String :=
  if env.fake.reportFindings then "deterministic fake provider response; " ++ findingsMarker
  else "deterministic fake provider response"

def finishFake (env : Environment) : App Progress := do
  match ← read (·.active) with
  | none => pure .finished
  | some active =>
    if !active.isFake then pure .finished
    else
      let events ← history
      let folded ← lift (foldSession events)
      if folded.state ≠ .running then pure .finished
      else
        append ⟨.providerEvent "message" (fakeContent env), some active.request,
          some active.attempt⟩
        perform [.deactivate]
        if (recoverRun events).isSome ∨ (sessionWorkflowId events).isSome then
          pure (.waits (.advance active.request active.attempt
            (contentHasFindings (fakeContent env))))
        else
          append ⟨.sessionCompleted "deterministic fake provider completed",
            some active.request, some active.attempt⟩
          pure .finished

/-! ## Workflow advancement -/

/-- Any illegal move of the run is an invalid transition. -/
def legalMove (move : Except CoreError (WorkflowRun × TransitionReason)) :
    Except DaemonError (WorkflowRun × TransitionReason) :=
  move.mapError fun _ => .invalidTransition

/-- `advance_workflow_after_attempt` from the session lock to its release. -/
def advanceWorkflow (request attempt : Uuid) (findings : Bool) : App Progress := do
  let events ← history
  let configuration ← sessionConfiguration
  match sessionWorkflowId events with
  | none =>
    append ⟨.sessionCompleted "workflow session missing workflow id", some request, some attempt⟩
    pure .finished
  | some workflowId =>
  match recoverRun events with
  | none => fail .storageUnavailable
  | some run =>
    if run.phase.isTerminal then pure .finished
    else
      match configuration.workflows.lookup workflowId with
      | none => fail (.invalidRequest "workflow is not configured")
      | some workflow =>
        let (run, reason) ← lift (legalMove (moveAfterAttempt workflow run findings))
        append ⟨.workflowTransition run reason, some request, some attempt⟩
        match reason with
        | .awaitingHuman =>
          let controlId ← read (·.nextId)
          append ⟨.pauseRequested controlId, some request, none⟩
          append ⟨.sessionPaused controlId, some request, none⟩
          pure .finished
        | .completed =>
          append ⟨.sessionCompleted "workflow completed", some request, some attempt⟩
          pure .finished
        | _ =>
          -- `dispatch_workflow_step` starts with this check
          if run.phase.permitsDispatch then pure (.waits (.dispatchStep request run))
          else pure .finished

/-- `dispatch_workflow_step` from the session lock to its release. -/
def dispatchWorkflowStep (env : Environment) (request : Uuid) (run : WorkflowRun) :
    App Progress := do
  let events ← history
  let fresh ← read (·.nextId)
  let configuration ← sessionConfiguration
  match ← lift (workflowRouteTarget configuration events (fresh + 1)) with
  | none => fail (.invalidRequest "workflow has no active step")
  | some target =>
    match ← lift (planRoute env.providerCatalog configuration none (some target.role)
        (some target.context)) with
    | .selected plan permission =>
      if permission = .denied then
        append ⟨.sessionFailed "workflow step denied by policy", some request, none⟩
        pure .finished
      else
        append ⟨.routingPlanned plan (some (enrichWorkflowRouting run)), some request, none⟩
        append ⟨.dispatchPlanned none, some request, some fresh⟩
        append ⟨.dispatchStarted, some request, some fresh⟩
        match configuration.providers.lookup plan.destination.provider.asStr with
        | none => fail .capabilityUnavailable
        | some provider =>
          pure (.waits (.launch
            { attempt := fresh, request, provider := plan.destination.provider
              kind := provider.kind, runtimeModel := plan.destination.runtimeModel
              prompt := workflowPrompt events }))
    | _ =>
      append ⟨.sessionFailed "workflow step could not be routed", some request, none⟩
      pure .finished

/-- The rest of `dispatch_workflow_step` up to `start_session`, without the session lock. -/
def launchAttempt (env : Environment) (job : Job) : App Progress := do
  if job.kind = .fake then
    perform [.activate ⟨job.attempt, job.request, .fake, false⟩, .spawn .fakeTimer]
    pure .finished
  else if env.adapter job.provider then pure (.waits (.launchStarted job))
  else
    recordProviderFailure job.request job.attempt adapterUnavailable
    pure .finished

/-- The rest of `dispatch_workflow_step` after `start_session`. -/
def afterLaunchStarted (job : Job) (result : Except ProviderFailure Unit) : App Progress := do
  match result with
  | .error failure =>
    recordProviderFailure job.request job.attempt failure
    pure .finished
  | .ok () =>
    let prompt ← lift job.providerPrompt
    perform [.activate job.execution, .spawn (.activate prompt)]
    pure .finished

/-! ## Cancellation -/

/-- The spawned task of `schedule_cancel_resolution` up to the adapter. -/
def startCancelResolution (env : Environment) (request control : Uuid) (attempt : Option Uuid) :
    App Progress := do
  match (← read (·.active)).filter (fun execution => attempt == some execution.attempt) with
  | some active =>
    if active.cancelStarted then pure .finished
    else if active.isFake then
      perform (.claimCancel ::
        if env.fake.confirmsCancellation then [.cancellationConfirmed active.attempt] else [])
      pure (.waits (.resolveCancel request control (some active.attempt)
        env.fake.confirmsCancellation "fake provider confirmed cancellation"))
    else
      perform [.claimCancel]
      pure (.waits (.cancelPending request control active.attempt))
  | none =>
    pure (.waits (.resolveCancel request control attempt false
      "provider cancellation could not be confirmed"))

/-- The same task after the adapter's `cancel`. -/
def afterAdapterCancel (request control attempt : Uuid) (confirmed : Bool) : App Progress := do
  perform (if confirmed then [.cancellationConfirmed attempt] else [])
  pure (.waits (.resolveCancel request control (some attempt) confirmed
    "provider confirmed cancellation"))

/-- The events that settle a cancellation. -/
def resolutionEvents (request control : Uuid) (attempt : Option Uuid) (confirmed : Bool)
    (summary : String) (fresh : Uuid) : List Event :=
  if confirmed then
    [⟨.cancelConfirmed control, some request, attempt⟩,
     ⟨.sessionCancelled summary, some request, attempt⟩]
  else
    [⟨.outcomeUnknown "cancellation confirmation deadline expired", some request,
      some (attempt.getD fresh)⟩]

def resolveCancel (request control : Uuid) (attempt : Option Uuid) (confirmed : Bool)
    (summary : String) : App Progress := do
  let events ← history
  let folded ← lift (foldSession events)
  if folded.state ≠ .cancelRequested then pure .finished
  else
    let fresh ← read (·.nextId)
    appendEvents (resolutionEvents request control attempt confirmed summary fresh)
    perform [.deactivate]
    pure .finished

end Workbench.Daemon
