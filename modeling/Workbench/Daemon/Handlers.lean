import Workbench.Daemon.Store

/-!
# Daemon: command handlers

Each handler as the source writes it, up to the point where it first waits for a
provider adapter or for a lock.  A handler runs under the session lock.  The ids it
draws with `Uuid::now_v7` are the next ids of the session.
-/

namespace Workbench.Daemon

open Workbench.Core Config Storage Library Program

/-! ## The environment -/

/-- How the offline fake provider behaves. -/
structure FakeBehavior where
  confirmsCancellation : Bool
  reportFindings : Bool

/-- What the application was started with. -/
structure Environment where
  providerCatalog : Table ProviderCapabilities
  /-- The providers that have an adapter. -/
  adapter : ProviderId → Bool
  fake : FakeBehavior

/-- A failure that an adapter reports; after a `definite` one nothing is still running. -/
structure ProviderFailure where
  userSafeMessage : String
  definite : Bool

/-- How a step of a task ends. -/
inductive Progress where
  | reply (outcome : Outcome)
  | finished
  | waits (point : Point)
  deriving DecidableEq

/-- Where the task goes on. -/
def Progress.next : Progress → Option Point
  | .waits point => some point
  | _ => none

/-! ## Shared steps -/

def replyWith (outcome : Outcome) : App Progress := do
  pure (.reply (← replayCommandOutcome outcome))

/-- `record_provider_failure`: a definite failure ends the session unless a cancellation is pending;
any other leaves the attempt uncertain. -/
def recordProviderFailure (request attempt : Uuid) (failure : ProviderFailure) : App Unit := do
  let state ← currentSessionState
  if failure.definite = true ∧ state ≠ .cancelRequested then
    append ⟨.sessionFailed failure.userSafeMessage, some request, some attempt⟩
  else
    append ⟨.outcomeUnknown failure.userSafeMessage, some request, some attempt⟩

def adapterUnavailable : ProviderFailure := ⟨"configured provider adapter is unavailable", true⟩

/-- The `dispatch_planned` and `dispatch_started` events of an attempt. -/
def dispatchEvents (request attempt : Uuid) (predecessor : Option Uuid) : List Event :=
  [⟨.dispatchPlanned predecessor, some request, some attempt⟩,
   ⟨.dispatchStarted, some request, some attempt⟩]

/-- `activate_attempt` up to `start_session`. -/
def activateAttempt (env : Environment) (request attempt : Uuid)
    (context : ProviderExecutionContext) (reply : Outcome) : App Progress := do
  let configuration ← sessionConfiguration
  match configuration.providers.lookup context.provider.asStr with
  | none => fail .capabilityUnavailable
  | some provider =>
    if provider.kind = .fake then
      perform [.activate ⟨attempt, request, .fake, false⟩, .spawn .fakeTimer]
      replyWith reply
    else if env.adapter context.provider then
      pure (.waits (.startSession
        { attempt, request, provider := context.provider, kind := provider.kind
          runtimeModel := context.runtimeModel, prompt := context.prompt } reply))
    else
      recordProviderFailure request attempt adapterUnavailable
      replyWith reply

/-! ## Prompt -/

/-- The events every prompt starts with. -/
def promptEvents (request inputId : Uuid) (text : String) (history : List Event)
    (target : Option WorkflowRouteTarget) : List Event :=
  ⟨.inputRecorded inputId text, some request, none⟩ ::
    match target with
    | some target =>
      if (recoverRun history).isNone then
        [⟨.workflowTransition target.run .started, some request, none⟩]
      else []
    | none => []

def handlePrompt (env : Environment) (request : Uuid) (text : String)
    (explicitTarget : Option String) : App Progress := do
  let command := Command.prompt text explicitTarget
  match ← cachedOutcome request command with
  | some outcome => replyWith outcome
  | none =>
    let events ← history
    let folded ← lift (foldSession events)
    if folded.state ≠ .ready then fail .invalidTransition
    else
      let inputId ← read (·.nextId)
      let outcome := Outcome.prompt inputId (folded.lastSequence + 1)
      let configuration ← sessionConfiguration
      let target ← lift (workflowRouteTarget configuration events (inputId + 1))
      let batch := promptEvents request inputId text events target
      match ← lift (planRoute env.providerCatalog configuration explicitTarget
          (target.map (·.role)) (target.map (·.context))) with
      | .capabilityUnavailable =>
        let (stored, _) ← commitCommandEvents request command
          (.durableFailure .capabilityUnavailable) batch
        replyWith stored
      | .clarification reason =>
        let question := "Which configured role should execute this prompt?"
        let (stored, _) ← commitCommandEvents request command outcome
          (batch ++ [⟨.clarificationRequested question reason, some request, none⟩])
        replyWith stored
      | .selected plan permission =>
        let batch := batch ++
          [⟨.routingPlanned plan (target.map (enrichWorkflowRouting ·.run)), some request, none⟩]
        if permission = .denied then
          let (stored, _) ← commitCommandEvents request command
            (.durableFailure .policyDenied) batch
          replyWith stored
        else if permission = .approvalRequired then
          let (stored, _) ← commitCommandEvents request command outcome
            (batch ++ [⟨.approvalRequested (inputId + 2), some request, none⟩])
          replyWith stored
        else
          let attempt := inputId + 2
          let (stored, replayed) ← commitCommandEvents request command outcome
            (batch ++ dispatchEvents request attempt none)
          if replayed then replyWith stored
          else
            let prompt := match latestRedirectInstruction events with
              | some instruction => text ++ "\n\nRedirect: " ++ instruction
              | none => text
            activateAttempt env request attempt
              ⟨plan.destination.provider, plan.destination.runtimeModel, prompt⟩ stored

/-! ## Pause, resume, redirect, cancel -/

/-- Records the pause of an unfinished run, checking neither the pause nor the append. -/
def recordRunPaused (request : Uuid) (events : List Event) : App Unit :=
  match recoverRun events with
  | none => pure ()
  | some run =>
    if run.phase.isTerminal then pure ()
    else
      ignoringErrors (append ⟨.workflowTransition run.pause.2 .paused, some request, none⟩)

@[simp] def pauseEvents (request control : Uuid) : List Event :=
  [⟨.pauseRequested control, some request, none⟩, ⟨.sessionPaused control, some request, none⟩]

def handlePause (request : Uuid) : App Progress := do
  match ← cachedOutcome request .pause with
  | some outcome => replyWith outcome
  | none =>
    let state ← currentSessionState
    if state = .paused ∨ state = .pausing then
      let outcome ← recordCommandOutcome request .pause (.control request .pause .paused)
      pure (.reply outcome)
    else if state ≠ .running then fail .invalidTransition
    else
      let active ← read (·.active)
      if active.any (fun execution => !execution.isFake) then fail .capabilityUnavailable
      else
        let controlId ← read (·.nextId)
        let (stored, _) ← commitCommandEvents request .pause (.control controlId .pause .paused)
          (pauseEvents request controlId)
        if ← read (·.workflowKnown) then
          let events ← history
          recordRunPaused request events
        replyWith stored

/-- The run that a resume continues: the last one, if a pause or the ceiling stopped it. -/
def stoppedRun (events : List Event) : Option WorkflowRun :=
  (recoverRun events).filter fun run =>
    run.phase == .paused || run.phase == .awaitingHuman

/-- The end of `handle_resume`: a fake execution goes on where the pause stopped it. -/
def resumeFake (stored : Outcome) : App Progress := do
  let active ← read (·.active)
  if active.any (·.isFake) then perform [.spawn .fakeTimer]
  pure (.reply stored)

def handleResume (request : Uuid) : App Progress := do
  match ← cachedOutcome request .resume with
  | some outcome => pure (.reply outcome)
  | none =>
    let state ← currentSessionState
    if state = .running then
      let outcome ← recordCommandOutcome request .resume (.control request .resume .running)
      pure (.reply outcome)
    else if state ≠ .paused then fail .invalidTransition
    else
      let controlId ← read (·.nextId)
      let (stored, replayed) ← commitCommandEvents request .resume
        (.control controlId .resume .running) [⟨.sessionResumed controlId, some request, none⟩]
      if replayed then pure (.reply stored)
      else if ← read (·.workflowKnown) then
        let events ← history
        match stoppedRun events with
        | none => resumeFake stored
        | some run =>
          let run := run.resume.2
          append ⟨.workflowTransition run .resumed, some request, none⟩
          let active ← read (·.active)
          if run.phase.permitsDispatch ∧ active.isNone then
            -- `dispatch_workflow_step` takes the session lock again
            pure (.waits (.relock request run stored))
          else resumeFake stored
      else resumeFake stored

def handleRedirect (request : Uuid) (instruction : String) : App Progress := do
  let command := Command.redirect instruction
  match ← cachedOutcome request command with
  | some outcome => pure (.reply outcome)
  | none =>
    let events ← history
    let folded ← lift (foldSession events)
    if folded.state ≠ .paused ∧ folded.state ≠ .awaitingClarification then
      fail .invalidTransition
    else
      let controlId ← read (·.nextId)
      let nextState := if folded.state = .awaitingClarification then .ready else .paused
      let (stored, _) ← commitCommandEvents request command
        (.control controlId .redirect nextState)
        [⟨.sessionRedirected controlId instruction, some request, none⟩]
      pure (.reply stored)

def refusesCancel : SessionState → Bool
  | .completed | .failed | .cancelled | .abandoned | .deleting => true
  | _ => false

/-- The control id of a stored outcome, as `uuid_field` reads it. -/
def controlIdOf : Outcome → Except DaemonError Uuid
  | .control controlId _ _ => .ok controlId
  | _ => .error .internal

/-- The events of a cancellation that has no attempt to cancel. -/
def cancelEvents (request controlId : Uuid) : List Event :=
  [⟨.cancelRequested controlId, some request, none⟩,
   ⟨.cancelConfirmed controlId, some request, none⟩,
   ⟨.sessionCancelled "cancelled before any external attempt started", some request, none⟩]

def handleCancel (request : Uuid) : App Progress := do
  match ← cachedOutcome request .cancel with
  | some outcome =>
    let events ← history
    let folded ← lift (foldSession events)
    if folded.state = .cancelRequested then
      let controlId ← lift (controlIdOf outcome)
      perform [.spawn (.cancelResolution request controlId (latestStartedAttempt events))]
    replyWith outcome
  | none =>
    let events ← history
    let folded ← lift (foldSession events)
    if refusesCancel folded.state then fail .invalidTransition
    else
      let controlId ← read (·.nextId)
      let active ← read (·.active)
      match (active.map (·.attempt)).or (latestStartedAttempt events) with
      | none =>
        let (stored, _) ← commitCommandEvents request .cancel
          (.control controlId .cancel .cancelled) (cancelEvents request controlId)
        replyWith stored
      | some attempt =>
        let (stored, replayed) ← commitCommandEvents request .cancel
          (.control controlId .cancel .cancelRequested)
          [⟨.cancelRequested controlId, some request, none⟩]
        if !replayed then
          perform [.spawn (.cancelResolution request controlId (some attempt))]
        replyWith stored

/-! ## Approval and reconciliation -/

def decisionState : ApprovalDecision → SessionState
  | .grant => .running
  | .deny => .paused

/-- The request that caused the last `dispatch_started`. -/
def lastStartCausation (events : List Event) : Option Uuid :=
  (events.reverse.find? Event.isStart).bind (·.causation)

/-- A repeated grant: activates the latest started attempt when nothing is active. -/
def replayGrant (env : Environment) (request : Uuid) (outcome : Outcome) : App Progress := do
  let events ← history
  let folded ← lift (foldSession events)
  let active ← read (·.active)
  match latestStartedAttempt events with
  | some attempt =>
    if folded.state = .running ∧ active.isNone then
      let causation := (lastStartCausation events).getD request
      let context ← lift (providerExecutionContext events causation)
      activateAttempt env causation attempt context outcome
    else replyWith outcome
  | none => replyWith outcome

def handleApproval (env : Environment) (request approvalId : Uuid) (decision : ApprovalDecision) :
    App Progress := do
  let command := Command.approvalResolve approvalId decision
  match ← cachedOutcome request command with
  | some outcome =>
    if decision = .grant then replayGrant env request outcome else replyWith outcome
  | none =>
    let events ← history
    let folded ← lift (foldSession events)
    match folded.approvalDecisions.lookup approvalId with
    | some recorded =>
      if recorded ≠ decision then fail .invalidTransition
      else
        let outcome ← recordCommandOutcome request command
          (.approval approvalId decision (decisionState recorded))
        pure (.reply outcome)
    | none =>
      if folded.state ≠ .awaitingApproval ∨ folded.pendingApprovalId ≠ some approvalId then
        fail .invalidTransition
      else
        let outcome := Outcome.approval approvalId decision (decisionState decision)
        let recorded : Event := ⟨.approvalRecorded approvalId decision, some request, none⟩
        let fresh ← read (·.nextId)
        match decision with
        | .grant =>
          let causation := folded.pendingRequestId.getD request
          let (stored, replayed) ← commitCommandEvents request command outcome
            (recorded :: dispatchEvents causation fresh none)
          if replayed then replyWith stored
          else
            let events ← history
            let context ← lift (providerExecutionContext events causation)
            activateAttempt env causation fresh context stored
        | .deny =>
          let (stored, _) ← commitCommandEvents request command outcome
            [recorded, ⟨.sessionPaused fresh, some request, none⟩]
          replyWith stored

def resolutionState : ReconciliationResolution → SessionState
  | .retry => .running
  | .acceptResult => .completed
  | .abandon => .abandoned

def handleReconcile (env : Environment) (request attempt : Uuid)
    (resolution : ReconciliationResolution) (evidence : Option String) : App Progress := do
  let command := Command.reconcile attempt resolution evidence
  match ← cachedOutcome request command with
  | some outcome => replyWith outcome
  | none =>
    let events ← history
    let folded ← lift (foldSession events)
    if folded.state ≠ .outcomeUnknown ∨ folded.uncertainAttemptId ≠ some attempt then
      fail .invalidTransition
    else
      let fresh ← read (·.nextId)
      let replacement := if resolution = .retry then some fresh else none
      let outcome := Outcome.reconciliation attempt resolution replacement
        (resolutionState resolution)
      let reconciled : Event :=
        ⟨.outcomeReconciled resolution replacement, some request, some attempt⟩
      match resolution with
      | .retry =>
        let (stored, replayed) ← commitCommandEvents request command outcome
          (reconciled :: dispatchEvents request fresh (some attempt))
        if replayed then replyWith stored
        else
          let events ← history
          let context ← lift (providerExecutionContext events request)
          activateAttempt env request fresh context stored
      | .acceptResult =>
        let (stored, _) ← commitCommandEvents request command outcome
          [reconciled,
           ⟨.sessionCompleted "result accepted by human reconciliation", some request,
             some attempt⟩]
        replyWith stored
      | .abandon =>
        let (stored, _) ← commitCommandEvents request command outcome
          [reconciled,
           ⟨.sessionAbandoned "execution abandoned by human reconciliation", some request,
             some attempt⟩]
        replyWith stored

/-! ## Export -/

/-- Writes or publishes the bundle and records the stage; file operations fail as the call does. -/
def reachStage (exportId : Uuid) (stage : ExportStage) : App Unit :=
  invoke .storageUnavailable fun s =>
    if s.key then .ok ((), s.apply (.stageExport exportId stage)) else .error .keyStoreUnavailable

/-- Whether the journal row of this export says that the bundle is in place. -/
def Session.isPublished (s : Session) (exportId : Uuid) : Bool :=
  s.exports.any fun journal => journal.exportId == exportId && journal.stage == .published

/-- `commit_export_command`: the event, the outcome and the end of the journal, or only the latter
when the outcome is there. -/
def commitExport (journal : ExportJournal) : App Outcome :=
  invoke .storageUnavailable fun s => do
    let event : Event := ⟨.sessionExported journal.exportId, some journal.request, none⟩
    let outcome := Outcome.exported journal.exportId
    s.admits [event]
    if !s.isPublished journal.exportId then .error .storageUnavailable
    else
      match ← s.recorded journal.request journal.command with
      | some stored => pure (stored, s.apply (.closeExport journal.exportId))
      | none =>
        pure (outcome, s.after
          [.commit [event] (some ⟨journal.request, journal.command, outcome⟩),
           .closeExport journal.exportId])

/-- `advance_export` from the stage the journal is in. -/
def advanceExport (journal : ExportJournal) : App Outcome := do
  match journal.stage with
  | .prepared =>
    reachStage journal.exportId .staged
    reachStage journal.exportId .published
  | .staged => reachStage journal.exportId .published
  | .published => pure ()
  commitExport journal

/-- The journal of this request, or a new one. -/
def loadOrCreateExportJournal (request : Uuid) (command : Command) (exportId : Uuid) :
    App ExportJournal :=
  invoke .storageUnavailable fun s =>
    match s.exports.find? (fun journal => journal.request == request) with
    | some journal =>
      if !s.key then .error .keyStoreUnavailable
      else if journal.command = command then .ok (journal, s)
      else .error (.invalidRequest "storage rejected the command")
    | none =>
      match s.row with
      | none => .error .sessionNotFound
      | some state =>
        if state = .deleting ∨ s.deletion.isSome then
          .error (.invalidRequest "storage rejected the command")
        else if !s.key then .error .keyStoreUnavailable
        else
          let journal : ExportJournal := ⟨exportId, request, command, .prepared⟩
          .ok (journal, s.apply (.journalExport journal))

def handleExport (request : Uuid) (command : Command) : App Progress := do
  match ← cachedOutcome request command with
  | some outcome => pure (.reply outcome)
  | none =>
    let events ← history
    let _ ← lift (foldSession events)
    let exportId ← read (·.nextId)
    let journal ← loadOrCreateExportJournal request command exportId
    let outcome ← advanceExport journal
    pure (.reply outcome)

/-! ## Deletion -/

def ensureNoPendingExport : App Unit :=
  invoke .storageUnavailable fun s =>
    if s.exports.isEmpty then .ok ((), s)
    else .error (.invalidRequest "storage rejected the command")

/-- The transaction that ends a deletion. -/
def buryRows : App Uuid :=
  invoke .storageUnavailable fun s =>
    match s.deletion with
    | none => .error .sessionNotFound
    | some journal => .ok (journal.deletionId, s.apply (.finishDeletion journal))

def destroySessionKey : App Unit :=
  invoke .keyStoreUnavailable fun s => .ok ((), s.apply .destroyKey)

def deletionJournal : App DeletionJournal :=
  invoke .storageUnavailable fun s =>
    match s.deletion with
    | some journal => .ok (journal, s)
    | none => .error .sessionNotFound

def finishDeletion : App Uuid := do
  ensureNoPendingExport
  let _ ← deletionJournal
  destroySessionKey
  buryRows

/-- The states from which the store starts or goes on with a deletion. -/
def deletableColumn : SessionState → Bool
  | .completed | .failed | .cancelled | .abandoned | .deleting => true
  | _ => false

/-- The four definite results. -/
def isFinal : SessionState → Bool
  | .completed | .failed | .cancelled | .abandoned => true
  | _ => false

/-- Opens the deletion journal with the event and the column in one transaction. -/
def openDeletion (journal : DeletionJournal) : App Unit :=
  invoke .storageUnavailable fun s =>
    if !s.key then .error .keyStoreUnavailable
    else .ok ((), s.apply (.requestDeletion journal))

def requestDeletion (deletionId request : Uuid) : App Uuid := do
  match ← read (·.tombstone) with
  | some tombstone =>
    if tombstone.request = request then pure tombstone.deletionId
    else fail .sessionNotFound
  | none =>
    ensureNoPendingExport
    let state ← currentSessionState
    if !deletableColumn state then fail (.invalidRequest "storage rejected the command")
    else
      match ← read (·.deletion) with
      | some journal =>
        if journal.request ≠ request then
          fail (.invalidRequest "storage rejected the command")
        else finishDeletion
      | none =>
        openDeletion ⟨deletionId, request⟩
        finishDeletion

def handleDelete (request : Uuid) (confirmed : Bool) : App Progress := do
  if !confirmed then fail (.invalidRequest "delete confirmation does not match session")
  else
    match ← cachedOutcome request (.delete confirmed) with
    | some outcome => pure (.reply outcome)
    | none =>
      let events ← history
      let folded ← lift (foldSession events)
      if !isFinal folded.state then fail .invalidTransition
      else
        let fresh ← read (·.nextId)
        ensureNoPendingExport
        let deletionId ← requestDeletion fresh request
        perform [.deactivate, .evict]
        pure (.reply (.deleted deletionId))

/-- `dispatch_session`, for the methods that change something. -/
def dispatchSession (env : Environment) (request : Uuid) : Command → App Progress
  | .prompt text explicitTarget => handlePrompt env request text explicitTarget
  | .pause => handlePause request
  | .resume => handleResume request
  | .redirect instruction => handleRedirect request instruction
  | .cancel => handleCancel request
  | .approvalResolve approvalId decision => handleApproval env request approvalId decision
  | .reconcile attempt resolution evidence =>
    handleReconcile env request attempt resolution evidence
  | .exportBundle outputPath ageRecipients =>
    handleExport request (.exportBundle outputPath ageRecipients)
  | .delete confirmed => handleDelete request confirmed

end Workbench.Daemon
