import Workbench.Daemon.System

/-!
# Daemon: what one step of a task can do

`Plan env s point response effects next` lists every way in which a task can go on from a
point: the changes it makes to the session and the point where it waits next.  A step that
a storage failure cuts short has a plan of its own.  By `resume_plan` every step of a task
follows a plan, so a property of all steps is a case analysis over the plans.
-/

namespace Workbench.Daemon

open Workbench.Core Config Storage Library Program

/-- The event of a provider failure, given the column. -/
def failureEvent (state : SessionState) (request attempt : Uuid) (failure : ProviderFailure) :
    Event :=
  if failure.definite = true ∧ state ≠ .cancelRequested then
    ⟨.sessionFailed failure.userSafeMessage, some request, some attempt⟩
  else ⟨.outcomeUnknown failure.userSafeMessage, some request, some attempt⟩

variable (request approvalId : Uuid) in
/-- What a prompt appends after its input and the start of its run. -/
inductive PromptTail : List Event → Prop where
  | unavailable : PromptTail []
  | clarification (question reason : String) :
      PromptTail [⟨.clarificationRequested question reason, some request, none⟩]
  | denied (plan : RoutingPlan) (workflow : Option WorkflowRouting) :
      PromptTail [⟨.routingPlanned plan workflow, some request, none⟩]
  | approval (plan : RoutingPlan) (workflow : Option WorkflowRouting) :
      PromptTail
        [⟨.routingPlanned plan workflow, some request, none⟩,
         ⟨.approvalRequested approvalId, some request, none⟩]

variable (s : Session) (request attempt : Uuid) in
/-- What `activate_attempt` can do with an attempt of session `s`. -/
inductive Activation : List Effect → Option Point → Prop where
  | refused : Activation [] none
  | fake : Activation [.activate ⟨attempt, request, .fake, false⟩, .spawn .fakeTimer] none
  | start (job : Job) (reply : Outcome) (hattempt : job.attempt = attempt) :
      Activation [] (some (.startSession job reply))
  | unavailable (state : SessionState) (hrow : s.row = some state) :
      Activation [.commit [failureEvent state request attempt adapterUnavailable] none] none

variable (commands : Command → Prop) in
/-- A change that belongs to an export of one of the given commands. -/
inductive ExportEffect : Effect → Prop where
  | journal (journal : ExportJournal) (hcommand : commands journal.command) :
      ExportEffect (.journalExport journal)
  | stage (exportId : Uuid) (stage : ExportStage) : ExportEffect (.stageExport exportId stage)
  | close (exportId : Uuid) : ExportEffect (.closeExport exportId)
  | record (exportId request : Uuid) (command : Command) (hcommand : commands command) :
      ExportEffect (.commit [⟨.sessionExported exportId, some request, none⟩]
        (some ⟨request, command, .exported exportId⟩))

/-- The commands whose exports are unfinished. -/
def Session.exporting (s : Session) (command : Command) : Prop :=
  ∃ journal ∈ s.exports, journal.command = command

/-- What a deletion can do, up to where it was cut short. -/
inductive Deletion (s : Session) : List Effect → Prop where
  | opened (journal : DeletionJournal) (column : SessionState) (cut : Nat)
      (hrow : s.row = some column) (hcolumn : deletableColumn column)
      (hnone : s.deletion = none) :
      Deletion s ([.requestDeletion journal, .destroyKey, .finishDeletion journal, .deactivate,
        .evict].take cut)
  | continued (journal : DeletionJournal) (cut : Nat) (hsome : s.deletion = some journal) :
      Deletion s ([.destroyKey, .finishDeletion journal, .deactivate, .evict].take cut)
  | repeated (hburied : s.tombstone.isSome) : Deletion s [.deactivate, .evict]

def Session.configuredWorkflow (s : Session) : Option Workflow :=
  (sessionWorkflowId s.events).bind fun workflowId => s.configuration.workflows.lookup workflowId

def Session.FoldsTo (s : Session) (state : SessionState) : Prop :=
  ∃ folded, foldSession s.events = .ok folded ∧ folded.state = state

instance (s : Session) (state : SessionState) : Decidable (s.FoldsTo state) :=
  match h : foldSession s.events with
  | .ok folded =>
    decidable_of_iff (folded.state = state)
      ⟨fun heq => ⟨folded, h, heq⟩,
        fun ⟨_, hfold, heq⟩ => by rw [h] at hfold; cases hfold; exact heq⟩
  | .error _ => isFalse fun ⟨_, hfold, _⟩ => by rw [h] at hfold; cases hfold

/-- The history folds to a session that waits for this approval. -/
structure Session.Awaits (s : Session) (approvalId : Uuid) (folded : FoldedSession) : Prop where
  fold : foldSession s.events = .ok folded
  state : folded.state = .awaitingApproval
  pending : folded.pendingApprovalId = some approvalId
  undecided : folded.approvalDecisions.lookup approvalId = none

/-- What became of this attempt is unknown. -/
def Session.Uncertain (s : Session) (attempt : Uuid) : Prop :=
  ∃ folded, foldSession s.events = .ok folded ∧ folded.state = .outcomeUnknown ∧
    folded.uncertainAttemptId = some attempt

/-- An attempt is under way and nobody has asked to cancel it. -/
structure Session.Works (s : Session) (active : ActiveExecution) (state : SessionState) :
    Prop where
  active : s.active = some active
  row : s.row = some state
  uncancelled : state ≠ .cancelRequested

/-- The events of a grant, which starts the attempt with the next id. -/
@[simp] def Session.grantEvents (s : Session) (request approvalId : Uuid) (folded : FoldedSession) :
    List Event :=
  ⟨.approvalRecorded approvalId .grant, some request, none⟩ ::
    dispatchEvents (folded.pendingRequestId.getD request) s.nextId none

/-- The events of a retry, which starts the attempt with the next id. -/
@[simp] def Session.retryEvents (s : Session) (request attempt : Uuid) : List Event :=
  ⟨.outcomeReconciled .retry (some s.nextId), some request, some attempt⟩ ::
    dispatchEvents request s.nextId (some attempt)

/-- The events of one step, a transaction each, up to where it was cut short. -/
def eachAlone (events : List Event) (cut : Nat) : List Effect :=
  (events.map fun event => Effect.commit [event] none).take cut

/-- The events of a run that was sent to a human. -/
def ceilingEvents (run : WorkflowRun) (request attempt control : Uuid) : List Event :=
  ⟨.workflowTransition run .awaitingHuman, some request, some attempt⟩ ::
    pauseEvents request control

def completionEvents (run : WorkflowRun) (request attempt : Uuid) : List Event :=
  [⟨.workflowTransition run .completed, some request, some attempt⟩,
   ⟨.sessionCompleted "workflow completed", some request, some attempt⟩]

def stepEvents (plan : RoutingPlan) (run : WorkflowRun) (request attempt : Uuid) : List Event :=
  ⟨.routingPlanned plan (some (enrichWorkflowRouting run)), some request, none⟩ ::
    dispatchEvents request attempt none

variable (request attempt : Uuid) in
/-- An event that reports progress of an attempt. -/
inductive ProgressEvent : Event → Prop where
  | acknowledged (providerRequestId : Option String) :
      ProgressEvent ⟨.dispatchAcknowledged providerRequestId, some request, some attempt⟩
  | content (eventType content : String) :
      ProgressEvent ⟨.providerEvent eventType content, some request, some attempt⟩
  | tool (eventType content : String) :
      ProgressEvent ⟨.toolEvent eventType content, some request, some attempt⟩

variable (s : Session) (request : Uuid) in
/-- What a command commits first, with its outcome. -/
inductive CommandCommit : Command → List Event → Outcome → Prop where
  | outcome (command : Command) (outcome : Outcome)
      (hcommand : ∀ approvalId decision, command ≠ .approvalResolve approvalId decision) :
      CommandCommit command [] outcome
  | decidedAgain (approvalId : Uuid) (decision : ApprovalDecision) (folded : FoldedSession)
      (hfold : foldSession s.events = .ok folded)
      (hdecided : folded.approvalDecisions.lookup approvalId = some decision) :
      CommandCommit (.approvalResolve approvalId decision) []
        (.approval approvalId decision (decisionState decision))
  | prompt (text : String) (explicitTarget : Option String) (outcome : Outcome)
      (target : Option WorkflowRouteTarget) (tail : List Event) (hfold : s.FoldsTo .ready)
      (htail : PromptTail request (s.nextId + 2) tail) :
      CommandCommit (.prompt text explicitTarget)
        (promptEvents request s.nextId text s.events target ++ tail) outcome
  | pause (outcome : Outcome) (hrow : s.row = some .running) (hactive : s.active.all (·.isFake)) :
      CommandCommit .pause (pauseEvents request s.nextId) outcome
  | resume (outcome : Outcome) (hrow : s.row = some .paused) :
      CommandCommit .resume [⟨.sessionResumed s.nextId, some request, none⟩] outcome
  | redirect (instruction : String) (outcome : Outcome)
      (hfold : s.FoldsTo .paused ∨ s.FoldsTo .awaitingClarification) :
      CommandCommit (.redirect instruction)
        [⟨.sessionRedirected s.nextId instruction, some request, none⟩] outcome
  | cancelNow (outcome : Outcome) (state : SessionState) (hfold : s.FoldsTo state)
      (haccepted : refusesCancel state = false) (hactive : s.active = none)
      (hlatest : latestStartedAttempt s.events = none) :
      CommandCommit .cancel (cancelEvents request s.nextId) outcome
  | cancelAttempt (outcome : Outcome) (state : SessionState) (attempt : Uuid)
      (hfold : s.FoldsTo state) (haccepted : refusesCancel state = false)
      (hattempt : (s.active.map (·.attempt)).or (latestStartedAttempt s.events) = some attempt) :
      CommandCommit .cancel [⟨.cancelRequested s.nextId, some request, none⟩] outcome
  | grant (approvalId : Uuid) (folded : FoldedSession) (hawaits : s.Awaits approvalId folded) :
      CommandCommit (.approvalResolve approvalId .grant) (s.grantEvents request approvalId folded)
        (.approval approvalId .grant (decisionState .grant))
  | deny (approvalId : Uuid) (folded : FoldedSession) (hawaits : s.Awaits approvalId folded) :
      CommandCommit (.approvalResolve approvalId .deny)
        [⟨.approvalRecorded approvalId .deny, some request, none⟩,
         ⟨.sessionPaused s.nextId, some request, none⟩]
        (.approval approvalId .deny (decisionState .deny))
  | retry (attempt : Uuid) (evidence : Option String) (outcome : Outcome)
      (huncertain : s.Uncertain attempt) :
      CommandCommit (.reconcile attempt .retry evidence) (s.retryEvents request attempt) outcome
  | acceptResult (attempt : Uuid) (evidence : Option String) (outcome : Outcome) (summary : String)
      (huncertain : s.Uncertain attempt) :
      CommandCommit (.reconcile attempt .acceptResult evidence)
        [⟨.outcomeReconciled .acceptResult none, some request, some attempt⟩,
         ⟨.sessionCompleted summary, some request, some attempt⟩] outcome
  | abandon (attempt : Uuid) (evidence : Option String) (outcome : Outcome) (summary : String)
      (huncertain : s.Uncertain attempt) :
      CommandCommit (.reconcile attempt .abandon evidence)
        [⟨.outcomeReconciled .abandon none, some request, some attempt⟩,
         ⟨.sessionAbandoned summary, some request, some attempt⟩] outcome

variable (s : Session) (request : Uuid) in
/-- What a command appends before it activates an attempt. -/
inductive Activated : Command → Uuid → Uuid → List Event → Prop where
  | grant (approvalId : Uuid) (folded : FoldedSession) (hawaits : s.Awaits approvalId folded) :
      Activated (.approvalResolve approvalId .grant)
        (folded.pendingRequestId.getD request) s.nextId (s.grantEvents request approvalId folded)
  | retry (attempt : Uuid) (evidence : Option String) (huncertain : s.Uncertain attempt) :
      Activated (.reconcile attempt .retry evidence) request s.nextId
        (s.retryEvents request attempt)
  | replay (approvalId causation attempt : Uuid) (outcome : Outcome)
      (hrecorded : s.recorded request (.approvalResolve approvalId .grant) = .ok (some outcome))
      (hfold : s.FoldsTo .running) (hlatest : latestStartedAttempt s.events = some attempt)
      (hactive : s.active = none) :
      Activated (.approvalResolve approvalId .grant) causation attempt []

variable (s : Session) (request : Uuid) in
/-- The ways in which a client command can end, up to its first wait. -/
inductive CommandPlan : Command → List Effect → Option Point → Prop where
  | quiet (command : Command) : CommandPlan command [] none
  | commits (command : Command) (batch : List Event) (outcome : Outcome)
      (hnone : s.recorded request command = .ok none)
      (hcommit : CommandCommit s request command batch outcome) :
      CommandPlan command [.commit batch (some ⟨request, command, outcome⟩)] none
  | pauseRun (outcome : Outcome) (run : WorkflowRun) (hrow : s.row = some .running)
      (hactive : s.active.all (·.isFake)) :
      CommandPlan .pause
        [.commit (pauseEvents request s.nextId) (some ⟨request, .pause, outcome⟩),
         .commit [⟨.workflowTransition run .paused, some request, none⟩] none] none
  | resumeFake (outcome : Outcome) (hrow : s.row = some .paused) :
      CommandPlan .resume
        [.commit [⟨.sessionResumed s.nextId, some request, none⟩]
          (some ⟨request, .resume, outcome⟩), .spawn .fakeTimer] none
  | resumeRun (outcome : Outcome) (run : WorkflowRun) (rest : List Effect)
      (hrow : s.row = some .paused) (hrest : rest = [] ∨ rest = [.spawn .fakeTimer]) :
      CommandPlan .resume
        (.commit [⟨.sessionResumed s.nextId, some request, none⟩]
            (some ⟨request, .resume, outcome⟩) ::
          .commit [⟨.workflowTransition run .resumed, some request, none⟩] none :: rest) none
  | relock (outcome reply : Outcome) (run : WorkflowRun)
      (hnone : s.recorded request .resume = .ok none) (hrow : s.row = some .paused)
      (hknown : s.workflowKnown) (hrun : (stoppedRun s.events).isSome)
      (hactive : s.active = none) :
      CommandPlan .resume
        [.commit [⟨.sessionResumed s.nextId, some request, none⟩]
            (some ⟨request, .resume, outcome⟩),
         .commit [⟨.workflowTransition run .resumed, some request, none⟩] none]
        (some (.relock request run reply))
  | cancelReplay (control : Uuid) (hfold : s.FoldsTo .cancelRequested) :
      CommandPlan .cancel
        [.spawn (.cancelResolution request control (latestStartedAttempt s.events))] none
  | cancelAttempt (outcome : Outcome) (state : SessionState) (attempt : Uuid)
      (hfold : s.FoldsTo state) (haccepted : refusesCancel state = false)
      (hattempt : (s.active.map (·.attempt)).or (latestStartedAttempt s.events) = some attempt) :
      CommandPlan .cancel
        [.commit [⟨.cancelRequested s.nextId, some request, none⟩]
            (some ⟨request, .cancel, outcome⟩),
         .spawn (.cancelResolution request s.nextId (some attempt))] none
  | activates (command : Command) (batch : List Event) (outcome : Outcome) (causation : Uuid)
      (rest : List Effect) (next : Option Point)
      (hnone : s.recorded request command = .ok none)
      (hcommit : CommandCommit s request command batch outcome)
      (hactivated : Activated s request command causation s.nextId batch)
      (hrest : Activation (s.apply (.commit batch (some ⟨request, command, outcome⟩))) causation
        s.nextId rest next) :
      CommandPlan command (.commit batch (some ⟨request, command, outcome⟩) :: rest) next
  | replayGrant (approvalId causation attempt : Uuid) (outcome : Outcome) (effects : List Effect)
      (next : Option Point)
      (hrecorded : s.recorded request (.approvalResolve approvalId .grant) = .ok (some outcome))
      (hfold : s.FoldsTo .running) (hlatest : latestStartedAttempt s.events = some attempt)
      (hactive : s.active = none) (heffects : Activation s causation attempt effects next) :
      CommandPlan (.approvalResolve approvalId .grant) effects next
  | exportBundle (outputPath : String) (ageRecipients : List String) (effects : List Effect)
      (heffects : ∀ effect ∈ effects,
        ExportEffect (· = .exportBundle outputPath ageRecipients) effect) :
      CommandPlan (.exportBundle outputPath ageRecipients) effects none
  | delete (confirmed : Bool) (state : SessionState) (effects : List Effect)
      (hfold : s.FoldsTo state) (hfinal : isFinal state) (heffects : Deletion s effects) :
      CommandPlan (.delete confirmed) effects none

/-- Where a provider fails, for what, at which column, and what the step does then. -/
inductive Failing (s : Session) :
    Point → Response → Uuid → Uuid → SessionState → ProviderFailure → List Effect → Prop where
  | start (job : Job) (reply : Outcome) (failure : ProviderFailure) (state : SessionState)
      (hrow : s.row = some state) :
      Failing s (.startSession job reply) (.sessionStarted (.error failure))
        job.request job.attempt state failure []
  | openStream (job : Job) (reply : Outcome) (failure : ProviderFailure) (state : SessionState)
      (hrow : s.row = some state) :
      Failing s (.promptStream job reply) (.streamOpened (.error failure))
        job.request job.attempt state failure []
  | activating (active : ActiveExecution) (failure : ProviderFailure) (state : SessionState)
      (hworks : s.Works active state) :
      Failing s (.activating active.attempt) (.streamOpened (.error failure))
        active.request active.attempt state failure [.deactivate]
  | stream (active : ActiveExecution) (failure : ProviderFailure) (state : SessionState)
      (hworks : s.Works active state) :
      Failing s (.stream active.attempt) (.streamFailed failure)
        active.request active.attempt state failure [.deactivate]
  | streamEnd (active : ActiveExecution) (hactive : s.active = some active)
      (hrow : s.row = some .running) :
      Failing s (.stream active.attempt) .streamEnded
        active.request active.attempt .running streamEnded [.deactivate]
  | launch (job : Job) (state : SessionState) (hrow : s.row = some state) :
      Failing s (.launch job) .proceed job.request job.attempt state adapterUnavailable []
  | launchStart (job : Job) (failure : ProviderFailure) (state : SessionState)
      (hrow : s.row = some state) :
      Failing s (.launchStarted job) (.sessionStarted (.error failure))
        job.request job.attempt state failure []

variable (env : Environment) (s : Session) in
/-- The ways in which a task can go on. -/
inductive Plan : Point → Response → List Effect → Option Point → Prop where
  | quiet (point : Point) (response : Response) : Plan point response [] none
  | command (request : Uuid) (command : Command) (effects : List Effect) (next : Option Point)
      (hplan : CommandPlan s request command effects next) :
      Plan (.command request command) .proceed effects next
  | failed (point : Point) (response : Response) (request attempt : Uuid) (state : SessionState)
      (failure : ProviderFailure) (rest : List Effect)
      (hfailing : Failing s point response request attempt state failure rest) :
      Plan point response (.commit [failureEvent state request attempt failure] none :: rest) none
  -- activation under the session lock
  | startedCli (job : Job) (reply : Outcome) (prompt : ProviderPrompt)
      (hattempt : prompt.attempt = job.attempt) :
      Plan (.startSession job reply) (.sessionStarted (.ok ()))
        [.activate job.execution, .spawn (.activate prompt)] none
  | startedStream (job : Job) (reply : Outcome) (prompt : ProviderPrompt)
      (hattempt : prompt.attempt = job.attempt) :
      Plan (.startSession job reply) (.sessionStarted (.ok ()))
        [.prompted prompt] (some (.promptStream job reply))
  | opened (job : Job) (reply : Outcome) :
      Plan (.promptStream job reply) (.streamOpened (.ok ()))
        [.activate job.execution, .spawn (.stream job.attempt)] none
  -- the spawned activation
  | activate (prompt : ProviderPrompt) :
      Plan (.activate prompt) .proceed [.prompted prompt] (some (.activating prompt.attempt))
  | activated (attempt : Uuid) :
      Plan (.activating attempt) (.streamOpened (.ok ())) [] (some (.stream attempt))
  -- the provider stream
  | progress (active : ActiveExecution) (output : ProviderOutput) (event : Event)
      (hactive : s.active = some active)
      (hevent : ProgressEvent active.request active.attempt event) :
      Plan (.stream active.attempt) (.item output) [.commit [event] none]
        (some (.stream active.attempt))
  | cancellationPending (active : ActiveExecution) (output : ProviderOutput)
      (hactive : s.active = some active) (hrow : s.row = some .cancelRequested) :
      Plan (.stream active.attempt) (.item output) [] (some (.stream active.attempt))
  | completed (active : ActiveExecution) (summary : String) (state : SessionState) (cut : Nat)
      (hworks : s.Works active state) (hworkflow : sessionWorkflowId s.events = none) :
      Plan (.stream active.attempt) (.item (.completed summary))
        ([.commit [⟨.sessionCompleted summary, some active.request, some active.attempt⟩] none,
          .deactivate].take cut) none
  | stepCompleted (active : ActiveExecution) (summary : String) (state : SessionState)
      (findings : Bool) (hworks : s.Works active state)
      (hworkflow : (sessionWorkflowId s.events).isSome) :
      Plan (.stream active.attempt) (.item (.completed summary)) [.deactivate]
        (some (.advance active.request active.attempt findings))
  -- the fake provider
  | fakeCompleted (active : ActiveExecution) (content summary : String) (cut : Nat)
      (hactive : s.active = some active) (hfake : active.isFake)
      (hfold : s.FoldsTo .running) (hworkflow : sessionWorkflowId s.events = none) :
      Plan .fakeTimer .proceed
        ([.commit [⟨.providerEvent "message" content, some active.request,
            some active.attempt⟩] none,
          .deactivate,
          .commit [⟨.sessionCompleted summary, some active.request,
            some active.attempt⟩] none].take cut) none
  | fakeStep (active : ActiveExecution) (content : String) (findings : Bool)
      (hactive : s.active = some active) (hfake : active.isFake)
      (hfold : s.FoldsTo .running) :
      Plan .fakeTimer .proceed
        [.commit [⟨.providerEvent "message" content, some active.request,
          some active.attempt⟩] none, .deactivate]
        (some (.advance active.request active.attempt findings))
  -- workflow advancement
  | advanceOrphan (request attempt : Uuid) (findings : Bool) (summary : String)
      (hworkflow : sessionWorkflowId s.events = none) :
      Plan (.advance request attempt findings) .proceed
        [.commit [⟨.sessionCompleted summary, some request, some attempt⟩] none] none
  | advanceCeiling (request attempt : Uuid) (findings : Bool) (workflow : Workflow)
      (previous run : WorkflowRun) (cut : Nat)
      (hworkflow : s.configuredWorkflow = some workflow)
      (hprevious : recoverRun s.events = some previous)
      (hmove : moveAfterAttempt workflow previous findings = .ok (run, .awaitingHuman)) :
      Plan (.advance request attempt findings) .proceed
        (eachAlone (ceilingEvents run request attempt s.nextId) cut) none
  | advanceCompleted (request attempt : Uuid) (findings : Bool) (run : WorkflowRun) (cut : Nat) :
      Plan (.advance request attempt findings) .proceed
        (eachAlone (completionEvents run request attempt) cut) none
  | advanceStep (request attempt : Uuid) (findings : Bool) (run : WorkflowRun)
      (reason : TransitionReason) (next : Option Point)
      (hnext : next = none ∨ next = some (.dispatchStep request run)) :
      Plan (.advance request attempt findings) .proceed
        [.commit [⟨.workflowTransition run reason, some request, some attempt⟩] none] next
  | stepRefused (request : Uuid) (run : WorkflowRun) (summary : String) :
      Plan (.dispatchStep request run) .proceed
        [.commit [⟨.sessionFailed summary, some request, none⟩] none] none
  | stepCut (request : Uuid) (run : WorkflowRun) (plan : RoutingPlan) (cut : Nat) :
      Plan (.dispatchStep request run) .proceed
        (eachAlone (stepEvents plan run request s.nextId) cut) none
  | stepDispatched (request : Uuid) (run : WorkflowRun) (plan : RoutingPlan) (job : Job)
      (hattempt : job.attempt = s.nextId) :
      Plan (.dispatchStep request run) .proceed
        (eachAlone (stepEvents plan run request s.nextId) 3) (some (.launch job))
  -- activation without the session lock
  | launchFake (job : Job) :
      Plan (.launch job) .proceed
        [.activate ⟨job.attempt, job.request, .fake, false⟩, .spawn .fakeTimer] none
  | launchProvider (job : Job) : Plan (.launch job) .proceed [] (some (.launchStarted job))
  | launched (job : Job) (prompt : ProviderPrompt) (hattempt : prompt.attempt = job.attempt) :
      Plan (.launchStarted job) (.sessionStarted (.ok ()))
        [.activate job.execution, .spawn (.activate prompt)] none
  -- cancellation
  | cancelUnmatched (request control : Uuid) (attempt : Option Uuid) (summary : String) :
      Plan (.cancelResolution request control attempt) .proceed []
        (some (.resolveCancel request control attempt false summary))
  | cancelFake (request control : Uuid) (active : ActiveExecution) (summary : String)
      (hactive : s.active = some active) (hfake : active.isFake) :
      Plan (.cancelResolution request control (some active.attempt)) .proceed
        (.claimCancel ::
          if env.fake.confirmsCancellation then [.cancellationConfirmed active.attempt] else [])
        (some (.resolveCancel request control (some active.attempt)
          env.fake.confirmsCancellation summary))
  | cancelProvider (request control : Uuid) (active : ActiveExecution)
      (hactive : s.active = some active) :
      Plan (.cancelResolution request control (some active.attempt)) .proceed
        [.claimCancel] (some (.cancelPending request control active.attempt))
  | adapterCancelled (request control attempt : Uuid) (confirmed : Bool) (summary : String) :
      Plan (.cancelPending request control attempt) (.cancelled confirmed)
        (if confirmed then [.cancellationConfirmed attempt] else [])
        (some (.resolveCancel request control (some attempt) confirmed summary))
  | cancelResolved (request control : Uuid) (attempt : Option Uuid) (confirmed : Bool)
      (summary : String) (hfold : s.FoldsTo .cancelRequested) :
      Plan (.resolveCancel request control attempt confirmed summary) .proceed
        [.commit (resolutionEvents request control attempt confirmed summary s.nextId) none,
         .deactivate] none

end Workbench.Daemon
