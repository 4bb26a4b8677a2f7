import Workbench.Daemon.Route
import Workbench.Library.Writes

/-!
# Daemon: one session as the application and the store hold it

The rows of one session in the store, its entries in the maps of the application, and the
tasks that work on it.  Apart from the passes over all sessions no function of the daemon
reads or writes two of them, so a daemon is a list of such records.

Three fields are not state of the program.  `commits`, `prompts` and `confirmed` record each
committed transaction with the column it left, each call of `prompt_stream`, and each
cancellation that an adapter confirmed.
-/

namespace Workbench.Daemon

open Workbench.Core Config Storage

/-! ## Commands and outcomes -/

/-- The session methods that change something; a deletion keeps whether its confirmed id fits. -/
inductive Command where
  | prompt (text : String) (explicitTarget : Option String)
  | pause
  | resume
  | redirect (instruction : String)
  | cancel
  | approvalResolve (approvalId : Uuid) (decision : ApprovalDecision)
  | reconcile (attemptId : Uuid) (resolution : ReconciliationResolution) (evidence : Option String)
  | exportBundle (outputPath : String) (ageRecipients : List String)
  | delete (confirmed : Bool)
  deriving DecidableEq

inductive Control where
  | pause
  | resume
  | redirect
  | cancel
  deriving DecidableEq

/-- The result of a command, as it is stored and replayed. -/
inductive Outcome where
  | prompt (inputId : Uuid) (sequence : Nat)
  | control (controlId : Uuid) (control : Control) (state : SessionState)
  | approval (approvalId : Uuid) (decision : ApprovalDecision) (state : SessionState)
  | reconciliation (attemptId : Uuid) (resolution : ReconciliationResolution)
      (replacementAttemptId : Option Uuid) (state : SessionState)
  | exported (exportId : Uuid)
  | deleted (deletionId : Uuid)
  | durableFailure (error : DaemonError)
  deriving DecidableEq

/-- A row of `command_outcomes`; equal commands have equal methods and parameter hashes. -/
structure StoredCommand where
  request : Uuid
  command : Command
  outcome : Outcome

/-! ## Journals -/

inductive CreationStage where
  | prepared
  | keyCreated

inductive ExportStage where
  | prepared
  | staged
  | published
  deriving DecidableEq

structure ExportJournal where
  exportId : Uuid
  request : Uuid
  command : Command
  stage : ExportStage

structure DeletionJournal where
  deletionId : Uuid
  request : Uuid

/-! ## Executions and tasks -/

inductive Backend where
  | fake
  | provider
  deriving DecidableEq

/-- The entry of the `active` map. -/
structure ActiveExecution where
  attempt : Uuid
  request : Uuid
  backend : Backend
  cancelStarted : Bool

def ActiveExecution.isFake (execution : ActiveExecution) : Bool := execution.backend == .fake

/-- What is handed to `prompt_stream`. -/
structure ProviderPrompt where
  attempt : Uuid
  runtimeModel : String
  content : NonEmptyText
  deriving DecidableEq

/-- An attempt on its way to its provider. -/
structure Job where
  attempt : Uuid
  request : Uuid
  provider : ProviderId
  kind : ProviderType
  runtimeModel : String
  prompt : String
  deriving DecidableEq

/-- Where a task stands between two steps. -/
inductive Point where
  /-- `dispatch` before the session lock. -/
  | command (request : Uuid) (command : Command)
  /-- `activate_attempt` in `start_session`, under the session lock. -/
  | startSession (job : Job) (reply : Outcome)
  /-- `activate_attempt` in `prompt_stream`, under the session lock. -/
  | promptStream (job : Job) (reply : Outcome)
  /-- `dispatch_workflow_step` before the session lock that `handle_resume` already holds. -/
  | relock (request : Uuid) (run : WorkflowRun) (reply : Outcome)
  /-- The spawned task of `schedule_provider_activation`, before `prompt_stream`. -/
  | activate (prompt : ProviderPrompt)
  /-- The same task in `prompt_stream`. -/
  | activating (attempt : Uuid)
  /-- `consume_provider_stream` waiting for the next item. -/
  | stream (attempt : Uuid)
  /-- The spawned task of `schedule_fake_completion`. -/
  | fakeTimer
  /-- `advance_workflow_after_attempt` before the session lock. -/
  | advance (request attempt : Uuid) (findings : Bool)
  /-- `dispatch_workflow_step` before the session lock. -/
  | dispatchStep (request : Uuid) (run : WorkflowRun)
  /-- `dispatch_workflow_step` after it has released the session lock. -/
  | launch (job : Job)
  /-- The same task in `start_session`. -/
  | launchStarted (job : Job)
  /-- The spawned task of `schedule_cancel_resolution`. -/
  | cancelResolution (request control : Uuid) (attempt : Option Uuid)
  /-- The same task in the adapter's `cancel`. -/
  | cancelPending (request control attempt : Uuid)
  /-- The same task before the session lock. -/
  | resolveCancel (request control : Uuid) (attempt : Option Uuid) (confirmed : Bool)
      (summary : String)
  deriving DecidableEq

/-- The task holds the session lock while it waits. -/
def Point.holdsLock : Point → Bool
  | startSession _ _ | promptStream _ _ | relock _ _ _ => true
  | _ => false

/-- The task holds the lifecycle gate while it waits. -/
def Point.holdsGate : Point → Bool
  | startSession _ _ | promptStream _ _ | relock _ _ _ | advance _ _ _ | dispatchStep _ _
  | launch _ | launchStarted _ => true
  | _ => false

/-- The task runs the command of a client, so a draining server aborts it. -/
def Point.isForeground : Point → Bool
  | command _ _ | startSession _ _ | promptStream _ _ | relock _ _ _ => true
  | _ => false

/-! ## The session -/

/-- A committed transaction. -/
structure Commit where
  batch : List Event
  /-- The command whose outcome it recorded. -/
  stored : Option StoredCommand
  /-- The cancellations that adapters had confirmed by then. -/
  confirmed : List Uuid
  /-- The column after it. -/
  column : SessionState

/-- One session. -/
structure Session where
  /-- The request that created it, with the workflow it names. -/
  createdBy : Uuid
  workflow : Option String
  configuration : WorkbenchConfiguration
  /-- The state column, while the session has a row. -/
  row : Option SessionState
  key : Bool
  events : List Event
  commands : List StoredCommand
  creation : Option CreationStage
  exports : List ExportJournal
  deletion : Option DeletionJournal
  tombstone : Option DeletionJournal
  /-- Whether `session_workflows` has an entry. -/
  workflowKnown : Bool
  active : Option ActiveExecution
  tasks : List Point
  /-- Ids from here on have not been drawn yet. -/
  nextId : Uuid
  commits : List Commit
  prompts : List ProviderPrompt
  confirmed : List Uuid

end Workbench.Daemon
