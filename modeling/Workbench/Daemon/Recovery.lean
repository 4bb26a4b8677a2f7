import Workbench.Daemon.Background

/-!
# Daemon: creation, maintenance, shutdown and recovery of one session

Recovery is five passes over all sessions, each of which reads and writes one session
at a time; here is what each pass does to one of them.
-/

namespace Workbench.Daemon

open Workbench.Core Config Storage Library Program

/-! ## Creation -/

/-- A storage call with the given effect. -/
def store (effect : Effect) : App Unit :=
  invoke .storageUnavailable fun s => .ok ((), s.apply effect)

/-- `reconcile_creation`: an unfinished creation loses its key and its journal. -/
def reconcileCreation : App Unit := do
  if (← read (·.creation)).isSome then
    if (← read (·.row)).isNone then destroySessionKey
    store .closeCreation

def finishCreateSession : App Unit := do
  store .createKey
  store .markKeyCreated
  store .insertSession

/-- `create_session` and the entries that `handle_create` makes after it. -/
def createSession : App Unit := do
  store .journalCreation
  catchError (fun error => do ignoringErrors reconcileCreation; fail error) finishCreateSession
  if (← read (·.workflow)).isSome then perform [.knowWorkflow]

/-- `load_session` on a session that has a row. -/
def loadSession : App Unit :=
  invoke .storageUnavailable fun s =>
    if s.row.isNone then .error .sessionNotFound
    else if !s.key then .error .keyStoreUnavailable
    else .ok ((), s)

/-- `hydrate_stored_session` for a snapshot and a lock that pass its checks (see `StoredSession`);
others end the visit as a failed load does.  A history that cannot be read is passed over. -/
def hydrate : App Unit :=
  ignoringErrors do
    let events ← history
    if (sessionWorkflowId events).isSome then perform [.knowWorkflow]

/-! ## Retention -/

/-- `run_maintenance` for one session; `due` says whether its retention has run out. -/
def maintain (due : Bool) : App Unit := do
  loadSession
  hydrate
  let state ← currentSessionState
  let exports ← read (·.exports)
  if due = true ∧ isFinal state = true ∧ exports.isEmpty = true then
    let fresh ← read (·.nextId)
    let _ ← requestDeletion fresh (fresh + 1)
    perform [.deactivate, .evict]

/-! ## Shutdown -/

/-- `prepare_shutdown` for one session whose execution was taken from the map. -/
def recordShutdown (execution : ActiveExecution) : App Unit :=
  append ⟨.outcomeUnknown "daemon_shutdown", none, some execution.attempt⟩

/-! ## Recovery -/

def resumeExports : App Unit := do
  let journals ← invoke .storageUnavailable fun s => .ok (s.exports, s)
  forEach journals fun journal => do
    invoke .storageUnavailable fun s =>
      if s.key then .ok ((), s) else .error .keyStoreUnavailable
    let _ ← advanceExport journal

def resumeDeletion : App Unit := do
  if (← read (·.deletion)).isSome then
    let _ ← finishDeletion

/-- The load and the hydration of a stored session. -/
def loadAndHydrate : App Unit := do
  if (← read (·.row)).isSome then
    loadSession
    hydrate

/-- The transaction that completes an interrupted control, judged by the last event. -/
def controlCompletion (events : List Event) : Option (List Event) :=
  match events.getLast? with
  | none => none
  | some last =>
    match last.payload with
    | .pauseRequested controlId => some [⟨.sessionPaused controlId, last.causation, none⟩]
    | .cancelRequested controlId =>
      match latestStartedAttempt events with
      | none => some
          [⟨.cancelConfirmed controlId, last.causation, none⟩,
           ⟨.sessionCancelled "provider cancellation recovered", last.causation, none⟩]
      | some attempt => some
          [⟨.outcomeUnknown "cancellation recovery could not confirm provider outcome",
            last.causation, some attempt⟩]
    | .cancelConfirmed _ => some
        [⟨.sessionCancelled "confirmed cancellation recovered", last.causation, last.attempt⟩]
    | _ => none

def recoverIncompleteControls : App Unit := do
  if (← read (·.row)).isSome then
    let events ← history
    match controlCompletion events with
    | none => pure ()
    | some batch => appendEvents batch

/-- The kinds that settle an attempt for recovery. -/
def Event.isFact (event : Event) : Bool :=
  match event.payload with
  | .sessionCompleted _ | .sessionFailed _ | .sessionCancelled _ | .sessionAbandoned _
  | .outcomeUnknown _ | .outcomeReconciled _ _ => true
  | _ => false

/-- The attempts that have a `dispatch_started` event. -/
def startedAttempts (events : List Event) : List Uuid :=
  events.filterMap fun event => if Event.isStart event then event.attempt else none

/-- Some event settles the attempt. -/
def hasFact (events : List Event) (attempt : Uuid) : Bool :=
  events.any fun event => event.attempt == some attempt && Event.isFact event

/-- The rows that `recover_uncertain_attempts` selects. -/
def uncertainAttempts (events : List Event) : List Uuid :=
  ((startedAttempts events).dedup.filter fun attempt => !hasFact events attempt).insertionSort
    (· ≤ ·)

def recoverUncertainAttempts : App Unit := do
  let attempts ← invoke .storageUnavailable fun s => .ok (uncertainAttempts s.events, s)
  forEach attempts fun attempt =>
    append ⟨.outcomeUnknown "daemon_recovery", none, some attempt⟩

/-- The passes of `recover`. -/
inductive RecoveryPass where
  | creations
  | exports
  | deletions
  | sessions
  | controls
  | attempts
  deriving DecidableEq

/-- What a pass does to one session. -/
def RecoveryPass.program : RecoveryPass → App Unit
  | .creations => reconcileCreation
  | .exports => resumeExports
  | .deletions => resumeDeletion
  | .sessions => loadAndHydrate
  | .controls => recoverIncompleteControls
  | .attempts => recoverUncertainAttempts

/-- The order in which `recover` makes its passes. -/
def recoveryPasses : List RecoveryPass :=
  [.creations, .exports, .deletions, .sessions, .controls, .attempts]

end Workbench.Daemon
