import Workbench.Daemon.Recovery

/-!
# Daemon: the running system

A daemon is its sessions and the stage of its life.  A step is an action of the environment:
a client submits a command, a task goes on, the server drains, shuts down, crashes or
recovers.  A task goes on from one wait to the next in one step: while it holds the session
lock no other task of the session can run, and where it holds none the source has no await
point.  A crash in the middle of a step is a storage failure there followed by a crash.
-/

namespace Workbench.Daemon

open Workbench.Core Config Storage Library Program

/-- What a waiting task gets back. -/
inductive Response where
  /-- A lock, a timer or nothing at all. -/
  | proceed
  | sessionStarted (result : Except ProviderFailure Unit)
  | streamOpened (result : Except ProviderFailure Unit)
  | item (output : ProviderOutput)
  | streamFailed (failure : ProviderFailure)
  | streamEnded
  | cancelled (confirmed : Bool)

/-- The program a task runs when it goes on from a point. -/
def continuation (env : Environment) : Point → Response → Option (App Progress)
  | .command request command, .proceed => some (dispatchSession env request command)
  | .startSession job reply, .sessionStarted result => some (afterStartSession job reply result)
  | .promptStream job reply, .streamOpened result => some (afterPromptStream job reply result)
  | .relock request run _, .proceed => some (dispatchWorkflowStep env request run)
  | .activate prompt, .proceed => some do
      perform [.prompted prompt]
      pure (.waits (.activating prompt.attempt))
  | .activating attempt, .streamOpened result => some (afterActivation attempt result)
  | .stream attempt, .item output => some (onStreamItem attempt output)
  | .stream attempt, .streamFailed failure => some (onStreamFailure attempt failure)
  | .stream attempt, .streamEnded => some (onStreamEnd attempt)
  | .fakeTimer, .proceed => some (finishFake env)
  | .advance request attempt findings, .proceed => some (advanceWorkflow request attempt findings)
  | .dispatchStep request run, .proceed => some (dispatchWorkflowStep env request run)
  | .launch job, .proceed => some (launchAttempt env job)
  | .launchStarted job, .sessionStarted result => some (afterLaunchStarted job result)
  | .cancelResolution request control attempt, .proceed =>
    some (startCancelResolution env request control attempt)
  | .cancelPending request control attempt, .cancelled confirmed =>
    some (afterAdapterCancel request control attempt confirmed)
  | .resolveCancel request control attempt confirmed summary, .proceed =>
    some (resolveCancel request control attempt confirmed summary)
  | _, _ => none

/-- The step starts by taking the session lock. -/
def needsLock : Point → Response → Bool
  | .command _ _, _ | .relock _ _ _, _ | .stream _, _ | .fakeTimer, _ | .advance _ _ _, _
  | .dispatchStep _ _, _ | .resolveCancel _ _ _ _ _, _ => true
  | .activating _, .streamOpened (.error _) => true
  | _, _ => false

/-- The step passes the lifecycle gate first, and ends there during a shutdown. -/
def needsGate : Point → Response → Bool
  | .command _ _, _ | .stream _, _ | .fakeTimer, _ | .resolveCancel _ _ _ _ _, _ => true
  | .activating _, .streamOpened (.error _) => true
  | _, _ => false

/-! ## One session -/

namespace Session

/-- A new session record. -/
def fresh (request : Uuid) (workflow : Option String) (configuration : WorkbenchConfiguration) :
    Session :=
  { createdBy := request, workflow, configuration
    row := none, key := false, events := [], commands := [], creation := none, exports := []
    deletion := none, tombstone := none, workflowKnown := false, active := none, tasks := []
    nextId := 1, commits := [], prompts := [], confirmed := [] }

/-- Some task holds the session lock. -/
def locked (s : Session) : Bool := s.tasks.any Point.holdsLock

/-- Takes a task off the list. -/
def without (s : Session) (index : Nat) : Session :=
  { s with tasks := s.tasks.eraseIdx index }

/-- Ids that one step may draw. -/
def idBlock : Nat := 8

/-- The end of a step: where its task goes on, and the ids it drew are used up. -/
def settle (s : Session) (next : Option Point) : Session :=
  { s with tasks := s.tasks ++ next.toList, nextId := s.nextId + idBlock }

/-- Runs a program as one step. -/
def execute (prog : App Progress) (faults : List Bool) (s : Session) : Session :=
  match prog.run faults s with
  | (.ok progress, s') => s'.settle progress.next
  | (.error _, s') => s'.settle none

/-- A task goes on.  `stopping` says whether the daemon is shutting down. -/
def resume (env : Environment) (stopping : Bool) (index : Nat) (response : Response)
    (faults : List Bool) (s : Session) : Option Session :=
  match s.tasks[index]? with
  | none => none
  | some point =>
    match continuation env point response with
    | none => none
    | some prog =>
      if needsLock point response && s.locked then none
      else if needsGate point response && stopping then some (s.without index)
      else some (execute prog faults (s.without index))

/-- What is left of a session when the process ends. -/
def crashed (s : Session) : Session :=
  { s with workflowKnown := false, active := none, tasks := [] }

/-- The commands in progress are aborted. -/
def aborted (s : Session) : Session :=
  { s with tasks := s.tasks.filter fun point => !point.isForeground }

end Session

/-! ## The daemon -/

inductive Status where
  | serving
  | draining
  | stopping
  | down
  deriving DecidableEq

/-- The daemon and its store. -/
structure Application where
  status : Status
  sessions : List Session

namespace Application

/-- A daemon that has never run. -/
def initial : Application := ⟨.down, []⟩

/-- Runs a program on each session up to the first failure; each takes one list of faults, and the
flag says whether all went well. -/
def sweep (prog : Session → App Unit) : List (List Bool) → List Session → Bool × List Session
  | _, [] => (true, [])
  | faults, s :: rest =>
    match (prog s).run (faults.headD []) s with
    | (.error _, s') => (false, s' :: rest)
    | (.ok _, s') => ((sweep prog faults.tail rest).1, s' :: (sweep prog faults.tail rest).2)

/-- Makes the passes one after the other, up to the first failure. -/
def recoverPasses (faults : RecoveryPass → List (List Bool)) :
    List RecoveryPass → List Session → Bool × List Session
  | [], sessions => (true, sessions)
  | pass :: rest, sessions =>
    match sweep (fun _ => pass.program) (faults pass) sessions with
    | (false, sessions) => (false, sessions)
    | (true, sessions) => recoverPasses faults rest sessions

/-- The fact that `prepare_shutdown` records for a session that has an execution. -/
def shutdownRecord (s : Session) : App Unit :=
  match s.active with
  | none => pure ()
  | some execution => do
    perform [.deactivate]
    recordShutdown execution

/-- `prepare_shutdown`: all executions are taken first, so none is left if a record fails. -/
def prepareShutdown (faults : List (List Bool)) (sessions : List Session) : List Session :=
  (sweep shutdownRecord faults sessions).2.map (·.apply .deactivate)

/-- `handle_create` for a request that has already created this session. -/
def recreate : App Unit := do
  if (← read (·.tombstone)).isNone then
    loadSession
    hydrate

def createdBy (request : Uuid) (s : Session) : Bool :=
  s.createdBy == request && (s.row.isSome || s.tombstone.isSome)

/-- The request has left this session half created. -/
def creatingBy (request : Uuid) (s : Session) : Bool :=
  s.createdBy == request && s.creation.isSome

/-- Runs a program on one session, outside of any task. -/
def visit (prog : App Unit) (faults : List Bool) (s : Session) : Session :=
  (prog.run faults s).2.settle none

/-- Replaces the session at a position. -/
def change (app : Application) (index : Nat) (f : Session → Option Session) : Option Application :=
  match app.sessions[index]? with
  | none => none
  | some s => (f s).map fun s' => { app with sessions := app.sessions.set index s' }

/-- A create request that has no outcome yet. -/
def createNew (app : Application) (request : Uuid) (workflow : Option String)
    (configuration : WorkbenchConfiguration) (faults : List Bool) : Application :=
  { app with sessions :=
      app.sessions ++ [visit createSession faults (.fresh request workflow configuration)] }

/-- The workflow a session is created for is configured. -/
def namesWorkflow (workflow : Option String) (configuration : WorkbenchConfiguration) : Bool :=
  workflow.all fun workflowId => (configuration.workflows.lookup workflowId).isSome

/-- `handle_create`.  A request with an outcome loads its session again; an interrupted one is
reconciled and then creates one. -/
def handleCreate (app : Application) (request : Uuid) (workflow : Option String)
    (configuration : WorkbenchConfiguration) (retryFaults faults : List Bool) :
    Option Application :=
  match app.sessions.findIdx? (createdBy request) with
  | some index => app.change index fun s => some (visit recreate faults s)
  | none =>
    if !namesWorkflow workflow configuration then some app
    else
      match app.sessions.findIdx? (creatingBy request) with
      | none => some (app.createNew request workflow configuration faults)
      | some index =>
        match app.sessions[index]? with
        | none => none
        | some s =>
          let visited := visit reconcileCreation retryFaults s
          let retried : Application := ⟨app.status, app.sessions.set index visited⟩
          match (reconcileCreation.run retryFaults s).1 with
          | .error _ => some retried
          | .ok _ => some (retried.createNew request workflow configuration faults)

end Application

/-- What happens next. -/
inductive Action where
  | create (request : Uuid) (workflow : Option String) (configuration : WorkbenchConfiguration)
      (retryFaults faults : List Bool)
  | submit (session : Nat) (request : Uuid) (command : Command)
  | resume (session task : Nat) (response : Response) (faults : List Bool)
  | maintain (session : Nat) (due : Bool) (faults : List Bool)
  | drain
  | shutdown (faults : List (List Bool))
  | crash
  | recover (faults : RecoveryPass → List (List Bool))

/-- The effect of an action, if it can happen now. -/
def Application.step (env : Environment) (app : Application) : Action → Option Application
  | .create request workflow configuration retryFaults faults =>
    if app.status = .serving then
      app.handleCreate request workflow configuration retryFaults faults
    else none
  | .submit index request command =>
    if app.status = .serving then
      app.change index fun s => some (s.apply (.spawn (.command request command)))
    else none
  | .resume index task response faults =>
    if app.status = .down then none
    else app.change index (Session.resume env (app.status == .stopping) task response faults)
  | .maintain index due faults =>
    if app.status = .serving then
      app.change index fun s =>
        if s.locked then none else some (visit (maintain due) faults s)
    else none
  | .drain =>
    if app.status = .serving then
      some ⟨.draining, app.sessions.map Session.aborted⟩
    else none
  | .shutdown faults =>
    if (app.status = .serving ∨ app.status = .draining) ∧
        app.sessions.all (fun s => !s.tasks.any Point.holdsGate) then
      some ⟨.stopping, prepareShutdown faults app.sessions⟩
    else none
  | .crash => some ⟨.down, app.sessions.map Session.crashed⟩
  | .recover faults =>
    if app.status = .down then
      match recoverPasses faults recoveryPasses app.sessions with
      | (true, sessions) => some ⟨.serving, sessions⟩
      | (false, sessions) => some ⟨.down, sessions.map Session.crashed⟩
    else none

end Workbench.Daemon
