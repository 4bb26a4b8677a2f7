import Workbench.Daemon.State

/-!
# Daemon: what a handler can do to a session

Handlers are programs over one session.  Everything they change is one of the
effects below, and the effects of one storage call are one transaction.  A storage
call can fail without effect at any time; a call of an in-memory map cannot.
-/

namespace Workbench.Daemon

open Workbench.Core Config Storage Library

/-- One change to a session. -/
inductive Effect where
  /-- A transaction that appends events and records the outcome of a command. -/
  | commit (batch : List Event) (stored : Option StoredCommand)
  | spawn (point : Point)
  | activate (execution : ActiveExecution)
  | deactivate
  | claimCancel
  | prompted (prompt : ProviderPrompt)
  | cancellationConfirmed (attempt : Uuid)
  | knowWorkflow
  | evict
  | journalExport (journal : ExportJournal)
  | stageExport (exportId : Uuid) (stage : ExportStage)
  | closeExport (exportId : Uuid)
  /-- The transaction that opens the deletion journal. -/
  | requestDeletion (journal : DeletionJournal)
  | destroyKey
  /-- The transaction that removes the rows and leaves a tombstone. -/
  | finishDeletion (journal : DeletionJournal)
  | journalCreation
  | createKey
  | markKeyCreated
  /-- The transaction that inserts the row, the first event and the outcome. -/
  | insertSession
  | closeCreation

namespace Session

/-- Appends a batch and leaves the given column. -/
def append (s : Session) (batch : List Event) (column : SessionState) : Session :=
  { s with
    row := some column
    events := s.events ++ batch
    commits := s.commits ++ [⟨batch, none, s.confirmed, column⟩] }

/-- The event that `create_session` inserts. -/
def creationEvent (s : Session) : Event := ⟨.sessionCreated s.workflow, some s.createdBy, none⟩

/-- The event that `request_deletion` inserts. -/
def deletionEvent (journal : DeletionJournal) : Event :=
  ⟨.sessionDeletionRequested journal.deletionId, some journal.request, none⟩

/-- The session after one change. -/
def apply (s : Session) : Effect → Session
  | .commit batch stored =>
    -- without a row the transaction is rolled back
    { s with
      row := s.row.map (columnAfter · batch)
      events := s.events ++ s.row.elim [] fun _ => batch
      commands := s.commands ++ s.row.elim [] fun _ => stored.toList
      commits := s.commits ++ s.row.elim [] fun column =>
        [⟨batch, stored, s.confirmed, columnAfter column batch⟩] }
  | .spawn point => { s with tasks := s.tasks ++ [point] }
  | .activate execution => { s with active := some execution }
  | .deactivate => { s with active := none }
  | .claimCancel => { s with active := s.active.map ({ · with cancelStarted := true }) }
  | .prompted prompt => { s with prompts := s.prompts ++ [prompt] }
  | .cancellationConfirmed attempt => { s with confirmed := s.confirmed ++ [attempt] }
  | .knowWorkflow => { s with workflowKnown := true }
  | .evict => { s with workflowKnown := false }
  | .journalExport journal => { s with exports := s.exports ++ [journal] }
  | .stageExport exportId stage =>
    { s with exports := s.exports.map fun journal =>
        if journal.exportId = exportId then { journal with stage } else journal }
  | .closeExport exportId =>
    { s with exports := s.exports.filter fun journal => journal.exportId ≠ exportId }
  | .requestDeletion journal =>
    { s.append [deletionEvent journal] .deleting with deletion := some journal }
  | .destroyKey => { s with key := false }
  | .finishDeletion journal =>
    { s with row := none, events := [], commands := [], deletion := none
             tombstone := some journal }
  | .journalCreation => { s with creation := some .prepared }
  | .createKey => { s with key := true }
  | .markKeyCreated => { s with creation := some .keyCreated }
  | .insertSession =>
    { s.append [s.creationEvent] .ready with creation := none }
  | .closeCreation => { s with creation := none }

theorem apply_commit_events {s : Session} {column : SessionState} (hrow : s.row = some column)
    (batch : List Event) (stored : Option StoredCommand) :
    (s.apply (.commit batch stored)).events = s.events ++ batch := by
  show s.events ++ s.row.elim [] (fun _ => batch) = _
  rw [hrow, Option.elim_some]

def after (s : Session) (effects : List Effect) : Session := effects.foldl apply s

@[simp] theorem after_nil (s : Session) : s.after [] = s := rfl

@[simp] theorem after_cons (s : Session) (effect : Effect) (effects : List Effect) :
    s.after (effect :: effects) = (s.apply effect).after effects := rfl

theorem after_append (s : Session) (first second : List Effect) :
    s.after (first ++ second) = (s.after first).after second := List.foldl_append

end Session

/-! ## Calls -/

/-- A handler. -/
abbrev App := Program Session DaemonError

open Program

/-- Changes to the in-memory maps. -/
def perform (effects : List Effect) : App Unit := update (·.after effects)

/-- `replay`: needs the key of the session only. -/
def history : App (List Event) :=
  invoke .storageUnavailable fun s =>
    if s.key then .ok (s.events, s) else .error .keyStoreUnavailable

/-- Reads the state column. -/
def currentSessionState : App SessionState :=
  invoke .storageUnavailable fun s =>
    match s.row with
    | some state => .ok (state, s)
    | none => .error .sessionNotFound

/-- The configuration pinned on creation; it is in memory while the session has a row. -/
def sessionConfiguration : App WorkbenchConfiguration :=
  access fun s => if s.row.isSome then .ok (s.configuration, s) else .error .sessionNotFound

/-- Whether the store can append the batch. -/
def Session.admits (s : Session) (batch : List Event) : Except DaemonError Unit :=
  if s.row.isNone then .error .sessionNotFound
  else if !s.key then .error .keyStoreUnavailable
  else if accepts s.events batch then .ok ()
  else .error .storageUnavailable

/-- `append_events`: one transaction. -/
def appendEvents (batch : List Event) : App Unit :=
  invoke .storageUnavailable fun s => do
    s.admits batch
    pure ((), s.apply (.commit batch none))

/-- `append_event`: one event in its own transaction. -/
def append (event : Event) : App Unit := appendEvents [event]

/-- For the same request: the outcome of the same command, a conflict for another one. -/
def Session.recorded (s : Session) (request : Uuid) (command : Command) :
    Except DaemonError (Option Outcome) :=
  match s.commands.find? (fun stored => stored.request == request) with
  | none => .ok none
  | some stored =>
    if stored.command = command then .ok (some stored.outcome)
    else .error (.invalidRequest "storage rejected the command")

/-- The outcome kept in the tombstone for the request that deleted the session. -/
def Session.buried (s : Session) (request : Uuid) (command : Command) :
    Except DaemonError (Option Outcome) :=
  match s.tombstone with
  | none => .ok none
  | some tombstone =>
    if tombstone.request = request then
      if command = .delete true then .ok (some (.deleted tombstone.deletionId))
      else .error (.invalidRequest "storage rejected the command")
    else .ok none

/-- `lookup_command_outcome`: the command table first, then the tombstone. -/
def cachedOutcome (request : Uuid) (command : Command) : App (Option Outcome) :=
  invoke .storageUnavailable fun s => do
    match ← s.recorded request command with
    | some outcome => pure (some outcome, s)
    | none => pure (← s.buried request command, s)

/-- Appends the events with the outcome, or replays a recorded one; the flag says which. -/
def commitCommandEvents (request : Uuid) (command : Command) (outcome : Outcome)
    (batch : List Event) : App (Outcome × Bool) :=
  invoke .storageUnavailable fun s => do
    match ← s.recorded request command with
    | some stored => pure ((stored, true), s)
    | none =>
      s.admits batch
      pure ((outcome, false), s.apply (.commit batch (some ⟨request, command, outcome⟩)))

/-- Records the outcome of a command that changes nothing. -/
def recordCommandOutcome (request : Uuid) (command : Command) (outcome : Outcome) : App Outcome :=
  invoke .storageUnavailable fun s => do
    match ← s.recorded request command with
    | some stored => pure (stored, s)
    | none =>
      if s.row.isNone then .error .sessionNotFound
      else pure (outcome, s.apply (.commit [] (some ⟨request, command, outcome⟩)))

/-- `replay_command_outcome`: a recorded failure fails again. -/
def replayCommandOutcome (outcome : Outcome) : App Outcome :=
  match outcome with
  | .durableFailure error => fail error
  | outcome => pure outcome

/-! ## What a call can do

One rule per call, for a failure condition that does not depend on the error. -/

section

variable {α β : Type} {E : Session → Prop} {s : Session} {ok : β → Session → Prop}

theorem lift_spec {rest : α → App β} {result : Except DaemonError α} (herr : E s)
    (hok : ∀ a, result = .ok a → wp (rest a) ok (fun _ => E) s) :
    wp (lift result >>= rest) ok (fun _ => E) s := by
  cases result with
  | ok a => exact hok a rfl
  | error e => exact herr

theorem history_spec {rest : List Event → App β} (herr : E s)
    (hok : wp (rest s.events) ok (fun _ => E) s) : wp (history >>= rest) ok (fun _ => E) s := by
  rw [history, wp_bind, wp_invoke]
  refine ⟨herr, ?_⟩
  cases hkey : s.key with
  | true => exact hok
  | false => exact herr

theorem currentSessionState_spec {rest : SessionState → App β} (herr : E s)
    (hok : ∀ state, s.row = some state → wp (rest state) ok (fun _ => E) s) :
    wp (currentSessionState >>= rest) ok (fun _ => E) s := by
  rw [currentSessionState, wp_bind, wp_invoke]
  refine ⟨herr, ?_⟩
  cases hrow : s.row with
  | none => exact herr
  | some state => exact hok state hrow

theorem sessionConfiguration_spec {rest : WorkbenchConfiguration → App β} (herr : E s)
    (hok : wp (rest s.configuration) ok (fun _ => E) s) :
    wp (sessionConfiguration >>= rest) ok (fun _ => E) s := by
  rw [sessionConfiguration, wp_bind, wp_access]
  cases hrow : s.row.isSome with
  | true => exact hok
  | false => exact herr

variable {batch : List Event} {request : Uuid} {command : Command} {outcome : Outcome}

theorem Session.admits_eq_ok {u : Unit} (h : s.admits batch = .ok u) :
    s.row.isSome ∧ s.key ∧ accepts s.events batch := by
  unfold Session.admits at h
  cases hrow : s.row with
  | none => rw [hrow] at h; cases h
  | some state =>
    cases hkey : s.key with
    | false => rw [hrow, hkey] at h; cases h
    | true =>
      cases haccepts : accepts s.events batch with
      | false => rw [hrow, hkey, haccepts] at h; cases h
      | true => exact ⟨rfl, rfl, rfl⟩

theorem appendEvents_spec {ok : Unit → Session → Prop} (herr : E s)
    (hok : s.row.isSome → ok () (s.apply (.commit batch none))) :
    wp (appendEvents batch) ok (fun _ => E) s := by
  rw [appendEvents, wp_invoke]
  refine ⟨herr, ?_⟩
  cases hadmits : s.admits batch with
  | error e => exact herr
  | ok u => exact hok (Session.admits_eq_ok hadmits).1

theorem append_spec {ok : Unit → Session → Prop} {event : Event} (herr : E s)
    (hok : s.row.isSome → ok () (s.apply (.commit [event] none))) :
    wp (append event) ok (fun _ => E) s := appendEvents_spec herr hok

theorem cachedOutcome_spec {rest : Option Outcome → App β} (herr : E s)
    (hsome : ∀ outcome, s.recorded request command = .ok (some outcome) ∨
      s.buried request command = .ok (some outcome) → wp (rest (some outcome)) ok (fun _ => E) s)
    (hnone : s.recorded request command = .ok none → wp (rest none) ok (fun _ => E) s) :
    wp (cachedOutcome request command >>= rest) ok (fun _ => E) s := by
  rw [cachedOutcome, wp_bind, wp_invoke]
  refine ⟨herr, ?_⟩
  cases hrecorded : s.recorded request command with
  | error e => exact herr
  | ok found =>
    cases found with
    | some outcome => exact hsome outcome (.inl hrecorded)
    | none =>
      cases hburied : s.buried request command with
      | error e => exact herr
      | ok buried =>
        cases buried with
        | none => exact hnone hrecorded
        | some outcome => exact hsome outcome (.inr hburied)

theorem commitCommandEvents_spec {rest : Outcome × Bool → App β}
    (hnone : s.recorded request command = .ok none) (herr : E s)
    (hok : s.row.isSome →
      wp (rest (outcome, false)) ok (fun _ => E)
        (s.apply (.commit batch (some ⟨request, command, outcome⟩)))) :
    wp (commitCommandEvents request command outcome batch >>= rest) ok (fun _ => E) s := by
  rw [commitCommandEvents, wp_bind, wp_invoke]
  refine ⟨herr, ?_⟩
  rw [hnone]
  cases hadmits : s.admits batch with
  | error e => exact herr
  | ok u => exact hok (Session.admits_eq_ok hadmits).1

variable {rest : Outcome → App β}

theorem recordCommandOutcome_spec (hnone : s.recorded request command = .ok none) (herr : E s)
    (hok : wp (rest outcome) ok (fun _ => E)
      (s.apply (.commit [] (some ⟨request, command, outcome⟩)))) :
    wp (recordCommandOutcome request command outcome >>= rest) ok (fun _ => E) s := by
  rw [recordCommandOutcome, wp_bind, wp_invoke]
  refine ⟨herr, ?_⟩
  rw [hnone]
  cases hrow : s.row.isNone with
  | true => exact herr
  | false => exact hok

@[simp] theorem wp_perform (ok : Unit → Session → Prop) (err : DaemonError → Session → Prop)
    (effects : List Effect) : wp (perform effects) ok err s = ok () (s.after effects) :=
  wp_update _ _ _ _

end

end Workbench.Daemon
