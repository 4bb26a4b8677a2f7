import Workbench.Library.Json
import Workbench.Storage.KeyStore

/-!
# Sqlite: tables and statements

The tables of the session database as lists of rows in insertion order, and the
statements that the transactions are made of.  A statement that breaks a constraint of
the schema fails.  The text and time formats of the columns are left out: a column
holds the value that is read back.
-/

namespace Workbench.Sqlite

open Workbench.Core Library Storage

/-- A point in time. -/
abbrev Time := Int

/-- The largest integer of a column. -/
def maxInteger : Nat := 2 ^ 63 - 1

/-! ## Rows -/

/-- The scope of a request id. -/
inductive Scope where
  | daemon
  | session (id : Uuid)
  deriving DecidableEq

/-- The scope of a command on this session, if any. -/
def commandScope : Option Uuid → Scope
  | none => .daemon
  | some id => .session id

/-- An event to be appended. -/
structure EventInput where
  eventId : Uuid
  sessionId : Uuid
  occurredAt : Time
  kind : String
  causationRequestId : Option Uuid
  attemptId : Option Uuid
  effectClass : Option String
  payload : Json

/-- An event as it is read. -/
structure PersistedEvent where
  eventId : Uuid
  sessionId : Uuid
  sequence : Nat
  occurredAt : Time
  kind : String
  causationRequestId : Option Uuid
  attemptId : Option Uuid
  effectClass : Option String
  payload : Json

/-- A row of `sessions`. -/
structure SessionRow where
  sessionId : Uuid
  keyId : KeyId
  state : SessionState
  createdAt : Time
  terminalAt : Option Time
  configuration : EncryptedPayload Json
  lock : EncryptedPayload Json
  spendUsdMicros : Nat

/-- A row of the event table. -/
structure EventRow where
  eventId : Uuid
  sessionId : Uuid
  sequence : Nat
  occurredAt : Time
  kind : String
  causationRequestId : Option Uuid
  attemptId : Option Uuid
  effectClass : Option String
  keyId : KeyId
  payload : EncryptedPayload Json

/-- A recorded command. -/
structure StoredCommandRecord where
  method : String
  parameterHash : String
  /-- The outcome as JSON text. -/
  outcome : String
  deriving DecidableEq

/-- A row of `command_outcomes`. -/
structure CommandRow where
  scope : Scope
  requestId : Uuid
  sessionId : Option Uuid
  record : StoredCommandRecord

/-- How far a creation is. -/
inductive CreationState where
  | prepared
  | keyCreated
  deriving DecidableEq

/-- The journal of a creation. -/
structure CreationRow where
  sessionId : Uuid
  requestId : Uuid
  parameterHash : String
  keyId : KeyId
  state : CreationState
  deriving DecidableEq

/-- How far an export is. -/
inductive ExportState where
  | prepared
  | staged
  | published
  deriving DecidableEq

/-- A file path, split at its last component. -/
structure Path where
  directory : String
  name : String
  deriving DecidableEq

/-- Which file it is, and its content. -/
structure FileFingerprint where
  blake3 : String
  size : Nat
  device : Nat
  inode : Nat
  deriving DecidableEq

/-- The sealed part of an export's journal. -/
structure ExportJournalPayload where
  schemaVersion : Nat
  parameters : Json
  outputPath : Path
  ageRecipients : List String
  outcome : Json
  eventId : Uuid
  occurredAt : Time
  eventPayload : Json

/-- The journal of an export. -/
structure ExportRow where
  exportId : Uuid
  sessionId : Uuid
  requestId : Uuid
  parameterHash : String
  state : ExportState
  payload : EncryptedPayload ExportJournalPayload
  fingerprint : Option FileFingerprint

/-- The journal of a deletion. -/
structure DeletionRow where
  sessionId : Uuid
  deletionId : Uuid
  requestId : Uuid

/-- What stays of a deleted session: the commands that created and deleted it. -/
structure TombstoneRow where
  sessionId : Uuid
  deletionId : Uuid
  creation : Option (Uuid × StoredCommandRecord)
  deletionRequestId : Uuid
  deletion : StoredCommandRecord

/-- The tables. -/
structure Database where
  sessions : List SessionRow
  events : List EventRow
  outcomes : List CommandRow
  creations : List CreationRow
  exports : List ExportRow
  deletions : List DeletionRow
  tombstones : List TombstoneRow

namespace Database

def empty : Database := ⟨[], [], [], [], [], [], []⟩

/-! ## Queries -/

def session? (db : Database) (id : Uuid) : Option SessionRow :=
  db.sessions.find? (·.sessionId = id)

def eventsOf (db : Database) (id : Uuid) : List EventRow := db.events.filter (·.sessionId = id)

/-- The recorded command of a request. -/
def command? (db : Database) (scope : Scope) (requestId : Uuid) : Option StoredCommandRecord :=
  (db.outcomes.find? fun row => row.scope = scope ∧ row.requestId = requestId).map (·.record)

def creationByRequest? (db : Database) (requestId : Uuid) : Option CreationRow :=
  db.creations.find? (·.requestId = requestId)

def creationBySession? (db : Database) (id : Uuid) : Option CreationRow :=
  db.creations.find? (·.sessionId = id)

def deletion? (db : Database) (id : Uuid) : Option DeletionRow :=
  db.deletions.find? (·.sessionId = id)

def tombstone? (db : Database) (id : Uuid) : Option TombstoneRow :=
  db.tombstones.find? (·.sessionId = id)

def hasExport (db : Database) (id : Uuid) : Bool := db.exports.any (·.sessionId = id)

/-- The command of a request as the tombstones keep it. -/
def buried? (db : Database) (sessionId : Option Uuid) (requestId : Uuid) :
    Option StoredCommandRecord :=
  match sessionId with
  | none => db.tombstones.findSome? fun row =>
    row.creation.bind fun creation => if creation.1 = requestId then some creation.2 else none
  | some id => (db.tombstones.find? fun row =>
    row.sessionId = id ∧ row.deletionRequestId = requestId).map (·.deletion)

/-- `MAX(sequence)` over the events of a session, or zero. -/
def lastSequence (db : Database) (id : Uuid) : Nat :=
  ((db.eventsOf id).map (·.sequence)).foldr max 0

end Database

/-! ## Kinds -/

/-- The kinds that end a session. -/
def terminalKinds : List String :=
  ["session_completed", "session_failed", "session_cancelled", "session_abandoned"]

/-- The kinds of the index `session_attempt_unique_fact`. -/
def uniqueFactKinds : List String :=
  ["dispatch_planned", "dispatch_started", "dispatch_acknowledged", "outcome_unknown",
    "outcome_reconciled"]

/-- The state column that a kind sets. -/
def stateForKind (kind : String) : Option SessionState :=
  if kind = "dispatch_started" ∨ kind = "session_resumed" then some .running
  else if kind = "clarification_requested" then some .awaitingClarification
  else if kind = "approval_requested" then some .awaitingApproval
  else if kind = "session_paused" then some .paused
  else if kind = "cancel_requested" then some .cancelRequested
  else if kind = "outcome_unknown" then some .outcomeUnknown
  else if kind = "session_completed" then some .completed
  else if kind = "session_failed" then some .failed
  else if kind = "session_cancelled" then some .cancelled
  else if kind = "session_abandoned" then some .abandoned
  else none

/-! ## Encrypted columns -/

/-- Seals a value for its place. -/
def encryptJson (key : SecretKey) (sessionId : Uuid) (objectId : String) (sequence : Nat)
    (kind : String) (value : Json) : EncryptedPayload Json :=
  .encrypt key value
    { schemaVersion := 1, sessionId := sessionId, objectId := objectId, sequence := sequence
      kind := kind }

/-- The row that an event becomes. -/
def EventInput.row (input : EventInput) (sequence : Nat) (keyId : KeyId) (key : SecretKey) :
    EventRow where
  eventId := input.eventId
  sessionId := input.sessionId
  sequence := sequence
  occurredAt := input.occurredAt
  kind := input.kind
  causationRequestId := input.causationRequestId
  attemptId := input.attemptId
  effectClass := input.effectClass
  keyId := keyId
  payload := encryptJson key input.sessionId (toString input.eventId) sequence input.kind
    input.payload

/-- The event under its sequence. -/
def EventInput.persisted (input : EventInput) (sequence : Nat) : PersistedEvent where
  eventId := input.eventId
  sessionId := input.sessionId
  sequence := sequence
  occurredAt := input.occurredAt
  kind := input.kind
  causationRequestId := input.causationRequestId
  attemptId := input.attemptId
  effectClass := input.effectClass
  payload := input.payload

/-- Opens the payload of a row. -/
def EventRow.decrypt (row : EventRow) (key : SecretKey) (sessionId : Uuid) :
    Except StorageError PersistedEvent :=
  match row.payload.decrypt key
      { schemaVersion := 1, sessionId := sessionId, objectId := toString row.eventId
        sequence := row.sequence, kind := row.kind } with
  | .error error => .error error
  | .ok payload => .ok
      { eventId := row.eventId, sessionId := sessionId, sequence := row.sequence
        occurredAt := row.occurredAt, kind := row.kind
        causationRequestId := row.causationRequestId, attemptId := row.attemptId
        effectClass := row.effectClass, payload := payload }

/-! ## Statements -/

namespace Database

/-- Whether two events break a unique index together. -/
def clash (first second : EventRow) : Bool :=
  first.eventId = second.eventId ||
    (first.sessionId = second.sessionId &&
      (first.sequence = second.sequence ||
        (first.attemptId.isSome && first.attemptId = second.attemptId &&
          ((uniqueFactKinds.contains first.kind && first.kind = second.kind) ||
            (terminalKinds.contains first.kind && terminalKinds.contains second.kind)))))

/-- Inserts a row that no constraint forbids. -/
def insertEvent (db : Database) (row : EventRow) : Except StorageError Database :=
  if row.sequence ≤ maxInteger ∧ 0 < row.sequence ∧ (db.session? row.sessionId).isSome = true ∧
      db.events.any (clash · row) = false then
    .ok { db with events := db.events ++ [row] }
  else .error .storageUnavailable

/-- `next_sequence`; the sum of the largest column value and one is not an integer. -/
def nextSequence (db : Database) (id : Uuid) : Except StorageError Nat :=
  if db.lastSequence id + 1 ≤ maxInteger then .ok (db.lastSequence id + 1)
  else .error .storageUnavailable

/-- Changes the row of a session. -/
def updateSession (db : Database) (id : Uuid) (change : SessionRow → SessionRow) : Database :=
  { db with sessions := db.sessions.map fun row =>
      if row.sessionId = id then change row else row }

end Database

/-- The change that an event makes to the row of its session. -/
def EventInput.column (input : EventInput) (row : SessionRow) : SessionRow :=
  if input.kind = "session_redirected" then
    { row with state := if row.state = .awaitingClarification then .ready else row.state }
  else
    match stateForKind input.kind with
    | none => row
    | some state =>
      { row with
        state := state
        terminalAt := row.terminalAt.or
          (if terminalKinds.contains input.kind then some input.occurredAt else none) }

namespace Database

/-- `append_event_in_transaction`. -/
def appendEvent (db : Database) (input : EventInput) (keyId : KeyId) (key : SecretKey) :
    Except StorageError (PersistedEvent × Database) := do
  let sequence ← db.nextSequence input.sessionId
  let db ← db.insertEvent (input.row sequence keyId key)
  return (input.persisted sequence, db.updateSession input.sessionId input.column)

/-- A batch, event by event. -/
def appendEvents (db : Database) (keyId : KeyId) (key : SecretKey) :
    List EventInput → Except StorageError (List PersistedEvent × Database)
  | [] => .ok ([], db)
  | input :: rest => do
    let (event, db) ← db.appendEvent input keyId key
    let (events, db) ← db.appendEvents keyId key rest
    return (event :: events, db)

/-- Inserts into `command_outcomes`. -/
def insertOutcome (db : Database) (row : CommandRow) : Except StorageError Database :=
  if (db.command? row.scope row.requestId).isSome then .error .storageUnavailable
  else .ok { db with outcomes := db.outcomes ++ [row] }

def insertPortCommand (db : Database) (sessionId : Option Uuid) (requestId : Uuid)
    (record : StoredCommandRecord) : Except StorageError Database :=
  db.insertOutcome ⟨commandScope sessionId, requestId, sessionId, record⟩

def insertCreation (db : Database) (row : CreationRow) : Except StorageError Database :=
  if db.creations.any (fun other => other.sessionId = row.sessionId ∨
      other.requestId = row.requestId ∨ other.keyId = row.keyId) then
    .error .storageUnavailable
  else .ok { db with creations := db.creations ++ [row] }

/-- Inserts a session with a key of its own. -/
def insertSession (db : Database) (row : SessionRow) : Except StorageError Database :=
  if db.sessions.any (fun other => other.sessionId = row.sessionId ∨ other.keyId = row.keyId) then
    .error .storageUnavailable
  else .ok { db with sessions := db.sessions ++ [row] }

/-- Changes or deletes exactly one journal row. -/
def changeCreation (db : Database) (selected : CreationRow → Bool)
    (change : CreationRow → Option CreationRow) : Except StorageError Database :=
  if (db.creations.filter selected).length = 1 then
    .ok
      { db with
        creations := db.creations.filterMap fun row =>
          if selected row = true then change row else some row }
  else .error .storageUnavailable

/-- Journals an export of a session that is there. -/
def insertExport (db : Database) (row : ExportRow) : Except StorageError Database :=
  if (db.session? row.sessionId).isNone ∨ db.exports.any (fun other =>
      other.exportId = row.exportId ∨
        (other.sessionId = row.sessionId ∧ other.requestId = row.requestId)) then
    .error .storageUnavailable
  else .ok { db with exports := db.exports ++ [row] }

def insertDeletion (db : Database) (row : DeletionRow) : Except StorageError Database :=
  if db.deletions.any (fun other => other.sessionId = row.sessionId ∨
      other.deletionId = row.deletionId ∨ other.requestId = row.requestId) then
    .error .storageUnavailable
  else .ok { db with deletions := db.deletions ++ [row] }

/-- Deletes a session with its events; a journaled export restricts it. -/
def deleteSession (db : Database) (id : Uuid) : Except StorageError Database :=
  if db.hasExport id then .error .storageUnavailable
  else .ok
    { db with
      sessions := db.sessions.filter (·.sessionId ≠ id)
      events := db.events.filter (·.sessionId ≠ id) }

/-- `INSERT OR REPLACE`: rows with the same session or deletion go. -/
def replaceTombstone (db : Database) (row : TombstoneRow) : Database :=
  { db with
    tombstones := db.tombstones.filter (fun other =>
      other.sessionId ≠ row.sessionId ∧ other.deletionId ≠ row.deletionId) ++ [row] }

end Database

end Workbench.Sqlite
