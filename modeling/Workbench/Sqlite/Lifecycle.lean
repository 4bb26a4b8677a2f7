import Workbench.Sqlite.Commands

/-!
# Sqlite: creation, deletion and retention of sessions

A session is created in the database and in the key store under a journal, and a journal
that a crash leaves behind is reconciled on retry and on recovery.  Deletion is journaled
too: the key goes first, then the rows, and a tombstone keeps the commands that created
and deleted the session.
-/

namespace Workbench.Sqlite

open Workbench.Core Library Storage Program

/-! ## Creation -/

/-- A request for a session. -/
structure CreateSession where
  sessionId : Uuid
  requestId : Uuid
  occurredAt : Time
  requestParameters : Json
  commandOutcome : Json
  configurationSnapshot : Json
  lockSnapshot : Json
  initialEventPayload : Json

/-- The row that announces a creation. -/
def CreateSession.journal (input : CreateSession) (parameterHash : String) : CreationRow :=
  ⟨input.sessionId, input.requestId, parameterHash, .session input.sessionId, .prepared⟩

/-- The row of the new session. -/
def CreateSession.sessionRow (input : CreateSession) (key : SecretKey) : SessionRow where
  sessionId := input.sessionId
  keyId := .session input.sessionId
  state := .ready
  createdAt := input.occurredAt
  terminalAt := none
  configuration := encryptJson key input.sessionId "configuration" 0 "configuration_snapshot"
    input.configurationSnapshot
  lock := encryptJson key input.sessionId "lock" 0 "session_lock" input.lockSnapshot
  spendUsdMicros := 0

/-- The first event of the new session. -/
def CreateSession.createdEvent (input : CreateSession) (eventId : Uuid) : EventInput where
  eventId := eventId
  sessionId := input.sessionId
  occurredAt := input.occurredAt
  kind := "session_created"
  causationRequestId := some input.requestId
  attemptId := none
  effectClass := none
  payload := input.initialEventPayload

/-- `reconcile_creation`: an envelope without a session row is destroyed, the journal goes. -/
def reconcileCreation (journal : CreationRow) : Op Unit :=
  if journal.keyId ≠ .session journal.sessionId then fail .storageUnavailable
  else do
    match ← query (·.session? journal.sessionId) with
    | some row => if row.keyId ≠ journal.keyId then fail .storageUnavailable else pure ()
    | none => destroySessionKey journal.sessionId
    execute (·.changeCreation (· = journal) fun _ => none)

/-- Reconciles a journal that was found, unless it belongs to another request. -/
def reconcileFound (found : Option CreationRow) (fits : CreationRow → Bool) : Op Unit :=
  match found with
  | none => return ()
  | some journal =>
    if fits journal = true then reconcileCreation journal else fail .requestConflict

/-- Reconciles what a request left. -/
def reconcileCreationByRequest (requestId : Uuid) : Op Unit := do
  let found ← query (·.creationByRequest? requestId)
  reconcileFound found fun _ => true

/-- Reconciles what an earlier attempt left. -/
def reconcileCreateRetry (sessionId requestId : Uuid) (parameterHash : String) : Op Unit := do
  let byRequest ← query (·.creationByRequest? requestId)
  reconcileFound byRequest fun journal => journal.parameterHash = parameterHash
  let bySession ← query (·.creationBySession? sessionId)
  reconcileFound bySession fun journal =>
    journal.requestId = requestId && journal.parameterHash = parameterHash

section

variable (codec : Codec)

/-- Makes a session: its row, its first event, the outcome and the end of the journal. -/
def Database.commitCreation (db : Database) (input : CreateSession) (parameterHash : String)
    (eventId : Uuid) (key : SecretKey) : Except StorageError Database := do
  let db ← db.insertSession (input.sessionRow key)
  let db ← db.insertEvent ((input.createdEvent eventId).row 1 (.session input.sessionId) key)
  let db ← db.insertOutcome ⟨.daemon, input.requestId, some input.sessionId,
    ⟨"session.create", parameterHash, codec.print input.commandOutcome⟩⟩
  db.changeCreation
    (fun row => row.sessionId = input.sessionId ∧ row.requestId = input.requestId ∧
      row.keyId = .session input.sessionId ∧ row.state = .keyCreated)
    fun _ => none

/-- A creation behind its journal. -/
def finishCreateSession (input : CreateSession) (parameterHash : String) (eventId : Uuid)
    (draw : SecretKey) : Op CommandOutcome := do
  createSessionKey input.sessionId draw
  -- `mark_creation_key_created`
  execute (·.changeCreation (· = input.journal parameterHash) fun row =>
    some { row with state := .keyCreated })
  let key ← sessionKey input.sessionId
  execute (·.commitCreation codec input parameterHash eventId key)
  return .recorded input.commandOutcome

/-- `create_session`, with the event id and the key that it draws. -/
def createSession (input : CreateSession) (eventId : Uuid) (draw : SecretKey) :
    Op CommandOutcome := do
  let parameterHash := codec.canonicalHash input.requestParameters
  match ← lookupPortCommand none input.requestId with
  | some record =>
    if record.matches "session.create" parameterHash then do
      let outcome ← lift (codec.readOutcome record.outcome)
      return .replay outcome
    else fail .requestConflict
  | none =>
    reconcileCreateRetry input.sessionId input.requestId parameterHash
    execute (·.insertCreation (input.journal parameterHash))
    catchError
      (fun error => do
        ignoringErrors (reconcileCreationByRequest input.requestId)
        fail error)
      (finishCreateSession codec input parameterHash eventId draw)

end

/-- Reconciles every journaled creation. -/
def resumeSessionCreations : Op Nat := do
  let journals ← query fun db =>
    db.creations.insertionSort fun first second => first.sessionId ≤ second.sessionId
  forEach journals reconcileCreation
  return journals.length

/-! ## Deletion -/

/-- What a deletion reports. -/
structure DeletionSummary where
  sessionId : Uuid
  deletionId : Uuid
  keyDestroyed : Bool

def deletionParameters (sessionId : Uuid) : Json :=
  .object [("confirm_session_id", .string (toString sessionId))]

def deletionOutcome (sessionId deletionId : Uuid) : Json :=
  .object [("deletion_id", .string (toString deletionId)), ("key_destroyed", .bool true),
    ("session_id", .string (toString sessionId))]

/-- No export of the session is journaled. -/
def ensureNoPendingExport (sessionId : Uuid) : Op Unit := do
  if ← query (·.hasExport sessionId) then fail (.invalidInput "session has a pending export")
  else return ()

/-- The states that retention selects. -/
def isFinished : SessionState → Bool
  | .completed | .failed | .cancelled | .abandoned => true
  | _ => false

/-- The states in which a session may be deleted. -/
def isDeletable (state : SessionState) : Bool := isFinished state || state = .deleting

/-- The event that a deletion leaves in the log until the log itself goes. -/
def deletionEvent (sessionId deletionId requestId eventId : Uuid) (occurredAt : Time)
    (actor : String) : EventInput where
  eventId := eventId
  sessionId := sessionId
  occurredAt := occurredAt
  kind := "session_deletion_requested"
  causationRequestId := some requestId
  attemptId := none
  effectClass := none
  payload := .object [("actor", .string actor), ("deletion_id", .string (toString deletionId))]

/-- The transaction that journals a deletion. -/
def Database.journalDeletion (db : Database) (journal : DeletionRow) (event : EventInput)
    (keyId : KeyId) (key : SecretKey) : Except StorageError Database := do
  let sequence ← db.nextSequence journal.sessionId
  let db ← db.insertEvent (event.row sequence keyId key)
  let db ← db.insertDeletion journal
  return db.updateSession journal.sessionId fun row => { row with state := .deleting }

section

variable (codec : Codec)

/-- The command that created a session, as its outcome row records it. -/
def Database.creationCommand? (db : Database) (sessionId : Uuid) :
    Option (Uuid × StoredCommandRecord) :=
  (db.outcomes.find? fun row =>
    row.sessionId = some sessionId ∧ row.record.method = "session.create").map
      fun row => (row.requestId, row.record)

/-- What a journaled deletion leaves behind. -/
def DeletionRow.tombstone (journal : DeletionRow)
    (creation : Option (Uuid × StoredCommandRecord)) : TombstoneRow where
  sessionId := journal.sessionId
  deletionId := journal.deletionId
  creation := creation
  deletionRequestId := journal.requestId
  deletion := ⟨"session.delete", codec.canonicalHash (deletionParameters journal.sessionId),
    codec.print (deletionOutcome journal.sessionId journal.deletionId)⟩

/-- The transaction that removes the rows of a session. -/
def Database.purge (db : Database) (journal : DeletionRow) : Except StorageError Database := do
  let tombstone := journal.tombstone codec (db.creationCommand? journal.sessionId)
  let db ← ({ db with
      outcomes := db.outcomes.filter (·.sessionId ≠ some journal.sessionId) } :
        Database).deleteSession
    journal.sessionId
  let db := db.replaceTombstone tombstone
  return { db with deletions := db.deletions.filter (·.sessionId ≠ journal.sessionId) }

/-- The key goes first, then the rows. -/
def finishDeletion (sessionId : Uuid) : Op DeletionSummary := do
  ensureNoPendingExport sessionId
  match ← query (·.deletion? sessionId) with
  | none => fail .sessionNotFound
  | some journal =>
    destroySessionKey sessionId
    execute (·.purge codec journal)
    return ⟨sessionId, journal.deletionId, true⟩

/-- `request_deletion`, with the event id that it draws. -/
def requestDeletion (sessionId deletionId requestId : Uuid) (occurredAt : Time) (actor : String)
    (eventId : Uuid) : Op DeletionSummary := do
  match ← query (·.tombstone? sessionId) with
  | some tombstone =>
    -- `replay_deletion_tombstone`
    if tombstone.deletionRequestId ≠ requestId ∨
        tombstone.deletion.parameterHash ≠ codec.canonicalHash (deletionParameters sessionId) then
      fail .sessionNotFound
    else return ⟨sessionId, tombstone.deletionId, true⟩
  | none =>
    ensureNoPendingExport sessionId
    match ← query (·.session? sessionId) with
    | none => fail .sessionNotFound
    | some row =>
      if isDeletable row.state = false then
        fail (.invalidInput "only terminal sessions may be deleted")
      else
        match ← query (·.deletion? sessionId) with
        | some journal =>
          if journal.requestId ≠ requestId then fail .requestConflict
          else finishDeletion codec sessionId
        | none =>
          let keyId ← sessionKeyId sessionId
          let key ← sessionKey sessionId
          execute (·.journalDeletion ⟨sessionId, deletionId, requestId⟩
            (deletionEvent sessionId deletionId requestId eventId occurredAt actor) keyId key)
          finishDeletion codec sessionId

/-- Finishes every journaled deletion. -/
def resumeDeletions : Op (List DeletionSummary) := do
  let sessionIds ← query fun db => (db.deletions.map (·.sessionId)).insertionSort (· ≤ ·)
  collect sessionIds (finishDeletion codec)

/-! ## Retention -/

/-- A day, in nanoseconds. -/
def day : Time := 86400 * 10 ^ 9

/-- The terminal sessions that ended at or before a time, in order. -/
def Database.terminalSince (db : Database) (threshold : Time) : List Uuid :=
  (db.sessions.filterMap fun row =>
    match row.terminalAt with
    | none => none
    | some terminalAt =>
      if isFinished row.state = true ∧ terminalAt ≤ threshold then some row.sessionId
      else none).insertionSort (· ≤ ·)

/-- The identifiers that retention draws for one session. -/
structure DeletionDraw where
  deletionId : Uuid
  requestId : Uuid
  eventId : Uuid

/-- Deletes the sessions that ended long enough ago. -/
def runRetention (now : Time) (retentionDays : Option Nat) (draws : Nat → DeletionDraw) :
    Op (List DeletionSummary) :=
  match retentionDays with
  | none => return []
  | some 0 => fail (.invalidInput "retention must be at least one day")
  | some days => do
    let dueSessions ← query (·.terminalSince (now - days * day))
    collect dueSessions.zipIdx fun due =>
      requestDeletion codec due.1 (draws due.2).deletionId (draws due.2).requestId now
        "retention" (draws due.2).eventId

end

end Workbench.Sqlite
