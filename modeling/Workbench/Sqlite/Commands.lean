import Workbench.Sqlite.Store

/-!
# Sqlite: events and recorded commands

Appending and replaying events, and the operations that record the outcome of a command
under its request id, alone or in one transaction with the events of the command.
Identifiers that are drawn at random are arguments.
-/

namespace Workbench.Sqlite

open Workbench.Core Library Storage Program

/-! ## Results -/

/-- Recorded now, or replayed. -/
inductive CommandOutcome where
  | recorded (outcome : Json)
  | replay (outcome : Json)

/-- Recorded with an event, or replayed. -/
inductive CommandEventOutcome where
  | recorded (event : PersistedEvent) (outcome : Json)
  | replay (outcome : Json)

/-- Recorded with events, or replayed. -/
inductive CommandEventsOutcome where
  | recorded (events : List PersistedEvent) (outcome : Json)
  | replay (outcome : Json)

/-- Applied with an event, or replayed. -/
inductive StoredCommandCommit where
  | applied (event : PersistedEvent)
  | replayed (record : StoredCommandRecord)

/-- An attempt that recovery has marked. -/
structure RecoveredAttempt where
  sessionId : Uuid
  attemptId : Uuid
  eventId : Uuid

/-! ## Events -/

/-- `session_key_id`: the column of a session that has a row. -/
def sessionKeyId (sessionId : Uuid) : Op KeyId := do
  match ← query (·.session? sessionId) with
  | none => fail .sessionNotFound
  | some row => return row.keyId

def appendEvent (input : EventInput) : Op PersistedEvent := do
  let keyId ← sessionKeyId input.sessionId
  let key ← sessionKey input.sessionId
  transaction fun db => db.appendEvent input keyId key

/-- Appends events of one session at once. -/
def appendEvents (events : List EventInput) : Op (List PersistedEvent) :=
  match events with
  | [] => fail (.invalidInput "atomic append requires at least one event")
  | first :: _ =>
    if events.any (·.sessionId ≠ first.sessionId) then
      fail (.invalidInput "atomic append cannot cross sessions")
    else do
      let keyId ← sessionKeyId first.sessionId
      let key ← sessionKey first.sessionId
      transaction fun db => db.appendEvents keyId key events

/-- The rows after a cursor, by sequence. -/
def Database.eventsAfter (db : Database) (sessionId : Uuid) (afterSequence : Nat) : List EventRow :=
  ((db.eventsOf sessionId).filter (afterSequence < ·.sequence)).insertionSort
    (·.sequence ≤ ·.sequence)

/-- The events after a cursor, decrypted. -/
def replay (sessionId : Uuid) (afterSequence : Nat) : Op (List PersistedEvent) :=
  if maxInteger < afterSequence then fail (.invalidInput "cursor exceeds SQLite range")
  else do
    let key ← sessionKey sessionId
    let rows ← query (·.eventsAfter sessionId afterSequence)
    lift (rows.mapM (·.decrypt key sessionId))

/-! ## Recorded commands -/

/-- Same method and same parameters. -/
def StoredCommandRecord.matches (existing : StoredCommandRecord) (method parameterHash : String) :
    Bool :=
  existing.method = method && existing.parameterHash = parameterHash

/-- The command table first, then the tombstones. -/
def lookupPortCommand (sessionId : Option Uuid) (requestId : Uuid) :
    Op (Option StoredCommandRecord) := do
  match ← query (·.command? (commandScope sessionId) requestId) with
  | some record => return some record
  | none => query (·.buried? sessionId requestId)

/-- Sessions are created in the daemon's scope, and nothing else is recorded there. -/
def scopeFits (sessionId : Option Uuid) (method : String) : Bool :=
  sessionId.isNone == (method == "session.create")

/-- Ends an export journal. -/
def Database.removeExport (db : Database) (exportId : Uuid) : Database :=
  { db with exports := db.exports.filter (·.exportId ≠ exportId) }

/-- `commit_export_command`: the event, the outcome and the end of the journal at once. -/
def Database.commitExport (db : Database) (exportId requestId : Uuid)
    (record : StoredCommandRecord) (event : EventInput) (keyId : KeyId) (key : SecretKey) :
    Except StorageError (StoredCommandCommit × Database) :=
  match db.exports.find? (fun row => row.exportId = exportId ∧ row.sessionId = event.sessionId ∧
      row.requestId = requestId ∧ row.parameterHash = record.parameterHash) with
  | none => .error .storageUnavailable
  | some journal =>
    if journal.state ≠ .published then .error .storageUnavailable
    else
      match db.command? (commandScope (some event.sessionId)) requestId with
      | some existing =>
        if existing.matches record.method record.parameterHash then
          .ok (.replayed existing, db.removeExport exportId)
        else .error .requestConflict
      | none => do
        let (persisted, db) ← db.appendEvent event keyId key
        let db ← db.insertPortCommand (some event.sessionId) requestId record
        if (db.exports.filter (·.exportId = exportId)).length ≠ 1 then
          .error .storageUnavailable
        else return (.applied persisted, db.removeExport exportId)

section

variable (codec : Codec)

/-- Records an outcome, or replays the one that is there. -/
def recordCommandOutcome (scope : Scope) (requestId : Uuid) (sessionId : Option Uuid)
    (method : String) (parameters outcome : Json) : Op CommandOutcome :=
  if scope ≠ commandScope sessionId ∨ scopeFits sessionId method = false then
    fail (.invalidInput "command outcome scope is invalid")
  else
    transaction fun db =>
      match db.command? scope requestId with
      | some existing => do
        let recorded ← codec.readOutcome existing.outcome
        if existing.matches method (codec.canonicalHash parameters) then
          return (.replay recorded, db)
        else .error .requestConflict
      | none => do
        let db ← db.insertOutcome ⟨scope, requestId, sessionId,
          ⟨method, codec.canonicalHash parameters, codec.print outcome⟩⟩
        return (.recorded outcome, db)

/-- The recorded outcome of the same command. -/
def lookupCommandOutcome (sessionId : Option Uuid) (requestId : Uuid) (method : String)
    (parameters : Json) : Op (Option Json) :=
  if scopeFits sessionId method = false ∨ method = "" ∨ 128 < method.utf8ByteSize then
    fail (.invalidInput "command outcome scope is invalid")
  else do
    match ← lookupPortCommand sessionId requestId with
    | none => return none
    | some existing =>
      if existing.matches method (codec.canonicalHash parameters) then
        let outcome ← lift (codec.readOutcome existing.outcome)
        return some outcome
      else fail .requestConflict

/-- Records an outcome unless it is there. -/
def recordPortCommand (sessionId : Option Uuid) (requestId : Uuid)
    (record : StoredCommandRecord) : Op Unit := do
  lift record.validate
  if scopeFits sessionId record.method = false then
    fail (.invalidInput "command outcome scope is invalid")
  else
    match ← lookupPortCommand sessionId requestId with
    | some existing =>
      if existing.matches record.method record.parameterHash then return ()
      else fail .requestConflict
    | none =>
      match sessionId with
      | none => execute (·.insertPortCommand none requestId record)
      | some id =>
        if (← query (·.session? id)).isNone then fail .sessionNotFound
        else execute (·.insertPortCommand (some id) requestId record)

/-- An event and an outcome at once, or a replay. -/
def commitPortCommand (requestId : Uuid) (record : StoredCommandRecord) (input : EventInput) :
    Op StoredCommandCommit := do
  lift record.validate
  if record.method = "session.create" ∨ input.causationRequestId ≠ some requestId then
    fail (.invalidInput "transactional command scope is invalid")
  else
    let keyId ← sessionKeyId input.sessionId
    let key ← sessionKey input.sessionId
    transaction fun db =>
      match db.command? (commandScope (some input.sessionId)) requestId with
      | some existing =>
        if existing.matches record.method record.parameterHash then
          .ok (.replayed existing, db)
        else .error .requestConflict
      | none => do
        let (event, db) ← db.appendEvent input keyId key
        let db ← db.insertPortCommand (some input.sessionId) requestId record
        return (.applied event, db)

/-- Events and an outcome at once, or a replay. -/
def commitCommandEvents (requestId : Uuid) (method : String) (parameters outcome : Json)
    (events : List EventInput) : Op CommandEventsOutcome :=
  match events with
  | [] => fail (.invalidInput "transactional command requires at least one event")
  | first :: _ =>
    if method = "session.create" ∨ first.causationRequestId ≠ some requestId ∨
        events.any (fun event =>
          event.sessionId ≠ first.sessionId ∨ event.causationRequestId.isNone) then
      fail (.invalidInput "transactional command scope is invalid")
    else do
      let record : StoredCommandRecord :=
        ⟨method, codec.canonicalHash parameters, codec.print outcome⟩
      lift record.validate
      let keyId ← sessionKeyId first.sessionId
      let key ← sessionKey first.sessionId
      transaction fun db =>
        match db.command? (commandScope (some first.sessionId)) requestId with
        | some existing =>
          if existing.matches record.method record.parameterHash then do
            let recorded ← codec.readOutcome existing.outcome
            return (.replay recorded, db)
          else .error .requestConflict
        | none => do
          let (persisted, db) ← db.appendEvents keyId key events
          let db ← db.insertPortCommand (some first.sessionId) requestId record
          return (.recorded persisted outcome, db)

/-- `commitCommandEvents` of one event. -/
def commitCommandEvent (requestId : Uuid) (method : String) (parameters outcome : Json)
    (event : EventInput) : Op CommandEventOutcome := do
  match ← commitCommandEvents codec requestId method parameters outcome [event] with
  | .recorded events outcome =>
    match events.getLast? with
    | none => fail .storageUnavailable
    | some event => return .recorded event outcome
  | .replay outcome => return .replay outcome

/-- The end of an export: event, outcome and journal. -/
def commitExportCommand (exportId requestId : Uuid) (parameterHash : String) (outcome : Json)
    (event : EventInput) : Op CommandEventOutcome :=
  if event.kind ≠ "session_exported" ∨ event.causationRequestId ≠ some requestId then
    fail (.invalidInput "export command event is invalid")
  else do
    let record : StoredCommandRecord := ⟨"session.export", parameterHash, codec.print outcome⟩
    lift record.validate
    let keyId ← sessionKeyId event.sessionId
    let key ← sessionKey event.sessionId
    match ← transaction fun db => db.commitExport exportId requestId record event keyId key with
    | .applied persisted => return .recorded persisted outcome
    | .replayed existing => do
      -- read after the commit: the journal is gone even if the text is not JSON
      let recorded ← lift (codec.readOutcome existing.outcome)
      return .replay recorded

end

/-! ## Attempts without a result -/

/-- The kinds that settle an attempt. -/
def settlingKinds : List String :=
  ["session_completed", "session_failed", "session_cancelled", "session_abandoned",
    "outcome_unknown", "outcome_reconciled"]

/-- The attempts that started and that no event settles, in order. -/
def Database.uncertainAttempts (db : Database) : List (Uuid × Uuid) :=
  ((db.events.filterMap fun started =>
      if started.kind = "dispatch_started" then
        started.attemptId.map fun attempt => (started.sessionId, attempt)
      else none).dedup.filter fun attempt =>
        !db.events.any fun finished =>
          finished.sessionId = attempt.1 && finished.attemptId = some attempt.2 &&
            settlingKinds.contains finished.kind).insertionSort
    fun first second => first.1 < second.1 ∨ (first.1 = second.1 ∧ first.2 ≤ second.2)

/-- The event that recovery appends for an attempt. -/
def uncertainEvent (occurredAt : Time) (eventId sessionId attemptId : Uuid) : EventInput where
  eventId := eventId
  sessionId := sessionId
  occurredAt := occurredAt
  kind := "outcome_unknown"
  causationRequestId := none
  attemptId := some attemptId
  effectClass := none
  payload := .object
    [("attempt_id", .string (toString attemptId)), ("reason", .string "daemon_recovery"),
      ("reconciliation_options",
        .array [.string "retry", .string "accept_result", .string "abandon"])]

/-- Marks every attempt that nothing settles. -/
def recoverUncertainAttempts (occurredAt : Time) (eventIds : Nat → Uuid) :
    Op (List RecoveredAttempt) := do
  let attempts ← query Database.uncertainAttempts
  let recovered : List RecoveredAttempt :=
    attempts.zipIdx.map fun attempt => ⟨attempt.1.1, attempt.1.2, eventIds attempt.2⟩
  forEach recovered fun attempt => do
    let _ ← appendEvent (uncertainEvent occurredAt attempt.eventId attempt.sessionId
      attempt.attemptId)
  return recovered

/-! ## Spending -/

/-- Writes the spend column. -/
def storeSessionSpend (sessionId : Uuid) (spendUsdMicros : Nat) : Op Unit :=
  if maxInteger < spendUsdMicros then fail (.invalidInput "spend_usd_micros overflow")
  else
    execute fun db =>
      if (db.session? sessionId).isNone then .error .sessionNotFound
      else .ok (db.updateSession sessionId fun row => { row with spendUsdMicros })

end Workbench.Sqlite
