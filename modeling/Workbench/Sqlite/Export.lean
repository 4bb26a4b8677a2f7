import Workbench.Sqlite.Lifecycle

/-!
# Sqlite: export of sessions

An export writes an encrypted bundle beside its target, records the fingerprint of the
bundle, links it to the target without replacing anything there, and commits the event
and the outcome of the command together with the end of its journal.  The journal's
state says from where a later call or a recovery goes on.
-/

namespace Workbench.Sqlite

open Workbench.Core Library Storage Program

/-! ## What the export takes from elsewhere -/

/-- The age format, the check of the stored configuration and the time format. -/
structure Exporter where
  validRecipient : String → Bool
  /-- What the stream writes for its `index`-th record. -/
  sealRecord : (recipients : List String) → (seed index : Nat) → (plaintext : String) → String
  /-- `validate_export_metadata`: the hashes of a snapshot and a lock that fit together. -/
  metadata : (configurationSnapshot sessionLock : Json) → Option (String × String)
  formatTime : Time → String

/-- A request for an export. -/
structure ExportCommand where
  sessionId : Uuid
  requestId : Uuid
  exportId : Uuid
  occurredAt : Time
  parameters : Json
  outputPath : Path
  ageRecipients : List String
  outcome : Json
  eventPayload : Json

/-- What an export draws: its event's id, the staging file and the randomness of the bundle. -/
structure ExportDraw where
  eventId : Uuid
  fileId : FileId
  seed : Nat

/-- A journal row with its payload decrypted. -/
structure ExportJournal where
  exportId : Uuid
  sessionId : Uuid
  requestId : Uuid
  parameterHash : String
  state : ExportState
  payload : ExportJournalPayload
  fingerprint : Option FileFingerprint

/-! ## Checks -/

/-- The path as one text. -/
def Path.text (path : Path) : String := path.directory ++ "/" ++ path.name

def isObject : Json → Bool
  | .object _ => true
  | _ => false

/-- The parameters that a command must have. -/
def exportParameters (ageRecipients : List String) (outputPath : Path) : Json :=
  .object [("age_recipients", .array (ageRecipients.map .string)),
    ("output_path", .string outputPath.text)]

/-- The command is what its parameters say. -/
def validateExportCommand (codec : Codec) (command : ExportCommand) : Except StorageError Unit :=
  if isObject command.eventPayload = false ∨ isObject command.outcome = false then
    .error (.invalidInput "export outcome and event payload must be objects")
  else if codec.canonicalHash (exportParameters command.ageRecipients command.outputPath)
      ≠ codec.canonicalHash command.parameters then
    .error (.invalidInput "export parameters do not match command")
  else .ok ()

namespace Exporter

variable (exporter : Exporter)

/-- `parse_recipients`. -/
def validateRecipients (recipients : List String) : Except StorageError Unit :=
  if recipients = [] then .error (.invalidInput "at least one age recipient is required")
  else if recipients.all exporter.validRecipient = false then
    .error (.invalidInput "invalid age recipient")
  else .ok ()

/-- The checks of a payload that was read back. -/
def validateJournalPayload (codec : Codec) (payload : ExportJournalPayload)
    (parameterHash : String) : Except StorageError Unit :=
  if payload.schemaVersion ≠ 1 ∨ payload.ageRecipients = [] ∨ isObject payload.outcome = false ∨
      isObject payload.eventPayload = false then
    .error .storageUnavailable
  else do
    exporter.validateRecipients payload.ageRecipients
    if codec.canonicalHash payload.parameters ≠ parameterHash then .error .authenticationFailed
    else return ()

end Exporter

/-- The metadata that a journal payload is sealed with. -/
def journalData (sessionId exportId : Uuid) : AssociatedData where
  schemaVersion := 1
  sessionId := sessionId
  objectId := toString exportId
  sequence := 0
  kind := "export_journal"

/-! ## Calls on files -/

/-- The path in its canonical directory. -/
def normalizedOutputPath (path : Path) : Op Path :=
  fileCall .storageUnavailable fun fs =>
    match fs.normalized path with
    | none => .error .unsafeExportPath
    | some normalized => .ok (normalized, fs)

/-- `symlink_metadata`. -/
def fileMetadata (path : Path) : Op (Option File) :=
  fileCall .storageUnavailable fun fs => .ok (fs.fileAt path, fs)

/-- Nothing is at the path. -/
def requireAbsent (path : Path) : Op Unit := do
  match ← fileMetadata path with
  | none => return ()
  | some _ => fail .unsafeExportPath

def removeFile (path : Path) : Op Unit :=
  fileCall .storageUnavailable fun fs =>
    if (fs.idAt path).isSome then .ok ((), fs.unlink path) else .error .storageUnavailable

/-- `create_private_file`; the operating system never gives out a file that is in use. -/
def createPrivateFile (path : Path) (id : FileId) : Op Unit :=
  fileCall .storageUnavailable fun fs =>
    if (fs.idAt path).isSome then .error .unsafeExportPath
    else if fs.isLinked id then .error .storageUnavailable
    else .ok ((), (fs.write id ⟨"", true, true, true⟩).link path id)

/-- Writes to the end of an open file. -/
def writeAll (id : FileId) (text : String) : Op Unit :=
  fileCall .storageUnavailable fun fs =>
    .ok ((), fs.write id { fs.files id with content := (fs.files id).content ++ text })

/-- Flushes a file or a directory. -/
def syncAll : Op Unit := fileCall .storageUnavailable fun fs => .ok ((), fs)

/-- Links a file to a path that must be free. -/
def hardLink (source target : Path) : Op Unit :=
  fileCall .storageUnavailable fun fs =>
    match fs.idAt source with
    | none => .error .storageUnavailable
    | some id =>
      if (fs.idAt target).isSome then .error .unsafeExportPath
      else .ok ((), fs.link target id)

/-- Links the target unless something is there. -/
def linkIfAbsent (source target : Path) : Op Unit := do
  match ← fileMetadata target with
  | none => hardLink source target
  | some _ => return ()

/-- Removes a private regular file, if one is there. -/
def removePartialStage (path : Path) : Op Unit := do
  match ← fileMetadata path with
  | none => return ()
  | some file =>
    if file.isRegular = true ∧ file.owned = true ∧ file.isPrivate = true then removeFile path
    else fail .unsafeExportPath

section

variable (codec : Codec)

/-- The fingerprint of a private regular file. -/
def fingerprintFile (path : Path) : Op FileFingerprint :=
  fileCall .unsafeExportPath fun fs =>
    match fs.fingerprint codec.blake3 path with
    | none => .error .unsafeExportPath
    | some fingerprint => .ok (fingerprint, fs)

/-- The file is the expected one. -/
def validateFingerprint (path : Path) (expected : FileFingerprint) : Op Unit := do
  let actual ← fingerprintFile codec path
  if actual ≠ expected then fail .unsafeExportPath else return ()

/-- Links the staged bundle to its target. -/
def publishStaged (stagingPath outputPath : Path) (fingerprint : FileFingerprint) : Op Unit := do
  validateFingerprint codec stagingPath fingerprint
  linkIfAbsent stagingPath outputPath
  validateFingerprint codec outputPath fingerprint

/-- Removes the staging name, if it is there. -/
def cleanupStage (path : Path) (fingerprint : FileFingerprint) : Op Unit := do
  match ← fileMetadata path with
  | none => return ()
  | some _ =>
    validateFingerprint codec path fingerprint
    removeFile path

/-! ## The bundle -/

/-- The first record of a bundle. -/
def bundleHeader (sessionId : Uuid) (hashes : String × String) (eventCount : Nat) : Json :=
  .object [("configuration_hash", .string hashes.1),
    ("event_count", .number (.natural (UInt64.ofNat eventCount))),
    ("format", .string "workbench.session-export"), ("lock_hash", .string hashes.2),
    ("schema_version", .number (.natural 1)), ("session_id", .string (toString sessionId))]

def optionalJson : Option String → Json
  | none => .null
  | some text => .string text

/-- The record of an event, written member by member. -/
def eventLine (formatTime : Time → String) (event : PersistedEvent) : String :=
  "\x7b\"attempt_id\":" ++ codec.print (optionalJson (event.attemptId.map toString)) ++
    ",\"causation_request_id\":" ++
      codec.print (optionalJson (event.causationRequestId.map toString)) ++
    ",\"effect_class\":" ++ codec.print (optionalJson event.effectClass) ++
    ",\"event_id\":" ++ codec.print (.string (toString event.eventId)) ++
    ",\"kind\":" ++ codec.print (.string event.kind) ++
    ",\"occurred_at\":" ++ codec.print (.string (formatTime event.occurredAt)) ++
    ",\"payload\":" ++ codec.print event.payload ++
    ",\"sequence\":" ++ toString event.sequence ++
    ",\"session_id\":\"" ++ toString event.sessionId ++ "\"\x7d\n"

variable (exporter : Exporter)

/-- `export_metadata`: the snapshot and the lock, and their hashes. -/
def exportMetadata (sessionId : Uuid) (key : SecretKey) : Op (Json × Json × (String × String)) := do
  match ← query (·.session? sessionId) with
  | none => fail .sessionNotFound
  | some row =>
    let configuration ← lift (row.configuration.decrypt key
      ⟨1, sessionId, "configuration", 0, "configuration_snapshot"⟩)
    let lock ← lift (row.lock.decrypt key ⟨1, sessionId, "lock", 0, "session_lock"⟩)
    match exporter.metadata configuration lock with
    | none => fail .storageUnavailable
    | some hashes => return (configuration, lock, hashes)

/-- Creates the bundle and fills it. -/
def fillBundle (sessionId : Uuid) (path : Path) (recipients : List String) (draw : ExportDraw)
    (key : SecretKey) (metadata : Json × Json × (String × String)) (rows : List EventRow) :
    Op Unit := do
  createPrivateFile path draw.fileId
  let line := fun index text =>
    writeAll draw.fileId (exporter.sealRecord recipients draw.seed index text)
  line 0 (codec.print (bundleHeader sessionId metadata.2.2 rows.length) ++ "\n")
  line 1 (codec.print metadata.1 ++ "\n")
  line 2 (codec.print metadata.2.1 ++ "\n")
  forEach rows.zipIdx fun row => do
    let event ← lift (row.1.decrypt key sessionId)
    line (row.2 + 3) (eventLine codec exporter.formatTime event)
  syncAll

/-- Writes the bundle; a failure removes it. -/
def writeAgeBundle (sessionId : Uuid) (path : Path) (recipients : List String)
    (draw : ExportDraw) : Op Unit := do
  lift (exporter.validateRecipients recipients)
  let key ← sessionKey sessionId
  let metadata ← exportMetadata exporter sessionId key
  let rows ← query (·.eventsAfter sessionId 0)
  catchError
    (fun error => do
      ignoringErrors (removeFile path)
      fail error)
    (fillBundle codec exporter sessionId path recipients draw key metadata rows)

/-! ## The journal -/

/-- Reads a journal and checks it. -/
def loadExportJournal (exportId : Uuid) : Op ExportJournal := do
  match ← query fun db => db.exports.find? (·.exportId = exportId) with
  | none => fail .storageUnavailable
  | some row =>
    let key ← sessionKey row.sessionId
    let payload ← lift (row.payload.decrypt key (journalData row.sessionId exportId))
    lift (exporter.validateJournalPayload codec payload row.parameterHash)
    if decide (row.state = .prepared) ≠ row.fingerprint.isNone then fail .storageUnavailable
    else
      return ⟨exportId, row.sessionId, row.requestId, row.parameterHash, row.state, payload,
        row.fingerprint⟩

/-- The journaled exports in the order of their ids. -/
def exportIds : Op (List Uuid) :=
  query fun db => (db.exports.map (·.exportId)).insertionSort (· ≤ ·)

/-- No journaled export has this target. -/
def ensureNoPendingTarget (outputPath : Path) : Op Unit := do
  let ids ← exportIds
  forEach ids fun exportId => do
    let journal ← loadExportJournal codec exporter exportId
    if journal.payload.outputPath = outputPath then fail .unsafeExportPath else return ()

/-- What a command leaves in its journal. -/
def ExportCommand.payload (command : ExportCommand) (outputPath : Path) (eventId : Uuid) :
    ExportJournalPayload where
  schemaVersion := 1
  parameters := command.parameters
  outputPath := outputPath
  ageRecipients := command.ageRecipients
  outcome := command.outcome
  eventId := eventId
  occurredAt := command.occurredAt
  eventPayload := command.eventPayload

def ExportCommand.journal (command : ExportCommand) (parameterHash : String)
    (payload : ExportJournalPayload) : ExportJournal :=
  ⟨command.exportId, command.sessionId, command.requestId, parameterHash, .prepared, payload, none⟩

def ExportJournal.row (journal : ExportJournal) (key : SecretKey) : ExportRow :=
  ⟨journal.exportId, journal.sessionId, journal.requestId, journal.parameterHash, journal.state,
    .encrypt key journal.payload (journalData journal.sessionId journal.exportId),
    journal.fingerprint⟩

/-- The journal of a request, new if there is none. -/
def loadOrCreateExportJournal (command : ExportCommand) (parameterHash : String)
    (eventId : Uuid) : Op ExportJournal := do
  match ← query fun db => db.exports.find? fun row =>
      row.sessionId = command.sessionId ∧ row.requestId = command.requestId with
  | some row =>
    let journal ← loadExportJournal codec exporter row.exportId
    if journal.parameterHash ≠ parameterHash then fail .requestConflict else return journal
  | none =>
    match ← query (·.session? command.sessionId) with
    | none => fail .sessionNotFound
    | some row =>
      if row.state = .deleting ∨ (← query (·.deletion? command.sessionId)).isSome then
        fail (.invalidInput "session deletion prevents export")
      else
        let outputPath ← normalizedOutputPath command.outputPath
        requireAbsent outputPath
        ensureNoPendingTarget codec exporter outputPath
        lift (exporter.validateRecipients command.ageRecipients)
        let journal := command.journal parameterHash (command.payload outputPath eventId)
        let key ← sessionKey command.sessionId
        execute (·.insertExport (journal.row key))
        return journal

/-- Moves a journal to its next stage. -/
def updateExportState (exportId : Uuid) (state : ExportState) (fingerprint : FileFingerprint) :
    Op Unit :=
  execute fun db =>
    if fingerprint.size ≤ maxInteger ∧
        (db.exports.filter (·.exportId = exportId)).length = 1 then
      .ok
        { db with
          exports := db.exports.map fun row =>
            if row.exportId = exportId then { row with state, fingerprint := some fingerprint }
            else row }
    else .error .storageUnavailable

/-! ## The protocol -/

/-- The event at the end of an export. -/
def ExportJournal.event (journal : ExportJournal) : EventInput where
  eventId := journal.payload.eventId
  sessionId := journal.sessionId
  occurredAt := journal.payload.occurredAt
  kind := "session_exported"
  causationRequestId := some journal.requestId
  attemptId := none
  effectClass := none
  payload := journal.payload.eventPayload

/-- From `prepared` to `staged`: any earlier attempt at the bundle is thrown away. -/
def stageBundle (journal : ExportJournal) (stagingPath : Path) (draw : ExportDraw) :
    Op FileFingerprint := do
  removePartialStage stagingPath
  writeAgeBundle codec exporter journal.sessionId stagingPath journal.payload.ageRecipients draw
  let fingerprint ← fingerprintFile codec stagingPath
  syncAll
  updateExportState journal.exportId .staged fingerprint
  return fingerprint

/-- From `staged` to `published`. -/
def publishBundle (journal : ExportJournal) (stagingPath : Path) (fingerprint : FileFingerprint) :
    Op Unit := do
  publishStaged codec stagingPath journal.payload.outputPath fingerprint
  syncAll
  updateExportState journal.exportId .published fingerprint

/-- From `published` to the recorded command. -/
def completeExport (journal : ExportJournal) (stagingPath : Path) (fingerprint : FileFingerprint) :
    Op CommandEventOutcome := do
  validateFingerprint codec journal.payload.outputPath fingerprint
  cleanupStage codec stagingPath fingerprint
  syncAll
  commitExportCommand codec journal.exportId journal.requestId journal.parameterHash
    journal.payload.outcome journal.event

/-- Goes on from the stage that was reached. -/
def advanceExport (journal : ExportJournal) (draw : ExportDraw) : Op CommandEventOutcome := do
  let outputPath ← normalizedOutputPath journal.payload.outputPath
  if outputPath ≠ journal.payload.outputPath then fail .unsafeExportPath
  else
    let stagingPath := outputPath.staging journal.exportId
    match journal.state, journal.fingerprint with
    | .prepared, _ =>
      let fingerprint ← stageBundle codec exporter journal stagingPath draw
      publishBundle codec journal stagingPath fingerprint
      completeExport codec journal stagingPath fingerprint
    | _, none => fail .storageUnavailable
    | .staged, some fingerprint =>
      publishBundle codec journal stagingPath fingerprint
      completeExport codec journal stagingPath fingerprint
    | .published, some fingerprint => completeExport codec journal stagingPath fingerprint

/-- The recorded outcome, or a conflict. -/
def replayExportCommand (existing : StoredCommandRecord) (parameterHash : String) :
    Except StorageError CommandEventOutcome :=
  if existing.matches "session.export" parameterHash then do
    let outcome ← codec.readOutcome existing.outcome
    return .replay outcome
  else .error .requestConflict

/-- Replays, resumes or starts an export. -/
def executeExport (command : ExportCommand) (draw : ExportDraw) : Op CommandEventOutcome := do
  lift (validateExportCommand codec command)
  let parameterHash := codec.canonicalHash command.parameters
  match ← lookupPortCommand (some command.sessionId) command.requestId with
  | some existing => lift (replayExportCommand codec existing parameterHash)
  | none =>
    let journal ← loadOrCreateExportJournal codec exporter command parameterHash draw.eventId
    advanceExport codec exporter journal draw

def CommandEventOutcome.recorded? : CommandEventOutcome → Option PersistedEvent
  | .recorded event _ => some event
  | .replay _ => none

/-- Finishes every journaled export. -/
def resumeExports (draws : Nat → ExportDraw) : Op (List PersistedEvent) := do
  let ids ← exportIds
  let outcomes ← collect ids.zipIdx fun pending => do
    let journal ← loadExportJournal codec exporter pending.1
    advanceExport codec exporter journal (draws pending.2)
  return outcomes.filterMap CommandEventOutcome.recorded?

end

end Workbench.Sqlite
