import Workbench.Library.JsonText
import Workbench.Sqlite.Export

/-!
# Sqlite: runs of the storage

One operation runs at a time, since the storage is behind a lock.  A step takes an
operation and the faults of its calls; a crash inside an operation is a step in which
every call from some point on fails, and reopening the storage keeps what is durable.
-/

namespace Workbench.Sqlite

open Library Storage Program

/-- The calls on the storage. -/
inductive Operation where
  | createSession (input : CreateSession) (eventId : Uuid) (draw : SecretKey)
  | resumeSessionCreations
  | appendEvent (input : EventInput)
  | appendEvents (events : List EventInput)
  | replay (sessionId : Uuid) (afterSequence : Nat)
  | recordCommandOutcome (scope : Scope) (requestId : Uuid) (sessionId : Option Uuid)
      (method : String) (parameters outcome : Json)
  | lookupCommandOutcome (sessionId : Option Uuid) (requestId : Uuid) (method : String)
      (parameters : Json)
  | lookupPortCommand (sessionId : Option Uuid) (requestId : Uuid)
  | recordPortCommand (sessionId : Option Uuid) (requestId : Uuid) (record : StoredCommandRecord)
  | commitPortCommand (requestId : Uuid) (record : StoredCommandRecord) (input : EventInput)
  | commitCommandEvent (requestId : Uuid) (method : String) (parameters outcome : Json)
      (event : EventInput)
  | commitCommandEvents (requestId : Uuid) (method : String) (parameters outcome : Json)
      (events : List EventInput)
  | recoverUncertainAttempts (occurredAt : Time) (eventIds : Nat → Uuid)
  | storeSessionSpend (sessionId : Uuid) (spendUsdMicros : Nat)
  | requestDeletion (sessionId deletionId requestId : Uuid) (occurredAt : Time) (actor : String)
      (eventId : Uuid)
  | resumeDeletions
  | runRetention (now : Time) (retentionDays : Option Nat) (draws : Nat → DeletionDraw)
  | executeExport (command : ExportCommand) (draw : ExportDraw)
  | resumeExports (draws : Nat → ExportDraw)

/-- Runs a program for its effect. -/
def discarding {α : Type} (prog : Op α) : Op Unit := do
  let _ ← prog
  return ()

section

variable (codec : Codec) (exporter : Exporter)

/-- What an operation does. -/
def Operation.program : Operation → Op Unit
  | .createSession input eventId draw => discarding (Sqlite.createSession codec input eventId draw)
  | .resumeSessionCreations => discarding Sqlite.resumeSessionCreations
  | .appendEvent input => discarding (Sqlite.appendEvent input)
  | .appendEvents events => discarding (Sqlite.appendEvents events)
  | .replay sessionId afterSequence => discarding (Sqlite.replay sessionId afterSequence)
  | .recordCommandOutcome scope requestId sessionId method parameters outcome =>
    discarding
      (Sqlite.recordCommandOutcome codec scope requestId sessionId method parameters outcome)
  | .lookupCommandOutcome sessionId requestId method parameters =>
    discarding (Sqlite.lookupCommandOutcome codec sessionId requestId method parameters)
  | .lookupPortCommand sessionId requestId =>
    discarding (Sqlite.lookupPortCommand sessionId requestId)
  | .recordPortCommand sessionId requestId record =>
    Sqlite.recordPortCommand sessionId requestId record
  | .commitPortCommand requestId record input =>
    discarding (Sqlite.commitPortCommand requestId record input)
  | .commitCommandEvent requestId method parameters outcome event =>
    discarding (Sqlite.commitCommandEvent codec requestId method parameters outcome event)
  | .commitCommandEvents requestId method parameters outcome events =>
    discarding (Sqlite.commitCommandEvents codec requestId method parameters outcome events)
  | .recoverUncertainAttempts occurredAt eventIds =>
    discarding (Sqlite.recoverUncertainAttempts occurredAt eventIds)
  | .storeSessionSpend sessionId spendUsdMicros =>
    Sqlite.storeSessionSpend sessionId spendUsdMicros
  | .requestDeletion sessionId deletionId requestId occurredAt actor eventId =>
    discarding
      (Sqlite.requestDeletion codec sessionId deletionId requestId occurredAt actor eventId)
  | .resumeDeletions => discarding (Sqlite.resumeDeletions codec)
  | .runRetention now retentionDays draws =>
    discarding (Sqlite.runRetention codec now retentionDays draws)
  | .executeExport command draw => discarding (Sqlite.executeExport codec exporter command draw)
  | .resumeExports draws => discarding (Sqlite.resumeExports codec exporter draws)

/-- An operation and the faults of its calls. -/
structure Action where
  operation : Operation
  faults : List Bool

/-- An action is done, whatever it returns. -/
def step (s : Store) (action : Action) : Option Store :=
  some ((action.operation.program codec exporter).run action.faults s).2

/-- The states before and after each of its writes. -/
def Action.writes (action : Action) (s : Store) : List (Store × Store) :=
  (action.operation.program codec exporter).writes action.faults s

/-- A new storage beside an arbitrary file system. -/
def Store.new (files : FileSystem) : Store := ⟨.empty, fun _ => none, files⟩

end

/-! ## A plain environment -/

/-- The JSON text of the library, and a hash that takes every text to one digest. -/
noncomputable def plainCodec : Codec where
  print := Json.toText Json.ratioFormat
  parse := Function.partialInv (Json.toText Json.ratioFormat)
  blake3 := fun _ => String.ofList (List.replicate 64 'a')
  print_injective := Json.toText_injective Json.ratioFormat
  parse_print value _ := Function.partialInv_left (Json.toText_injective Json.ratioFormat) value

/-- Bundles in the clear, for configurations of any form. -/
def plainExporter : Exporter where
  validRecipient := fun _ => true
  sealRecord := fun _ _ _ plaintext => plaintext
  metadata := fun _ _ => some ("", "")
  formatTime := fun time => toString time

/-- Every directory is canonical, there are no files, and nobody else is about. -/
def emptyFiles : FileSystem where
  canonicalDirectory := some
  entries := []
  files := fun _ => ⟨"", false, false, false⟩
  intrusions := []

/-- The creation of a session with empty contents. -/
def plainCreation (sessionId requestId : Uuid) : CreateSession where
  sessionId := sessionId
  requestId := requestId
  occurredAt := 0
  requestParameters := .null
  commandOutcome := .null
  configurationSnapshot := .null
  lockSnapshot := .null
  initialEventPayload := .null

end Workbench.Sqlite
