import Workbench.Core.Session
import Workbench.Protocol.Wire

/-!
# Protocol: client commands

The commands with their parameters, how they are written to and read from JSON values, and
the checks that a command must pass to be read.
-/

namespace Workbench.Protocol

open Library Json
open Workbench.Core (ApprovalDecision ReconciliationResolution isIdentifier)

/-! ## Parameters -/

/-- Parameters of `initialize`. -/
structure InitializeParams where
  clientName : String
  clientVersion : String
  supportedProtocols : List String

structure EmptyParams where

/-- Parameters of `session.create`. -/
structure CreateSessionParams where
  persistent : Bool
  configurationOverrides : Option JsonMap
  workflow : Option String

/-- Parameters of `session.list`. -/
structure ListSessionsParams where
  limit : UInt16
  beforeSessionId : Option Uuid

/-- Parameters of `session.attach`. -/
structure AttachSessionParams where
  afterSequence : UInt64

/-- Parameters of `session.prompt`. -/
structure PromptParams where
  text : String
  explicitTarget : Option String

/-- Parameters of `session.redirect`. -/
structure RedirectParams where
  instruction : String

/-- Parameters of `session.approval.resolve`. -/
structure ApprovalParams where
  approvalId : Uuid
  decision : ApprovalDecision

/-- Parameters of `session.reconcile`. -/
structure ReconciliationParams where
  attemptId : Uuid
  resolution : ReconciliationResolution
  evidence : Option String

/-- Parameters of `session.export`. -/
structure ExportParams where
  outputPath : String
  ageRecipients : List String

/-- Parameters of `session.delete`. -/
structure DeleteParams where
  confirmSessionId : Uuid

/-- The names of the decisions. -/
def approvalDecisions : List (String × ApprovalDecision) := [("grant", .grant), ("deny", .deny)]

/-- The names of the resolutions. -/
def reconciliationResolutions : List (String × ReconciliationResolution) :=
  [("retry", .retry), ("accept_result", .acceptResult), ("abandon", .abandon)]

/-- The limit of a list that names none. -/
def defaultSessionListLimit : UInt16 := 50

/-- Reads an integer of 16 bits. -/
def asU16 (value : Json) : Option UInt16 :=
  value.asU64.bind fun n => if n.toNat < 2 ^ 16 then some n.toUInt16 else none

def ofU16 (n : UInt16) : Json := .ofU64 n.toUInt64

def InitializeParams.toValue (params : InitializeParams) : Json :=
  .record [("client_name", some (.string params.clientName)),
    ("client_version", some (.string params.clientVersion)),
    ("supported_protocols", some (.ofStrings params.supportedProtocols))]

def InitializeParams.fromValue (value : Json) : Option InitializeParams := do
  guard (value.isRecord ["client_name", "client_version", "supported_protocols"] 3)
  let clientName ← value.required asString "client_name" 0
  let clientVersion ← value.required asString "client_version" 1
  let supportedProtocols ← value.required (asList asString) "supported_protocols" 2
  return { clientName, clientVersion, supportedProtocols }

def EmptyParams.toValue (_ : EmptyParams) : Json := .record []

def EmptyParams.fromValue (value : Json) : Option EmptyParams := do
  guard (value.isRecord [] 0)
  return {}

def CreateSessionParams.toValue (params : CreateSessionParams) : Json :=
  .record [("persistent", some (.bool params.persistent)),
    ("configuration_overrides", params.configurationOverrides.map ofJsonMap),
    ("workflow", params.workflow.map .string)]

def CreateSessionParams.fromValue (value : Json) : Option CreateSessionParams := do
  guard (value.isRecord ["persistent", "configuration_overrides", "workflow"] 1)
  let persistent ← value.required asBool "persistent" 0
  let configurationOverrides ← value.optional asJsonMap "configuration_overrides" 1
  let workflow ← value.optional asString "workflow" 2
  return { persistent, configurationOverrides, workflow }

def ListSessionsParams.toValue (params : ListSessionsParams) : Json :=
  .record [("limit", some (ofU16 params.limit)),
    ("before_session_id", params.beforeSessionId.map ofUuid)]

def ListSessionsParams.fromValue (value : Json) : Option ListSessionsParams := do
  guard (value.isRecord ["limit", "before_session_id"] 0)
  let limit ← value.defaulted asU16 "limit" 0 defaultSessionListLimit
  let beforeSessionId ← value.optional asUuid "before_session_id" 1
  return { limit, beforeSessionId }

def AttachSessionParams.toValue (params : AttachSessionParams) : Json :=
  .record [("after_sequence", some (.ofU64 params.afterSequence))]

def AttachSessionParams.fromValue (value : Json) : Option AttachSessionParams := do
  guard (value.isRecord ["after_sequence"] 1)
  let afterSequence ← value.required asU64 "after_sequence" 0
  return { afterSequence }

def PromptParams.toValue (params : PromptParams) : Json :=
  .record [("text", some (.string params.text)),
    ("explicit_target", params.explicitTarget.map .string)]

def PromptParams.fromValue (value : Json) : Option PromptParams := do
  guard (value.isRecord ["text", "explicit_target"] 1)
  let text ← value.required asString "text" 0
  let explicitTarget ← value.optional asString "explicit_target" 1
  return { text, explicitTarget }

def RedirectParams.toValue (params : RedirectParams) : Json :=
  .record [("instruction", some (.string params.instruction))]

def RedirectParams.fromValue (value : Json) : Option RedirectParams := do
  guard (value.isRecord ["instruction"] 1)
  let instruction ← value.required asString "instruction" 0
  return { instruction }

def ApprovalParams.toValue (params : ApprovalParams) : Json :=
  .record [("approval_id", some (ofUuid params.approvalId)),
    ("decision", some (.ofVariant approvalDecisions params.decision))]

def ApprovalParams.fromValue (value : Json) : Option ApprovalParams := do
  guard (value.isRecord ["approval_id", "decision"] 2)
  let approvalId ← value.required asUuid "approval_id" 0
  let decision ← value.required (asVariant approvalDecisions) "decision" 1
  return { approvalId, decision }

def ReconciliationParams.toValue (params : ReconciliationParams) : Json :=
  .record [("attempt_id", some (ofUuid params.attemptId)),
    ("resolution", some (.ofVariant reconciliationResolutions params.resolution)),
    ("evidence", params.evidence.map .string)]

def ReconciliationParams.fromValue (value : Json) : Option ReconciliationParams := do
  guard (value.isRecord ["attempt_id", "resolution", "evidence"] 2)
  let attemptId ← value.required asUuid "attempt_id" 0
  let resolution ← value.required (asVariant reconciliationResolutions) "resolution" 1
  let evidence ← value.optional asString "evidence" 2
  return { attemptId, resolution, evidence }

def ExportParams.toValue (params : ExportParams) : Json :=
  .record [("output_path", some (.string params.outputPath)),
    ("age_recipients", some (.ofStrings params.ageRecipients))]

def ExportParams.fromValue (value : Json) : Option ExportParams := do
  guard (value.isRecord ["output_path", "age_recipients"] 2)
  let outputPath ← value.required asString "output_path" 0
  let ageRecipients ← value.required (asList asString) "age_recipients" 1
  return { outputPath, ageRecipients }

def DeleteParams.toValue (params : DeleteParams) : Json :=
  .record [("confirm_session_id", some (ofUuid params.confirmSessionId))]

def DeleteParams.fromValue (value : Json) : Option DeleteParams := do
  guard (value.isRecord ["confirm_session_id"] 1)
  let confirmSessionId ← value.required asUuid "confirm_session_id" 0
  return { confirmSessionId }

/-! ## Commands -/

/-- The methods with their parameters. -/
inductive Command where
  | initializeProtocol (params : InitializeParams)
  | statusGet (params : EmptyParams)
  | sessionCreate (params : CreateSessionParams)
  | sessionList (params : ListSessionsParams)
  | sessionGet (params : EmptyParams)
  | sessionAttach (params : AttachSessionParams)
  | sessionPrompt (params : PromptParams)
  | sessionPause (params : EmptyParams)
  | sessionResume (params : EmptyParams)
  | sessionRedirect (params : RedirectParams)
  | sessionCancel (params : EmptyParams)
  | sessionApprovalResolve (params : ApprovalParams)
  | sessionReconcile (params : ReconciliationParams)
  | sessionExport (params : ExportParams)
  | sessionDelete (params : DeleteParams)

/-- The text for an identifier that is not of version 7. -/
def requireUuidV7 (id : Uuid) (field : String) : Except String Unit :=
  if id.isV7 then .ok () else .error (field ++ " must be a UUIDv7")

/-- A text of 1 byte to 1 MiB. -/
def validateContent (value field : String) : Except String Unit :=
  if value = "" ∨ 1048576 < value.utf8ByteSize then
    .error (field ++ " must contain 1 to 1048576 bytes")
  else .ok ()

/-- A target is an identifier. -/
def validateIdentifier (value : String) : Except String Unit :=
  if isIdentifier value then .ok () else .error "explicit_target has an invalid identifier"

/-- An absolute path without a `..` among its components. -/
def validateOutputPath (value : String) : Except String Unit :=
  if 4096 < value.utf8ByteSize ∨ value.toList.head? ≠ some '/'
      ∨ ['.', '.'] ∈ value.toList.splitOn '/' then
    .error "output_path must be an absolute non-traversing path"
  else .ok ()

/-- Checks an optional field where it is present. -/
def validateOptional {α : Type} (check : α → Except String Unit) : Option α → Except String Unit
  | none => .ok ()
  | some value => check value

namespace Command

/-- The name on the wire. -/
def method : Command → String
  | initializeProtocol _ => "initialize"
  | statusGet _ => "status.get"
  | sessionCreate _ => "session.create"
  | sessionList _ => "session.list"
  | sessionGet _ => "session.get"
  | sessionAttach _ => "session.attach"
  | sessionPrompt _ => "session.prompt"
  | sessionPause _ => "session.pause"
  | sessionResume _ => "session.resume"
  | sessionRedirect _ => "session.redirect"
  | sessionCancel _ => "session.cancel"
  | sessionApprovalResolve _ => "session.approval.resolve"
  | sessionReconcile _ => "session.reconcile"
  | sessionExport _ => "session.export"
  | sessionDelete _ => "session.delete"

/-- Whether a session must be named. -/
def requiresSession : Command → Bool
  | initializeProtocol _ | statusGet _ | sessionCreate _ | sessionList _ => false
  | _ => true

/-- The parameters as they are written. -/
def paramsValue : Command → Json
  | initializeProtocol params => params.toValue
  | statusGet params | sessionGet params | sessionPause params | sessionResume params
  | sessionCancel params => params.toValue
  | sessionCreate params => params.toValue
  | sessionList params => params.toValue
  | sessionAttach params => params.toValue
  | sessionPrompt params => params.toValue
  | sessionRedirect params => params.toValue
  | sessionApprovalResolve params => params.toValue
  | sessionReconcile params => params.toValue
  | sessionExport params => params.toValue
  | sessionDelete params => params.toValue

/-- The checks of the parameters. -/
def validate : Command → Except String Unit
  | initializeProtocol params => do
    if params.clientName = "" ∨ 128 < params.clientName.utf8ByteSize
        ∨ params.clientVersion = "" ∨ 128 < params.clientVersion.utf8ByteSize then
      throw "client name and version must contain 1 to 128 bytes"
    if params.supportedProtocols = [] ∨ ¬ params.supportedProtocols.Nodup
        ∨ params.supportedProtocols.any (fun protocol => 32 < protocol.utf8ByteSize) then
      throw "supported_protocols must be non-empty and unique"
  | sessionCreate params => do
    if params.persistent = false then throw "feature 001 supports persistent sessions only"
    validateOptional validateIdentifier params.workflow
  | sessionList params => do
    if params.limit < 1 ∨ 100 < params.limit then throw "limit must be between 1 and 100"
    validateOptional (requireUuidV7 · "before_session_id") params.beforeSessionId
  | sessionPrompt params => do
    validateContent params.text "text"
    validateOptional validateIdentifier params.explicitTarget
  | sessionRedirect params => validateContent params.instruction "instruction"
  | sessionApprovalResolve params => requireUuidV7 params.approvalId "approval_id"
  | sessionReconcile params => do
    requireUuidV7 params.attemptId "attempt_id"
    if params.evidence.any (fun evidence => 4096 < evidence.utf8ByteSize) then
      throw "evidence exceeds 4096 bytes"
  | sessionExport params => do
    validateOutputPath params.outputPath
    if params.ageRecipients = [] ∨ ¬ params.ageRecipients.Nodup
        ∨ params.ageRecipients.any
          (fun recipient => recipient = "" ∨ 512 < recipient.utf8ByteSize) then
      throw "age_recipients must be non-empty, valid, and unique"
  | sessionDelete params => requireUuidV7 params.confirmSessionId "confirm_session_id"
  | _ => .ok ()

end Command

/-- A command as a client sends it. -/
structure ClientCommand where
  protocol : String
  requestId : Uuid
  sessionId : Option Uuid
  command : Command

/-- A command before its method selects how its parameters are read. -/
structure RawCommand where
  protocol : String
  requestId : Uuid
  method : String
  sessionId : Option Uuid
  params : Json

def RawCommand.fromValue (value : Json) : Option RawCommand := do
  guard (value.isRecord ["protocol", "request_id", "method", "session_id", "params"] 5)
  let protocol ← value.required asString "protocol" 0
  let requestId ← value.required asUuid "request_id" 1
  let method ← value.required asString "method" 2
  let sessionId ← value.optional asUuid "session_id" 3
  let params ← value.required some "params" 4
  return { protocol, requestId, method, sessionId, params }

section

variable (serde : SerdeJson)

/-- What a derived decoder reads, or says. -/
def derived {α : Type} (read : Json → Option α) (value : Json) : Except String α :=
  match read value with
  | some result => .ok result
  | none => .error (serde.mismatch value)

/-- Reads the parameters of a method. -/
def parseCommand (method : String) (params : Json) : Except String Command :=
  match method with
  | "initialize" => (derived serde InitializeParams.fromValue params).map .initializeProtocol
  | "status.get" => (derived serde EmptyParams.fromValue params).map .statusGet
  | "session.create" => (derived serde CreateSessionParams.fromValue params).map .sessionCreate
  | "session.list" => (derived serde ListSessionsParams.fromValue params).map .sessionList
  | "session.get" => (derived serde EmptyParams.fromValue params).map .sessionGet
  | "session.attach" => (derived serde AttachSessionParams.fromValue params).map .sessionAttach
  | "session.prompt" => (derived serde PromptParams.fromValue params).map .sessionPrompt
  | "session.pause" => (derived serde EmptyParams.fromValue params).map .sessionPause
  | "session.resume" => (derived serde EmptyParams.fromValue params).map .sessionResume
  | "session.redirect" => (derived serde RedirectParams.fromValue params).map .sessionRedirect
  | "session.cancel" => (derived serde EmptyParams.fromValue params).map .sessionCancel
  | "session.approval.resolve" =>
    (derived serde ApprovalParams.fromValue params).map .sessionApprovalResolve
  | "session.reconcile" =>
    (derived serde ReconciliationParams.fromValue params).map .sessionReconcile
  | "session.export" => (derived serde ExportParams.fromValue params).map .sessionExport
  | "session.delete" => (derived serde DeleteParams.fromValue params).map .sessionDelete
  | _ => .error "unknown protocol method"

end

namespace ClientCommand

/-- The members of a command in the order they are written. -/
def members (message : ClientCommand) : List (String × Json) :=
  [("protocol", .string message.protocol), ("request_id", ofUuid message.requestId),
      ("method", .string message.command.method)]
    ++ (match message.sessionId with
      | some sessionId => [("session_id", ofUuid sessionId)]
      | none => [])
    ++ [("params", message.command.paramsValue)]

def toValue (message : ClientCommand) : Except String Json := .ok (.object message.members)

/-- Reads a command and checks it. -/
def fromValue (serde : SerdeJson) (value : Json) : Except String ClientCommand := do
  let raw ← derived serde RawCommand.fromValue value
  if raw.protocol ≠ protocolV1 then throw "unsupported protocol major"
  requireUuidV7 raw.requestId "request_id"
  validateOptional (requireUuidV7 · "session_id") raw.sessionId
  let command ← parseCommand serde raw.method raw.params
  if command.requiresSession ≠ raw.sessionId.isSome then
    throw (if command.requiresSession then "session_id is required for this method"
      else "session_id is forbidden for this method")
  command.validate
  return { protocol := raw.protocol, requestId := raw.requestId, sessionId := raw.sessionId,
           command := command }

/-- The command passes the checks of its decoder. -/
structure Valid (message : ClientCommand) : Prop where
  protocol : message.protocol = protocolV1
  requestId : message.requestId.isV7
  sessionId : ∀ sessionId, message.sessionId = some sessionId → sessionId.isV7
  session : message.command.requiresSession = message.sessionId.isSome
  command : message.command.validate = .ok ()

end ClientCommand

/-! ## Reading parameters back -/

section

@[simp] theorem asU16_ofU16 (n : UInt16) : asU16 (ofU16 n) = some n := by
  have hlt : n.toNat < 65536 := n.toNat_lt
  simp [asU16, ofU16, hlt]

theorem isRecord_of_names {names : List String} {least : Nat}
    {fields : List (String × Option Json)}
    (hnames : (fields.map (·.1)).all names.contains) :
    (record fields).isRecord names least :=
  isRecord_record (by simpa using hnames)

@[simp] theorem readOptional_uuid (field : Option Uuid) :
    readOptional asUuid (field.map ofUuid) = some field :=
  readOptional_map asUuid_ofUuid fun _ => string_ne_null _

@[simp] theorem readOptional_jsonMap (field : Option JsonMap) :
    readOptional asJsonMap (field.map ofJsonMap) = some field :=
  readOptional_map asJsonMap_ofJsonMap fun _ => object_ne_null _

@[simp] theorem approvalDecisions_readsBack : ReadsBack approvalDecisions := by
  rintro ⟨⟩ <;> rfl

@[simp] theorem reconciliationResolutions_readsBack : ReadsBack reconciliationResolutions := by
  rintro ⟨⟩ <;> rfl

attribute [local simp] isRecord_of_names required Json.optional defaulted
  member_record_cons

theorem InitializeParams.fromValue_toValue (params : InitializeParams) :
    fromValue params.toValue = some params := by
  simp [fromValue, toValue]

theorem EmptyParams.fromValue_toValue (params : EmptyParams) :
    fromValue params.toValue = some params := by
  simp [fromValue, toValue]

theorem CreateSessionParams.fromValue_toValue (params : CreateSessionParams) :
    fromValue params.toValue = some params := by
  simp [fromValue, toValue]

theorem ListSessionsParams.fromValue_toValue (params : ListSessionsParams) :
    fromValue params.toValue = some params := by
  simp [fromValue, toValue]

theorem AttachSessionParams.fromValue_toValue (params : AttachSessionParams) :
    fromValue params.toValue = some params := by
  simp [fromValue, toValue]

theorem PromptParams.fromValue_toValue (params : PromptParams) :
    fromValue params.toValue = some params := by
  simp [fromValue, toValue]

theorem RedirectParams.fromValue_toValue (params : RedirectParams) :
    fromValue params.toValue = some params := by
  simp [fromValue, toValue]

theorem ApprovalParams.fromValue_toValue (params : ApprovalParams) :
    fromValue params.toValue = some params := by
  simp [fromValue, toValue]

theorem ReconciliationParams.fromValue_toValue (params : ReconciliationParams) :
    fromValue params.toValue = some params := by
  simp [fromValue, toValue]

theorem ExportParams.fromValue_toValue (params : ExportParams) :
    fromValue params.toValue = some params := by
  simp [fromValue, toValue]

theorem DeleteParams.fromValue_toValue (params : DeleteParams) :
    fromValue params.toValue = some params := by
  simp [fromValue, toValue]

end

end Workbench.Protocol
