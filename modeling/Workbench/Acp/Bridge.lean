import Workbench.Library.JsonCodec
import Workbench.Library.Transition
import Workbench.Storage.Event

/-!
# Acp: the bridge to a running daemon

ACP agent methods mapped onto commands of the daemon, over one socket.  A backend call holds
the lock of the transport until it is done, so the requests follow each other; the inputs of
the bridge are the ACP requests, the messages that it reads from the socket, and the clock.

`received` and `answers` are not state of the program.  They record the events that were read
and what each request was answered; a chunk of text keeps the event it was taken from.  The
decoding of results is a parameter.  The in-process backend of the offline tests is left out.
-/

namespace Workbench.Acp

open Library Storage

/-! ## Errors -/

inductive AcpServerErrorKind where
  | invalidRequest
  | sessionNotFound
  | backend
  | shuttingDown

/-- Redacted ACP server failure.  The limit of 256 bytes on a message is left out. -/
structure AcpServerError where
  kind : AcpServerErrorKind
  message : String

/-! ## The daemon protocol -/

inductive EventKind where
  | sessionCreated
  | configurationResolved
  | inputRecorded
  | routingPlanned
  | clarificationRequested
  | approvalRequested
  | approvalRecorded
  | dispatchPlanned
  | dispatchStarted
  | dispatchAcknowledged
  | providerEvent
  | toolEvent
  | pauseRequested
  | sessionPaused
  | sessionResumed
  | sessionRedirected
  | cancelRequested
  | cancelConfirmed
  | outcomeUnknown
  | outcomeReconciled
  | sessionCompleted
  | sessionFailed
  | sessionCancelled
  | sessionAbandoned
  | sessionExported
  | sessionDeletionRequested
  | sessionDeleted
  | workflowTransition
  deriving DecidableEq

/-- The fields of an event that the bridge reads. -/
structure SessionEvent where
  sessionId : Uuid
  kind : EventKind
  data : Json
  deriving DecidableEq

inductive Command where
  | initializeProtocol
  | statusGet
  | sessionCreate
  | sessionPrompt (text : String)
  | sessionGet
  | approvalGrant (approvalId : Uuid)
  | sessionAttach (afterSequence : Nat)
  | sessionCancel

structure ClientCommand where
  requestId : Uuid
  sessionId : Option Uuid
  command : Command

/-- What the socket gives when it is read. -/
inductive Inbound where
  | event (event : SessionEvent)
  | success (requestId : Uuid) (result : Json)
  | failure (requestId : Uuid) (message : String)
  | malformed (error : String)
  | disconnected

/-- The parts of results that the bridge decodes. -/
structure Decoders where
  initializeResult : Json → Bool
  createSessionResult : Json → Option Uuid
  promptResult : Json → Bool
  /-- The pending approval of a `SessionResult`. -/
  sessionResult : Json → Option (Option Uuid)
  attachSessionResult : Json → Bool
  parseUuid : String → Option Uuid

/-- The text that an event contributes to a turn. -/
def eventContent (event : SessionEvent) : Option String :=
  match event.kind with
  | .providerEvent | .sessionCompleted | .dispatchAcknowledged =>
    ((event.data.member "content").bind Json.asString).filter fun content => content ≠ ""
  | _ => none

/-- The kinds that end the collection of a turn. -/
def isTerminal : EventKind → Bool
  | .sessionCompleted | .sessionFailed | .sessionCancelled | .sessionAbandoned => true
  | _ => false

/-- The approval that an event requests. -/
def requestedApproval (decoders : Decoders) (event : SessionEvent) : Option Uuid :=
  if event.kind = .approvalRequested then
    ((event.data.member "approval_id").bind Json.asString).bind decoders.parseUuid
  else none

/-! ## Turns -/

/-- A text of a turn, with the event it was taken from. -/
structure Chunk where
  text : String
  origin : Option SessionEvent
  deriving DecidableEq

/-- A `session/prompt` request: the id of the message and the session it names. -/
structure PromptCall where
  id : Option Json
  key : String
  session : Uuid
  deriving DecidableEq

/-- An answered prompt, with the event that ended its collection. -/
structure Turn where
  call : PromptCall
  chunks : List Chunk
  ended : Option SessionEvent
  deriving DecidableEq

/-- What a request was answered. -/
inductive Answer where
  | failed (error : AcpServerError)
  | replied (message : Json)
  | prompted (turn : Turn)

def success (id : Option Json) (result : Json) : Json :=
  .object (id.toList.map (("id", ·)) ++ [("jsonrpc", .string "2.0"), ("result", result)])

/-! ## The state of the bridge -/

/-- What the reply to a command is waited for. -/
inductive Purpose where
  | connect
  | identify (id : Option Json)
  | create (id : Option Json)
  | cancel (id : Option Json)
  | prompt (call : PromptCall)
  /-- `session.get` of `auto_grant_pending`, with the chunks collected so far, if any. -/
  | check (call : PromptCall) (collected : Option (List Chunk))
  | grant (call : PromptCall) (collected : Option (List Chunk))
  | attach (call : PromptCall)

/-- Where the bridge is. -/
inductive Control where
  | ready
  /-- Inside `call_socket`, waiting for the reply to this request. -/
  | calling (purpose : Purpose) (requestId : Uuid)
  /-- Before the check of the deadline in `collect_prompt_chunks`. -/
  | head (call : PromptCall) (chunks : List Chunk)
  /-- Reading the socket for at most 100 milliseconds. -/
  | waiting (call : PromptCall) (chunks : List Chunk)
  /-- The connection could not be set up. -/
  | closed

structure Bridge where
  control : Control
  pendingEvents : List SessionEvent
  sessions : List (String × Uuid)
  shuttingDown : Bool
  nextId : Uuid
  sent : List ClientCommand
  received : List SessionEvent
  answers : List Answer

/-- What can happen to the bridge. -/
inductive Input where
  | request (message : Json)
  | received (message : Inbound)
  | writeFailed (error : String)
  /-- No message within 100 milliseconds. -/
  | quiet
  /-- The check of the deadline: whether it has passed. -/
  | clock (expired : Bool)
  | shutdown

/-- The prompts that were answered. -/
def Bridge.turns (bridge : Bridge) : List Turn :=
  bridge.answers.filterMap fun answer =>
    match answer with
    | .prompted turn => some turn
    | _ => none

namespace Bridge

/-- Sends a command and waits for its reply. -/
def call (bridge : Bridge) (purpose : Purpose) (session : Option Uuid) (command : Command) :
    Bridge :=
  { bridge with
    control := .calling purpose bridge.nextId
    nextId := bridge.nextId + 1
    sent := bridge.sent ++ [⟨bridge.nextId, session, command⟩] }

/-- Answers the current request. -/
def answer (bridge : Bridge) (answer : Answer) : Bridge :=
  { bridge with control := .ready, answers := bridge.answers ++ [answer] }

def fail (bridge : Bridge) (kind : AcpServerErrorKind) (message : String) : Bridge :=
  bridge.answer (.failed ⟨kind, message⟩)

/-- A backend call fails.  `session/cancel` ignores the error. -/
def failCall (bridge : Bridge) (purpose : Purpose) (message : String) : Bridge :=
  match purpose with
  | .connect => { bridge with control := .closed }
  | .cancel id => bridge.answer (.replied (success id (.object [])))
  | _ => bridge.fail .backend message

/-- Answers a prompt. -/
def finish (bridge : Bridge) (call : PromptCall) (chunks : List Chunk)
    (ended : Option SessionEvent) : Bridge :=
  let chunks := if chunks = [] then [⟨"workbench offline response", none⟩] else chunks
  bridge.answer (.prompted ⟨call, chunks, ended⟩)

/-- What follows `auto_grant_pending`. -/
def granted (bridge : Bridge) (call : PromptCall) (collected : Option (List Chunk)) : Bridge :=
  match collected with
  | none => bridge.call (.attach call) (some call.session) (.sessionAttach 0)
  | some chunks => { bridge with control := .head call chunks }

/-- `initialize` over an open connection. -/
def identity : Json :=
  .object [("agentCapabilities", .object [("loadSession", .bool false)]),
    ("agentInfo", .object [("name", .string "workbench"), ("version", .string "0.1.0")]),
    ("protocolVersion", .number (.natural 1))]

/-- What a successful reply leads to. -/
def reply (decoders : Decoders) (bridge : Bridge) (purpose : Purpose) (result : Json) : Bridge :=
  match purpose with
  | .connect =>
    if decoders.initializeResult result then { bridge with control := .ready }
    else { bridge with control := .closed }
  | .identify id => bridge.answer (.replied (success id identity))
  | .create id =>
    match decoders.createSessionResult result with
    | none => bridge.fail .backend "create session result invalid"
    | some session =>
      { bridge with sessions := (toString session, session) :: bridge.sessions }.answer
        (.replied (success id (.object [("sessionId", .string (toString session))])))
  | .cancel id => bridge.answer (.replied (success id (.object [])))
  | .prompt call =>
    if decoders.promptResult result then
      bridge.call (.check call none) (some call.session) .sessionGet
    else bridge.fail .backend "prompt result invalid"
  | .check call collected =>
    match decoders.sessionResult result with
    | none => bridge.fail .backend "session.get result invalid"
    | some (some approvalId) =>
      bridge.call (.grant call collected) (some call.session) (.approvalGrant approvalId)
    | some none =>
      -- Also scan buffered events for approval_requested.
      match bridge.pendingEvents.reverse.findSome? (requestedApproval decoders) with
      | some approvalId =>
        bridge.call (.grant call collected) (some call.session) (.approvalGrant approvalId)
      | none => bridge.granted call collected
  | .grant call collected => bridge.granted call collected
  | .attach call =>
    if decoders.attachSessionResult result then { bridge with control := .head call [] }
    else bridge.fail .backend "session.attach result invalid"

/-- An event goes to the queue. -/
def push (bridge : Bridge) (event : SessionEvent) : Bridge :=
  { bridge with
    pendingEvents := bridge.pendingEvents ++ [event]
    received := bridge.received ++ [event] }

/-- One message inside `call_socket`. -/
def receiveReply (decoders : Decoders) (bridge : Bridge) (purpose : Purpose) (expected : Uuid) :
    Inbound → Bridge
  | .event event => bridge.push event
  | .success requestId result =>
    if requestId ≠ expected then bridge.failCall purpose "daemon reply correlation mismatch"
    else bridge.reply decoders purpose result
  | .failure requestId message =>
    if requestId ≠ expected then bridge.failCall purpose "daemon failure correlation mismatch"
    else bridge.failCall purpose message
  | .malformed error => bridge.failCall purpose ("daemon framing failed: " ++ error)
  | .disconnected => bridge.failCall purpose "daemon disconnected before reply"

/-- Takes events until one ends the turn: the chunks, that event, what stays in the queue. -/
def drainEvents (chunks : List Chunk) :
    List SessionEvent → List Chunk × Option SessionEvent × List SessionEvent
  | [] => (chunks, none, [])
  | event :: rest =>
    let chunks := chunks ++ (eventContent event).toList.map fun text => ⟨text, some event⟩
    if isTerminal event.kind then (chunks, some event, rest) else drainEvents chunks rest

/-- One round of the collection up to its read of the socket. -/
def drain (bridge : Bridge) (call : PromptCall) (chunks : List Chunk) : Bridge :=
  match drainEvents chunks bridge.pendingEvents with
  | (chunks, some event, rest) =>
    { bridge with pendingEvents := rest }.finish call chunks (some event)
  | (chunks, none, rest) =>
    { bridge with pendingEvents := rest, control := .waiting call chunks }

/-- One message inside `collect_prompt_chunks`. -/
def receiveEvent (bridge : Bridge) (call : PromptCall) (chunks : List Chunk) : Inbound → Bridge
  | .event event => { bridge.push event with control := .head call chunks }
  -- Ignore late replies while draining session events.
  | .success _ _ | .failure _ _ => { bridge with control := .head call chunks }
  | .malformed error => bridge.fail .backend ("daemon framing failed: " ++ error)
  | .disconnected => bridge.fail .backend "daemon disconnected while streaming prompt events"

/-! ## ACP requests -/

def nonEmpty (text : String) : Except AcpServerError String :=
  if text = "" then .error ⟨.invalidRequest, "session/prompt text must not be empty"⟩ else .ok text

/-- The text of one block of a prompt. -/
def blockText (block : Json) : String :=
  match (block.member "text").bind Json.asString with
  | some text => text
  | none =>
    (((block.member "content").bind fun content => content.member "text").bind
      Json.asString).getD ""

def extractPromptText (params : Json) : Except AcpServerError String :=
  match params.member "prompt" with
  | some (.string text) => nonEmpty text
  | some (.array blocks) => nonEmpty (String.join (blocks.map blockText))
  | _ =>
    match (params.member "text").bind Json.asString with
    | some text => nonEmpty text
    | none => .error ⟨.invalidRequest, "session/prompt is missing text"⟩

def messageParams (message : Json) : Json := (message.member "params").getD (.object [])

def sessionKey (params : Json) : Option String := (params.member "sessionId").bind Json.asString

def handlePrompt (bridge : Bridge) (id : Option Json) (params : Json) : Bridge :=
  match sessionKey params with
  | none => bridge.fail .invalidRequest "session/prompt requires sessionId"
  | some key =>
    match bridge.sessions.lookup key with
    | none => bridge.fail .sessionNotFound "unknown ACP session"
    | some session =>
      match extractPromptText params with
      | .error error => bridge.answer (.failed error)
      | .ok text =>
        bridge.call (.prompt ⟨id, key, session⟩) (some session) (.sessionPrompt text)

def handleCancel (bridge : Bridge) (id : Option Json) (params : Json) : Bridge :=
  match sessionKey params with
  | none => bridge.fail .invalidRequest "session/cancel requires sessionId"
  | some key =>
    match bridge.sessions.lookup key with
    | none => bridge.answer (.replied (success id (.object [])))
    | some session => bridge.call (.cancel id) (some session) .sessionCancel

/-- Handles one decoded JSON-RPC request. -/
def handleMessage (bridge : Bridge) (message : Json) : Bridge :=
  if bridge.shuttingDown then bridge.fail .shuttingDown "ACP agent is shutting down"
  else
    match message with
    | .object _ =>
      if (message.member "jsonrpc").bind Json.asString ≠ some "2.0" then
        bridge.fail .invalidRequest "ACP message requires jsonrpc 2.0"
      else
        let id := message.member "id"
        match (message.member "method").bind Json.asString with
        | none => bridge.fail .invalidRequest "ACP request is missing method"
        | some method =>
          if method = "initialize" then bridge.call (.identify id) none .statusGet
          else if method = "session/new" ∨ method = "session/newSession" then
            bridge.call (.create id) none .sessionCreate
          else if method = "session/prompt" then bridge.handlePrompt id (messageParams message)
          else if method = "session/cancel" then bridge.handleCancel id (messageParams message)
          else bridge.fail .invalidRequest ("unsupported ACP method: " ++ method)
    | _ => bridge.fail .invalidRequest "ACP message must be an object"

/-! ## Runs -/

/-- A bridge that connects. -/
def connecting : Bridge where
  control := .calling .connect 0
  pendingEvents := []
  sessions := []
  shuttingDown := false
  nextId := 1
  sent := [⟨0, none, .initializeProtocol⟩]
  received := []
  answers := []

def step (decoders : Decoders) (bridge : Bridge) (input : Input) : Option Bridge :=
  match input with
  | .shutdown => some { bridge with shuttingDown := true }
  | .request message =>
    match bridge.control with
    | .ready => some (bridge.handleMessage message)
    | _ => none
  | .received message =>
    match bridge.control with
    | .calling purpose expected => some (bridge.receiveReply decoders purpose expected message)
    | .waiting call chunks => some (bridge.receiveEvent call chunks message)
    | _ => none
  | .writeFailed error =>
    match bridge.control with
    | .calling purpose _ => some (bridge.failCall purpose ("daemon write failed: " ++ error))
    | _ => none
  | .quiet =>
    match bridge.control with
    | .waiting call chunks =>
      -- Brief idle; re-check pending approval then continue until deadline.
      some (bridge.call (.check call (some chunks)) (some call.session) .sessionGet)
    | _ => none
  | .clock expired =>
    match bridge.control with
    | .head call chunks =>
      some (if expired then bridge.finish call chunks none else bridge.drain call chunks)
    | _ => none

end Bridge

end Workbench.Acp
