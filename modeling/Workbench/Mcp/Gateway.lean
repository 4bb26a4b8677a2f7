import Workbench.Mcp.Policy
import Workbench.Mcp.Transport

/-!
# Mcp: the gateway

The daemon-owned gateway: policy, approval, pin and transport for one tool call, and the
pool of stdio children.  A call holds the lock of the pool while it uses a child, so the
calls on one child follow each other.

`contacts` is not state of the program: it records every program that was loaded and every
transport that was called.
-/

namespace Workbench.Mcp

open Workbench.Core Config Library

/-- Redacted audit fact recorded for a tool attempt. -/
structure ToolAuditFact where
  event : PublicToolEvent
  transport : Option String

/-- Outcome of a gateway invoke after policy and optional transport. -/
structure ToolInvokeOutcome where
  attemptId : Nat
  progress : AttemptProgress
  public_ : PublicToolEvent
  content : Option Json
  retried : Bool
  deriving DecidableEq

/-- Request to invoke a governed MCP or built-in tool through the gateway. -/
structure ToolInvokeRequest where
  toolId : String
  operation : String
  roleId : Option String := none
  workflowId : Option String := none
  workflowStepId : Option String := none
  sessionDenied : List String := []
  /-- `none` = not yet decided; `some true` grant; `some false` deny. -/
  approvalGranted : Option Bool := none
  arguments : Json := .object []
  correlationId : String
  /-- When true, force cancel-after-start semantics for tests. -/
  simulateCancelAfterStart : Bool := false
  /-- When true, force a pre-start failure for retry tests. -/
  simulatePreStartFailure : Bool := false
  /-- When true, force a post-start crash for uncertainty tests. -/
  simulatePostStartCrash : Bool := false

def ToolInvokeRequest.context (request : ToolInvokeRequest) (config : WorkbenchConfiguration) :
    ToolPolicyContext where
  config := config
  toolId := request.toolId
  operation := request.operation
  roleId := request.roleId
  workflowId := request.workflowId
  workflowStepId := request.workflowStepId
  sessionDenied := request.sessionDenied

/-- What the gateway did outside of itself. -/
inductive Contact where
  /-- A child of a server was spawned and runs this program. -/
  | spawned (serverId : String) (image : Bytes)
  | stdioCall (serverId : String) (exchange : Exchange)
  /-- A call over HTTP, with the bytes it tried to write. -/
  | httpCall (serverId : String) (payload : Option Bytes)
  deriving DecidableEq

/-- The two transports of a gateway. -/
structure Transports where
  workspaceKey : String
  /-- The pool of children, by workspace and server. -/
  children : List ((String × String) × StdioChild)
  http : HttpMcpClient
  contacts : List Contact

/-- Central MCP gateway composed by the daemon. -/
structure McpGateway where
  config : WorkbenchConfiguration
  pins : Table PinStatus
  transports : Transports
  audit : List ToolAuditFact
  shuttingDown : Bool

/-- What the surroundings do during one call. -/
structure CallIo where
  spawn : SpawnIo
  pipe : PipeIo
  network : HttpIo

/-- A host without secrets: the digest of a program is its text. -/
def silentHost : Host where
  uid := 0
  sha256 bytes := String.ofList (bytes.map fun byte => Char.ofNat byte.toNat)
  ioMessage := "not found"

/-- Surroundings in which no file exists and no byte arrives. -/
def silentIo : CallIo where
  spawn := ⟨fun _ => none, fun _ => none, true, true⟩
  pipe := ⟨⟨.done, .done, true⟩, []⟩
  network := ⟨true, true, true, ⟨.done, .done, true⟩, []⟩

/-- Sets the child under a key. -/
def putChild (key : String × String) (child : StdioChild)
    (children : List ((String × String) × StdioChild)) : List ((String × String) × StdioChild) :=
  (key, child) :: children.filter fun entry => entry.1 ≠ key

def transportName : McpTransport → String
  | .stdio => "stdio"
  | .http => "http"

/-! ## The transports -/

namespace Transports

def contact (transports : Transports) (made : Contact) : Transports :=
  { transports with contacts := transports.contacts ++ [made] }

def childKey (transports : Transports) (serverId : String) : String × String :=
  (transports.workspaceKey, serverId)

/-- Uses an existing child or spawns a new one for the workspace. -/
def getOrSpawn (host : Host) (io : SpawnIo) (transports : Transports) (serverId : String)
    (server : McpServer) : Except McpError Unit × Transports :=
  if (transports.children.lookup (transports.childKey serverId)).isSome then (.ok (), transports)
  else
    match StdioChild.spawn host io serverId transports.workspaceKey server with
    | .error error => (.error error, transports)
    | .ok (child, image) =>
      (.ok (), { transports.contact (.spawned serverId image) with
        children := putChild (transports.childKey serverId) child transports.children })

/-- Invokes a tool on the workspace-scoped child. -/
def invokeStdio (wire : Wire) (io : PipeIo) (transports : Transports) (serverId : String)
    (operation : String) (arguments : Json) : Except McpError Json × Transports :=
  match transports.children.lookup (transports.childKey serverId) with
  | none => (.error .unavailable, transports)
  | some child =>
    let (exchange, child) :=
      child.exchange wire io operation arguments defaultMaxFrameBytes
    (exchange.result, { transports.contact (.stdioCall serverId exchange) with
      children := putChild (transports.childKey serverId) child transports.children })

/-- Invokes a tool on the pinned HTTP(S) endpoint. -/
def invokeHttp (wire : Wire) (io : HttpIo) (transports : Transports) (serverId : String)
    (server : McpServer) (operation : String) (arguments : Json) :
    Except McpError Json × Transports :=
  let (payload, result) := transports.http.invoke wire io serverId server operation arguments
  (result, transports.contact (.httpCall serverId payload))

/-- Calls an operation of a server over its transport. -/
def call (wire : Wire) (host : Host) (io : CallIo) (transports : Transports) (serverId : String)
    (server : McpServer) (operation : String) (arguments : Json) :
    Except McpError Json × Transports :=
  match server.transport with
  | .stdio =>
    match transports.getOrSpawn host io.spawn serverId server with
    | (.error error, transports) => (.error error, transports)
    | (.ok (), transports) =>
      transports.invokeStdio wire io.pipe serverId operation arguments
  | .http => transports.invokeHttp wire io.network serverId server operation arguments

end Transports

namespace McpGateway

/-- Verifies pins and prepares the gateway without launching children. -/
def bootstrap (host : Host) (files : FileSystem) (config : WorkbenchConfiguration)
    (lock : WorkbenchLock) (workspaceKey : String) (offlineHttp : Bool) :
    Except McpError McpGateway :=
  match verifyRegistry host files config.mcpServers lock with
  | .error error => .error error
  | .ok statuses =>
    .ok
      { config
        pins := statuses.map fun status => (status.serverId, status)
        transports := ⟨workspaceKey, [], ⟨[], offlineHttp⟩, []⟩
        audit := []
        shuttingDown := false }

def pushAudit (gateway : McpGateway) (event : PublicToolEvent) (transport : Option String) :
    McpGateway :=
  { gateway with audit := gateway.audit ++ [⟨event, transport⟩] }

/-! ## One call -/

def event (request : ToolInvokeRequest) (attempt : Attempt) (lifecycle : ToolLifecycle)
    (outcome : String) : PublicToolEvent where
  toolName := request.toolId
  lifecycle := lifecycle
  outcome := outcome
  attemptId := attempt.id
  correlationId := request.correlationId

/-- The failure of an attempt before any transport is used. -/
def failBefore (gateway : McpGateway) (request : ToolInvokeRequest) (attempt : Attempt)
    (error : McpError) : Except McpError ToolInvokeOutcome × McpGateway :=
  (.error error, gateway.pushAudit
    ((event request attempt .failed error.message).withErrorKind error.kind) none)

/-- Marks the attempt as started and shows it, unless the call is a retry. -/
def start (gateway : McpGateway) (attempt : Attempt) (request : ToolInvokeRequest)
    (server : McpServer) (recordStart : Bool) : Except McpError (Attempt × McpGateway) :=
  if recordStart then
    match attempt.markStarted with
    | .error _ => .error .invalidConfiguration
    | .ok attempt =>
      .ok (attempt, gateway.pushAudit (event request attempt .started "started")
        (some (transportName server.transport)))
  else .ok (attempt, gateway)

def dispatchTransport (wire : Wire) (host : Host) (io : CallIo) (gateway : McpGateway)
    (attempt : Attempt) (request : ToolInvokeRequest) (serverId : String) (server : McpServer)
    (recordStart : Bool) : Except McpError Json × Attempt × McpGateway :=
  match gateway.start attempt request server recordStart with
  | .error error => (.error error, attempt, gateway)
  | .ok (attempt, gateway) =>
    if request.simulateCancelAfterStart || request.simulatePostStartCrash then
      (.error .outcomeUnknown, attempt.orKeep Attempt.markOutcomeUnknown, gateway)
    else
      let (content, transports) := gateway.transports.call wire host io serverId server
        request.operation request.arguments
      (content, attempt, { gateway with transports })

def finishOutcome (gateway : McpGateway) (attempt : Attempt) (request : ToolInvokeRequest)
    (content : Except McpError Json) (retried : Bool) :
    Except McpError ToolInvokeOutcome × McpGateway :=
  match content with
  | .ok value =>
    let attempt := if attempt.progress = .planned then attempt.orKeep Attempt.markStarted
      else attempt
    let attempt := attempt.orKeep Attempt.markCompleted
    let public_ := event request attempt .succeeded "ok"
    (.ok ⟨attempt.id, attempt.progress, public_, some value, retried⟩,
      gateway.pushAudit public_ none)
  | .error error =>
    -- The mark of the attempt itself is not seen from outside: the attempt ends here.
    if error.kind = .outcomeUnknown then
      let public_ :=
        (event request attempt .outcomeUnknown error.message).withErrorKind error.kind
      (.ok ⟨attempt.id, .outcomeUnknown, public_, none, retried⟩, gateway.pushAudit public_ none)
    else
      (.error error, gateway.pushAudit
        ((event request attempt .failed error.message).withErrorKind error.kind) none)

/-- The lifecycle of an attempt that the gate refuses. -/
def refusedLifecycle : McpErrorKind → ToolLifecycle
  | .approvalRequired => .approvalRequired
  | .approvalDenied | .policyDenied => .denied
  | _ => .failed

/-- What `invoke` does once the gate is open. -/
def invokeAllowed (wire : Wire) (host : Host) (io : CallIo) (gateway : McpGateway)
    (request : ToolInvokeRequest) (access : ResolvedToolAccess) (attempt : Attempt) :
    Except McpError ToolInvokeOutcome × McpGateway :=
  if access.toolKind ≠ .mcp then (.error .policyDenied, gateway)
  else
    match access.mcpServer with
    | none => (.error .unavailable, gateway)
    | some serverId =>
      match gateway.pins.lookup serverId with
      | none => (.error .unavailable, gateway)
      | some pin =>
        match requireAvailable pin with
        | .error error => gateway.failBefore request attempt error
        | .ok () =>
          match gateway.config.mcpServers.lookup serverId with
          | none => (.error .unavailable, gateway)
          | some server =>
            if request.simulatePreStartFailure then
              if attempt.mayRetryAutomatically then
                -- Single automatic retry for proven pre-start idempotent reads.
                let (content, attempt, gateway) := gateway.dispatchTransport wire host io
                  attempt request serverId server false
                gateway.finishOutcome attempt request content true
              else gateway.failBefore request attempt .unavailable
            else
              let (content, attempt, gateway) := gateway.dispatchTransport wire host io
                attempt request serverId server true
              gateway.finishOutcome attempt request content false

/-- Invokes a tool with policy, approval, pin, and transport enforcement, under the id drawn. -/
def invoke (wire : Wire) (host : Host) (io : CallIo) (gateway : McpGateway) (attemptId : Nat)
    (request : ToolInvokeRequest) : Except McpError ToolInvokeOutcome × McpGateway :=
  if gateway.shuttingDown then (.error .shuttingDown, gateway)
  else
    match resolveMcpToolAccess (request.context gateway.config) with
    | .error error => (.error error, gateway)
    | .ok access =>
      match Attempt.plan attemptId request.operation access.operation with
      | .error _ => (.error .invalidConfiguration, gateway)
      | .ok attempt =>
        let source := access.decision.authoritativeSource
        let gateway := gateway.pushAudit
          ((event request attempt .planned "planned").withPolicySource source) none
        match gateBeforeTransport access request.approvalGranted with
        | .error error =>
          (.error error, gateway.pushAudit
            (((event request attempt (refusedLifecycle error.kind) error.message)
              |>.withPolicySource source).withErrorKind error.kind) none)
        | .ok () => gateway.invokeAllowed wire host io request access attempt

/-! ## The other entry points -/

/-- Ensures a stdio server is spawned for isolation tests. -/
def ensureStdio (host : Host) (io : SpawnIo) (gateway : McpGateway) (serverId : String) :
    Except McpError Unit × McpGateway :=
  match gateway.config.mcpServers.lookup serverId, gateway.pins.lookup serverId with
  | some server, some pin =>
    match requireAvailable pin with
    | .error error => (.error error, gateway)
    | .ok () =>
      let (result, transports) := gateway.transports.getOrSpawn host io serverId server
      (result, { gateway with transports })
  | _, _ => (.error .unavailable, gateway)

/-- Rejects new work and reaps the children; so does `shutdown_workspace`, since every child of a
gateway is of its workspace. -/
def shutdown (gateway : McpGateway) : McpGateway :=
  { gateway with
    shuttingDown := true
    transports := { gateway.transports with children := [] } }

/-! ## What a call comes down to

A call is refused before any transport is used, or it is one use of the transport whose
result is passed on. -/

section

variable {wire : Wire} {host : Host} {io : CallIo} {gateway : McpGateway}
  {request : ToolInvokeRequest}

/-- The same configuration, pins and shutdown flag. -/
def SameSetup (gateway other : McpGateway) : Prop :=
  other.config = gateway.config ∧ other.pins = gateway.pins ∧
    other.shuttingDown = gateway.shuttingDown

/-- A call that used the transport of a server, and what it returned. -/
structure Dispatched (wire : Wire) (host : Host) (io : CallIo) (gateway : McpGateway)
    (request : ToolInvokeRequest) (call : Except McpError ToolInvokeOutcome × McpGateway)
    (access : ResolvedToolAccess) (serverId : String) (server : McpServer)
    (transport : Except McpError Json × Transports) : Prop where
  resolved : resolveMcpToolAccess (request.context gateway.config) = .ok access
  gate : gateBeforeTransport access request.approvalGranted = .ok ()
  serves : access.mcpServer = some serverId
  pinned : ∃ pin, gateway.pins.lookup serverId = some pin ∧ pin.available
  configured : gateway.config.mcpServers.lookup serverId = some server
  called : gateway.transports.call wire host io serverId server request.operation
    request.arguments = transport
  after : call.2.transports = transport.2
  succeeded : ∀ value, transport.1 = .ok value →
    ∃ outcome, call.1 = .ok outcome ∧ outcome.progress = .completed ∧ outcome.content = some value
  failed : ∀ error, transport.1 = .error error → error.kind ≠ .outcomeUnknown →
    call.1 = .error error

/-- A call keeps the set-up, and uses the transport of one server or none. -/
def Settled (wire : Wire) (host : Host) (io : CallIo) (gateway : McpGateway)
    (request : ToolInvokeRequest) (call : Except McpError ToolInvokeOutcome × McpGateway) : Prop :=
  gateway.SameSetup call.2 ∧
    (call.2.transports = gateway.transports ∨
      ∃ access serverId server transport,
        Dispatched wire host io gateway request call access serverId server transport)

variable {attempt : Attempt} {retried : Bool}

theorem start_eq_ok {server : McpServer} {recordStart : Bool} {begun : Attempt × McpGateway}
    (hplanned : attempt.progress = .planned)
    (h : gateway.start attempt request server recordStart = .ok begun) :
    (begun.1.progress = .planned ∨ begun.1.progress = .started) ∧
      begun.2.transports = gateway.transports ∧ gateway.SameSetup begun.2 := by
  unfold start at h
  split at h
  · simp only [Attempt.markStarted, hplanned] at h
    cases h
    exact ⟨.inr rfl, rfl, rfl, rfl, rfl⟩
  · cases h
    exact ⟨.inl hplanned, rfl, rfl, rfl, rfl⟩

theorem finishOutcome_setup (attempt : Attempt) (content : Except McpError Json) (retried : Bool) :
    (gateway.finishOutcome attempt request content retried).2.transports = gateway.transports ∧
      gateway.SameSetup (gateway.finishOutcome attempt request content retried).2 := by
  unfold finishOutcome
  split
  · exact ⟨rfl, rfl, rfl, rfl⟩
  · split <;> exact ⟨rfl, rfl, rfl, rfl⟩

variable {access : ResolvedToolAccess}
  (hresolved : resolveMcpToolAccess (request.context gateway.config) = .ok access)
  (hgate : gateBeforeTransport access request.approvalGranted = .ok ())
  (hplanned : attempt.progress = .planned)
include hresolved hgate hplanned

/-- The part of a call that may use the transport. -/
theorem dispatch_finish {serverId : String} {server : McpServer} (recordStart retried : Bool)
    (hserves : access.mcpServer = some serverId)
    (hpinned : ∃ pin, gateway.pins.lookup serverId = some pin ∧ pin.available)
    (hserver : gateway.config.mcpServers.lookup serverId = some server) :
    Settled wire host io gateway request
      (let (content, attempt, gateway) := gateway.dispatchTransport wire host io attempt request
        serverId server recordStart
      gateway.finishOutcome attempt request content retried) := by
  unfold dispatchTransport
  cases hstart : gateway.start attempt request server recordStart with
  | error e =>
    obtain ⟨htransports, hsetup⟩ := @finishOutcome_setup gateway request attempt (.error e) retried
    exact ⟨hsetup, .inl htransports⟩
  | ok begun =>
    obtain ⟨attempt', gateway'⟩ := begun
    obtain ⟨hopen, htransports, hconfig, hpins, hflag⟩ := start_eq_ok hplanned hstart
    simp only at hopen htransports hconfig hpins hflag ⊢
    split
    · obtain ⟨hsame, hc, hp, hf⟩ := @finishOutcome_setup gateway' request
        (attempt'.orKeep Attempt.markOutcomeUnknown) (.error .outcomeUnknown) retried
      exact ⟨⟨hc.trans hconfig, hp.trans hpins, hf.trans hflag⟩, .inl (hsame.trans htransports)⟩
    rw [htransports]
    generalize hcalled : gateway.transports.call wire host io serverId server request.operation
      request.arguments = transport
    obtain ⟨hsame, hc, hp, hf⟩ := @finishOutcome_setup
      { gateway' with transports := transport.2 } request attempt' transport.1 retried
    refine ⟨⟨hc.trans hconfig, hp.trans hpins, hf.trans hflag⟩, .inr ⟨access, serverId, server,
      transport, hresolved, hgate, hserves, hpinned, hserver, hcalled, hsame, ?_, ?_⟩⟩
    · intro value hvalue
      rw [hvalue]
      refine ⟨_, rfl, ?_, rfl⟩
      -- a value completes an attempt that had not ended
      rcases hopen with hplanned | hstarted
      · simp [hplanned, Attempt.orKeep, Attempt.markStarted, Attempt.markCompleted]
      · simp [hstarted, Attempt.orKeep, Attempt.markCompleted]
    · intro error herror hkind
      rw [herror, finishOutcome]
      simp only [if_neg hkind]

/-- What a call past the gate comes down to. -/
theorem invokeAllowed_spec :
    Settled wire host io gateway request
      (gateway.invokeAllowed wire host io request access attempt) := by
  unfold invokeAllowed
  split
  · exact ⟨⟨rfl, rfl, rfl⟩, .inl rfl⟩
  split
  · exact ⟨⟨rfl, rfl, rfl⟩, .inl rfl⟩
  next serverId hserves =>
  split
  · exact ⟨⟨rfl, rfl, rfl⟩, .inl rfl⟩
  next pin hpin =>
  split
  · exact ⟨⟨rfl, rfl, rfl⟩, .inl rfl⟩
  next havailable =>
  have hpinned : ∃ pin, gateway.pins.lookup serverId = some pin ∧ pin.available :=
    ⟨pin, hpin, requireAvailable_eq_ok.mp havailable⟩
  split
  · exact ⟨⟨rfl, rfl, rfl⟩, .inl rfl⟩
  next server hserver =>
  -- The two ways on use the transport alike.
  split
  · split
    · exact dispatch_finish hresolved hgate hplanned false true hserves hpinned hserver
    · exact ⟨⟨rfl, rfl, rfl⟩, .inl rfl⟩
  · exact dispatch_finish hresolved hgate hplanned true false hserves hpinned hserver

omit hresolved hgate hplanned

/-- What a call comes down to. -/
theorem invoke_spec (attemptId : Nat) :
    Settled wire host io gateway request (gateway.invoke wire host io attemptId request) := by
  unfold invoke
  split
  · exact ⟨⟨rfl, rfl, rfl⟩, .inl rfl⟩
  split
  · exact ⟨⟨rfl, rfl, rfl⟩, .inl rfl⟩
  next access hresolved =>
  split
  · exact ⟨⟨rfl, rfl, rfl⟩, .inl rfl⟩
  next attempt hplan =>
  have hplanned : attempt.progress = .planned := by rw [Attempt.plan_eq_ok hplan]
  split
  · exact ⟨⟨rfl, rfl, rfl⟩, .inl rfl⟩
  next hgate =>
  obtain ⟨hsetup, hsame | ⟨_, serverId, server, transport, hused⟩⟩ :=
    @invokeAllowed_spec wire host io
      (gateway.pushAudit ((event request attempt .planned "planned").withPolicySource
        access.decision.authoritativeSource) none)
      request attempt access hresolved hgate hplanned
  · exact ⟨hsetup, .inl hsame⟩
  · exact ⟨hsetup, .inr ⟨_, serverId, server, transport, hused.resolved, hused.gate,
      hused.serves, hused.pinned, hused.configured, hused.called, hused.after,
      hused.succeeded, hused.failed⟩⟩

end

end McpGateway

/-! ## A gateway with one stdio server -/

/-- One program in one directory. -/
def repoFiles (program : Bytes) : FileSystem := fun path =>
  if path = [] ∨ path = ["opt"] then some ⟨.directory, 0o755, 0, true⟩
  else if path = ["opt", "repo"] then some ⟨.file program, 0o755, 0, true⟩
  else none

/-- The program that is pinned. -/
def repoProgram : Bytes := List.replicate 64 97

def repoDigest : String := String.ofList (List.replicate 64 'a')

def repoServer : McpServer where
  transport := .stdio
  version := "1.0.0"
  sha256 := repoDigest
  executable := some "/opt/repo"

def repoConfiguration : WorkbenchConfiguration :=
  { WorkbenchConfiguration.safeBuiltins with
    mcpServers := [("repo", repoServer)]
    tools := [("repo-read",
      ⟨.mcp, some "repo", [⟨"read", .idempotentRead, true, false, .never⟩]⟩)] }

def repoLock : WorkbenchLock where
  version := 1
  scope := .repository
  baseLockHash := none
  configuration := ⟨1, "blake3-256", repoDigest⟩
  protocol := ⟨1, 0⟩
  adapters := []
  models := []
  mcps := [("repo", ⟨"1.0.0", repoDigest⟩)]

def repoGateway : McpGateway where
  config := repoConfiguration
  pins := [("repo", ⟨"repo", true, .stdio, none⟩)]
  transports := ⟨"workspace", [], ⟨[], false⟩, []⟩
  audit := []
  shuttingDown := false

def repoRequest : ToolInvokeRequest where
  toolId := "repo-read"
  operation := "read"
  correlationId := "call"

/-- The program is in place, the request is written, and this much arrives. -/
def repoIo (program : Bytes) (arrivals : List Arrival) : CallIo :=
  { silentIo with
    spawn := ⟨repoFiles program, repoFiles program, true, true⟩
    pipe := ⟨⟨.done, .done, true⟩, arrivals⟩ }

end Workbench.Mcp
