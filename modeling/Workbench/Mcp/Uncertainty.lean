import Workbench.Mcp.Gate
import Workbench.Mcp.Responses

/-!
# Mcp: uncertainty after start

A request may have reached a server although no complete response came back.  Whatever
goes wrong after the first byte was taken, the gateway passes on the error of the
transport, and none of these errors is an unknown outcome (`definite_call`).  So a call
that may have reached a server is reported as it should be only when its response arrives.
-/

namespace Workbench.Mcp

open Workbench.Core Config Library

/-! ## Complete responses -/

/-- The response to a request written in whole: a line within the ceiling, a JSON value with the id
of the request. -/
def LineAnswers (wire : Wire) (io : PipeIo) (pending : Bytes × UInt64) (line : Bytes) : Prop :=
  io.sending.complete ∧ (∃ rest, readLine [] pending.1 io.arrivals = (.line line, rest)) ∧
    line.length ≤ defaultMaxFrameBytes ∧
    ∃ text value, wire.fromUtf8 line = some text ∧ wire.fromStr text.trimEnd = some value ∧
      value.member "id" = some (.number (.natural pending.2))

/-- The response to a request written in whole, read up to the end of the connection, with a body
complete by its own framing. -/
def ResponseAnswers (wire : Wire) (io : HttpIo) (ceiling : Nat) (raw : Bytes) : Prop :=
  io.sending.complete ∧ readToEnd ceiling [] io.arrivals = .response raw ∧
    ∃ header body content, headAndBody wire raw = some (header, body) ∧
      body.utf8Length ≤ ceiling ∧ Framed header body content

/-- The server of the tool that a request names. -/
def requestServer (config : WorkbenchConfiguration) (request : ToolInvokeRequest) :
    Option (String × McpServer) := do
  let tool ← config.tools.lookup request.toolId
  let serverId ← tool.mcpServer
  let server ← config.mcpServers.lookup serverId
  return (serverId, server)

/-- What the reader of a child holds, and the id of its next request. -/
def Transports.pending (transports : Transports) (serverId : String) : Bytes × UInt64 :=
  match transports.children.lookup (transports.childKey serverId) with
  | none => ([], 1)
  | some child => (child.buffered, child.nextId)

/-- The complete response is received, and this is what the transport makes of it. -/
def Answers (wire : Wire) (io : CallIo) (gateway : McpGateway) (request : ToolInvokeRequest)
    (result : Except McpError Json) : Prop :=
  ∃ serverId server, requestServer gateway.config request = some (serverId, server) ∧
    match server.transport with
    | .stdio => ∃ line, LineAnswers wire io.pipe (gateway.transports.pending serverId) line ∧
      result = StdioChild.lineResult wire defaultMaxFrameBytes line
    | .http => ∃ identity raw, server.url.map HttpIdentity.parse = some (.ok identity) ∧
      ResponseAnswers wire io.network (responseCeiling server) raw ∧
      result = parseHttpResponse wire raw identity (responseCeiling server)

/-- The complete response for a call is received. -/
def Answered (wire : Wire) (io : CallIo) (gateway : McpGateway) (request : ToolInvokeRequest) :
    Prop :=
  ∃ result, Answers wire io gateway request result

/-- A call reports what its transport returned. -/
def Reports (result : Except McpError Json) (reported : Except McpError ToolInvokeOutcome) : Prop :=
  match result with
  | .ok value => ∃ outcome, reported = .ok outcome ∧ outcome.progress = .completed ∧
      outcome.content = some value
  | .error error => reported = .error error

/-- Whether a byte of the request of a call may have reached a server. -/
def Contact.mayHaveReached (io : CallIo) : Contact → Bool
  | .spawned _ _ => false
  | .stdioCall _ exchange => exchange.payload.isSome && io.pipe.sending.mayHaveReached
  | .httpCall _ payload => payload.isSome && io.network.sending.mayHaveReached

/-- The contacts that a call makes. -/
def madeContacts (wire : Wire) (host : Host) (io : CallIo) (gateway : McpGateway)
    (attemptId : Nat) (request : ToolInvokeRequest) : List Contact :=
  (gateway.invoke wire host io attemptId request).2.transports.contacts.drop
    gateway.transports.contacts.length

/-! ## The errors of the transports -/

/-- A failure is not an unknown outcome. -/
def Definite {α : Type} (result : Except McpError α) : Prop :=
  ∀ error, result = .error error → error.kind ≠ .outcomeUnknown

theorem Definite.ok {α : Type} (value : α) : Definite (.ok value) := nofun

theorem Definite.error {α : Type} {error : McpError} (hkind : error.kind ≠ .outcomeUnknown) :
    Definite (.error error : Except McpError α) := by
  rintro _ ⟨⟩
  exact hkind

section

variable {wire : Wire} {host : Host}

theorem definite_lineResult (maxFrameBytes : Nat) (line : Bytes) :
    Definite (StdioChild.lineResult wire maxFrameBytes line) := by
  unfold StdioChild.lineResult
  repeat' split
  all_goals first | exact .ok _ | exact .error nofun

theorem definite_exchange (io : PipeIo) (operation : String) (arguments : Json)
    (maxFrameBytes : Nat) (child : StdioChild) :
    Definite (child.exchange wire io operation arguments maxFrameBytes).1.result := by
  unfold StdioChild.exchange
  simp only
  repeat' split
  all_goals first | exact definite_lineResult _ _ | exact .error nofun

theorem definite_spawn (io : SpawnIo) (serverId workspaceKey : String) (server : McpServer) :
    Definite (StdioChild.spawn host io serverId workspaceKey server) := by
  unfold StdioChild.spawn
  repeat' split
  all_goals first | exact .ok _ | exact .error nofun

theorem definite_parse (url : String) : Definite (HttpIdentity.parse url) := by
  unfold HttpIdentity.parse
  simp only
  repeat' split
  all_goals first | exact .ok _ | exact .error nofun

theorem definite_parseHttpResponse (raw : Bytes) (identity : HttpIdentity) (maxBytes : Nat) :
    Definite (parseHttpResponse wire raw identity maxBytes) := by
  unfold parseHttpResponse
  repeat' split
  all_goals first | exact .ok _ | exact .error nofun

theorem definite_exchangeHttp (io : HttpIo) (identity : HttpIdentity) (operation : String)
    (arguments : Json) (maxBytes : Nat) :
    Definite (exchangeHttp wire io identity operation arguments maxBytes).2 := by
  unfold exchangeHttp
  repeat' split
  all_goals first | exact definite_parseHttpResponse _ _ _ | exact .error nofun

theorem definite_invokeFake (client : HttpMcpClient) (serverId : String) (identity : HttpIdentity)
    (maxBytes : Nat) : Definite (client.invokeFake wire serverId identity maxBytes) := by
  unfold HttpMcpClient.invokeFake
  repeat' split
  all_goals first | exact .ok _ | exact .error nofun

theorem definite_http (io : HttpIo) (client : HttpMcpClient) (serverId : String)
    (server : McpServer) (operation : String) (arguments : Json) :
    Definite (client.invoke wire io serverId server operation arguments).2 := by
  unfold HttpMcpClient.invoke
  split
  · exact .error nofun
  split
  · next hparse => exact .error (definite_parse _ _ hparse)
  repeat' split
  all_goals first
    | exact definite_exchangeHttp _ _ _ _ _
    | exact definite_invokeFake _ _ _ _
    | exact .error nofun

/-- No error of a transport is an unknown outcome. -/
theorem definite_call (io : CallIo) (transports : Transports) (serverId : String)
    (server : McpServer) (operation : String) (arguments : Json) :
    Definite (transports.call wire host io serverId server operation arguments).1 := by
  unfold Transports.call
  split
  · split
    · next hspawn =>
      unfold Transports.getOrSpawn at hspawn
      split at hspawn
      · cases hspawn
      · split at hspawn
        · next hfailed => cases hspawn; exact .error (definite_spawn _ _ _ _ _ hfailed)
        · cases hspawn
    · unfold Transports.invokeStdio
      split
      · exact .error nofun
      · exact definite_exchange _ _ _ _ _
  · exact definite_http _ _ _ _ _ _

end

/-! ## What a call that may have reached a server reports -/

section

variable {wire : Wire} {host : Host} {io : CallIo} {gateway : McpGateway}
  {request : ToolInvokeRequest}

/-- A child ready for a call holds what was pending for its server; nothing is written to it. -/
theorem getOrSpawn_pending {transports ready : Transports} {serverId : String} {server : McpServer}
    (h : transports.getOrSpawn host io.spawn serverId server = (.ok (), ready)) :
    (∃ child, ready.children.lookup (ready.childKey serverId) = some child ∧
      transports.pending serverId = (child.buffered, child.nextId)) ∧
    ∃ made, ready.contacts = transports.contacts ++ made ∧
      ∀ contact ∈ made, contact.mayHaveReached io = false := by
  unfold Transports.getOrSpawn at h
  split at h
  · next hsome =>
    cases h
    obtain ⟨child, hchild⟩ := Option.isSome_iff_exists.mp hsome
    exact ⟨⟨child, hchild, by rw [Transports.pending, hchild]⟩, [], by simp⟩
  · next hnone =>
    split at h
    · cases h
    next child image hspawn =>
    cases h
    refine ⟨⟨child, by simp [putChild, Transports.childKey, Transports.contact], ?_⟩,
      [.spawned serverId image], rfl, by simp [Contact.mayHaveReached]⟩
    unfold StdioChild.spawn at hspawn
    repeat' split at hspawn
    all_goals cases hspawn
    rw [Transports.pending, Option.not_isSome_iff_eq_none.mp hnone]

/-- A call on a child returns what the line that it reads is worth. -/
theorem exchange_of_line {io : PipeIo} {operation : String} {arguments : Json} {maxFrameBytes : Nat}
    {child : StdioChild} {line rest : Bytes} (hsent : io.sending.complete)
    (hread : readLine [] child.buffered io.arrivals = (.line line, rest))
    (hpayload :
      (child.exchange wire io operation arguments maxFrameBytes).1.payload.isSome) :
    (child.exchange wire io operation arguments maxFrameBytes).1.result
      = StdioChild.lineResult wire maxFrameBytes line := by
  revert hpayload
  unfold StdioChild.exchange
  simp only [hsent, hread]
  repeat' split
  all_goals simp_all

/-- A request over HTTP that was written returns what the response is worth. -/
theorem http_of_response {io : HttpIo} {client : HttpMcpClient} {serverId operation : String}
    {server : McpServer} {arguments : Json} {identity : HttpIdentity} {raw : Bytes}
    (hidentity : server.url.map HttpIdentity.parse = some (.ok identity))
    (hsent : io.sending.complete)
    (hread : readToEnd (responseCeiling server) [] io.arrivals = .response raw)
    (hpayload : (client.invoke wire io serverId server operation arguments).1.isSome) :
    (client.invoke wire io serverId server operation arguments).2
      = parseHttpResponse wire raw identity (responseCeiling server) := by
  obtain ⟨url, hurl, hparse⟩ := Option.map_eq_some_iff.mp hidentity
  revert hpayload
  unfold HttpMcpClient.invoke exchangeHttp
  simp only [hurl, hparse, hsent, hread]
  repeat' split
  all_goals simp_all

/-- What a transport returns when bytes were sent and the response is received. -/
theorem call_of_answers {result : Except McpError Json} {contact : Contact} {serverId : String}
    {server : McpServer}
    (hserver : requestServer gateway.config request = some (serverId, server))
    (hcontact : contact ∈ (gateway.transports.call wire host io serverId server request.operation
      request.arguments).2.contacts.drop gateway.transports.contacts.length)
    (hreached : contact.mayHaveReached io) (h : Answers wire io gateway request result) :
    (gateway.transports.call wire host io serverId server request.operation request.arguments).1
      = result := by
  obtain ⟨_, _, hsame, hanswers⟩ := h
  cases hserver.symm.trans hsame
  unfold Transports.call at hcontact ⊢
  cases htransport : server.transport with
  | stdio =>
    rw [htransport] at hanswers hcontact
    obtain ⟨line, ⟨hsent, ⟨rest, hread⟩, -⟩, rfl⟩ := hanswers
    rcases hready : gateway.transports.getOrSpawn host io.spawn serverId server with ⟨_ | _, ready⟩
    · -- no child, no request
      obtain rfl : gateway.transports = ready := by
        unfold Transports.getOrSpawn at hready
        repeat' split at hready
        all_goals cases hready
        rfl
      simp [hready] at hcontact
    · obtain ⟨⟨child, hchild, hpending⟩, made, hmade, hquiet⟩ := getOrSpawn_pending hready
      rw [hpending] at hread
      simp only [hready, Transports.invokeStdio, hchild, Transports.contact, hmade,
        List.append_assoc, List.drop_left, List.mem_append, List.mem_singleton] at hcontact ⊢
      rcases hcontact with hmem | rfl
      · rw [hquiet contact hmem] at hreached
        cases hreached
      · exact exchange_of_line hsent hread (Bool.and_eq_true_iff.mp hreached).1
  | http =>
    rw [htransport] at hanswers hcontact
    obtain ⟨identity, raw, hidentity, ⟨hsent, hread, -⟩, rfl⟩ := hanswers
    simp only [Transports.invokeHttp, Transports.contact, List.drop_left,
      List.mem_singleton] at hcontact
    subst hcontact
    exact http_of_response hidentity hsent hread (Bool.and_eq_true_iff.mp hreached).1

/-- What a call comes down to that made a contact. -/
theorem dispatched_of_contact {attemptId : Nat} {contact : Contact}
    (hcontact : contact ∈ madeContacts wire host io gateway attemptId request) :
    ∃ access serverId server transport, McpGateway.Dispatched wire host io gateway request
      (gateway.invoke wire host io attemptId request) access serverId server transport := by
  obtain ⟨_, hsame | hdispatched⟩ := @McpGateway.invoke_spec wire host io gateway request attemptId
  · unfold madeContacts at hcontact
    rw [hsame, List.drop_length] at hcontact
    cases hcontact
  · exact hdispatched

/-- The server of a call that used a transport is the one of the tool that it names. -/
theorem McpGateway.Dispatched.requestServer {call : Except McpError ToolInvokeOutcome × McpGateway}
    {access : ResolvedToolAccess} {serverId : String} {server : McpServer}
    {transport : Except McpError Json × Transports}
    (h : McpGateway.Dispatched wire host io gateway request call access serverId server transport) :
    requestServer gateway.config request = some (serverId, server) := by
  obtain ⟨tool, _, _, htool, -, -, hserver, -⟩ := resolveMcpToolAccess_spec h.resolved
  have hfound : gateway.config.tools.lookup request.toolId = some tool :=
    (Option.filter_eq_some_iff.mp htool).1
  simp only [Mcp.requestServer, hfound, Option.bind_eq_bind, Option.bind_some,
    hserver.symm.trans h.serves, h.configured, Option.pure_def]

/-- For a call that may have reached a server, the rule that a missing response makes its
outcome unknown holds exactly when the response is not missing.  A response that is received
is what the call reports. -/
theorem uncertainty_reported_iff (attemptId : Nat)
    (hreached : ∃ contact ∈ madeContacts wire host io gateway attemptId request,
      contact.mayHaveReached io) :
    ((¬ Answered wire io gateway request →
      ∃ outcome, (gateway.invoke wire host io attemptId request).1 = .ok outcome ∧
        outcome.progress = .outcomeUnknown) ↔
      Answered wire io gateway request) ∧
    ∀ result, Answers wire io gateway request result →
      Reports result (gateway.invoke wire host io attemptId request).1 := by
  obtain ⟨contact, hmem, hcontact⟩ := hreached
  obtain ⟨access, serverId, server, transport, hdispatched⟩ := dispatched_of_contact hmem
  have hreports : Reports transport.1 (gateway.invoke wire host io attemptId request).1 := by
    cases htransport : transport.1 with
    | ok value => exact hdispatched.succeeded value htransport
    | error error =>
      exact hdispatched.failed error htransport
        (definite_call io _ _ _ _ _ _ (hdispatched.called ▸ htransport))
  refine ⟨⟨fun hreport => ?_, fun hanswered hmissing => absurd hanswered hmissing⟩,
    fun result hanswers => ?_⟩
  · by_contra hmissing
    obtain ⟨outcome, hresult, hprogress⟩ := hreport hmissing
    rw [hresult] at hreports
    cases htransport : transport.1 with
    | ok value =>
      rw [htransport] at hreports
      obtain ⟨_, hsame, hcompleted, -⟩ := hreports
      cases hsame
      exact absurd (hcompleted.symm.trans hprogress) nofun
    | error error =>
      rw [htransport] at hreports
      cases hreports
  · have hresult := call_of_answers hdispatched.requestServer
      (by rwa [madeContacts, hdispatched.after, ← hdispatched.called] at hmem) hcontact hanswers
    rw [hdispatched.called] at hresult
    exact hresult ▸ hreports

end

/-! A read of a stdio server: one whose response arrives in two pieces, and one that gets no
response at all. -/

def repoReply (id : UInt64) : Json :=
  .object [("id", .number (.natural id)), ("result", .object [("ok", .bool true)])]

/-- The line of a response. -/
def repoLine (id : UInt64) : Bytes :=
  (Json.render Json.ratioFormat (repoReply id)).map (fun c => UInt8.ofNat c.toNat) ++ [lineFeed]

/-- The response arrives in two pieces. -/
def repliedIo : CallIo :=
  repoIo repoProgram [.data ((repoLine 1).take 5), .data ((repoLine 1).drop 5)]

theorem answered_read_reported :
    (∃ contact ∈ madeContacts (tableWire [repoReply 1]) silentHost repliedIo repoGateway 1
        repoRequest, contact.mayHaveReached repliedIo) ∧
      Reports (.ok (.object [("ok", .bool true)]))
        (repoGateway.invoke (tableWire [repoReply 1]) silentHost repliedIo 1 repoRequest).1 := by
  have hreached : ∃ contact ∈ madeContacts
    (tableWire [repoReply 1]) silentHost repliedIo repoGateway
      1 repoRequest, contact.mayHaveReached repliedIo = true :=
    List.any_eq_true.mp (by decide +kernel)
  refine ⟨hreached, (uncertainty_reported_iff 1 hreached).2 _ ?_⟩
  refine ⟨"repo", repoServer, by decide +kernel, repoLine 1,
    ⟨rfl, ⟨[], ?_⟩, ?_, _, repoReply 1, rfl,
    ?_, ?_⟩, ?_⟩
  all_goals decide +kernel

/-- A read that gets no response is reported as a definite failure. -/
theorem timed_out_read_failed :
    (∃ contact ∈ madeContacts (tableWire []) silentHost (repoIo repoProgram []) repoGateway 1
        repoRequest, contact.mayHaveReached (repoIo repoProgram [])) ∧
      ¬ Answered (tableWire []) (repoIo repoProgram []) repoGateway repoRequest ∧
      (repoGateway.invoke (tableWire []) silentHost (repoIo repoProgram []) 1 repoRequest).1
        = .error .stdioTimeout ∧
      ∃ fact ∈ (repoGateway.invoke (tableWire []) silentHost (repoIo repoProgram []) 1
        repoRequest).2.audit, fact.event.lifecycle = .failed := by
  refine ⟨List.any_eq_true.mp (by decide +kernel), ?_, by decide +kernel, by decide +kernel⟩
  rintro ⟨result, serverId, server, hserver, hanswers⟩
  have hrepo : some ("repo", repoServer) = some (serverId, server) :=
    hserver ▸ (by decide +kernel : some ("repo", repoServer)
      = requestServer repoGateway.config repoRequest)
  obtain ⟨rfl, rfl⟩ := Prod.mk.inj (Option.some.inj hrepo)
  obtain ⟨line, ⟨-, ⟨rest, hread⟩, -⟩, -⟩ := hanswers
  cases hread

end Workbench.Mcp
