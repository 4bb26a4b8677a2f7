import Workbench.Mcp.Pin

/-!
# Mcp: transports

A supervised child that is called over its standard input and output, and an HTTP
endpoint.  What the other side does during one call is an input of the call: how far each
write gets, and what can be read before the deadline.  A call that finds no more arrivals
has timed out.  JSON text and UTF-8 are parameters.
-/

namespace Workbench.Mcp

open Config Library List

/-- The text formats the transports use. -/
structure Wire where
  toVec : Json → Option Bytes
  fromUtf8 : Bytes → Option Text
  fromStr : Text → Option Json

/-- The wire formats restricted to ASCII texts and to the texts of some values. -/
def tableWire (values : List Json) : Wire where
  toVec value := some ((Json.render Json.ratioFormat value).map fun c => UInt8.ofNat c.toNat)
  fromUtf8 bytes := some (bytes.map fun byte => Char.ofNat byte.toNat)
  fromStr text := values.find? fun value => Json.render Json.ratioFormat value = text

/-! ## Writing and reading -/

/-- How one `write_all` ends. -/
inductive Write where
  | done
  /-- It fails when this many bytes have been taken. -/
  | failed (accepted : Nat)
  deriving DecidableEq

/-- The two writes of a request and the flush behind them. -/
structure Sending where
  head : Write
  tail : Write
  flushed : Bool

/-- Whether the whole request was written. -/
def Sending.complete (sending : Sending) : Bool :=
  decide (sending.head = .done) && decide (sending.tail = .done) && sending.flushed

/-- Whether a byte of the request may have reached the other side. -/
def Sending.mayHaveReached (sending : Sending) : Bool :=
  match sending.head with
  | .done => true
  | .failed accepted => decide (0 < accepted)

/-- What one read can give. -/
inductive Arrival where
  | data (bytes : Bytes)
  | closed
  | failed

/-- How reading a line ends. -/
inductive LineRead where
  /-- The bytes up to and with a line feed, or up to the end of the stream. -/
  | line (bytes : Bytes)
  | failed
  | timedOut
  deriving DecidableEq

def lineFeed : UInt8 := 10

/-- The first line of some bytes, with its line feed, and the bytes behind it. -/
def firstLine : Bytes → Option (Bytes × Bytes)
  | [] => none
  | byte :: rest =>
    if byte = lineFeed then some ([byte], rest)
    else (firstLine rest).map fun parts => (byte :: parts.1, parts.2)

/-- `read_line`, with the bytes taken and those held; a read that is given up loses what it took. -/
def readLine (taken buffered : Bytes) : List Arrival → LineRead × Bytes
  | [] =>
    match firstLine buffered with
    | some (line, rest) => (.line (taken ++ line), rest)
    | none => (.timedOut, [])
  | arrival :: later =>
    match firstLine buffered with
    | some (line, rest) => (.line (taken ++ line), rest)
    | none =>
      match arrival with
      | .closed => (.line (taken ++ buffered), [])
      | .failed => (.failed, [])
      | .data bytes => readLine (taken ++ buffered) bytes later

/-! The stream that a reader sees, whatever pieces it arrives in. -/

/-- The bytes that arrive before the stream ends. -/
def delivered : List Arrival → Bytes
  | .data bytes :: later => bytes ++ delivered later
  | _ => []

/-- Whether the other side closes the stream. -/
def closes : List Arrival → Bool
  | .data _ :: later => closes later
  | .closed :: _ => true
  | _ => false

/-- The bytes up to the first line feed, or all bytes of a stream that is closed without one. -/
def IsFirstLine (buffered : Bytes) (arrivals : List Arrival) (line : Bytes) : Prop :=
  (∃ body rest, buffered ++ delivered arrivals = body ++ lineFeed :: rest ∧ lineFeed ∉ body ∧
    line = body ++ [lineFeed]) ∨
  (closes arrivals ∧ lineFeed ∉ buffered ++ delivered arrivals ∧
    line = buffered ++ delivered arrivals)

variable {bytes line rest taken buffered : Bytes}

theorem firstLine_eq_none : firstLine bytes = none ↔ lineFeed ∉ bytes := by
  induction bytes with
  | nil => simp [firstLine]
  | cons byte rest ih =>
    unfold firstLine
    by_cases hfeed : byte = lineFeed
    · simp [hfeed]
    · rw [if_neg hfeed, Option.map_eq_none_iff, ih, mem_cons]
      exact ⟨fun hrest => not_or.mpr ⟨fun heq => hfeed heq.symm, hrest⟩, fun h => (not_or.mp h).2⟩

theorem firstLine_eq_some (h : firstLine bytes = some (line, rest)) :
    ∃ body, bytes = body ++ lineFeed :: rest ∧ lineFeed ∉ body ∧ line = body ++ [lineFeed] := by
  induction bytes generalizing line with
  | nil => cases h
  | cons byte later ih =>
    unfold firstLine at h
    by_cases hfeed : byte = lineFeed
    · rw [if_pos hfeed] at h
      cases h
      exact ⟨[], by rw [hfeed]; rfl, not_mem_nil, by rw [hfeed]; rfl⟩
    rw [if_neg hfeed] at h
    obtain ⟨⟨tail, rest'⟩, hlater, heq⟩ := Option.map_eq_some_iff.mp h
    cases heq
    obtain ⟨body, rfl, hbody, rfl⟩ := ih hlater
    refine ⟨byte :: body, rfl, ?_, rfl⟩
    exact fun hmem => (mem_cons.mp hmem).elim (fun heq => hfeed heq.symm) hbody

/-- A line feed in the buffer ends the first line of the stream. -/
theorem isFirstLine_of_buffer (htaken : lineFeed ∉ taken)
    (h : firstLine buffered = some (line, rest)) (arrivals : List Arrival) :
    IsFirstLine (taken ++ buffered) arrivals (taken ++ line) ∧
      (taken ++ line ++ rest) <+: taken ++ buffered ++ delivered arrivals := by
  obtain ⟨body, rfl, hfree, rfl⟩ := firstLine_eq_some h
  refine ⟨.inl ⟨taken ++ body, rest ++ delivered arrivals, ?_, ?_, ?_⟩, delivered arrivals, ?_⟩
  · simp
  · exact fun hmem => (mem_append.mp hmem).elim htaken hfree
  · simp
  · simp

/-- What arrives next belongs to the same stream. -/
theorem IsFirstLine.data {later : List Arrival} (h : IsFirstLine (buffered ++ bytes) later line) :
    IsFirstLine buffered (.data bytes :: later) line := by
  unfold IsFirstLine at h ⊢
  rwa [append_assoc] at h

/-- A line that was read is the first of the stream, and what the reader holds stands behind it. -/
theorem readLine_line {arrivals : List Arrival} (htaken : lineFeed ∉ taken)
    (h : readLine taken buffered arrivals = (.line line, rest)) :
    IsFirstLine (taken ++ buffered) arrivals line ∧
      (line ++ rest) <+: taken ++ buffered ++ delivered arrivals := by
  induction arrivals generalizing taken buffered with
  | nil =>
    unfold readLine at h
    cases hfirst : firstLine buffered with
    | some parts =>
      rw [hfirst] at h
      cases h
      exact isFirstLine_of_buffer htaken hfirst []
    | none => rw [hfirst] at h; cases h
  | cons arrival later ih =>
    unfold readLine at h
    cases hfirst : firstLine buffered with
    | some parts =>
      rw [hfirst] at h
      cases h
      exact isFirstLine_of_buffer htaken hfirst (arrival :: later)
    | none =>
      have hfree : lineFeed ∉ taken ++ buffered := fun hmem =>
        (mem_append.mp hmem).elim htaken (firstLine_eq_none.mp hfirst)
      rw [hfirst] at h
      cases arrival with
      | closed =>
        cases h
        have hnothing : delivered (.closed :: later) = [] := rfl
        unfold IsFirstLine
        rw [hnothing, append_nil]
        exact ⟨.inr ⟨rfl, hfree, rfl⟩, [], append_nil _⟩
      | failed => cases h
      | data =>
        obtain ⟨hline, hprefix⟩ := ih hfree h
        refine ⟨hline.data, ?_⟩
        rwa [append_assoc] at hprefix

/-- A read that is given up or fails leaves nothing in the buffer. -/
theorem readLine_rest {arrivals : List Arrival} {read : LineRead}
    (h : readLine taken buffered arrivals = (read, rest)) (hread : ∀ line, read ≠ .line line) :
    rest = [] := by
  induction arrivals generalizing taken buffered with
  | nil =>
    unfold readLine at h
    cases hfirst : firstLine buffered with
    | some parts => rw [hfirst] at h; cases h; exact absurd rfl (hread _)
    | none => rw [hfirst] at h; cases h; rfl
  | cons arrival later ih =>
    unfold readLine at h
    cases hfirst : firstLine buffered with
    | some parts => rw [hfirst] at h; cases h; exact absurd rfl (hread _)
    | none =>
      rw [hfirst] at h
      cases arrival with
      | closed | failed => cases h; rfl
      | data => exact ih h

/-! ## Stdio children -/

def defaultMaxFrameBytes : Nat := 8388608

/-- What a child and the pipes to it do during one call. -/
structure PipeIo where
  sending : Sending
  arrivals : List Arrival

/-- Workspace-scoped supervised stdio MCP child. -/
structure StdioChild where
  serverId : String
  workspaceKey : String
  /-- What its reader holds. -/
  buffered : Bytes
  nextId : UInt64

/-- The narrow JSON-RPC envelope of a call. -/
def toolsCall (id : UInt64) (operation : String) (arguments : Json) : Json :=
  .object [("id", .number (.natural id)), ("jsonrpc", .string "2.0"),
    ("method", .string "tools/call"),
    ("params", .object [("arguments", arguments), ("name", .string operation)])]

/-- One call on a child: the id, the bytes it tried to write, how its read ended, its result. -/
structure Exchange where
  id : UInt64
  payload : Option Bytes
  read : Option LineRead
  result : Except McpError Json
  deriving DecidableEq

/-- The increment of the request id. -/
def StdioChild.saturatingSucc (id : UInt64) : UInt64 :=
  if id.toNat + 1 < UInt64.size then id + 1 else id

/-- What a line that was read is worth. -/
def StdioChild.lineResult (wire : Wire) (maxFrameBytes : Nat) (line : Bytes) :
    Except McpError Json :=
  match wire.fromUtf8 line with
  | none => .error .transportFailed
  | some text =>
    if line = [] then .error .transportFailed
    else if maxFrameBytes < line.length then .error .responseTooLarge
    else
      match wire.fromStr text.trimEnd with
      | none => .error .transportFailed
      | some value =>
        if (value.member "error").isSome then .error .transportFailed
        else .ok ((value.member "result").getD .null)

/-- Invokes a named tool operation, with what the other side does. -/
def StdioChild.exchange (wire : Wire) (io : PipeIo) (operation : String) (arguments : Json)
    (maxFrameBytes : Nat) (child : StdioChild) : Exchange × StdioChild :=
  let id := child.nextId
  let child := { child with nextId := saturatingSucc id }
  match wire.toVec (toolsCall id operation arguments) with
  | none => (⟨id, none, none, .error .transportFailed⟩, child)
  | some encoded =>
    if maxFrameBytes < encoded.length then (⟨id, none, none, .error .responseTooLarge⟩, child)
    else
      let payload := some (encoded ++ [lineFeed])
      if io.sending.complete = false then (⟨id, payload, none, .error .transportFailed⟩, child)
      else
        let (read, buffered) := readLine [] child.buffered io.arrivals
        let child := { child with buffered }
        match read with
        | .timedOut => (⟨id, payload, some read, .error .stdioTimeout⟩, child)
        | .failed => (⟨id, payload, some read, .error .transportFailed⟩, child)
        | .line line => (⟨id, payload, some read, lineResult wire maxFrameBytes line⟩, child)

/-- What happens around a spawn: the files at the check and when the program is loaded, and whether
the two steps around it work. -/
structure SpawnIo where
  files : FileSystem
  filesAtExec : FileSystem
  directoryCreated : Bool
  spawned : Bool

/-- The program that a spawn runs. -/
def loadedImage (files : FileSystem) (path : List String) : Option Bytes :=
  (files path).bind fun node =>
    match node.kind with
    | .file contents => some contents
    | _ => none

/-- Spawns an MCP child in a private working directory, with the program it runs. -/
def StdioChild.spawn (host : Host) (io : SpawnIo) (serverId workspaceKey : String)
    (server : McpServer) : Except McpError (StdioChild × Bytes) :=
  match server.executable with
  | none => .error .unavailable
  | some executable =>
    match canonicalizeMcpExecutable host io.files executable with
    | .error _ => .error .unavailable
    | .ok canonical =>
      if io.directoryCreated = false then .error .unavailable
      else if io.spawned = false then .error .transportFailed
      else
        match loadedImage io.filesAtExec canonical with
        | none => .error .transportFailed
        | some image => .ok (⟨serverId, workspaceKey, [], 1⟩, image)

/-! ## HTTP -/

def defaultMaxResponseBytes : Nat := 8388608

/-- Offline-injectable HTTP behavior for tests and fakes. -/
inductive FakeHttpMode where
  | success (body : Json)
  | oversized (bytes : Nat)
  | redirect (location : String)
  | hang
  | transportError

/-- What the network does during one call. -/
structure HttpIo where
  connected : Bool
  serverName : Bool
  tls : Bool
  sending : Sending
  arrivals : List Arrival

/-- The client: the injected modes, and whether they are used. -/
structure HttpMcpClient where
  fake : Table FakeHttpMode
  useFake : Bool

/-- How reading a response ends. -/
inductive ResponseRead where
  | response (raw : Bytes)
  | tooLarge
  | failed
  | timedOut
  deriving DecidableEq

/-- Reads until the other side closes the connection. -/
def readToEnd (maxBytes : Nat) (response : Bytes) : List Arrival → ResponseRead
  | [] => .timedOut
  | .closed :: _ => .response response
  | .failed :: _ => .failed
  | .data bytes :: later =>
    if maxBytes + 4096 < response.length + bytes.length then .tooLarge
    else readToEnd maxBytes (response ++ bytes) later

/-- Whether a status line announces a redirect. -/
def isRedirect (statusLine : Text) : Bool :=
  [" 301 ", " 302 ", " 307 ", " 308 "].any fun status => Text.contains status.toList statusLine

def redirectLocation (header : Text) : Option Text :=
  header.lines.findSome? fun line =>
    (dropPrefix? (Text.asciiLower line) "location:".toList).map Text.trim

def parseHttpResponse (wire : Wire) (raw : Bytes) (identity : HttpIdentity) (maxBytes : Nat) :
    Except McpError Json :=
  match wire.fromUtf8 raw with
  | none => .error .transportFailed
  | some text =>
    match Text.splitOnce "\r\n\r\n".toList text with
    | none => .error .transportFailed
    | some (header, body) =>
      match header.lines.head? with
      | none => .error .transportFailed
      | some statusLine =>
        if isRedirect statusLine then
          match redirectLocation header with
          | none => .error .redirectRejected
          | some location =>
            if identity.matchesRedirect (String.ofList location) then
              .error .transportFailed
            else .error .redirectRejected
        else if maxBytes < body.utf8Length then .error .responseTooLarge
        else
          match wire.fromStr body with
          | none => .error .transportFailed
          | some value =>
            if (value.member "error").isSome then .error .transportFailed
            else .ok ((value.member "result").getD value)

def requestHead (identity : HttpIdentity) (length : Nat) : Text :=
  ("POST " ++ identity.path ++ " HTTP/1.1\r\nHost: " ++ identity.host
    ++ "\r\nContent-Type: application/json\r\nContent-Length: " ++ toString length
    ++ "\r\nConnection: close\r\n\r\n").toList

/-- Sends a request on an open connection; the response, with the bytes it tried to write. -/
def exchangeHttp (wire : Wire) (io : HttpIo) (identity : HttpIdentity) (operation : String)
    (arguments : Json) (maxBytes : Nat) : Option Bytes × Except McpError Json :=
  match wire.toVec (toolsCall 1 operation arguments) with
  | none => (none, .error .transportFailed)
  | some body =>
    if maxBytes < body.length then (none, .error .responseTooLarge)
    else
      let payload := some (Text.utf8 (requestHead identity body.length) ++ body)
      if io.sending.complete = false then (payload, .error .transportFailed)
      else
        match readToEnd maxBytes [] io.arrivals with
        | .timedOut => (payload, .error .httpTimeout)
        | .failed => (payload, .error .transportFailed)
        | .tooLarge => (payload, .error .responseTooLarge)
        | .response raw => (payload, parseHttpResponse wire raw identity maxBytes)

def responseCeiling (server : McpServer) : Nat :=
  min ((server.maxResponseBytes.map (·.toNat)).getD defaultMaxResponseBytes) defaultMaxResponseBytes

/-- The injected behavior for one server. -/
def HttpMcpClient.invokeFake (wire : Wire) (client : HttpMcpClient) (serverId : String)
    (identity : HttpIdentity) (maxBytes : Nat) : Except McpError Json :=
  match (client.fake.lookup serverId).getD (.success (.object [("ok", .bool true)])) with
  | .success body =>
    match wire.toVec body with
    | none => .error .transportFailed
    | some encoded => if maxBytes < encoded.length then .error .responseTooLarge else .ok body
  | .oversized bytes =>
    if maxBytes < bytes then .error .responseTooLarge else .ok (.object [("ok", .bool true)])
  | .redirect location =>
    if identity.matchesRedirect location then
      .ok (.object [("ok", .bool true), ("redirected", .bool true)])
    else .error .redirectRejected
  | .hang => .error .httpTimeout
  | .transportError => .error .transportFailed

/-- Invokes a tool on the pinned HTTP(S) endpoint, with the bytes it tried to write. -/
def HttpMcpClient.invoke (wire : Wire) (io : HttpIo) (client : HttpMcpClient) (serverId : String)
    (server : McpServer) (operation : String) (arguments : Json) :
    Option Bytes × Except McpError Json :=
  match server.url with
  | none => (none, .error .unavailable)
  | some url =>
    match HttpIdentity.parse url with
    | .error error => (none, .error error)
    | .ok identity =>
      if identity.allowsConnection = false then (none, .error .unavailable)
      else
        let maxBytes := responseCeiling server
        if client.useFake then (none, client.invokeFake wire serverId identity maxBytes)
        else if io.connected = false then (none, .error .transportFailed)
        else if identity.scheme = "https" ∧ (io.serverName = false ∨ io.tls = false) then
          (none, .error .transportFailed)
        else exchangeHttp wire io identity operation arguments maxBytes

end Workbench.Mcp
