import Workbench.Config.Lock
import Workbench.Library.Text
import Workbench.Mcp.Error

/-!
# Mcp: pins

The gateway compares every configured MCP server with the pins of a lock, and with the
file or the endpoint that the server names.  The file system, as it stands at one
moment, is a function from paths to nodes; the user and the digest function are
parameters.
-/

namespace Workbench.Mcp

open Config Library

/-! ## The file system at one moment -/

inductive NodeKind where
  | file (contents : Bytes)
  | directory
  | symlink
  | other

structure Node where
  kind : NodeKind
  mode : Nat
  uid : Nat
  /-- Whether the daemon may open it for reading. -/
  readable : Bool

/-- The node under each absolute path; the root is the path without components. -/
abbrev FileSystem := List String → Option Node

/-- What the gateway asks of its surroundings and never changes. -/
structure Host where
  uid : Nat
  /-- The lower-case hexadecimal digest. -/
  sha256 : Bytes → String
  /-- The text of an error of the operating system. -/
  ioMessage : String

/-- The components of an absolute path without parent traversal. -/
def pathComponents (path : String) : Option (List String) :=
  match path.toList with
  | '/' :: rest =>
    let components := ((rest.splitOn '/').map String.ofList).filter fun component =>
      component ≠ "" ∧ component ≠ "."
    if ".." ∈ components then none else some components
  | _ => none

section

variable (host : Host) (files : FileSystem)

def checkComponent (path : String) (component : List String) : Except ConfigError Unit :=
  match files component with
  | none => .error (.unsafeSource host.ioMessage)
  | some node =>
    match node.kind with
    | .symlink =>
      .error (.unsafeSource ("MCP executable " ++ path ++ " must not contain symbolic links"))
    | .directory =>
      if node.mode &&& 0o022 ≠ 0 then
        .error (.unsafeSource
          ("MCP executable " ++ path ++ " must not traverse writable directories"))
      else .ok ()
    | _ => .ok ()

def notExecutable (path : String) : ConfigError :=
  .unsafeSource ("MCP executable " ++ path
    ++ " must be an executable regular file without group or world write access")

/-- Canonical absolute executable without symlinks or group or world write access. -/
def canonicalizeMcpExecutable (path : String) : Except ConfigError (List String) :=
  match pathComponents path with
  | none =>
    .error (.unsafeSource "MCP executable must be an absolute path without parent traversal")
  | some components => do
    components.inits.forM (checkComponent host files path)
    match files components with
    | none => throw (.unsafeSource host.ioMessage)
    | some node =>
      if node.readable = false then throw (.unsafeSource host.ioMessage)
      match node.kind with
      | .file _ =>
        if node.uid ≠ host.uid ∨ node.mode &&& 0o022 ≠ 0 ∨ node.mode &&& 0o111 = 0 then
          throw (notExecutable path)
        return components
      | _ => throw (notExecutable path)

/-- The digest of an executable. -/
def sha256File (path : List String) : Except ConfigError String :=
  match files path with
  | none => .error (.lock host.ioMessage)
  | some node =>
    if node.readable = false then .error (.lock host.ioMessage)
    else
      let becameUnsafe := ConfigError.unsafeSource
        ("MCP executable /" ++ "/".intercalate path ++ " became unsafe")
      match node.kind with
      | .file contents =>
        if node.mode &&& 0o022 ≠ 0 ∨ node.mode &&& 0o111 = 0 then .error becameUnsafe
        else .ok (host.sha256 contents)
      | _ => .error becameUnsafe

end

/-! ## Endpoints -/

/-- Pinned HTTP endpoint identity. -/
structure HttpIdentity where
  scheme : String
  host : String
  port : Nat
  path : String
  loopback : Bool
  deriving DecidableEq

namespace HttpIdentity

def hostPort (scheme : String) (authority : Text) : Option (Text × Nat) :=
  match Text.rsplitOnce ':' authority with
  | some (host, port) => (Text.parseUnsigned 65536 port).map fun port => (host.asciiLower, port)
  | none => some (authority.asciiLower, if scheme = "https" then 443 else 80)

/-- Authority and path of what stands behind the scheme. -/
def authorityPath (rest : Text) : Text × Text :=
  match Text.splitOnce ['/'] rest with
  | some (authority, path) => (authority, '/' :: path)
  | none => (rest, ['/'])

/-- Parses a restricted absolute HTTP(S) URL. -/
def parse (url : String) : Except McpError HttpIdentity :=
  match Text.splitOnce "://".toList url.toList with
  | none => .error .invalidConfiguration
  | some (scheme, rest) =>
    let scheme := String.ofList (Text.asciiLower scheme)
    if scheme ≠ "http" ∧ scheme ≠ "https" then .error .invalidConfiguration
    else
      let (authority, path) := authorityPath rest
      if '@' ∈ authority ∨ authority = [] then .error .invalidConfiguration
      else
        match hostPort scheme authority with
        | none => .error .invalidConfiguration
        | some (host, port) =>
          if host = [] ∨ ' ' ∈ host then .error .invalidConfiguration
          else
            let host := String.ofList host
            let loopback := host == "127.0.0.1" || host == "localhost" || host == "::1"
            if scheme = "http" ∧ loopback = false then .error .invalidConfiguration
            else .ok ⟨scheme, host, port, String.ofList path, loopback⟩

def pinMaterial (identity : HttpIdentity) : String :=
  identity.scheme ++ "://" ++ identity.host ++ ":" ++ toString identity.port ++ identity.path

/-- Production non-loopback requires TLS.  Loopback may use http. -/
def allowsConnection (identity : HttpIdentity) : Bool :=
  identity.scheme == "https" || identity.loopback

def matchesRedirect (identity : HttpIdentity) (location : String) : Bool :=
  match parse location with
  | .ok other =>
    other.scheme == identity.scheme && other.host == identity.host && other.port == identity.port
  | .error _ => false

/-! ## Canonical identities -/

theorem authorityPath_spec (rest : Text) :
    '/' ∉ (authorityPath rest).1 ∧ ∃ tail, (authorityPath rest).2 = '/' :: tail := by
  have hspec := Text.splitOnce_spec '/' rest
  unfold authorityPath
  cases hsplit : Text.splitOnce ['/'] rest with
  | none => exact ⟨by simpa [hsplit] using hspec, [], rfl⟩
  | some parts =>
    rw [hsplit] at hspec
    exact ⟨hspec.1, parts.2, rfl⟩

theorem hostPort_spec {scheme : String} {authority host : Text} {port : Nat}
    (h : hostPort scheme authority = some (host, port)) :
    (∀ c, c.toNat < 97 → c ∈ host → c ∈ authority) ∧
      Text.asciiLower host = host ∧ port < 65536 := by
  have hspec := Text.splitOnce_spec ':' authority.reverse
  unfold hostPort Text.rsplitOnce at h
  cases hsplit : Text.splitOnce [':'] authority.reverse with
  | none =>
    rw [hsplit] at h
    cases h
    refine ⟨fun c => Text.mem_of_mem_asciiLower, Text.asciiLower_asciiLower _, ?_⟩
    split <;> decide
  | some parts =>
    rw [hsplit] at h hspec
    obtain ⟨number, hnumber, hparts⟩ := Option.map_eq_some_iff.mp h
    cases hparts
    refine ⟨fun c hc hmem => ?_, Text.asciiLower_asciiLower _, ?_⟩
    · have hpart := Text.mem_of_mem_asciiLower hc hmem
      simp_all
    · unfold Text.parseUnsigned at hnumber
      grind

/-- The pin material of an accepted URL names the identity that is pinned. -/
theorem parse_pinMaterial {url : String} {identity : HttpIdentity} (h : parse url = .ok identity) :
    parse identity.pinMaterial = .ok identity ∧
      (identity.scheme = "http" → identity.host ∈ ["127.0.0.1", "localhost", "::1"]) := by
  unfold parse at h
  split at h
  · cases h
  next text rest _ =>
  generalize String.ofList (Text.asciiLower text) = scheme at h
  obtain ⟨hscheme, h⟩ := ok_of_guard h
  obtain ⟨hslash, tail, htail⟩ := authorityPath_spec rest
  generalize authorityPath rest = parts at h hslash htail
  obtain ⟨authority, path⟩ := parts
  obtain rfl : path = '/' :: tail := htail
  obtain ⟨huser, h⟩ := ok_of_guard h
  split at h
  · cases h
  next host port hhost =>
  obtain ⟨hnamed, h⟩ := ok_of_guard h
  obtain ⟨hclear, h⟩ := ok_of_guard h
  cases h
  obtain ⟨hplain, hlower, hport⟩ := hostPort_spec hhost
  have hdigits : ∀ c, c.isDigit = false → c ∉ Nat.toDigits 10 port :=
    fun c hc hmem => Json.mem_toDigits_ne hmem hc
  -- the authority of the pin material
  let again := host ++ ':' :: Nat.toDigits 10 port
  have hslash' : '/' ∉ again := by
    simp [again, hdigits, mt (hplain '/' (by decide)) hslash]
  have huser' : ¬ ('@' ∈ again ∨ again = []) := by
    simp [again, hdigits, mt (hplain '@' (by decide)) (not_or.mp huser).1]
  have hhost' : hostPort scheme again = some (host, port) := by
    simp [hostPort, again, Text.rsplitOnce_append (hdigits ':' rfl),
      Text.parseUnsigned_toDigits hport, hlower]
  have hsame : ':' ∉ scheme.toList ∧
      String.ofList (Text.asciiLower scheme.toList) = scheme := by
    obtain rfl | rfl : scheme = "http" ∨ scheme = "https" := by grind
    all_goals decide
  refine ⟨?_, fun hhttp => ?_⟩
  · have hpin : ∀ loopback,
        (pinMaterial ⟨scheme, .ofList host, port, .ofList ('/' :: tail), loopback⟩).toList
          = scheme.toList ++ [':', '/', '/'] ++ (again ++ ['/'] ++ tail) := by
      simp [pinMaterial, again]
    have hpath : authorityPath (again ++ ['/'] ++ tail) = (again, '/' :: tail) := by
      rw [authorityPath, Text.splitOnce_append [] tail hslash']
    unfold parse
    rw [hpin, show "://".toList = [':', '/', '/'] from rfl, Text.splitOnce_append _ _ hsame.1]
    simp only [hsame.2, hpath, hhost', if_neg hscheme, if_neg huser', if_neg hnamed, if_neg hclear]
  · have hloopback := not_and.mp hclear hhttp
    rw [Bool.not_eq_false] at hloopback
    simpa [or_assoc] using hloopback

/-- Endpoint identities are canonical: the pin material of an accepted URL names the same identity,
two have the same pin material exactly when scheme, host, port and path agree, and a cleartext URL
names a loopback host. -/
theorem endpoint_identity_canonical {url other : String} {first second : HttpIdentity}
    (hfirst : parse url = .ok first) (hsecond : parse other = .ok second) :
    parse first.pinMaterial = .ok first ∧
      (first.pinMaterial = second.pinMaterial ↔ first.scheme = second.scheme ∧
        first.host = second.host ∧ first.port = second.port ∧ first.path = second.path) ∧
      (first.scheme = "http" → first.host ∈ ["127.0.0.1", "localhost", "::1"]) := by
  obtain ⟨hparse, hloopback⟩ := parse_pinMaterial hfirst
  refine ⟨hparse, ⟨fun heq => ?_, fun ⟨hscheme, hhost, hport, hpath⟩ => ?_⟩, hloopback⟩
  · rw [heq, (parse_pinMaterial hsecond).1] at hparse
    cases hparse
    exact ⟨rfl, rfl, rfl, rfl⟩
  · rw [pinMaterial, pinMaterial, hscheme, hhost, hport, hpath]

/-- The default port and the case of the letters do not count, another port does. -/
theorem localhost_canonical :
    let first : HttpIdentity := ⟨"http", "localhost", 80, "/", true⟩
    let second : HttpIdentity := ⟨"https", "localhost", 8443, "/mcp", true⟩
    parse "HTTP://LocalHost" = .ok first ∧ parse "https://LOCALHOST:8443/mcp" = .ok second ∧
      parse "http://localhost:80/" = .ok first ∧ first.pinMaterial ≠ second.pinMaterial ∧
      first.host ∈ ["127.0.0.1", "localhost", "::1"] := by
  intro first second
  have hmaterial : first.pinMaterial = "http://localhost:80/" := by decide +kernel
  have hfirst : parse "HTTP://LocalHost" = .ok first := by decide +kernel
  have hsecond : parse "https://LOCALHOST:8443/mcp" = .ok second := by decide +kernel
  obtain ⟨hparse, hsame, hloopback⟩ := endpoint_identity_canonical hfirst hsecond
  exact ⟨hfirst, hsecond, hmaterial ▸ hparse,
    fun heq => absurd (hsame.mp heq).2.2.1 (by decide), hloopback rfl⟩

end HttpIdentity

/-! ## Pin verification -/

/-- Result of verifying one MCP server against its lock pin. -/
structure PinStatus where
  serverId : String
  available : Bool
  transport : McpTransport
  reason : Option String

section

variable (host : Host) (files : FileSystem)

def verifyStdioArtifact (server : McpServer) : Except String Unit :=
  match server.executable with
  | none => .error "missing executable"
  | some path =>
    match canonicalizeMcpExecutable host files path with
    | .error _ => .error "unsafe path"
    | .ok canonical =>
      match sha256File host files canonical with
      | .error _ => .error "missing artifact"
      | .ok digest => if digest ≠ server.sha256 then .error "pin mismatch" else .ok ()

def verifyHttpEndpoint (server : McpServer) : Except String Unit :=
  match server.url with
  | none => .error "missing url"
  | some url =>
    match HttpIdentity.parse url with
    | .error _ => .error "invalid url"
    | .ok identity =>
      if host.sha256 (Text.utf8 identity.pinMaterial.toList) ≠ server.sha256 then
        .error "pin mismatch"
      else if identity.allowsConnection = false then .error "unsupported endpoint"
      else .ok ()

def verifyArtifact (name : String) (server : McpServer) : PinStatus :=
  let verdict := match server.transport with
    | .stdio => verifyStdioArtifact host files server
    | .http => verifyHttpEndpoint host server
  match verdict with
  | .ok () => ⟨name, true, server.transport, none⟩
  | .error reason => ⟨name, false, server.transport, some reason⟩

/-- The status of one configured server. -/
def verifyServer (lock : WorkbenchLock) (name : String) (server : McpServer) : PinStatus :=
  match lock.mcps.lookup name with
  | none => ⟨name, false, server.transport, some "missing lock pin"⟩
  | some pin =>
    if pin.version ≠ server.version ∨ pin.sha256 ≠ server.sha256 then
      ⟨name, false, server.transport, some "pin mismatch"⟩
    else verifyArtifact host files name server

/-- Verifies every configured MCP against lock digests and on-disk safety. -/
def verifyRegistry (servers : Table McpServer) (lock : WorkbenchLock) :
    Except McpError (List PinStatus) :=
  match lock.verify with
  | .error _ => .error .invalidConfiguration
  | .ok () => .ok (servers.map fun entry => verifyServer host files lock entry.1 entry.2)

end

/-- Ensures a pin status is available or maps to a stable gateway error. -/
def requireAvailable (status : PinStatus) : Except McpError Unit :=
  if status.available then .ok ()
  else if status.reason = some "pin mismatch" then .error .pinMismatch
  else .error .unavailable

/-! ## What an available pin has passed -/

theorem serverId_verifyServer (host : Host) (files : FileSystem) (lock : WorkbenchLock)
    (name : String) (server : McpServer) :
    (verifyServer host files lock name server).serverId = name := by
  unfold verifyServer verifyArtifact
  split
  · rfl
  · split
    · rfl
    · simp only
      split <;> rfl

theorem available_verifyServer {host : Host} {files : FileSystem} {lock : WorkbenchLock}
    {name : String} {server : McpServer}
    (h : (verifyServer host files lock name server).available) :
    ∃ pin, lock.mcps.lookup name = some pin ∧ pin.version = server.version ∧
      pin.sha256 = server.sha256 ∧
      (server.transport = .stdio → verifyStdioArtifact host files server = .ok ()) := by
  unfold verifyServer at h
  split at h
  · cases h
  next pin hpin =>
  split at h
  · cases h
  next hsame =>
  obtain ⟨hversion, hdigest⟩ := not_or.mp hsame
  refine ⟨pin, hpin, not_not.mp hversion, not_not.mp hdigest, fun hstdio => ?_⟩
  unfold verifyArtifact at h
  rw [hstdio] at h
  simp only at h
  split at h
  · next verdict => exact verdict
  · cases h

theorem requireAvailable_eq_ok {status : PinStatus} :
    requireAvailable status = .ok () ↔ status.available := by
  unfold requireAvailable
  split
  · simp [*]
  · split <;> simp [*]

end Workbench.Mcp
