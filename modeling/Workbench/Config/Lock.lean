import Workbench.Config.Snapshot

/-!
# Config: locks

A lock pins the content hash of a configuration, the adapters, the models and the
MCP servers.  The lock of a session is linked to the repository lock by its hash.
What the file system says about an executable is a parameter.
-/

namespace Workbench.Config

open Library

/-- What a lock is about. -/
inductive LockScope where
  | repository
  | session
  deriving DecidableEq

/-- The configuration that a lock pins, by its hash. -/
structure LockedConfiguration where
  schemaVersion : UInt32
  hashAlgorithm : String
  resolvedHash : String

/-- The pinned protocol version. -/
structure LockedProtocol where
  major : UInt32
  minor : UInt32

/-- The pinned executable of a provider. -/
structure LockedAdapter where
  protocol : String
  version : String
  executableSha256 : String

/-- The pinned model of an alias. -/
structure LockedModel where
  provider : String
  runtimeModel : String

/-- The pinned artifact of an MCP server. -/
structure LockedMcp where
  version : String
  sha256 : String
  deriving DecidableEq

/-- A lock of a repository, or of a session over it. -/
structure WorkbenchLock where
  version : UInt32
  scope : LockScope
  baseLockHash : Option String
  configuration : LockedConfiguration
  protocol : LockedProtocol
  adapters : Table LockedAdapter
  models : Table LockedModel
  mcps : Table LockedMcp

def lockedConfiguration (snapshot : ConfigurationSnapshot) : LockedConfiguration :=
  ⟨1, "blake3-256", snapshot.contentHash⟩

def lockModels (config : WorkbenchConfiguration) : Table LockedModel :=
  config.models.map fun entry => (entry.1, ⟨entry.2.provider, entry.2.runtimeModel⟩)

def lockMcps (config : WorkbenchConfiguration) : Table LockedMcp :=
  config.mcpServers.map fun entry => (entry.1, ⟨entry.2.version, entry.2.sha256⟩)

/-- `char::is_control`. -/
def isControl (c : Char) : Bool :=
  decide (c.toNat < 32) || (decide (127 ≤ c.toNat) && decide (c.toNat < 160))

/-! ## Executables of adapters -/

/-- The file system: the canonical path of a safe executable, the digest of a file. -/
structure Executables where
  canonicalize : String → Except ConfigError String
  sha256 : String → Except ConfigError String

/-- The protocol that a provider's driver speaks. -/
def expectedAdapterProtocol (provider : Provider) : Except ConfigError String :=
  match provider.kind, provider.driver with
  | .acp, none => .ok "acp/1"
  | .subscriptionCli, some .claudeCode => .ok "claude-code-stream-json/1"
  | .subscriptionCli, some .codex => .ok "codex-exec-jsonl/1"
  | .fake, none => .error (.lock "fake providers do not have executable adapter protocols")
  | _, _ => .error (.lock "provider has an unsupported executable adapter identity")

namespace WorkbenchLock

/-- The lock of a session over a repository lock; `lockHash` is the hash of a lock's text. -/
def session (lockHash : WorkbenchLock → String) (base : WorkbenchLock)
    (config : WorkbenchConfiguration) (snapshot : ConfigurationSnapshot) :
    Except ConfigError WorkbenchLock := do
  config.providers.forM fun entry =>
    if decide (entry.2.kind ≠ .fake) && entry.2.executable.isSome
        && (base.adapters.lookup entry.1).isNone then
      throw (.lock ("session override introduced unpinned adapter " ++ entry.1))
    else pure ()
  if config.mcpServers.any (fun entry => (base.mcps.lookup entry.1).isNone) then
    throw (.lock "session override introduced an MCP absent from the base lock")
  return {
    version := 1
    scope := .session
    baseLockHash := some (lockHash base)
    configuration := lockedConfiguration snapshot
    protocol := base.protocol
    adapters := base.adapters
    models := lockModels config
    mcps := lockMcps config }

/-- The checks of one pinned adapter. -/
def verifyAdapter (name : String) (adapter : LockedAdapter) : Except ConfigError Unit := do
  if adapter.protocol == "" || adapter.version == "" || decide (255 < adapter.version.utf8ByteSize)
      || adapter.version.toList.any isControl then
    throw (.lock ("locked adapter " ++ name ++ " has an invalid identity"))
  validateDigest adapter.executableSha256 ("lock.adapters." ++ name ++ ".executable_sha256")

/-- The checks of a lock on its own. -/
def verify (lock : WorkbenchLock) : Except ConfigError Unit := do
  if lock.version ≠ 1 ∨ lock.configuration.schemaVersion ≠ 1 then
    throw (.lock "unsupported lock version")
  if lock.configuration.hashAlgorithm ≠ "blake3-256" then
    throw (.lock "unsupported lock hash algorithm")
  if lock.protocol.major ≠ 1 then
    throw (.lock "unsupported protocol major")
  validateDigest lock.configuration.resolvedHash "lock.configuration.resolved_hash"
  lock.adapters.forM fun entry => verifyAdapter entry.1 entry.2
  lock.mcps.forM fun entry => validateDigest entry.2.sha256 ("lock.mcps." ++ entry.1 ++ ".sha256")
  lock.baseLockHash.forM fun baseHash => validateDigest baseHash "lock.base_lock_hash"
  match lock.scope, lock.baseLockHash with
  | .repository, some _ => throw (.lock "repository lock cannot have a base hash")
  | .session, none => throw (.lock "session lock requires a base hash")
  | _, _ => pure ()

/-- The executable of one provider has the pinned protocol and digest. -/
def verifyProvider (files : Executables) (adapters : Table LockedAdapter) (name : String)
    (provider : Provider) : Except ConfigError Unit :=
  match provider.kind, provider.executable with
  | .fake, _ => .ok ()
  | _, none => .ok ()
  | _, some executable =>
    match adapters.lookup name with
    | none => .error (.lock ("provider " ++ name ++ " has no pinned adapter"))
    | some adapter => do
      let executable ← files.canonicalize executable
      if adapter.protocol ≠ (← expectedAdapterProtocol provider) then
        throw (.lock ("provider " ++ name ++ " differs from its lock pin"))
      if adapter.executableSha256 ≠ (← files.sha256 executable) then
        throw (.lock ("provider " ++ name ++ " differs from its lock pin"))

/-- The executables are those that the lock pins. -/
def verifyConfiguredExecutables (files : Executables) (lock : WorkbenchLock)
    (config : WorkbenchConfiguration) : Except ConfigError Unit := do
  lock.verify
  config.providers.forM fun entry => verifyProvider files lock.adapters entry.1 entry.2

/-- A session lock names the hash of its base. -/
def verifyLinkedTo (lockHash : WorkbenchLock → String) (lock base : WorkbenchLock) :
    Except ConfigError Unit := do
  lock.verify
  base.verify
  if lock.scope ≠ .session ∨ lock.baseLockHash ≠ some (lockHash base) then
    throw (.lock "session lock does not link to the supplied base lock")

end WorkbenchLock

variable {config : WorkbenchConfiguration} {snapshot : ConfigurationSnapshot} {lock : WorkbenchLock}

variable {lockHash : WorkbenchLock → String} {base : WorkbenchLock}

/-- A session lock keeps the adapters of its base and pins the servers of the session, all of which
the base pins by name. -/
theorem session_pins (h : WorkbenchLock.session lockHash base config snapshot = .ok lock) :
    lock.adapters = base.adapters ∧ lock.mcps = lockMcps config ∧
      ∀ entry ∈ config.mcpServers, (base.mcps.lookup entry.1).isSome := by
  obtain ⟨_, _, h⟩ := bind_eq_ok h
  obtain ⟨hknown, h⟩ := ok_of_guard h
  cases h
  refine ⟨rfl, rfl, fun entry hmem => ?_⟩
  rw [Bool.not_eq_true, List.any_eq_false] at hknown
  have hentry := hknown entry hmem
  rwa [Option.isNone_iff_eq_none, ← Option.not_isSome_iff_eq_none, not_not] at hentry

/-- A session lock pins the hash of the snapshot it was made for. -/
theorem session_resolvedHash (h : WorkbenchLock.session lockHash base config snapshot = .ok lock) :
    lock.configuration.resolvedHash = snapshot.contentHash := by
  obtain ⟨_, _, h⟩ := bind_eq_ok h
  split at h
  · cases h
  · cases h
    rfl

end Workbench.Config
