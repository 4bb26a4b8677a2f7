import Workbench.Config.Lock
import Workbench.Storage.Event

/-!
# Daemon: stored sessions

A session is stored with the redacted snapshot of its configuration and with its
lock.  Recovery and maintenance read both back before they use the session.
-/

namespace Workbench.Daemon

open Config Library Storage

/-- The two documents that a session row holds. -/
structure StoredSession where
  configurationSnapshot : ConfigurationSnapshot
  lockSnapshot : WorkbenchLock

section

variable (format : FloatFormat) (blake3 : String → String) (lockHash : WorkbenchLock → String)

/-- What session creation stores for a resolved configuration. -/
def storeSession (base : WorkbenchLock) (config : WorkbenchConfiguration)
    (sources : List String) : Except ConfigError StoredSession := do
  let snapshot := ConfigurationSnapshot.create format blake3 config sources
  let lock ← WorkbenchLock.session lockHash base config snapshot
  lock.verifyLinkedTo lockHash base
  return { configurationSnapshot := snapshot, lockSnapshot := lock }

end

/-- Reads a stored session back; the result is the configuration the daemon uses. -/
def hydrateStoredSession (stored : StoredSession) : Except StorageError WorkbenchConfiguration :=
  if stored.configurationSnapshot.schemaVersion ≠ 1 then
    .error (.invalidInput "persisted configuration snapshot version is unsupported")
  else
    match WorkbenchConfiguration.fromValue stored.configurationSnapshot.configuration with
    | none => .error .storageUnavailable
    | some configuration =>
      match stored.lockSnapshot.verify with
      | .error _ => .error (.invalidInput "persisted session lock is invalid")
      | .ok () =>
        if stored.lockSnapshot.configuration.resolvedHash
            ≠ stored.configurationSnapshot.contentHash then
          .error .authenticationFailed
        else .ok configuration

variable {format : FloatFormat} {blake3 : String → String} {lockHash : WorkbenchLock → String}
  {config : WorkbenchConfiguration}

/-- Of what creation stores, only the configuration itself can fail to read back. -/
theorem hydrate_eq_fromValue {base : WorkbenchLock}
    {sources : List String} {stored : StoredSession}
    (hstored : storeSession format blake3 lockHash base config sources = .ok stored) :
    hydrateStoredSession stored
      = match WorkbenchConfiguration.fromValue (redact config.toValue) with
        | none => .error .storageUnavailable
        | some configuration => .ok configuration := by
  obtain ⟨lock, hlock, hstored⟩ := bind_eq_ok hstored
  obtain ⟨_, hlinked, hstored⟩ := bind_eq_ok hstored
  cases hstored
  obtain ⟨⟨⟩, hverify, _⟩ := bind_eq_ok hlinked
  have hhash := session_resolvedHash hlock
  simp only [hydrateStoredSession, hverify, hhash, ConfigurationSnapshot.create, ne_eq,
    not_true_eq_false, if_false]

/-- A digest of zeros. -/
def zeroDigest : String := String.ofList (List.replicate 64 '0')

/-- The built-in configuration with one MCP server. -/
def serverConfiguration (args : List String) : WorkbenchConfiguration :=
  { WorkbenchConfiguration.safeBuiltins with
    mcpServers := [("docs",
      { transport := .stdio, version := "1", sha256 := zeroDigest,
        executable := some "/usr/bin/docs", args })] }

/-- The repository lock that pins this server. -/
def serverBaseLock : WorkbenchLock where
  version := 1
  scope := .repository
  baseLockHash := none
  configuration := ⟨1, "blake3-256", zeroDigest⟩
  protocol := ⟨1, 0⟩
  adapters := []
  models := [("fake-default", ⟨"fake", "deterministic-v1"⟩)]
  mcps := [("docs", ⟨"1", zeroDigest⟩)]

/-- What creation stores for this configuration. -/
def serverStored (args : List String) : StoredSession where
  configurationSnapshot :=
    .create Json.ratioFormat (fun _ => zeroDigest) (serverConfiguration args) ["builtins"]
  lockSnapshot :=
    { serverBaseLock with scope := .session, baseLockHash := some zeroDigest }

theorem isDigest_zeroDigest : isDigest zeroDigest := by
  decide +kernel

theorem server_stored (args : List String) :
    storeSession Json.ratioFormat (fun _ => zeroDigest) (fun _ => zeroDigest) serverBaseLock
      (serverConfiguration args) ["builtins"] = .ok (serverStored args) := by
  simp [storeSession, WorkbenchLock.session, WorkbenchLock.verifyLinkedTo,
    WorkbenchLock.verify, validateDigest, require, isDigest_zeroDigest, serverBaseLock,
    serverConfiguration, serverStored, lockedConfiguration, lockModels, lockMcps,
    ConfigurationSnapshot.create, configurationHash, WorkbenchConfiguration.safeBuiltins]
  rfl

end Workbench.Daemon
