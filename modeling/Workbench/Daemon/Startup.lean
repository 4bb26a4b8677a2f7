import Workbench.Config.Merge
import Workbench.Daemon.StoredSession

/-!
# Daemon: the configuration of a daemon and of its sessions

A daemon starts with a resolved configuration and with the repository lock that pins its
adapters and MCP servers.  A session lays an override map over that configuration; the
result is checked against the executables of the base, and it gets a lock of its own.

The overrides reach `resolve` as a YAML text of the map; here they are the value that the
text stands for.
-/

namespace Workbench.Daemon

open Config Library Json Option

/-! ## Startup -/

/-- A resolved configuration with its repository lock. -/
structure StartupConfiguration where
  resolved : WorkbenchConfiguration
  baseLock : WorkbenchLock
  sources : List String
  ordered : resolved.KeyOrdered
  /-- `WorkbenchLock::repository` pins the servers of the configuration it is made for. -/
  pinned : baseLock.mcps = lockMcps resolved

/-! ## Sessions -/

def isExecutableAdapter (provider : Provider) : Bool :=
  match provider.kind, provider.driver with
  | .acp, none | .subscriptionCli, some _ => true
  | _, _ => false

/-- The configured executable of a provider, on disk. -/
def canonicalExecutable (files : Executables) (name : String) (provider : Provider) :
    Except ConfigError String :=
  match provider.executable with
  | none => .error (.lock ("provider " ++ name ++ " has no executable"))
  | some executable => files.canonicalize executable

/-- The session has not introduced this provider as an executable one. -/
def rejectIntroduced (base : WorkbenchConfiguration) (name : String) (provider : Provider) :
    Except ConfigError Unit :=
  if isExecutableAdapter provider && !(base.providers.lookup name).any isExecutableAdapter then
    .error (.lock ("session override introduced executable provider " ++ name))
  else .ok ()

/-- The session has kept this executable provider of the base. -/
def rejectReplaced (files : Executables) (session : WorkbenchConfiguration) (name : String)
    (provider : Provider) : Except ConfigError Unit :=
  if !isExecutableAdapter provider then .ok ()
  else
    match session.providers.lookup name with
    | none => .error (.lock ("session override removed pinned executable provider " ++ name))
    | some candidate =>
      if candidate.kind ≠ provider.kind ∨ candidate.driver ≠ provider.driver then
        .error (.lock ("session override changed pinned executable provider " ++ name))
      else do
        let kept ← canonicalExecutable files name provider
        let given ← canonicalExecutable files name candidate
        if kept ≠ given then
          throw (.lock ("session override replaced pinned executable for provider " ++ name))

def rejectAdapterExecutableOverrides (files : Executables)
    (base session : WorkbenchConfiguration) : Except ConfigError Unit := do
  session.providers.forM fun entry => rejectIntroduced base entry.1 entry.2
  base.providers.forM fun entry => rejectReplaced files session entry.1 entry.2

/-- The values that a session lays over the configuration; the keys of a map ascend. -/
structure Overrides where
  value : Json
  ordered : value.isOrdered

section

variable (format : FloatFormat) (blake3 : String → String) (lockHash : WorkbenchLock → String)
  (files : Executables)

/-- The base configuration with the overrides over it. -/
def StartupConfiguration.overlay (startup : StartupConfiguration)
    (overrides : Option Overrides) : Except ConfigError ResolvedConfiguration :=
  let base := ConfigLayer.fromConfiguration "resolved-base" startup.resolved startup.ordered
  match overrides with
  | none => resolve [base]
  | some overrides => do
    resolve [base, ← ConfigLayer.fromYaml "session" overrides.value overrides.ordered]

/-- `resolve_session`: the configuration of a session and its two stored documents. -/
def resolveSession (startup : StartupConfiguration) (overrides : Option Overrides) :
    Except ConfigError (ResolvedConfiguration × StoredSession) := do
  let resolved ← startup.overlay overrides
  rejectAdapterExecutableOverrides files startup.resolved resolved.configuration
  startup.baseLock.verifyConfiguredExecutables files resolved.configuration
  let sources := startup.sources ++ if overrides.isSome then ["session"] else []
  let stored ← storeSession format blake3 lockHash startup.baseLock resolved.configuration sources
  return (resolved, stored)

end

/-! ## The servers of a session -/

/-- What the overrides give for an MCP server. -/
def Overrides.server (overrides : Overrides) (name : String) : Option Json :=
  (overrides.value.member "mcp_servers").bind (member name)

/-- A path below the servers has no merge rule of its own. -/
theorem isPlain_server (name key : String) :
    isPlain (childPath (childPath "mcp_servers" name) key) := by
  have hstart : ∀ path key, path.toList.head? = some 'm' →
      (childPath path key).toList.head? = some 'm' := by
    intro path key hpath
    unfold childPath
    split
    · next hempty =>
      rw [hempty] at hpath
      cases hpath
    · rw [String.toList_append, String.toList_append, List.append_assoc, List.head?_append, hpath]
      rfl
  have hhead := hstart _ key (hstart "mcp_servers" name rfl)
  rw [isPlain, Bool.and_eq_true, bne_iff_ne, bne_iff_ne]
  constructor
  · intro heq
    rw [heq] at hhead
    cases hhead
  · intro heq
    rw [heq] at hhead
    cases hhead

variable {value : Json}

/-- A value laid over a record keeps a text exactly when it restates it or does not give it. -/
theorem text_over_iff {path key text found : String} {index : Nat} {base : List (String × Json)}
    (hplain : isPlain (childPath path key)) (hordered : value.isOrdered)
    (hbase : (object base).member key = some (.string text))
    (hfound : ((mergeValue path (.object base) value).field key index).bind asString
      = some found) :
    found = text ↔ ∀ given, value.field key index = some given → given = .string text := by
  obtain ⟨merged, hmerged, htext⟩ := bind_eq_some_iff.mp hfound
  have hstring : merged = .string found := by
    cases merged with
    | string =>
      cases htext
      rfl
    | _ => cases htext
  have hgiven : value.field key index = some merged →
      (found = text ↔ ∀ given, value.field key index = some given → given = .string text) := by
    intro hvalue
    rw [hvalue, hstring]
    constructor
    · rintro rfl given ⟨⟩
      rfl
    · intro h
      exact string.inj (h _ rfl)
  cases value with
  | object members =>
    have hmember : (mergeValue path (.object base) (.object members)).member key = some merged :=
      hmerged
    rw [member_mergeValue hordered, hbase] at hmember
    cases hover : (object members).member key with
    | none =>
      rw [hover, hstring] at hmember
      cases hmember
      refine ⟨fun _ given hfield => ?_, fun _ => rfl⟩
      cases hover.symm.trans hfield
    | some given =>
      rw [hover] at hmember
      refine hgiven (hover.trans ?_)
      rw [← hmember]
      refine congrArg some (mergeValue_of_not_joins ?_).symm
      unfold isPlain at hplain
      cases given <;> simp_all [joins]
  | array => exact hgiven hmerged
  | _ => cases hmerged

theorem server_decoded {server : McpServer} (h : McpServer.fromValue value = some server) :
    (value.field "version" 1).bind asString = some server.version ∧
      (value.field "sha256" 2).bind asString = some server.sha256 := by
  simp only [McpServer.fromValue, bind_eq_bind, bind_eq_some_iff, pure_def] at h
  obtain ⟨_, _, _, _, version, hversion, sha256, hsha256, _, _, _, _, _, _, _, _, _, _, _, _,
    heq⟩ := h
  cases heq
  exact ⟨hversion, hsha256⟩

theorem member_mcpServers (config : WorkbenchConfiguration) :
    config.toValue.member "mcp_servers" = some (.ofMap McpServer.toValue config.mcpServers) := by
  simp [WorkbenchConfiguration.toValue, member_record_cons]

/-- A server of a session is the one of the base, with what the overrides give laid over it. -/
theorem servers_of_overlay {startup : StartupConfiguration} {overrides : Overrides}
    {resolved : ResolvedConfiguration} (h : startup.overlay (some overrides) = .ok resolved) :
    ∃ members, decodeMembers McpServer.fromValue members
        = some resolved.configuration.mcpServers ∧
      ∀ name, members.lookup name
        = match overrides.server name with
          | none => (startup.resolved.mcpServers.lookup name).map McpServer.toValue
          | some value => some ((mergeAt (childPath "mcp_servers" name)).put
              ((startup.resolved.mcpServers.lookup name).map McpServer.toValue) value) := by
  obtain ⟨layer, hlayer, hresolve⟩ := bind_eq_ok h
  have hvalue : layer.value = overrides.value := by
    unfold ConfigLayer.fromYaml at hlayer
    split at hlayer
    · cases hlayer
      rfl
    · cases hlayer
  obtain ⟨hdecode, _⟩ := resolve_eq_ok hresolve
  obtain ⟨top, htop⟩ := exists_of_isObject (isObject_mergeLayers
    [.fromConfiguration "resolved-base" startup.resolved startup.ordered, layer])
  obtain ⟨servers, hfield, hservers⟩ :=
    bind_eq_some_iff.mp (configuration_decoded hdecode).mcpServers
  have hmember : (mergeLayers
      [.fromConfiguration "resolved-base" startup.resolved startup.ordered, layer]).member
      "mcp_servers" = some servers := by
    rw [htop] at hfield ⊢
    exact hfield
  rw [member_mergeLayers] at hmember
  have hbase : ∀ name, (startup.resolved.mcpServers.map fun entry =>
      (entry.1, McpServer.toValue entry.2)).lookup name
        = (startup.resolved.mcpServers.lookup name).map McpServer.toValue :=
    fun name => lookup_map_values McpServer.toValue name _
  simp only [List.map_cons, List.map_nil, List.filterMap_cons, List.filterMap_nil,
    ConfigLayer.fromConfiguration, member_mcpServers, hvalue] at hmember
  unfold Overrides.server
  cases hover : overrides.value.member "mcp_servers" with
  | none =>
    rw [hover] at hmember
    cases hmember
    exact ⟨_, hservers, hbase⟩
  | some given =>
    rw [hover] at hmember
    have hmerged : mergeValue "mcp_servers"
        (.ofMap McpServer.toValue startup.resolved.mcpServers) given = servers :=
      some.inj hmember
    have hordered : given.isOrdered := isOrdered_member overrides.ordered hover
    cases given with
    | object top =>
      refine ⟨mergeMembers "mcp_servers" _ top, hmerged ▸ hservers, fun name => ?_⟩
      have hover := @member_mergeValue "mcp_servers" name
        (startup.resolved.mcpServers.map fun entry => (entry.1, McpServer.toValue entry.2))
        top hordered
      rw [member_object, member_object, hbase] at hover
      exact hover
    | _ =>
      rw [← hmerged] at hservers
      cases hservers

/-! ## Pins of a session -/

/-- Every MCP server and every adapter that a lock pins has the pin of the base lock. -/
structure KeepsPins (base lock : WorkbenchLock) : Prop where
  mcps : ∀ name pin, lock.mcps.lookup name = some pin → base.mcps.lookup name = some pin
  adapters : ∀ name pin, lock.adapters.lookup name = some pin → base.adapters.lookup name = some pin

/-- The overrides restate a server's version and digest wherever they give them. -/
def Overrides.RestatePins (overrides : Overrides) (base : WorkbenchConfiguration) : Prop :=
  ∀ name server value, base.mcpServers.lookup name = some server →
    overrides.server name = some value →
      (∀ given, value.field "version" 1 = some given → given = .string server.version) ∧
      ∀ given, value.field "sha256" 2 = some given → given = .string server.sha256

theorem lookup_lockMcps (config : WorkbenchConfiguration) (name : String) :
    (lockMcps config).lookup name
      = (config.mcpServers.lookup name).map fun server => ⟨server.version, server.sha256⟩ :=
  lookup_map_values (fun server : McpServer => (⟨server.version, server.sha256⟩ : LockedMcp)) name _

/-- A server that the overrides give keeps its pin exactly when they restate it. -/
theorem pin_over_iff {name : String} {server merged : McpServer} (hordered : value.isOrdered)
    (h : McpServer.fromValue ((mergeAt (childPath "mcp_servers" name)).put
      (some server.toValue) value) = some merged) :
    (merged.version = server.version ∧ merged.sha256 = server.sha256) ↔
      (∀ given, value.field "version" 1 = some given → given = .string server.version) ∧
      ∀ given, value.field "sha256" 2 = some given → given = .string server.sha256 := by
  obtain ⟨hversion, hsha256⟩ := server_decoded h
  have hbase : ∀ key, server.toValue.member key = (object (recordMembers _)).member key :=
    fun _ => rfl
  refine and_congr (text_over_iff (isPlain_server name "version") hordered ?_ hversion)
    (text_over_iff (isPlain_server name "sha256") hordered ?_ hsha256)
  · rw [← hbase]
    simp [McpServer.toValue, member_record_cons]
  · rw [← hbase]
    simp [McpServer.toValue, member_record_cons]

section

variable {format : FloatFormat} {blake3 : String → String} {lockHash : WorkbenchLock → String}
  {files : Executables} {resolved : ResolvedConfiguration} {startup : StartupConfiguration}

/-- What is known of a session that was accepted. -/
theorem resolveSession_eq_ok {overrides : Option Overrides} {stored : StoredSession}
    (h : resolveSession format blake3 lockHash files startup overrides = .ok (resolved, stored)) :
    startup.overlay overrides = .ok resolved ∧
      stored.lockSnapshot.adapters = startup.baseLock.adapters ∧
      stored.lockSnapshot.mcps = lockMcps resolved.configuration ∧
      ∀ entry ∈ resolved.configuration.mcpServers,
        (startup.baseLock.mcps.lookup entry.1).isSome := by
  obtain ⟨_, hoverlay, h⟩ := bind_eq_ok h
  obtain ⟨_, _, h⟩ := bind_eq_ok h
  obtain ⟨_, _, h⟩ := bind_eq_ok h
  obtain ⟨_, hstored, h⟩ := bind_eq_ok h
  cases h
  obtain ⟨lock, hlock, hstored⟩ := bind_eq_ok hstored
  obtain ⟨_, _, hstored⟩ := bind_eq_ok hstored
  cases hstored
  exact ⟨hoverlay, session_pins hlock⟩

/-- An accepted session has the pins of the base lock exactly when its overrides restate
the version and the digest of every server they touch. -/
theorem session_keepsPins_iff {overrides : Overrides} {stored : StoredSession}
    (h : resolveSession format blake3 lockHash files startup (some overrides)
      = .ok (resolved, stored)) :
    KeepsPins startup.baseLock stored.lockSnapshot ↔ overrides.RestatePins startup.resolved := by
  obtain ⟨hoverlay, hadapters, hmcps, hknown⟩ := resolveSession_eq_ok h
  obtain ⟨members, hmembers, hlookup⟩ := servers_of_overlay hoverlay
  have hordered : ∀ name value, overrides.server name = some value → value.isOrdered := by
    intro name value hvalue
    obtain ⟨servers, hservers, hmember⟩ := bind_eq_some_iff.mp hvalue
    exact isOrdered_member (isOrdered_member overrides.ordered hservers) hmember
  constructor
  · intro hkeeps name server value hserver hvalue
    have hname := hlookup name
    rw [hvalue, hserver] at hname
    have hdecoded := @lookup_decodeMembers _ _ name _ _ hmembers
    rw [hname] at hdecoded
    obtain ⟨merged, hmerged, hdecoded⟩ := map_eq_some_iff.mp hdecoded
    refine (pin_over_iff (hordered name value hvalue) hdecoded.symm).mp ?_
    have hpin := hkeeps.mcps name ⟨merged.version, merged.sha256⟩
      (by rw [hmcps, lookup_lockMcps, hmerged]; rfl)
    rw [startup.pinned, lookup_lockMcps, hserver] at hpin
    have hsame := some.inj hpin
    exact ⟨(congrArg LockedMcp.version hsame).symm, (congrArg LockedMcp.sha256 hsame).symm⟩
  · intro hrestate
    refine ⟨fun name pin hpin => ?_, fun name pin hpin => hadapters ▸ hpin⟩
    rw [hmcps, lookup_lockMcps] at hpin
    obtain ⟨merged, hmerged, rfl⟩ := map_eq_some_iff.mp hpin
    have hbase : (startup.resolved.mcpServers.lookup name).isSome := by
      have hpinned := hknown (name, merged) (mem_of_lookup hmerged)
      rw [startup.pinned, lookup_lockMcps, isSome_map] at hpinned
      exact hpinned
    obtain ⟨server, hserver⟩ := isSome_iff_exists.mp hbase
    have hdecoded := @lookup_decodeMembers _ _ name _ _ hmembers
    rw [hlookup name, hmerged, hserver] at hdecoded
    rw [startup.pinned, lookup_lockMcps, hserver, map_some]
    cases hvalue : overrides.server name with
    | none =>
      rw [hvalue] at hdecoded
      have hsame := (some.inj hdecoded).trans (McpServer.fromValue_toValue server)
      cases hsame
      rfl
    | some value =>
      rw [hvalue] at hdecoded
      obtain ⟨hversion, hsha256⟩ := (pin_over_iff (hordered name value hvalue)
        (some.inj hdecoded).symm).mpr (hrestate name server value hserver hvalue)
      rw [hversion, hsha256]

end

/-! ## A session that pins other bytes -/

/-- A daemon with one MCP server. -/
def serverStartup : StartupConfiguration where
  resolved := serverConfiguration []
  baseLock := serverBaseLock
  sources := ["builtins"]
  ordered := by constructor <;> decide
  pinned := rfl

/-- Overrides that give this server another digest. -/
def digestOverride (digest : String) : Overrides where
  value := .object [("mcp_servers", .object [("docs", .object [("sha256", .string digest)])])]
  ordered := rfl

/-- A digest of ones. -/
def oneDigest : String := String.ofList (List.replicate 64 '1')

/-- No executable is on disk. -/
def noExecutables : Executables where
  canonicalize _ := .error (.unsafeSource "not found")
  sha256 _ := .error (.lock "not found")

/-- The session that the overrides of the digest lead to. -/
def digestSession (digest : String) : Except ConfigError (ResolvedConfiguration × StoredSession) :=
  resolveSession ratioFormat (fun _ => zeroDigest) (fun _ => zeroDigest) noExecutables
    serverStartup (some (digestOverride digest))

theorem digestSession_accepted (digest : String)
    (hdigest : digest = zeroDigest ∨ digest = oneDigest) :
    ∃ resolved stored, digestSession digest = .ok (resolved, stored) ∧
      stored.lockSnapshot.mcps = [("docs", ⟨"1", digest⟩)] := by
  have haccepted : ((digestSession digest).toOption.map fun session =>
      session.2.lockSnapshot.mcps) = some [("docs", ⟨"1", digest⟩)] := by
    rcases hdigest with rfl | rfl <;> decide +kernel
  cases hsession : digestSession digest with
  | error error =>
    rw [hsession] at haccepted
    cases haccepted
  | ok session =>
    rw [hsession] at haccepted
    exact ⟨session.1, session.2, rfl, some.inj haccepted⟩

/-- Overrides that restate a digest are accepted and keep the pins. -/
theorem restated_digest_keepsPins :
    ∃ resolved stored, digestSession zeroDigest = .ok (resolved, stored) ∧
      (KeepsPins serverStartup.baseLock stored.lockSnapshot ↔
        (digestOverride zeroDigest).RestatePins serverStartup.resolved) := by
  obtain ⟨resolved, stored, haccepted, _⟩ := digestSession_accepted zeroDigest (.inl rfl)
  exact ⟨resolved, stored, haccepted, session_keepsPins_iff haccepted⟩

/-- Overrides that give another digest are accepted, and the session pins that digest. -/
theorem overridden_digest_pinned :
    ∃ resolved stored, digestSession oneDigest = .ok (resolved, stored) ∧
      stored.lockSnapshot.mcps.lookup "docs" = some ⟨"1", oneDigest⟩ ∧
      serverStartup.baseLock.mcps.lookup "docs" = some ⟨"1", zeroDigest⟩ ∧
      ¬ KeepsPins serverStartup.baseLock stored.lockSnapshot := by
  obtain ⟨resolved, stored, haccepted, hmcps⟩ := digestSession_accepted oneDigest (.inr rfl)
  have hpin : stored.lockSnapshot.mcps.lookup "docs" = some ⟨"1", oneDigest⟩ := by
    rw [hmcps]
    rfl
  refine ⟨resolved, stored, haccepted, hpin, rfl, fun hkeeps => ?_⟩
  have hsame : zeroDigest = oneDigest := by
    have hbase := hkeeps.mcps "docs" _ hpin
    exact congrArg LockedMcp.sha256 (some.inj hbase)
  exact absurd hsame (by decide +kernel)

end Workbench.Daemon
