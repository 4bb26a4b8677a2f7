import Workbench.Library.Transition
import Workbench.Mcp.Gate

/-!
# Mcp: the programs that stdio children run

The digest of an executable is computed when the gateway starts.  A child is spawned when it
is first needed, from whatever program the path then names: only the path is checked again.
So a child runs pinned code as long as the programs keep the digests they had at the start.

The files at the moment of a spawn are an input of the step that spawns, so a run stands for
every schedule of changes to them.
-/

namespace Workbench.Mcp

open Workbench.Core Config Library List

/-- What can happen to a gateway. -/
inductive GatewayAction where
  | invoke (io : CallIo) (attemptId : Nat) (request : ToolInvokeRequest)
  | ensureStdio (io : SpawnIo) (serverId : String)
  | shutdown

def McpGateway.step (wire : Wire) (host : Host) (gateway : McpGateway) :
    GatewayAction → Option McpGateway
  | .invoke io attemptId request => some (gateway.invoke wire host io attemptId request).2
  | .ensureStdio io serverId => some (gateway.ensureStdio host io serverId).2
  | .shutdown => some gateway.shutdown

/-- A program that passes its check has, when loaded, the digest it had at the start. -/
def KeepsPrograms (host : Host) (start : FileSystem) (config : WorkbenchConfiguration)
    (io : SpawnIo) : Prop :=
  ∀ serverId server path canonical original,
    config.mcpServers.lookup serverId = some server → server.transport = .stdio →
    server.executable = some path → canonicalizeMcpExecutable host io.files path = .ok canonical →
    loadedImage start canonical = some original →
    ∃ image, loadedImage io.filesAtExec canonical = some image ∧
      host.sha256 image = host.sha256 original

/-- No program changes its digest, and children are asked for of stdio servers only. -/
def ProgramsKept (host : Host) (start : FileSystem) (gateway : McpGateway) :
    GatewayAction → Prop
  | .invoke io _ _ => KeepsPrograms host start gateway.config io.spawn
  | .ensureStdio io serverId =>
    KeepsPrograms host start gateway.config io ∧
      ∀ server, gateway.config.mcpServers.lookup serverId = some server → server.transport = .stdio
  | .shutdown => True

/-- The digest that a lock pins for a server. -/
def PinsDigest (lock : WorkbenchLock) (serverId : String) (digest : String) : Prop :=
  ∃ pin, lock.mcps.lookup serverId = some pin ∧ pin.sha256 = digest

/-- The program that a spawn finds is the one that a lock pins. -/
def MatchesPin (host : Host) (lock : WorkbenchLock) (io : SpawnIo) (serverId : String)
    (server : McpServer) : Prop :=
  ∃ path canonical image, server.executable = some path ∧
    canonicalizeMcpExecutable host io.files path = .ok canonical ∧
    loadedImage io.filesAtExec canonical = some image ∧
    PinsDigest lock serverId (host.sha256 image)

/-- A call that nothing but the pin can keep from spawning a child. -/
structure SpawningCall (gateway : McpGateway) (attemptId : Nat) (request : ToolInvokeRequest)
    (serverId : String) (server : McpServer) : Prop where
  live : gateway.shuttingDown = false
  allowed : ∃ access attempt, resolveMcpToolAccess (request.context gateway.config) = .ok access ∧
    Attempt.plan attemptId request.operation access.operation = .ok attempt ∧
    gateBeforeTransport access request.approvalGranted = .ok () ∧ access.mcpServer = some serverId
  configured : gateway.config.mcpServers.lookup serverId = some server
  stdio : server.transport = .stdio
  noChild : gateway.transports.children.lookup (gateway.transports.childKey serverId) = none
  notSimulated : request.simulateCancelAfterStart = false ∧
    request.simulatePreStartFailure = false ∧
    request.simulatePostStartCrash = false

/-! ## What the start has verified -/

section

variable {host : Host} {files : FileSystem}

theorem canonicalize_eq_ok {path : String} {canonical : List String}
    (h : canonicalizeMcpExecutable host files path = .ok canonical) :
    pathComponents path = some canonical := by
  unfold canonicalizeMcpExecutable at h
  split at h
  · cases h
  next components hcomponents =>
  obtain ⟨-, -, h⟩ := bind_eq_ok h
  split at h
  · cases h
  obtain ⟨-, h⟩ := ok_of_guard h
  split at h
  · obtain ⟨-, h⟩ := ok_of_guard h
    cases h
    exact hcomponents
  · cases h

theorem verifyStdioArtifact_eq_ok {server : McpServer}
    (h : verifyStdioArtifact host files server = .ok ()) :
    ∃ path canonical image, server.executable = some path ∧
      pathComponents path = some canonical ∧ loadedImage files canonical = some image ∧
      host.sha256 image = server.sha256 := by
  unfold verifyStdioArtifact at h
  split at h
  · cases h
  next path hpath =>
  split at h
  · cases h
  next canonical hcanonical =>
  split at h
  · cases h
  next digest hdigest =>
  obtain ⟨hsame, h⟩ := ok_of_guard h
  -- the digest is that of the image which is loaded
  unfold sha256File at hdigest
  split at hdigest
  · cases hdigest
  next node hnode =>
  obtain ⟨-, hdigest⟩ := ok_of_guard hdigest
  split at hdigest
  · next image hkind =>
    obtain ⟨-, ⟨⟩⟩ := ok_of_guard hdigest
    exact ⟨path, canonical, image, hpath, canonicalize_eq_ok hcanonical,
      by simp [loadedImage, hnode, hkind], not_not.mp hsame⟩
  · cases hdigest

/-- A table of statuses is looked up like the table of servers it was made from. -/
theorem lookup_statuses (lock : WorkbenchLock) (serverId : String) :
    ∀ servers : Table McpServer,
      ((servers.map fun entry => verifyServer host files lock entry.1 entry.2).map
          fun status => (status.serverId, status)).lookup serverId
        = (servers.lookup serverId).map (verifyServer host files lock serverId)
  | [] => rfl
  | (name, server) :: rest => by
    rw [map_cons, map_cons, Json.lookup_cons_eq_ite, Json.lookup_cons_eq_ite,
      lookup_statuses lock serverId rest, serverId_verifyServer]
    split
    · next hname => rw [hname]; rfl
    · rfl

theorem bootstrap_eq_ok {config : WorkbenchConfiguration} {lock : WorkbenchLock}
    {workspaceKey : String} {offlineHttp : Bool} {gateway : McpGateway}
    (h : McpGateway.bootstrap host files config lock workspaceKey offlineHttp = .ok gateway) :
    gateway.config = config ∧ gateway.transports.contacts = [] ∧
      ∀ serverId, gateway.pins.lookup serverId
        = (config.mcpServers.lookup serverId).map (verifyServer host files lock serverId) := by
  unfold McpGateway.bootstrap at h
  split at h
  · cases h
  next statuses hverify =>
  cases h
  unfold verifyRegistry at hverify
  split at hverify
  · cases hverify
  · cases hverify
    exact ⟨rfl, rfl, fun serverId => lookup_statuses lock serverId config.mcpServers⟩

end

/-! ## What a spawn runs -/

section

/-- The program that the path of a server names at a spawn. -/
def Loads (host : Host) (io : SpawnIo) (server : McpServer) (image : Bytes) : Prop :=
  ∃ path canonical, server.executable = some path ∧
    canonicalizeMcpExecutable host io.files path = .ok canonical ∧
    loadedImage io.filesAtExec canonical = some image

variable {host : Host} {serverId other : String} {server : McpServer} {transports : Transports}
  {image : Bytes}

theorem spawn_eq_ok {io : SpawnIo} {workspaceKey : String} {spawned : StdioChild × Bytes}
    (h : StdioChild.spawn host io serverId workspaceKey server = .ok spawned) :
    Loads host io server spawned.2 := by
  unfold StdioChild.spawn at h
  split at h
  · cases h
  next path hpath =>
  split at h
  · cases h
  next canonical hcanonical =>
  obtain ⟨-, h⟩ := ok_of_guard h
  obtain ⟨-, h⟩ := ok_of_guard h
  split at h
  · cases h
  · next image himage =>
    cases h
    exact ⟨path, canonical, hpath, hcanonical, himage⟩

/-- A program that `getOrSpawn` has loaded was loaded before, or is loaded now. -/
theorem mem_contacts_getOrSpawn {io : SpawnIo}
    (h : Contact.spawned other image ∈ (transports.getOrSpawn host io serverId server).2.contacts) :
    Contact.spawned other image ∈ transports.contacts ∨
      other = serverId ∧ Loads host io server image := by
  unfold Transports.getOrSpawn at h
  split at h
  · exact .inl h
  split at h
  · exact .inl h
  next child loaded hspawn =>
  rcases mem_append.mp h with hold | hnew
  · exact .inl hold
  · cases mem_singleton.mp hnew
    exact .inr ⟨rfl, spawn_eq_ok hspawn⟩

variable {operation : String} {arguments : Json}

theorem mem_contacts_call {wire : Wire} {io : CallIo}
    (h : Contact.spawned other image ∈
      (transports.call wire host io serverId server operation arguments).2.contacts) :
    Contact.spawned other image ∈ transports.contacts ∨
      other = serverId ∧ server.transport = .stdio ∧ Loads host io.spawn server image := by
  unfold Transports.call at h
  split at h
  · next hstdio =>
    have hspawn : Contact.spawned other image ∈
        (transports.getOrSpawn host io.spawn serverId server).2.contacts := by
      split at h
      · next hresult => rw [hresult]; exact h
      next hresult =>
      rw [hresult]
      unfold Transports.invokeStdio at h
      split at h
      · exact h
      · rcases mem_append.mp h with hold | hnew
        · exact hold
        · cases mem_singleton.mp hnew
    rcases mem_contacts_getOrSpawn hspawn with hold | ⟨hother, hloaded⟩
    · exact .inl hold
    · exact .inr ⟨hother, hstdio, hloaded⟩
  · rcases mem_append.mp h with hold | hnew
    · exact .inl hold
    · cases mem_singleton.mp hnew

end

/-! ## Runs -/

section

variable {wire : Wire} {host : Host} {files : FileSystem} {config : WorkbenchConfiguration}
  {lock : WorkbenchLock} {workspaceKey : String} {offlineHttp : Bool} {start : McpGateway}
  {serverId : String} {server : McpServer} {pin : PinStatus} {io : SpawnIo}
  {gateway : McpGateway}

section

variable (hboot : McpGateway.bootstrap host files config lock workspaceKey offlineHttp = .ok start)

include hboot

section

variable (hserver : start.config.mcpServers.lookup serverId = some server)
  (hstdio : server.transport = .stdio) (hpin : start.pins.lookup serverId = some pin)
  (havailable : pin.available)
include hserver hstdio hpin havailable

/-- The program of an available stdio server at the start is the pinned one. -/
theorem available_program :
    ∃ path canonical original, server.executable = some path ∧
      pathComponents path = some canonical ∧ loadedImage files canonical = some original ∧
      PinsDigest lock serverId (host.sha256 original) := by
  obtain ⟨rfl, _, hpins⟩ := bootstrap_eq_ok hboot
  rw [hpins, hserver] at hpin
  obtain rfl := Option.some.inj hpin
  obtain ⟨locked, hlocked, _, hdigest, hverified⟩ := available_verifyServer havailable
  obtain ⟨path, canonical, original, hpath, hcanonical, horiginal, hsame⟩ :=
    verifyStdioArtifact_eq_ok (hverified hstdio)
  exact ⟨path, canonical, original, hpath, hcanonical, horiginal, locked, hlocked,
    hdigest.trans hsame.symm⟩

variable (hkept : KeepsPrograms host files start.config io)
include hkept

/-- A program of an available stdio server that is loaded from kept files is the pinned one. -/
theorem loaded_program {path : String} {canonical : List String}
    (hpath : server.executable = some path)
    (hcanonical : canonicalizeMcpExecutable host io.files path = .ok canonical) :
    ∃ image, loadedImage io.filesAtExec canonical = some image ∧
      PinsDigest lock serverId (host.sha256 image) := by
  obtain ⟨path', canonical', original, hpath', hcomponents, horiginal, hpinned⟩ :=
    available_program hboot hserver hstdio hpin havailable
  obtain rfl : path' = path := Option.some.inj (hpath'.symm.trans hpath)
  obtain rfl : canonical' = canonical :=
    Option.some.inj (hcomponents.symm.trans (canonicalize_eq_ok hcanonical))
  obtain ⟨image, himage, hdigest⟩ :=
    hkept serverId server path' canonical' original hserver hstdio hpath hcanonical horiginal
  exact ⟨image, himage, hdigest ▸ hpinned⟩

theorem Loads.pinned {image : Bytes} (h : Loads host io server image) :
    PinsDigest lock serverId (host.sha256 image) := by
  obtain ⟨path, canonical, hpath, hcanonical, himage⟩ := h
  obtain ⟨found, hfound, hpinned⟩ :=
    loaded_program hboot hserver hstdio hpin havailable hkept hpath hcanonical
  obtain rfl : found = image := Option.some.inj (hfound.symm.trans himage)
  exact hpinned

/-- A spawn that does not find the pinned program makes the server unavailable. -/
theorem getOrSpawn_of_mismatch {transports : Transports}
    (hnoChild : transports.children.lookup (transports.childKey serverId) = none)
    (hmismatch : ¬ MatchesPin host lock io serverId server) :
    transports.getOrSpawn host io serverId server = (.error .unavailable, transports) := by
  obtain ⟨path, _, _, hpath, _⟩ := available_program hboot hserver hstdio hpin havailable
  have hcheck : ∀ canonical, canonicalizeMcpExecutable host io.files path ≠ .ok canonical := by
    intro canonical hcanonical
    obtain ⟨image, himage, hpinned⟩ :=
      loaded_program hboot hserver hstdio hpin havailable hkept hpath hcanonical
    exact hmismatch ⟨path, canonical, image, hpath, hcanonical, himage, hpinned⟩
  have hspawn : StdioChild.spawn host io serverId transports.workspaceKey server
      = .error .unavailable := by
    cases hcanonical : canonicalizeMcpExecutable host io.files path with
    | error e => simp only [StdioChild.spawn, hpath, hcanonical]
    | ok canonical => exact absurd hcanonical (hcheck canonical)
  unfold Transports.getOrSpawn
  rw [hnoChild, hspawn]
  rfl

end

/-- The configuration and the pins are those of the start; every loaded program is pinned. -/
structure RunsPinned (host : Host) (lock : WorkbenchLock) (start gateway : McpGateway) :
    Prop where
  config : gateway.config = start.config
  pins : gateway.pins = start.pins
  spawned : ∀ serverId image, Contact.spawned serverId image ∈ gateway.transports.contacts →
    PinsDigest lock serverId (host.sha256 image)

variable {attemptId : Nat} {request : ToolInvokeRequest}

theorem RunsPinned.invoke {io : CallIo} (h : RunsPinned host lock start gateway)
    (hkept : KeepsPrograms host files gateway.config io.spawn) :
    RunsPinned host lock start (gateway.invoke wire host io attemptId request).2 := by
  obtain ⟨⟨hconfig, hpins, _⟩, hcall⟩ :=
    @McpGateway.invoke_spec wire host io gateway request attemptId
  refine ⟨hconfig.trans h.config, hpins.trans h.pins, fun other image hmem => ?_⟩
  rcases hcall with hsame | ⟨access, serverId, server, transport, hdispatched⟩
  · rw [hsame] at hmem
    exact h.spawned other image hmem
  rw [hdispatched.after, ← hdispatched.called] at hmem
  rcases mem_contacts_call hmem with hold | ⟨rfl, hstdio, hloads⟩
  · exact h.spawned other image hold
  · obtain ⟨pin, hpin, havailable⟩ := hdispatched.pinned
    exact hloads.pinned hboot (h.config ▸ hdispatched.configured) hstdio (h.pins ▸ hpin)
      havailable (h.config ▸ hkept)

theorem RunsPinned.ensureStdio
    (h : RunsPinned host lock start gateway) (hkept : KeepsPrograms host files gateway.config io)
    (hstdio : ∀ server, gateway.config.mcpServers.lookup serverId = some server →
      server.transport = .stdio) :
    RunsPinned host lock start (gateway.ensureStdio host io serverId).2 := by
  unfold McpGateway.ensureStdio
  split
  · next server pin hserver hpin =>
    split
    · exact h
    next havailable =>
    refine ⟨h.config, h.pins, fun other image hmem => ?_⟩
    rcases mem_contacts_getOrSpawn hmem with hold | ⟨rfl, hloads⟩
    · exact h.spawned other image hold
    · exact hloads.pinned hboot (h.config ▸ hserver) (hstdio server hserver) (h.pins ▸ hpin)
        (requireAvailable_eq_ok.mp havailable) (h.config ▸ hkept)
  · exact h

theorem runsPinned_of_reaches
    (hrun : Reaches (McpGateway.step wire host) (ProgramsKept host files) start gateway) :
    RunsPinned host lock start gateway := by
  refine hrun.invariant (I := RunsPinned host lock start) ?_ ?_
  · refine ⟨rfl, rfl, fun serverId image hmem => ?_⟩
    rw [(bootstrap_eq_ok hboot).2.1] at hmem
    exact absurd hmem not_mem_nil
  · intro gateway action next h hkept hstep
    cases action with cases hstep
    | invoke => exact h.invoke hboot hkept
    | ensureStdio => exact h.ensureStdio hboot hkept.1 hkept.2
    | shutdown => exact ⟨h.config, h.pins, h.spawned⟩

/-- A call whose server has no child and no pinned program fails before anything is spawned. -/
theorem call_of_mismatch {io : CallIo} (h : RunsPinned host lock start gateway)
    (hkept : KeepsPrograms host files gateway.config io.spawn)
    (hcall : SpawningCall gateway attemptId request serverId server)
    (hmismatch : ¬ MatchesPin host lock io.spawn serverId server) :
    let call := gateway.invoke wire host io attemptId request
    (call.1 = .error .unavailable ∨ call.1 = .error .pinMismatch) ∧
      call.2.transports = gateway.transports := by
  obtain ⟨access, attempt, hresolved, hplan, hgate, hserves⟩ := hcall.allowed
  have hconfigured := hcall.configured
  obtain ⟨-, -, -, -, -, -, -, hkind, -⟩ := resolveMcpToolAccess_spec hresolved
  have hplanned : attempt.progress = .planned := by rw [Attempt.plan_eq_ok hplan]
  obtain ⟨pin, hpin⟩ : ∃ pin, gateway.pins.lookup serverId = some pin := by
    obtain ⟨rfl, _, hpins⟩ := bootstrap_eq_ok hboot
    rw [h.pins, hpins, ← h.config, hconfigured]
    exact ⟨_, rfl⟩
  have hsetup : ∀ event, (gateway.pushAudit event none).pins = gateway.pins ∧
      (gateway.pushAudit event none).config = gateway.config ∧
      (gateway.pushAudit event none).transports = gateway.transports := fun _ => ⟨rfl, rfl, rfl⟩
  unfold McpGateway.invoke
  simp only [hcall.live, hresolved, hplan, hgate, Bool.false_eq_true, if_false]
  unfold McpGateway.invokeAllowed
  simp only [hkind, hserves, hsetup, hpin, hconfigured, ne_eq, not_true_eq_false, if_false]
  cases havailable : requireAvailable pin with
  | error e =>
    unfold requireAvailable at havailable
    split at havailable
    · cases havailable
    · split at havailable <;> cases havailable
      · exact ⟨.inr rfl, rfl⟩
      · exact ⟨.inl rfl, rfl⟩
  | ok u =>
    have hspawn := getOrSpawn_of_mismatch hboot (h.config ▸ hconfigured) hcall.stdio
      (h.pins ▸ hpin) (requireAvailable_eq_ok.mp havailable) (h.config ▸ hkept) hcall.noChild
      hmismatch
    obtain ⟨hcancel, hpreStart, hcrash⟩ := hcall.notSimulated
    simp [hpreStart, hcancel, hcrash, McpGateway.dispatchTransport, McpGateway.start,
      Attempt.markStarted, hplanned, Transports.call, hcall.stdio, McpGateway.pushAudit, hspawn,
      McpGateway.finishOutcome, McpError.unavailable]

end

/-- In every run whose files keep their programs, a spawned child runs the program that the lock
pins, and a call that does not find this program fails without spawning one. -/
theorem spawned_programs_pinned {gateway : McpGateway}
    (hboot : McpGateway.bootstrap host files config lock workspaceKey offlineHttp = .ok start)
    (hrun : Reaches (McpGateway.step wire host) (ProgramsKept host files) start gateway) :
    (∀ serverId image, Contact.spawned serverId image ∈ gateway.transports.contacts →
      PinsDigest lock serverId (host.sha256 image)) ∧
    ∀ io attemptId request serverId server,
      ProgramsKept host files gateway (.invoke io attemptId request) →
      SpawningCall gateway attemptId request serverId server →
      ¬ MatchesPin host lock io.spawn serverId server →
      ((gateway.invoke wire host io attemptId request).1 = .error .unavailable ∨
        (gateway.invoke wire host io attemptId request).1 = .error .pinMismatch) ∧
      (gateway.invoke wire host io attemptId request).2.transports = gateway.transports := by
  have hpinned := runsPinned_of_reaches hboot hrun
  exact ⟨hpinned.spawned, fun io attemptId request serverId server hkept hcall hmismatch =>
    call_of_mismatch hboot hpinned hkept hcall hmismatch⟩

end

/-! The first call on a server after a start: with the program of the start, and with a program
that replaced it. -/

theorem repoGateway_bootstrap :
    McpGateway.bootstrap silentHost (repoFiles repoProgram) repoConfiguration repoLock "workspace"
      false = .ok repoGateway := by
  rfl

theorem kept_program_spawned : (∃ gateway,
      McpGateway.bootstrap silentHost (repoFiles repoProgram) repoConfiguration repoLock
        "workspace" false = .ok repoGateway ∧
      Reaches (McpGateway.step (tableWire []) silentHost)
        (ProgramsKept silentHost (repoFiles repoProgram)) repoGateway gateway ∧
      Contact.spawned "repo" repoProgram ∈ gateway.transports.contacts ∧
      PinsDigest repoLock "repo" (silentHost.sha256 repoProgram)) ∧
    ∃ gateway, McpGateway.bootstrap silentHost (repoFiles (replicate 64 98)) repoConfiguration
        repoLock "workspace" false = .ok gateway ∧
      let call := gateway.invoke (tableWire []) silentHost
        (repoIo (replicate 64 98) []) 1 repoRequest
      (call.1 = .error .unavailable ∨ call.1 = .error .pinMismatch) ∧
        call.2.transports = gateway.transports := by
  have hkept : ProgramsKept silentHost (repoFiles repoProgram) repoGateway
      (.invoke (repoIo repoProgram []) 1 repoRequest) :=
    fun _ _ _ _ original _ _ _ _ horiginal => ⟨original, horiginal, rfl⟩
  have hrun := @Reaches.next McpGateway GatewayAction (McpGateway.step (tableWire []) silentHost)
    (ProgramsKept silentHost (repoFiles repoProgram)) repoGateway _ _
    (.invoke (repoIo repoProgram []) 1 repoRequest) .start hkept rfl
  have hspawned : Contact.spawned "repo" repoProgram ∈ (repoGateway.invoke (tableWire []) silentHost
      (repoIo repoProgram []) 1 repoRequest).2.transports.contacts := by
    decide +kernel
  refine ⟨⟨_, repoGateway_bootstrap, hrun, hspawned,
    (spawned_programs_pinned repoGateway_bootstrap hrun).1 "repo" repoProgram hspawned⟩, ?_⟩
  -- another program at the start: the pin does not match, and the call is refused
  obtain ⟨gateway, hboot⟩ : ∃ gateway, McpGateway.bootstrap silentHost
      (repoFiles (replicate 64 98)) repoConfiguration repoLock "workspace" false = .ok gateway :=
    ⟨_, rfl⟩
  have hcall : SpawningCall gateway 1 repoRequest "repo" repoServer := by
    cases hboot
    exact ⟨rfl, ⟨_, _, rfl, rfl, rfl, rfl⟩, rfl, rfl, rfl, rfl, rfl, rfl⟩
  refine ⟨gateway, hboot, (spawned_programs_pinned hboot .start).2 _ 1 repoRequest "repo" repoServer
    (fun _ _ _ _ original _ _ _ _ horiginal => ⟨original, horiginal, rfl⟩) hcall ?_⟩
  rintro ⟨_, _, _, ⟨⟩, ⟨⟩, ⟨⟩, pin, ⟨⟩, hdigest⟩
  exact absurd hdigest (by decide +kernel)

/-- A program that replaced the pinned one after the start is run. -/
theorem replaced_program_spawned : ∃ gateway,
      McpGateway.bootstrap silentHost (repoFiles repoProgram) repoConfiguration repoLock
        "workspace" false = .ok repoGateway ∧
      Reaches (McpGateway.step (tableWire []) silentHost) anyAction repoGateway gateway ∧
      ∃ image, Contact.spawned "repo" image ∈ gateway.transports.contacts ∧
        ¬ PinsDigest repoLock "repo" (silentHost.sha256 image) := by
  have hspawned : Contact.spawned "repo" (replicate 64 98) ∈ (repoGateway.invoke (tableWire [])
      silentHost (repoIo (replicate 64 98) []) 1 repoRequest).2.transports.contacts := by
    decide +kernel
  refine ⟨_, repoGateway_bootstrap, .next (.invoke (repoIo (replicate 64 98) []) 1 repoRequest)
    .start trivial rfl, _, hspawned, ?_⟩
  rintro ⟨pin, hpin, hdigest⟩
  obtain rfl := Option.some.inj hpin
  exact absurd hdigest (by decide +kernel)

end Workbench.Mcp
