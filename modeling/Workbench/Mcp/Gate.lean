import Workbench.Mcp.Gateway

/-!
# Mcp: the gate before every transport

A call that makes the gateway contact a transport has passed every layer of the policy, the
approval its operation demands, and the pin of its server.
-/

namespace Workbench.Mcp

open Workbench.Core Config Library List

/-- The role, the workflow and the step that a request names exist. -/
structure NamesExist (config : WorkbenchConfiguration) (request : ToolInvokeRequest) : Prop where
  role : ∀ roleId, request.roleId = some roleId → (config.roles.lookup roleId).isSome
  workflow : ∀ workflowId, request.workflowId = some workflowId →
    (config.workflows.lookup workflowId).isSome
  step : ∀ stepId, request.workflowStepId = some stepId →
    ∃ workflowId workflow, request.workflowId = some workflowId ∧
      config.workflows.lookup workflowId = some workflow ∧ ∃ step ∈ workflow.steps, step.id = stepId

/-- The default mode, the effect class, the cost or the approval mode demands a grant. -/
def DemandsApproval (policies : Policies) (operation : Operation) : Prop :=
  policies.defaultToolMode = .approvalRequired ∨ operation.effectClass ≠ .idempotentRead ∨
    operation.materialCost ∨ operation.approval = .always

/-- What the configuration, the pins and the grant must say for a call to go through. -/
structure Permitted (gateway : McpGateway) (request : ToolInvokeRequest) : Prop where
  registered : ∃ tool operation serverId pin,
    gateway.config.tools.lookup request.toolId = some tool ∧ tool.kind = .mcp ∧
    tool.operations.find? (fun item => item.name = request.operation) = some operation ∧
    tool.mcpServer = some serverId ∧
    gateway.pins.lookup serverId = some pin ∧ pin.available ∧
    (DemandsApproval gateway.config.policies operation → request.approvalGranted = some true)
  notDenied : request.toolId ∉ gateway.config.policies.globalDeny
  notDeniedInSession : request.toolId ∉ request.sessionDenied
  openByDefault : gateway.config.policies.defaultToolMode ≠ .denied
  byRole : ∀ roleId, request.roleId = some roleId →
    ∃ role, gateway.config.roles.lookup roleId = some role ∧ request.toolId ∈ role.tools
  byStep : ∀ workflowId stepId, request.workflowId = some workflowId →
    request.workflowStepId = some stepId →
    ∃ workflow step, gateway.config.workflows.lookup workflowId = some workflow ∧
      workflow.steps.find? (fun step => step.id = stepId) = some step ∧
      (step.tools ≠ [] → request.toolId ∈ step.tools)

/-! ## Layers that deny a tool -/

/-- The tool is denied whatever is named, or by a role or a step that is named and exists. -/
def DeniedAnyway (ctx : ToolPolicyContext) : Prop :=
  ctx.toolId ∈ ctx.config.policies.globalDeny ∨ ctx.toolId ∈ ctx.sessionDenied ∨
    ctx.config.policies.defaultToolMode = .denied ∨
    (∃ role, namedRole ctx = some role ∧ ctx.toolId ∉ role.tools) ∨
    ∃ step, restrictingStep ctx = some step ∧ ctx.toolId ∉ step.tools

theorem exists_denying_layer_iff {ctx : ToolPolicyContext} {tool : ToolId}
    (hid : tool.asStr = ctx.toolId) (hregistered : ctx.toolId ∈ ctx.config.tools.map (·.1)) :
    (∃ layer ∈ buildLayers ctx tool, layer.proposed tool = .denied) ↔ DeniedAnyway ctx := by
  rw [← hid, ← mem_toolIds] at hregistered
  have hdefault : ∀ mode, mapDefaultMode mode = .denied ↔ mode = .denied := by
    rintro (_ | _ | _) <;> decide
  simp only [buildLayers, cons_append, nil_append, mem_cons, mem_append,
    mem_map, Option.mem_toList, or_and_right, exists_or, exists_eq_left,
    exists_exists_and_eq_and, roleLayer_eq, allowlistLayer_denied_iff]
  -- the built-in layer denies no registered tool, and the repository layer adds nothing
  grind [DeniedAnyway, PolicyLayer.proposed, lookup_readOnly hregistered, mem_toolIds]

variable {access : ResolvedToolAccess}

theorem denied_iff {ctx : ToolPolicyContext} (h : resolveMcpToolAccess ctx = .ok access) :
    access.decision.mode = .denied ↔ DeniedAnyway ctx := by
  obtain ⟨tool, _, toolId, htool, -, hid, -, -, hlayers, hdenied, -⟩ := resolveMcpToolAccess_spec h
  rw [← exists_denying_layer_iff hid
    (mem_map_of_mem (mem_of_lookup (Option.filter_eq_some_iff.mp htool).1))]
  refine ⟨hdenied, fun ⟨layer, hmem, hproposed⟩ => ?_⟩
  have hrank := hlayers layer hmem
  by_contra hopen
  rw [hproposed] at hrank
  exact absurd (hrank.trans (PermissionMode.rank_le_one_iff.mpr hopen)) (by decide)

/-- What demands approval makes a decision at least as restrictive as asking. -/
theorem rank_of_demandsApproval {policies : Policies} {operation : Operation} {rank : Nat}
    (hdefault : (mapDefaultMode policies.defaultToolMode).restrictionRank ≤ rank)
    (heffect : (mandatoryMode (mapEffect operation.effectClass)
      operation.materialCost).restrictionRank ≤ rank)
    (happroval : operation.approval = .always → 1 ≤ rank)
    (hdemand : DemandsApproval policies operation) : 1 ≤ rank := by
  rcases hdemand with hmode | hclass | hcost | halways
  · rw [hmode] at hdefault
    exact hdefault
  · cases hcase : operation.effectClass with
    | idempotentRead => exact absurd hcase hclass
    | _ => rw [hcase] at heffect; exact heffect
  · rw [hcost] at heffect
    cases hcase : operation.effectClass <;> rw [hcase] at heffect <;> exact heffect
  · exact happroval halways

/-! ## The gate -/

section

variable {wire : Wire} {host : Host} {io : CallIo} {gateway : McpGateway}
  {request : ToolInvokeRequest}

theorem McpGateway.Dispatched.permitted
    {call : Except McpError ToolInvokeOutcome × McpGateway} {serverId : String}
    {server : McpServer} {transport : Except McpError Json × Transports}
    (hnames : NamesExist gateway.config request)
    (h : McpGateway.Dispatched wire host io gateway request call access serverId server transport) :
    Permitted gateway request := by
  obtain ⟨tool, operation, toolId, htool, hoperation, -, hserver, -, hlayers, -, heffect,
    happroval⟩ :=
    resolveMcpToolAccess_spec h.resolved
  obtain ⟨hbound, hgranted⟩ := gateBeforeTransport_eq_ok h.gate
  obtain ⟨pin, hpin, havailable⟩ := h.pinned
  have hdefault : (mapDefaultMode gateway.config.policies.defaultToolMode).restrictionRank
      ≤ access.decision.mode.restrictionRank :=
    hlayers
      { source := .repository
        defaultMode := mapDefaultMode gateway.config.policies.defaultToolMode
        toolModes := []
        deniedTools := [] } (by simp [buildLayers, ToolInvokeRequest.context])
  have hregistered := Option.filter_eq_some_iff.mp htool
  obtain ⟨hglobal, hsession, hmode, hrole, hstep⟩ : _ ∧ _ ∧ _ ∧ _ ∧ _ := by
    simpa only [DeniedAnyway, not_or, not_exists, not_and, not_not] using
      mt (denied_iff h.resolved).mpr (PermissionMode.rank_le_one_iff.mp hbound)
  refine ⟨⟨tool, operation, serverId, pin, hregistered.1, by simpa using hregistered.2, hoperation,
    hserver.symm.trans h.serves, hpin, havailable, fun hdemand => ?_⟩, hglobal, hsession, hmode,
    ?_, ?_⟩
  · exact hgranted (rank_of_demandsApproval hdefault heffect happroval hdemand)
  · intro roleId hroleId
    obtain ⟨role, hfound⟩ := Option.isSome_iff_exists.mp (hnames.role roleId hroleId)
    refine ⟨role, hfound, hrole role ?_⟩
    show request.roleId.bind _ = _
    rw [hroleId]
    exact hfound
  · intro workflowId stepId hworkflow hstepId
    obtain ⟨named, workflow, hsame, hfound, hexists⟩ := hnames.step stepId hstepId
    obtain rfl : named = workflowId := Option.some.inj (hsame.symm.trans hworkflow)
    obtain ⟨step, hfind⟩ : ∃ step, workflow.steps.find? (fun step => step.id = stepId)
        = some step := by
      obtain ⟨step, hmem, hid⟩ := hexists
      exact Option.isSome_iff_exists.mp (find?_isSome.mpr ⟨step, hmem, by simpa using hid⟩)
    refine ⟨workflow, step, hfound, hfind, fun htools => hstep step ?_⟩
    unfold restrictingStep
    simp only [ToolInvokeRequest.context, hworkflow, hstepId, hfound, hfind, Option.bind_eq_bind,
      Option.bind_some, if_neg htools]

/-- A call contacts a transport only as the configuration, the pins and the grant permit. -/
theorem contacts_only_permitted (attemptId : Nat) (hnames : NamesExist gateway.config request)
    (hcontact : (gateway.invoke wire host io attemptId request).2.transports.contacts
      ≠ gateway.transports.contacts) :
    Permitted gateway request := by
  obtain ⟨_, hsame | ⟨access, serverId, server, transport, hdispatched⟩⟩ :=
    @McpGateway.invoke_spec wire host io gateway request attemptId
  · exact absurd (congrArg Transports.contacts hsame) hcontact
  · exact hdispatched.permitted hnames

end

/-! A write operation of an HTTP server, called with a grant for a role and a step that list
its tool. -/

def clusterConfiguration : WorkbenchConfiguration :=
  { WorkbenchConfiguration.safeBuiltins with
    mcpServers := [("cluster",
      { transport := .http, version := "1.0.0", sha256 := "pinned"
        url := some "http://127.0.0.1:9/mcp" })]
    roles := [("builder", ⟨"fake-default", ["cluster-mutate"], [], [], []⟩)]
    tools := [("cluster-mutate",
      ⟨.mcp, some "cluster", [⟨"apply", .nonIdempotentWrite, false, false, .policy⟩]⟩)]
    workflows := [("ship", ⟨[⟨"mutate", "builder", none, none, ["cluster-mutate"], []⟩]⟩)] }

def clusterGateway : McpGateway where
  config := clusterConfiguration
  pins := [("cluster", ⟨"cluster", true, .http, none⟩)]
  transports := ⟨"workspace", [], ⟨[], true⟩, []⟩
  audit := []
  shuttingDown := false

def clusterRequest : ToolInvokeRequest where
  toolId := "cluster-mutate"
  operation := "apply"
  roleId := some "builder"
  workflowId := some "ship"
  workflowStepId := some "mutate"
  approvalGranted := some true
  correlationId := "call"

theorem granted_call_contacts :
    NamesExist clusterGateway.config clusterRequest ∧
      (clusterGateway.invoke
        (tableWire []) silentHost silentIo 1 clusterRequest).2.transports.contacts
        ≠ clusterGateway.transports.contacts ∧
      Permitted clusterGateway clusterRequest := by
  have hnames : NamesExist clusterGateway.config clusterRequest := by
    refine ⟨?_, ?_, ?_⟩
    · rintro roleId ⟨⟩
      decide +kernel
    · rintro workflowId ⟨⟩
      decide +kernel
    · rintro stepId ⟨⟩
      exact ⟨"ship", _, rfl, rfl, _, mem_singleton_self _, rfl⟩
  have hcontact : (clusterGateway.invoke (tableWire []) silentHost silentIo 1
      clusterRequest).2.transports.contacts ≠ clusterGateway.transports.contacts := by
    intro hsame
    exact absurd (congrArg length hsame) (by decide +kernel)
  exact ⟨hnames, hcontact, contacts_only_permitted 1 hnames hcontact⟩

/-! ## Names that do not exist -/

/-- A request that names something unknown is denied exactly when something else denies it. -/
theorem unknown_names_denied_iff {config : WorkbenchConfiguration} {request : ToolInvokeRequest}
    (h : resolveMcpToolAccess (request.context config) = .ok access) :
    (¬ NamesExist config request → access.decision.mode = .denied) ↔
      (¬ NamesExist config request → DeniedAnyway (request.context config)) :=
  imp_congr_right fun _ => denied_iff h

/-- A request for a role that does not exist, and its access. -/
def strangerRequest : ToolInvokeRequest := { clusterRequest with roleId := some "stranger" }

def strangerAccess : ResolvedToolAccess :=
  ⟨⟨.approvalRequired, .effectClass⟩, ⟨.nonIdempotentWrite, false, false⟩, .policy, .mcp,
    some "cluster"⟩

theorem stranger_denied_iff :
    resolveMcpToolAccess (strangerRequest.context clusterConfiguration) = .ok strangerAccess ∧
      ((¬ NamesExist clusterConfiguration strangerRequest →
          strangerAccess.decision.mode = .denied) ↔
        (¬ NamesExist clusterConfiguration strangerRequest →
          DeniedAnyway (strangerRequest.context clusterConfiguration))) := by
  have hresolved : resolveMcpToolAccess (strangerRequest.context clusterConfiguration)
      = .ok strangerAccess := by
    decide +kernel
  exact ⟨hresolved, unknown_names_denied_iff hresolved⟩

/-- Nobody knows the role, and a grant is all that the call needs. -/
theorem stranger_not_denied :
    ¬ NamesExist clusterConfiguration strangerRequest ∧
      resolveMcpToolAccess (strangerRequest.context clusterConfiguration) = .ok strangerAccess ∧
      strangerAccess.decision.mode ≠ .denied :=
  ⟨fun hnames => absurd (hnames.role "stranger" rfl) (by decide +kernel), by decide +kernel, nofun⟩

end Workbench.Mcp
