import Workbench.Config.Model
import Workbench.Mcp.Error

/-!
# Mcp: tool policy

Role and workflow allowlists layered on monotonic policy intersection.  A decision is the
most restrictive of what the layers, the effect class and the approval mode propose, so
each of them can be read off a decision that lets a call through
(`resolveMcpToolAccess_spec`).
-/

namespace Workbench.Mcp

open Workbench.Core Config

/-- Inputs that produce the effective MCP tool decision. -/
structure ToolPolicyContext where
  config : WorkbenchConfiguration
  toolId : String
  operation : String
  roleId : Option String
  workflowId : Option String
  workflowStepId : Option String
  sessionDenied : List String

/-- Explainable policy resolution for one tool operation. -/
structure ResolvedToolAccess where
  decision : PolicyDecision
  operation : OperationPolicy
  approvalMode : ApprovalMode
  toolKind : ToolKind
  mcpServer : Option String
  deriving DecidableEq

/-- Locates an MCP-backed tool definition. -/
def mcpTool (config : WorkbenchConfiguration) (toolId : String) : Option Tool :=
  (config.tools.lookup toolId).filter fun tool => tool.kind = .mcp

/-- Locates one named operation. -/
def toolOperation (tool : Tool) (operation : String) : Option Operation :=
  tool.operations.find? fun item => item.name = operation

/-- The names that are identifiers. -/
def toolIds (names : List String) : List ToolId :=
  names.filterMap fun name => (Identifier.parse name).toOption

def mapDefaultMode : DefaultToolMode → PermissionMode
  | .readOnly => .readOnly
  | .approvalRequired => .approvalRequired
  | .denied => .denied

def mapEffect : Config.EffectClass → Core.EffectClass
  | .idempotentRead => .idempotentRead
  | .idempotentWrite => .idempotentWrite
  | .paidInference => .paidInference
  | .nonIdempotentWrite => .nonIdempotentWrite
  | .production => .production
  | .credential => .credential

/-- A layer that allows what it lists and denies the rest. -/
def allowlistLayer (source : PolicySource) (names : List String) (toolId : ToolId) : PolicyLayer :=
  let allowed := toolIds names
  { source
    defaultMode := .denied
    toolModes := allowed.map fun id => (id, .readOnly)
    deniedTools := if toolId ∈ allowed then [] else [toolId] }

/-- The layer of a role, which looks for an empty list as well. -/
def roleLayer (names : List String) (toolId : ToolId) : PolicyLayer :=
  let allowed := toolIds names
  let denied := if toolId ∈ allowed then [] else [toolId]
  { source := .role
    defaultMode := .denied
    toolModes := allowed.map fun id => (id, .readOnly)
    deniedTools := if allowed.isEmpty then denied.insert toolId else denied }

/-- The second look of a role adds nothing. -/
@[simp] theorem roleLayer_eq (names : List String) (toolId : ToolId) :
    roleLayer names toolId = allowlistLayer .role names toolId := by
  unfold roleLayer allowlistLayer
  cases toolIds names <;> simp

/-- The step that a request names, if there is one with a list of tools. -/
def restrictingStep (ctx : ToolPolicyContext) : Option WorkflowStep := do
  let workflowId ← ctx.workflowId
  let stepId ← ctx.workflowStepId
  let workflow ← ctx.config.workflows.lookup workflowId
  let step ← workflow.steps.find? fun step => step.id = stepId
  if step.tools = [] then none else some step

/-- The role that a request names. -/
def namedRole (ctx : ToolPolicyContext) : Option Role :=
  ctx.roleId.bind fun roleId => ctx.config.roles.lookup roleId

def buildLayers (ctx : ToolPolicyContext) (toolId : ToolId) : List PolicyLayer :=
  let policies := ctx.config.policies
  [ -- Built-in: unlisted tools are denied; registered tools start read-only.
    { source := .builtIn
      defaultMode := .denied
      toolModes := (toolIds (ctx.config.tools.map (·.1))).map fun id => (id, .readOnly)
      deniedTools := [] },
    { source := .user
      defaultMode := mapDefaultMode policies.defaultToolMode
      toolModes := []
      deniedTools := toolIds policies.globalDeny },
    -- Repository layer: only present as default mode; cannot clear user deny.
    { source := .repository
      defaultMode := mapDefaultMode policies.defaultToolMode
      toolModes := []
      deniedTools := [] },
    { source := .session
      defaultMode := .readOnly
      toolModes := []
      deniedTools := toolIds ctx.sessionDenied } ]
  ++ (namedRole ctx).toList.map (fun role => roleLayer role.tools toolId)
  ++ (restrictingStep ctx).toList.map (fun step => allowlistLayer .workflow step.tools toolId)

def applyApprovalMode (current : PolicyDecision) : ApprovalMode → PolicyDecision
  | .never | .policy => current
  | .always =>
    let forced := current.mode.intersect .approvalRequired
    if forced = current.mode then current else ⟨forced, .effectClass⟩

/-- Builds intersecting layers and applies effect-class protection. -/
def resolveMcpToolAccess (ctx : ToolPolicyContext) : Except McpError ResolvedToolAccess :=
  match mcpTool ctx.config ctx.toolId with
  | none => .error .policyDenied
  | some tool =>
    match toolOperation tool ctx.operation with
    | none => .error .policyDenied
    | some operation =>
      match Identifier.parse ctx.toolId with
      | .error _ => .error .invalidConfiguration
      | .ok toolId =>
        let base := resolveToolPolicy toolId (buildLayers ctx toolId)
        let effect := mapEffect operation.effectClass
        let protectedDecision := protectEffect base effect operation.materialCost
        .ok
          { decision := applyApprovalMode protectedDecision operation.approval
            operation := ⟨effect, operation.idempotent, operation.materialCost⟩
            approvalMode := operation.approval
            toolKind := tool.kind
            mcpServer := tool.mcpServer }

/-- Converts a resolved access decision into a gate result before transport. -/
def gateBeforeTransport (access : ResolvedToolAccess) (granted : Option Bool) :
    Except McpError Unit :=
  match access.decision.mode with
  | .denied => .error .policyDenied
  | .approvalRequired =>
    match granted with
    | some true => .ok ()
    | some false => .error .approvalDenied
    | none => .error .approvalRequired
  | .readOnly => .ok ()

/-! ## What the layers propose -/

variable {names : List String} {tool : ToolId}

theorem mem_toolIds {id : ToolId} : id ∈ toolIds names ↔ id.asStr ∈ names := by
  simp only [toolIds, List.mem_filterMap]
  constructor
  · rintro ⟨name, hmem, hparse⟩
    cases hresult : Identifier.parse name with
    | error e => rw [hresult] at hparse; cases hparse
    | ok found =>
      rw [hresult] at hparse
      cases hparse
      rwa [Identifier.asStr_of_parse hresult]
  · intro hmem
    exact ⟨id.asStr, hmem, by rw [Identifier.parse_asStr]; rfl⟩

theorem lookup_readOnly {ids : List ToolId} (hmem : tool ∈ ids) :
    (ids.map fun id => (id, PermissionMode.readOnly)).lookup tool = some .readOnly := by
  induction ids with
  | nil => cases hmem
  | cons id rest ih => grind

theorem allowlistLayer_denied_iff {source : PolicySource} :
    (allowlistLayer source names tool).proposed tool = .denied ↔ tool.asStr ∉ names := by
  rw [← mem_toolIds]
  by_cases hmem : tool ∈ toolIds names
  · simp [allowlistLayer, PolicyLayer.proposed, hmem, lookup_readOnly hmem]
  · simp [allowlistLayer, PolicyLayer.proposed, hmem]

/-! ## What a decision has taken into account -/

section

variable {ctx : ToolPolicyContext}

theorem rank_applyApprovalMode (current : PolicyDecision) (mode : ApprovalMode) :
    (applyApprovalMode current mode).mode.restrictionRank
      = max current.mode.restrictionRank (if mode = .always then 1 else 0) := by
  cases mode with
  | never | policy => simp [applyApprovalMode]
  | always =>
    have hrank := PermissionMode.rank_intersect current.mode .approvalRequired
    unfold applyApprovalMode
    simp only
    split
    · next hforced =>
      rw [hforced] at hrank
      exact hrank
    · exact hrank

/-- Resolution is the meet of what the layers propose, and names the first layer with that mode. -/
theorem resolveToolPolicy_meet (tool : ToolId) (layers : List PolicyLayer) :
    let decision := resolveToolPolicy tool layers
    ((∀ layer ∈ layers,
        (layer.proposed tool).restrictionRank ≤ decision.mode.restrictionRank) ∧
      (layers ≠ [] → ∃ layer ∈ layers, layer.proposed tool = decision.mode)) ∧
    (∀ other, layers.Perm other → (resolveToolPolicy tool other).mode = decision.mode) ∧
    (∀ more, layers ⊆ more → decision.mode.restrictionRank
      ≤ (resolveToolPolicy tool more).mode.restrictionRank) ∧
    (∀ effectClass materialCost, decision.mode.restrictionRank
      ≤ (protectEffect decision effectClass materialCost).mode.restrictionRank) ∧
    (∀ mode, decision.mode.restrictionRank
      ≤ (applyApprovalMode decision mode).mode.restrictionRank) ∧
    if decision.mode = .readOnly then decision.authoritativeSource = .builtIn
    else (layers.find? (·.proposed tool = decision.mode)).map PolicyLayer.source
      = some decision.authoritativeSource := by
  refine ⟨⟨fun layer => rank_proposed_le, fun hne => ?_⟩, fun other hperm => ?_,
    fun more => rank_resolveToolPolicy_le tool, fun effectClass materialCost => ?_,
    fun mode => ?_, resolveToolPolicy_source tool layers⟩
  · obtain ⟨layer, hlayer⟩ := List.exists_mem_of_ne_nil _ hne
    rcases resolveToolPolicy_mem tool layers with hnone | hsome
    · have hle := @rank_proposed_le _ tool _ hlayer
      rw [hnone] at hle ⊢
      exact ⟨layer, hlayer, PermissionMode.restrictionRank_injective (Nat.le_zero.mp hle)⟩
    · exact hsome
  · exact PermissionMode.restrictionRank_injective (le_antisymm
      (rank_resolveToolPolicy_le tool hperm.symm.subset)
      (rank_resolveToolPolicy_le tool hperm.subset))
  · rw [protectEffect_mode, PermissionMode.rank_intersect]
    exact Nat.le_max_left _ _
  · rw [rank_applyApprovalMode]
    exact Nat.le_max_left _ _

variable {access : ResolvedToolAccess}

/-- No layer, no effect class and no approval mode is more restrictive than the decision of a
resolved access, and only a layer denies. -/
theorem resolveMcpToolAccess_spec (h : resolveMcpToolAccess ctx = .ok access) :
    ∃ found operation, ∃ toolId,
      mcpTool ctx.config ctx.toolId = some found ∧
      toolOperation found ctx.operation = some operation ∧
      toolId.asStr = ctx.toolId ∧ access.mcpServer = found.mcpServer ∧ access.toolKind = .mcp ∧
      (∀ layer ∈ buildLayers ctx toolId,
        (layer.proposed toolId).restrictionRank ≤ access.decision.mode.restrictionRank) ∧
      (access.decision.mode = .denied →
        ∃ layer ∈ buildLayers ctx toolId, layer.proposed toolId = .denied) ∧
      (mandatoryMode (mapEffect operation.effectClass) operation.materialCost).restrictionRank
        ≤ access.decision.mode.restrictionRank ∧
      (operation.approval = .always → 1 ≤ access.decision.mode.restrictionRank) := by
  unfold resolveMcpToolAccess at h
  split at h
  · cases h
  next found hfound =>
  split at h
  · cases h
  next operation hoperation =>
  split at h
  · cases h
  next toolId hparse =>
  cases h
  have happroval := rank_applyApprovalMode
    (protectEffect (resolveToolPolicy toolId (buildLayers ctx toolId))
      (mapEffect operation.effectClass) operation.materialCost) operation.approval
  rw [protectEffect_mode, PermissionMode.rank_intersect] at happroval
  have hkind := (Option.filter_eq_some_iff.mp hfound).2
  refine ⟨found, operation, toolId, hfound, hoperation, Identifier.asStr_of_parse hparse, rfl,
    by simpa using hkind, fun layer hmem => ?_, fun hdenied => exists_denied ?_, ?_,
    fun halways => ?_⟩
  · have := @rank_proposed_le _ toolId _ hmem
    simp only
    omega
  · have hmandatory := rank_mandatoryMode_le (mapEffect operation.effectClass)
      operation.materialCost
    by_contra hopen
    rw [← ne_eq, ← PermissionMode.rank_le_one_iff] at hopen
    refine PermissionMode.rank_le_one_iff.mp ?_ hdenied
    simp only
    split at happroval <;> omega
  · simp only
    omega
  · rw [if_pos halways] at happroval
    simp only
    omega

end

/-- A gate that opens has a grant unless the decision is read-only. -/
theorem gateBeforeTransport_eq_ok {access : ResolvedToolAccess} {granted : Option Bool}
    (h : gateBeforeTransport access granted = .ok ()) :
    access.decision.mode.restrictionRank ≤ 1 ∧
      (1 ≤ access.decision.mode.restrictionRank → granted = some true) := by
  unfold gateBeforeTransport at h
  split at h
  · cases h
  · next hmode =>
    rw [hmode]
    split at h
    · exact ⟨Nat.le_refl _, fun _ => rfl⟩
    · cases h
    · cases h
  · next hmode =>
    rw [hmode]
    exact ⟨Nat.zero_le _, fun hdemand => absurd hdemand (by decide)⟩

end Workbench.Mcp
