import Workbench.Config.Preflight
import Workbench.Core.Policy
import Workbench.Daemon.History

/-!
# Daemon: planning a route

`plan_route` and what it uses: the candidate for a role, the ordered fallbacks of a
workflow step, and the effective permission of a provider prompt.  Every prompt is
paid inference with material cost, so the effective permission is never read-only
(`effectiveProviderPermission_ne_readOnly`): a route either needs an approval or
is denied.
-/

namespace Workbench.Daemon

open Workbench.Core Config Storage Library

/-- `env!("CARGO_PKG_VERSION")` of the workspace. -/
def daemonVersion : String := "0.1.0"

/-- The effect of a provider prompt, as the fake adapters declare it. -/
def promptOperation : Operation :=
  { name := "provider.prompt", effectClass := .paidInference, idempotent := false
    materialCost := true, approval := .policy }

def fakeProviderCapabilities (config : WorkbenchConfiguration) : Table ProviderCapabilities :=
  (config.providers.filter fun entry => entry.2.kind == .fake).map fun entry =>
    (entry.1,
      { adapterId := entry.1, adapterVersion := daemonVersion, protocol := "workbench-fake/1"
        authentication := .available
        capabilities := [.streaming, .sessionResume, .cancellation]
        operations := [promptOperation] })

/-! ## Permission -/

/-- The tool every prompt is checked as. -/
def providerPrompt : ToolId := ⟨"provider-prompt", by decide⟩

def permissionModeOf : DefaultToolMode → PermissionMode
  | .readOnly => .readOnly
  | .approvalRequired => .approvalRequired
  | .denied => .denied

def defaultToolModeOf : PermissionMode → DefaultToolMode
  | .readOnly => .readOnly
  | .approvalRequired => .approvalRequired
  | .denied => .denied

def scopeOfPermission : DefaultToolMode → PermissionScope
  | .readOnly => .readOnly
  | .approvalRequired => .approvalRequired
  | .denied => .denied

def permissionFromScope : PermissionScope → DefaultToolMode
  | .readOnly => .readOnly
  | .approvalRequired => .approvalRequired
  | .denied => .denied

@[simp] theorem permissionFromScope_scopeOfPermission (mode : DefaultToolMode) :
    permissionFromScope (scopeOfPermission mode) = mode := by
  cases mode <;> rfl

def effectiveProviderPermission (config : WorkbenchConfiguration) : DefaultToolMode :=
  let deniedTools := config.policies.globalDeny.filterMap fun tool =>
    (Identifier.parse tool).toOption
  let layer : PolicyLayer :=
    { source := .session
      defaultMode := permissionModeOf config.policies.defaultToolMode
      toolModes := []
      deniedTools }
  let decision := protectEffect (resolveToolPolicy providerPrompt [layer]) .paidInference true
  defaultToolModeOf decision.mode

/-- A prompt is never dispatched without an approval on the strength of the policy. -/
theorem effectiveProviderPermission_ne_readOnly (config : WorkbenchConfiguration) :
    effectiveProviderPermission config ≠ .readOnly := by
  simp only [effectiveProviderPermission, protectEffect_mode, mandatoryMode]
  generalize (resolveToolPolicy providerPrompt _).mode = mode
  cases mode <;> decide

/-! ## Candidates -/

/-- The step data that routing reads. -/
structure WorkflowRouteContext where
  role : String
  stepTools : List String
  fallbacks : List String

structure WorkflowRouteTarget where
  run : WorkflowRun
  role : String
  context : WorkflowRouteContext

/-- The outcome of routing one prompt. -/
inductive RouteDecision where
  | selected (plan : RoutingPlan) (permission : DefaultToolMode)
  | clarification (reason : String)
  | capabilityUnavailable
  deriving DecidableEq

/-- Any failure of the domain layer while a candidate is built is internal. -/
def internalError {α : Type} (result : Except CoreError α) : Except DaemonError α :=
  result.mapError fun _ => .internal

def routeCandidateForStep (config : WorkbenchConfiguration) (resolved : ResolvedModel)
    (permission : DefaultToolMode) (workflowContext : Option WorkflowRouteContext) :
    Except DaemonError RouteCandidate :=
  match config.roles.lookup resolved.role with
  | none => .error .storageUnavailable
  | some role => do
    let tools := match workflowContext with
      | some context => effectiveStepTools role.tools context.stepTools
      | none => role.tools
    let roleId ← internalError (Identifier.parse resolved.role)
    let modelAlias ← internalError (Identifier.parse resolved.modelAlias)
    let provider ← internalError (Identifier.parse resolved.provider)
    let tools ← internalError (tools.mapM Identifier.parse)
    let dataSources ← internalError (role.dataSources.mapM Identifier.parse)
    internalError (RouteCandidate.new "prompt"
      { role := roleId, modelAlias, provider, runtimeModel := resolved.runtimeModel }
      { tools, dataSources, permission := scopeOfPermission permission }
      .low 1)

/-- The router's outcome as a decision. -/
def routeDecision (config : WorkbenchConfiguration) (inputs : RoutingInputs) :
    Except DaemonError RouteDecision :=
  match OrderedRouter.new config.routing.confidenceThreshold with
  | .error _ => .error (.invalidRequest "routing threshold is invalid")
  | .ok router =>
    match router.resolve inputs with
    | .selected plan => .ok (.selected plan (permissionFromScope plan.context.permission))
    | .needsClarification reason _ => .ok (.clarification reason)

/-! ## Planning -/

/-- The candidate stands under the rule that named its role. -/
def routingInputs (explicitTarget workflowRole : Option String) (candidate : RouteCandidate) :
    RoutingInputs :=
  if explicitTarget.isSome then
    { explicit := some candidate, workflow := none, deterministic := none, coordinator := none }
  else if workflowRole.isSome then
    { explicit := none, workflow := some candidate, deterministic := none, coordinator := none }
  else
    { explicit := none, workflow := none, deterministic := none, coordinator := some candidate }

/-- Tries the fallback aliases of a workflow step in order. -/
def tryFallbacks (config : WorkbenchConfiguration) (available : Table ProviderCapabilities)
    (context : WorkflowRouteContext) : List String → Except DaemonError RouteDecision
  | [] => .ok .capabilityUnavailable
  | name :: rest =>
    match config.models.lookup name with
    | none => tryFallbacks config available context rest
    | some model =>
      match available.lookup model.provider with
      | none => tryFallbacks config available context rest
      | some capabilities =>
        if capabilities.authentication ≠ .available then
          tryFallbacks config available context rest
        else do
          let resolved : ResolvedModel :=
            { role := context.role, modelAlias := name, provider := model.provider
              runtimeModel := model.runtimeModel, usedFallback := true }
          let candidate ← routeCandidateForStep config resolved
            (effectiveProviderPermission config) (some context)
          routeDecision config (routingInputs none (some context.role) candidate)

def tryWorkflowFallback (config : WorkbenchConfiguration) (available : Table ProviderCapabilities)
    (workflowContext : Option WorkflowRouteContext) : Except DaemonError RouteDecision :=
  match workflowContext with
  | none => .ok .capabilityUnavailable
  | some context => tryFallbacks config available context context.fallbacks

/-- Plans the route of a prompt; the configured fakes come before the external `catalog`. -/
def planRoute (catalog : Table ProviderCapabilities) (config : WorkbenchConfiguration)
    (explicitTarget workflowRole : Option String)
    (workflowContext : Option WorkflowRouteContext) : Except DaemonError RouteDecision :=
  let available := fakeProviderCapabilities config ++ catalog
  let roleName := (explicitTarget.or workflowRole).getD config.routing.defaultRole
  match resolveRole config roleName available with
  | .error (.capabilityUnavailable _) => tryWorkflowFallback config available workflowContext
  | .error (.invalid path _) =>
    if path = "role" then
      .ok (.clarification ("configured role " ++ roleName ++ " does not exist"))
    else .error (.invalidRequest "routing configuration is invalid")
  -- the source indexes the model table here and panics
  | .error (.missingModel _) => .error .internal
  | .error _ => .error (.invalidRequest "routing configuration is invalid")
  | .ok resolved => do
    let candidate ← routeCandidateForStep config resolved
      (effectiveProviderPermission config) workflowContext
    routeDecision config (routingInputs explicitTarget workflowRole candidate)

/-- The active step of the session's workflow, from the recovered run or a new one. -/
def workflowRouteTarget (config : WorkbenchConfiguration) (history : List Event) (runId : Uuid) :
    Except DaemonError (Option WorkflowRouteTarget) :=
  match sessionWorkflowId history with
  | none => .ok none
  | some workflowId => do
    let run ← match recoverRun history with
      | some existing => pure existing
      | none =>
        match startRun config workflowId (toString runId) with
        | .ok (run, _) => pure run
        | .error _ =>
          .error (.invalidRequest "workflow could not be started from configuration")
    if run.phase.isTerminal then pure none
    else
      match config.workflows.lookup workflowId with
      | none => .error (.invalidRequest "workflow is not configured")
      | some workflow =>
        match activeStep workflow run with
        | none => .error (.invalidRequest "workflow active step is missing")
        | some step =>
          pure (some
            { run, role := step.role
              context :=
                { role := step.role, stepTools := step.tools, fallbacks := step.fallbacks } })

/-- The workflow fields of a routing payload. -/
def enrichWorkflowRouting (run : WorkflowRun) : WorkflowRouting :=
  { workflowId := run.workflowId.asStr
    stepId := (run.activeStepId.map NonEmptyText.asStr).getD "none"
    iteration := run.iteration
    stepIndex := run.activeStepIndex }

/-! ## What a plan can be -/

variable {config : WorkbenchConfiguration} {plan : RoutingPlan} {permission : DefaultToolMode}
  {explicitTarget workflowRole : Option String} {candidate : RouteCandidate}
  {workflowContext : Option WorkflowRouteContext}

/-- The plan for a resolved model: its destination, and the effective permission. -/
structure Plans (config : WorkbenchConfiguration) (resolved : ResolvedModel) (plan : RoutingPlan)
    (permission : DefaultToolMode) : Prop where
  role : plan.destination.role.asStr = resolved.role
  modelAlias : plan.destination.modelAlias.asStr = resolved.modelAlias
  provider : plan.destination.provider.asStr = resolved.provider
  known : (config.roles.lookup resolved.role).isSome
  effective : permission = effectiveProviderPermission config

theorem internalError_eq_ok {α : Type} {result : Except CoreError α} {a : α}
    (h : internalError result = .ok a) : result = .ok a := by
  cases result with
  | error _ => cases h
  | ok _ => cases h; rfl

theorem plans_of_selected {resolved : ResolvedModel}
    (hcandidate : routeCandidateForStep config resolved (effectiveProviderPermission config)
      workflowContext = .ok candidate)
    (hdecision : routeDecision config (routingInputs explicitTarget workflowRole candidate)
      = .ok (.selected plan permission)) : Plans config resolved plan permission := by
  obtain ⟨hdestination, hpermission⟩ : plan.destination = candidate.destination ∧
      permission = permissionFromScope candidate.context.permission := by
    simp only [routeDecision, routingInputs, OrderedRouter.resolve] at hdecision
    grind [RouteCandidate.intoPlan]
  unfold routeCandidateForStep at hcandidate
  split at hcandidate
  · cases hcandidate
  rename_i hrole
  obtain ⟨_, hroleId, h⟩ := bind_eq_ok hcandidate
  obtain ⟨_, hmodel, h⟩ := bind_eq_ok h
  obtain ⟨_, hprovider, h⟩ := bind_eq_ok h
  obtain ⟨_, _, h⟩ := bind_eq_ok h
  obtain ⟨_, _, hnew⟩ := bind_eq_ok h
  have hnew := internalError_eq_ok hnew
  cases hnew
  refine ⟨?_, ?_, ?_, by simp [hrole], by simp [hpermission]⟩ <;> rw [hdestination]
  · exact Identifier.asStr_of_parse (internalError_eq_ok hroleId)
  · exact Identifier.asStr_of_parse (internalError_eq_ok hmodel)
  · exact Identifier.asStr_of_parse (internalError_eq_ok hprovider)

/-- The provider of the alias is authenticated: all that a step fallback is asked for. -/
def authenticated (config : WorkbenchConfiguration) (available : Table ProviderCapabilities)
    (name : String) : Bool :=
  ((config.models.lookup name).bind fun model => available.lookup model.provider).any
    fun capabilities => decide (capabilities.authentication = .available)

theorem tryFallbacks_selected {available : Table ProviderCapabilities}
    {context : WorkflowRouteContext} {fallbacks : List String}
    (h : tryFallbacks config available context fallbacks = .ok (.selected plan permission)) :
    ∃ name model, fallbacks.find? (authenticated config available) = some name ∧
      config.models.lookup name = some model ∧
      Plans config ⟨context.role, name, model.provider, model.runtimeModel, true⟩ plan
        permission := by
  induction fallbacks with
  | nil => cases h
  | cons name rest ih =>
    unfold tryFallbacks at h
    split at h
    · rename_i hmodel
      simpa [authenticated, hmodel] using ih h
    rename_i model hmodel
    split at h
    · rename_i hprovider
      simpa [authenticated, hmodel, hprovider] using ih h
    rename_i capabilities hprovider
    split at h
    · rename_i hauthentication
      simpa [authenticated, hmodel, hprovider, hauthentication] using ih h
    · obtain ⟨candidate, hcandidate, hdecision⟩ := bind_eq_ok h
      refine ⟨name, model, ?_, hmodel, plans_of_selected hcandidate hdecision⟩
      simp_all [authenticated]

section

variable {catalog : Table ProviderCapabilities}

/-- The role that a prompt asks for. -/
def requestedRole (config : WorkbenchConfiguration) (explicitTarget workflowRole : Option String) :
    String :=
  (explicitTarget.or workflowRole).getD config.routing.defaultRole

/-- The providers that routing sees. -/
def providersOf (config : WorkbenchConfiguration) (catalog : Table ProviderCapabilities) :
    Table ProviderCapabilities :=
  fakeProviderCapabilities config ++ catalog

/-- A route is selected for a model that serves the requested role or, when none of them
does, for the first step fallback with an authenticated provider. -/
theorem planRoute_selected
    (h : planRoute catalog config explicitTarget workflowRole workflowContext
      = .ok (.selected plan permission)) :
    ∃ role resolved, config.roles.lookup (requestedRole config explicitTarget workflowRole)
        = some role ∧ Plans config resolved plan permission ∧
      (config.models.lookup resolved.modelAlias).map (·.provider) = some resolved.provider ∧
      ((resolved.role = requestedRole config explicitTarget workflowRole ∧
          resolved.modelAlias ∈ role.model :: role.fallbackModels ∧
          aliasServes config (providersOf config catalog) role resolved.modelAlias) ∨
        (∀ name ∈ role.model :: role.fallbackModels,
          aliasServes config (providersOf config catalog) role name = false) ∧
        ∃ context, workflowContext = some context ∧ resolved.role = context.role ∧
          context.fallbacks.find? (authenticated config (providersOf config catalog))
            = some resolved.modelAlias) := by
  unfold planRoute at h
  simp only at h
  rcases resolveRole_spec with ⟨path, message, herror⟩ | ⟨role, hrole, hspec⟩
  · rw [herror] at h
    simp only at h
    split at h <;> cases h
  refine ⟨role, ?_⟩
  split at h
  · rename_i hresult
    rw [hresult] at hspec
    unfold tryWorkflowFallback at h
    split at h
    · cases h
    · rename_i context
      obtain ⟨name, model, hfind, hmodel, hplans⟩ := tryFallbacks_selected h
      exact ⟨_, hrole, hplans, by simp [hmodel], .inr ⟨hspec, context, rfl, rfl, hfind⟩⟩
  · split at h <;> cases h
  · cases h
  · cases h
  · rename_i resolved hresult
    rw [hresult] at hspec
    obtain ⟨candidate, hcandidate, hdecision⟩ := bind_eq_ok h
    obtain ⟨hname, hmem, hserves, hmodel⟩ := hspec
    exact ⟨resolved, hrole, plans_of_selected hcandidate hdecision, hmodel,
      .inl ⟨hname, hmem, hserves⟩⟩

/-! ## What a route promises -/

/-- The route goes to the role that was named, on an authenticated and capable provider. -/
def Promised (config : WorkbenchConfiguration) (catalog : Table ProviderCapabilities)
    (explicitTarget : Option String) (plan : RoutingPlan) : Prop :=
  (∀ target ∈ explicitTarget, plan.destination.role.asStr = target) ∧
    (config.models.lookup plan.destination.modelAlias.asStr).map (·.provider)
      = some plan.destination.provider.asStr ∧
    (config.roles.lookup plan.destination.role.asStr).any fun role =>
      serves (providersOf config catalog) role plan.destination.provider.asStr

/-- The step fallback that stands in stays with the explicit target and serves its step's role. -/
def FallbackServes (config : WorkbenchConfiguration) (catalog : Table ProviderCapabilities)
    (explicitTarget workflowRole : Option String)
    (workflowContext : Option WorkflowRouteContext) : Prop :=
  ∀ role ∈ config.roles.lookup (requestedRole config explicitTarget workflowRole),
    (∀ name ∈ role.model :: role.fallbackModels,
      aliasServes config (providersOf config catalog) role name = false) →
    ∀ context ∈ workflowContext,
      ∀ name ∈ context.fallbacks.find? (authenticated config (providersOf config catalog)),
        (∀ target ∈ explicitTarget, context.role = target) ∧
          (config.roles.lookup context.role).any fun stepRole =>
            aliasServes config (providersOf config catalog) stepRole name

/-- A route keeps its promises exactly when a fallback that is taken serves what was asked for. -/
theorem planRoute_promised_iff
    (h : planRoute catalog config explicitTarget workflowRole workflowContext
      = .ok (.selected plan permission)) :
    Promised config catalog explicitTarget plan ↔
      FallbackServes config catalog explicitTarget workflowRole workflowContext := by
  obtain ⟨role, resolved, hrole, hplans, hmodel, hchoice⟩ := planRoute_selected h
  have hpromised : Promised config catalog explicitTarget plan ↔
      (∀ target ∈ explicitTarget, resolved.role = target) ∧
        (config.roles.lookup resolved.role).any fun role =>
          aliasServes config (providersOf config catalog) role resolved.modelAlias := by
    obtain ⟨model, hlookup, hprovider⟩ := Option.map_eq_some_iff.mp hmodel
    simp [Promised, hplans.role, hplans.modelAlias, hplans.provider, aliasServes, hlookup,
      hprovider]
  rw [hpromised]
  rcases hchoice with ⟨hname, hmem, hserves⟩ | ⟨hnone, context, rfl, hname, hfind⟩
  · -- a model of the requested role: the promise holds, and no fallback is taken
    refine iff_of_true ⟨?_, ?_⟩ ?_
    · rintro target rfl
      simp [hname, requestedRole]
    · simp [hname, hrole, hserves]
    · intro role' hrole' hnone
      obtain rfl : role = role' := by simpa [hrole] using hrole'
      simp [hnone _ hmem] at hserves
  · rw [hname]
    refine ⟨fun hpromised role' _ _ context' hcontext name hmem => ?_, fun hfallback => ?_⟩
    · obtain rfl : context = context' := by simpa using hcontext
      obtain rfl : resolved.modelAlias = name := by simpa [hfind] using hmem
      exact hpromised
    · exact hfallback role hrole hnone context rfl _ hfind

end

/-- A workflow whose second step requires a capability that the only provider lacks. -/
def reviewConfiguration : WorkbenchConfiguration :=
  { WorkbenchConfiguration.safeBuiltins with
    roles := [("reviewer", ⟨"fake-default", [], [], [.vision], []⟩),
      ("workspace-coordinator", ⟨"fake-default", [], [], [], []⟩)]
    workflows := [("flow", ⟨[⟨"draft", "workspace-coordinator", none, none, [], ["fake-default"]⟩,
      ⟨"review", "reviewer", none, none, [], ["fake-default"]⟩]⟩)] }

/-- The plan of a step of that workflow. -/
def reviewPlan (role : RoleId) : RoutingPlan where
  intent := "prompt"
  destination := ⟨role, ⟨"fake-default", Eq.refl true⟩, ⟨"fake", Eq.refl true⟩, "deterministic-v1"⟩
  context := ⟨[], [], .approvalRequired⟩
  risk := .low
  confidence := 1
  selectedBy := .workflow

/-- The route of the first step keeps its promises. -/
theorem draft_step_promised :
    Promised reviewConfiguration [] none (reviewPlan ⟨"workspace-coordinator", by decide⟩) ↔
      FallbackServes reviewConfiguration [] none (some "workspace-coordinator")
        (some ⟨"workspace-coordinator", [], ["fake-default"]⟩) :=
  @planRoute_promised_iff _ _ .approvalRequired _ _ _ _ (by decide +kernel)

/-- The step fallback is taken on a provider without the capability that the reviewer
requires, and a prompt for the reviewer goes to the role of the first step. -/
theorem reviewer_route_broken :
    validate reviewConfiguration = .ok () ∧
      (planRoute [] reviewConfiguration none (some "reviewer")
          (some ⟨"reviewer", [], ["fake-default"]⟩)
          = .ok (.selected (reviewPlan ⟨"reviewer", by decide⟩) .approvalRequired) ∧
        ¬ Promised reviewConfiguration [] none (reviewPlan ⟨"reviewer", by decide⟩)) ∧
      planRoute [] reviewConfiguration (some "reviewer") (some "workspace-coordinator")
          (some ⟨"workspace-coordinator", [], ["fake-default"]⟩)
          = .ok (.selected (reviewPlan ⟨"workspace-coordinator", by decide⟩) .approvalRequired) ∧
        ¬ Promised reviewConfiguration [] (some "reviewer")
          (reviewPlan ⟨"workspace-coordinator", by decide⟩) := by
  unfold Promised
  decide +kernel

end Workbench.Daemon
