import Workbench.Core.Value

/-!
# Core: deterministic, ordered routing
-/

namespace Workbench.Core

/-- Risk assigned before dispatch. -/
inductive Risk where
  | low
  | medium
  | high
  deriving DecidableEq

/-- Effective permission granted to a route. -/
inductive PermissionScope where
  | readOnly
  | approvalRequired
  | denied
  deriving DecidableEq

/-- Destination selected independently of provider-specific behavior. -/
structure RouteDestination where
  role : RoleId
  modelAlias : ModelAlias
  provider : ProviderId
  runtimeModel : String
  deriving DecidableEq

/-- Context made available to the selected executor. -/
structure RouteContext where
  tools : List ToolId
  dataSources : List DataSourceId
  permission : PermissionScope
  deriving DecidableEq

/-- Why a route won the ordered resolver. -/
inductive SelectedRule where
  | explicit
  | workflow
  | resolver
  | coordinator
  deriving DecidableEq

/-- Auditable plan emitted before provider dispatch. -/
structure RoutingPlan where
  intent : String
  destination : RouteDestination
  context : RouteContext
  risk : Risk
  confidence : Rat
  selectedBy : SelectedRule
  deriving DecidableEq

/-- A potential route produced by one rule. -/
structure RouteCandidate where
  intent : String
  destination : RouteDestination
  context : RouteContext
  risk : Risk
  confidence : Rat

/-- Creates a validated candidate. -/
def RouteCandidate.new (intent : String) (destination : RouteDestination) (context : RouteContext)
    (risk : Risk) (confidence : Rat) : Except CoreError RouteCandidate :=
  if intent = "" ∨ ¬ (0 ≤ confidence ∧ confidence ≤ 1) then
    .error ⟨.invalidRequest, "route intent and confidence are invalid"⟩
  else .ok { intent, destination, context, risk, confidence }

def RouteCandidate.intoPlan (candidate : RouteCandidate) (selectedBy : SelectedRule) :
    RoutingPlan :=
  { candidate with selectedBy }

/-- Inputs to the fixed-priority rule chain. -/
structure RoutingInputs where
  explicit : Option RouteCandidate
  workflow : Option RouteCandidate
  deterministic : Option RouteCandidate
  coordinator : Option RouteCandidate

/-- A single route or a request for clarification. -/
inductive RoutingOutcome where
  | selected (plan : RoutingPlan)
  | needsClarification (reason : String) (confidence : Option Rat)

/-- Resolves at most one executor using the documented rule order. -/
structure OrderedRouter where
  confidenceThreshold : Rat

/-- Creates a router with a validated coordinator threshold. -/
def OrderedRouter.new (confidenceThreshold : Rat) : Except CoreError OrderedRouter :=
  if 0 ≤ confidenceThreshold ∧ confidenceThreshold ≤ 1 then .ok ⟨confidenceThreshold⟩
  else .error ⟨.invalidRequest, "routing threshold must be between zero and one"⟩

/-- Selects the first successful route and never broadcasts. -/
def OrderedRouter.resolve (router : OrderedRouter) (inputs : RoutingInputs) : RoutingOutcome :=
  match inputs.explicit with
  | some candidate => .selected (candidate.intoPlan .explicit)
  | none =>
  match inputs.workflow with
  | some candidate => .selected (candidate.intoPlan .workflow)
  | none =>
  match inputs.deterministic with
  | some candidate => .selected (candidate.intoPlan .resolver)
  | none =>
  match inputs.coordinator with
  | some candidate =>
    if router.confidenceThreshold ≤ candidate.confidence then
      .selected (candidate.intoPlan .coordinator)
    else
      .needsClarification "coordinator confidence is below the configured threshold"
        (some candidate.confidence)
  | none => .needsClarification "no routing rule selected an executor" none

end Workbench.Core
