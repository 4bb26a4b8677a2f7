import Workbench.Core.Value

/-!
# Config: the resolved configuration of a session

The types of `WorkbenchConfiguration`.  A `BTreeMap` is an association list;
`WorkbenchConfiguration.KeyOrdered` says that its keys ascend, as those of a map
do.  Fixed-width integers keep their width where validation does not bound them.
-/

namespace Workbench.Config

/-- A map of the configuration, keyed by identifier text. -/
abbrev Table (α : Type) := List (String × α)

/-- How a provider is reached. -/
inductive ProviderType where
  | subscriptionCli
  | api
  | acp
  | fake
  deriving DecidableEq

/-- The command lines that are driven. -/
inductive ProviderDriver where
  | claudeCode
  | codex
  deriving DecidableEq

/-- Whether an API may keep prompts. -/
inductive DataCollection where
  | deny
  | allow
  deriving DecidableEq

/-- What an API provider is asked to promise. -/
structure Privacy where
  zeroDataRetention : Bool
  dataCollection : DataCollection
  deriving DecidableEq

/-- A provider and how to reach it. -/
structure Provider where
  kind : ProviderType
  driver : Option ProviderDriver := none
  executable : Option String := none
  credentialRef : Option String := none
  privacy : Option Privacy := none
  /-- Optional HTTP base URL for API providers when the default endpoint is unsuitable. -/
  baseUrl : Option String := none
  deriving DecidableEq

/-- An alias: a provider and its model. -/
structure Model where
  provider : String
  runtimeModel : String
  deriving DecidableEq

/-- What a role may require of a provider. -/
inductive Capability where
  | streaming
  | toolCalling
  | structuredOutput
  | sessionResume
  | cancellation
  | vision
  | mcp
  | acp
  deriving DecidableEq

/-- A role: its model, tools, sources and fallbacks. -/
structure Role where
  model : String
  tools : List String
  dataSources : List String
  requiredCapabilities : List Capability
  fallbackModels : List String
  deriving DecidableEq

/-- What an operation does to the world. -/
inductive EffectClass where
  | idempotentRead
  | idempotentWrite
  | paidInference
  | nonIdempotentWrite
  | production
  | credential
  deriving DecidableEq

/-- When an operation needs approval. -/
inductive ApprovalMode where
  | never
  | policy
  | always
  deriving DecidableEq

/-- One operation of a tool or of a provider adapter. -/
structure Operation where
  name : String
  effectClass : EffectClass
  idempotent : Bool
  materialCost : Bool
  approval : ApprovalMode
  deriving DecidableEq

/-- Where a tool comes from. -/
inductive ToolKind where
  | builtin
  | mcp
  deriving DecidableEq

/-- A tool and its operations. -/
structure Tool where
  kind : ToolKind
  mcpServer : Option String
  operations : List Operation
  deriving DecidableEq

/-- A data source is an operation of a tool. -/
structure DataSource where
  tool : String
  operation : String
  deriving DecidableEq

/-- How an MCP server is reached. -/
inductive McpTransport where
  | stdio
  | http
  deriving DecidableEq

/-- An MCP server and its pinned artifact. -/
structure McpServer where
  transport : McpTransport
  version : String
  sha256 : String
  executable : Option String := none
  /-- Optional argv suffix after the executable for `stdio` transport. -/
  args : List String := []
  /-- Secret handles resolved at call time for the child environment. -/
  env : Table String := []
  url : Option String := none
  /-- Secret handles for HTTP header values. -/
  headers : Table String := []
  maxResponseBytes : Option UInt64 := none
  deriving DecidableEq

/-- A step, and where its findings lead. -/
structure WorkflowStep where
  id : String
  role : String
  onFindings : Option String
  maxIterations : Option Nat
  /-- Optional step allowlist that further restricts the role tool grant. -/
  tools : List String
  /-- Ordered model-alias fallbacks when primary preflight fails. -/
  fallbacks : List String
  deriving DecidableEq

/-- The steps in their order. -/
structure Workflow where
  steps : List WorkflowStep
  deriving DecidableEq

/-- The confidence threshold is an `f64`; it is only compared, so a rational stands for it. -/
structure Routing where
  defaultRole : String
  confidenceThreshold : Rat
  deriving DecidableEq

/-- The mode of tools that nothing else names. -/
inductive DefaultToolMode where
  | readOnly
  | approvalRequired
  | denied
  deriving DecidableEq

inductive ProductionMutations where
  | approvalRequired
  deriving DecidableEq

/-- Session and optional per-attempt paid inference ceilings in micro-USD. -/
structure CostPolicy where
  maxSessionUsdMicros : UInt64
  maxAttemptUsdMicros : Option UInt64 := none
  deriving DecidableEq

/-- Whether providers may use their own write tools. -/
inductive NativeWriteMode where
  | disabled
  | approvalRequired
  deriving DecidableEq

/-- Central policy for provider-native write tools; disabled unless configured. -/
structure ProviderNativeWritePolicy where
  mode : NativeWriteMode := .disabled
  /-- Provider ids that may use the write profile when the mode is not disabled. -/
  allowlist : List String := []
  deriving DecidableEq

/-- Whether provider-native writes are enabled for a provider. -/
def ProviderNativeWritePolicy.allows (policy : ProviderNativeWritePolicy) (provider : String) :
    Bool :=
  decide (policy.mode = .approvalRequired) && policy.allowlist.any (· == provider)

/-- The policies for tools, cost and native writes. -/
structure Policies where
  defaultToolMode : DefaultToolMode
  globalDeny : List String
  productionMutations : ProductionMutations := .approvalRequired
  cost : Option CostPolicy := none
  providerNativeWrites : ProviderNativeWritePolicy := {}
  deriving DecidableEq

inductive Encryption where
  | required
  deriving DecidableEq

inductive ExportFormat where
  | ageV1
  deriving DecidableEq

/-- How sessions are kept. -/
structure Storage where
  encryption : Encryption := .required
  retentionDays : Option UInt32 := none
  exportFormat : ExportFormat := .ageV1
  deriving DecidableEq

/-- The limits of the wire, which are fixed. -/
structure ProtocolLimits where
  maxFrameBytes : UInt64 := 8388608
  maxClientQueueEvents : UInt64 := 1024
  maxClientQueueBytes : UInt64 := 8388608
  cancellationDeadlineMs : UInt64 := 5000
  deriving DecidableEq

/-- The whole configuration. -/
structure WorkbenchConfiguration where
  version : UInt32 := 1
  providers : Table Provider
  models : Table Model
  roles : Table Role
  tools : Table Tool
  dataSources : Table DataSource := []
  mcpServers : Table McpServer := []
  workflows : Table Workflow
  routing : Routing
  policies : Policies
  storage : Storage := {}
  protocol : ProtocolLimits := {}
  deriving DecidableEq

/-- The built-in layer: one fake provider and one role. -/
def WorkbenchConfiguration.safeBuiltins : WorkbenchConfiguration where
  providers := [("fake", { kind := .fake })]
  models := [("fake-default", ⟨"fake", "deterministic-v1"⟩)]
  roles := [("workspace-coordinator", ⟨"fake-default", [], [], [], []⟩)]
  tools := []
  workflows := []
  routing := ⟨"workspace-coordinator", 85 / 100⟩
  policies := { defaultToolMode := .readOnly, globalDeny := [] }

/-! ## Tables in key order -/

/-- The keys of a table ascend, as those of a `BTreeMap` do. -/
def Table.KeyOrdered {α : Type} (table : Table α) : Prop :=
  table.Pairwise fun first second => first.1 < second.1

instance {α : Type} (table : Table α) : Decidable table.KeyOrdered :=
  inferInstanceAs (Decidable (List.Pairwise _ _))

/-- Every table of the configuration is in key order. -/
structure WorkbenchConfiguration.KeyOrdered (config : WorkbenchConfiguration) : Prop where
  providers : config.providers.KeyOrdered
  models : config.models.KeyOrdered
  roles : config.roles.KeyOrdered
  tools : config.tools.KeyOrdered
  dataSources : config.dataSources.KeyOrdered
  mcpServers : config.mcpServers.KeyOrdered
  env : ∀ entry ∈ config.mcpServers, Table.KeyOrdered entry.2.env
  headers : ∀ entry ∈ config.mcpServers, Table.KeyOrdered entry.2.headers
  workflows : config.workflows.KeyOrdered

theorem WorkbenchConfiguration.KeyOrdered.safeBuiltins :
    WorkbenchConfiguration.safeBuiltins.KeyOrdered := by
  constructor <;> decide

end Workbench.Config
