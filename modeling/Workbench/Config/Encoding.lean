import Workbench.Config.Validate
import Workbench.Library.JsonCodec

/-!
# Config: configurations as JSON values

What the derived serializers and deserializers of the configuration types do.  An
object holds its members in key order, whatever the order of the fields of its
type; a field that its type skips when empty has no member.
-/

namespace Workbench.Config

open Library Json

/-! ## Names of the variants -/

/-- The names of each enumeration, as they are written. -/
def ProviderType.variants : List (String × ProviderType) :=
  [("subscription-cli", .subscriptionCli), ("api", .api), ("acp", .acp), ("fake", .fake)]

def ProviderDriver.variants : List (String × ProviderDriver) :=
  [("claude-code", .claudeCode), ("codex", .codex)]

def DataCollection.variants : List (String × DataCollection) :=
  [("deny", .deny), ("allow", .allow)]

def Capability.variants : List (String × Capability) :=
  [("streaming", .streaming), ("tool-calling", .toolCalling),
   ("structured-output", .structuredOutput), ("session-resume", .sessionResume),
   ("cancellation", .cancellation), ("vision", .vision), ("mcp", .mcp), ("acp", .acp)]

def EffectClass.variants : List (String × EffectClass) :=
  [("idempotent-read", .idempotentRead), ("idempotent-write", .idempotentWrite),
   ("paid-inference", .paidInference), ("non-idempotent-write", .nonIdempotentWrite),
   ("production", .production), ("credential", .credential)]

def ApprovalMode.variants : List (String × ApprovalMode) :=
  [("never", .never), ("policy", .policy), ("always", .always)]

def ToolKind.variants : List (String × ToolKind) := [("builtin", .builtin), ("mcp", .mcp)]

def McpTransport.variants : List (String × McpTransport) := [("stdio", .stdio), ("http", .http)]

def DefaultToolMode.variants : List (String × DefaultToolMode) :=
  [("read-only", .readOnly), ("approval-required", .approvalRequired), ("denied", .denied)]

def ProductionMutations.variants : List (String × ProductionMutations) :=
  [("approval-required", .approvalRequired)]

def NativeWriteMode.variants : List (String × NativeWriteMode) :=
  [("disabled", .disabled), ("approval-required", .approvalRequired)]

def Encryption.variants : List (String × Encryption) := [("required", .required)]

def ExportFormat.variants : List (String × ExportFormat) := [("age/v1", .ageV1)]

/-! ## Writing -/

/-- The value of a field that is skipped when it holds nothing. -/
def unlessEmpty {α : Type} (items : List α) (value : Json) : Option Json :=
  if items.isEmpty then none else some value

/-- The members of each record, in the order of its fields. -/
def Privacy.toValue (privacy : Privacy) : Json := .record
  [("zero_data_retention", some (.bool privacy.zeroDataRetention)),
   ("data_collection", some (.ofVariant DataCollection.variants privacy.dataCollection))]

def Provider.toValue (provider : Provider) : Json := .record
  [("type", some (.ofVariant ProviderType.variants provider.kind)),
   ("driver", provider.driver.map (.ofVariant ProviderDriver.variants)),
   ("executable", provider.executable.map .string),
   ("credential_ref", provider.credentialRef.map .string),
   ("privacy", provider.privacy.map Privacy.toValue),
   ("base_url", provider.baseUrl.map .string)]

def Model.toValue (model : Model) : Json := .record
  [("provider", some (.string model.provider)),
   ("runtime_model", some (.string model.runtimeModel))]

def Role.toValue (role : Role) : Json := .record
  [("model", some (.string role.model)),
   ("tools", some (.ofStrings role.tools)),
   ("data_sources", some (.ofStrings role.dataSources)),
   ("required_capabilities",
     some (.array (role.requiredCapabilities.map (.ofVariant Capability.variants)))),
   ("fallback_models", some (.ofStrings role.fallbackModels))]

def Operation.toValue (operation : Operation) : Json := .record
  [("name", some (.string operation.name)),
   ("effect_class", some (.ofVariant EffectClass.variants operation.effectClass)),
   ("idempotent", some (.bool operation.idempotent)),
   ("material_cost", some (.bool operation.materialCost)),
   ("approval", some (.ofVariant ApprovalMode.variants operation.approval))]

def Tool.toValue (tool : Tool) : Json := .record
  [("kind", some (.ofVariant ToolKind.variants tool.kind)),
   ("mcp_server", tool.mcpServer.map .string),
   ("operations", some (.array (tool.operations.map Operation.toValue)))]

def DataSource.toValue (source : DataSource) : Json := .record
  [("tool", some (.string source.tool)), ("operation", some (.string source.operation))]

def McpServer.toValue (server : McpServer) : Json := .record
  [("transport", some (.ofVariant McpTransport.variants server.transport)),
   ("version", some (.string server.version)),
   ("sha256", some (.string server.sha256)),
   ("executable", server.executable.map .string),
   ("args", unlessEmpty server.args (.ofStrings server.args)),
   ("env", unlessEmpty server.env (.ofMap .string server.env)),
   ("url", server.url.map .string),
   ("headers", unlessEmpty server.headers (.ofMap .string server.headers)),
   ("max_response_bytes", server.maxResponseBytes.map .ofU64)]

def WorkflowStep.toValue (step : WorkflowStep) : Json := .record
  [("id", some (.string step.id)),
   ("role", some (.string step.role)),
   ("on_findings", step.onFindings.map .string),
   ("max_iterations", step.maxIterations.map fun bound => .ofU32 (UInt32.ofNat bound)),
   ("tools", unlessEmpty step.tools (.ofStrings step.tools)),
   ("fallbacks", unlessEmpty step.fallbacks (.ofStrings step.fallbacks))]

def Workflow.toValue (workflow : Workflow) : Json := .record
  [("steps", some (.array (workflow.steps.map WorkflowStep.toValue)))]

def Routing.toValue (routing : Routing) : Json := .record
  [("default_role", some (.string routing.defaultRole)),
   ("confidence_threshold", some (.number (.float { value := routing.confidenceThreshold })))]

def CostPolicy.toValue (cost : CostPolicy) : Json := .record
  [("max_session_usd_micros", some (.ofU64 cost.maxSessionUsdMicros)),
   ("max_attempt_usd_micros", cost.maxAttemptUsdMicros.map .ofU64)]

def ProviderNativeWritePolicy.toValue (policy : ProviderNativeWritePolicy) : Json := .record
  [("mode", some (.ofVariant NativeWriteMode.variants policy.mode)),
   ("allowlist", unlessEmpty policy.allowlist (.ofStrings policy.allowlist))]

def Policies.toValue (policies : Policies) : Json := .record
  [("default_tool_mode", some (.ofVariant DefaultToolMode.variants policies.defaultToolMode)),
   ("global_deny", some (.ofStrings policies.globalDeny)),
   ("production_mutations",
     some (.ofVariant ProductionMutations.variants policies.productionMutations)),
   ("cost", policies.cost.map CostPolicy.toValue),
   ("provider_native_writes",
     if policies.providerNativeWrites = {} then none
     else some policies.providerNativeWrites.toValue)]

/-- An absent retention period is written as a null. -/
def Storage.toValue (storage : Storage) : Json := .record
  [("encryption", some (.ofVariant Encryption.variants storage.encryption)),
   ("retention_days", some ((storage.retentionDays.map .ofU32).getD .null)),
   ("export_format", some (.ofVariant ExportFormat.variants storage.exportFormat))]

def ProtocolLimits.toValue (limits : ProtocolLimits) : Json := .record
  [("max_frame_bytes", some (.ofU64 limits.maxFrameBytes)),
   ("max_client_queue_events", some (.ofU64 limits.maxClientQueueEvents)),
   ("max_client_queue_bytes", some (.ofU64 limits.maxClientQueueBytes)),
   ("cancellation_deadline_ms", some (.ofU64 limits.cancellationDeadlineMs))]

/-- The configuration as it is written. -/
def WorkbenchConfiguration.toValue (config : WorkbenchConfiguration) : Json := .record
  [("version", some (.ofU32 config.version)),
   ("providers", some (.ofMap Provider.toValue config.providers)),
   ("models", some (.ofMap Model.toValue config.models)),
   ("roles", some (.ofMap Role.toValue config.roles)),
   ("tools", some (.ofMap Tool.toValue config.tools)),
   ("data_sources", some (.ofMap DataSource.toValue config.dataSources)),
   ("mcp_servers", some (.ofMap McpServer.toValue config.mcpServers)),
   ("workflows", some (.ofMap Workflow.toValue config.workflows)),
   ("routing", some config.routing.toValue),
   ("policies", some config.policies.toValue),
   ("storage", some config.storage.toValue),
   ("protocol", some config.protocol.toValue)]

/-! ## Tables -/

theorem lookup_map_values {α β : Type} (value : α → β) (name : String) :
    ∀ table : Table α,
      (table.map fun entry => (entry.1, value entry.2)).lookup name = (table.lookup name).map value
  | [] => rfl
  | (key, a) :: rest => by
    rw [List.map_cons, lookup_cons_eq_ite, lookup_cons_eq_ite, lookup_map_values value name rest]
    split <;> rfl

/-! ## Order of the members -/

@[simp] theorem Privacy.toValue_isOrdered (privacy : Privacy) : privacy.toValue.isOrdered := by
  apply isOrdered_record
  simp

theorem Provider.toValue_isOrdered (provider : Provider) : provider.toValue.isOrdered := by
  apply isOrdered_record
  simp

theorem Model.toValue_isOrdered (model : Model) : model.toValue.isOrdered := by
  apply isOrdered_record
  simp

theorem Role.toValue_isOrdered (role : Role) : role.toValue.isOrdered := by
  have hcapabilities := isOrdered_array_map role.requiredCapabilities
    fun capability _ => isOrdered_ofVariant Capability.variants capability
  apply isOrdered_record
  simp [hcapabilities]

@[simp] theorem Operation.toValue_isOrdered (operation : Operation) :
    operation.toValue.isOrdered := by
  apply isOrdered_record
  simp

theorem Tool.toValue_isOrdered (tool : Tool) : tool.toValue.isOrdered := by
  apply isOrdered_record
  simp [isOrdered_array_map]

theorem DataSource.toValue_isOrdered (source : DataSource) : source.toValue.isOrdered := by
  apply isOrdered_record
  simp

theorem McpServer.toValue_isOrdered {server : McpServer} (henv : Table.KeyOrdered server.env)
    (hheaders : Table.KeyOrdered server.headers) : server.toValue.isOrdered := by
  have henvOrdered : (ofMap string server.env).isOrdered :=
    isOrdered_ofMap henv fun _ _ => rfl
  have hheadersOrdered : (ofMap string server.headers).isOrdered :=
    isOrdered_ofMap hheaders fun _ _ => rfl
  apply isOrdered_record
  simp [unlessEmpty, henvOrdered, hheadersOrdered]

@[simp] theorem WorkflowStep.toValue_isOrdered (step : WorkflowStep) :
    step.toValue.isOrdered := by
  apply isOrdered_record
  simp [unlessEmpty]

theorem Workflow.toValue_isOrdered (workflow : Workflow) : workflow.toValue.isOrdered := by
  apply isOrdered_record
  simp [isOrdered_array_map]

@[simp] theorem Routing.toValue_isOrdered (routing : Routing) : routing.toValue.isOrdered := by
  apply isOrdered_record
  simp

@[simp] theorem CostPolicy.toValue_isOrdered (cost : CostPolicy) : cost.toValue.isOrdered := by
  apply isOrdered_record
  simp

@[simp] theorem ProviderNativeWritePolicy.toValue_isOrdered (policy : ProviderNativeWritePolicy) :
    policy.toValue.isOrdered := by
  apply isOrdered_record
  simp [unlessEmpty]

@[simp] theorem Policies.toValue_isOrdered (policies : Policies) : policies.toValue.isOrdered := by
  apply isOrdered_record
  simp

@[simp] theorem Storage.toValue_isOrdered (storage : Storage) : storage.toValue.isOrdered := by
  apply isOrdered_record
  cases storage.retentionDays <;> simp

@[simp] theorem ProtocolLimits.toValue_isOrdered (limits : ProtocolLimits) :
    limits.toValue.isOrdered := by
  apply isOrdered_record
  simp

variable {config : WorkbenchConfiguration}

/-- The members of an encoded configuration ascend at every depth. -/
theorem WorkbenchConfiguration.toValue_isOrdered (hordered : config.KeyOrdered) :
    config.toValue.isOrdered := by
  apply isOrdered_record
  have hproviders := isOrdered_ofMap hordered.providers fun entry _ => entry.2.toValue_isOrdered
  have hmodels := isOrdered_ofMap hordered.models fun entry _ => entry.2.toValue_isOrdered
  have hroles := isOrdered_ofMap hordered.roles fun entry _ => entry.2.toValue_isOrdered
  have htools := isOrdered_ofMap hordered.tools fun entry _ => entry.2.toValue_isOrdered
  have hsources := isOrdered_ofMap hordered.dataSources fun entry _ => entry.2.toValue_isOrdered
  have hservers := isOrdered_ofMap hordered.mcpServers fun entry hmem =>
    McpServer.toValue_isOrdered (hordered.env entry hmem) (hordered.headers entry hmem)
  have hworkflows := isOrdered_ofMap hordered.workflows fun entry _ => entry.2.toValue_isOrdered
  simp [hproviders, hmodels, hroles, htools, hsources, hservers, hworkflows]

/-! ## Reading -/

/-- Refuses a value that cannot hold a record with these fields. -/
def checkRecord (names : List String) (least : Nat) (value : Json) : Option Unit :=
  if value.isRecord names least then some () else none

/-- Reads each record; an unknown member refuses it. -/
def Privacy.fromValue (value : Json) : Option Privacy := do
  checkRecord ["zero_data_retention", "data_collection"] 2 value
  let zeroDataRetention ← value.required asBool "zero_data_retention" 0
  let dataCollection ← value.required (asVariant DataCollection.variants) "data_collection" 1
  return { zeroDataRetention, dataCollection }

def Provider.fromValue (value : Json) : Option Provider := do
  checkRecord ["type", "driver", "executable", "credential_ref", "privacy", "base_url"] 6 value
  let kind ← value.required (asVariant ProviderType.variants) "type" 0
  let driver ← value.optional (asVariant ProviderDriver.variants) "driver" 1
  let executable ← value.optional asString "executable" 2
  let credentialRef ← value.optional asString "credential_ref" 3
  let privacy ← value.optional Privacy.fromValue "privacy" 4
  let baseUrl ← value.optional asString "base_url" 5
  return { kind, driver, executable, credentialRef, privacy, baseUrl }

def Model.fromValue (value : Json) : Option Model := do
  checkRecord ["provider", "runtime_model"] 2 value
  let provider ← value.required asString "provider" 0
  let runtimeModel ← value.required asString "runtime_model" 1
  return { provider, runtimeModel }

def Role.fromValue (value : Json) : Option Role := do
  checkRecord ["model", "tools", "data_sources", "required_capabilities", "fallback_models"] 1 value
  let model ← value.required asString "model" 0
  let tools ← value.defaulted (asList asString) "tools" 1 []
  let dataSources ← value.defaulted (asList asString) "data_sources" 2 []
  let requiredCapabilities ← value.defaulted
    (asList (asVariant Capability.variants)) "required_capabilities" 3 []
  let fallbackModels ← value.defaulted (asList asString) "fallback_models" 4 []
  return { model, tools, dataSources, requiredCapabilities, fallbackModels }

def Operation.fromValue (value : Json) : Option Operation := do
  checkRecord ["name", "effect_class", "idempotent", "material_cost", "approval"] 5 value
  let name ← value.required asString "name" 0
  let effectClass ← value.required (asVariant EffectClass.variants) "effect_class" 1
  let idempotent ← value.required asBool "idempotent" 2
  let materialCost ← value.required asBool "material_cost" 3
  let approval ← value.required (asVariant ApprovalMode.variants) "approval" 4
  return { name, effectClass, idempotent, materialCost, approval }

def Tool.fromValue (value : Json) : Option Tool := do
  checkRecord ["kind", "mcp_server", "operations"] 3 value
  let kind ← value.required (asVariant ToolKind.variants) "kind" 0
  let mcpServer ← value.optional asString "mcp_server" 1
  let operations ← value.required (asList Operation.fromValue) "operations" 2
  return { kind, mcpServer, operations }

def DataSource.fromValue (value : Json) : Option DataSource := do
  checkRecord ["tool", "operation"] 2 value
  let tool ← value.required asString "tool" 0
  let operation ← value.required asString "operation" 1
  return { tool, operation }

def McpServer.fromValue (value : Json) : Option McpServer := do
  checkRecord ["transport", "version", "sha256", "executable", "args", "env", "url", "headers",
    "max_response_bytes"] 9 value
  let transport ← value.required (asVariant McpTransport.variants) "transport" 0
  let version ← value.required asString "version" 1
  let sha256 ← value.required asString "sha256" 2
  let executable ← value.optional asString "executable" 3
  let args ← value.defaulted (asList asString) "args" 4 []
  let env ← value.defaulted (asMap asString) "env" 5 []
  let url ← value.optional asString "url" 6
  let headers ← value.defaulted (asMap asString) "headers" 7 []
  let maxResponseBytes ← value.optional asU64 "max_response_bytes" 8
  return { transport, version, sha256, executable, args, env, url, headers, maxResponseBytes }

def WorkflowStep.fromValue (value : Json) : Option WorkflowStep := do
  checkRecord ["id", "role", "on_findings", "max_iterations", "tools", "fallbacks"] 4 value
  let id ← value.required asString "id" 0
  let role ← value.required asString "role" 1
  let onFindings ← value.optional asString "on_findings" 2
  let maxIterations ← value.optional asU32 "max_iterations" 3
  let tools ← value.defaulted (asList asString) "tools" 4 []
  let fallbacks ← value.defaulted (asList asString) "fallbacks" 5 []
  return { id, role, onFindings, maxIterations := maxIterations.map UInt32.toNat, tools, fallbacks }

def Workflow.fromValue (value : Json) : Option Workflow := do
  checkRecord ["steps"] 1 value
  let steps ← value.required (asList WorkflowStep.fromValue) "steps" 0
  return { steps }

def Routing.fromValue (value : Json) : Option Routing := do
  checkRecord ["default_role", "confidence_threshold"] 2 value
  let defaultRole ← value.required asString "default_role" 0
  let confidenceThreshold ← value.required asF64 "confidence_threshold" 1
  return { defaultRole, confidenceThreshold }

def CostPolicy.fromValue (value : Json) : Option CostPolicy := do
  checkRecord ["max_session_usd_micros", "max_attempt_usd_micros"] 1 value
  let maxSessionUsdMicros ← value.required asU64 "max_session_usd_micros" 0
  let maxAttemptUsdMicros ← value.optional asU64 "max_attempt_usd_micros" 1
  return { maxSessionUsdMicros, maxAttemptUsdMicros }

def ProviderNativeWritePolicy.fromValue (value : Json) : Option ProviderNativeWritePolicy := do
  checkRecord ["mode", "allowlist"] 0 value
  let mode ← value.defaulted (asVariant NativeWriteMode.variants) "mode" 0 .disabled
  let allowlist ← value.defaulted (asList asString) "allowlist" 1 []
  return { mode, allowlist }

def Policies.fromValue (value : Json) : Option Policies := do
  checkRecord ["default_tool_mode", "global_deny", "production_mutations", "cost",
    "provider_native_writes"] 3 value
  let defaultToolMode ← value.required (asVariant DefaultToolMode.variants)
    "default_tool_mode" 0
  let globalDeny ← value.required (asList asString) "global_deny" 1
  let productionMutations ← value.required (asVariant ProductionMutations.variants)
    "production_mutations" 2
  let cost ← value.optional CostPolicy.fromValue "cost" 3
  let providerNativeWrites ← value.defaulted ProviderNativeWritePolicy.fromValue
    "provider_native_writes" 4 {}
  return { defaultToolMode, globalDeny, productionMutations, cost, providerNativeWrites }

def Storage.fromValue (value : Json) : Option Storage := do
  checkRecord ["encryption", "retention_days", "export_format"] 3 value
  let encryption ← value.required (asVariant Encryption.variants) "encryption" 0
  let retentionDays ← value.optional asU32 "retention_days" 1
  let exportFormat ← value.required (asVariant ExportFormat.variants) "export_format" 2
  return { encryption, retentionDays, exportFormat }

def ProtocolLimits.fromValue (value : Json) : Option ProtocolLimits := do
  checkRecord ["max_frame_bytes", "max_client_queue_events", "max_client_queue_bytes",
    "cancellation_deadline_ms"] 4 value
  let maxFrameBytes ← value.required asU64 "max_frame_bytes" 0
  let maxClientQueueEvents ← value.required asU64 "max_client_queue_events" 1
  let maxClientQueueBytes ← value.required asU64 "max_client_queue_bytes" 2
  let cancellationDeadlineMs ← value.required asU64 "cancellation_deadline_ms" 3
  return { maxFrameBytes, maxClientQueueEvents, maxClientQueueBytes, cancellationDeadlineMs }

/-- Reads a configuration. -/
def WorkbenchConfiguration.fromValue (value : Json) : Option WorkbenchConfiguration := do
  checkRecord ["version", "providers", "models", "roles", "tools", "data_sources", "mcp_servers",
    "workflows", "routing", "policies", "storage", "protocol"] 12 value
  let version ← value.required asU32 "version" 0
  let providers ← value.required (asMap Provider.fromValue) "providers" 1
  let models ← value.required (asMap Model.fromValue) "models" 2
  let roles ← value.required (asMap Role.fromValue) "roles" 3
  let tools ← value.required (asMap Tool.fromValue) "tools" 4
  let dataSources ← value.required (asMap DataSource.fromValue) "data_sources" 5
  let mcpServers ← value.required (asMap McpServer.fromValue) "mcp_servers" 6
  let workflows ← value.required (asMap Workflow.fromValue) "workflows" 7
  let routing ← value.required Routing.fromValue "routing" 8
  let policies ← value.required Policies.fromValue "policies" 9
  let storage ← value.required Storage.fromValue "storage" 10
  let protocol ← value.required ProtocolLimits.fromValue "protocol" 11
  return { version, providers, models, roles, tools, dataSources, mcpServers, workflows,
           routing, policies, storage, protocol }

/-! ## Reading a variant back -/

@[simp] theorem ProviderType.readsBack : ReadsBack ProviderType.variants := by
  rintro ⟨⟩ <;> rfl

@[simp] theorem ProviderDriver.readsBack : ReadsBack ProviderDriver.variants := by
  rintro ⟨⟩ <;> rfl

@[simp] theorem DataCollection.readsBack : ReadsBack DataCollection.variants := by
  rintro ⟨⟩ <;> rfl

@[simp] theorem Capability.readsBack : ReadsBack Capability.variants := by
  rintro ⟨⟩ <;> rfl

@[simp] theorem EffectClass.readsBack : ReadsBack EffectClass.variants := by
  rintro ⟨⟩ <;> rfl

@[simp] theorem ApprovalMode.readsBack : ReadsBack ApprovalMode.variants := by
  rintro ⟨⟩ <;> rfl

@[simp] theorem ToolKind.readsBack : ReadsBack ToolKind.variants := by
  rintro ⟨⟩ <;> rfl

@[simp] theorem McpTransport.readsBack : ReadsBack McpTransport.variants := by
  rintro ⟨⟩ <;> rfl

@[simp] theorem DefaultToolMode.readsBack : ReadsBack DefaultToolMode.variants := by
  rintro ⟨⟩ <;> rfl

@[simp] theorem ProductionMutations.readsBack : ReadsBack ProductionMutations.variants := by
  rintro ⟨⟩
  rfl

@[simp] theorem NativeWriteMode.readsBack : ReadsBack NativeWriteMode.variants := by
  rintro ⟨⟩ <;> rfl

@[simp] theorem Encryption.readsBack : ReadsBack Encryption.variants := by
  rintro ⟨⟩
  rfl

@[simp] theorem ExportFormat.readsBack : ReadsBack ExportFormat.variants := by
  rintro ⟨⟩
  rfl

/-! ## Reading a record back -/

theorem checkRecord_record {names : List String} {least : Nat}
    {fields : List (String × Option Json)}
    (hnames : (fields.map (·.1)).all names.contains) :
    checkRecord names least (.record fields) = some () := by
  rw [checkRecord, if_pos (isRecord_record (by simpa using hnames))]

section

attribute [local simp] checkRecord_record required Json.optional defaulted
  member_record_cons

@[simp] theorem readDefault_unlessEmpty_strings (texts : List String) :
    readDefault (asList asString) [] (unlessEmpty texts (.ofStrings texts))
      = some texts := by
  cases texts with
  | nil => rfl
  | cons text texts => exact asList_ofStrings _

@[simp] theorem readDefault_unlessEmpty_map (table : Table String) :
    readDefault (asMap asString) [] (unlessEmpty table (.ofMap .string table))
      = some table := by
  cases table with
  | nil => rfl
  | cons entry table => exact asMap_ofMap fun _ _ => rfl

theorem Privacy.fromValue_toValue (privacy : Privacy) :
    Privacy.fromValue privacy.toValue = some privacy := by
  simp [Privacy.fromValue, Privacy.toValue]

theorem Provider.fromValue_toValue (provider : Provider) :
    Provider.fromValue provider.toValue = some provider := by
  have hdriver : readOptional (asVariant ProviderDriver.variants)
      (provider.driver.map (.ofVariant ProviderDriver.variants)) = some provider.driver :=
    readOptional_map (fun _ => by simp) fun _ => string_ne_null _
  have hprivacy : readOptional Privacy.fromValue (provider.privacy.map Privacy.toValue)
      = some provider.privacy :=
    readOptional_map Privacy.fromValue_toValue fun _ => object_ne_null _
  simp [Provider.fromValue, Provider.toValue, hdriver, hprivacy]

theorem Model.fromValue_toValue (model : Model) : Model.fromValue model.toValue = some model := by
  simp [Model.fromValue, Model.toValue]

theorem Role.fromValue_toValue (role : Role) : Role.fromValue role.toValue = some role := by
  have hcapabilities : asList (asVariant Capability.variants)
      (.array (role.requiredCapabilities.map (.ofVariant Capability.variants)))
        = some role.requiredCapabilities :=
    asList_array_map fun _ _ => by simp
  simp [Role.fromValue, Role.toValue, hcapabilities]

theorem Operation.fromValue_toValue (operation : Operation) :
    Operation.fromValue operation.toValue = some operation := by
  simp [Operation.fromValue, Operation.toValue]

theorem Tool.fromValue_toValue (tool : Tool) : Tool.fromValue tool.toValue = some tool := by
  have hoperations : asList Operation.fromValue
      (.array (tool.operations.map Operation.toValue)) = some tool.operations :=
    asList_array_map fun operation _ => operation.fromValue_toValue
  simp [Tool.fromValue, Tool.toValue, hoperations]

theorem DataSource.fromValue_toValue (source : DataSource) :
    DataSource.fromValue source.toValue = some source := by
  simp [DataSource.fromValue, DataSource.toValue]

theorem McpServer.fromValue_toValue (server : McpServer) :
    McpServer.fromValue server.toValue = some server := by
  simp [McpServer.fromValue, McpServer.toValue]

/-- A bound below `2^32` is read back; validation admits none above 8. -/
theorem WorkflowStep.fromValue_toValue {step : WorkflowStep}
    (hbound : ∀ bound, step.maxIterations = some bound → bound < 2 ^ 32) :
    WorkflowStep.fromValue step.toValue = some step := by
  have hiterations : readOptional asU32
      (step.maxIterations.map fun bound => .ofU32 (UInt32.ofNat bound))
        = some (step.maxIterations.map UInt32.ofNat) := by
    have hread := @readOptional_map _ asU32 ofU32
      (step.maxIterations.map UInt32.ofNat) asU32_ofU32 fun _ => number_ne_null _
    rwa [Option.map_map] at hread
  have hback : (step.maxIterations.map UInt32.ofNat).map UInt32.toNat = step.maxIterations := by
    cases hstep : step.maxIterations with
    | none => rfl
    | some bound =>
      rw [Option.map_some, Option.map_some, UInt32.toNat_ofNat_of_lt' (hbound bound hstep)]
  simp [WorkflowStep.fromValue, WorkflowStep.toValue, hiterations, hback]

theorem Workflow.fromValue_toValue {workflow : Workflow}
    (hbound : ∀ step ∈ workflow.steps, ∀ bound, step.maxIterations = some bound → bound < 2 ^ 32) :
    Workflow.fromValue workflow.toValue = some workflow := by
  have hsteps := asList_array_map fun step hmem => WorkflowStep.fromValue_toValue (hbound step hmem)
  simp [Workflow.fromValue, Workflow.toValue, hsteps]

@[simp] theorem Routing.fromValue_toValue (routing : Routing) :
    Routing.fromValue routing.toValue = some routing := by
  simp [Routing.fromValue, Routing.toValue, asF64]

theorem CostPolicy.fromValue_toValue (cost : CostPolicy) :
    CostPolicy.fromValue cost.toValue = some cost := by
  simp [CostPolicy.fromValue, CostPolicy.toValue]

theorem ProviderNativeWritePolicy.fromValue_toValue (policy : ProviderNativeWritePolicy) :
    ProviderNativeWritePolicy.fromValue policy.toValue = some policy := by
  simp [ProviderNativeWritePolicy.fromValue, ProviderNativeWritePolicy.toValue]

@[simp] theorem Policies.fromValue_toValue (policies : Policies) :
    Policies.fromValue policies.toValue = some policies := by
  have hcost : readOptional CostPolicy.fromValue (policies.cost.map CostPolicy.toValue)
      = some policies.cost :=
    readOptional_map CostPolicy.fromValue_toValue fun _ => object_ne_null _
  have hwrites : readDefault ProviderNativeWritePolicy.fromValue {}
      (if policies.providerNativeWrites = {} then none
        else some policies.providerNativeWrites.toValue) = some policies.providerNativeWrites := by
    split
    · rename_i hdefault
      rw [hdefault, readDefault_none]
    · exact ProviderNativeWritePolicy.fromValue_toValue _
  simp [Policies.fromValue, Policies.toValue, hcost, hwrites]

@[simp] theorem Storage.fromValue_toValue (storage : Storage) :
    Storage.fromValue storage.toValue = some storage := by
  have hretention : readOptional asU32
      (some ((storage.retentionDays.map .ofU32).getD .null)) = some storage.retentionDays := by
    cases storage.retentionDays with
    | none => rfl
    | some days =>
      exact @readOptional_map _ asU32 ofU32 (some days) asU32_ofU32 fun _ => number_ne_null _
  simp [Storage.fromValue, Storage.toValue, hretention]

@[simp] theorem ProtocolLimits.fromValue_toValue (limits : ProtocolLimits) :
    ProtocolLimits.fromValue limits.toValue = some limits := by
  simp [ProtocolLimits.fromValue, ProtocolLimits.toValue]

theorem WorkbenchConfiguration.fromValue_toValue
    (hbound : ∀ entry ∈ config.workflows, ∀ step ∈ entry.2.steps, ∀ bound,
      step.maxIterations = some bound → bound < 2 ^ 32) :
    WorkbenchConfiguration.fromValue config.toValue = some config := by
  have hproviders := @asMap_ofMap _ _ _ config.providers fun entry _ => entry.2.fromValue_toValue
  have hmodels := @asMap_ofMap _ _ _ config.models fun entry _ => entry.2.fromValue_toValue
  have hroles := @asMap_ofMap _ _ _ config.roles fun entry _ => entry.2.fromValue_toValue
  have htools := @asMap_ofMap _ _ _ config.tools fun entry _ => entry.2.fromValue_toValue
  have hsources := @asMap_ofMap _ _ _ config.dataSources fun entry _ => entry.2.fromValue_toValue
  have hservers := @asMap_ofMap _ _ _ config.mcpServers fun entry _ => entry.2.fromValue_toValue
  have hworkflows := @asMap_ofMap _ _ _ config.workflows fun entry hmem =>
    Workflow.fromValue_toValue (hbound entry hmem)
  simp [WorkbenchConfiguration.fromValue, WorkbenchConfiguration.toValue, hproviders, hmodels,
    hroles, htools, hsources, hservers, hworkflows]

end

/-- The fields of a decoded configuration, each with the value it was decoded from. -/
structure ConfigurationDecoded (value : Json) (config : WorkbenchConfiguration) : Prop where
  providers : (value.field "providers" 1).bind (asMap Provider.fromValue)
    = some config.providers
  models : (value.field "models" 2).bind (asMap Model.fromValue) = some config.models
  roles : (value.field "roles" 3).bind (asMap Role.fromValue) = some config.roles
  tools : (value.field "tools" 4).bind (asMap Tool.fromValue) = some config.tools
  dataSources : (value.field "data_sources" 5).bind (asMap DataSource.fromValue)
    = some config.dataSources
  mcpServers : (value.field "mcp_servers" 6).bind (asMap McpServer.fromValue)
    = some config.mcpServers
  workflows : (value.field "workflows" 7).bind (asMap Workflow.fromValue)
    = some config.workflows
  policies : (value.field "policies" 9).bind Policies.fromValue = some config.policies

theorem configuration_decoded {value : Json}
    (h : WorkbenchConfiguration.fromValue value = some config) :
    ConfigurationDecoded value config := by
  simp only [WorkbenchConfiguration.fromValue, Option.bind_eq_bind, Option.bind_eq_some_iff,
    Option.pure_def] at h
  obtain ⟨_, _, _, _, providers, hproviders, models, hmodels, roles, hroles, tools, htools,
    sources, hsources, servers, hservers, workflows, hworkflows, _, _, policies, hpolicies,
    _, _, _, _, heq⟩ := h
  cases heq
  exact ⟨hproviders, hmodels, hroles, htools, hsources, hservers, hworkflows, hpolicies⟩

end Workbench.Config
