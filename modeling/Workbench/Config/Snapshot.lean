import Workbench.Config.Encoding
import Workbench.Library.JsonText

/-!
# Config: redacted snapshots

A session stores a snapshot of its configuration in which every value under one
of six keys is replaced by a marker, at any depth, and a hash of the text of the
snapshot.  The keys are names of fields, but a table of the configuration is an
object as well, so an entry of a table may have such a name too.
-/

namespace Workbench.Config

open Library Json List Function

/-! ## Redaction -/

/-- The fields that may hold secrets. -/
def redactedKeys : List String :=
  ["credential_ref", "executable", "url", "env", "headers", "args"]

def isRedacted (key : String) : Bool := redactedKeys.contains key

/-- What stands for a redacted value. -/
def redactionMarker : String := "[redacted]"

mutual

/-- Redacts below a value whose own key is not one of the six. -/
def redact : Json → Json
  | .object members => .object (redactMembers members)
  | .array items => .array (redactItems items)
  | value => value
  termination_by structural value => value

def redactItems : List Json → List Json
  | [] => []
  | value :: rest => redact value :: redactItems rest
  termination_by structural items => items

def redactMembers : List (String × Json) → List (String × Json)
  | [] => []
  | (key, value) :: rest =>
    (key, if isRedacted key then .string redactionMarker else redact value) :: redactMembers rest
  termination_by structural members => members

end

/-- The redacted value of a member. -/
def redactUnder (key : String) (value : Json) : Json :=
  if isRedacted key then .string redactionMarker else redact value

/-- A redacted configuration with its hash. -/
structure ConfigurationSnapshot where
  schemaVersion : UInt32
  sources : List String
  contentHash : String
  configuration : Json

section

variable (format : FloatFormat) (blake3 : String → String)

/-- The content hash, over the redacted text. -/
def configurationHash (config : WorkbenchConfiguration) : String :=
  blake3 ((redact config.toValue).toText format)

def ConfigurationSnapshot.create (config : WorkbenchConfiguration) (sources : List String) :
    ConfigurationSnapshot where
  schemaVersion := 1
  sources := sources
  contentHash := configurationHash format blake3 config
  configuration := redact config.toValue

end

/-! ## Redaction of records, lists and maps -/

theorem redactMembers_insertMember (key : String) (value : Json) (members : List (String × Json)) :
    redactMembers (insertMember key value members)
      = insertMember key (redactUnder key value) (redactMembers members) := by
  induction members with
  | nil => rfl
  | cons entry rest ih =>
    simp only [insertMember, redactMembers]
    split
    · rfl
    · split
      · rfl
      · rw [redactMembers, ih]

theorem redact_record (fields : List (String × Option Json)) :
    redact (.record fields)
      = .record (fields.map fun field => (field.1, field.2.map (redactUnder field.1))) := by
  suffices h : redactMembers (recordMembers fields)
      = recordMembers (fields.map fun field => (field.1, field.2.map (redactUnder field.1)))
    by rw [record, redact, h, record]
  induction fields with
  | nil => rfl
  | cons field fields ih =>
    obtain ⟨name, value⟩ := field
    cases value with
    | none => exact ih
    | some value =>
      rw [recordMembers, redactMembers_insertMember, ih]
      rfl

theorem redactItems_eq_map (items : List Json) : redactItems items = items.map redact := by
  induction items with
  | nil => rfl
  | cons value rest ih => rw [redactItems, ih, map_cons]

theorem redactMembers_eq_map (members : List (String × Json)) :
    redactMembers members = members.map fun entry => (entry.1, redactUnder entry.1 entry.2) := by
  induction members with
  | nil => rfl
  | cons entry rest ih =>
    rw [redactMembers, ih, map_cons]
    rfl

variable {α : Type} {server : McpServer} {encode : α → Json} {table : Table α}
  {config : WorkbenchConfiguration}

theorem redact_ofMap (encode : α → Json) (entries : List (String × α)) :
    redact (.ofMap encode entries)
      = .object (entries.map fun entry => (entry.1, redactUnder entry.1 (encode entry.2))) := by
  simp only [ofMap, redact, redactMembers_eq_map, map_map]
  rfl

theorem redact_array_map (encode : α → Json) (items : List α) :
    redact (.array (items.map encode)) = .array (items.map fun item => redact (encode item)) := by
  simp only [redact, redactItems_eq_map, map_map]
  rfl

@[simp] theorem redact_string (s : String) : redact (.string s) = .string s := rfl

@[simp] theorem redact_bool (b : Bool) : redact (.bool b) = .bool b := rfl

@[simp] theorem redact_number (n : JsonNumber) : redact (.number n) = .number n := rfl

@[simp] theorem redact_null : redact .null = .null := rfl

@[simp] theorem redact_ofU64 (n : UInt64) : redact (.ofU64 n) = .ofU64 n := rfl

@[simp] theorem redact_ofU32 (n : UInt32) : redact (.ofU32 n) = .ofU32 n := rfl

@[simp] theorem redact_ofVariant {α : Type} [DecidableEq α] (variants : List (String × α))
    (value : α) : redact (.ofVariant variants value) = .ofVariant variants value := rfl

@[simp] theorem redact_ofStrings (texts : List String) :
    redact (.ofStrings texts) = .ofStrings texts :=
  redact_array_map string texts

theorem redact_record_of_plain {fields : List (String × Option Json)}
    (hkeys : (fields.map (·.1)).any isRedacted = false) :
    redact (.record fields)
      = .record (fields.map fun field => (field.1, field.2.map redact)) := by
  have hplain : ∀ field ∈ fields, isRedacted field.1 = false := by
    simpa using hkeys
  rw [redact_record]
  congr 1
  apply map_congr_left
  intro field hmem
  congr 2
  funext value
  simp [redactUnder, hplain field hmem]

/-! ## What redaction leaves of a configuration -/

/-- The secret-bearing values of a provider are its executable and its credential. -/
def Provider.redacted (provider : Provider) : Provider :=
  { provider with
    executable := provider.executable.map fun _ => redactionMarker
    credentialRef := provider.credentialRef.map fun _ => redactionMarker }

/-- The values of a table, all replaced by the marker. -/
def markTable (table : Table String) : Table String :=
  table.map fun entry => (entry.1, redactionMarker)

/-- The secret-bearing values of an MCP server are those of its launch and of its endpoint. -/
def McpServer.redacted (server : McpServer) : McpServer :=
  { server with
    executable := server.executable.map fun _ => redactionMarker
    args := server.args.map fun _ => redactionMarker
    env := markTable server.env
    url := server.url.map fun _ => redactionMarker
    headers := markTable server.headers }

/-- The configuration with every secret-bearing leaf value replaced by the marker. -/
def WorkbenchConfiguration.redacted (config : WorkbenchConfiguration) : WorkbenchConfiguration :=
  { config with
    providers := config.providers.map fun entry => (entry.1, entry.2.redacted)
    mcpServers := config.mcpServers.map fun entry => (entry.1, entry.2.redacted) }

/-! ## Redaction before and after encoding -/

theorem Privacy.redact_toValue (privacy : Privacy) : redact privacy.toValue = privacy.toValue := by
  rw [Privacy.toValue, redact_record_of_plain rfl]
  simp

theorem Provider.redact_toValue (provider : Provider) :
    redact provider.toValue = provider.redacted.toValue := by
  rw [Provider.toValue, redact_record, Provider.toValue]
  simp [Provider.redacted, comp_def, redactUnder, isRedacted, redactedKeys, Privacy.redact_toValue]

theorem Model.redact_toValue (model : Model) : redact model.toValue = model.toValue := by
  rw [Model.toValue, redact_record_of_plain rfl]
  simp

theorem Role.redact_toValue (role : Role) : redact role.toValue = role.toValue := by
  rw [Role.toValue, redact_record_of_plain rfl]
  simp [redact_array_map]

theorem Operation.redact_toValue (operation : Operation) :
    redact operation.toValue = operation.toValue := by
  rw [Operation.toValue, redact_record_of_plain rfl]
  simp

theorem Tool.redact_toValue (tool : Tool) : redact tool.toValue = tool.toValue := by
  rw [Tool.toValue, redact_record_of_plain rfl]
  simp [redact_array_map, Operation.redact_toValue, comp_def]

theorem DataSource.redact_toValue (source : DataSource) :
    redact source.toValue = source.toValue := by
  rw [DataSource.toValue, redact_record_of_plain rfl]
  simp

theorem McpServer.redact_toValue (hargs : server.args = []) (henv : server.env = [])
    (hheaders : server.headers = []) : redact server.toValue = server.redacted.toValue := by
  rw [McpServer.toValue, redact_record, McpServer.toValue]
  simp [McpServer.redacted, comp_def, redactUnder, isRedacted, redactedKeys, hargs, henv,
    hheaders, unlessEmpty, markTable]

theorem WorkflowStep.redact_toValue (step : WorkflowStep) : redact step.toValue = step.toValue := by
  rw [WorkflowStep.toValue, redact_record_of_plain rfl]
  simp [comp_def, unlessEmpty, apply_ite]

theorem Workflow.redact_toValue (workflow : Workflow) :
    redact workflow.toValue = workflow.toValue := by
  rw [Workflow.toValue, redact_record_of_plain rfl]
  simp [redact_array_map, WorkflowStep.redact_toValue]

theorem Routing.redact_toValue (routing : Routing) : redact routing.toValue = routing.toValue := by
  rw [Routing.toValue, redact_record_of_plain rfl]
  simp

theorem CostPolicy.redact_toValue (cost : CostPolicy) : redact cost.toValue = cost.toValue := by
  rw [CostPolicy.toValue, redact_record_of_plain rfl]
  simp [comp_def]

theorem ProviderNativeWritePolicy.redact_toValue (policy : ProviderNativeWritePolicy) :
    redact policy.toValue = policy.toValue := by
  rw [ProviderNativeWritePolicy.toValue, redact_record_of_plain rfl]
  simp [unlessEmpty, apply_ite]

theorem Policies.redact_toValue (policies : Policies) :
    redact policies.toValue = policies.toValue := by
  rw [Policies.toValue, redact_record_of_plain rfl]
  simp [comp_def, CostPolicy.redact_toValue, ProviderNativeWritePolicy.redact_toValue, apply_ite]

theorem Storage.redact_toValue (storage : Storage) : redact storage.toValue = storage.toValue := by
  rw [Storage.toValue, redact_record_of_plain rfl]
  cases storage.retentionDays <;> simp

theorem ProtocolLimits.redact_toValue (limits : ProtocolLimits) :
    redact limits.toValue = limits.toValue := by
  rw [ProtocolLimits.toValue, redact_record_of_plain rfl]
  simp

/-! ## Tables with reserved names -/

/-- No entry of the table has the name of a redacted field. -/
def Table.Unreserved {α : Type} (table : Table α) : Prop :=
  ∀ entry ∈ table, isRedacted entry.1 = false

/-- No entry is named like a redacted field; no server has arguments, variables or headers. -/
structure WorkbenchConfiguration.SnapshotSafe (config : WorkbenchConfiguration) : Prop where
  providers : config.providers.Unreserved
  models : config.models.Unreserved
  roles : config.roles.Unreserved
  tools : config.tools.Unreserved
  dataSources : config.dataSources.Unreserved
  mcpServers : config.mcpServers.Unreserved
  workflows : config.workflows.Unreserved
  serverFields : ∀ entry ∈ config.mcpServers,
    entry.2.args = [] ∧ entry.2.env = [] ∧ entry.2.headers = []

theorem redact_ofMap_of_unreserved {redacted : α → α} (htable : table.Unreserved)
    (hentry : ∀ entry ∈ table, redact (encode entry.2) = encode (redacted entry.2)) :
    redact (.ofMap encode table)
      = .ofMap encode (table.map fun entry => (entry.1, redacted entry.2)) := by
  rw [redact_ofMap, ofMap, map_map]
  congr 1
  apply map_congr_left
  intro entry hmem
  simp [redactUnder, htable entry hmem, hentry entry hmem]

theorem redact_ofMap_eq_self (htable : table.Unreserved)
    (hentry : ∀ value, redact (encode value) = encode value) :
    redact (.ofMap encode table) = .ofMap encode table := by
  have h := @redact_ofMap_of_unreserved α encode table id htable fun entry _ => hentry entry.2
  simpa using h

/-- Redacting the encoding of such a configuration redacts its secret-bearing leaves. -/
theorem WorkbenchConfiguration.redact_toValue (hsafe : config.SnapshotSafe) :
    redact config.toValue = config.redacted.toValue := by
  have hproviders := redact_ofMap_of_unreserved hsafe.providers
    fun entry _ => entry.2.redact_toValue
  have hservers := redact_ofMap_of_unreserved hsafe.mcpServers fun entry hmem =>
    McpServer.redact_toValue (hsafe.serverFields entry hmem).1
      (hsafe.serverFields entry hmem).2.1 (hsafe.serverFields entry hmem).2.2
  rw [WorkbenchConfiguration.toValue, redact_record_of_plain rfl, WorkbenchConfiguration.toValue]
  simp [hproviders, hservers, redact_ofMap_eq_self hsafe.models Model.redact_toValue,
    redact_ofMap_eq_self hsafe.roles Role.redact_toValue,
    redact_ofMap_eq_self hsafe.tools Tool.redact_toValue,
    redact_ofMap_eq_self hsafe.dataSources DataSource.redact_toValue,
    redact_ofMap_eq_self hsafe.workflows Workflow.redact_toValue, Routing.redact_toValue,
    Policies.redact_toValue, Storage.redact_toValue, ProtocolLimits.redact_toValue,
    WorkbenchConfiguration.redacted]

/-- Validation bounds the iterations of every step. -/
theorem WorkbenchConfiguration.iterations_lt (hvalid : validate config = .ok ())
    {entry : String × Workflow} (hmem : entry ∈ config.workflows) {step : WorkflowStep}
    (hstep : step ∈ entry.2.steps) {bound : Nat} (hbound : step.maxIterations = some bound) :
    bound < 2 ^ 32 := by
  have hworkflow := validateWorkflows_sound (validate_workflows hvalid)
    (show (entry.1, entry.2) ∈ config.workflows from hmem)
  have hrange := hworkflow.boundOk step hstep bound hbound
  omega

/-- The snapshot of such a configuration reads back with its leaves redacted. -/
theorem WorkbenchConfiguration.fromValue_redact (hvalid : validate config = .ok ())
    (hsafe : config.SnapshotSafe) :
    WorkbenchConfiguration.fromValue (redact config.toValue) = some config.redacted := by
  rw [config.redact_toValue hsafe]
  apply WorkbenchConfiguration.fromValue_toValue
  intro entry hmem step hstep bound hbound
  exact WorkbenchConfiguration.iterations_lt hvalid hmem hstep hbound

variable {decode : Json → Option α}

/-- A table whose redacted encoding reads back has no reserved names. -/
theorem unreserved_of_asMap
    (hmarker : decode (.string redactionMarker) = none) {result : List (String × α)}
    (h : asMap decode (redact (.ofMap encode table)) = some result) :
    table.Unreserved ∧ ∀ entry ∈ table, ∃ value, decode (redact (encode entry.2)) = some value := by
  rw [redact_ofMap, asMap] at h
  induction table generalizing result with
  | nil => exact ⟨forall_mem_nil _, forall_mem_nil _⟩
  | cons entry table ih =>
    simp only [map_cons, decodeMembers, Option.bind_eq_bind, Option.bind_eq_some_iff,
      Option.pure_def] at h
    obtain ⟨head, hhead, tail, htail, _⟩ := h
    obtain ⟨htable, hread⟩ := ih htail
    have hname : isRedacted entry.1 = false := by
      cases hkey : isRedacted entry.1 with
      | false => rfl
      | true =>
        rw [redactUnder, hkey, if_pos rfl, hmarker] at hhead
        cases hhead
    rw [redactUnder, hname] at hhead
    exact ⟨forall_mem_cons.mpr ⟨hname, htable⟩, forall_mem_cons.mpr ⟨⟨head, hhead⟩, hread⟩⟩

/-- The value of a field that is skipped when empty and redacted otherwise. -/
def markUnlessEmpty {α : Type} (items : List α) : Option Json :=
  unlessEmpty items (.string redactionMarker)

theorem map_redactUnder_unlessEmpty (items : List α) (value : Json) {key : String}
    (hkey : isRedacted key) :
    (unlessEmpty items value).map (redactUnder key) = markUnlessEmpty items := by
  cases items with
  | nil => rfl
  | cons item items => simp [unlessEmpty, markUnlessEmpty, redactUnder, hkey]

theorem McpServer.lists_redacted (server : McpServer) :
    (redact server.toValue).field "args" 4 = markUnlessEmpty server.args ∧
    (redact server.toValue).field "env" 5 = markUnlessEmpty server.env ∧
    (redact server.toValue).field "headers" 7 = markUnlessEmpty server.headers := by
  rw [McpServer.toValue, redact_record]
  simp [member_record_cons, map_redactUnder_unlessEmpty, isRedacted, redactedKeys]

theorem eq_nil_of_readDefault {β : Type} {default value : α}
    (hmarker : decode (.string redactionMarker) = none) {items : List β}
    (h : readDefault decode default (markUnlessEmpty items) = some value) : items = [] := by
  cases items with
  | nil => rfl
  | cons item items =>
    rw [markUnlessEmpty, unlessEmpty, if_neg (by simp), readDefault_some, hmarker] at h
    cases h

/-- Only a server without arguments, variables and headers reads back. -/
theorem McpServer.fields_of_fromValue {result : McpServer}
    (h : McpServer.fromValue (redact server.toValue) = some result) :
    server.args = [] ∧ server.env = [] ∧ server.headers = [] := by
  simp only [McpServer.fromValue, Option.bind_eq_bind, Option.bind_eq_some_iff,
    Option.pure_def] at h
  obtain ⟨_, _, _, _, _, _, _, _, _, _, args, hargs, env, henv, _, _, headers, hheaders, -⟩ := h
  obtain ⟨hargsField, henvField, hheadersField⟩ := server.lists_redacted
  rw [defaulted, hargsField] at hargs
  rw [defaulted, henvField] at henv
  rw [defaulted, hheadersField] at hheaders
  exact ⟨eq_nil_of_readDefault rfl hargs, eq_nil_of_readDefault rfl henv,
    eq_nil_of_readDefault rfl hheaders⟩

theorem WorkbenchConfiguration.tables_redacted (config : WorkbenchConfiguration) :
    (redact config.toValue).field "providers" 1
      = some (redact (.ofMap Provider.toValue config.providers)) ∧
    (redact config.toValue).field "models" 2 = some (redact (.ofMap Model.toValue config.models)) ∧
    (redact config.toValue).field "roles" 3 = some (redact (.ofMap Role.toValue config.roles)) ∧
    (redact config.toValue).field "tools" 4 = some (redact (.ofMap Tool.toValue config.tools)) ∧
    (redact config.toValue).field "data_sources" 5
      = some (redact (.ofMap DataSource.toValue config.dataSources)) ∧
    (redact config.toValue).field "mcp_servers" 6
      = some (redact (.ofMap McpServer.toValue config.mcpServers)) ∧
    (redact config.toValue).field "workflows" 7
      = some (redact (.ofMap Workflow.toValue config.workflows)) := by
  rw [WorkbenchConfiguration.toValue, redact_record_of_plain rfl]
  simp [member_record_cons]

/-- A snapshot that reads back has no reserved names and no redacted lists. -/
theorem WorkbenchConfiguration.safe_of_fromValue {result : WorkbenchConfiguration}
    (h : WorkbenchConfiguration.fromValue (redact config.toValue) = some result) :
    config.SnapshotSafe := by
  have hdecoded := configuration_decoded h
  obtain ⟨hproviders, hmodels, hroles, htools, hsources, hservers, hworkflows⟩ :=
    config.tables_redacted
  have hservers' := hdecoded.mcpServers
  obtain ⟨hnames, hread⟩ := unreserved_of_asMap rfl hservers'
  refine ⟨?_, ?_, ?_, ?_, ?_, hnames, ?_, ?_⟩
  · exact (unreserved_of_asMap rfl (by rw [← hdecoded.providers, hproviders]; rfl)).1
  · exact (unreserved_of_asMap rfl (by rw [← hdecoded.models, hmodels]; rfl)).1
  · exact (unreserved_of_asMap rfl (by rw [← hdecoded.roles, hroles]; rfl)).1
  · exact (unreserved_of_asMap rfl (by rw [← hdecoded.tools, htools]; rfl)).1
  · exact (unreserved_of_asMap rfl (by rw [← hdecoded.dataSources, hsources]; rfl)).1
  · exact (unreserved_of_asMap rfl (by rw [← hdecoded.workflows, hworkflows]; rfl)).1
  · intro entry hmem
    obtain ⟨server, hserver⟩ := hread entry hmem
    exact McpServer.fields_of_fromValue hserver

end Workbench.Config
