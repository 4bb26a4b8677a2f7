import Workbench.Config.Snapshot

/-!
# Config: what the content hash pins

Two configurations with equal content hashes have equal redacted encodings, the
hash and the text being injective.  Below a field this pins everything but the
secret-bearing leaves.  An entry of a table whose own name is that of a redacted
field is replaced as a whole, so the hash says nothing about it.
-/

namespace Workbench.Config

open Library Json List

/-! ## Agreement except in secret-bearing leaves -/

/-- The number of arguments of a server and the names of its variables and headers. -/
def McpServer.listNames (server : McpServer) : Nat × List String × List String :=
  (server.args.length, server.env.map (·.1), server.headers.map (·.1))

/-- The entries under reserved names are the same, except for what `conceal` removes. -/
def ReservedAgree {α : Type} (conceal : α → α) (first second : Table α) : Prop :=
  ∀ name, isRedacted name →
    (first.lookup name).map conceal = (second.lookup name).map conceal

/-- The entries named like a redacted field agree, and so do the names in the servers' lists. -/
structure ReservedEntriesAgree (first second : WorkbenchConfiguration) : Prop where
  providers : ReservedAgree Provider.redacted first.providers second.providers
  models : ReservedAgree id first.models second.models
  roles : ReservedAgree id first.roles second.roles
  tools : ReservedAgree id first.tools second.tools
  dataSources : ReservedAgree id first.dataSources second.dataSources
  mcpServers : ReservedAgree McpServer.redacted first.mcpServers second.mcpServers
  serverLists : (first.mcpServers.map fun entry => entry.2.listNames)
    = second.mcpServers.map fun entry => entry.2.listNames
  workflows : ReservedAgree id first.workflows second.workflows

/-! ## Encodings that determine their values -/

theorem Provider.redacted_inj {first second : Provider}
    (h : redact first.toValue = redact second.toValue) : first.redacted = second.redacted := by
  have hread := congrArg Provider.fromValue h
  simpa [Provider.redact_toValue, Provider.fromValue_toValue] using hread

theorem McpServer.fields_redacted (server : McpServer) :
    (redact server.toValue).field "transport" 0
      = some (.ofVariant McpTransport.variants server.transport) ∧
    (redact server.toValue).field "version" 1 = some (.string server.version) ∧
    (redact server.toValue).field "sha256" 2 = some (.string server.sha256) ∧
    (redact server.toValue).field "executable" 3
      = server.executable.map (fun _ => .string redactionMarker) ∧
    (redact server.toValue).field "url" 6 = server.url.map (fun _ => .string redactionMarker) ∧
    (redact server.toValue).field "max_response_bytes" 8
      = server.maxResponseBytes.map .ofU64 := by
  rw [McpServer.toValue, redact_record]
  simp [member_record_cons, redactUnder, isRedacted, redactedKeys, Function.comp_def]

variable {α : Type}

theorem map_const_inj {β γ : Type} {first second : Option α} {b : β} (c : γ)
    (h : first.map (fun _ => b) = second.map fun _ => b) :
    first.map (fun _ => c) = second.map fun _ => c := by
  cases first <;> cases second <;> simp_all

theorem markTable_eq (table : Table String) :
    markTable table = (table.map (·.1)).map fun key => (key, redactionMarker) := by
  simp [markTable, Function.comp_def]

theorem McpServer.listNames_redacted (server : McpServer) :
    server.redacted.listNames = server.listNames := by
  simp [listNames, redacted, markTable, Function.comp_def]

theorem McpServer.redacted_inj {first second : McpServer}
    (h : redact first.toValue = redact second.toValue)
    (hnames : first.listNames = second.listNames) : first.redacted = second.redacted := by
  have hfields := first.fields_redacted
  simp only [h, second.fields_redacted, Option.some.injEq, string.injEq] at hfields
  obtain ⟨htransport, hversion, hsha, hexecutable, hurl, hmax⟩ := hfields
  have etransport : first.transport = second.transport := by
    have hread := congrArg (asVariant McpTransport.variants) htransport.symm
    simpa using hread
  have emax : first.maxResponseBytes = second.maxResponseBytes := by
    have hread := congrArg (readOptional asU64) hmax.symm
    simpa using hread
  have eexecutable := map_const_inj redactionMarker hexecutable.symm
  have eurl := map_const_inj redactionMarker hurl.symm
  simp only [listNames, Prod.mk.injEq] at hnames
  obtain ⟨eargs, eenv, eheaders⟩ := hnames
  simp only [redacted, markTable_eq, map_const', etransport, hversion, hsha, eexecutable, eurl,
    eargs, eenv, eheaders, emax]

/-! ## Tables -/

theorem lookup_eq_none_of_lt {key : String} {table : Table α} (h : ∀ entry ∈ table, key < entry.1) :
    table.lookup key = none := by
  rw [lookup_eq_none_iff]
  intro entry hmem
  simpa using ne_of_lt (h entry hmem)

/-- Tables with equal redacted encodings agree exactly when their reserved entries do. -/
theorem table_agree_iff {encode : α → Json} {conceal : α → α} :
    ∀ {first second : Table α}, first.KeyOrdered → second.KeyOrdered →
      (∀ pair ∈ first.zip second, redact (encode pair.1.2) = redact (encode pair.2.2) →
        conceal pair.1.2 = conceal pair.2.2) →
      redact (.ofMap encode first) = redact (.ofMap encode second) →
      ((first.map fun entry => (entry.1, conceal entry.2))
          = (second.map fun entry => (entry.1, conceal entry.2))
        ↔ ReservedAgree conceal first second) := by
  intro first second hfirst hsecond hconceal hredact
  constructor
  · intro heq name _
    rw [← lookup_map_values, heq, lookup_map_values]
  rw [redact_ofMap, redact_ofMap, object.injEq] at hredact
  induction first generalizing second with
  | nil =>
    cases second with
    | nil => exact fun _ => rfl
    | cons entry second => cases hredact
  | cons entry first ih =>
    cases second with
    | nil => cases hredact
    | cons entry' second =>
      obtain ⟨key, a⟩ := entry
      obtain ⟨key', b⟩ := entry'
      simp only [map_cons, cons.injEq, Prod.mk.injEq] at hredact
      obtain ⟨⟨rfl, hvalue⟩, hrest⟩ := hredact
      obtain ⟨hless, hfirst⟩ := pairwise_cons.mp hfirst
      obtain ⟨hless', hsecond⟩ := pairwise_cons.mp hsecond
      intro hreserved
      have hhead : conceal a = conceal b := by
        cases hkey : isRedacted key with
        | false =>
          rw [redactUnder, redactUnder, hkey] at hvalue
          exact hconceal ((key, a), key, b) mem_cons_self hvalue
        | true =>
          have hlookup := hreserved key hkey
          rw [lookup_cons_eq_ite, lookup_cons_eq_ite, if_pos rfl, if_pos rfl] at hlookup
          exact Option.some.inj hlookup
      have htail : ReservedAgree conceal first second := by
        intro name hname
        by_cases heq : name = key
        · subst heq
          rw [lookup_eq_none_of_lt hless, lookup_eq_none_of_lt hless']
        · have hlookup := hreserved name hname
          rwa [lookup_cons_eq_ite, lookup_cons_eq_ite, if_neg heq, if_neg heq] at hlookup
      rw [map_cons, map_cons, hhead]
      congr 1
      exact ih hfirst hsecond (fun pair hpair => hconceal pair (mem_cons_of_mem _ hpair))
        hrest htail

/-- The same for values that redaction leaves alone and that are read back. -/
theorem plain_table_agree_iff {encode : α → Json} {decode : Json → Option α}
    {first second : Table α} (hfirst : first.KeyOrdered) (hsecond : second.KeyOrdered)
    (hplain : ∀ a, redact (encode a) = encode a)
    (hreadFirst : ∀ entry ∈ first, decode (encode entry.2) = some entry.2)
    (hreadSecond : ∀ entry ∈ second, decode (encode entry.2) = some entry.2)
    (hredact : redact (.ofMap encode first) = redact (.ofMap encode second)) :
    first = second ↔ ReservedAgree id first second := by
  have hagree := @table_agree_iff _ _ id _ _ hfirst hsecond (fun _ hpair hsame => by
    obtain ⟨ha, hb⟩ := of_mem_zip hpair
    rw [hplain, hplain] at hsame
    have hread := congrArg decode hsame
    rw [hreadFirst _ ha, hreadSecond _ hb] at hread
    exact Option.some.inj hread) hredact
  simpa using hagree

/-! ## Configurations -/

theorem WorkbenchConfiguration.fields_redacted (config : WorkbenchConfiguration) :
    (redact config.toValue).field "version" 0 = some (.ofU32 config.version) ∧
    (redact config.toValue).field "routing" 8 = some config.routing.toValue ∧
    (redact config.toValue).field "policies" 9 = some config.policies.toValue ∧
    (redact config.toValue).field "storage" 10 = some config.storage.toValue ∧
    (redact config.toValue).field "protocol" 11 = some config.protocol.toValue := by
  rw [WorkbenchConfiguration.toValue, redact_record_of_plain rfl]
  simp [member_record_cons, Routing.redact_toValue, Policies.redact_toValue,
    Storage.redact_toValue, ProtocolLimits.redact_toValue]

/-- The fields that are no tables are determined by the redacted encoding. -/
theorem WorkbenchConfiguration.fields_eq {first second : WorkbenchConfiguration}
    (hredact : redact first.toValue = redact second.toValue) :
    first.version = second.version ∧ first.routing = second.routing ∧
      first.policies = second.policies ∧ first.storage = second.storage ∧
      first.protocol = second.protocol := by
  have hfields := first.fields_redacted
  simp only [hredact, second.fields_redacted, Option.some.injEq] at hfields
  obtain ⟨hversion, hrouting, hpolicies, hstorage, hprotocol⟩ := hfields
  exact ⟨injective_of_decode asU32_ofU32 hversion.symm,
    injective_of_decode Routing.fromValue_toValue hrouting.symm,
    injective_of_decode Policies.fromValue_toValue hpolicies.symm,
    injective_of_decode Storage.fromValue_toValue hstorage.symm,
    injective_of_decode ProtocolLimits.fromValue_toValue hprotocol.symm⟩

section

variable {format : FloatFormat} {blake3 : String → String}

/-- Configurations with equal content hashes agree on everything except the values of
secret-bearing leaf fields exactly when their entries under reserved names do and the lists
of their servers have the same names. -/
theorem redacted_eq_iff (hblake : Function.Injective blake3)
    {first second : WorkbenchConfiguration} (hfirst : validate first = .ok ())
    (hsecond : validate second = .ok ()) (hfirstKeys : first.KeyOrdered)
    (hsecondKeys : second.KeyOrdered)
    (hhash : configurationHash format blake3 first = configurationHash format blake3 second) :
    first.redacted = second.redacted ↔ ReservedEntriesAgree first second := by
  have hredact : redact first.toValue = redact second.toValue :=
    toText_injective format (hblake hhash)
  have htables := first.tables_redacted
  simp only [hredact, second.tables_redacted, Option.some.injEq] at htables
  obtain ⟨hproviders, hmodels, hroles, htools, hsources, hservers, hworkflows⟩ := htables
  have eproviders := table_agree_iff hfirstKeys.providers hsecondKeys.providers
    (fun _ _ => Provider.redacted_inj) hproviders.symm
  have emodels := plain_table_agree_iff hfirstKeys.models hsecondKeys.models Model.redact_toValue
    (fun _ _ => Model.fromValue_toValue _) (fun _ _ => Model.fromValue_toValue _) hmodels.symm
  have eroles := plain_table_agree_iff hfirstKeys.roles hsecondKeys.roles Role.redact_toValue
    (fun _ _ => Role.fromValue_toValue _) (fun _ _ => Role.fromValue_toValue _) hroles.symm
  have etools := plain_table_agree_iff hfirstKeys.tools hsecondKeys.tools Tool.redact_toValue
    (fun _ _ => Tool.fromValue_toValue _) (fun _ _ => Tool.fromValue_toValue _) htools.symm
  have esources := plain_table_agree_iff hfirstKeys.dataSources hsecondKeys.dataSources
    DataSource.redact_toValue (fun _ _ => DataSource.fromValue_toValue _)
    (fun _ _ => DataSource.fromValue_toValue _) hsources.symm
  have eworkflows := plain_table_agree_iff hfirstKeys.workflows hsecondKeys.workflows
    Workflow.redact_toValue
    (fun _ hmem => Workflow.fromValue_toValue fun _ hstep _ =>
      WorkbenchConfiguration.iterations_lt hfirst hmem hstep)
    (fun _ hmem => Workflow.fromValue_toValue fun _ hstep _ =>
      WorkbenchConfiguration.iterations_lt hsecond hmem hstep) hworkflows.symm
  constructor
  · intro heq
    simp only [WorkbenchConfiguration.redacted, WorkbenchConfiguration.mk.injEq] at heq
    obtain ⟨_, hp, hm, hr, ht, hd, hs, hw, _⟩ := heq
    refine ⟨eproviders.mp hp, emodels.mp hm, eroles.mp hr, etools.mp ht, esources.mp hd, ?_, ?_,
      eworkflows.mp hw⟩
    · intro name _
      rw [← lookup_map_values, hs, lookup_map_values]
    · have hnames := congrArg (map fun entry => entry.2.listNames) hs
      simpa only [map_map, Function.comp_def, McpServer.listNames_redacted] using hnames
  · intro hagree
    have eservers := (table_agree_iff hfirstKeys.mcpServers hsecondKeys.mcpServers
      (fun pair hpair hsame => McpServer.redacted_inj hsame (by
        obtain ⟨i, hi⟩ := mem_iff_getElem?.mp hpair
        obtain ⟨ha, hb⟩ := getElem?_zip_eq_some.mp hi
        have hnames := congrArg (·[i]?) hagree.serverLists
        simpa [ha, hb] using hnames)) hservers.symm).mpr hagree.mcpServers
    obtain ⟨eversion, erouting, epolicies, estorage, eprotocol⟩ :=
      WorkbenchConfiguration.fields_eq hredact
    simp only [WorkbenchConfiguration.redacted, eversion, erouting, epolicies, estorage,
      eprotocol, eproviders.mpr hagree.providers, emodels.mpr hagree.models,
      eroles.mpr hagree.roles, etools.mpr hagree.tools, esources.mpr hagree.dataSources,
      eservers, eworkflows.mpr hagree.workflows]

end

/-- The built-in configuration with one more role, named like a redacted field. -/
def urlRoleConfiguration (capabilities : List Capability) : WorkbenchConfiguration :=
  { WorkbenchConfiguration.safeBuiltins with
    roles := [("url", ⟨"fake-default", [], [], capabilities, []⟩),
      ("workspace-coordinator", ⟨"fake-default", [], [], [], []⟩)] }

theorem urlRoleConfiguration_keyOrdered :
    (urlRoleConfiguration []).KeyOrdered ∧ (urlRoleConfiguration [.vision]).KeyOrdered := by
  constructor <;> constructor <;> decide

theorem urlRole_redact_eq : redact (urlRoleConfiguration []).toValue
    = redact (urlRoleConfiguration [.vision]).toValue := by
  decide +kernel

theorem urlRole_redacted_iff :
    configurationHash ratioFormat id (urlRoleConfiguration [])
      = configurationHash ratioFormat id (urlRoleConfiguration [.vision]) ∧
    ((urlRoleConfiguration []).redacted = (urlRoleConfiguration [.vision]).redacted
      ↔ ReservedEntriesAgree (urlRoleConfiguration []) (urlRoleConfiguration [.vision])) := by
  have hhash : configurationHash ratioFormat id (urlRoleConfiguration [])
      = configurationHash ratioFormat id (urlRoleConfiguration [.vision]) := by
    rw [configurationHash, configurationHash, urlRole_redact_eq]
  exact ⟨hhash, redacted_eq_iff Function.injective_id (by decide +kernel) (by decide +kernel)
    urlRoleConfiguration_keyOrdered.1 urlRoleConfiguration_keyOrdered.2 hhash⟩

/-- Two valid configurations with the same content hash whose roles differ. -/
theorem urlRole_not_pinned :
    validate (urlRoleConfiguration []) = .ok () ∧
    validate (urlRoleConfiguration [.vision]) = .ok () ∧
    configurationHash ratioFormat id (urlRoleConfiguration [])
      = configurationHash ratioFormat id (urlRoleConfiguration [.vision]) ∧
    (urlRoleConfiguration []).roles ≠ (urlRoleConfiguration [.vision]).roles ∧
    (urlRoleConfiguration []).redacted ≠ (urlRoleConfiguration [.vision]).redacted := by
  refine ⟨by decide +kernel, by decide +kernel, ?_, by decide, by decide⟩
  rw [configurationHash, configurationHash, urlRole_redact_eq]

end Workbench.Config
