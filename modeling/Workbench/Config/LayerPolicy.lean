import Workbench.Config.Merge

/-!
# Config: what layers do to policies

The policies that `resolve` returns are compared with the policies each layer gives.  A
layer is checked on its own only for its top-level names and for nulls, so its policies
may have any shape.  A setting survives exactly when it is kept by the layers of the last
run: from the last layer on that gave the setting, or the record around it, in a shape
that does not merge with the layers below.
-/

namespace Workbench.Config

open Library Json List

/-! ## The runs that decide the policies -/

/-- The layers' policies that count: those after the last layer that replaced them. -/
def policiesRun (layers : List ConfigLayer) : List Json :=
  (mergeAt "policies").lastRun (layers.filterMap ConfigLayer.policies)

/-- The deny lists that count. -/
def denyRun (layers : List ConfigLayer) : List Json :=
  fieldRun "policies" "global_deny" 1 (policiesRun layers)

/-- The tool modes that count. -/
def modeRun (layers : List ConfigLayer) : List Json :=
  fieldRun "policies" "default_tool_mode" 0 (policiesRun layers)

/-- The cost policies that count. -/
def costRun (layers : List ConfigLayer) : List Json :=
  fieldRun "policies" "cost" 3 (policiesRun layers)

/-- The session ceilings that count. -/
def sessionCeilingRun (layers : List ConfigLayer) : List Json :=
  fieldRun "policies.cost" "max_session_usd_micros" 0 (costRun layers)

/-- The attempt ceilings that count. -/
def attemptCeilingRun (layers : List ConfigLayer) : List Json :=
  fieldRun "policies.cost" "max_attempt_usd_micros" 1 (costRun layers)

/-- The native-write policies that count. -/
def nativeWritesRun (layers : List ConfigLayer) : List Json :=
  fieldRun "policies" "provider_native_writes" 4 (policiesRun layers)

/-- The native-write modes that count. -/
def nativeModeRun (layers : List ConfigLayer) : List Json :=
  fieldRun "policies.provider_native_writes" "mode" 0 (nativeWritesRun layers)

/-- The allowlists that count. -/
def allowlistRun (layers : List ConfigLayer) : List Json :=
  fieldRun "policies.provider_native_writes" "allowlist" 1 (nativeWritesRun layers)

theorem policiesRun_shape (layers : List ConfigLayer) : RunShape (policiesRun layers) := by
  apply lastRun_shape rfl
  intro value hmem
  obtain ⟨layer, _, hpolicies⟩ := mem_filterMap.mp hmem
  exact ConfigLayer.policies_layerValue hpolicies

theorem nativeWritesRun_shape (layers : List ConfigLayer) : RunShape (nativeWritesRun layers) :=
  fieldRun_shape (by decide) (policiesRun_shape layers)

variable {layers : List ConfigLayer} {resolved : ResolvedConfiguration} {value : Json}
  {values : List Json}

theorem policies_of_resolve (hresolve : resolve layers = .ok resolved) :
    ∃ value, (mergeAt "policies").stack (policiesRun layers) = some value ∧
      Policies.fromValue value = some resolved.configuration.policies := by
  obtain ⟨hdecode, _⟩ := resolve_eq_ok hresolve
  obtain ⟨members, hmembers⟩ := exists_of_isObject (isObject_mergeLayers layers)
  have hpolicies := (configuration_decoded hdecode).policies
  obtain ⟨value, hvalue, hfrom⟩ := Option.bind_eq_some_iff.mp hpolicies
  refine ⟨value, ?_, hfrom⟩
  rw [policiesRun, Overlay.stack_lastRun]
  have hmember : (mergeLayers layers).member "policies" = some value := by
    rw [hmembers] at hvalue ⊢
    exact hvalue
  rw [member_mergeLayers, filterMap_map] at hmember
  exact hmember

/-- The fields of decoded policies, each with the value it was decoded from. -/
structure PoliciesDecoded (value : Json) (policies : Policies) : Prop where
  mode : (value.field "default_tool_mode" 0).bind (asVariant DefaultToolMode.variants)
    = some policies.defaultToolMode
  deny : (value.field "global_deny" 1).bind (asList asString) = some policies.globalDeny
  cost : value.optional CostPolicy.fromValue "cost" 3 = some policies.cost
  nativeWrites : value.defaulted ProviderNativeWritePolicy.fromValue "provider_native_writes" 4 {}
    = some policies.providerNativeWrites

theorem policies_decoded {policies : Policies} (h : Policies.fromValue value = some policies) :
    PoliciesDecoded value policies := by
  simp only [Policies.fromValue, Option.bind_eq_bind, Option.bind_eq_some_iff, Option.pure_def] at h
  obtain ⟨_, _, mode, hmode, deny, hdeny, _, _, cost, hcost, writes, hwrites, heq⟩ := h
  cases heq
  exact ⟨hmode, hdeny, hcost, hwrites⟩

theorem fields_of_resolve (hresolve : resolve layers = .ok resolved) :
    ∃ merged, PoliciesDecoded merged resolved.configuration.policies ∧
      ∀ name index, merged.field name index = (mergeAt (childPath "policies" name)).stack
        (fieldRun "policies" name index (policiesRun layers)) := by
  obtain ⟨merged, hstack, hfrom⟩ := policies_of_resolve hresolve
  refine ⟨merged, policies_decoded hfrom, fun name index => ?_⟩
  rw [← field_stack "policies" name index (policiesRun_shape layers), hstack, Option.bind_some]

/-! ## Stacks of lists, of texts and of other values -/

/-- The entries of a list, if it is one. -/
def entriesOf : Json → List Json
  | .array items => items
  | _ => []

def isArray : Json → Bool
  | .array _ => true
  | _ => false

def isText : Json → Bool
  | .string _ => true
  | _ => false

theorem mem_appendMissing {entry : Json} {overlay base : List Json} :
    entry ∈ appendMissing base overlay ↔ entry ∈ base ∨ entry ∈ overlay := by
  induction overlay generalizing base with
  | nil => simp [appendMissing]
  | cons value rest ih =>
    rw [appendMissing, ih]
    split
    · rename_i hmem
      constructor
      · rintro (h | h)
        · exact .inl h
        · exact .inr (mem_cons_of_mem _ h)
      · rintro (h | h)
        · exact .inl h
        · rcases mem_cons.mp h with rfl | h
          · exact .inl hmem
          · exact .inr h
    · simp [or_assoc]

theorem stack_deny (harrays : ∀ value ∈ values, isArray value) {merged : Json}
    (hstack : (mergeAt "policies.global_deny").stack values = some merged) :
    isArray merged ∧
      ∀ entry, entry ∈ entriesOf merged ↔ ∃ value ∈ values, entry ∈ entriesOf value := by
  revert harrays
  refine (mergeAt "policies.global_deny").stack_induction ?_ ?_ hstack
  · intro value harrays
    exact ⟨harrays value (mem_singleton_self value), by simp⟩
  intro values base value ih harrays
  have harray := harrays value (by simp)
  obtain ⟨hbase, hentries⟩ := ih fun other hmem => harrays other (by simp [hmem])
  cases value with
  | array items =>
    cases base with
    | array below =>
      refine ⟨by simp [mergeAt, mergeValue, isArray], ?_⟩
      intro entry
      have hmerged : entry ∈ entriesOf
          ((mergeAt "policies.global_deny").combine (.array below) (.array items))
          ↔ entry ∈ below ∨ entry ∈ items := by
        simp [mergeAt, mergeValue, entriesOf, mem_appendMissing]
      rw [hmerged, show entry ∈ below ↔ _ from hentries entry]
      constructor
      · rintro (⟨other, hmem, h⟩ | h)
        · exact ⟨other, mem_append_left _ hmem, h⟩
        · exact ⟨_, mem_append_right _ (mem_singleton_self _), h⟩
      rintro ⟨other, hmem, h⟩
      rcases mem_append.mp hmem with hmem | hmem
      · exact .inl ⟨other, hmem, h⟩
      · rw [mem_singleton] at hmem
        subst hmem
        exact .inr h
    | _ => cases hbase
  | _ => cases harray

/-- Stacked tool modes give the most restrictive of them. -/
theorem stack_mode (htexts : ∀ value ∈ values, isText value) {merged : Json}
    (hstack : (mergeAt "policies.default_tool_mode").stack values = some merged) :
    ∃ mode, merged = .string mode ∧ .string mode ∈ values ∧
      ∀ other, .string other ∈ values → policyRank other ≤ policyRank mode := by
  revert htexts
  refine (mergeAt "policies.default_tool_mode").stack_induction ?_ ?_ hstack
  · intro value htexts
    cases value with
    | string mode => exact ⟨mode, rfl, by simp, by simp⟩
    | _ => cases htexts _ (mem_singleton_self _)
  · intro values base value ih htexts
    have htext := htexts value (by simp)
    obtain ⟨below, rfl, hmem, hrank⟩ := ih fun other hmem => htexts other (by simp [hmem])
    cases value with
    | string top =>
      by_cases hlt : policyRank below < policyRank top
      · refine ⟨top, by simp [mergeAt, mergeValue, hlt], by simp, ?_⟩
        intro other hother
        rcases mem_append.mp hother with hother | hother
        · exact Nat.le_of_lt (Nat.lt_of_le_of_lt (hrank other hother) hlt)
        · cases mem_singleton.mp hother
          exact Nat.le_refl _
      · refine ⟨below, by simp [mergeAt, mergeValue, hlt], by simp [hmem], ?_⟩
        intro other hother
        rcases mem_append.mp hother with hother | hother
        · exact hrank other hother
        · cases mem_singleton.mp hother
          exact Nat.not_lt.mp hlt
    | _ => cases htext

/-! ## Tool policy -/

/-- The tools a layer denies. -/
def ConfigLayer.globalDeny (layer : ConfigLayer) : List Json :=
  ((layer.policies.bind (field "global_deny" 1)).map entriesOf).getD []

/-- The tool mode that a layer sets. -/
def ConfigLayer.defaultToolMode (layer : ConfigLayer) : Option DefaultToolMode :=
  (layer.policies.bind (field "default_tool_mode" 0)).bind
    (asVariant DefaultToolMode.variants)

/-- How restrictive a default tool mode is. -/
def DefaultToolMode.rank : DefaultToolMode → Nat
  | .readOnly => 0
  | .approvalRequired => 1
  | .denied => 2

theorem policyRank_of_lookup {name : String} {mode : DefaultToolMode}
    (h : DefaultToolMode.variants.lookup name = some mode) : policyRank name = mode.rank := by
  have hmem := mem_of_lookup h
  simp only [DefaultToolMode.variants, mem_cons, not_mem_nil, or_false] at hmem
  obtain ⟨⟨⟩⟩ | ⟨⟨⟩⟩ | ⟨⟨⟩⟩ := hmem <;> rfl

/-- The resolved policies are as restrictive as the deny lists and modes of all layers. -/
structure KeepsToolPolicy (layers : List ConfigLayer) (policies : Policies) : Prop where
  deny : ∀ layer ∈ layers, ∀ entry ∈ layer.globalDeny, entry ∈ policies.globalDeny.map string
  mode : ∀ layer ∈ layers, ∀ mode, layer.defaultToolMode = some mode →
    mode.rank ≤ policies.defaultToolMode.rank

/-- What a layer denies, and its mode or a stricter one, is in the runs that count. -/
structure ToolPolicyRepeated (layers : List ConfigLayer) : Prop where
  deny : ∀ layer ∈ layers, ∀ entry ∈ layer.globalDeny,
    ∃ value ∈ denyRun layers, entry ∈ entriesOf value
  mode : ∀ layer ∈ layers, ∀ mode, layer.defaultToolMode = some mode →
    ∃ value ∈ modeRun layers, ∃ kept,
      asVariant DefaultToolMode.variants value = some kept ∧ mode.rank ≤ kept.rank

theorem decodeItems_asString : ∀ {items : List Json} {texts : List String},
    decodeItems asString items = some texts → items = texts.map string
  | [], texts, h => by
    cases h
    rfl
  | value :: rest, texts, h => by
    simp only [decodeItems, Option.bind_eq_bind, Option.bind_eq_some_iff,
      Option.pure_def, Option.some.injEq] at h
    obtain ⟨head, hhead, tail, htail, rfl⟩ := h
    cases value with
    | string =>
      cases hhead
      rw [map_cons, ← decodeItems_asString htail]
    | _ => cases hhead

theorem asList_asString {texts : List String} (h : asList asString value = some texts) :
    value = .array (texts.map string) := by
  cases value with
  | array => rw [decodeItems_asString h]
  | _ => cases h

/-- The resolved deny list holds what the lists of the run hold. -/
theorem mem_globalDeny_iff (hresolve : resolve layers = .ok resolved) (entry : Json) :
    entry ∈ resolved.configuration.policies.globalDeny.map string
      ↔ ∃ value ∈ denyRun layers, entry ∈ entriesOf value := by
  obtain ⟨merged, hdecoded, hfield⟩ := fields_of_resolve hresolve
  obtain ⟨value, hvalue, hlist⟩ := Option.bind_eq_some_iff.mp hdecoded.deny
  have hdeny := (hfield "global_deny" 1).symm.trans hvalue
  have harray := asList_asString hlist
  have harrays : ∀ value ∈ denyRun layers, isArray value := by
    intro other hmem
    have hprobe : joins "policies.global_deny" value (.array []) := by
      rw [harray]
      rfl
    have hjoins := (mergeAt "policies.global_deny").lastRun_joins
      (fun _ _ h => joins_of_joins h (.array []))
      ((Overlay.stack_lastRun _ _).symm.trans hdeny) hprobe other hmem
    cases other <;> simp_all [mergeAt, joins, isArray]
  have hentries := (stack_deny harrays hdeny).2 entry
  rw [harray] at hentries
  exact hentries

/-- The resolved mode is the most restrictive mode of the run. -/
theorem rank_defaultToolMode (hresolve : resolve layers = .ok resolved) (rank : Nat) :
    rank ≤ resolved.configuration.policies.defaultToolMode.rank
      ↔ ∃ value ∈ modeRun layers, ∃ kept,
        asVariant DefaultToolMode.variants value = some kept ∧ rank ≤ kept.rank := by
  obtain ⟨merged, hdecoded, hfield⟩ := fields_of_resolve hresolve
  obtain ⟨value, hvalue, hvariant⟩ := Option.bind_eq_some_iff.mp hdecoded.mode
  have hmode := (hfield "default_tool_mode" 0).symm.trans hvalue
  have hlayers := @fieldRun_layers "policies" "default_tool_mode" 0 _
    (policiesRun_shape layers).layers
  obtain ⟨name, rfl, hname⟩ := variant_of_stack (by decide) hlayers hmode hvariant
  have htexts : ∀ value ∈ modeRun layers, isText value := by
    intro other hmem
    have hjoins := (mergeAt "policies.default_tool_mode").lastRun_joins
      (fun _ _ h => joins_of_joins h (.string ""))
      ((Overlay.stack_lastRun _ _).symm.trans hmode) rfl other hmem
    cases other <;> simp_all [mergeAt, joins, isText]
  obtain ⟨top, htop, hmem, hrank⟩ := stack_mode htexts hmode
  cases htop
  constructor
  · intro hle
    exact ⟨.string name, hmem, _, hname, hle⟩
  rintro ⟨other, hother, kept, hkept, hle⟩
  cases other with
  | string text =>
    have hbelow := hrank text hother
    rw [policyRank_of_lookup hkept, policyRank_of_lookup hname] at hbelow
    exact Nat.le_trans hle hbelow
  | _ => cases htexts _ hother

variable {resolved : ResolvedConfiguration} {layers : List ConfigLayer}

/-- Accepted layers keep their tool policies exactly when the runs that count repeat them. -/
theorem keepsToolPolicy_iff (hresolve : resolve layers = .ok resolved) :
    KeepsToolPolicy layers resolved.configuration.policies ↔ ToolPolicyRepeated layers := by
  constructor
  · intro hkeeps
    refine ⟨?_, ?_⟩
    · intro layer hlayer entry hentry
      exact (mem_globalDeny_iff hresolve entry).mp (hkeeps.deny layer hlayer entry hentry)
    · intro layer hlayer mode hmode
      exact (rank_defaultToolMode hresolve mode.rank).mp (hkeeps.mode layer hlayer mode hmode)
  · intro hrepeated
    refine ⟨?_, ?_⟩
    · intro layer hlayer entry hentry
      exact (mem_globalDeny_iff hresolve entry).mpr (hrepeated.deny layer hlayer entry hentry)
    · intro layer hlayer mode hmode
      exact (rank_defaultToolMode hresolve mode.rank).mpr (hrepeated.mode layer hlayer mode hmode)

/-- The layer of the safe built-in configuration. -/
def builtinLayer : ConfigLayer := .fromConfiguration "builtins" .safeBuiltins .safeBuiltins

/-- A user layer that registers a tool, denies it and denies tools by default. -/
def denyingLayer : ConfigLayer where
  name := "user"
  value := .object
    [("policies", .object
      [("default_tool_mode", .string "denied"), ("global_deny", .array [.string "shell"])]),
     ("tools", .object [("shell", .object
      [("kind", .string "builtin"),
       ("operations", .array [.object
         [("approval", .string "always"), ("effect_class", .string "production"),
          ("idempotent", .bool false), ("material_cost", .bool false),
          ("name", .string "run")]])])])]
  ordered := by decide
  origin := .inl (by decide +kernel)

/-- A repository layer whose policies are a text. -/
def blankingLayer : ConfigLayer where
  name := "repository"
  value := .object [("policies", .string "none")]
  ordered := by decide
  origin := .inl (by decide +kernel)

/-- A session layer with permissive policies. -/
def permissiveLayer : ConfigLayer where
  name := "session"
  value := .object [("policies", .object
    [("default_tool_mode", .string "read-only"), ("global_deny", .array []),
     ("production_mutations", .string "approval-required")])]
  ordered := by decide
  origin := .inl (by decide +kernel)

/-- The built-in configuration with the tool of the user layer. -/
def shellConfiguration (policies : Policies) : WorkbenchConfiguration :=
  { WorkbenchConfiguration.safeBuiltins with
    tools := [("shell", ⟨.builtin, none, [⟨"run", .production, false, false, .always⟩]⟩)]
    policies }

/-- Over the user layer alone the permissive layer weakens nothing. -/
theorem permissive_keepsToolPolicy_iff :
    resolve [builtinLayer, denyingLayer, permissiveLayer]
      = .ok ⟨shellConfiguration { defaultToolMode := .denied, globalDeny := ["shell"] },
          ["builtins", "user", "session"]⟩ ∧
    (KeepsToolPolicy [builtinLayer, denyingLayer, permissiveLayer]
        { defaultToolMode := .denied, globalDeny := ["shell"] }
      ↔ ToolPolicyRepeated [builtinLayer, denyingLayer, permissiveLayer]) := by
  have hresolve : resolve [builtinLayer, denyingLayer, permissiveLayer]
      = .ok ⟨shellConfiguration { defaultToolMode := .denied, globalDeny := ["shell"] },
          ["builtins", "user", "session"]⟩ := by
    decide +kernel
  exact ⟨hresolve, keepsToolPolicy_iff hresolve⟩

/-- A layer with a text for policies discards those below it: the denied tool is free again. -/
theorem blanking_weakens_tool_policy :
    resolve [builtinLayer, denyingLayer, blankingLayer, permissiveLayer]
      = .ok ⟨shellConfiguration { defaultToolMode := .readOnly, globalDeny := [] },
          ["builtins", "user", "repository", "session"]⟩ ∧
    denyingLayer.globalDeny = [.string "shell"] ∧
    denyingLayer.defaultToolMode = some .denied ∧
    ¬ KeepsToolPolicy [builtinLayer, denyingLayer, blankingLayer, permissiveLayer]
      { defaultToolMode := .readOnly, globalDeny := [] } := by
  refine ⟨by decide +kernel, rfl, rfl, ?_⟩
  intro hkeeps
  have hrank := hkeeps.mode denyingLayer (by simp) .denied rfl
  exact absurd hrank (by decide)

/-! ## Spending and native writes -/

/-- The session ceiling that a layer sets. -/
def ConfigLayer.sessionCeiling (layer : ConfigLayer) : Option UInt64 :=
  ((layer.policies.bind (field "cost" 3)).bind
    (field "max_session_usd_micros" 0)).bind asU64

/-- The attempt ceiling that a layer sets. -/
def ConfigLayer.attemptCeiling (layer : ConfigLayer) : Option UInt64 :=
  ((layer.policies.bind (field "cost" 3)).bind
    (field "max_attempt_usd_micros" 1)).bind asU64

/-- The native-write policy that a layer sets. -/
def ConfigLayer.nativeWrites (layer : ConfigLayer) : Option Json :=
  layer.policies.bind (field "provider_native_writes" 4)

/-- The setting allows native writes of the provider. -/
def settingAllows (setting : Json) (provider : String) : Prop :=
  ∃ policy, ProviderNativeWritePolicy.fromValue setting = some policy ∧
    policy.allows provider

/-- The resolved policies keep every ceiling and native-write restriction of every layer. -/
structure KeepsAuthority (layers : List ConfigLayer) (policies : Policies) : Prop where
  session : ∀ layer ∈ layers, ∀ ceiling, layer.sessionCeiling = some ceiling →
    ∃ kept, policies.cost.map (·.maxSessionUsdMicros) = some kept ∧ kept ≤ ceiling
  attempt : ∀ layer ∈ layers, ∀ ceiling, layer.attemptCeiling = some ceiling →
    ∃ kept, policies.cost.bind (·.maxAttemptUsdMicros) = some kept ∧ kept ≤ ceiling
  nativeWrites : ∀ layer ∈ layers, ∀ setting, layer.nativeWrites = some setting →
    ∀ provider, policies.providerNativeWrites.allows provider →
      settingAllows setting provider

/-- The ceilings that count are set and below those of all layers; the native-write mode and the
allowlist that count allow only what every layer allows. -/
structure AuthorityRepeated (layers : List ConfigLayer) : Prop where
  session : ∀ layer ∈ layers, ∀ ceiling, layer.sessionCeiling = some ceiling →
    ∃ value ∈ sessionCeilingRun layers, ∃ kept, asU64 value = some kept ∧ kept ≤ ceiling
  attempt : ∀ layer ∈ layers, ∀ ceiling, layer.attemptCeiling = some ceiling →
    ∃ value ∈ attemptCeilingRun layers, ∃ kept, asU64 value = some kept ∧ kept ≤ ceiling
  nativeWrites : ∀ layer ∈ layers, ∀ setting, layer.nativeWrites = some setting →
    ∀ provider, string "approval-required" ∈ nativeModeRun layers →
      (∃ value ∈ allowlistRun layers, string provider ∈ entriesOf value) →
        settingAllows setting provider

/-- Where only objects merge, a property of other values holds exactly if the last run has it. -/
theorem exists_mem_fieldRun_iff {path name : String} {index : Nat}
    (hplain : isPlain (childPath path name)) (hshape : RunShape values) {P : Json → Prop}
    (hobject : ∀ value, P value → isObject value = false) :
    (∃ value ∈ fieldRun path name index values, P value)
      ↔ ∃ value, ((mergeAt path).stack values).bind (field name index) = some value ∧
        P value := by
  rw [field_stack path name index hshape]
  constructor
  · rintro ⟨value, hmem, hP⟩
    cases hstack : (mergeAt (childPath path name)).stack (fieldRun path name index values) with
    | none =>
      rw [Overlay.stack_eq_none_iff] at hstack
      rw [hstack] at hmem
      cases hmem
    | some merged =>
      cases hmerged : isObject merged with
      | true =>
        have hprobe : joins (childPath path name) merged (.object []) := by
          obtain ⟨members, rfl⟩ := exists_of_isObject hmerged
          rfl
        have hjoins := (mergeAt (childPath path name)).lastRun_joins
          (fun _ _ h => joins_of_joins h (.object []))
          ((Overlay.stack_lastRun _ _).symm.trans hstack) hprobe value hmem
        have hvalue := hobject value hP
        cases value <;> simp_all [mergeAt, joins, isObject]
      | false =>
        have hrun := lastRun_of_stack_plain hplain hstack hmerged
        rw [fieldRun, hrun, mem_singleton] at hmem
        exact ⟨merged, rfl, hmem ▸ hP⟩
  · rintro ⟨merged, hstack, hP⟩
    have hrun := lastRun_of_stack_plain hplain hstack (hobject merged hP)
    exact ⟨merged, by rw [fieldRun, hrun]; exact mem_singleton_self merged, hP⟩

theorem cost_decoded {cost : Option CostPolicy}
    (h : value.optional CostPolicy.fromValue "cost" 3 = some cost) :
    cost.map (·.maxSessionUsdMicros)
      = ((value.field "cost" 3).bind (field "max_session_usd_micros" 0)).bind asU64 ∧
    cost.bind (·.maxAttemptUsdMicros)
      = ((value.field "cost" 3).bind (field "max_attempt_usd_micros" 1)).bind asU64 := by
  unfold Json.optional readOptional at h
  split at h
  · rename_i hfield
    cases h
    simp [hfield]
  · rename_i hfield
    cases h
    simp only [hfield, Option.bind_some]
    simp [field]
  · rename_i child _ hfield
    obtain ⟨policy, hpolicy, rfl⟩ := Option.map_eq_some_iff.mp h
    simp only [CostPolicy.fromValue, Option.bind_eq_bind, Option.bind_eq_some_iff,
      Option.pure_def] at hpolicy
    obtain ⟨_, _, session, hsession, attempt, hattempt, heq⟩ := hpolicy
    cases heq
    rw [hfield, Option.bind_some, Option.bind_some, Option.map_some, Option.bind_some]
    refine ⟨?_, ?_⟩
    · rw [show (child.field "max_session_usd_micros" 0).bind asU64 = some session
        from hsession]
    unfold Json.optional readOptional at hattempt
    split at hattempt
    · rename_i habsent
      cases hattempt
      simp [habsent]
    · rename_i hnull
      cases hattempt
      simp [hnull, asU64]
    · rename_i limit _ hlimit
      obtain ⟨m, hm, rfl⟩ := Option.map_eq_some_iff.mp hattempt
      simp [hlimit, hm]

theorem nativeWrites_decoded {policy : ProviderNativeWritePolicy}
    (h : value.defaulted ProviderNativeWritePolicy.fromValue "provider_native_writes" 4 {}
      = some policy) :
    (policy.mode = .approvalRequired
      ↔ ((value.field "provider_native_writes" 4).bind (field "mode" 0)).bind
        (asVariant NativeWriteMode.variants) = some .approvalRequired) ∧
    ∀ provider, (provider ∈ policy.allowlist
      ↔ ∃ child, (value.field "provider_native_writes" 4).bind (field "allowlist" 1)
          = some child ∧ string provider ∈ entriesOf child) := by
  unfold defaulted readDefault at h
  split at h
  · rename_i hfield
    cases h
    simp [hfield]
  rename_i setting hfield
  simp only [ProviderNativeWritePolicy.fromValue, Option.bind_eq_bind, Option.bind_eq_some_iff,
    Option.pure_def] at h
  obtain ⟨_, _, mode, hmode, allowlist, hallow, heq⟩ := h
  cases heq
  rw [hfield, Option.bind_some, Option.bind_some]
  refine ⟨?_, ?_⟩
  · unfold defaulted readDefault at hmode
    split at hmode
    · rename_i habsent
      cases hmode
      simp [habsent]
    · rename_i child hchild
      rw [hchild, Option.bind_some, hmode, Option.some.injEq]
  · intro provider
    unfold defaulted readDefault at hallow
    split at hallow
    · rename_i habsent
      cases hallow
      simp [habsent]
    · rename_i child hchild
      rw [hchild, asList_asString hallow]
      simp [entriesOf]

/-- A ceiling is kept by the merged cost policy exactly when it is in the run that counts. -/
theorem exists_ceiling_iff (layers : List ConfigLayer) {name : String} {index : Nat}
    (hplain : isPlain (childPath "policies.cost" name)) (ceiling : UInt64) :
    (∃ kept, (((mergeAt "policies.cost").stack (costRun layers)).bind (field name index)).bind
        asU64 = some kept ∧ kept ≤ ceiling)
      ↔ ∃ value ∈ fieldRun "policies.cost" name index (costRun layers),
        ∃ kept, asU64 value = some kept ∧ kept ≤ ceiling := by
  have hshape : RunShape (costRun layers) := fieldRun_shape (by decide) (policiesRun_shape layers)
  rw [exists_mem_fieldRun_iff hplain hshape
    fun value ⟨_, hread, _⟩ => by cases value <;> first | rfl | cases hread]
  simp only [Option.bind_eq_some_iff]
  constructor
  · rintro ⟨kept, ⟨value, hvalue, hread⟩, hle⟩
    exact ⟨value, hvalue, kept, hread, hle⟩
  · rintro ⟨value, hvalue, kept, hread, hle⟩
    exact ⟨kept, ⟨value, hvalue, hread⟩, hle⟩

/-- The resolved policies allow native writes as the runs that count do. -/
theorem allows_of_resolve (hresolve : resolve layers = .ok resolved) (provider : String) :
    resolved.configuration.policies.providerNativeWrites.allows provider
      ↔ string "approval-required" ∈ nativeModeRun layers ∧
        ∃ value ∈ allowlistRun layers, string provider ∈ entriesOf value := by
  obtain ⟨merged, hdecoded, hfield⟩ := fields_of_resolve hresolve
  obtain ⟨hmode, hallow⟩ := nativeWrites_decoded hdecoded.nativeWrites
  have hallows : resolved.configuration.policies.providerNativeWrites.allows provider = true
      ↔ resolved.configuration.policies.providerNativeWrites.mode = .approvalRequired ∧
        provider ∈ resolved.configuration.policies.providerNativeWrites.allowlist := by
    simp [ProviderNativeWritePolicy.allows]
  rw [hallows, hmode, hallow, hfield]
  refine and_congr ?_ ?_
  · have hname : string "approval-required" ∈ nativeModeRun layers
        ↔ ∃ value ∈ nativeModeRun layers, value = .string "approval-required" := by simp
    rw [hname, nativeModeRun, exists_mem_fieldRun_iff (by decide) (nativeWritesRun_shape layers)
      fun value (h : value = .string "approval-required") => by rw [h]; rfl]
    constructor
    · intro h
      obtain ⟨value, hvalue, hvariant⟩ := Option.bind_eq_some_iff.mp h
      have hfield := field_stack "policies.provider_native_writes" "mode" 0
        (nativeWritesRun_shape layers)
      obtain ⟨name, rfl, hname⟩ := variant_of_stack (by decide)
        (fieldRun_layers (nativeWritesRun_shape layers).layers)
        (hfield.symm.trans hvalue) hvariant
      refine ⟨_, hvalue, ?_⟩
      have hmem := mem_of_lookup hname
      simp only [NativeWriteMode.variants, mem_cons, not_mem_nil, or_false] at hmem
      obtain ⟨⟨⟩⟩ | ⟨⟨⟩⟩ := hmem
      rfl
    · rintro ⟨value, hvalue, rfl⟩
      exact Option.bind_eq_some_iff.mpr ⟨_, hvalue, rfl⟩
  · rw [allowlistRun, exists_mem_fieldRun_iff (by decide) (nativeWritesRun_shape layers)]
    · rfl
    · intro value hmem
      cases value with
      | object => cases hmem
      | _ => rfl

/-- Accepted layers widen no authority exactly when the settings that count stay within all. -/
theorem keepsAuthority_iff (hresolve : resolve layers = .ok resolved) :
    KeepsAuthority layers resolved.configuration.policies ↔ AuthorityRepeated layers := by
  have hallows := allows_of_resolve hresolve
  obtain ⟨merged, hdecoded, hfield⟩ := fields_of_resolve hresolve
  obtain ⟨hsession, hattempt⟩ := cost_decoded hdecoded.cost
  rw [hfield] at hsession hattempt
  constructor
  · intro hkeeps
    refine ⟨?_, ?_, ?_⟩
    · intro layer hlayer ceiling hset
      have hkept := hkeeps.session layer hlayer ceiling hset
      rw [hsession] at hkept
      exact (exists_ceiling_iff layers (by decide) ceiling).mp hkept
    · intro layer hlayer ceiling hset
      have hkept := hkeeps.attempt layer hlayer ceiling hset
      rw [hattempt] at hkept
      exact (exists_ceiling_iff layers (by decide) ceiling).mp hkept
    · intro layer hlayer setting hset provider hmode hallow
      exact hkeeps.nativeWrites layer hlayer setting hset provider
        ((hallows provider).mpr ⟨hmode, hallow⟩)
  · intro hrepeated
    refine ⟨?_, ?_, ?_⟩
    · intro layer hlayer ceiling hset
      rw [hsession]
      exact (exists_ceiling_iff layers (by decide) ceiling).mpr
        (hrepeated.session layer hlayer ceiling hset)
    · intro layer hlayer ceiling hset
      rw [hattempt]
      exact (exists_ceiling_iff layers (by decide) ceiling).mpr
        (hrepeated.attempt layer hlayer ceiling hset)
    · intro layer hlayer setting hset provider hallow
      obtain ⟨hmode, hlist⟩ := (hallows provider).mp hallow
      exact hrepeated.nativeWrites layer hlayer setting hset provider hmode hlist

/-- A user layer with a budget and without native writes. -/
def frugalLayer : ConfigLayer where
  name := "user"
  value := .object [("policies", .object
    [("cost", .object [("max_attempt_usd_micros", .ofU64 10),
      ("max_session_usd_micros", .ofU64 100)]),
     ("provider_native_writes", .object [("mode", .string "disabled")])])]
  ordered := by decide
  origin := .inl (by decide +kernel)

/-- A repository layer that spends more and writes natively. -/
def spendingLayer : ConfigLayer where
  name := "repository"
  value := .object [("policies", .object
    [("cost", .object [("max_session_usd_micros", .ofU64 200)]),
     ("provider_native_writes", .object
      [("allowlist", .array [.string "fake"]), ("mode", .string "approval-required")])])]
  ordered := by decide
  origin := .inl (by decide +kernel)

/-- The built-in configuration with other policies. -/
def builtinsWith (policies : Policies) : WorkbenchConfiguration :=
  { WorkbenchConfiguration.safeBuiltins with policies }

/-- The policies of the user layer. -/
def frugalPolicies : Policies where
  defaultToolMode := .readOnly
  globalDeny := []
  cost := some ⟨100, some 10⟩

/-- The policies of the user layer after the repository layer. -/
def spendingPolicies : Policies where
  defaultToolMode := .readOnly
  globalDeny := []
  cost := some ⟨200, some 10⟩
  providerNativeWrites := ⟨.approvalRequired, ["fake"]⟩

theorem frugal_keepsAuthority_iff :
    resolve [builtinLayer, frugalLayer]
      = .ok ⟨builtinsWith frugalPolicies, ["builtins", "user"]⟩ ∧
    (KeepsAuthority [builtinLayer, frugalLayer] frugalPolicies
      ↔ AuthorityRepeated [builtinLayer, frugalLayer]) := by
  have hresolve : resolve [builtinLayer, frugalLayer]
      = .ok ⟨builtinsWith frugalPolicies, ["builtins", "user"]⟩ := by
    decide +kernel
  exact ⟨hresolve, keepsAuthority_iff hresolve⟩

/-- A repository layer raises the ceiling and allows the native writes that the user disabled. -/
theorem spending_widens_authority :
    resolve [builtinLayer, frugalLayer, spendingLayer]
      = .ok ⟨builtinsWith spendingPolicies, ["builtins", "user", "repository"]⟩ ∧
    frugalLayer.sessionCeiling = some 100 ∧
    frugalLayer.nativeWrites = some (.object [("mode", .string "disabled")]) ∧
    ¬ settingAllows (.object [("mode", .string "disabled")]) "fake" ∧
    ¬ KeepsAuthority [builtinLayer, frugalLayer, spendingLayer] spendingPolicies := by
  refine ⟨by decide +kernel, rfl, rfl, ?_, ?_⟩
  · rintro ⟨policy, hpolicy, hallows⟩
    cases hpolicy
    cases hallows
  · intro hkeeps
    obtain ⟨kept, hkept, hle⟩ := hkeeps.session frugalLayer (by simp) 100 rfl
    cases hkept
    exact absurd hle (by decide)

end Workbench.Config
