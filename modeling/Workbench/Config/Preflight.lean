import Workbench.Config.Validate

/-!
# Config: role resolution against the available providers
-/

namespace Workbench.Config

open Library

/-- Whether a provider can be used now. -/
inductive Authentication where
  | available
  | unavailable
  | expired
  | interactiveRequired
  deriving DecidableEq

/-- What a provider says of itself. -/
structure ProviderCapabilities where
  adapterId : String
  adapterVersion : String
  protocol : String
  authentication : Authentication
  capabilities : List Capability
  operations : List Operation

/-- The model that serves a role. -/
structure ResolvedModel where
  role : String
  modelAlias : String
  provider : String
  runtimeModel : String
  usedFallback : Bool

/-- The loop over the operations; `seen` holds the names met so far. -/
def validateOperations : List String → List Operation → Except ConfigError Unit
  | _, [] => .ok ()
  | seen, operation :: rest => do
    require (!(operation.name == "" || decide (operation.name ∈ seen)))
      "provider_capabilities.operations" "operation names must be non-empty and unique"
    require (!(operation.idempotent && operation.effectClass.neverIdempotent))
      ("provider_capabilities.operations." ++ operation.name)
      "effect class cannot be declared idempotent"
    validateOperations (operation.name :: seen) rest

/-- The checks of what a provider says of itself. -/
def ProviderCapabilities.validate (capabilities : ProviderCapabilities) :
    Except ConfigError Unit := do
  require (!(capabilities.adapterId == "" || capabilities.adapterVersion == "" ||
      capabilities.protocol == "" || capabilities.operations.isEmpty))
    "provider_capabilities" "adapter fields and operations must not be empty"
  require (decide capabilities.capabilities.Nodup)
    "provider_capabilities.capabilities" "capabilities must be unique"
  validateOperations [] capabilities.operations

/-- Tries the aliases in order; `index` is the position of the first one. -/
def resolveAliases (config : WorkbenchConfiguration) (roleName : String) (role : Role)
    (available : Table ProviderCapabilities) :
    Nat → List String → Except ConfigError ResolvedModel
  | _, [] => .error (.capabilityUnavailable roleName)
  | index, name :: rest =>
    match config.models.lookup name with
    | none => .error (.missingModel name)
    | some model =>
      match available.lookup model.provider with
      | none => resolveAliases config roleName role available (index + 1) rest
      | some capabilities => do
        capabilities.validate
        if capabilities.authentication = .available ∧
            role.requiredCapabilities.all (fun c => decide (c ∈ capabilities.capabilities))
        then
          pure { role := roleName, modelAlias := name, provider := model.provider
                 runtimeModel := model.runtimeModel, usedFallback := decide (0 < index) }
        else resolveAliases config roleName role available (index + 1) rest

/-- The model of a role, or its first usable fallback. -/
def resolveRole (config : WorkbenchConfiguration) (roleName : String)
    (available : Table ProviderCapabilities) : Except ConfigError ResolvedModel := do
  validateIdentifier roleName "role"
  match config.roles.lookup roleName with
  | none => .error (.invalid "role" "unknown role")
  | some role =>
    resolveAliases config roleName role available 0 (role.model :: role.fallbackModels)

/-! ## What a resolved role offers -/

/-- The provider is authenticated and offers every capability that the role requires. -/
def serves (available : Table ProviderCapabilities) (role : Role) (provider : String) : Bool :=
  (available.lookup provider).any fun capabilities =>
    decide (capabilities.authentication = .available) &&
      role.requiredCapabilities.all fun c => decide (c ∈ capabilities.capabilities)

/-- The model of an alias runs on a provider that serves the role. -/
def aliasServes (config : WorkbenchConfiguration) (available : Table ProviderCapabilities)
    (role : Role) (name : String) : Bool :=
  (config.models.lookup name).any fun model => serves available role model.provider

theorem require_bind_ne {check : Bool} {path message asked : String}
    {rest : Unit → Except ConfigError Unit}
    (h : rest () ≠ .error (.capabilityUnavailable asked)) :
    (require check path message >>= rest) ≠ .error (.capabilityUnavailable asked) := by
  unfold require
  split
  · exact h
  · exact fun h => by cases h

theorem validateOperations_ne (asked : String) (operations : List Operation) :
    ∀ seen, validateOperations seen operations ≠ .error (.capabilityUnavailable asked) := by
  induction operations with
  | nil => simp [validateOperations]
  | cons operation rest ih => exact fun seen => require_bind_ne (require_bind_ne (ih _))

/-- What the result of trying the aliases says about them. -/
def Resolution (config : WorkbenchConfiguration) (roleName : String) (role : Role)
    (available : Table ProviderCapabilities) (names : List String) :
    Except ConfigError ResolvedModel → Prop
  | .ok resolved => resolved.role = roleName ∧ resolved.modelAlias ∈ names ∧
      aliasServes config available role resolved.modelAlias ∧
      (config.models.lookup resolved.modelAlias).map (·.provider) = some resolved.provider
  | .error (.capabilityUnavailable _) =>
    ∀ name ∈ names, aliasServes config available role name = false
  | .error _ => True

section

variable {config : WorkbenchConfiguration} {roleName : String} {role : Role}
  {available : Table ProviderCapabilities} {names : List String}

theorem Resolution.skip {name : String} {result : Except ConfigError ResolvedModel}
    (hname : aliasServes config available role name = false)
    (h : Resolution config roleName role available names result) :
    Resolution config roleName role available (name :: names) result := by
  match result, h with
  | .ok _, ⟨hrole, hmem, h⟩ => exact ⟨hrole, List.mem_cons_of_mem _ hmem, h⟩
  | .error e, h => cases e <;> simp_all [Resolution]

/-- The alias that is taken serves the role; none is taken only when none does. -/
theorem resolveAliases_spec (index : Nat) :
    Resolution config roleName role available names
      (resolveAliases config roleName role available index names) := by
  induction names generalizing index with
  | nil => simp [resolveAliases, Resolution]
  | cons name rest ih =>
    unfold resolveAliases
    split
    · trivial
    rename_i model hmodel
    split
    · rename_i hprovider
      exact (ih (index + 1)).skip (by simp [aliasServes, serves, hmodel, hprovider])
    rename_i capabilities hprovider
    cases hvalid : capabilities.validate with
    | error e =>
      cases e with
      | capabilityUnavailable asked =>
        exact absurd hvalid (require_bind_ne
          (require_bind_ne (validateOperations_ne asked _ _)))
      | _ => trivial
    | ok _ =>
      split
      · rename_i hoffers
        exact ⟨rfl, List.mem_cons_self, by
          simp [aliasServes, serves, hmodel, hprovider, hoffers.1, hoffers.2], by simp [hmodel]⟩
      · rename_i hoffers
        refine (ih (index + 1)).skip ?_
        simpa [aliasServes, serves, hmodel, hprovider] using hoffers

theorem resolveRole_spec :
    (∃ path message, resolveRole config roleName available = .error (.invalid path message)) ∨
      ∃ role, config.roles.lookup roleName = some role ∧
        Resolution config roleName role available (role.model :: role.fallbackModels)
          (resolveRole config roleName available) := by
  unfold resolveRole validateIdentifier
  split
  · cases hrole : config.roles.lookup roleName with
    | none => exact .inl ⟨_, _, rfl⟩
    | some role => exact .inr ⟨role, rfl, resolveAliases_spec 0⟩
  · exact .inl ⟨_, _, rfl⟩

/-- The resolution takes the chosen alias, or reports that there is none. -/
def Takes (config : WorkbenchConfiguration) (roleName : String)
    (result : Except ConfigError ResolvedModel) : Option String → Prop
  | none => result = .error (.capabilityUnavailable roleName)
  | some name => ∃ model fallback,
      result = .ok ⟨roleName, name, model.provider, model.runtimeModel, fallback⟩ ∧
        config.models.lookup name = some model ∧ (config.providers.lookup model.provider).isSome

/-- The alias names a model of a configured provider. -/
def AliasKnown (config : WorkbenchConfiguration) (name : String) : Prop :=
  ∃ model, config.models.lookup name = some model ∧ (config.providers.lookup model.provider).isSome

/-- The resolution ends with what is wrong about the provider of one of the aliases. -/
def MeetsMalformed (config : WorkbenchConfiguration) (available : Table ProviderCapabilities)
    (names : List String) (result : Except ConfigError ResolvedModel) : Prop :=
  ∃ name ∈ names, ∃ model capabilities error, config.models.lookup name = some model ∧
    available.lookup model.provider = some capabilities ∧ capabilities.validate = .error error ∧
    result = .error error

theorem resolveAliases_takes (hnames : ∀ name ∈ names, AliasKnown config name) (index : Nat) :
    MeetsMalformed config available names
        (resolveAliases config roleName role available index names) ∨
      Takes config roleName (resolveAliases config roleName role available index names)
        (names.find? (aliasServes config available role)) := by
  induction names generalizing index with
  | nil => exact .inr rfl
  | cons name rest ih =>
    obtain ⟨⟨model, hmodel, hknown⟩, hrest⟩ := List.forall_mem_cons.mp hnames
    have hlater := (ih hrest (index + 1)).imp_left fun ⟨later, hmem, hmalformed⟩ =>
      (⟨later, List.mem_cons_of_mem _ hmem, hmalformed⟩ :
        MeetsMalformed config available (name :: rest) _)
    unfold resolveAliases
    simp only [hmodel]
    cases hprovider : available.lookup model.provider with
    | none =>
      rw [List.find?_cons_of_neg (by simp [aliasServes, serves, hmodel, hprovider])]
      exact hlater
    | some capabilities =>
      cases hrecord : capabilities.validate with
      | error error =>
        exact .inl ⟨name, List.mem_cons_self, model, capabilities, error, hmodel, hprovider,
          hrecord, by simp only [hrecord, bind, Except.bind]⟩
      | ok _ =>
        simp only [hrecord, bind, Except.bind]
        split
        · rename_i hoffers
          rw [List.find?_cons_of_pos (by
            simp [aliasServes, serves, hmodel, hprovider, hoffers.1, hoffers.2])]
          exact .inr ⟨model, _, rfl, hmodel, hknown⟩
        · rename_i hoffers
          rw [List.find?_cons_of_neg (by
            simpa [aliasServes, serves, hmodel, hprovider] using hoffers)]
          exact hlater

/-- A role takes the first alias that serves it, unless a provider it meets is described badly. -/
theorem resolveRole_takes (hvalid : validate config = .ok ())
    (hrole : config.roles.lookup roleName = some role) :
    MeetsMalformed config available (role.model :: role.fallbackModels)
        (resolveRole config roleName available) ∨
      Takes config roleName (resolveRole config roleName available)
        ((role.model :: role.fallbackModels).find? (aliasServes config available role)) := by
  iterate 7 obtain ⟨_, _, hvalid⟩ := bind_eq_ok hvalid
  obtain ⟨_, hmodels, hvalid⟩ := bind_eq_ok hvalid
  iterate 3 obtain ⟨_, _, hvalid⟩ := bind_eq_ok hvalid
  obtain ⟨_, hroles, -⟩ := bind_eq_ok hvalid
  obtain ⟨_, hname, h⟩ := bind_eq_ok (forM_eq_ok hroles _ (mem_of_lookup hrole))
  obtain ⟨_, hmodel, h⟩ := bind_eq_ok h
  iterate 6 obtain ⟨_, _, h⟩ := bind_eq_ok h
  have hknown : ∀ name, (config.models.lookup name).isSome → AliasKnown config name := by
    intro name hsome
    obtain ⟨model, hlookup⟩ := Option.isSome_iff_exists.mp hsome
    obtain ⟨_, _, h⟩ := bind_eq_ok (forM_eq_ok hmodels _ (mem_of_lookup hlookup))
    obtain ⟨_, hprovider, -⟩ := bind_eq_ok h
    exact ⟨model, hlookup, require_eq_ok hprovider⟩
  unfold resolveRole validateIdentifier
  rw [if_pos (validateIdentifier_eq_ok hname), hrole]
  exact resolveAliases_takes (List.forall_mem_cons.mpr ⟨hknown _ (require_eq_ok hmodel),
    fun name hmem => hknown _ (require_eq_ok (forM_eq_ok h name hmem))⟩) 0

end

end Workbench.Config
