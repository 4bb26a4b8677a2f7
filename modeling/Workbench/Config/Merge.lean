import Workbench.Config.Encoding
import Workbench.Library.Layering

/-!
# Config: merging of layers

`resolve` lays the values of the configuration layers over each other and decodes
the result.  Objects merge member by member; the deny list and the default tool
mode of the policies have rules of their own, which apply only while both values
have the expected shape.  Every other value replaces the one below it.

The merge at a path is an `Overlay`, so a setting is decided by the last run of
layers that join.
-/

namespace Workbench.Config

open Library Json List

/-- The fields that a layer may have. -/
def topLevelKeys : List String :=
  ["version", "providers", "models", "roles", "tools", "data_sources", "mcp_servers",
   "workflows", "routing", "policies", "storage", "protocol"]

/-! ## The checks of one layer -/

/-- The only path at which a layer may hold a null. -/
def allowsNull (path : String) : Bool :=
  (".storage.retention_days".toList).isSuffixOf path.toList

mutual

/-- No null below, but for where one is allowed. -/
def rejectNulls (path : String) : Json → Except ConfigError Unit
  | .null =>
    if allowsNull path then .ok ()
    else .error (.invalid path "explicit null is not allowed here")
  | .object members => rejectNullMembers path members
  | .array items => rejectNullItems path 0 items
  | _ => .ok ()
  termination_by structural value => value

def rejectNullMembers (path : String) : List (String × Json) → Except ConfigError Unit
  | [] => .ok ()
  | (key, value) :: rest => do
    rejectNulls (path ++ "." ++ key) value
    rejectNullMembers path rest
  termination_by structural members => members

def rejectNullItems (path : String) (index : Nat) : List Json → Except ConfigError Unit
  | [] => .ok ()
  | value :: rest => do
    rejectNulls (path ++ "." ++ toString index) value
    rejectNullItems path (index + 1) rest
  termination_by structural items => items

end

/-- The checks of a layer's document. -/
def validateLayerValue (name : String) : Json → Except ConfigError Unit
  | .object members => do
    members.forM fun entry =>
      require (topLevelKeys.contains entry.1) (name ++ "." ++ entry.1) "unknown top-level field"
    rejectNulls name (.object members)
    require ((members.lookup "version").all fun version => decide (version.asU64 = some 1))
      (name ++ ".version") "only schema version 1 is supported"
  | _ => .error (.invalid name "configuration layer must be a mapping")

/-- A layer, from a checked document or a configuration; its objects are maps. -/
structure ConfigLayer where
  name : String
  value : Json
  ordered : value.isOrdered
  origin : validateLayerValue name value = .ok () ∨
    ∃ config : WorkbenchConfiguration, value = config.toValue

/-- The layer of a parsed YAML document. -/
def ConfigLayer.fromYaml (name : String) (value : Json) (ordered : value.isOrdered) :
    Except ConfigError ConfigLayer :=
  match h : validateLayerValue name value with
  | .ok () => .ok ⟨name, value, ordered, .inl h⟩
  | .error error => .error error

/-- The layer of a typed configuration. -/
def ConfigLayer.fromConfiguration (name : String) (config : WorkbenchConfiguration)
    (hordered : config.KeyOrdered) : ConfigLayer :=
  ⟨name, config.toValue, WorkbenchConfiguration.toValue_isOrdered hordered, .inr ⟨config, rfl⟩⟩

/-! ## The merge -/

/-- How restrictive a mode is; unknown ones are most so. -/
def policyRank (mode : String) : Nat :=
  if mode = "read-only" then 0
  else if mode = "approval-required" then 1
  else if mode = "denied" then 2
  else 255

/-- The path of a member. -/
def childPath (path key : String) : String :=
  if path = "" then key else path ++ "." ++ key

/-- Appends the values that are not there yet. -/
def appendMissing (base : List Json) : List Json → List Json
  | [] => base
  | value :: rest => appendMissing (if value ∈ base then base else base ++ [value]) rest

mutual

/-- Lays a value over another; two policies only tighten. -/
def mergeValue (path : String) (base overlay : Json) : Json :=
  match base, overlay with
  | .object base, .object overlay => .object (mergeMembers path base overlay)
  | .array base, .array overlay =>
    if path = "policies.global_deny" then .array (appendMissing base overlay) else .array overlay
  | .string base, .string overlay =>
    if path = "policies.default_tool_mode" then
      if policyRank base < policyRank overlay then .string overlay else .string base
    else .string overlay
  | _, overlay => overlay
  termination_by structural overlay

/-- Lays members over others, key by key. -/
def mergeMembers (path : String) (base overlay : List (String × Json)) : List (String × Json) :=
  match overlay with
  | [] => base
  | (key, value) :: rest =>
    let merged :=
      match base.lookup key with
      | some existing => mergeValue (childPath path key) existing value
      | none => value
    mergeMembers path (insertMember key merged base) rest
  termination_by structural overlay

end

/-- A valid configuration and the layers it is made of. -/
structure ResolvedConfiguration where
  configuration : WorkbenchConfiguration
  sources : List String
  deriving DecidableEq

/-- The merged value of the layers, over an empty object. -/
def mergeLayers (layers : List ConfigLayer) : Json :=
  layers.foldl (fun merged layer => mergeValue "" merged layer.value) (.object [])

/-- Merges the layers, reads the result and validates it. -/
def resolve (layers : List ConfigLayer) : Except ConfigError ResolvedConfiguration :=
  if layers.isEmpty then
    .error (.invalid "layers" "at least the built-in layer is required")
  else
    match WorkbenchConfiguration.fromValue (mergeLayers layers) with
    | none => .error (.syntaxError "the merged value is not a configuration")
    | some configuration => do
      validate configuration
      return { configuration, sources := layers.map (·.name) }

/-! ## Nulls of a checked value -/

/-- The value passes `rejectNulls` at some path. -/
def NullChecked (value : Json) : Prop := ∃ path, rejectNulls path value = .ok ()

variable {path key name : String} {child value base merged : Json} {index : Nat}
  {values : List Json}

theorem rejectNullMembers_lookup :
    ∀ {members : List (String × Json)}, rejectNullMembers path members = .ok () →
      members.lookup key = some child → rejectNulls (path ++ "." ++ key) child = .ok ()
  | [], _, h => by cases h
  | (first, value) :: rest, hchecked, h => by
    obtain ⟨_, hvalue, hrest⟩ := bind_eq_ok hchecked
    rw [lookup_cons_eq_ite] at h
    split at h
    · rename_i hkey
      cases h
      exact hkey ▸ hvalue
    · exact rejectNullMembers_lookup hrest h

theorem rejectNullItems_getElem? :
    ∀ {items : List Json} {start index : Nat}, rejectNullItems path start items = .ok () →
      items[index]? = some child → NullChecked child
  | [], _, _, _, h => by cases h
  | value :: rest, start, index, hchecked, h => by
    obtain ⟨_, hvalue, hrest⟩ := bind_eq_ok hchecked
    cases index with
    | zero =>
      rw [getElem?_cons_zero, Option.some.injEq] at h
      exact ⟨_, h ▸ hvalue⟩
    | succ index => exact rejectNullItems_getElem? hrest (by simpa using h)

theorem NullChecked.field (hchecked : NullChecked value) (h : value.field name index = some child) :
    NullChecked child := by
  obtain ⟨path, hpath⟩ := hchecked
  cases value with
  | object => exact ⟨_, rejectNullMembers_lookup (by simpa [rejectNulls] using hpath) h⟩
  | array => exact rejectNullItems_getElem? (by simpa [rejectNulls] using hpath) h
  | _ => cases h

/-- A null stands under a key that ends like `retention_days`. -/
theorem NullChecked.null_member (hchecked : NullChecked value) (h : value.member key = some .null) :
    key = "" ∨ key.toList.getLast? = some 's' := by
  obtain ⟨path, hpath⟩ := hchecked
  cases value with
  | object =>
    have hnull := rejectNullMembers_lookup (by simpa [rejectNulls] using hpath) h
    have hends : (".storage.retention_days".toList) <:+ (path ++ "." ++ key).toList := by
      rw [rejectNulls] at hnull
      split at hnull
      · rename_i hallows
        simpa [allowsNull] using hallows
      · cases hnull
    have hlast := hends.getLast (by decide)
    by_cases hempty : key = ""
    · exact .inl hempty
    refine .inr ?_
    have hne : key.toList ≠ [] := by simpa using hempty
    simp only [String.toList_append] at hlast
    rw [getLast_append_of_ne_nil _ hne] at hlast
    rw [getLast?_eq_some_getLast hne, ← hlast]
    rfl
  | _ => cases h

/-! ## The merge as an overlay -/

/-- The merge combines these two values; otherwise the second replaces the first. -/
def joins (path : String) : Json → Json → Bool
  | .object _, .object _ => true
  | .array _, .array _ => decide (path = "policies.global_deny")
  | .string _, .string _ => decide (path = "policies.default_tool_mode")
  | _, _ => false

theorem mergeValue_of_not_joins {top : Json} (hnot : joins path base top = false) :
    mergeValue path base top = top := by
  cases base <;> cases top <;> simp_all [joins, mergeValue]

theorem joins_mergeValue (path : String) (base top next : Json) :
    joins path (mergeValue path base top) next = joins path top next := by
  cases base <;> cases top <;> simp only [mergeValue] <;> cases next <;>
    (repeat' split) <;> simp_all [joins]

/-- The merge of the values at a path. -/
def mergeAt (path : String) : Overlay Json where
  joins := joins path
  combine := mergeValue path
  combine_of_not_joins := fun _ _ => mergeValue_of_not_joins
  joins_combine := joins_mergeValue path

theorem mergeMembers_cons (path key : String) (value : Json) (base rest : List (String × Json)) :
    mergeMembers path base ((key, value) :: rest)
      = mergeMembers path
          (insertMember key ((mergeAt (childPath path key)).put (base.lookup key) value) base)
          rest := by
  rw [mergeMembers]
  cases base.lookup key <;> rfl

theorem lookup_mergeMembers (path key : String) :
    ∀ overlay base, (overlay.map (·.1)).Nodup →
      (mergeMembers path base overlay).lookup key
        = match overlay.lookup key with
          | none => base.lookup key
          | some value => some ((mergeAt (childPath path key)).put (base.lookup key) value)
  | [], base, _ => by simp [mergeMembers]
  | (first, value) :: rest, base, hnodup => by
    rw [map_cons, nodup_cons] at hnodup
    rw [mergeMembers_cons, lookup_mergeMembers path key rest _ hnodup.2]
    by_cases hkey : key = first
    · subst hkey
      have habsent : rest.lookup key = none := by
        rw [lookup_eq_none_iff]
        intro entry hmem
        simp only [bne_iff_ne, ne_eq]
        intro heq
        exact hnodup.1 (mem_map.mpr ⟨entry, hmem, heq.symm⟩)
      simp [habsent, lookup_insertMember]
    · simp [lookup_cons_eq_ite, lookup_insertMember, hkey]

theorem member_mergeValue {base top : List (String × Json)}
    (hordered : (object top).isOrdered) :
    (mergeValue path (.object base) (.object top)).member key
      = match (object top).member key with
        | none => (object base).member key
        | some value => some ((mergeAt (childPath path key)).put
            ((object base).member key) value) := by
  simp only [isOrdered, Bool.and_eq_true] at hordered
  exact lookup_mergeMembers path key top base (nodup_of_ascending hordered.1)

def isObject : Json → Bool
  | .object _ => true
  | _ => false

theorem exists_of_isObject (h : isObject value) : ∃ members, value = .object members := by
  cases value with
  | object members => exact ⟨members, rfl⟩
  | _ => cases h

theorem isObject_stack (hobjects : ∀ value ∈ values, isObject value)
    (hstack : (mergeAt path).stack values = some merged) : isObject merged := by
  revert hobjects
  refine (mergeAt path).stack_induction ?_ ?_ hstack
  · intro value hobjects
    exact hobjects value (mem_singleton_self value)
  · intro values base value _ hobjects
    obtain ⟨members, rfl⟩ := exists_of_isObject (hobjects value (by simp))
    cases base <;> rfl

theorem member_stack (path key : String)
    (hobjects : ∀ value ∈ values, isObject value ∧ value.isOrdered) :
    ((mergeAt path).stack values).bind (member key)
      = (mergeAt (childPath path key)).stack (values.filterMap (member key)) := by
  induction values using reverseRecOn with
  | nil => rfl
  | append_singleton values value ih =>
    have hbelow : ∀ value ∈ values, isObject value = true ∧ value.isOrdered :=
      fun other hmem => hobjects other (by simp [hmem])
    obtain ⟨hobject, hordered⟩ := hobjects value (by simp)
    obtain ⟨members, rfl⟩ := exists_of_isObject hobject
    have ih := ih hbelow
    rw [Overlay.stack_concat, filterMap_append, Option.bind_some]
    cases hbase : (mergeAt path).stack values with
    | none =>
      rw [hbase, Option.bind_none] at ih
      cases hmember : (object members).member key with
      | none | some child => simp [Overlay.put, hmember, ← ih]
    | some base =>
      obtain ⟨below, rfl⟩ := exists_of_isObject
        (isObject_stack (fun other hmem => (hbelow other hmem).1) hbase)
      rw [hbase, Option.bind_some] at ih
      change (mergeValue path (.object below) (.object members)).member key = _
      rw [member_mergeValue hordered]
      cases hmember : (object members).member key with
      | none | some child => simp [hmember, ← ih]

/-! ## Runs of layers -/

/-- The values of a field in the last run of the values that hold it. -/
def fieldRun (path name : String) (index : Nat) (values : List Json) : List Json :=
  (mergeAt (childPath path name)).lastRun (values.filterMap (field name index))

/-- What holds of every value inside a layer. -/
structure LayerValue (value : Json) : Prop where
  ordered : value.isOrdered
  checked : NullChecked value

theorem LayerValue.field (hlayer : LayerValue value) (h : value.field name index = some child) :
    LayerValue child := by
  refine ⟨?_, hlayer.checked.field h⟩
  cases value with
  | object members =>
    exact isOrdered_member hlayer.ordered (show (object members).member name = _ from h)
  | array items =>
    exact itemsOrdered_mem hlayer.ordered _ (mem_of_getElem? h)
  | _ => cases h

/-- The values of a run are all objects, or there is one at most. -/
structure RunShape (values : List Json) : Prop where
  shape : (∀ value ∈ values, isObject value) ∨ values.length ≤ 1
  layers : ∀ value ∈ values, LayerValue value

/-- A path at which arrays and texts replace each other. -/
def isPlain (path : String) : Bool :=
  path != "policies.global_deny" && path != "policies.default_tool_mode"

theorem not_joins_of_plain (hplain : isPlain path) {last : Json}
    (hlast : isObject last = false) (below : Json) : joins path below last = false := by
  simp only [isPlain, Bool.and_eq_true, bne_iff_ne, ne_eq] at hplain
  cases below <;> cases last <;> simp_all [joins, isObject]

theorem lastRun_shape (hplain : isPlain path) (hlayers : ∀ value ∈ values, LayerValue value) :
    RunShape ((mergeAt path).lastRun values) := by
  refine ⟨?_, fun value hmem => hlayers value ((Overlay.lastRun_suffix _ values).subset hmem)⟩
  cases hlast : values.getLast? with
  | none =>
    rw [getLast?_eq_none_iff] at hlast
    exact .inr (by simp [hlast])
  | some last =>
    cases hobject : isObject last with
    | true =>
      refine .inl ((mergeAt path).lastRun_shares ?_ hlast hobject)
      intro first second (hjoins : joins path first second = true)
      cases first <;> cases second <;> simp_all [joins, isObject]
    | false =>
      refine .inr ?_
      rw [(mergeAt path).lastRun_of_not_joins hlast (not_joins_of_plain hplain hobject)]
      exact Nat.le_refl 1

theorem fieldRun_layers (hlayers : ∀ value ∈ values, LayerValue value) :
    ∀ value ∈ fieldRun path name index values, LayerValue value := by
  intro child hmem
  obtain ⟨value, hvalue, hfield⟩ :=
    mem_filterMap.mp ((Overlay.lastRun_suffix _ _).subset hmem)
  exact (hlayers value hvalue).field hfield

theorem fieldRun_shape (hplain : isPlain (childPath path name)) (hshape : RunShape values) :
    RunShape (fieldRun path name index values) := by
  apply lastRun_shape hplain
  intro child hmem
  obtain ⟨value, hvalue, hfield⟩ := mem_filterMap.mp hmem
  exact (hshape.layers value hvalue).field hfield

theorem field_stack (path name : String) (index : Nat) (hshape : RunShape values) :
    ((mergeAt path).stack values).bind (field name index)
      = (mergeAt (childPath path name)).stack (fieldRun path name index values) := by
  rw [fieldRun, Overlay.stack_lastRun]
  rcases hshape.shape with hobjects | hone
  · have hmembers : values.filterMap (field name index)
        = values.filterMap (member name) := filterMap_congr fun value hmem => by
      obtain ⟨members, rfl⟩ := exists_of_isObject (hobjects value hmem)
      rfl
    rw [hmembers, ← member_stack path name fun value hmem =>
      ⟨hobjects value hmem, (hshape.layers value hmem).ordered⟩]
    cases hstack : (mergeAt path).stack values with
    | none => rfl
    | some merged =>
      obtain ⟨members, rfl⟩ := exists_of_isObject (isObject_stack hobjects hstack)
      rfl
  · match values, hone with
    | [], _ => rfl
    | [value], _ =>
      cases hfield : value.field name index with
      | none | some child => simp [hfield]

/-- Two values that join are of one kind, so they join the same values. -/
theorem joins_of_joins {first second : Json} (h : joins path first second) (probe : Json) :
    joins path first probe ↔ joins path second probe := by
  cases first <;> cases second <;> cases probe <;> simp_all [joins]

/-- Where only objects merge, any other value stands alone in its run. -/
theorem lastRun_of_stack_plain (hplain : isPlain path)
    (hstack : (mergeAt path).stack ((mergeAt path).lastRun values) = some merged)
    (hobject : isObject merged = false) : (mergeAt path).lastRun values = [merged] := by
  rw [Overlay.stack_lastRun] at hstack
  obtain ⟨last, hlast, hjoins⟩ := (mergeAt path).joins_stack hstack
  have hprobe : ∀ value, joins path value (.object []) = isObject value := by
    intro value
    cases value <;> rfl
  have hnot : isObject last = false := by
    rw [← hprobe, ← hobject, ← hprobe merged]
    exact (hjoins (.object [])).symm
  have hrun := (mergeAt path).lastRun_of_not_joins hlast (not_joins_of_plain hplain hnot)
  rw [hrun]
  rw [← Overlay.stack_lastRun, hrun, Overlay.stack_singleton, Option.some.injEq] at hstack
  rw [hstack]

theorem mergeValue_eq_null {top : Json} (h : mergeValue path base top = .null) : top = .null := by
  cases base <;> cases top <;> simp only [mergeValue] at h <;> (repeat' split at h) <;> simp_all

theorem null_mem_of_stack (hstack : (mergeAt path).stack values = some .null) : .null ∈ values := by
  suffices h : ∀ merged, (mergeAt path).stack values = some merged → merged = .null →
      .null ∈ values from h _ hstack rfl
  intro merged hmerged
  refine (mergeAt path).stack_induction ?_ ?_ hmerged
  · intro value hnull
    exact mem_singleton.mpr hnull.symm
  · intro values base value _ hnull
    exact mem_append_right _ (mem_singleton.mpr (mergeValue_eq_null hnull).symm)

/-- The names of an enumeration that no null can stand under. -/
def namesSafe {α : Type} (variants : List (String × α)) : Bool :=
  variants.all fun entry => entry.1 != "" && entry.1.toList.getLast? != some 's'

/-- In merged layers a variant is always given by its name. -/
theorem variant_of_stack {α : Type} {variants : List (String × α)}
    (hnames : namesSafe variants) (hlayers : ∀ value ∈ values, LayerValue value) {a : α}
    (hstack : (mergeAt path).stack values = some merged)
    (hvariant : asVariant variants merged = some a) :
    ∃ name, merged = .string name ∧ variants.lookup name = some a := by
  unfold asVariant at hvariant
  split at hvariant
  · exact ⟨_, rfl, hvariant⟩
  · rename_i name
    have hobjects := (mergeAt path).lastRun_joins
      (fun _ _ h => joins_of_joins h (.object [])) hstack rfl
    have hrun : ∀ value ∈ (mergeAt path).lastRun values,
        isObject value = true ∧ value.isOrdered = true := by
      intro value hmem
      refine ⟨?_, (hlayers value ((Overlay.lastRun_suffix _ _).subset hmem)).ordered⟩
      have hjoins := hobjects value hmem
      cases value <;> simp_all [mergeAt, joins, isObject]
    have hmember := member_stack path name hrun
    rw [Overlay.stack_lastRun, hstack, Option.bind_some, member_object,
      lookup_cons_eq_ite, if_pos rfl] at hmember
    obtain ⟨value, hvalue, hnull⟩ := mem_filterMap.mp (null_mem_of_stack hmember.symm)
    have hchecked := (hlayers value ((Overlay.lastRun_suffix _ _).subset hvalue)).checked
    have hsafe : name ≠ "" ∧ name.toList.getLast? ≠ some 's' := by
      have hall := all_eq_true.mp hnames (name, a) (mem_of_lookup hvariant)
      simp only [Bool.and_eq_true, bne_iff_ne, ne_eq] at hall
      exact hall
    rcases hchecked.null_member hnull with h | h
    · exact absurd h hsafe.1
    · exact absurd h hsafe.2
  · cases hvariant

/-! ## The merged layers -/

theorem ConfigLayer.isObject (layer : ConfigLayer) : isObject layer.value := by
  rcases layer.origin with hvalid | ⟨config, hconfig⟩
  · cases hvalue : layer.value with
    | object => rfl
    | _ => rw [hvalue] at hvalid; cases hvalid
  · rw [hconfig]
    rfl

theorem rejectNullMembers_of_forall :
    ∀ {members : List (String × Json)},
      (∀ entry ∈ members, ∀ path, rejectNulls path entry.2 = .ok ()) →
        rejectNullMembers path members = .ok ()
  | [], _ => by rw [rejectNullMembers]
  | (key, value) :: rest, h => by
    rw [rejectNullMembers, h (key, value) mem_cons_self]
    exact rejectNullMembers_of_forall fun entry hmem => h entry (mem_cons_of_mem _ hmem)

/-- A record without nulls in its fields passes at every path. -/
theorem rejectNulls_record {fields : List (String × Option Json)}
    (h : ∀ field ∈ fields, ∀ value, field.2 = some value →
      ∀ path, rejectNulls path value = .ok ()) (path : String) :
    rejectNulls path (.record fields) = .ok () := by
  apply rejectNullMembers_of_forall
  intro entry hmem
  exact h _ (mem_recordMembers hmem) entry.2 rfl

theorem rejectNulls_ofStrings (texts : List String) (path : String) :
    rejectNulls path (.ofStrings texts) = .ok () := by
  rw [ofStrings, rejectNulls]
  generalize 0 = start
  induction texts generalizing start with
  | nil => rw [map_nil, rejectNullItems]
  | cons text texts ih =>
    exact ih (start + 1)

theorem rejectNulls_cost (cost : CostPolicy) (path : String) :
    rejectNulls path cost.toValue = .ok () := by
  apply rejectNulls_record
  simp only [forall_mem_cons]
  refine ⟨?_, ?_, forall_mem_nil _⟩
  · rintro value ⟨⟩ path
    rfl
  · intro value hvalue path
    obtain ⟨limit, _, rfl⟩ := Option.map_eq_some_iff.mp hvalue
    rfl

theorem rejectNulls_nativeWrites (policy : ProviderNativeWritePolicy) (path : String) :
    rejectNulls path policy.toValue = .ok () := by
  apply rejectNulls_record
  simp only [forall_mem_cons]
  refine ⟨?_, ?_, forall_mem_nil _⟩
  · rintro value ⟨⟩ path
    rfl
  intro value hvalue path
  simp only [unlessEmpty] at hvalue
  split at hvalue
  · cases hvalue
  · cases hvalue
    exact rejectNulls_ofStrings _ path

theorem rejectNulls_policies (policies : Policies) (path : String) :
    rejectNulls path policies.toValue = .ok () := by
  apply rejectNulls_record
  simp only [forall_mem_cons]
  refine ⟨?_, ?_, ?_, ?_, ?_, forall_mem_nil _⟩
  · rintro value ⟨⟩ path
    rfl
  · rintro value ⟨⟩ path
    exact rejectNulls_ofStrings _ path
  · rintro value ⟨⟩ path
    rfl
  · intro value hvalue path
    obtain ⟨cost, _, rfl⟩ := Option.map_eq_some_iff.mp hvalue
    exact rejectNulls_cost cost path
  · intro value hvalue path
    split at hvalue
    · cases hvalue
    · cases hvalue
      exact rejectNulls_nativeWrites _ path

/-- The policies of a layer, in whatever shape the layer gives them. -/
def ConfigLayer.policies (layer : ConfigLayer) : Option Json := layer.value.member "policies"

theorem ConfigLayer.policies_layerValue {layer : ConfigLayer} (h : layer.policies = some value) :
    LayerValue value := by
  refine ⟨isOrdered_member layer.ordered h, ?_⟩
  rcases layer.origin with hvalid | ⟨config, hconfig⟩
  · obtain ⟨members, hmembers⟩ := exists_of_isObject layer.isObject
    rw [ConfigLayer.policies, hmembers] at h
    rw [hmembers, validateLayerValue] at hvalid
    obtain ⟨_, _, hrest⟩ := bind_eq_ok hvalid
    obtain ⟨_, hnulls, _⟩ := bind_eq_ok hrest
    exact @NullChecked.field "policies" _ _ 0 ⟨_, hnulls⟩ h
  · refine ⟨"", ?_⟩
    have hmember : config.toValue.member "policies" = some config.policies.toValue := by
      simp [WorkbenchConfiguration.toValue, member_record_cons]
    rw [ConfigLayer.policies, hconfig, hmember, Option.some.injEq] at h
    exact h ▸ rejectNulls_policies config.policies ""

theorem mergeLayers_eq_stack (layers : List ConfigLayer) :
    (mergeAt "").stack (.object [] :: layers.map (·.value)) = some (mergeLayers layers) := by
  induction layers using reverseRecOn with
  | nil => rfl
  | append_singleton _ _ ih =>
    rw [map_append, ← cons_append, map_singleton, Overlay.stack_concat, ih]
    simp [mergeLayers, Overlay.put, mergeAt]

theorem member_mergeLayers (layers : List ConfigLayer) (key : String) :
    (mergeLayers layers).member key
      = (mergeAt key).stack ((layers.map (·.value)).filterMap (member key)) := by
  have hobjects : ∀ value ∈ object [] :: layers.map (·.value),
      Config.isObject value = true ∧ value.isOrdered = true := by
    intro value hmem
    rcases mem_cons.mp hmem with rfl | hmem
    · exact ⟨rfl, rfl⟩
    · obtain ⟨layer, _, rfl⟩ := mem_map.mp hmem
      exact ⟨layer.isObject, layer.ordered⟩
  have hstack := member_stack "" key hobjects
  rw [mergeLayers_eq_stack, Option.bind_some] at hstack
  rw [hstack]
  simp [childPath, filterMap_cons]

theorem isObject_mergeLayers (layers : List ConfigLayer) :
    Config.isObject (mergeLayers layers) := by
  refine isObject_stack ?_ (mergeLayers_eq_stack layers)
  intro value hmem
  rcases mem_cons.mp hmem with rfl | hmem
  · rfl
  · obtain ⟨layer, _, rfl⟩ := mem_map.mp hmem
    exact layer.isObject

/-- What an accepted list of layers resolves to. -/
theorem resolve_eq_ok {layers : List ConfigLayer} {resolved : ResolvedConfiguration}
    (h : resolve layers = .ok resolved) :
    WorkbenchConfiguration.fromValue (mergeLayers layers) = some resolved.configuration ∧
      validate resolved.configuration = .ok () := by
  obtain ⟨-, h⟩ := ok_of_guard h
  split at h
  · cases h
  · rename_i configuration hdecode
    obtain ⟨_, hvalid, hresult⟩ := bind_eq_ok h
    cases hresult
    exact ⟨hdecode, hvalid⟩

end Workbench.Config
