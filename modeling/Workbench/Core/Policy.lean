import Workbench.Core.Value

/-!
# Core: monotonic policy resolution
-/

namespace Workbench.Core

open List

/-- Effective permission for one action. -/
inductive PermissionMode where
  | readOnly
  | approvalRequired
  | denied
  deriving DecidableEq

namespace PermissionMode

def restrictionRank : PermissionMode → Nat
  | .readOnly => 0
  | .approvalRequired => 1
  | .denied => 2

/-- The more restrictive of two modes. -/
def intersect (mode other : PermissionMode) : PermissionMode :=
  if other.restrictionRank ≤ mode.restrictionRank then mode else other

theorem rank_intersect (mode other : PermissionMode) :
    (mode.intersect other).restrictionRank
      = max mode.restrictionRank other.restrictionRank := by
  cases mode <;> cases other <;> rfl

theorem restrictionRank_injective : Function.Injective restrictionRank := by
  intro mode other h
  cases mode <;> cases other <;> first | rfl | cases h

theorem rank_le_one_iff {mode : PermissionMode} : mode.restrictionRank ≤ 1 ↔ mode ≠ .denied := by
  cases mode <;> decide

end PermissionMode

/-- Origin of an effective policy restriction. -/
inductive PolicySource where
  | builtIn
  | user
  | repository
  | session
  | role
  | workflow
  | effectClass
  deriving DecidableEq

/-- The external effect of an action. -/
inductive EffectClass where
  | none
  | idempotentRead
  | idempotentWrite
  | paidInference
  | nonIdempotentWrite
  | production
  | credential
  deriving DecidableEq

/-- One resolved policy layer. -/
structure PolicyLayer where
  source : PolicySource
  defaultMode : PermissionMode
  toolModes : List (ToolId × PermissionMode)
  deniedTools : List ToolId

/-- Explainable policy result. -/
structure PolicyDecision where
  mode : PermissionMode
  authoritativeSource : PolicySource
  deriving DecidableEq

def PolicyLayer.proposed (layer : PolicyLayer) (tool : ToolId) : PermissionMode :=
  if tool ∈ layer.deniedTools then .denied
  else (layer.toolModes.lookup tool).getD layer.defaultMode

/-- Intersects every layer so later configuration cannot widen authority. -/
def resolveToolPolicy (tool : ToolId) (layers : List PolicyLayer) : PolicyDecision :=
  layers.foldl
    (fun decision layer =>
      let intersected := decision.mode.intersect (layer.proposed tool)
      if intersected ≠ decision.mode then ⟨intersected, layer.source⟩ else decision)
    ⟨.readOnly, .builtIn⟩

/-- The most restrictive mode that was met is one of them. -/
theorem intersect_foldl_spec (modes : List PermissionMode) (start : PermissionMode) :
    modes.foldl PermissionMode.intersect start ∈ start :: modes ∧
      ∀ mode ∈ start :: modes,
        mode.restrictionRank ≤ (modes.foldl PermissionMode.intersect start).restrictionRank := by
  induction modes generalizing start with
  | nil => simp
  | cons first rest ih =>
    have hrank := PermissionMode.rank_intersect start first
    obtain ⟨hmem, hle⟩ := ih (start.intersect first)
    have hboth : start.intersect first = start ∨ start.intersect first = first := by
      unfold PermissionMode.intersect
      split <;> simp
    grind

/-- The mode of a decision is what the layers propose together. -/
theorem resolveToolPolicy_mode (tool : ToolId) (layers : List PolicyLayer) :
    (resolveToolPolicy tool layers).mode
      = (layers.map (PolicyLayer.proposed · tool)).foldl PermissionMode.intersect .readOnly := by
  unfold resolveToolPolicy
  generalize hstart : PolicyDecision.mk .readOnly .builtIn = start
  rw [show PermissionMode.readOnly = start.mode from hstart ▸ rfl]
  clear hstart
  induction layers generalizing start with
  | nil => rfl
  | cons first rest ih =>
    rw [foldl_cons, ih, map_cons, foldl_cons]
    congr 1
    dsimp only
    split
    · rfl
    · next hsame => exact (not_not.mp hsame).symm

variable {layers : List PolicyLayer}

theorem rank_proposed_le {tool : ToolId} {layer : PolicyLayer} (hmem : layer ∈ layers) :
    (layer.proposed tool).restrictionRank
      ≤ (resolveToolPolicy tool layers).mode.restrictionRank := by
  rw [resolveToolPolicy_mode]
  exact (intersect_foldl_spec _ _).2 _ (mem_cons_of_mem _ (mem_map_of_mem hmem))

/-- A restriction is that of a layer. -/
theorem resolveToolPolicy_mem (tool : ToolId) (layers : List PolicyLayer) :
    (resolveToolPolicy tool layers).mode = .readOnly ∨
      ∃ layer ∈ layers, layer.proposed tool = (resolveToolPolicy tool layers).mode := by
  have hmem := (intersect_foldl_spec (layers.map (PolicyLayer.proposed · tool)) .readOnly).1
  rwa [← resolveToolPolicy_mode, mem_cons, mem_map] at hmem

theorem exists_denied {tool : ToolId} (h : (resolveToolPolicy tool layers).mode = .denied) :
    ∃ layer ∈ layers, layer.proposed tool = .denied := by
  simpa [h] using resolveToolPolicy_mem tool layers

/-- What more layers propose is at least as restrictive, in whatever order they come. -/
theorem rank_resolveToolPolicy_le {more : List PolicyLayer} (tool : ToolId) (h : layers ⊆ more) :
    (resolveToolPolicy tool layers).mode.restrictionRank
      ≤ (resolveToolPolicy tool more).mode.restrictionRank := by
  rcases resolveToolPolicy_mem tool layers with hnone | ⟨layer, hmem, hmode⟩
  · rw [hnone]
    exact Nat.zero_le _
  · rw [← hmode]
    exact rank_proposed_le (h hmem)

/-- The decision names the first layer that proposes its mode. -/
theorem resolveToolPolicy_source (tool : ToolId) (layers : List PolicyLayer) :
    let decision := resolveToolPolicy tool layers
    if decision.mode = .readOnly then decision.authoritativeSource = .builtIn
    else (layers.find? (·.proposed tool = decision.mode)).map PolicyLayer.source
      = some decision.authoritativeSource := by
  induction layers using reverseRecOn with
  | nil => rfl
  | append_singleton layers layer ih =>
    have hstep : resolveToolPolicy tool (layers ++ [layer]) = _ := foldl_append
    rw [foldl_cons, foldl_nil, ← resolveToolPolicy] at hstep
    rw [hstep]
    dsimp only at ih ⊢
    split
    · -- the layer is more restrictive than every layer before it
      next hchanged =>
      have hrank : (resolveToolPolicy tool layers).mode.restrictionRank
          < (layer.proposed tool).restrictionRank := by
        unfold PermissionMode.intersect at hchanged
        split at hchanged
        · exact absurd rfl hchanged
        · omega
      have hmode : (resolveToolPolicy tool layers).mode.intersect (layer.proposed tool)
          = layer.proposed tool := if_neg (by omega)
      have hnone : layers.find? (·.proposed tool = layer.proposed tool) = none := by
        refine find?_eq_none.mpr fun other hmem hsame => ?_
        have hle := @rank_proposed_le _ tool _ hmem
        rw [of_decide_eq_true hsame] at hle
        omega
      have hrestricts : layer.proposed tool ≠ .readOnly := by
        rintro hnone
        simp [hnone, PermissionMode.restrictionRank] at hrank
      rw [hmode, if_neg hrestricts, find?_append, hnone]
      simp
    · split at ih
      · next hnone => rwa [if_pos hnone]
      · next hrestricts =>
        obtain ⟨first, hfirst, hsource⟩ := Option.map_eq_some_iff.mp ih
        rw [if_neg hrestricts, find?_append, hfirst]
        exact congrArg some hsource

/-- The protection an effect class demands. -/
def mandatoryMode (effectClass : EffectClass) (materialCost : Bool) : PermissionMode :=
  match effectClass with
  | .none | .idempotentRead => if materialCost then .approvalRequired else .readOnly
  | _ => .approvalRequired

/-- No effect class denies. -/
theorem rank_mandatoryMode_le (effectClass : EffectClass) (materialCost : Bool) :
    (mandatoryMode effectClass materialCost).restrictionRank ≤ 1 := by
  cases effectClass <;> cases materialCost <;> decide

/-- Adds mandatory protection based on the external effect class. -/
def protectEffect (current : PolicyDecision) (effectClass : EffectClass) (materialCost : Bool) :
    PolicyDecision :=
  let protectedMode := current.mode.intersect (mandatoryMode effectClass materialCost)
  if protectedMode = current.mode then current else ⟨protectedMode, .effectClass⟩

theorem protectEffect_mode (current : PolicyDecision) (effectClass : EffectClass)
    (materialCost : Bool) :
    (protectEffect current effectClass materialCost).mode
      = current.mode.intersect (mandatoryMode effectClass materialCost) := by
  unfold protectEffect
  simp only
  split
  · next h => exact h.symm
  · rfl

end Workbench.Core
