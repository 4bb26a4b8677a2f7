import Mathlib

/-!
# Library: settings folded from layers

A setting is given by a list of layers, the lowest first.  A layer that joins the
one below it is combined with it; any other layer replaces what lies below.  So
only the last run of joining layers decides the result, which is `stack_lastRun`.
-/

namespace Workbench.Library

open List

/-- How one value is laid over another. -/
structure Overlay (α : Type) where
  joins : α → α → Bool
  combine : α → α → α
  combine_of_not_joins : ∀ base top, joins base top = false → combine base top = top
  joins_combine : ∀ base top next, joins (combine base top) next = joins top next

namespace Overlay

variable {α : Type} (overlay : Overlay α)

/-- One more layer over what the layers below have given. -/
def put : Option α → α → α
  | none, value => value
  | some base, value => overlay.combine base value

/-- The value that a list of layers gives. -/
def stack (layers : List α) : Option α :=
  layers.foldl (fun below value => some (overlay.put below value)) none

/-- One more layer after a run of joining ones. -/
def extendRun (run : List α) (value : α) : List α :=
  if run.getLast?.any (fun last => overlay.joins last value) then run ++ [value] else [value]

/-- The layers from the last one on that replaced those below it. -/
def lastRun (layers : List α) : List α :=
  layers.foldl overlay.extendRun []

@[simp] theorem stack_nil : overlay.stack [] = none := rfl

@[simp] theorem lastRun_nil : overlay.lastRun [] = [] := rfl

@[simp] theorem stack_concat (layers : List α) (value : α) :
    overlay.stack (layers ++ [value]) = some (overlay.put (overlay.stack layers) value) := by
  simp [stack]

@[simp] theorem stack_singleton (value : α) : overlay.stack [value] = some value := rfl

@[simp] theorem lastRun_concat (layers : List α) (value : α) :
    overlay.lastRun (layers ++ [value]) = overlay.extendRun (overlay.lastRun layers) value := by
  simp [lastRun]

theorem getLast?_lastRun (layers : List α) :
    (overlay.lastRun layers).getLast? = layers.getLast? := by
  cases layers using reverseRecOn with
  | nil => rfl
  | append_singleton =>
    rw [lastRun_concat, getLast?_concat, extendRun]
    split <;> simp

theorem stack_eq_none_iff (layers : List α) : overlay.stack layers = none ↔ layers = [] := by
  cases layers using reverseRecOn with
  | nil | append_singleton => simp

variable {layers : List α}

/-- Induction over the layers of a stack. -/
@[elab_as_elim]
theorem stack_induction {motive : List α → α → Prop} (hsingle : ∀ value, motive [value] value)
    (hconcat : ∀ layers base value, motive layers base →
      motive (layers ++ [value]) (overlay.combine base value)) {merged : α}
    (hstack : overlay.stack layers = some merged) : motive layers merged := by
  induction layers using reverseRecOn generalizing merged with
  | nil => cases hstack
  | append_singleton layers value ih =>
    rw [stack_concat, Option.some.injEq] at hstack
    subst hstack
    cases hbase : overlay.stack layers with
    | none =>
      rw [stack_eq_none_iff] at hbase
      subst hbase
      exact hsingle value
    | some base => exact hconcat layers base value (ih hbase)

theorem joins_stack {base : α} (hstack : overlay.stack layers = some base) :
    ∃ last, layers.getLast? = some last ∧
      ∀ value, overlay.joins base value = overlay.joins last value := by
  refine overlay.stack_induction ?_ ?_ hstack
  · intro value
    exact ⟨value, rfl, fun _ => rfl⟩
  · intro layers base last _
    exact ⟨last, getLast?_concat, overlay.joins_combine base last⟩

/-- Only the last run counts. -/
theorem stack_lastRun (layers : List α) :
    overlay.stack (overlay.lastRun layers) = overlay.stack layers := by
  induction layers using reverseRecOn with
  | nil => rfl
  | append_singleton layers value ih =>
    rw [lastRun_concat, stack_concat]
    unfold extendRun
    split
    · rw [stack_concat, ih]
    rename_i hnot
    cases hbase : overlay.stack layers with
    | none => rfl
    | some base =>
      obtain ⟨last, hlast, hjoins⟩ := overlay.joins_stack hbase
      rw [getLast?_lastRun, hlast] at hnot
      have hfalse : overlay.joins base value = false := by
        rw [hjoins]
        simpa using hnot
      simp [put, overlay.combine_of_not_joins base value hfalse]

theorem lastRun_suffix (layers : List α) : overlay.lastRun layers <:+ layers := by
  induction layers using reverseRecOn with
  | nil => exact suffix_refl []
  | append_singleton layers value ih =>
    rw [lastRun_concat]
    unfold extendRun
    split
    · obtain ⟨before, hbefore⟩ := ih
      exact ⟨before, by rw [← append_assoc, hbefore]⟩
    · exact suffix_append layers [value]

/-- A property that joining layers share holds of the whole run or of none of it. -/
theorem lastRun_shares {P : α → Prop}
    (hshare : ∀ first second, overlay.joins first second → (P first ↔ P second)) {last : α}
    (hlast : layers.getLast? = some last) (hP : P last) :
    ∀ value ∈ overlay.lastRun layers, P value := by
  induction layers using reverseRecOn generalizing last with
  | nil => cases hlast
  | append_singleton layers top ih =>
    rw [getLast?_concat, Option.some.injEq] at hlast
    subst hlast
    intro value hmem
    rw [lastRun_concat] at hmem
    unfold extendRun at hmem
    split at hmem
    · rename_i hjoins
      rw [getLast?_lastRun] at hjoins
      obtain ⟨below, hbelow, hjoin⟩ := Option.any_eq_true _ _ |>.mp hjoins
      rcases mem_append.mp hmem with hmem | hmem
      · exact ih hbelow ((hshare _ _ hjoin).mpr hP) value hmem
      · rw [mem_singleton] at hmem
        exact hmem ▸ hP
    · rw [mem_singleton] at hmem
      exact hmem ▸ hP

/-- If the stack joins a value, then so does every layer of its last run. -/
theorem lastRun_joins {merged probe : α}
    (hshare : ∀ first second, overlay.joins first second →
      (overlay.joins first probe ↔ overlay.joins second probe))
    (hstack : overlay.stack layers = some merged) (hprobe : overlay.joins merged probe) :
    ∀ value ∈ overlay.lastRun layers, overlay.joins value probe := by
  obtain ⟨last, hlast, hjoins⟩ := overlay.joins_stack hstack
  exact overlay.lastRun_shares hshare hlast (hjoins probe ▸ hprobe)

/-- A run of layers that join nothing has one layer at most. -/
theorem lastRun_of_not_joins {last : α} (hlast : layers.getLast? = some last)
    (hnot : ∀ below, overlay.joins below last = false) : overlay.lastRun layers = [last] := by
  cases layers using reverseRecOn with
  | nil => cases hlast
  | append_singleton layers top =>
    rw [getLast?_concat, Option.some.injEq] at hlast
    subst hlast
    rw [lastRun_concat]
    unfold extendRun
    split
    · rename_i hjoins
      obtain ⟨below, _, hjoin⟩ := Option.any_eq_true _ _ |>.mp hjoins
      rw [hnot] at hjoin
      cases hjoin
    · rfl

end Overlay

end Workbench.Library
