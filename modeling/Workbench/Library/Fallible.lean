import Mathlib

/-!
# Library: computations that succeeded

What a computation that may fail has passed on the way to its result.
-/

namespace Workbench.Library

variable {ε α β : Type} {x : Except ε α} {e : ε} {a : α} {c : Prop} [Decidable c]

theorem bind_eq_ok {f : α → Except ε β} {b : β} (h : x >>= f = .ok b) :
    ∃ a, x = .ok a ∧ f a = .ok b := by
  cases x with
  | error e => cases h
  | ok a => exact ⟨a, rfl, h⟩

/-- The condition of an early failure does not hold. -/
theorem ok_of_guard (h : (if c then .error e else x) = .ok a) : ¬ c ∧ x = .ok a := by
  split at h
  · cases h
  · next hc => exact ⟨hc, h⟩

/-- The condition under which a computation goes on holds. -/
theorem ok_of_check (h : (if c then x else .error e) = .ok a) : c ∧ x = .ok a := by
  split at h
  · next hc => exact ⟨hc, h⟩
  · cases h

theorem mem_of_lookup {α β : Type} [BEq α] [LawfulBEq α] {entries : List (α × β)} {key : α}
    {value : β} (h : entries.lookup key = some value) : (key, value) ∈ entries := by
  obtain ⟨before, after, hentries, -⟩ := List.lookup_eq_some_iff.mp h
  rw [hentries]
  exact List.mem_append_right _ List.mem_cons_self

end Workbench.Library
