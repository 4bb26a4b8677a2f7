import Mathlib

/-!
# Library: driven iteration and the potential method

A deterministic machine is driven by an infinite sequence of inputs.  Each step
has a cost; a potential that pays for every step bounds what a whole run can
spend, and a bounded run spends nothing from some point on.
-/

namespace Workbench.Library

variable {State Input : Type}

/-- The state after `n` inputs. -/
def trace (step : State → Input → State) (inputs : Nat → Input) (start : State) :
    Nat → State
  | 0 => start
  | n + 1 => step (trace step inputs start n) (inputs n)

/-- The cost of the first `n` steps. -/
def spent (step : State → Input → State) (cost : State → Input → Nat)
    (inputs : Nat → Input) (start : State) : Nat → Nat
  | 0 => 0
  | n + 1 => spent step cost inputs start n + cost (trace step inputs start n) (inputs n)

section

variable {step : State → Input → State} {cost : State → Input → Nat}
  {Inv : State → Prop} {inputs : Nat → Input} {start : State}

/-- What every step preserves holds along the whole run. -/
theorem trace_inv (hstep : ∀ s i, Inv s → Inv (step s i)) (hstart : Inv start)
    (inputs : Nat → Input) : ∀ n, Inv (trace step inputs start n)
  | 0 => hstart
  | n + 1 => hstep _ _ (trace_inv hstep hstart inputs n)

/-- A potential that pays for every step bounds the cost of the run. -/
theorem spent_add_potential_le (cost : State → Input → Nat) (potential : State → Nat)
    (hstep : ∀ s i, Inv s → Inv (step s i))
    (hpay : ∀ s i, Inv s → cost s i + potential (step s i) ≤ potential s)
    (hstart : Inv start) (inputs : Nat → Input) (n : Nat) :
    spent step cost inputs start n + potential (trace step inputs start n)
      ≤ potential start := by
  induction n with
  | zero => simp [spent, trace]
  | succ n ih =>
    have hnow := hpay _ (inputs n) (trace_inv hstep hstart inputs n)
    simp only [spent, trace]
    omega

theorem spent_mono (step : State → Input → State) (cost : State → Input → Nat)
    (inputs : Nat → Input) (start : State) : Monotone (spent step cost inputs start) :=
  monotone_nat_of_le_succ fun n => Nat.le_add_right _ (cost _ (inputs n))

/-- A run whose cost is bounded spends nothing from some point on. -/
theorem exists_quiet_of_bounded {bound : Nat}
    (hbound : ∀ n, spent step cost inputs start n ≤ bound) :
    ∃ n, ∀ m, n ≤ m → cost (trace step inputs start m) (inputs m) = 0 := by
  by_contra hcontra
  simp only [not_exists, not_forall] at hcontra
  have hgrow : ∀ k, ∃ n, k ≤ spent step cost inputs start n := by
    intro k
    induction k with
    | zero => exact ⟨0, Nat.zero_le _⟩
    | succ k ih =>
      obtain ⟨n, hn⟩ := ih
      obtain ⟨m, hnm, hcost⟩ := hcontra n
      refine ⟨m + 1, ?_⟩
      have hle := spent_mono step cost inputs start hnm
      simp only [spent]
      omega
  obtain ⟨n, hn⟩ := hgrow (bound + 1)
  exact absurd (hbound n) (by omega)

end

end Workbench.Library
