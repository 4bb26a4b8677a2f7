import Mathlib

/-!
# Library: labelled transition systems

A system is a partial step function: `step s l` is the state after the action `l`, if
the action is possible in `s`.  `Reaches step allowed start` holds of the states that
a run from `start` can visit when every action it takes is allowed where it is taken.
-/

namespace Workbench.Library

universe u v

variable {S : Type u} {L : Type v}

/-- The states of the runs from `start` whose actions are all allowed. -/
inductive Reaches (step : S → L → Option S) (allowed : S → L → Prop) (start : S) : S → Prop where
  | start : Reaches step allowed start start
  | next {s s' : S} (l : L) (hreach : Reaches step allowed start s) (hallowed : allowed s l)
      (hstep : step s l = some s') : Reaches step allowed start s'

namespace Reaches

variable {step : S → L → Option S} {allowed : S → L → Prop} {start : S}

/-- What holds at the start and is kept by every allowed step is invariant. -/
theorem invariant {I : S → Prop} (hstart : I start)
    (hkeep : ∀ s l s', I s → allowed s l → step s l = some s' → I s') {s : S}
    (h : Reaches step allowed start s) : I s := by
  induction h with
  | start => exact hstart
  | next l _ hallowed hstep ih => exact hkeep _ l _ ih hallowed hstep

end Reaches

/-- A run that goes on forever from a state that can be reached. -/
structure EndlessRun (step : S → L → Option S) (allowed : S → L → Prop) (start : S) where
  state : Nat → S
  action : Nat → L
  reached : Reaches step allowed start (state 0)
  isAllowed : ∀ n, allowed (state n) (action n)
  goesOn : ∀ n, step (state n) (action n) = some (state (n + 1))

namespace EndlessRun

variable {step : S → L → Option S} {allowed : S → L → Prop} {start : S}

/-- A goal is met if until then the rank never grows and some later step lowers it. -/
theorem eventually (run : EndlessRun step allowed start) {goal : S → Prop} (rank : S → Nat)
    (hkeep : ∀ n, ¬ goal (run.state n) → rank (run.state (n + 1)) ≤ rank (run.state n))
    (hlower : ∀ n, ¬ goal (run.state n) → ∃ m, n ≤ m ∧
      (goal (run.state m) ∨ rank (run.state (m + 1)) < rank (run.state m)))
    (n : Nat) : ∃ m, n ≤ m ∧ goal (run.state m) := by
  by_contra hnever
  have hnot : ∀ m, n ≤ m → ¬ goal (run.state m) := fun m hle hgoal => hnever ⟨m, hle, hgoal⟩
  have hmono : ∀ first later, n ≤ first → first ≤ later →
      rank (run.state later) ≤ rank (run.state first) := by
    intro first later hfirst hle
    induction hle with
    | refl => exact Nat.le_refl _
    | step hle ih => exact Nat.le_trans (hkeep _ (hnot _ (Nat.le_trans hfirst hle))) ih
  have hnone : ∀ bound m, n ≤ m → rank (run.state m) = bound → False := by
    intro bound
    induction bound using Nat.strong_induction_on with
    | _ _ ih =>
      intro m hm hbound
      obtain ⟨later, hle, hgoal | hlt⟩ := hlower m (hnot m hm)
      · exact hnot later (Nat.le_trans hm hle) hgoal
      · have hrank := hmono m later hm hle
        exact ih (rank (run.state (later + 1))) (by omega) (later + 1) (by omega) rfl
  exact hnone _ n (Nat.le_refl n) rfl

end EndlessRun

/-- Any action may be taken. -/
def anyAction (_ : S) (_ : L) : Prop := True

instance (s : S) (l : L) : Decidable (anyAction s l) := inferInstanceAs (Decidable True)

/-- Takes the actions one after the other, as long as they are allowed. -/
def execute (step : S → L → Option S) (allowed : S → L → Prop) [∀ s l, Decidable (allowed s l)] :
    List L → S → Option S
  | [], s => some s
  | l :: rest, s =>
    if allowed s l then
      match step s l with
      | none => none
      | some s' => execute step allowed rest s'
    else none

variable {step : S → L → Option S} {allowed : S → L → Prop} [∀ s l, Decidable (allowed s l)]
  {start : S} (actions : List L)

/-- A script that runs to its end visits a state that can be reached. -/
theorem reaches_of_execute {s s' : S} (hreach : Reaches step allowed start s)
    (hrun : execute step allowed actions s = some s') :
    Reaches step allowed start s' := by
  induction actions generalizing s with
  | nil =>
    cases hrun
    exact hreach
  | cons l rest ih =>
    unfold execute at hrun
    split at hrun
    · next hallowed =>
      split at hrun
      · cases hrun
      · next middle hstep => exact ih (.next l hreach hallowed hstep) hrun
    · cases hrun

/-- A property of the state that a script ends in is one of a state that can be reached. -/
theorem exists_reaches_of_execute {P : S → Prop}
    (hrun : ∃ s ∈ execute step allowed actions start, P s) :
    ∃ s, Reaches step allowed start s ∧ P s := by
  obtain ⟨s, hs, hP⟩ := hrun
  exact ⟨s, reaches_of_execute actions .start hs, hP⟩

/-- And it has what every such state has. -/
theorem exists_reaches_and {P Q : S → Prop}
    (hrun : ∃ s ∈ execute step allowed actions start, P s)
    (hall : ∀ s, Reaches step allowed start s → P s → Q s) :
    ∃ s, Reaches step allowed start s ∧ P s ∧ Q s := by
  obtain ⟨s, hreach, hP⟩ := exists_reaches_of_execute actions hrun
  exact ⟨s, hreach, hP, hall s hreach hP⟩

end Workbench.Library
