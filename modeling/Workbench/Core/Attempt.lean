import Workbench.Core.Policy
import Workbench.Core.Session

/-!
# Core: external side-effect attempts

The progress of one external operation.  A mark that is not allowed leaves the attempt
as it is; callers that ignore the error keep it (`orKeep`).
-/

namespace Workbench.Core

/-- The declared safety properties of an operation. -/
structure OperationPolicy where
  effectClass : EffectClass
  explicitlyIdempotent : Bool
  materialCost : Bool
  deriving DecidableEq

/-- Rejects declarations that would permit unsafe retry assumptions. -/
def OperationPolicy.validate (policy : OperationPolicy) : Except CoreError Unit :=
  let forbiddenIdempotency :=
    match policy.effectClass with
    | .paidInference | .nonIdempotentWrite | .production | .credential => true
    | _ => false
  if policy.explicitlyIdempotent && forbiddenIdempotency then
    .error ⟨.invalidRequest, "effect class cannot be declared idempotent"⟩
  else .ok ()

/-- Whether the operation can retry before dispatch starts. -/
def OperationPolicy.permitsAutomaticRetry (policy : OperationPolicy) : Bool :=
  decide (policy.effectClass = .idempotentRead) && policy.explicitlyIdempotent
    && !policy.materialCost

/-- Durable progress of one external attempt. -/
inductive AttemptProgress where
  | planned
  | started
  | acknowledged
  | completed
  | failed
  | outcomeUnknown
  | abandoned
  deriving DecidableEq

/-- One durable external operation attempt. -/
structure Attempt where
  id : Nat
  operation : String
  policy : OperationPolicy
  progress : AttemptProgress

namespace Attempt

def invalidTransition : CoreError := ⟨.invalidTransition, "attempt transition is not allowed"⟩

/-- Creates a planned attempt, with the id it draws, after validating its policy. -/
def plan (id : Nat) (operation : String) (policy : OperationPolicy) : Except CoreError Attempt := do
  policy.validate
  if operation = "" then throw ⟨.invalidRequest, "operation must not be empty"⟩
  return ⟨id, operation, policy, .planned⟩

def markStarted (attempt : Attempt) : Except CoreError Attempt :=
  match attempt.progress with
  | .planned => .ok { attempt with progress := .started }
  | _ => .error invalidTransition

/-- Records a definite completion, once dispatch started. -/
def markCompleted (attempt : Attempt) : Except CoreError Attempt :=
  match attempt.progress with
  | .started | .acknowledged => .ok { attempt with progress := .completed }
  | _ => .error invalidTransition

/-- Records an uncertain external outcome, once dispatch started. -/
def markOutcomeUnknown (attempt : Attempt) : Except CoreError Attempt :=
  match attempt.progress with
  | .started | .acknowledged => .ok { attempt with progress := .outcomeUnknown }
  | _ => .error invalidTransition

/-- Whether an automatic retry is safe at the current progress. -/
def mayRetryAutomatically (attempt : Attempt) : Bool :=
  decide (attempt.progress = .planned) && attempt.policy.permitsAutomaticRetry

/-- The attempt after a mark whose error is ignored. -/
def orKeep (attempt : Attempt) (mark : Attempt → Except CoreError Attempt) : Attempt :=
  match mark attempt with
  | .ok marked => marked
  | .error _ => attempt

theorem plan_eq_ok {id : Nat} {operation : String} {policy : OperationPolicy} {attempt : Attempt}
    (h : plan id operation policy = .ok attempt) :
    attempt = ⟨id, operation, policy, .planned⟩ := by
  unfold plan at h
  cases hvalid : policy.validate with
  | error e => rw [hvalid] at h; cases h
  | ok u =>
    rw [hvalid] at h
    by_cases hempty : operation = ""
    · rw [if_pos hempty] at h; cases h
    · rw [if_neg hempty] at h; cases h; rfl

end Attempt

/-! ## Reconciliation -/

/-- Result of reconciling an uncertain attempt.  A replacement names its predecessor. -/
inductive ReconciliationOutcome where
  | retry (replacement : Attempt) (predecessor : Nat)
  | accepted
  | abandoned

namespace Attempt

/-- Reconciles an uncertain attempt; a replacement draws its id. -/
def reconcile (attempt : Attempt) (resolution : ReconciliationResolution) (id : Nat) :
    Except CoreError ReconciliationOutcome × Attempt :=
  if attempt.progress ≠ .outcomeUnknown then (.error invalidTransition, attempt)
  else
    match resolution with
    | .retry => ((plan id attempt.operation attempt.policy).map (.retry · attempt.id), attempt)
    | .acceptResult => (.ok .accepted, { attempt with progress := .completed })
    | .abandon => (.ok .abandoned, { attempt with progress := .abandoned })

/-- How many of the calls succeed, made one after another. -/
def reconciled (attempt : Attempt) : List (ReconciliationResolution × Nat) → Nat
  | [] => 0
  | (resolution, id) :: calls =>
    let (result, attempt) := attempt.reconcile resolution id
    result.isOk.toNat + attempt.reconciled calls

/-- The operation has a name and its declared class allows it to be planned again. -/
def replans (attempt : Attempt) : Bool :=
  attempt.operation ≠ "" && !(attempt.policy.explicitlyIdempotent && decide
    (attempt.policy.effectClass ∈ [.paidInference, .nonIdempotentWrite, .production, .credential]))

variable {attempt : Attempt}

theorem isOk_retry (id : Nat) : ((plan id attempt.operation attempt.policy).map
    (ReconciliationOutcome.retry · attempt.id)).isOk = attempt.replans := by
  unfold replans plan
  obtain ⟨_, operation, ⟨effectClass, idempotent, _⟩, _⟩ := attempt
  by_cases h : operation = "" <;> cases effectClass <;> cases idempotent <;>
    simp only [h, ne_eq] <;> rfl

theorem reconciled_of_ne (h : attempt.progress ≠ .outcomeUnknown) :
    ∀ calls, attempt.reconciled calls = 0
  | [] => rfl
  | (resolution, id) :: calls => by
    simp [reconciled, reconcile, h, reconciled_of_ne h calls, Except.isOk, Except.toBool]

/-- A retry leaves the attempt uncertain, and the other resolutions do not. -/
theorem reconciled_cons (h : attempt.progress = .outcomeUnknown)
    (resolution : ReconciliationResolution) (id : Nat)
    (calls : List (ReconciliationResolution × Nat)) :
    attempt.reconciled ((resolution, id) :: calls)
      = if resolution = .retry then attempt.replans.toNat + attempt.reconciled calls else 1 := by
  simp only [reconciled, reconcile, h, ne_eq, not_true_eq_false, if_false]
  cases resolution with
  | retry => simp [isOk_retry]
  | acceptResult | abandon => simp [reconciled_of_ne, Except.isOk, Except.toBool]

/-- At most one call succeeds, unless a replannable attempt is retried and reconciled again. -/
theorem reconciled_le_one_iff (attempt : Attempt) (calls : List (ReconciliationResolution × Nat)) :
    attempt.reconciled calls ≤ 1 ↔ attempt.progress ≠ .outcomeUnknown ∨ attempt.replans = false ∨
      calls.length ≤ 1 ∨ calls.head?.map (·.1) ≠ some .retry := by
  by_cases h : attempt.progress = .outcomeUnknown
  · simp only [h, ne_eq, not_true_eq_false, false_or]
    cases hplans : attempt.replans with
    | false =>
      simp only [true_or, iff_true]
      induction calls with
      | nil => exact Nat.zero_le 1
      | cons call calls ih =>
        rw [reconciled_cons h, hplans]
        split <;> simp [ih]
    | true =>
      match calls with
      | [] => simp [reconciled]
      | [(resolution, id)] =>
        rw [reconciled_cons h]
        split <;> simp [hplans, reconciled]
      | (resolution, id) :: (second, other) :: calls =>
        simp only [reconciled_cons h, hplans]
        cases resolution <;> cases second <;> simp
  · simp [reconciled_of_ne h, h]

/-- An uncertain attempt that is retried twice gets two replacements. -/
theorem retried_twice :
    reconciled ⟨1, "read", ⟨.idempotentRead, true, false⟩, .outcomeUnknown⟩
      [(.retry, 2), (.retry, 3)] = 2 := by
  decide

end Attempt

end Workbench.Core
