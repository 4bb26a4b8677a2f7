import Workbench.Core.Value

/-!
# Core: the workflow run

The durable record of one workflow execution and its operations, each as the
source computes it.  An operation that mutates the run in place returns its result and
the run that it leaves, also where it fails.

The counters are `u32` and `usize` in the source.  `iteration` is only ever
increased while it is below `maxIterations`, so its saturating addition never
saturates and the model uses `Nat`.
-/

namespace Workbench.Core

/-- Hard ceiling for automatic correction iterations. -/
def maxCorrectionIterations : Nat := 8

/-- Closed public phase set for one workflow run. -/
inductive WorkflowPhase where
  | planned
  | running
  | paused
  | awaitingHuman
  | completed
  | cancelled
  | failed
  deriving DecidableEq

/-- Whether the run may dispatch a provider attempt. -/
def WorkflowPhase.permitsDispatch : WorkflowPhase → Bool
  | .running => true
  | _ => false

/-- Whether the run has reached a terminal phase. -/
def WorkflowPhase.isTerminal : WorkflowPhase → Bool
  | .completed | .cancelled | .failed => true
  | _ => false

@[simp] theorem WorkflowPhase.permitsDispatch_iff (phase : WorkflowPhase) :
    phase.permitsDispatch ↔ phase = .running := by
  cases phase <;> simp [permitsDispatch]

/-- Durable identity and progress for one workflow execution. -/
structure WorkflowRun where
  workflowId : WorkflowId
  runId : NonEmptyText
  stepIds : List NonEmptyText
  activeStepIndex : Nat
  iteration : Nat
  phase : WorkflowPhase
  maxIterations : Nat
  onFindingsStepIndex : Option Nat
  deriving DecidableEq

/-- Why a run moved, as recorded in `workflow_transition` events. -/
inductive TransitionReason where
  | started
  | paused
  | resumed
  | awaitingHuman
  | findings
  | advanced
  | completed
  deriving DecidableEq

/-- The one error of every illegal run operation. -/
def invalidTransition : CoreError :=
  ⟨.invalidTransition, "illegal workflow run transition"⟩

namespace WorkflowRun

/-- Starts a run on the first step of a validated workflow. -/
def start (workflowId : WorkflowId) (runId : NonEmptyText) (stepIds : List NonEmptyText)
    (maxIterations : Nat) (onFindingsStepIndex : Option Nat) :
    Except CoreError WorkflowRun :=
  if stepIds.isEmpty then
    .error ⟨.invalidRequest, "workflow has no steps"⟩
  else if maxIterations == 0 || decide (maxCorrectionIterations < maxIterations) then
    .error ⟨.invalidRequest, "workflow max_iterations must be between 1 and 8"⟩
  else if onFindingsStepIndex.any (fun index => decide (stepIds.length ≤ index)) then
    .error ⟨.invalidRequest, "on_findings step index is out of range"⟩
  else
    .ok { workflowId, runId, stepIds, activeStepIndex := 0, iteration := 1
          phase := .running, maxIterations, onFindingsStepIndex }

def activeStepId (run : WorkflowRun) : Option NonEmptyText :=
  run.stepIds[run.activeStepIndex]?

/-- Only a running run may move. -/
def requireRunning (run : WorkflowRun) : Except CoreError Unit :=
  if run.phase.permitsDispatch then .ok () else .error invalidTransition

/-- Advances after a successful step without findings. -/
def advanceAfterSuccess (run : WorkflowRun) : Except CoreError Unit × WorkflowRun :=
  match run.requireRunning with
  | .error error => (.error error, run)
  | .ok () =>
    if run.stepIds.length ≤ run.activeStepIndex + 1 then (.ok (), { run with phase := .completed })
    else (.ok (), { run with activeStepIndex := run.activeStepIndex + 1 })

/-- Resets the correction iteration after a clean step pass. -/
def resetIteration (run : WorkflowRun) : WorkflowRun := { run with iteration := 1 }

/-- Routes to the correction target if there are findings; at the ceiling, to a human. -/
def applyFindings (run : WorkflowRun) : Except CoreError Unit × WorkflowRun :=
  match run.requireRunning with
  | .error error => (.error error, run)
  | .ok () =>
    match run.onFindingsStepIndex with
    | none => (.error ⟨.invalidRequest, "active step has no on_findings target"⟩, run)
    | some target =>
      if run.maxIterations ≤ run.iteration then (.ok (), { run with phase := .awaitingHuman })
      else (.ok (), { run with activeStepIndex := target, iteration := run.iteration + 1 })

/-- Pauses advancement. -/
def pause (run : WorkflowRun) : Except CoreError Unit × WorkflowRun :=
  if run.phase.isTerminal then (.error invalidTransition, run)
  else if run.phase = .paused then (.ok (), run)
  else (.ok (), { run with phase := .paused })

/-- Resumes a paused or human-awaiting run. -/
def resume (run : WorkflowRun) : Except CoreError Unit × WorkflowRun :=
  if run.phase.isTerminal then (.error invalidTransition, run)
  else if run.phase = .paused ∨ run.phase = .awaitingHuman then
    (.ok (), { run with phase := .running })
  else (.error invalidTransition, run)

/-- Cancels the run without inventing success. -/
def cancel (run : WorkflowRun) : Except CoreError Unit × WorkflowRun :=
  if run.phase = .cancelled then (.ok (), run)
  else if run.phase.isTerminal then (.error invalidTransition, run)
  else (.ok (), { run with phase := .cancelled })

/-- Marks the run failed after a definite step failure. -/
def fail (run : WorkflowRun) : Except CoreError Unit × WorkflowRun :=
  if run.phase.isTerminal then (.error invalidTransition, run)
  else (.ok (), { run with phase := .failed })

end WorkflowRun

end Workbench.Core
