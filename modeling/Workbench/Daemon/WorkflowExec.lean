import Workbench.Config.Model
import Workbench.Core.Workflow

/-!
# Daemon: workflow helpers

The functions of `workflow_exec.rs` that act on a run and its configuration.
The helpers that search a session history are in `Workbench.Daemon.History`.
-/

namespace Workbench.Daemon

open Workbench.Core Config

/-- Explicit findings marker accepted from offline fakes and supervised adapters. -/
def findingsMarker : String := "findings_present=true"

/-- `max_iterations.unwrap_or(1).clamp(1, 8)`: the effective bound of a step. -/
def stepMaxIterations (step : WorkflowStep) : Nat :=
  min (max (step.maxIterations.getD 1) 1) 8

/-- The position of the step a findings target names. -/
def onFindingsIndex (workflow : Workflow) (step : WorkflowStep) : Option Nat :=
  step.onFindings.bind fun target =>
    workflow.steps.findIdx? (fun candidate => candidate.id == target)

/-- Parses every step id; the first empty one is the error. -/
def parseStepIds (steps : List WorkflowStep) : Except String (List NonEmptyText) :=
  steps.mapM fun step =>
    (NonEmptyText.parse step.id).mapError (fun _ => "workflow step id is empty")

/-- Builds a new run for a validated workflow id. -/
def startRun (config : WorkbenchConfiguration) (workflowId runId : String) :
    Except String (WorkflowRun × Workflow) :=
  match config.workflows.lookup workflowId with
  | none => .error ("workflow " ++ workflowId ++ " is not configured")
  | some workflow =>
    match workflow.steps with
    | [] => .error "workflow has no steps"
    | first :: _ => do
      let stepIds ← parseStepIds workflow.steps
      let id ← (Identifier.parse workflowId).mapError (fun _ => "workflow id is invalid")
      let rid ← (NonEmptyText.parse runId).mapError (fun _ => "run id is empty")
      let run ← (WorkflowRun.start id rid stepIds (stepMaxIterations first)
        (onFindingsIndex workflow first)).mapError (·.message)
      pure (run, workflow)

/-- The configured step for the active run index. -/
def activeStep (workflow : Workflow) (run : WorkflowRun) : Option WorkflowStep :=
  workflow.steps[run.activeStepIndex]?

/-- Syncs run correction bounds from the active step configuration. -/
def refreshStepBounds (run : WorkflowRun) (step : WorkflowStep) (workflow : Workflow) :
    WorkflowRun :=
  { run with
    maxIterations := stepMaxIterations step
    onFindingsStepIndex := onFindingsIndex workflow step }

/-- `if let Some(step) = active_step(..) { refresh_step_bounds(..) }`. -/
def refreshActiveStep (workflow : Workflow) (run : WorkflowRun) : WorkflowRun :=
  match activeStep workflow run with
  | some step => refreshStepBounds run step workflow
  | none => run

/-- Detects the explicit offline findings signal. -/
def contentHasFindings (content : String) : Bool :=
  decide (findingsMarker.toList <:+: content.toList)

/-- Intersects role tools with an optional step allowlist. -/
def effectiveStepTools (roleTools stepTools : List String) : List String :=
  if stepTools.isEmpty then roleTools
  else roleTools.filter (fun tool => decide (tool ∈ stepTools))

/-! ## Moving a run past a finished attempt

`advance_workflow_after_attempt` reads the run, moves it and records the move.
The move itself is a function of the workflow, the run and whether the attempt
reported findings. -/

/-- The move a run makes once the attempt of its active step has finished. -/
def moveAfterAttempt (workflow : Workflow) (run : WorkflowRun) (findings : Bool) :
    Except CoreError (WorkflowRun × TransitionReason) := do
  let run := refreshActiveStep workflow run
  if findings && run.onFindingsStepIndex.isSome then
    let (applied, run) := run.applyFindings
    applied
    if run.phase = .awaitingHuman then pure (run, .awaitingHuman)
    else pure (run, .findings)
  else
    -- a clean pass of a findings-capable step resets the shared counter
    let cleanFindingsStep := run.onFindingsStepIndex.isSome
    let (advanced, run) := run.advanceAfterSuccess
    advanced
    let run := if cleanFindingsStep then run.resetIteration else run
    if run.phase = .completed then pure (run, .completed)
    else pure (refreshActiveStep workflow run, .advanced)

end Workbench.Daemon
