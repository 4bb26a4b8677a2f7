import Workbench.Config.Preflight
import Workbench.Daemon.History
import Workbench.Library.Iteration

/-!
# Daemon: the automatic correction loop

Between two human actions the executor consumes one step result after the other and
dispatches the next step until the run stops.  A findings result of a findings-capable
step jumps back to the step's target and counts against the step's bound.

One counter serves every step of the run.  Its bound is read from the step that has just
finished, and a clean pass of any findings-capable step sets it back.  So a workflow can
correct itself for ever exactly when a loop runs through such a step other than its own.
-/

namespace Workbench.Daemon

open Workbench.Core Config Library Storage List

/-! ## The steps of a workflow as the run sees them -/

/-- The findings target of the step at an index. -/
def targetOf (workflow : Workflow) (index : Nat) : Option Nat :=
  workflow.steps[index]?.bind (onFindingsIndex workflow)

/-- The iteration bound of the step at an index. -/
def boundOf (workflow : Workflow) (index : Nat) : Nat :=
  workflow.steps[index]?.elim 0 stepMaxIterations

variable {index : Nat} {run : WorkflowRun} {config : WorkbenchConfiguration} {name : String}
  {workflow : Workflow} {step : WorkflowStep}

theorem one_le_stepMaxIterations (step : WorkflowStep) : 1 ≤ stepMaxIterations step := by
  simp only [stepMaxIterations]
  omega

/-- A target that exists points into the workflow. -/
theorem targetOf_lt {target : Nat} (h : targetOf workflow index = some target) :
    target < workflow.steps.length := by
  obtain ⟨step, _, h⟩ := Option.bind_eq_some_iff.mp h
  obtain ⟨name, _, h⟩ := Option.bind_eq_some_iff.mp h
  exact (findIdx?_eq_some_iff_getElem.mp h).1

theorem refreshActiveStep_of_lt (h : run.activeStepIndex < workflow.steps.length) :
    refreshActiveStep workflow run =
      { run with
        maxIterations := boundOf workflow run.activeStepIndex
        onFindingsStepIndex := targetOf workflow run.activeStepIndex } := by
  have hget := getElem?_eq_getElem h
  simp [refreshActiveStep, activeStep, hget, refreshStepBounds, boundOf, targetOf]

/-! ## What one move does -/

/-- The run belongs to the workflow and stands on one of its steps. -/
structure Fits (workflow : Workflow) (run : WorkflowRun) : Prop where
  steps : run.stepIds.length = workflow.steps.length
  index : run.activeStepIndex < workflow.steps.length
  iteration : 1 ≤ run.iteration

/-- Indices of the run are those of steps, and its counters are within their limits. -/
structure Within (run : WorkflowRun) : Prop where
  index : run.activeStepIndex < run.stepIds.length
  target : ∀ target ∈ run.onFindingsStepIndex, target < run.stepIds.length
  iteration : 1 ≤ run.iteration ∧ run.iteration ≤ maxCorrectionIterations
  bound : run.maxIterations ≤ maxCorrectionIterations

variable (workflow : Workflow) (run : WorkflowRun) (findings : Bool) in
/-- Every move of a run, with the condition under which it is made. -/
inductive Move : WorkflowRun → TransitionReason → Prop where
  | awaitingHuman {run' : WorkflowRun} {target : Nat} (hfindings : findings)
      (htarget : targetOf workflow run.activeStepIndex = some target)
      (hceiling : boundOf workflow run.activeStepIndex ≤ run.iteration)
      (hindex : run'.activeStepIndex = run.activeStepIndex)
      (hiteration : run'.iteration = run.iteration)
      (hphase : run'.phase = .awaitingHuman) : Move run' .awaitingHuman
  | findings {run' : WorkflowRun} {target : Nat} (hfindings : findings)
      (htarget : targetOf workflow run.activeStepIndex = some target)
      (hbelow : run.iteration < boundOf workflow run.activeStepIndex)
      (hindex : run'.activeStepIndex = target)
      (hiteration : run'.iteration = run.iteration + 1)
      (hphase : run'.phase = .running) : Move run' .findings
  | completed {run' : WorkflowRun}
      (hclean : findings = false ∨ targetOf workflow run.activeStepIndex = none)
      (hlast : workflow.steps.length ≤ run.activeStepIndex + 1)
      (hindex : run'.activeStepIndex = run.activeStepIndex)
      (hiteration : 1 ≤ run'.iteration)
      (hphase : run'.phase = .completed) : Move run' .completed
  | advanced {run' : WorkflowRun}
      (hclean : findings = false ∨ targetOf workflow run.activeStepIndex = none)
      (hmore : run.activeStepIndex + 1 < workflow.steps.length)
      (hindex : run'.activeStepIndex = run.activeStepIndex + 1)
      (hiteration : run'.iteration =
        if (targetOf workflow run.activeStepIndex).isSome then 1 else run.iteration)
      (hphase : run'.phase = .running) : Move run' .advanced

theorem requireRunning_running (hphase : run.phase = .running) : run.requireRunning = .ok () := by
  simp [WorkflowRun.requireRunning, hphase]

theorem applyFindings_running {target : Nat} (hphase : run.phase = .running)
    (htarget : run.onFindingsStepIndex = some target) :
    run.applyFindings = (.ok (), if run.maxIterations ≤ run.iteration then
        { run with phase := .awaitingHuman }
      else { run with activeStepIndex := target, iteration := run.iteration + 1 }) := by
  simp only [WorkflowRun.applyFindings, requireRunning_running hphase, htarget]
  split <;> rfl

theorem advanceAfterSuccess_running (hphase : run.phase = .running) :
    run.advanceAfterSuccess = (.ok (), if run.stepIds.length ≤ run.activeStepIndex + 1 then
        { run with phase := .completed }
      else { run with activeStepIndex := run.activeStepIndex + 1 }) := by
  simp only [WorkflowRun.advanceAfterSuccess, requireRunning_running hphase]
  split <;> rfl

theorem moveAfterAttempt_not_running (workflow : Workflow) (hphase : run.phase ≠ .running)
    (findings : Bool) : ∃ failure, moveAfterAttempt workflow run findings = .error failure := by
  have hrefresh : (refreshActiveStep workflow run).phase ≠ .running := by
    unfold refreshActiveStep
    split
    · exact hphase
    · exact hphase
  have hrequire : (refreshActiveStep workflow run).requireRunning = .error invalidTransition := by
    simp [WorkflowRun.requireRunning, hrefresh]
  unfold moveAfterAttempt
  simp only [WorkflowRun.applyFindings, WorkflowRun.advanceAfterSuccess, hrequire]
  split
  · exact ⟨_, rfl⟩
  · exact ⟨_, rfl⟩

/-- A running run that fits its workflow always moves, and moves as `Move` says. -/
theorem moveAfterAttempt_running (hfits : Fits workflow run)
    (hphase : run.phase = .running) (findings : Bool) :
    ∃ run' reason, moveAfterAttempt workflow run findings = .ok (run', reason) ∧
      run'.stepIds = run.stepIds ∧ Move workflow run findings run' reason := by
  unfold moveAfterAttempt
  rw [refreshActiveStep_of_lt hfits.index]
  by_cases hjump : findings = true ∧ ∃ target, targetOf workflow run.activeStepIndex = some target
  · obtain ⟨hfindings, target, htarget⟩ := hjump
    simp only [hfindings, htarget, Option.isSome_some, Bool.and_self, if_true]
    rw [applyFindings_running (by exact hphase) (by rfl)]
    by_cases hceiling : boundOf workflow run.activeStepIndex ≤ run.iteration
    · simp only [hceiling, if_true]
      exact ⟨_, _, rfl, rfl, .awaitingHuman rfl htarget hceiling rfl rfl rfl⟩
    · simp only [hceiling, if_false]
      simp only [bind, Except.bind, hphase, reduceCtorEq, if_false]
      exact ⟨_, .findings, rfl, rfl, .findings rfl htarget (by omega) rfl rfl rfl⟩
  · have hclean : findings = false ∨ targetOf workflow run.activeStepIndex = none := by
      cases findings with
      | false => exact .inl rfl
      | true =>
        refine .inr (Option.eq_none_iff_forall_ne_some.mpr fun target htarget => ?_)
        exact hjump ⟨rfl, target, htarget⟩
    have hbranch : (findings && (targetOf workflow run.activeStepIndex).isSome) = false := by
      rcases hclean with h | h <;> simp [h]
    simp only [hbranch, Bool.false_eq_true, if_false]
    rw [advanceAfterSuccess_running (by exact hphase)]
    simp only [hfits.steps]
    by_cases hlast : workflow.steps.length ≤ run.activeStepIndex + 1
    · simp only [hlast, if_true, bind, Except.bind]
      cases htarget : (targetOf workflow run.activeStepIndex).isSome with
      | false =>
        exact ⟨_, .completed, rfl, rfl, .completed hclean hlast rfl hfits.iteration rfl⟩
      | true =>
        exact ⟨_, .completed, rfl, rfl, .completed hclean hlast rfl (Nat.le_refl 1) rfl⟩
    · have hmore : run.activeStepIndex + 1 < workflow.steps.length := by omega
      simp only [hlast, if_false, bind, Except.bind]
      cases htarget : (targetOf workflow run.activeStepIndex).isSome with
      | false =>
        simp only [Bool.false_eq_true, if_false, hphase, reduceCtorEq]
        rw [refreshActiveStep_of_lt (by exact hmore)]
        exact ⟨_, .advanced, rfl, rfl, .advanced hclean hmore rfl (by simp [htarget]) rfl⟩
      | true =>
        simp only [if_true, WorkflowRun.resetIteration, hphase, reduceCtorEq, if_false]
        rw [refreshActiveStep_of_lt (by exact hmore)]
        exact ⟨_, .advanced, rfl, rfl, .advanced hclean hmore rfl (by simp [htarget]) rfl⟩

theorem Move.fits {run' : WorkflowRun} {findings : Bool}
    {reason : TransitionReason} (hmove : Move workflow run findings run' reason)
    (hfits : Fits workflow run) (hsteps : run'.stepIds = run.stepIds) : Fits workflow run' := by
  have hsteps' : run'.stepIds.length = workflow.steps.length := by rw [hsteps, hfits.steps]
  have hindex := hfits.index
  have hiter := hfits.iteration
  cases hmove with
  | awaitingHuman _ _ _ hidx hit => exact ⟨hsteps', by omega, by omega⟩
  | findings _ htarget _ hidx hit => exact ⟨hsteps', hidx ▸ targetOf_lt htarget, by omega⟩
  | completed _ _ hidx hit => exact ⟨hsteps', by omega, hit⟩
  | advanced _ hmore hidx hit =>
    refine ⟨hsteps', by omega, ?_⟩
    rw [hit]
    split <;> omega

/-! ## The executor between two human actions -/

/-- The run after one more step result; a run that refuses to move stays put. -/
def executorStep (workflow : Workflow) (run : WorkflowRun) (findings : Bool) : WorkflowRun :=
  match moveAfterAttempt workflow run findings with
  | .ok (run', _) => run'
  | .error _ => run

/-- The reason recorded for the move, if the run moves. -/
def executorReason (workflow : Workflow) (run : WorkflowRun) (findings : Bool) :
    Option TransitionReason :=
  match moveAfterAttempt workflow run findings with
  | .ok (_, reason) => some reason
  | .error _ => none

/-- `1` when the result makes the executor correct the step. -/
def correctionCost (workflow : Workflow) (step : Nat) (run : WorkflowRun) (findings : Bool) : Nat :=
  if run.activeStepIndex = step ∧ executorReason workflow run findings = some .findings
  then 1 else 0

/-- `1` when the result makes the executor dispatch a further attempt. -/
def dispatchCost (workflow : Workflow) (run : WorkflowRun) (findings : Bool) : Nat :=
  if executorReason workflow run findings = some .findings ∨
      executorReason workflow run findings = some .advanced
  then 1 else 0

/-- Automatic corrections of a step among the first `n` results. -/
def corrections (workflow : Workflow) (step : Nat) (results : Nat → Bool) (run : WorkflowRun)
    (n : Nat) : Nat :=
  spent (executorStep workflow) (correctionCost workflow step) results run n

/-- Whether the `n`-th result makes the executor dispatch. -/
def dispatchesAt (workflow : Workflow) (results : Nat → Bool) (run : WorkflowRun) (n : Nat) :
    Prop :=
  dispatchCost workflow (trace (executorStep workflow) results run n) (results n) = 1

variable (config : WorkbenchConfiguration) (name : String) (workflow : Workflow) in
/-- The started run and what results, pauses and resumes make of it. -/
inductive Reached : WorkflowRun → Prop where
  | started {runId : String} {run : WorkflowRun}
      (hstart : startRun config name runId = .ok (run, workflow)) : Reached run
  | moved {run run' : WorkflowRun} {findings : Bool} {reason : TransitionReason}
      (hrun : Reached run)
      (hmove : moveAfterAttempt workflow run findings = .ok (run', reason)) : Reached run'
  | paused {run run' : WorkflowRun} (hrun : Reached run)
      (hpause : run.pause = (.ok (), run')) : Reached run'
  | resumed {run run' : WorkflowRun} (hrun : Reached run)
      (hresume : run.resume = (.ok (), run')) : Reached run'

/-- No step is corrected more often than its `max_iterations`, and dispatching comes to an end. -/
def BoundedFrom (workflow : Workflow) (run : WorkflowRun) (results : Nat → Bool) : Prop :=
  (∀ index step, workflow.steps[index]? = some step →
    ∀ n, corrections workflow index results run n ≤ stepMaxIterations step) ∧
  ∃ n, ∀ m, n ≤ m → ¬ dispatchesAt workflow results run m

/-- No correction loop runs through another findings-capable step: where a step may be corrected and
its target is not ahead, the steps from the target up to it declare no `on_findings`. -/
def LoopsSeparate (workflow : Workflow) : Prop :=
  ∀ index target, targetOf workflow index = some target → target ≤ index →
    2 ≤ boundOf workflow index →
    ∀ other, target ≤ other → other < index → targetOf workflow other = none

theorem executorStep_running (hfits : Fits workflow run) (hphase : run.phase = .running)
    (findings : Bool) :
    ∃ reason, executorReason workflow run findings = some reason ∧
      (executorStep workflow run findings).stepIds = run.stepIds ∧
      Move workflow run findings (executorStep workflow run findings) reason := by
  obtain ⟨run', reason, hmove, hspec⟩ := moveAfterAttempt_running hfits hphase findings
  simp only [executorReason, executorStep, hmove]
  exact ⟨reason, rfl, hspec⟩

/-- One result either leaves the run where it is or moves it as `Move` says. -/
theorem executorStep_cases (hfits : Fits workflow run) (findings : Bool) :
    (executorReason workflow run findings = none ∧ executorStep workflow run findings = run) ∨
      ∃ reason, executorReason workflow run findings = some reason ∧ run.phase = .running ∧
        (executorStep workflow run findings).stepIds = run.stepIds ∧
        Move workflow run findings (executorStep workflow run findings) reason := by
  by_cases hphase : run.phase = .running
  · obtain ⟨reason, hreason, hspec⟩ := executorStep_running hfits hphase findings
    exact .inr ⟨reason, hreason, hphase, hspec⟩
  · obtain ⟨failure, hmove⟩ := moveAfterAttempt_not_running workflow hphase findings
    simp only [executorReason, executorStep, hmove]
    exact .inl ⟨trivial, trivial⟩

theorem executorStep_fits (findings : Bool) (hfits : Fits workflow run) :
    Fits workflow (executorStep workflow run findings) := by
  rcases executorStep_cases hfits findings with ⟨_, hstay⟩ | ⟨_, _, _, hsteps, hmove⟩
  · rw [hstay]; exact hfits
  · exact hmove.fits hfits hsteps

/-! ## Separate loops are bounded

The corrections a step can still receive are a potential: a run past the step
never comes back to it, a run inside the step's loop has what the counter leaves
of the bound, and a run before the loop has all but one of it. -/

/-- How many corrections of `step` a run still admits. -/
def remaining (workflow : Workflow) (step : Nat) (run : WorkflowRun) : Nat :=
  match targetOf workflow step with
  | none => 0
  | some target =>
    if run.phase ≠ .running ∨ step < run.activeStepIndex then 0
    else if step < target then 1
    else if target ≤ run.activeStepIndex then boundOf workflow step - run.iteration
    else boundOf workflow step - 1

variable (hseparate : LoopsSeparate workflow) (hfits : Fits workflow run)
include hseparate hfits

/-- The potential pays for every correction. -/
theorem correctionCost_add_remaining_le (step : Nat) (findings : Bool) :
    correctionCost workflow step run findings +
        remaining workflow step (executorStep workflow run findings)
      ≤ remaining workflow step run := by
  have hiter := hfits.iteration
  rcases executorStep_cases hfits findings with ⟨hnone, hstay⟩ | ⟨reason, hreason, hrun, _, hmove⟩
  · rw [hstay]
    simp [correctionCost, hnone]
  generalize executorStep workflow run findings = next at hmove
  unfold correctionCost remaining
  cases htarget : targetOf workflow step with
  | none =>
    cases hmove with
    | findings _ hjump =>
      have hne : run.activeStepIndex ≠ step := by
        rintro rfl
        simp [htarget] at hjump
      simp [hne]
    | _ => simp [hreason]
  | some target =>
    cases hmove with
    | awaitingHuman _ _ _ _ _ hphase | completed _ _ _ _ hphase => simp [hreason, hphase]
    | findings _ hjump hbelow hidx hit hphase =>
      -- a jump back over `step` would be a loop with `step` inside it
      have hback : run.activeStepIndex ≤ step ∨ step < next.activeStepIndex := by
        by_contra hcross
        have := hseparate _ _ hjump (by omega) (by omega) step (by omega) (by omega)
        simp [htarget] at this
      -- a jump inside the loop of `step` is one of its own
      have hinside : run.activeStepIndex < target ∨ step ≤ run.activeStepIndex ∨
          boundOf workflow step ≤ 1 := by
        by_contra hloop
        have := hseparate _ _ htarget (by omega) (by omega) run.activeStepIndex
          (by omega) (by omega)
        simp [hjump] at this
      by_cases hself : run.activeStepIndex = step
      · have : target = next.activeStepIndex := by
          rw [hself, htarget] at hjump
          cases hjump
          exact hidx.symm
        simp only [hreason, hself, hphase, hrun]
        rw [hself] at hbelow
        simp
        split_ifs <;> omega
      · simp only [hself, false_and, if_false, hphase, hrun]
        simp
        split_ifs <;> omega
    | advanced _ _ hidx hit hphase =>
      have hinside : run.activeStepIndex < target ∨ step ≤ run.activeStepIndex ∨
          boundOf workflow step ≤ 1 ∨ next.iteration = run.iteration := by
        by_contra hloop
        have := hseparate _ _ htarget (by omega) (by omega) run.activeStepIndex
          (by omega) (by omega)
        simp [hit, this] at hloop
      have hone : 1 ≤ next.iteration := by
        rw [hit]
        split <;> omega
      simp only [hreason, hphase, hrun]
      simp
      split_ifs <;> omega

theorem corrections_le (hstep : workflow.steps[index]? = some step)
    (results : Nat → Bool) (n : Nat) :
    corrections workflow index results run n ≤ stepMaxIterations step := by
  have hpaid := spent_add_potential_le (correctionCost workflow index)
    (remaining workflow index) (fun _ findings => executorStep_fits findings)
    (fun _ findings hfits => correctionCost_add_remaining_le hseparate hfits index findings)
    hfits results n
  have hstart : remaining workflow index run ≤ stepMaxIterations step := by
    have hpos := one_le_stepMaxIterations step
    unfold remaining
    rw [boundOf, hstep, Option.elim_some]
    split
    · omega
    split
    · omega
    · split
      · omega
      · split <;> omega
  unfold corrections
  omega

/-! ## Separate loops end

Every dispatch either corrects a step, which lowers the corrections left over all
steps, or advances by one step. -/

/-- The corrections a run still admits, over all steps of the workflow. -/
def remainingTotal (workflow : Workflow) (run : WorkflowRun) : Nat :=
  ((range workflow.steps.length).map fun step => remaining workflow step run).sum

/-- Dispatches left: a full pass for each correction, then the rest of this pass. -/
def dispatchesLeft (workflow : Workflow) (run : WorkflowRun) : Nat :=
  remainingTotal workflow run * (workflow.steps.length + 1) +
    (workflow.steps.length - run.activeStepIndex)

theorem remainingTotal_step (findings : Bool) :
    correctionCost workflow run.activeStepIndex run findings +
        remainingTotal workflow (executorStep workflow run findings)
      ≤ remainingTotal workflow run := by
  have hpoint : ((range workflow.steps.length).map fun step =>
        correctionCost workflow step run findings +
          remaining workflow step (executorStep workflow run findings)).sum
      ≤ remainingTotal workflow run :=
    sum_le_sum fun step _ =>
      correctionCost_add_remaining_le hseparate hfits step findings
  have hcost : correctionCost workflow run.activeStepIndex run findings ≤
      ((range workflow.steps.length).map fun step =>
        correctionCost workflow step run findings).sum :=
    single_le_sum (by simp) _ (mem_map.mpr ⟨run.activeStepIndex, mem_range.mpr hfits.index, rfl⟩)
  rw [sum_map_add] at hpoint
  unfold remainingTotal at *
  omega

theorem dispatchCost_add_left_le (findings : Bool) :
    dispatchCost workflow run findings +
        dispatchesLeft workflow (executorStep workflow run findings)
      ≤ dispatchesLeft workflow run := by
  have htotal := remainingTotal_step hseparate hfits findings
  rcases executorStep_cases hfits findings with ⟨hnone, hstay⟩ | ⟨reason, hreason, _, _, hmove⟩
  · rw [hstay]
    simp [dispatchCost, hnone]
  generalize executorStep workflow run findings = next at hmove htotal
  unfold dispatchesLeft dispatchCost
  have hle : remainingTotal workflow next * (workflow.steps.length + 1)
      ≤ remainingTotal workflow run * (workflow.steps.length + 1) :=
    Nat.mul_le_mul_right _ (by omega)
  cases hmove with
  | awaitingHuman _ _ _ hidx | completed _ _ hidx =>
    simp only [hreason, Option.some.injEq, reduceCtorEq, or_self, if_false]
    omega
  | findings =>
    simp only [correctionCost, hreason, and_self, if_true] at htotal
    have hlt : (remainingTotal workflow next + 1) * (workflow.steps.length + 1)
        ≤ remainingTotal workflow run * (workflow.steps.length + 1) :=
      Nat.mul_le_mul_right _ (by omega)
    rw [Nat.add_mul] at hlt
    simp only [hreason, true_or, if_true]
    omega
  | advanced _ _ hidx =>
    simp only [hreason, or_true, if_true]
    omega

theorem dispatches_end (results : Nat → Bool) :
    ∃ n, ∀ m, n ≤ m → ¬ dispatchesAt workflow results run m := by
  have hbound : ∀ n, spent (executorStep workflow) (dispatchCost workflow) results run n
      ≤ dispatchesLeft workflow run := by
    intro n
    have hpaid := spent_add_potential_le (dispatchCost workflow) (dispatchesLeft workflow)
      (fun _ findings => executorStep_fits findings)
      (fun _ findings hfits => dispatchCost_add_left_le hseparate hfits findings) hfits results n
    omega
  obtain ⟨n, hquiet⟩ := exists_quiet_of_bounded hbound
  refine ⟨n, fun m hm hdispatch => ?_⟩
  rw [dispatchesAt, hquiet m hm] at hdispatch
  exact absurd hdispatch (by decide)

omit hseparate hfits

/-! ## The runs of a session -/

theorem mapM_length {ε α β : Type} {f : α → Except ε β} :
    ∀ {items : List α} {out : List β}, items.mapM f = .ok out → out.length = items.length
  | [], out, h => by
    cases h
    rfl
  | head :: rest, out, h => by
    rw [mapM_cons] at h
    obtain ⟨first, _, h⟩ := bind_eq_ok h
    obtain ⟨others, hrest, h⟩ := bind_eq_ok h
    cases h
    simp [mapM_length hrest]

theorem start_eq_ok {workflowId : WorkflowId} {runId : NonEmptyText} {stepIds : List NonEmptyText}
    {bound : Nat} {target : Option Nat}
    (h : WorkflowRun.start workflowId runId stepIds bound target = .ok run) :
    run.stepIds = stepIds ∧ run.activeStepIndex = 0 ∧ run.iteration = 1 ∧
      run.phase = .running ∧ Within run := by
  obtain ⟨hsteps, h⟩ := ok_of_guard h
  split at h
  · cases h
  next hbound =>
  split at h
  · cases h
  next htarget =>
  cases h
  refine ⟨rfl, rfl, rfl, rfl, ?_, ?_, ⟨le_rfl, show 1 ≤ 8 by decide⟩, ?_⟩
  · simpa [length_pos_iff] using hsteps
  · rintro index rfl
    simpa using htarget
  · simp at hbound
    exact hbound.2

/-- A started run stands on the first step of its workflow with a fresh counter. -/
theorem startRun_eq_ok {runId : String}
    (h : startRun config name runId = .ok (run, workflow)) :
    Fits workflow run ∧ run.activeStepIndex = 0 ∧ run.iteration = 1 ∧ run.phase = .running ∧
      Within run := by
  unfold startRun at h
  split at h
  · cases h
  split at h
  · cases h
  rename_i found first rest hsteps
  obtain ⟨stepIds, hids, h⟩ := bind_eq_ok h
  obtain ⟨id, _, h⟩ := bind_eq_ok h
  obtain ⟨rid, _, h⟩ := bind_eq_ok h
  obtain ⟨started, hstart, h⟩ := bind_eq_ok h
  cases h
  have hlength := mapM_length hids
  cases hrun : WorkflowRun.start id rid stepIds (stepMaxIterations first)
      (onFindingsIndex workflow first) with
  | error failure => simp [hrun, Except.mapError] at hstart
  | ok started =>
    simp only [hrun, Except.mapError, Except.ok.injEq] at hstart
    subst hstart
    obtain ⟨hstepIds, hindex, hiteration, hphase, hwithin⟩ := start_eq_ok hrun
    refine ⟨⟨by rw [hstepIds, hlength], ?_, by omega⟩, hindex, hiteration, hphase, hwithin⟩
    rw [hindex, hsteps]
    simp

/-! ### Operations on a run -/

/-- What can be done to a run; a reload saves it first. -/
inductive RunOperation where
  | advance
  | reset
  | findings
  | pause
  | resume
  | cancel
  | fail
  | refresh (step : WorkflowStep)
  | reload (history : List Event) (reason : TransitionReason)

namespace RunOperation

/-- What an operation returns, and the run that it leaves. -/
def apply (workflow : Workflow) (run : WorkflowRun) :
    RunOperation → Except CoreError Unit × WorkflowRun
  | .advance => run.advanceAfterSuccess
  | .reset => (.ok (), run.resetIteration)
  | .findings => run.applyFindings
  | .pause => run.pause
  | .resume => run.resume
  | .cancel => run.cancel
  | .fail => run.fail
  | .refresh step => (.ok (), refreshStepBounds run step workflow)
  | .reload history reason =>
    (.ok (), (recoverRun (history ++ [⟨.workflowTransition run reason, none, none⟩])).getD run)

def after (workflow : Workflow) (run : WorkflowRun) (operation : RunOperation) : WorkflowRun :=
  (operation.apply workflow run).2

/-- The same steps, the limits, and the phase of a run that had ended. -/
structure Keeps (run run' : WorkflowRun) : Prop where
  within : Within run'
  steps : run'.stepIds = run.stepIds
  ended : run.phase.isTerminal → run'.phase = run.phase

theorem keeps (hsteps : run.stepIds.length = workflow.steps.length) (hwithin : Within run)
    (operation : RunOperation) : Keeps run (operation.after workflow run) := by
  have hsame : Keeps run run := ⟨hwithin, rfl, fun _ => rfl⟩
  obtain ⟨hindex, htarget, hiteration, hbound⟩ := hwithin
  have hphase : ∀ phase, ¬ run.phase.isTerminal → Keeps run { run with phase } :=
    fun phase hopen => ⟨⟨hindex, htarget, hiteration, hbound⟩, rfl,
      fun hended => absurd hended hopen⟩
  have hrunning : run.requireRunning = .ok () → ¬ run.phase.isTerminal := by
    unfold WorkflowRun.requireRunning
    cases run.phase <;> simp [WorkflowPhase.permitsDispatch, WorkflowPhase.isTerminal]
  cases operation with
  | advance =>
    simp only [after, apply, WorkflowRun.advanceAfterSuccess]
    split
    · exact hsame
    next hopen =>
    split
    · exact hphase _ (hrunning hopen)
    · next hmore =>
      exact ⟨⟨Nat.lt_of_not_le hmore, htarget, hiteration, hbound⟩, rfl,
        fun hended => absurd hended (hrunning hopen)⟩
  | findings =>
    simp only [after, apply, WorkflowRun.applyFindings]
    repeat' split
    · exact hsame
    · exact hsame
    · exact hphase _ (hrunning ‹_›)
    · next hopen _ target hsome _ =>
      exact ⟨⟨htarget target hsome, htarget, ⟨by simp, by dsimp only; omega⟩, hbound⟩, rfl,
        fun hended => absurd hended (hrunning hopen)⟩
  | reset => exact ⟨⟨hindex, htarget, ⟨le_rfl, show 1 ≤ 8 by decide⟩, hbound⟩, rfl, fun _ => rfl⟩
  | refresh step =>
    refine ⟨⟨hindex, fun target hsome => ?_, hiteration, Nat.min_le_right _ _⟩, rfl, fun _ => rfl⟩
    obtain ⟨_, -, hfind⟩ := Option.bind_eq_some_iff.mp hsome
    exact hsteps ▸ (findIdx?_eq_some_iff_getElem.mp hfind).1
  | reload history reason =>
    rw [after, apply, recoverRun_concat]
    exact hsame
  | pause | resume | cancel | fail =>
    simp only [after, apply, WorkflowRun.pause, WorkflowRun.resume, WorkflowRun.cancel,
      WorkflowRun.fail]
    repeat' split
    all_goals first
      | exact hsame
      | exact hphase _ ‹_›

theorem after_of_error {operation : RunOperation} {error : CoreError} :
    (operation.apply workflow run).1 = .error error → operation.after workflow run = run := by
  unfold after
  cases operation <;> simp only [apply, WorkflowRun.advanceAfterSuccess,
    WorkflowRun.applyFindings, WorkflowRun.pause, WorkflowRun.resume, WorkflowRun.cancel,
    WorkflowRun.fail] <;> repeat' split
  all_goals
    intro h
    first | rfl | cases h

theorem foldl_within (hsteps : run.stepIds.length = workflow.steps.length) (hwithin : Within run)
    (operations : List RunOperation) :
    let final := operations.foldl (after workflow) run
    final.stepIds.length = workflow.steps.length ∧ Within final := by
  induction operations generalizing run with
  | nil => exact ⟨hsteps, hwithin⟩
  | cons operation rest ih =>
    have hkeeps := operation.keeps hsteps hwithin
    exact ih (by rw [hkeeps.steps, hsteps]) hkeeps.within

end RunOperation

/-- Operations keep a run within its limits; an end is final, and a failure changes nothing. -/
theorem operations_within {runId : String}
    (hstart : startRun config name runId = .ok (run, workflow)) (operations : List RunOperation) :
    let final := operations.foldl (RunOperation.after workflow) run
    Within final ∧ ∀ operation : RunOperation,
      (final.phase.isTerminal → (operation.after workflow final).phase = final.phase) ∧
      ∀ error, (operation.apply workflow final).1 = .error error →
        operation.after workflow final = final := by
  obtain ⟨hfits, -, -, -, hstarted⟩ := startRun_eq_ok hstart
  obtain ⟨hsteps, hwithin⟩ := RunOperation.foldl_within hfits.steps hstarted operations
  exact ⟨hwithin, fun operation =>
    ⟨(operation.keeps hsteps hwithin).ended, fun _ => RunOperation.after_of_error⟩⟩

theorem Reached.fits (hrun : Reached config name workflow run) : Fits workflow run := by
  induction hrun with
  | started hstart => exact (startRun_eq_ok hstart).1
  | @moved _ _ findings _ _ hmove ih =>
    have hstep := executorStep_fits findings ih
    simpa only [executorStep, hmove] using hstep
  | paused _ hpause ih =>
    unfold WorkflowRun.pause at hpause
    split at hpause
    · cases hpause
    · split at hpause <;> cases hpause <;> exact ⟨ih.steps, ih.index, ih.iteration⟩
  | resumed _ hresume ih =>
    unfold WorkflowRun.resume at hresume
    split at hresume
    · cases hresume
    · split at hresume
      · cases hresume
        exact ⟨ih.steps, ih.index, ih.iteration⟩
      · cases hresume

theorem parseStepIds_eq_ok {steps : List WorkflowStep}
    (hids : ∀ step ∈ steps, isIdentifier step.id) : ∃ ids, parseStepIds steps = .ok ids := by
  induction steps with
  | nil => exact ⟨[], rfl⟩
  | cons head rest ih =>
    obtain ⟨ids, hrest⟩ := ih fun step hmem => hids step (mem_cons_of_mem _ hmem)
    have hhead : head.id ≠ "" := by
      intro hempty
      have := hids head mem_cons_self
      rw [hempty] at this
      exact absurd this (by decide)
    unfold parseStepIds at hrest ⊢
    rw [mapM_cons, hrest]
    simp only [NonEmptyText.parse, hhead, dite_false]
    exact ⟨_, rfl⟩

theorem startRun_of_valid {runId : String} (hid : runId ≠ "")
    (hlookup : config.workflows.lookup name = some workflow) (hvalid : workflow.Valid config name) :
    ∃ run, startRun config name runId = .ok (run, workflow) := by
  obtain ⟨ids, hids⟩ := parseStepIds_eq_ok hvalid.idOk
  have hlength := mapM_length hids
  cases hsteps : workflow.steps with
  | nil => exact absurd hsteps hvalid.nonempty
  | cons first rest =>
    have hname : Identifier.parse name = .ok ⟨name, hvalid.nameOk⟩ := by
      simp [Identifier.parse, hvalid.nameOk]
    have hids' : ids.isEmpty = false := by
      rw [hsteps] at hlength
      cases ids with
      | nil => simp at hlength
      | cons _ _ => rfl
    have hbound : (stepMaxIterations first == 0 ||
        decide (maxCorrectionIterations < stepMaxIterations first)) = false := by
      have h1 := one_le_stepMaxIterations first
      have h2 : stepMaxIterations first ≤ 8 := Nat.min_le_right _ _
      rw [Bool.or_eq_false_iff, beq_eq_false_iff_ne, decide_eq_false_iff_not,
        maxCorrectionIterations]
      omega
    have htarget : (onFindingsIndex workflow first).any
        (fun index => decide (ids.length ≤ index)) = false := by
      cases htarget : onFindingsIndex workflow first with
      | none => rfl
      | some target =>
        have hlt : target < workflow.steps.length :=
          targetOf_lt (show targetOf workflow 0 = some target by
            simp [targetOf, hsteps, htarget])
        simp only [Option.any_some, decide_eq_false_iff_not]
        omega
    unfold startRun
    simp only [hlookup, hsteps]
    rw [← hsteps, hids, hname]
    simp only [bind, Except.bind, Except.mapError, NonEmptyText.parse, WorkflowRun.start, hids',
      hbound, htarget, hid, Bool.false_eq_true, if_false, dite_false, pure, Except.pure]
    exact ⟨_, rfl⟩

/-- The results that report findings exactly at `step`. -/
def chase (workflow : Workflow) (step : Nat) (start : WorkflowRun) : Nat → WorkflowRun
  | 0 => start
  | n + 1 =>
    let run := chase workflow step start n
    executorStep workflow run (decide (run.activeStepIndex = step))

def chaseResults (workflow : Workflow) (step : Nat) (start : WorkflowRun) (n : Nat) : Bool :=
  decide ((chase workflow step start n).activeStepIndex = step)

theorem trace_chase (workflow : Workflow) (step : Nat) (start : WorkflowRun) :
    ∀ n, trace (executorStep workflow) (chaseResults workflow step start) start n
      = chase workflow step start n
  | 0 => rfl
  | n + 1 => by
    simp only [trace, trace_chase workflow step start n, chase, chaseResults]

/-- The run is about to dispatch the result of step `index`. -/
structure StandsAt (workflow : Workflow) (run : WorkflowRun) (index iteration : Nat) :
    Prop where
  fits : Fits workflow run
  running : run.phase = .running
  atIndex : run.activeStepIndex = index
  atIteration : run.iteration = iteration

section

variable {workflow : Workflow} {step target : Nat} {start : WorkflowRun}

/-- Before the loop's step every result is clean and moves the run on by one. -/
theorem chase_walk (hstep : step < workflow.steps.length) {n index iteration : Nat}
    (hat : StandsAt workflow (chase workflow step start n) index iteration)
    (hlt : index < step) :
    StandsAt workflow (chase workflow step start (n + 1)) (index + 1)
      (if (targetOf workflow index).isSome then 1 else iteration) := by
  obtain ⟨hfits, hrunning, rfl, rfl⟩ := hat
  have hclean : decide ((chase workflow step start n).activeStepIndex = step) = false :=
    decide_eq_false (by omega)
  have hfits' := executorStep_fits false hfits
  simp only [chase, hclean]
  obtain ⟨reason, _, _, hspec⟩ := executorStep_running hfits hrunning false
  cases hspec with
  | awaitingHuman hfindings | findings hfindings => cases hfindings
  | completed _ hlast => omega
  | advanced _ _ hidx hit hphase => exact ⟨hfits', hphase, hidx, hit⟩

/-- The walk reaches the step of the loop, with a fresh counter if it was or passed another loop. -/
theorem chase_climb (hstep : step < workflow.steps.length) (k : Nat) :
    ∀ (n : Nat) {index iteration : Nat},
      StandsAt workflow (chase workflow step start n) index iteration → index + k = step →
      ∃ iteration', StandsAt workflow (chase workflow step start (n + k)) step iteration' ∧
        ((iteration = 1 ∨ ∃ other, index ≤ other ∧ other < step ∧
          (targetOf workflow other).isSome) → iteration' = 1) := by
  induction k with
  | zero =>
    intro n index iteration hat hsum
    obtain rfl : index = step := hsum
    refine ⟨iteration, hat, ?_⟩
    rintro (hone | ⟨other, hle, hlt, _⟩)
    · exact hone
    · omega
  | succ k ih =>
    intro n index iteration hat hsum
    have hnext := chase_walk hstep hat (by omega)
    obtain ⟨iteration', hat', hfresh⟩ := ih (n + 1) hnext (by omega)
    refine ⟨iteration', by rwa [Nat.add_right_comm] at hat', fun hor => hfresh ?_⟩
    cases hcapable : (targetOf workflow index).isSome with
    | true => exact .inl (by simp)
    | false =>
      rcases hor with hone | ⟨other, hle, hlt, hsome⟩
      · exact .inl (by simpa using hone)
      · refine .inr ⟨other, ?_, hlt, hsome⟩
        by_contra hnot
        obtain rfl : index = other := by omega
        simp [hcapable] at hsome

/-- Findings at the loop's step with a fresh counter are corrected. -/
theorem chase_jump (htarget : targetOf workflow step = some target)
    (hbound : 2 ≤ boundOf workflow step) {n : Nat}
    (hat : StandsAt workflow (chase workflow step start n) step 1) :
    StandsAt workflow (chase workflow step start (n + 1)) target 2 ∧
      corrections workflow step (chaseResults workflow step start) start (n + 1)
        = corrections workflow step (chaseResults workflow step start) start n + 1 := by
  obtain ⟨hfits, hrunning, hindex, hiteration⟩ := hat
  have hfits' := executorStep_fits true hfits
  obtain ⟨reason, hreason, _, hspec⟩ := executorStep_running hfits hrunning true
  simp only [corrections, spent, trace_chase, chase, chaseResults, hindex, decide_true,
    correctionCost, hreason]
  cases hspec with
  | awaitingHuman _ _ hceiling => rw [hindex] at hceiling; omega
  | findings _ hjump _ hidx hit hphase =>
    rw [hindex, htarget] at hjump
    cases hjump
    exact ⟨⟨hfits', hphase, hidx, by omega⟩, by simp⟩
  | completed hclean | advanced hclean => simp [hindex, htarget] at hclean

/-- The corrections of a loop through another findings-capable step are unbounded. -/
theorem chase_unbounded (htarget : targetOf workflow step = some target) (hback : target ≤ step)
    (hbound : 2 ≤ boundOf workflow step) {other : Nat} (hle : target ≤ other)
    (hlt : other < step) (hcapable : (targetOf workflow other).isSome)
    (hstep : step < workflow.steps.length) (hstart : StandsAt workflow start 0 1) (k : Nat) :
    ∃ n, StandsAt workflow (chase workflow step start n) step 1 ∧
      k ≤ corrections workflow step (chaseResults workflow step start) start n := by
  induction k with
  | zero =>
    obtain ⟨iteration, hat, hfresh⟩ :=
      chase_climb hstep step 0 hstart (Nat.zero_add _)
    obtain rfl := hfresh (.inl rfl)
    exact ⟨_, hat, Nat.zero_le _⟩
  | succ k ih =>
    obtain ⟨n, hat, hk⟩ := ih
    obtain ⟨hjumped, hcount⟩ := chase_jump htarget hbound hat
    obtain ⟨iteration, hat', hfresh⟩ :=
      chase_climb hstep (step - target) (n + 1) hjumped (by omega)
    obtain rfl := hfresh (.inr ⟨other, hle, hlt, hcapable⟩)
    refine ⟨_, hat', ?_⟩
    have hmono := spent_mono (executorStep workflow) (correctionCost workflow step)
      (chaseResults workflow step start) start (Nat.le_add_right (n + 1) (step - target))
    unfold corrections at hcount hk ⊢
    omega

end

/-! ## The bound holds exactly for separate loops -/

/-- A validated workflow keeps every step within its `max_iterations` between two human actions and
stops dispatching, for all step results, exactly when no correction loop runs through another
findings-capable step. -/
theorem bounded_iff_loopsSeparate {config : WorkbenchConfiguration} {name : String}
    {workflow : Workflow} (hvalid : validateWorkflows config = .ok ())
    (hlookup : config.workflows.lookup name = some workflow) :
    (∀ run, Reached config name workflow run →
      ∀ results : Nat → Bool, BoundedFrom workflow run results) ↔ LoopsSeparate workflow := by
  constructor
  · intro hbounded index target htarget hback hbound other hle hlt
    by_contra hcapable
    have hworkflow : workflow.Valid config name :=
      validateWorkflows_sound hvalid (mem_of_lookup hlookup)
    obtain ⟨run, hstart⟩ := startRun_of_valid (show "run" ≠ "" by decide) hlookup hworkflow
    obtain ⟨hfits, hindex, hiteration, hphase, -⟩ := startRun_eq_ok hstart
    have hstep : index < workflow.steps.length := by
      by_contra hnot
      simp [targetOf, getElem?_eq_none (Nat.le_of_not_lt hnot)] at htarget
    obtain ⟨n, _, hmany⟩ := chase_unbounded htarget hback hbound hle hlt
      (Option.isSome_iff_ne_none.mpr hcapable) hstep ⟨hfits, hphase, hindex, hiteration⟩ 9
    have hkept := (hbounded run (.started hstart) (chaseResults workflow index run)).1 index _
      (getElem?_eq_getElem hstep) n
    have hle8 : stepMaxIterations workflow.steps[index] ≤ 8 := Nat.min_le_right _ _
    omega
  · intro hseparate run hrun results
    refine ⟨fun index step hstep n => corrections_le hseparate hrun.fits hstep results n, ?_⟩
    exact dispatches_end hseparate hrun.fits results

/-- Build, review and test by one fake role; review and test go back to the build, twice at most. -/
def reviewAndTest : WorkbenchConfiguration where
  providers := [("fake", { kind := .fake })]
  models := [("fake-default", ⟨"fake", "fake"⟩)]
  roles := [("primary", ⟨"fake-default", [], [], [], []⟩)]
  tools := []
  workflows := [("primary", ⟨[
    ⟨"build", "primary", none, none, [], []⟩,
    ⟨"review", "primary", some "build", some 2, [], []⟩,
    ⟨"test", "primary", some "build", some 2, [], []⟩]⟩)]
  routing := ⟨"primary", 1⟩
  policies := { defaultToolMode := .readOnly, globalDeny := [] }

def reviewAndTestWorkflow : Workflow := ⟨[
  ⟨"build", "primary", none, none, [], []⟩,
  ⟨"review", "primary", some "build", some 2, [], []⟩,
  ⟨"test", "primary", some "build", some 2, [], []⟩]⟩

theorem reviewAndTest_bounded_iff :
    validateWorkflows reviewAndTest = .ok () ∧
      ((∀ run, Reached reviewAndTest "primary" reviewAndTestWorkflow run →
        ∀ results : Nat → Bool, BoundedFrom reviewAndTestWorkflow run results) ↔
        LoopsSeparate reviewAndTestWorkflow) :=
  ⟨rfl, @bounded_iff_loopsSeparate reviewAndTest "primary" reviewAndTestWorkflow rfl rfl⟩

theorem reviewAndTest_within :
    ∃ run, startRun reviewAndTest "primary" "run" = .ok (run, reviewAndTestWorkflow) ∧
      let final := [.advance, .refresh ⟨"review", "primary", some "build", some 2, [], []⟩,
        .findings, .cancel].foldl (RunOperation.after reviewAndTestWorkflow) run
      Within final ∧ final.iteration = 2 ∧
        (RunOperation.fail.after reviewAndTestWorkflow final).phase = .cancelled ∧
        RunOperation.resume.after reviewAndTestWorkflow final = final := by
  refine ⟨_, rfl, ?_⟩
  obtain ⟨hwithin, hlater⟩ := @operations_within _ reviewAndTest "primary" _ "run" rfl
    [.advance, .refresh ⟨"review", "primary", some "build", some 2, [], []⟩, .findings, .cancel]
  exact ⟨hwithin, rfl, (hlater .fail).1 rfl, (hlater .resume).2 _ rfl⟩

/-- The fake provider, which describes itself well. -/
def fakeCatalog : Table ProviderCapabilities :=
  [("fake", ⟨"fake", "1", "1", .available, [], [⟨"prompt", .paidInference, false, false, .never⟩]⟩)]

/-- The review passes and the tests report findings, three times: the tests are corrected three
times with a `max_iterations` of two. -/
theorem reviewAndTest_exceeds_bound :
    validateWorkflows reviewAndTest = .ok () ∧
    reviewAndTest.workflows.lookup "primary" = some reviewAndTestWorkflow ∧
    ∃ run, Reached reviewAndTest "primary" reviewAndTestWorkflow run ∧
      ∃ results step,
        reviewAndTestWorkflow.steps[2]? = some step ∧ stepMaxIterations step = 2 ∧
        corrections reviewAndTestWorkflow 2 results run 9 = 3 := by
  refine ⟨rfl, rfl, ?_⟩
  obtain ⟨run, hstart⟩ : ∃ run, startRun reviewAndTest "primary" "run"
      = .ok (run, reviewAndTestWorkflow) := ⟨_, rfl⟩
  refine ⟨run, .started hstart, fun n => n % 3 == 2, _, rfl, rfl, ?_⟩
  cases hstart
  decide

/-! ## Findings in a stream

An adapter passes a text on in pieces, and the marker is looked for in each piece. -/

/-- The provider texts of an attempt, one for each content event. -/
def attemptContents (history : List Event) (attempt : Uuid) : List String :=
  history.filterMap fun event =>
    match event.payload with
    | .providerEvent _ content => if event.attempt = some attempt then some content else none
    | _ => none

def attemptText (history : List Event) (attempt : Uuid) : String :=
  String.join (attemptContents history attempt)

/-- The text has the marker, but every occurrence lies across two content events. -/
def SplitsMarker (history : List Event) (attempt : Uuid) : Prop :=
  contentHasFindings (attemptText history attempt) ∧
    ∀ content ∈ attemptContents history attempt, contentHasFindings content = false

theorem attemptHasFindings_eq (history : List Event) (attempt : Uuid) :
    attemptHasFindings history attempt
      = (attemptContents history attempt).any contentHasFindings := by
  rw [attemptHasFindings, attemptContents, any_filterMap]
  congr 1
  funext event
  cases event.payload with
  | providerEvent kind content => by_cases h : event.attempt = some attempt <;> simp [h]
  | _ => rfl

/-- A marker within one event is in the text. -/
theorem contentHasFindings_join {contents : List String} {content : String}
    (hmem : content ∈ contents) (h : contentHasFindings content) :
    contentHasFindings (String.join contents) := by
  simp only [contentHasFindings, decide_eq_true_eq, String.toList_join, flatMap] at h ⊢
  exact h.trans (infix_of_mem_flatten (mem_map_of_mem hmem))

theorem attemptHasFindings_iff {history : List Event} {attempt : Uuid} :
    attemptHasFindings history attempt ↔
      contentHasFindings (attemptText history attempt) ∧ ¬ SplitsMarker history attempt := by
  rw [attemptHasFindings_eq, SplitsMarker, any_eq_true]
  constructor
  · rintro ⟨content, hmem, h⟩
    exact ⟨contentHasFindings_join hmem h, fun hsplit => by simp [hsplit.2 content hmem] at h⟩
  · rintro ⟨htext, hnot⟩
    by_contra hnone
    exact hnot ⟨htext, fun content hmem =>
      Bool.eq_false_iff.mpr fun h => hnone ⟨content, hmem, h⟩⟩

/-- Two streams of one text are classified alike exactly when both or neither split the marker. -/
theorem findings_agree_iff {history other : List Event} {attempt otherAttempt : Uuid}
    (htext : attemptText history attempt = attemptText other otherAttempt) :
    attemptHasFindings history attempt = attemptHasFindings other otherAttempt ↔
      (SplitsMarker history attempt ↔ SplitsMarker other otherAttempt) := by
  rw [Bool.eq_iff_iff, attemptHasFindings_iff, attemptHasFindings_iff, htext]
  have hleft : SplitsMarker history attempt →
      contentHasFindings (attemptText other otherAttempt) := fun h => htext ▸ h.1
  have hright : SplitsMarker other otherAttempt → _ := And.left
  tauto

/-- The pieces of a text, as an adapter streams them for the attempt 0. -/
def streamed (pieces : List String) : List Event :=
  pieces.map fun piece => ⟨.providerEvent "assistant_text_delta" piece, none, some 0⟩

theorem streamed_agree_iff :
    let split := streamed ["findings_", "present=true"]
    let whole := streamed [findingsMarker]
    attemptText split 0 = attemptText whole 0 ∧
      (attemptHasFindings split 0 = attemptHasFindings whole 0 ↔
        (SplitsMarker split 0 ↔ SplitsMarker whole 0)) :=
  ⟨by decide, findings_agree_iff (by decide)⟩

/-- The same text is a finding in one piece and none in two. -/
theorem split_marker_missed :
    let split := streamed ["findings_", "present=true"]
    let whole := streamed [findingsMarker]
    attemptText split 0 = attemptText whole 0 ∧ attemptHasFindings split 0 = false ∧
      attemptHasFindings whole 0 := by
  decide

end Workbench.Daemon
