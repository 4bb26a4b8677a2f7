import Workbench.Daemon.Plan.Commands

/-!
# Daemon: every step of a task follows a plan

The background tasks, and the step of a session as a whole: `resume_plan`.
-/

namespace Workbench.Daemon

open Workbench.Core Config Storage Library Program

section

variable {env : Environment} {s : Session}

/-! ## Activation -/

variable {job : Job}

theorem Job.attempt_of_providerPrompt {prompt : ProviderPrompt}
    (h : job.providerPrompt = .ok prompt) : prompt.attempt = job.attempt := by
  unfold Job.providerPrompt at h
  split at h
  · cases h
    rfl
  · cases h

variable {result : Except ProviderFailure Unit}

theorem afterStartSession_meets {reply : Outcome} :
    Meets (Plan env s (.startSession job reply) (.sessionStarted result)) s
      (afterStartSession job reply result) := by
  refine .of_quiet (.quiet _ _) fun hquiet => ?_
  unfold Meets afterStartSession
  cases result with
  | error failure =>
    rw [wp_bind]
    refine recordProviderFailure_spec hquiet fun state hrow => ?_
    exact Follows.replies ⟨_, .failed _ _ _ _ _ _ _ (.start job reply failure state hrow), rfl⟩
  | ok u =>
    refine lift_spec hquiet fun prompt hprompt => ?_
    have hattempt := Job.attempt_of_providerPrompt hprompt
    split
    · rw [wp_bind, wp_perform]
      exact Follows.replies ⟨_, .startedCli job reply prompt hattempt, rfl⟩
    · rw [wp_bind, wp_perform]
      exact ⟨_, .startedStream job reply prompt hattempt, rfl⟩

theorem afterPromptStream_meets {reply : Outcome} :
    Meets (Plan env s (.promptStream job reply) (.streamOpened result)) s
      (afterPromptStream job reply result) := by
  refine .of_quiet (.quiet _ _) fun hquiet => ?_
  unfold Meets afterPromptStream
  cases result with
  | error failure =>
    rw [wp_bind]
    refine recordProviderFailure_spec hquiet fun state hrow => ?_
    exact Follows.replies ⟨_, .failed _ _ _ _ _ _ _ (.openStream job reply failure state hrow), rfl⟩
  | ok u =>
    rw [wp_bind, wp_perform]
    exact Follows.replies ⟨_, .opened job reply, rfl⟩

variable {err : DaemonError → Session → Prop} {active : ActiveExecution} {E : Session → Prop}
  {attempt : Uuid}

/-- The rest of a task that acts for an attempt only while that attempt is active. -/
theorem activeForAttempt_spec {α : Type} {ok : α → Session → Prop}
    {rest : Option ActiveExecution → App α} (hnone : wp (rest none) ok err s)
    (hsome : ∀ active, s.active = some active → active.attempt = attempt →
      wp (rest (some active)) ok err s) : wp (activeForAttempt attempt >>= rest) ok err s := by
  rw [wp_bind, activeForAttempt, wp_read]
  cases hactive : s.active with
  | none => exact hnone
  | some active =>
    rw [Option.filter_some]
    split
    · next hattempt => exact hsome active hactive (by simpa using hattempt)
    · exact hnone

variable {s : Session}

theorem wp_removeActiveAttempt {ok : Unit → Session → Prop} (hactive : s.active = some active) :
    wp (removeActiveAttempt active.attempt) ok err s = ok () (s.apply .deactivate) := by
  rw [removeActiveAttempt, wp_update, hactive]
  simp

variable {failure : ProviderFailure}

/-- A recorded failure of the active attempt ends its execution. -/
theorem recordAndRemove_spec {ok : Progress → Session → Prop}
    {state : SessionState} (hactive : s.active = some active)
    (hrow : s.row = some state) (herr : E s) (hok : ok .finished (s.after
      [.commit [failureEvent state active.request active.attempt failure] none, .deactivate])) :
    wp (do
        recordProviderFailure active.request active.attempt failure
        removeActiveAttempt active.attempt
        pure Progress.finished) ok (fun _ => E) s := by
  rw [wp_bind]
  refine recordProviderFailure_spec herr fun state' hrow' => ?_
  cases hrow.symm.trans hrow'
  have hkept : (s.apply (.commit [failureEvent state active.request active.attempt failure]
      none)).active = some active := hactive
  rw [wp_bind, wp_removeActiveAttempt hkept]
  exact hok

theorem afterActivation_meets :
    Meets (Plan env s (.activating attempt) (.streamOpened result)) s
      (afterActivation attempt result) := by
  refine .of_quiet (.quiet _ _) fun hquiet => ?_
  cases result with
  | ok u => exact ⟨[], .activated attempt, rfl⟩
  | error failure =>
    refine activeForAttempt_spec hquiet fun active hactive hattempt => ?_
    subst hattempt
    refine currentSessionState_spec hquiet fun state hrow => ?_
    split
    · exact hquiet
    · next hstate =>
      exact recordAndRemove_spec hactive hrow hquiet
        ⟨_, .failed _ _ _ _ _ _ _ (.activating active failure state ⟨hactive, hrow, hstate⟩), rfl⟩

/-! ## The provider stream -/

/-- What an output of the active attempt can do. -/
theorem recordProviderOutput_spec {ok : ProviderOutputState → Session → Prop}
    (active : ActiveExecution) (output : ProviderOutput) (herr : E s)
    (hprogress : ∀ event, ProgressEvent active.request active.attempt event →
      ok .streaming (s.apply (.commit [event] none)))
    (hpending : s.row = some .cancelRequested → ok .cancellationPending s)
    (hterminal : ∀ summary state, output = .completed summary → s.row = some state →
      state ≠ .cancelRequested → (sessionWorkflowId s.events).isSome → ok .terminal s)
    (hcompleted : ∀ summary state, output = .completed summary → s.row = some state →
      state ≠ .cancelRequested → sessionWorkflowId s.events = none →
      ok .terminal (s.apply (.commit
        [⟨.sessionCompleted summary, some active.request, some active.attempt⟩] none))) :
    wp (recordProviderOutput active output) ok (fun _ => E) s := by
  unfold recordProviderOutput
  cases output with
  | acknowledged =>
    rw [wp_bind]
    exact append_spec herr fun _ => hprogress _ (.acknowledged _)
  | content =>
    rw [wp_bind]
    exact append_spec herr fun _ => hprogress _ (.content _ _)
  | tool =>
    rw [wp_bind]
    exact append_spec herr fun _ => hprogress _ (.tool _ _)
  | completed summary =>
    refine currentSessionState_spec herr fun state hrow => ?_
    split
    · next hstate => exact hpending (hstate ▸ hrow)
    next hstate =>
    refine history_spec herr ?_
    split
    · next hworkflow => exact hterminal summary state rfl hrow hstate hworkflow
    · next hworkflow =>
      have hworkflow : sessionWorkflowId s.events = none := by simpa using hworkflow
      rw [wp_bind]
      exact append_spec herr fun _ => hcompleted summary state rfl hrow hstate hworkflow

theorem onStreamItem_meets {output : ProviderOutput} :
    Meets (Plan env s (.stream attempt) (.item output)) s (onStreamItem attempt output) := by
  refine .of_quiet (.quiet _ _) fun hquiet => ?_
  refine activeForAttempt_spec hquiet fun active hactive hattempt => ?_
  subst hattempt
  rw [wp_bind]
  refine recordProviderOutput_spec active output hquiet
    (fun event hevent => ⟨_, .progress active output event hactive hevent, rfl⟩)
    (fun hrow => ⟨_, .cancellationPending active output hactive hrow, rfl⟩)
    (fun summary state houtput hrow hstate hworkflow => ?_)
    (fun summary state houtput hrow hstate hworkflow => ?_)
  · subst houtput
    refine history_spec hquiet ?_
    rw [wp_bind, wp_removeActiveAttempt hactive, if_pos hworkflow]
    exact ⟨_, .stepCompleted active summary state _ ⟨hactive, hrow, hstate⟩ hworkflow, rfl⟩
  · subst houtput
    have hcompleted := fun cut => @Plan.completed env s active summary state cut
      ⟨hactive, hrow, hstate⟩ hworkflow
    have hsame := sessionWorkflowId_concat s.events
      ⟨.sessionCompleted summary, some active.request, some active.attempt⟩ nofun
    refine history_spec ⟨_, hcompleted 1, rfl⟩ ?_
    have hkept : (s.apply (.commit [⟨.sessionCompleted summary, some active.request,
        some active.attempt⟩] none)).active = some active := hactive
    have hnone : ¬ (sessionWorkflowId (s.apply (.commit [⟨.sessionCompleted summary,
        some active.request, some active.attempt⟩] none)).events).isSome = true := by
      rw [Session.apply_commit_events hrow, hsame, hworkflow]
      exact Bool.false_ne_true
    rw [wp_bind, wp_removeActiveAttempt hkept, if_neg hnone]
    exact ⟨_, hcompleted 2, rfl⟩

theorem onStreamFailure_meets :
    Meets (Plan env s (.stream attempt) (.streamFailed failure)) s
      (onStreamFailure attempt failure) := by
  refine .of_quiet (.quiet _ _) fun hquiet => ?_
  refine activeForAttempt_spec hquiet fun active hactive hattempt => ?_
  subst hattempt
  refine currentSessionState_spec hquiet fun state hrow => ?_
  split
  · exact hquiet
  · next hstate =>
    exact recordAndRemove_spec hactive hrow hquiet
      ⟨_, .failed _ _ _ _ _ _ _ (.stream active failure state ⟨hactive, hrow, hstate⟩), rfl⟩

theorem onStreamEnd_meets :
    Meets (Plan env s (.stream attempt) .streamEnded) s (onStreamEnd attempt) := by
  refine .of_quiet (.quiet _ _) fun hquiet => ?_
  refine activeForAttempt_spec hquiet fun active hactive hattempt => ?_
  subst hattempt
  refine currentSessionState_spec hquiet fun state hrow => ?_
  split
  · next hstate =>
    subst hstate
    exact recordAndRemove_spec hactive hrow hquiet
      ⟨_, .failed _ _ _ _ _ _ _ (.streamEnd active hactive hrow), rfl⟩
  · exact hquiet

/-! ## The fake provider -/

theorem finishFake_meets : Meets (Plan env s .fakeTimer .proceed) s (finishFake env) := by
  refine .of_quiet (.quiet _ _) fun hquiet => ?_
  unfold Meets finishFake
  rw [wp_bind, wp_read]
  split
  · exact hquiet
  next active hactive =>
  split
  · exact hquiet
  next hfake =>
  have hfake : active.isFake := by simpa using hfake
  refine history_spec hquiet ?_
  refine lift_spec hquiet fun folded hfolded => ?_
  split
  · exact hquiet
  next hrunning =>
  have hfold : s.FoldsTo .running := ⟨folded, hfolded, by simpa using hrunning⟩
  rw [wp_bind]
  refine append_spec hquiet fun _ => ?_
  rw [wp_bind, wp_perform]
  split
  · exact ⟨_, .fakeStep active _ _ hactive hfake hfold, rfl⟩
  next hplain =>
  have hworkflow : sessionWorkflowId s.events = none := by
    have hplain := fun h => hplain (.inr h)
    simpa using hplain
  have hdone := fun cut => @Plan.fakeCompleted env s active (fakeContent env)
    "deterministic fake provider completed" cut hactive hfake hfold hworkflow
  rw [wp_bind]
  exact append_spec ⟨_, hdone 2, rfl⟩ fun _ => ⟨_, hdone 3, rfl⟩

/-! ## Workflow advancement -/

theorem legalMove_eq_ok {move : Except CoreError (WorkflowRun × TransitionReason)}
    {result : WorkflowRun × TransitionReason} (h : legalMove move = .ok result) :
    move = .ok result := by
  cases move with
  | ok found => cases h; rfl
  | error failure => cases h

theorem advanceWorkflow_meets {request attempt : Uuid} {findings : Bool} :
    Meets (Plan env s (.advance request attempt findings) .proceed) s
      (advanceWorkflow request attempt findings) := by
  refine .of_quiet (.quiet _ _) fun hquiet => ?_
  refine history_spec hquiet ?_
  refine sessionConfiguration_spec hquiet ?_
  split
  · next hworkflow =>
    rw [wp_bind]
    exact append_spec hquiet fun _ => ⟨_, .advanceOrphan request attempt findings _ hworkflow, rfl⟩
  next workflowId hid =>
  split
  · exact hquiet
  next previous hprevious =>
  split
  · exact hquiet
  split
  · exact hquiet
  next workflow hlookup =>
  have hworkflow : s.configuredWorkflow = some workflow := by
    rw [Session.configuredWorkflow, hid, Option.bind_some, hlookup]
  refine lift_spec hquiet fun result hresult => ?_
  have hmove := legalMove_eq_ok hresult
  obtain ⟨run, reason⟩ := result
  rw [wp_bind]
  refine append_spec hquiet fun _ => ?_
  cases reason with
  | awaitingHuman =>
    have hplan := fun cut => @Plan.advanceCeiling env s request attempt findings workflow
      previous run cut hworkflow hprevious hmove
    rw [wp_bind, wp_read, wp_bind]
    refine append_spec ⟨_, hplan 1, rfl⟩ fun _ => ?_
    rw [wp_bind]
    exact append_spec ⟨_, hplan 2, rfl⟩ fun _ => ⟨_, hplan 3, rfl⟩
  | completed =>
    have hplan := fun cut => @Plan.advanceCompleted env s request attempt findings run cut
    rw [wp_bind]
    exact append_spec ⟨_, hplan 1, rfl⟩ fun _ => ⟨_, hplan 2, rfl⟩
  | _ =>
    dsimp only
    split
    · exact ⟨_, .advanceStep _ _ _ run _ _ (.inr rfl), rfl⟩
    · exact ⟨_, .advanceStep _ _ _ run _ _ (.inl rfl), rfl⟩

theorem dispatchWorkflowStep_meets {request : Uuid} {run : WorkflowRun} :
    Meets (Plan env s (.dispatchStep request run) .proceed) s
      (dispatchWorkflowStep env request run) := by
  refine .of_quiet (.quiet _ _) fun hquiet => ?_
  refine history_spec hquiet ?_
  rw [wp_bind, wp_read]
  refine sessionConfiguration_spec hquiet ?_
  refine lift_spec hquiet fun found _ => ?_
  cases found with
  | none => exact hquiet
  | some target =>
    refine lift_spec hquiet fun decision _ => ?_
    cases decision with
    | selected plan =>
      dsimp only
      split
      · rw [wp_bind]
        exact append_spec hquiet fun _ => ⟨_, .stepRefused request run _, rfl⟩
      have hplan := fun cut => @Plan.stepCut env s request run plan cut
      rw [wp_bind]
      refine append_spec hquiet fun _ => ?_
      rw [wp_bind]
      refine append_spec ⟨_, hplan 1, rfl⟩ fun _ => ?_
      rw [wp_bind]
      refine append_spec ⟨_, hplan 2, rfl⟩ fun _ => ?_
      split
      · exact ⟨_, hplan 3, rfl⟩
      · exact ⟨_, .stepDispatched request run plan _ rfl, rfl⟩
    | _ =>
      rw [wp_bind]
      exact append_spec hquiet fun _ => ⟨_, .stepRefused request run _, rfl⟩

theorem launchAttempt_meets :
    Meets (Plan env s (.launch job) .proceed) s (launchAttempt env job) := by
  refine .of_quiet (.quiet _ _) fun hquiet => ?_
  unfold Meets launchAttempt
  split
  · rw [wp_bind, wp_perform]
    exact ⟨_, .launchFake job, rfl⟩
  split
  · exact ⟨_, .launchProvider job, rfl⟩
  · rw [wp_bind]
    exact recordProviderFailure_spec hquiet fun state hrow =>
      ⟨_, .failed _ _ _ _ _ _ _ (.launch job state hrow), rfl⟩

theorem afterLaunchStarted_meets :
    Meets (Plan env s (.launchStarted job) (.sessionStarted result)) s
      (afterLaunchStarted job result) := by
  refine .of_quiet (.quiet _ _) fun hquiet => ?_
  unfold Meets afterLaunchStarted
  cases result with
  | error failure =>
    rw [wp_bind]
    exact recordProviderFailure_spec hquiet fun state hrow =>
      ⟨_, .failed _ _ _ _ _ _ _ (.launchStart job failure state hrow), rfl⟩
  | ok u =>
    refine lift_spec hquiet fun prompt hprompt => ?_
    rw [wp_bind, wp_perform]
    exact ⟨_, .launched job prompt (Job.attempt_of_providerPrompt hprompt), rfl⟩

/-! ## Cancellation -/

theorem startCancelResolution_meets {request control : Uuid} {attempt : Option Uuid} :
    Meets (Plan env s (.cancelResolution request control attempt) .proceed) s
      (startCancelResolution env request control attempt) := by
  refine .of_quiet (.quiet _ _) fun hquiet => ?_
  unfold Meets startCancelResolution
  rw [wp_bind, wp_read]
  split
  · next active hfound =>
    rw [Option.filter_eq_some_iff] at hfound
    obtain ⟨hactive, hattempt⟩ := hfound
    obtain rfl : attempt = some active.attempt := by simpa using hattempt
    split
    · exact hquiet
    split
    · next hfake =>
      rw [wp_bind, wp_perform]
      exact ⟨_, .cancelFake request control active _ hactive hfake, rfl⟩
    · rw [wp_bind, wp_perform]
      exact ⟨_, .cancelProvider request control active hactive, rfl⟩
  · exact ⟨_, .cancelUnmatched request control attempt _, rfl⟩

theorem resolveCancel_meets {request control : Uuid} {attempt : Option Uuid} {confirmed : Bool}
    {summary : String} :
    Meets (Plan env s (.resolveCancel request control attempt confirmed summary) .proceed) s
      (resolveCancel request control attempt confirmed summary) := by
  refine .of_quiet (.quiet _ _) fun hquiet => ?_
  refine history_spec hquiet ?_
  refine lift_spec hquiet fun folded hfolded => ?_
  split
  · exact hquiet
  next hstate =>
  have hfold : s.FoldsTo .cancelRequested := ⟨folded, hfolded, by simpa using hstate⟩
  rw [wp_bind, wp_read, wp_bind]
  refine appendEvents_spec hquiet fun _ => ?_
  rw [wp_bind, wp_perform]
  exact ⟨_, .cancelResolved request control attempt confirmed summary hfold, rfl⟩

end

/-! ## The step of a session -/

variable {response : Response}

/-- Every continuation but the one that waits for its own lock follows a plan. -/
theorem continuation_meets {env : Environment} (s : Session) {point : Point} {prog : App Progress}
    (hcontinuation : continuation env point response = some prog)
    (hfree : ∀ request run reply, point ≠ .relock request run reply) :
    Meets (Plan env s point response) s prog := by
  unfold continuation at hcontinuation
  split at hcontinuation <;> cases hcontinuation
  · exact wp_mono (fun progress s' ⟨effects, hplan, hs'⟩ =>
        ⟨effects, .command _ _ effects _ hplan, hs'⟩)
      (fun _ s' ⟨effects, hplan, hs'⟩ => ⟨effects, .command _ _ effects _ hplan, hs'⟩)
      dispatchSession_meets
  · exact afterStartSession_meets
  · exact afterPromptStream_meets
  · exact absurd rfl (hfree _ _ _)
  · unfold Meets
    rw [wp_bind, wp_perform]
    exact ⟨_, .activate _, rfl⟩
  · exact afterActivation_meets
  · exact onStreamItem_meets
  · exact onStreamFailure_meets
  · exact onStreamEnd_meets
  · exact finishFake_meets
  · exact advanceWorkflow_meets
  · exact dispatchWorkflowStep_meets
  · exact launchAttempt_meets
  · exact afterLaunchStarted_meets
  · exact startCancelResolution_meets
  · unfold Meets afterAdapterCancel
    rw [wp_bind, wp_perform]
    exact ⟨_, .adapterCancelled _ _ _ _ _, rfl⟩
  · exact resolveCancel_meets

/-- A step of a task carries out a plan, and the task waits again where the plan says. -/
theorem resume_plan {env : Environment} {stopping : Bool} {index : Nat} {faults : List Bool}
    {s s' : Session} (hresume : s.resume env stopping index response faults = some s') :
    ∃ point, s.tasks[index]? = some point ∧
      (needsLock point response → s.locked = false) ∧
      (s' = s.without index ∨
        ∃ effects next, Plan env (s.without index) point response effects next ∧
          s' = ((s.without index).after effects).settle next) := by
  unfold Session.resume at hresume
  split at hresume
  · cases hresume
  next point hpoint =>
  split at hresume
  · cases hresume
  next prog hprog =>
  obtain ⟨hlock, hresume⟩ := Option.ite_none_left_eq_some.mp hresume
  have hlock : needsLock point response = true → s.locked = false := by simpa using hlock
  refine ⟨point, hpoint, hlock, ?_⟩
  split at hresume
  · cases hresume
    exact .inl rfl
  cases hresume
  right
  have hfree : ∀ request run reply, point ≠ .relock request run reply := by
    rintro request run reply rfl
    have hheld : s.locked :=
      List.any_eq_true.mpr ⟨_, List.mem_of_getElem? hpoint, rfl⟩
    rw [hlock rfl] at hheld
    cases hheld
  have hends := wp_run (continuation_meets (s.without index) hprog hfree) faults
  unfold Session.execute
  generalize prog.run faults (s.without index) = outcome at hends
  match outcome, hends with
  | (.ok progress, s'), ⟨effects, hplan, hs'⟩ =>
    exact ⟨effects, _, hplan, by rw [hs']⟩
  | (.error e, s'), ⟨effects, hplan, hs'⟩ => exact ⟨effects, _, hplan, by rw [hs']⟩

end Workbench.Daemon
