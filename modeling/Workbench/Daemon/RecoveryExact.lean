import Workbench.Daemon.AttemptOrder
import Workbench.Daemon.RecoveryFixpoint

/-!
# Daemon: the attempts that a recovery marks

Recovery marks the started attempts that have no fact.  The result of an attempt inside a
workflow is processed by a `workflow_transition`, which is not a fact: the attempt of every
step but the last stays without one, and a recovery takes it for an attempt in flight.
-/

namespace Workbench.Daemon

open Workbench.Core Config Storage Library Program List

/-- A run was moved on with the result of the attempt. -/
def movedRun (events : List Event) (attempt : Uuid) : Bool :=
  events.any fun event => event.attempt == some attempt &&
    match event.payload with
    | .workflowTransition _ _ => true
    | _ => false

/-- The daemon has processed the result of the attempt. -/
def processed (events : List Event) (attempt : Uuid) : Bool :=
  hasFact events attempt || movedRun events attempt

/-- The attempts that events mark as uncertain. -/
def markedAttempts (events : List Event) : List Uuid :=
  events.filterMap fun event => if Event.isUnknown event then event.attempt else none

/-- What was started and not processed is marked, and a definite result is left alone. -/
structure RecoveredExactly (s s' : Session) : Prop where
  marks : ∀ attempt, attempt ∈ markedAttempts (s'.events.drop s.events.length) ↔
    attempt ∈ startedAttempts s.events ∧ processed s.events attempt = false
  keeps : ∀ state, isFinal state → s.FoldsTo state → s'.FoldsTo state

section

variable {events : List Event} {attempt : Uuid}

theorem mem_markedAttempts_append (first second : List Event) :
    attempt ∈ markedAttempts (first ++ second) ↔
      attempt ∈ markedAttempts first ∨ attempt ∈ markedAttempts second := by
  rw [markedAttempts, filterMap_append, mem_append]
  rfl

theorem markedAttempts_exported (exported : List ExportJournal) :
    markedAttempts (exported.map exportedEvent) = [] := by
  rw [markedAttempts, filterMap_map]
  exact filterMap_eq_nil_iff.mpr fun _ _ => rfl

theorem markedAttempts_recovered (attempts : List Uuid) :
    markedAttempts (attempts.map recoveredEvent) = attempts := by
  rw [markedAttempts, filterMap_map]
  exact filterMap_some

/-- Behind the exports a recovery marks the attempts without a fact. -/
theorem mem_marked_recoverySuffix (hordered : Ordered events) :
    attempt ∈ markedAttempts (recoverySuffix events) ↔ attempt ∈ uncertainAttempts events := by
  rw [recoverySuffix, mem_markedAttempts_append, markedAttempts_recovered]
  unfold completionOf
  cases hbatch : controlCompletion events with
  | none =>
    rw [Option.getD_none, append_nil]
    exact or_iff_right not_mem_nil
  | some batch =>
    rw [Option.getD_some]
    -- what completes a control without marking an attempt settles none
    have hplain : markedAttempts batch = [] → startedAttempts batch = [] →
        (∀ attempt, hasFact batch attempt = false) →
        (attempt ∈ markedAttempts batch ∨ attempt ∈ uncertainAttempts (events ++ batch) ↔
          attempt ∈ uncertainAttempts events) := by
      intro hmarked hstarted hfacts
      rw [hmarked, mem_uncertainAttempts_append hstarted hfacts]
      exact or_iff_right not_mem_nil
    unfold controlCompletion at hbatch
    split at hbatch
    · cases hbatch
    next last hlast =>
    split at hbatch
    · cases hbatch
      exact hplain rfl rfl fun _ => rfl
    · split at hbatch
      · cases hbatch
        exact hplain rfl rfl fun _ => rfl
      next found hfound =>
      cases hbatch
      have huncertain : found ∈ uncertainAttempts events :=
        mem_uncertainAttempts.mpr
          ⟨latestStartedAttempt_mem hfound, hordered.latest found hfound⟩
      have hmarked : ∀ reason causation,
          markedAttempts [⟨.outcomeUnknown reason, causation, some found⟩] = [found] :=
        fun _ _ => rfl
      rw [hmarked, mem_singleton, mem_uncertainAttempts, startedAttempts_append,
        mem_append, hasFact_append, Bool.or_eq_false_iff]
      constructor
      · rintro (rfl | ⟨hstarted, hfact, _⟩)
        · exact huncertain
        · exact mem_uncertainAttempts.mpr ⟨hstarted.resolve_right not_mem_nil, hfact⟩
      intro hmem
      by_cases heq : attempt = found
      · exact .inl heq
      · obtain ⟨hstarted, hfact⟩ := mem_uncertainAttempts.mp hmem
        refine .inr ⟨.inl hstarted, hfact, ?_⟩
        simp [hasFact, Ne.symm heq]
    · next control hpayload =>
      obtain ⟨init, rfl⟩ := getLast?_eq_some_iff.mp hlast
      have hclosed := hordered.closed init last rfl
      rw [Event.isConfirmation, hpayload] at hclosed
      cases hclosed
    · cases hbatch

end

section

variable {s s' : Session} {exported : List ExportJournal}

/-- A recovered session has marked the attempts without a fact, and only these. -/
theorem mem_marked_kept (hordered : Ordered s.events)
    (hevents : s'.events = recoveredHistory (s.events ++ exported.map exportedEvent))
    (attempt : Uuid) :
    attempt ∈ markedAttempts (s'.events.drop s.events.length) ↔
      attempt ∈ uncertainAttempts s.events := by
  rw [hevents, recoveredHistory_eq, append_assoc, drop_left, mem_markedAttempts_append,
    markedAttempts_exported]
  rw [or_iff_right not_mem_nil]
  rcases eq_nil_or_concat exported with rfl | ⟨init, last, rfl⟩
  · rw [map_nil, append_nil]
    exact mem_marked_recoverySuffix hordered
  -- the last event is that of an export, so no control is completed
  have hnone := (getLast?_exported s.events (init.concat last)).mpr (.inl (by simp))
  rw [← controlCompletion_eq_none_iff] at hnone
  rw [recoverySuffix, completionOf, hnone, Option.getD_none, nil_append, append_nil,
    markedAttempts_recovered, mem_uncertainAttempts_exported]

/-- A history that folds to a definite result does not end with a control. -/
theorem getLast?_of_isFinal {events : List Event} {folded : FoldedSession}
    (hordered : Ordered events) (hfold : foldSession events = .ok folded)
    (hfinal : isFinal folded.state) : events.getLast?.any Event.leavesControl = false := by
  have hfolded := foldSession_eq_ok hfold
  rcases eq_nil_or_concat events with rfl | ⟨init, last, rfl⟩
  · rfl
  rw [concat_eq_append] at hordered hfolded ⊢
  rw [getLast?_concat, Option.any_some]
  rw [foldl_concat] at hfolded
  have hclosed := hordered.closed init last rfl
  generalize init.foldl FoldedSession.next .initial = before at hfolded
  subst hfolded
  unfold FoldedSession.next at hfinal
  unfold Event.isConfirmation at hclosed
  unfold Event.leavesControl
  cases hpayload : last.payload with
  | pauseRequested | cancelRequested =>
    rw [hpayload] at hfinal
    cases hfinal
  | cancelConfirmed =>
    rw [hpayload] at hclosed
    cases hclosed
  | _ => rfl

/-- A session with a definite result keeps it exactly when nothing is marked. -/
theorem keeps_iff {folded : FoldedSession} (hordered : Ordered s.events)
    (hfold : foldSession s.events = .ok folded)
    (hevents : s'.events = recoveredHistory (s.events ++ exported.map exportedEvent)) :
    (∀ state, isFinal state → s.FoldsTo state → s'.FoldsTo state) ↔
      (isFinal folded.state → uncertainAttempts s.events = []) := by
  rw [recoveredHistory_eq, append_assoc] at hevents
  have htracked := exportedSuffix_tracked (s.events ++ exported.map exportedEvent) exported
  have hafter : ∀ state, s'.FoldsTo state ↔ _ = state :=
    fun state => foldsTo_append hfold hevents htracked
  -- without a control only the marks can change the state
  have hcolumn : isFinal folded.state = true →
      columnAfter folded.state (exported.map exportedEvent ++
          recoverySuffix (s.events ++ exported.map exportedEvent))
        = if uncertainAttempts s.events = [] then folded.state else .outcomeUnknown := by
    intro hfinal
    have hnone := (getLast?_exported s.events exported).mpr
      (.inr (getLast?_of_isFinal hordered hfold hfinal))
    rw [← controlCompletion_eq_none_iff] at hnone
    have hnil : uncertainAttempts (s.events ++ exported.map exportedEvent) = [] ↔
        uncertainAttempts s.events = [] := by
      simp only [eq_nil_iff_forall_not_mem, mem_uncertainAttempts_exported]
    rw [columnAfter_append, columnAfter_exported, recoverySuffix, completionOf, hnone,
      Option.getD_none, nil_append, append_nil, columnAfter_recovered]
    simp only [hnil]
  constructor
  · intro hkeeps hfinal
    have hsame := (hafter _).mp (hkeeps folded.state hfinal ⟨folded, hfold, rfl⟩)
    rw [hcolumn hfinal] at hsame
    by_contra hmarked
    rw [if_neg hmarked] at hsame
    rw [← hsame] at hfinal
    cases hfinal
  · rintro hnone state hfinal ⟨found, hfound, rfl⟩
    rw [hfold] at hfound
    cases hfound
    rw [hafter, hcolumn hfinal, if_pos (hnone hfinal)]

end

/-- A recovery that goes well is exact about a session that stays exactly when no started attempt
without a fact has moved a run, or belongs to a session with a definite result. -/
theorem recovered_exactly_iff (env : Environment) {app app' : Application}
    {faults : RecoveryPass → List (List Bool)} {index : Nat} {s s' : Session}
    (hreach : Reaches (Application.step env) anyAction .initial app)
    (hstep : app.step env (.recover faults) = some app') (hserving : app'.status = .serving)
    (hindex : app.sessions[index]? = some s) (hindex' : app'.sessions[index]? = some s')
    (hstored : s'.row.isSome) :
    RecoveredExactly s s' ↔
      ∀ attempt ∈ startedAttempts s.events, hasFact s.events attempt = false →
        movedRun s.events attempt = false ∧ ∀ state, isFinal state → ¬ s.FoldsTo state := by
  have hall := recover_restarted hreach hstep hserving
  obtain ⟨hlt, rfl⟩ := List.getElem?_eq_some_iff.mp hindex
  obtain ⟨hlt', rfl⟩ := List.getElem?_eq_some_iff.mp hindex'
  obtain ⟨hmem, hrestarted, _⟩ := hall.get hlt hlt'
  rw [get_eq_getElem, get_eq_getElem] at hrestarted
  rw [get_eq_getElem] at hmem
  generalize app.sessions[index] = s at *
  generalize app'.sessions[index] = s' at *
  cases hrestarted with
  | gone _ hrow =>
    rw [hrow] at hstored
    cases hstored
  | kept _ hrow _ _ _ hevents =>
    obtain ⟨column, hcolumn⟩ := Option.isSome_iff_exists.mp hrow
    obtain ⟨folded, hfold⟩ := stored_folds hreach s hmem column hcolumn
    have hordered := events_ordered hreach s hmem column hcolumn
    have hmarked := mem_marked_kept hordered hevents
    have hkeeps := keeps_iff hordered hfold hevents
    have hstate : ∀ state, s.FoldsTo state ↔ folded.state = state :=
      fun state => foldsTo_append hfold (append_nil _).symm rfl
    constructor
    · rintro ⟨hmarks, hkept⟩ attempt hstarted hfact
      have huncertain := mem_uncertainAttempts.mpr ⟨hstarted, hfact⟩
      have hprocessed := ((hmarks attempt).mp ((hmarked attempt).mpr huncertain)).2
      rw [processed, Bool.or_eq_false_iff] at hprocessed
      refine ⟨hprocessed.2, fun state hfinal hfolds => ?_⟩
      rw [hstate] at hfolds
      subst hfolds
      rw [hkeeps.mp hkept hfinal] at huncertain
      cases huncertain
    · intro hcondition
      refine ⟨fun attempt => ?_, hkeeps.mpr fun hfinal => ?_⟩
      · rw [hmarked attempt, mem_uncertainAttempts, processed, Bool.or_eq_false_iff]
        exact ⟨fun h => ⟨h.1, h.2, (hcondition attempt h.1 h.2).1⟩, fun h => ⟨h.1, h.2.1⟩⟩
      · refine eq_nil_iff_forall_not_mem.mpr fun attempt huncertain => ?_
        obtain ⟨hstarted, hfact⟩ := mem_uncertainAttempts.mp huncertain
        exact (hcondition attempt hstarted hfact).2 folded.state hfinal ((hstate _).mpr rfl)

theorem Session.FoldsTo.unique {s : Session} {first second : SessionState} (h : s.FoldsTo first)
    (h' : s.FoldsTo second) : first = second := by
  obtain ⟨folded, hfold, rfl⟩ := h
  obtain ⟨found, hfound, rfl⟩ := h'
  rw [hfold] at hfound
  cases hfound
  rfl

/-- The process ends while the first attempt runs: the recovery marks it. -/
theorem running_attempt_marked :
    ∃ app app' s s', Reaches
      (Application.step smallEnvironment) anyAction .initial app ∧
      app.step smallEnvironment (.recover fun _ => []) = some app' ∧
      app.sessions[0]? = some s ∧ app'.sessions[0]? = some s' ∧ startedAttempts s.events ≠ [] ∧
      RecoveredExactly s s' := by
  obtain ⟨app, hreach, app', hstep, s, hindex, s', hindex', hserving, hstored, hrunning, hstarted,
      hmoved⟩ :=
    @exists_reaches_of_execute _ _
      (Application.step smallEnvironment) anyAction _ .initial
      (smallStart .fake [smallStep "a"] ++ [.resume 0 0 .proceed [], .crash])
      (fun app => ∃ app' ∈ app.step smallEnvironment (.recover fun _ => []),
        ∃ s ∈ app.sessions[0]?, ∃ s' ∈ app'.sessions[0]?, app'.status = .serving ∧
          s'.row.isSome = true ∧ s.FoldsTo .running ∧ startedAttempts s.events ≠ [] ∧
          ∀ attempt ∈ startedAttempts s.events, movedRun s.events attempt = false)
      (by decide +kernel)
  refine ⟨app, app', s, s', hreach, hstep, hindex, hindex', hstarted,
    (recovered_exactly_iff _ hreach hstep hserving hindex hindex' hstored).mpr ?_⟩
  refine fun attempt hmem _ => ⟨hmoved attempt hmem, fun state hfinal hfolds => ?_⟩
  rw [← hrunning.unique hfolds] at hfinal
  cases hfinal

/-- A workflow of two steps has completed and the process ends: the recovery marks the attempt
of the first step, and the session is no longer completed. -/
theorem completed_workflow_reopened :
    ∃ app app' s s', Reaches
      (Application.step smallEnvironment) anyAction .initial app ∧
      app.step smallEnvironment (.recover fun _ => []) = some app' ∧
      app'.status = .serving ∧ app.sessions[0]? = some s ∧ app'.sessions[0]? = some s' ∧
      (∃ attempt ∈ markedAttempts (s'.events.drop s.events.length),
        processed s.events attempt) ∧
      s.FoldsTo .completed ∧ s'.FoldsTo .outcomeUnknown ∧ ¬ RecoveredExactly s s' := by
  obtain ⟨app, hreach, app', hstep, s, hindex, s', hindex', hserving, hmarked, hcompleted,
      hunknown⟩ :=
    @exists_reaches_of_execute _ _
      (Application.step smallEnvironment) anyAction _ .initial
      (smallStart .fake [smallStep "a", smallStep "b"] ++
        replicate 7 (.resume 0 0 .proceed []) ++ [.crash])
      (fun app => ∃ app' ∈ app.step smallEnvironment (.recover fun _ => []),
        ∃ s ∈ app.sessions[0]?, ∃ s' ∈ app'.sessions[0]?, app'.status = .serving ∧
          (∃ attempt ∈ markedAttempts (s'.events.drop s.events.length),
            processed s.events attempt = true) ∧
          s.FoldsTo .completed ∧ s'.FoldsTo .outcomeUnknown)
      (by decide +kernel)
  refine ⟨app, app', s, s', hreach, hstep, hserving, hindex, hindex', hmarked, hcompleted, hunknown,
    fun hexact => ?_⟩
  have hkept := (hexact.keeps .completed rfl hcompleted).unique hunknown
  cases hkept

end Workbench.Daemon
