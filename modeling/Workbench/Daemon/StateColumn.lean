import Workbench.Daemon.Transaction

/-!
# Daemon: the state column and the folded history

The store sets the state column by the kind of each appended event, the daemon folds the
history.  The two tables agree on every event but three: a recorded approval and a
requested deletion, which are committed together with what settles the column, and
`pause_requested`, which `state_for_kind` does not know.  A run that asks for a human
commits `pause_requested` in a transaction of its own.
-/

namespace Workbench.Daemon

open Workbench.Core Config Storage Library List

/-- The column that a transaction leaves is the state that the history folds to. -/
def ColumnIsFold (history : List Event) (commit : Commit) : Prop :=
  ∃ folded, foldSession (history ++ commit.batch) = .ok folded ∧ commit.column = folded.state

/-- The column follows the fold on this event. -/
def Event.isTracked (event : Event) : Bool :=
  match event.payload with
  | .pauseRequested _ | .approvalRecorded _ _ | .sessionDeletionRequested _ => false
  | _ => true

/-- The finished attempt sends its run to a human: it runs, has findings and no corrections left. -/
def Session.asksHuman (s : Session) : Point → Bool
  | .advance _ _ findings =>
    match s.configuredWorkflow, recoverRun s.events with
    | some workflow, some run =>
      let run := refreshActiveStep workflow run
      run.phase.permitsDispatch && findings && run.onFindingsStepIndex.isSome
        && decide (run.maxIterations ≤ run.iteration)
    | _, _ => false
  | _ => false

/-- The runs in which no workflow run is sent to a human. -/
abbrev AsksNoHuman : Application → Action → Prop :=
  StepsMeet fun s point _ => s.asksHuman point = false

/-! ## Events -/

section

variable {folded : FoldedSession} {event : Event} {batch : List Event}

theorem column_eq_next_state (h : Event.isTracked event) :
    event.column folded.state = (folded.next event).state := by
  obtain ⟨payload, causation, attempt⟩ := event
  cases payload with
  | sessionRedirected =>
    show (if folded.state = .awaitingClarification then _ else _) = FoldedSession.state
      (if _ then _ else _)
    split <;> rfl
  | pauseRequested | approvalRecorded | sessionDeletionRequested => cases h
  | _ => rfl

/-- Where the column is right before these events it is right after them. -/
def Settles (events : List Event) : Prop :=
  ∀ folded,
    columnAfter folded.state events = (events.foldl FoldedSession.next folded).state

theorem settles_of_tracked (h : batch.all Event.isTracked) : Settles batch := by
  intro folded
  induction batch generalizing folded with
  | nil => rfl
  | cons event rest ih =>
    rw [all_cons, Bool.and_eq_true] at h
    rw [columnAfter, foldl_cons, column_eq_next_state h.1]
    exact ih h.2 (folded.next event)

/-- The column follows the fold on events of this kind. -/
def isTrackedKind : EventPayload → Bool
  | .pauseRequested | .approvalRecorded _ | .sessionDeletionRequested => false
  | _ => true

theorem settles_of_areOf {kinds : List EventPayload} (h : areOf kinds batch)
    (hkinds : kinds.all isTrackedKind) : Settles batch := by
  refine settles_of_tracked (all_of_areOf h hkinds fun event hkind => ?_)
  obtain ⟨payload, causation, attempt⟩ := event
  cases payload <;> exact hkind

theorem ceiling_of_awaitingHuman {workflow : Workflow} {run run' : WorkflowRun} {findings : Bool}
    (h : moveAfterAttempt workflow run findings = .ok (run', .awaitingHuman)) :
    (refreshActiveStep workflow run).phase.permitsDispatch ∧ findings ∧
      (refreshActiveStep workflow run).onFindingsStepIndex.isSome ∧
      (refreshActiveStep workflow run).maxIterations ≤
        (refreshActiveStep workflow run).iteration := by
  unfold moveAfterAttempt at h
  generalize refreshActiveStep workflow run = refreshed at h ⊢
  dsimp only at h
  split at h
  · next hfindings =>
    rw [Bool.and_eq_true] at hfindings
    obtain ⟨_, happlied, h⟩ := bind_eq_ok h
    unfold WorkflowRun.applyFindings at happlied h
    split at happlied
    · cases happlied
    next hrunning =>
    have hphase := (ok_of_check hrunning).1
    refine ⟨hphase, hfindings.1, hfindings.2, ?_⟩
    split at happlied
    · cases happlied
    next htarget =>
    rw [hrunning, htarget] at h
    dsimp only at h
    split at h
    · next hceiling => exact hceiling
    · -- below the ceiling the run stays in the phase that let it move
      rw [WorkflowPhase.permitsDispatch_iff] at hphase
      rw [hphase, if_neg (by decide)] at h
      cases h
  · obtain ⟨moved, _, h⟩ := bind_eq_ok h
    split at h <;> split at h <;> cases h

end

/-! ## Transactions -/

section

variable {s : Session} {point : Point} {response : Response}

/-- Where every transaction has left the column right, the column is right. -/
theorem LogMeets.foldsTo (h : LogMeets ColumnIsFold s) {column : SessionState}
    (hrow : s.row = some column) : s.FoldsTo column := by
  obtain ⟨_, _, hevents, rfl, folded, hfold, hcolumn⟩ := h.last hrow
  exact ⟨folded, hevents ▸ hfold, hcolumn.symm⟩

variable {done : List Event}

theorem LogMeets.commitMeets (h : LogMeets ColumnIsFold s) {batch : List Event}
    {stored : Option StoredCommand} (hsettles : Settles (done ++ batch)) :
    CommitMeets ColumnIsFold s done batch stored := by
  intro column hrow
  obtain ⟨folded, hfold, rfl⟩ := h.foldsTo hrow
  refine ⟨_, ?_, hsettles folded⟩
  rw [append_assoc]
  exact foldSession_append hfold (done ++ batch)

theorem LogMeets.deletionMeets (h : LogMeets ColumnIsFold s) : DeletionMeets ColumnIsFold s := by
  intro column journal hrow _ _
  obtain ⟨folded, hfold, _⟩ := h.foldsTo hrow
  exact ⟨_, foldSession_append hfold _, rfl⟩

/-- What a command appends before it activates an attempt settles the column. -/
theorem Activated.settles {request causation attempt : Uuid} {command : Command}
    (h : Activated s request command causation attempt done) {batch : List Event}
    (hbatch : Settles batch) : Settles (done ++ batch) := by
  have hdone : Settles done := by cases h <;> exact fun _ => rfl
  intro folded
  rw [columnAfter_append, hdone folded, foldl_append]
  exact hbatch _

theorem LogMeets.transacting_column (hlog : LogMeets ColumnIsFold s)
    (hallowed : s.asksHuman point = false) : Transacting ColumnIsFold s point response := by
  refine ⟨fun done batch stored h => hlog.commitMeets ?_, fun _ _ _ => hlog.deletionMeets⟩
  have hkinds := h.areOf
  cases h with
  | command _ _ _ _ hcommit =>
    cases hcommit with
    | outcome | decidedAgain | pause | grant | deny => exact fun _ => rfl
    | _ => exact settles_of_areOf hkinds rfl
  | unavailable _ _ _ _ _ _ hactivated =>
    exact hactivated.settles (settles_of_areOf (areOf_failureEvent _ _ _ _) rfl)
  | failed => exact settles_of_areOf (areOf_failureEvent _ _ _ _) rfl
  | ceiling _ _ _ _ _ _ _ _ _ hworkflow hprevious hmove =>
    obtain ⟨hphase, hfindings, htarget, hceiling⟩ := ceiling_of_awaitingHuman hmove
    simp [Session.asksHuman, hworkflow, hprevious, hphase, hfindings, htarget, hceiling] at hallowed
  | runCompleted _ _ _ _ _ _ _ hevents =>
    have hof : areOf [.workflowTransition, .sessionCompleted] _ := areOf_upTo rfl hevents
    exact settles_of_areOf hof rfl
  | runPaused | advanceOrphan | advanced => exact fun _ => rfl
  | _ => exact settles_of_areOf hkinds rfl

theorem LogMeets.upkeeping_column (hlog : LogMeets ColumnIsFold s) : Upkeeping ColumnIsFold s :=
  ⟨fun _ _ _ h => hlog.commitMeets (settles_of_areOf h.areOf rfl), hlog.deletionMeets⟩

end

/-- After every transaction the state column is what the history folds to, in every run in which no
workflow run is sent to a human. -/
theorem column_is_fold (env : Environment) {app : Application}
    (hreach : Reaches (Application.step env) AsksNoHuman .initial app) :
    ∀ s ∈ app.sessions, EveryCommit ColumnIsFold s.commits ∧
      ∀ column, s.row = some column → s.FoldsTo column := by
  intro s hmem
  have hlog : LogMeets ColumnIsFold s := by
    refine transactions_invariant (fun s hlog => hlog.upkeeping_column) (fun _ _ => ⟨_, rfl, rfl⟩)
      (fun h hlog => ?_) hreach s hmem
    have hstep := h.isAllowed _ _ _ _ _ _ rfl h.session h.point
    exact hlog.transacting_column hstep
  exact ⟨hlog.every, fun column hrow => hlog.foldsTo hrow⟩

/-- The column of a completed workflow session. -/
theorem completed_column_is_fold :
    ∃ app, Reaches (Application.step smallEnvironment) AsksNoHuman .initial app ∧
      (∃ s ∈ app.sessions, s.row = some .completed) ∧
      ∀ s ∈ app.sessions, EveryCommit ColumnIsFold s.commits ∧
        ∀ column, s.row = some column → s.FoldsTo column :=
  exists_reaches_and
    (smallStart .fake [smallStep "a"] ++ replicate 3 (.resume 0 0 .proceed []))
    (by decide +kernel) fun _ hreach _ => column_is_fold _ hreach

/-- A run that used up its corrections is sent to a human, and the store fails after
`pause_requested`: the column says `running`, the history folds to `pausing`. -/
theorem asking_human_leaves_column :
    ∃ app, Reaches (Application.step findingsEnvironment) anyAction .initial app ∧
      ∃ s ∈ app.sessions, s.row = some .running ∧ s.FoldsTo .pausing ∧
        ¬ EveryCommit ColumnIsFold s.commits := by
  obtain ⟨app, hreach, s, hmem, hrow, hfold, commit, hindex, hcommit⟩ :=
    @exists_reaches_of_execute _ _
      (Application.step findingsEnvironment) anyAction _ .initial
      (smallStart .fake [smallLoop "a"] ++ replicate 2 (.resume 0 0 .proceed []) ++
        [.resume 0 0 .proceed [false, false, false, true]])
      (fun app => ∃ s ∈ app.sessions, s.row = some .running ∧ s.FoldsTo .pausing ∧
        ∃ commit ∈ s.commits[5]?, commit.column = .running ∧
          (foldSession (committed (s.commits.take 5) ++ commit.batch)).toOption.map
            FoldedSession.state = some .pausing)
      (by decide +kernel)
  refine ⟨app, hreach, s, hmem, hrow, hfold, not_everyCommit hindex ?_⟩
  rintro ⟨folded, hfolded, hcolumn⟩
  rw [hfolded] at hcommit
  have hstate := Option.some.inj hcommit.2
  rw [← hcolumn, hcommit.1] at hstate
  cases hstate

end Workbench.Daemon
