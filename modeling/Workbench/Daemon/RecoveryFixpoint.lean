import Workbench.Daemon.Restart

/-!
# Daemon: recovery is a fixpoint, but not a complete one

A second recovery finds nothing to do, whatever the first one found.  The first one leaves
a session in `pausing` or `cancel_requested` when an event follows the request of the
control, most simply an export, and no attempt is left to be marked.
-/

namespace Workbench.Daemon

open Workbench.Core Config Storage Library Program List

/-- What the store holds of the sessions. -/
def Application.durable (app : Application) : List Session := app.sessions.map Session.crashed

/-- A second recovery changes nothing, and no control is left unfinished. -/
structure RecoveredFully (env : Environment) (app : Application) : Prop where
  again : ∀ faults down app', app.step env .crash = some down →
    down.step env (.recover faults) = some app' → app'.durable = app.durable
  complete : ∀ s ∈ app.sessions, ¬ s.FoldsTo .pausing ∧ ¬ s.FoldsTo .cancelRequested

/-- An unfinished control that no recovery sees: an export is about to follow its request, or
some event has, and every started attempt has a fact. -/
def Session.hidesControl (s : Session) : Prop :=
  (s.FoldsTo .pausing ∨ s.FoldsTo .cancelRequested) ∧ s.deletion = none ∧
    uncertainAttempts s.events = [] ∧
    (s.owesExport ∨ s.events.getLast?.any Event.leavesControl = false)

instance (s : Session) : Decidable s.hidesControl := by
  unfold Session.hidesControl
  infer_instance

/-! ## The second recovery -/

section

variable {s s' : Session}

theorem Settled.congr (h : Settled s) (hcrashed : s'.crashed = s.crashed) : Settled s' := by
  have hcreation := congrArg Session.creation hcrashed
  have hexports := congrArg Session.exports hcrashed
  have hdeletion := congrArg Session.deletion hcrashed
  have hrow := congrArg Session.row hcrashed
  have hevents := congrArg Session.events hcrashed
  refine ⟨hcreation.trans h.creation, hexports.trans h.exports, hdeletion.trans h.deletion,
    fun hsome => ?_, (congrArg uncertainAttempts hevents).trans h.attempts⟩
  have hsome' : s.row.isSome := (congrArg Option.isSome hrow).symm.trans hsome
  exact (congrArg controlCompletion hevents).trans (h.control hsome')

/-- A pass over a settled session changes the memory of the process at most. -/
theorem Settled.pass (h : Settled s) (pass : RecoveryPass) :
    wp pass.program (fun _ s' => s'.crashed = s.crashed)
      (fun _ s' => s'.crashed = s.crashed) s := by
  cases pass with
  | creations =>
    show wp reconcileCreation _ _ s
    unfold reconcileCreation
    rw [wp_bind, wp_read, h.creation]
    rfl
  | exports =>
    show wp resumeExports _ _ s
    unfold resumeExports
    rw [wp_bind, wp_invoke]
    refine ⟨rfl, ?_⟩
    rw [h.exports]
    rfl
  | deletions =>
    show wp resumeDeletion _ _ s
    unfold resumeDeletion
    rw [wp_bind, wp_read, h.deletion]
    rfl
  | sessions =>
    show wp loadAndHydrate _ _ s
    unfold loadAndHydrate
    rw [wp_bind, wp_read]
    split
    · rw [wp_bind]
      refine loadSession_spec rfl fun _ _ => hydrate_spec fun effects heffects => ?_
      cases heffects <;> rfl
    · rfl
  | controls =>
    show wp recoverIncompleteControls _ _ s
    unfold recoverIncompleteControls
    rw [wp_bind, wp_read]
    split
    · next hrow =>
      refine history_spec rfl ?_
      rw [h.control hrow]
      rfl
    · rfl
  | attempts =>
    show wp recoverUncertainAttempts _ _ s
    unfold recoverUncertainAttempts
    rw [wp_bind, wp_invoke]
    refine ⟨rfl, ?_⟩
    rw [h.attempts]
    rfl

/-- A recovery of settled sessions changes nothing that outlives the process. -/
theorem recoverPasses_settled {sessions : List Session} (hsettled : ∀ s ∈ sessions, Settled s)
    (faults : RecoveryPass → List (List Bool)) (passes : List RecoveryPass) :
    (Application.recoverPasses faults passes sessions).2.map Session.crashed
      = sessions.map Session.crashed := by
  let kept (s s' : Session) := Settled s → s'.crashed = s.crashed
  have hpass : ∀ pass s, wp (RecoveryPass.program pass) (fun _ => kept s) (fun _ => kept s) s := by
    intro pass s
    by_cases h : Settled s
    · exact wp_mono (fun _ _ hs' _ => hs') (fun _ _ hs' _ => hs') (h.pass pass)
    · exact wp_mono (fun _ _ _ hs => absurd hs h) (fun _ _ _ hs => absurd hs h) (pass.passes s)
  have hkeep := recoverPasses_rule (T := fun _ s _ => kept s) hpass (fun _ _ => rfl)
    (fun _ _ _ => rfl) (fun _ _ _ _ => id) (fun _ _ s middle s' _ hfirst hsecond h =>
      (hsecond (h.congr (hfirst h))).trans (hfirst h)) faults passes sessions
  rw [← congrFun₂ forall₂_eq_eq_eq, forall₂_map_left_iff, forall₂_map_right_iff]
  exact (((forall₂_and_left _ _).mpr ⟨hsettled, hkeep⟩).imp fun s s' h => h.2 h.1).flip

variable {faults : RecoveryPass → List (List Bool)}

theorem step_recover {env : Environment} {app app' : Application}
    (hstep : app.step env (.recover faults) = some app') :
    ∃ done sessions, Application.recoverPasses faults recoveryPasses app.sessions =
      (done, sessions) ∧
      app' = if done then ⟨.serving, sessions⟩ else ⟨.down, sessions.map Session.crashed⟩ := by
  unfold Application.step at hstep
  dsimp only at hstep
  split at hstep
  · generalize Application.recoverPasses faults recoveryPasses app.sessions = outcome at hstep ⊢
    match outcome with
    | (true, sessions) =>
      cases hstep
      exact ⟨true, sessions, rfl, rfl⟩
    | (false, sessions) =>
      cases hstep
      exact ⟨false, sessions, rfl, rfl⟩
  · cases hstep

theorem recover_again {env : Environment} {app down app' : Application}
    (hsettled : ∀ s ∈ app.sessions, Settled s)
    (hcrash : app.step env .crash = some down)
    (hrecover : down.step env (.recover faults) = some app') :
    app'.durable = app.durable := by
  cases hcrash
  have hsame := @recoverPasses_settled (app.sessions.map Session.crashed)
    (fun s hmem => by
      obtain ⟨before, hbefore, rfl⟩ := mem_map.mp hmem
      exact (hsettled before hbefore).congr rfl)
    faults recoveryPasses
  have hcrashed : ∀ sessions : List Session,
      (sessions.map Session.crashed).map Session.crashed = sessions.map Session.crashed :=
    fun sessions => map_map.trans (map_congr_left fun _ _ => rfl)
  rw [hcrashed] at hsame
  obtain ⟨done, sessions, hpasses, rfl⟩ := step_recover hrecover
  rw [hpasses] at hsame
  cases done with
  | true => exact hsame
  | false => exact (hcrashed sessions).trans hsame

end

/-! ## The state after a recovery -/

section

variable {s s' : Session} {state : SessionState}

theorem columnAfter_exported (exported : List ExportJournal) :
    columnAfter state (exported.map exportedEvent) = state := by
  induction exported with
  | nil => rfl
  | cons journal rest ih => exact ih

theorem columnAfter_recovered (attempts : List Uuid) (state : SessionState) :
    columnAfter state (attempts.map recoveredEvent)
      = if attempts = [] then state else .outcomeUnknown := by
  induction attempts generalizing state with
  | nil => rfl
  | cons attempt rest ih =>
    refine Eq.trans (ih .outcomeUnknown) ?_
    split <;> rfl

theorem completion_finished {events batch : List Event} (h : controlCompletion events = some batch)
    (state : SessionState) :
    batch.all Event.isTracked ∧ columnAfter state batch ≠ .pausing ∧
      columnAfter state batch ≠ .cancelRequested := by
  unfold controlCompletion at h
  split at h
  · cases h
  split at h
  · cases h
    exact ⟨rfl, fun h => (nomatch h), fun h => (nomatch h)⟩
  · split at h <;> cases h <;> exact ⟨rfl, fun h => (nomatch h), fun h => (nomatch h)⟩
  · cases h
    exact ⟨rfl, fun h => (nomatch h), fun h => (nomatch h)⟩
  · cases h

/-- What a recovery appends behind the exports. -/
def recoverySuffix (events : List Event) : List Event :=
  completionOf events ++ (uncertainAttempts (events ++ completionOf events)).map recoveredEvent

theorem recoveredHistory_eq (events : List Event) :
    recoveredHistory events = events ++ recoverySuffix events :=
  append_assoc _ _ _

theorem recoverySuffix_tracked (events : List Event) :
    (recoverySuffix events).all Event.isTracked := by
  have hcompletion : (completionOf events).all Event.isTracked := by
    unfold completionOf
    cases hbatch : controlCompletion events with
    | none => rfl
    | some batch => exact (completion_finished hbatch .ready).1
  rw [recoverySuffix, all_append, hcompletion, Bool.true_and, all_map]
  exact all_eq_true.mpr fun _ _ => rfl

/-- A state stays unfinished exactly when nothing is marked and no control is asked for last. -/
theorem columnAfter_recoverySuffix (events : List Event) :
    (columnAfter state (recoverySuffix events) = .pausing ∨
        columnAfter state (recoverySuffix events) = .cancelRequested) ↔
      (state = .pausing ∨ state = .cancelRequested) ∧ uncertainAttempts events = [] ∧
        events.getLast?.any Event.leavesControl = false := by
  rw [recoverySuffix, columnAfter_append, columnAfter_recovered, ← controlCompletion_eq_none_iff]
  unfold completionOf
  cases hbatch : controlCompletion events with
  | none =>
    rw [Option.getD_none, append_nil]
    split
    · next hnil =>
      rw [hnil]
      exact ⟨fun h => ⟨h, rfl, rfl⟩, fun h => h.1⟩
    · next hsome => exact ⟨fun h => (by rcases h with h | h <;> cases h),
        fun h => absurd h.2.1 hsome⟩
  | some batch =>
    obtain ⟨_, hpausing, hcancel⟩ := completion_finished hbatch state
    refine ⟨fun h => ?_, fun h => (nomatch h.2.2)⟩
    split at h
    · rcases h with h | h
      · exact absurd h hpausing
      · exact absurd h hcancel
    · rcases h with h | h <;> cases h

theorem foldsTo_append {folded : FoldedSession} {more : List Event}
    (hfold : foldSession s.events = .ok folded) (hevents : s'.events = s.events ++ more)
    (htracked : more.all Event.isTracked) :
    s'.FoldsTo state ↔ columnAfter folded.state more = state := by
  have hfold' : foldSession s'.events = .ok (more.foldl FoldedSession.next folded) := by
    rw [hevents]
    exact foldSession_append hfold more
  have hcolumn := settles_of_tracked htracked folded
  constructor
  · rintro ⟨found, hfound, rfl⟩
    rw [hfold'] at hfound
    cases hfound
    exact hcolumn
  · intro heq
    exact ⟨_, hfold', hcolumn.symm.trans heq⟩

theorem stored_folds {env : Environment} {allowed : Application → Action → Prop}
    {app : Application} (hreach : Reaches (Application.step env) allowed .initial app) :
    ∀ s ∈ app.sessions, ∀ column, s.row = some column →
      ∃ folded, foldSession s.events = .ok folded := by
  intro s hmem column hrow
  let P : List Event → Commit → Prop := fun history commit =>
    ∃ folded, foldSession (history ++ commit.batch) = .ok folded
  have hfolds : ∀ s, LogMeets P s → ∀ column, s.row = some column →
      ∃ folded, foldSession s.events = .ok folded := by
    intro s hlog column hrow
    obtain ⟨_, _, hevents, _, hfolded⟩ := hlog.last hrow
    exact hevents ▸ hfolded
  have hmeets : ∀ s, LogMeets P s → ∀ done batch stored, CommitMeets P s done batch stored := by
    intro s hlog done batch stored column hrow
    obtain ⟨folded, hfold⟩ := hfolds s hlog column hrow
    show ∃ folded, foldSession (s.events ++ done ++ batch) = .ok folded
    rw [append_assoc]
    exact ⟨_, foldSession_append hfold (done ++ batch)⟩
  have hdelete : ∀ s, LogMeets P s → DeletionMeets P s := by
    intro s hlog column journal hrow _ _
    obtain ⟨folded, hfold⟩ := hfolds s hlog column hrow
    exact ⟨_, foldSession_append hfold _⟩
  have hlog : LogMeets P s := transactions_invariant
    (fun s hlog => ⟨fun done batch stored _ => hmeets s hlog done batch stored, hdelete s hlog⟩)
    (fun _ _ => ⟨_, rfl⟩)
    (fun _ hlog => ⟨fun done batch stored _ => hmeets _ hlog done batch stored,
      fun _ _ _ => hdelete _ hlog⟩) hreach s hmem
  exact hfolds s hlog column hrow

theorem getLast?_exported (events : List Event) (exported : List ExportJournal) :
    (events ++ exported.map exportedEvent).getLast?.any Event.leavesControl = false ↔
      exported ≠ [] ∨ events.getLast?.any Event.leavesControl = false := by
  rcases eq_nil_or_concat exported with rfl | ⟨init, last, rfl⟩
  · simp
  rw [concat_eq_append, map_append, ← append_assoc]
  have hlast : (events ++ init.map exportedEvent ++ [last].map exportedEvent).getLast?
      = some (exportedEvent last) := getLast?_concat
  rw [hlast]
  exact ⟨fun _ => .inl (by simp), fun _ => rfl⟩

theorem exportedSuffix_tracked (events : List Event) (exported : List ExportJournal) :
    (exported.map exportedEvent ++ recoverySuffix events).all Event.isTracked := by
  rw [all_append, recoverySuffix_tracked, Bool.and_true, all_map]
  exact all_eq_true.mpr fun _ _ => rfl

theorem mem_uncertainAttempts_exported {events : List Event} (exported : List ExportJournal)
    (attempt : Uuid) :
    attempt ∈ uncertainAttempts (events ++ exported.map exportedEvent) ↔
      attempt ∈ uncertainAttempts events := by
  refine mem_uncertainAttempts_append ?_ fun attempt => ?_
  · rw [startedAttempts, filterMap_map]
    exact filterMap_eq_nil_iff.mpr fun _ _ => rfl
  · rw [hasFact, any_map]
    exact any_eq_false.mpr fun _ _ => Bool.false_ne_true

theorem not_foldsTo_of_nil (hevents : s.events = []) : ¬ s.FoldsTo state := by
  rintro ⟨folded, hfold, _⟩
  rw [hevents] at hfold
  cases hfold

/-- A recovery leaves a control unfinished exactly where it was hidden. -/
theorem Restarted.unfinished_iff (h : Restarted s s') (hrowHolds : RowHolds s)
    (hfolds : ∀ column, s.row = some column → ∃ folded, foldSession s.events = .ok folded) :
    (s'.FoldsTo .pausing ∨ s'.FoldsTo .cancelRequested) ↔ s.hidesControl := by
  cases h with
  | gone hbefore _ hevents =>
    refine ⟨fun h => ?_, fun h => ?_⟩
    · rcases h with h | h <;> exact absurd h (not_foldsTo_of_nil hevents)
    obtain ⟨hunfinished, hdeletion, _⟩ := h
    rcases hbefore with hrow | hsome
    · rcases hunfinished with h | h <;> exact absurd h (not_foldsTo_of_nil (hrowHolds hrow))
    · rw [hdeletion] at hsome
      cases hsome
  | kept exported hrow hdeletion _ howes hevents =>
    obtain ⟨column, hcolumn⟩ := Option.isSome_iff_exists.mp hrow
    obtain ⟨folded, hfold⟩ := hfolds column hcolumn
    rw [recoveredHistory_eq, append_assoc] at hevents
    have htracked := exportedSuffix_tracked (s.events ++ exported.map exportedEvent) exported
    have hbefore : ∀ state, s.FoldsTo state ↔ folded.state = state :=
      fun state => foldsTo_append hfold (append_nil _).symm rfl
    have hnone : uncertainAttempts (s.events ++ exported.map exportedEvent) = [] ↔
        uncertainAttempts s.events = [] := by
      simp only [eq_nil_iff_forall_not_mem, mem_uncertainAttempts_exported]
    have hhidden : exported ≠ [] ↔ s.owesExport := by
      rw [Ne, howes, Bool.not_eq_false]
    rw [foldsTo_append hfold hevents htracked, foldsTo_append hfold hevents htracked,
      columnAfter_append, columnAfter_exported, columnAfter_recoverySuffix, hnone,
      getLast?_exported, hhidden]
    unfold Session.hidesControl
    rw [hbefore, hbefore]
    exact ⟨fun h => ⟨h.1, hdeletion, h.2.1, h.2.2⟩, fun h => ⟨h.1, h.2.2.1, h.2.2.2⟩⟩

end

/-! ## Recoveries of reachable stores -/

theorem forall₂_partners {α β : Type} {R : α → β → Prop} {xs : List α} {ys : List β}
    (h : Forall₂ R xs ys) : (∀ x ∈ xs, ∃ y ∈ ys, R x y) ∧ ∀ y ∈ ys, ∃ x ∈ xs, R x y := by
  induction h with
  | nil => exact ⟨forall_mem_nil _, forall_mem_nil _⟩
  | cons hhead _ ih =>
    refine ⟨forall_mem_cons.mpr ⟨⟨_, mem_cons_self, hhead⟩, fun x hx => ?_⟩,
      forall_mem_cons.mpr ⟨⟨_, mem_cons_self, hhead⟩, fun y hy => ?_⟩⟩
    · obtain ⟨y, hy, hR⟩ := ih.1 x hx
      exact ⟨y, mem_cons_of_mem _ hy, hR⟩
    · obtain ⟨x, hx, hR⟩ := ih.2 y hy
      exact ⟨x, mem_cons_of_mem _ hx, hR⟩

section

variable {env : Environment} {app app' : Application} {faults : RecoveryPass → List (List Bool)}

/-- What a recovery that goes well makes of each session. -/
theorem recover_restarted (hreach : Reaches (Application.step env) anyAction .initial app)
    (hstep : app.step env (.recover faults) = some app') (hserving : app'.status = .serving) :
    Forall₂ (fun s s' => s ∈ app.sessions ∧ Restarted s s' ∧ Settled s')
      app.sessions app'.sessions := by
  obtain ⟨done, sessions, hpasses, rfl⟩ := step_recover hstep
  cases done with
  | false => cases hserving
  | true =>
    have hthrough := recoverPasses_through passedWell hpasses
    refine ((forall₂_and_left _ _).mpr ⟨fun s hmem => hmem, hthrough⟩).imp
      fun s s' h => ⟨h.1, restarted (rowHolds hreach s h.1) h.2⟩

end

/-- A recovery that goes well is complete, and a second one changes nothing, exactly when no
session hides an unfinished control. -/
theorem recovered_fully_iff (env : Environment) {app app' : Application}
    {faults : RecoveryPass → List (List Bool)}
    (hreach : Reaches (Application.step env) anyAction .initial app)
    (hstep : app.step env (.recover faults) = some app') (hserving : app'.status = .serving) :
    RecoveredFully env app' ↔ ∀ s ∈ app.sessions, ¬ s.hidesControl := by
  obtain ⟨hafter, hbefore⟩ := forall₂_partners (recover_restarted hreach hstep hserving)
  have hiff : ∀ s s', s ∈ app.sessions ∧ Restarted s s' ∧ Settled s' →
      ((s'.FoldsTo .pausing ∨ s'.FoldsTo .cancelRequested) ↔ s.hidesControl) :=
    fun s s' h => h.2.1.unfinished_iff (rowHolds hreach s h.1) (stored_folds hreach s h.1)
  constructor
  · intro hfully s hmem hhides
    obtain ⟨s', hmem', h⟩ := hafter s hmem
    obtain ⟨hpausing, hcancel⟩ := hfully.complete s' hmem'
    rcases (hiff s s' h).mpr hhides with hfold | hfold
    · exact hpausing hfold
    · exact hcancel hfold
  · intro hnone
    refine ⟨fun again down app'' hcrash hrecover => ?_, fun s' hmem' => ?_⟩
    · refine recover_again (fun s' hmem' => ?_) hcrash hrecover
      obtain ⟨s, _, h⟩ := hbefore s' hmem'
      exact h.2.2
    · obtain ⟨s, _, h⟩ := hbefore s' hmem'
      have hnot := mt (hiff s s' h).mp (hnone s h.1)
      exact not_or.mp hnot

/-- The process ends while a cancellation is unfinished: the recovery settles the session, and
a second one changes nothing. -/
theorem interrupted_cancellation_recovered :
    ∃ app app', Reaches (Application.step smallEnvironment) anyAction .initial app ∧
      app.step smallEnvironment (.recover fun _ => []) = some app' ∧
      (∃ s ∈ app.sessions, s.FoldsTo .cancelRequested) ∧
      RecoveredFully smallEnvironment app' := by
  obtain ⟨app, hreach, app', hstep, hserving, hcancel, hnone⟩ :=
    @exists_reaches_of_execute _ _
      (Application.step smallEnvironment) anyAction _ .initial
      (smallStart .fake [smallStep "a"] ++
        [.resume 0 0 .proceed [], .submit 0 103 .cancel, .resume 0 1 .proceed [], .crash])
      (fun app => ∃ app' ∈ app.step smallEnvironment (.recover fun _ => []),
        app'.status = .serving ∧ (∃ s ∈ app.sessions, s.FoldsTo .cancelRequested) ∧
        ∀ s ∈ app.sessions, ¬ s.hidesControl)
      (by decide +kernel)
  exact ⟨app, app', hreach, hstep, hcancel, (recovered_fully_iff _ hreach hstep hserving).mpr hnone⟩

/-- A run is sent to a human after a cancellation marked its attempt, the process ends inside of the
pause, and a client exports the session before: the recovery leaves it in `pausing`. -/
theorem export_hides_pause :
    ∃ app app', Reaches (Application.step findingsEnvironment) anyAction .initial app ∧
      app.step findingsEnvironment (.recover fun _ => []) = some app' ∧
      app'.status = .serving ∧ (∃ s ∈ app'.sessions, s.FoldsTo .pausing) ∧
      ¬ RecoveredFully findingsEnvironment app' := by
  obtain ⟨app, hreach, app', hstep, hserving, s, hmem, hpausing⟩ :=
    @exists_reaches_of_execute _ _
      (Application.step findingsEnvironment) anyAction _ .initial
      (smallStart .fake [smallLoop "a"] ++ replicate 2 (.resume 0 0 .proceed []) ++
        -- the finished attempt waits for the lock while the cancellation marks it
        [.submit 0 103 .cancel] ++ replicate 3 (.resume 0 1 .proceed []) ++
        [.resume 0 0 .proceed [false, false, false, true],
         .submit 0 104 (.exportBundle "out" []), .resume 0 0 .proceed [], .crash])
      (fun app => ∃ app' ∈ app.step findingsEnvironment (.recover fun _ => []),
        app'.status = .serving ∧ ∃ s ∈ app'.sessions, s.FoldsTo .pausing)
      (by decide +kernel)
  exact ⟨app, app', hreach, hstep, hserving, ⟨s, hmem, hpausing⟩,
    fun hfully => (hfully.complete s hmem).1 hpausing⟩

end Workbench.Daemon
