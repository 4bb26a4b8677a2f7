import Workbench.Daemon.Plan

/-!
# Daemon: every command follows a plan
-/

namespace Workbench.Daemon

open Workbench.Core Config Storage Library Program

/-- The session has undergone a list of changes with the property. -/
def Session.Underwent (s : Session) (P : List Effect → Prop) (s' : Session) : Prop :=
  ∃ effects, P effects ∧ s' = s.after effects

/-- The session was changed as some plan says. -/
def Follows (plans : List Effect → Option Point → Prop) (s s' : Session) (next : Option Point) :
    Prop :=
  s.Underwent (plans · next) s'

/-- Every run of the program from `s` follows one of the plans. -/
def Meets (plans : List Effect → Option Point → Prop) (s : Session) (prog : App Progress) : Prop :=
  wp prog (fun progress s' => Follows plans s s' progress.next)
    (fun _ s' => Follows plans s s' none) s

/-- A program may end where it has done nothing. -/
theorem Meets.of_quiet {plans : List Effect → Option Point → Prop} {s : Session}
    {prog : App Progress} (hplan : plans [] none)
    (h : Follows plans s s none → Meets plans s prog) : Meets plans s prog :=
  h ⟨[], hplan, rfl⟩

/-! ## Shared steps -/

section

variable {E : Session → Prop} {s : Session} {ok : Progress → Session → Prop}

theorem replyWith_spec {outcome : Outcome} (herr : E s)
    (hok : ok (.reply outcome) s) : wp (replyWith outcome) ok (fun _ => E) s := by
  cases outcome <;> first | exact hok | exact herr

theorem Follows.replies {plans : List Effect → Option Point → Prop} {s' : Session}
    {outcome : Outcome} (h : Follows plans s s' none) :
    wp (replyWith outcome) (fun progress t => Follows plans s t progress.next)
      (fun _ t => Follows plans s t none) s' :=
  replyWith_spec h h

theorem recordProviderFailure_spec {ok : Unit → Session → Prop} {request attempt : Uuid}
    {failure : ProviderFailure} (herr : E s)
    (hok : ∀ state, s.row = some state →
      ok () (s.apply (.commit [failureEvent state request attempt failure] none))) :
    wp (recordProviderFailure request attempt failure) ok (fun _ => E) s := by
  refine currentSessionState_spec herr fun state hrow => ?_
  have hevent := hok state hrow
  unfold failureEvent at hevent
  split
  · next hdefinite =>
    rw [if_pos hdefinite] at hevent
    exact append_spec herr fun _ => hevent
  · next hdefinite =>
    rw [if_neg hdefinite] at hevent
    exact append_spec herr fun _ => hevent

theorem activateAttempt_spec {env : Environment} {request attempt : Uuid}
    {context : ProviderExecutionContext} {reply : Outcome}
    (herr : E s) (herr' : ∀ effects, Activation s request attempt effects none →
      E (s.after effects))
    (hok : ∀ effects progress, Activation s request attempt effects progress.next →
      ok progress (s.after effects)) :
    wp (activateAttempt env request attempt context reply) ok (fun _ => E) s := by
  refine sessionConfiguration_spec herr ?_
  split
  · exact herr
  split
  · rw [wp_bind, wp_perform]
    exact replyWith_spec (herr' _ .fake) (hok _ (.reply reply) .fake)
  split
  · exact hok [] (.waits _) (.start _ _ rfl)
  · rw [wp_bind]
    refine recordProviderFailure_spec herr fun state hrow => ?_
    exact replyWith_spec (herr' _ (.unavailable state hrow))
      (hok _ (.reply reply) (.unavailable state hrow))

end

/-! ## Commands -/

section

variable {env : Environment} {s : Session} {request : Uuid}

theorem handlePause_meets : Meets (CommandPlan s request .pause) s (handlePause request) := by
  refine .of_quiet (.quiet _) fun hquiet => ?_
  refine cachedOutcome_spec hquiet (fun outcome _ => hquiet.replies) fun hnone => ?_
  refine currentSessionState_spec hquiet fun state hrow => ?_
  split
  · exact recordCommandOutcome_spec hnone hquiet ⟨_, .commits _ _ _ hnone (.outcome _ _ nofun), rfl⟩
  split
  · exact hquiet
  next hrunning =>
  rw [wp_bind, wp_read]
  split
  · exact hquiet
  next hfake =>
  have hactive : s.active.all (·.isFake) := by
    cases hactive : s.active with
    | none => rfl
    | some active => simpa [hactive] using hfake
  obtain rfl : state = .running := by simpa using hrunning
  rw [wp_bind, wp_read]
  refine commitCommandEvents_spec hnone hquiet fun _ => ?_
  have hcommit : Follows (CommandPlan s request .pause) s _ none :=
    ⟨_, .commits _ _ (.control s.nextId .pause .paused) hnone (.pause _ hrow hactive), rfl⟩
  rw [wp_bind, wp_read]
  split
  · refine history_spec hcommit ?_
    rw [wp_bind]
    unfold recordRunPaused
    split
    · exact hcommit.replies
    next run _ =>
    split
    · exact hcommit.replies
    rw [wp_ignoringErrors]
    refine append_spec hcommit.replies fun _ => ?_
    have hwritten : Follows (CommandPlan s request .pause) s _ none :=
      ⟨_, .pauseRun (.control s.nextId .pause .paused) run.pause.2 hrow hactive, rfl⟩
    exact hwritten.replies
  · exact hcommit.replies

/-- The end of a resume adds at most a timer to what was done before. -/
theorem resumeFake_spec {plans : List Effect → Option Point → Prop} {s s' : Session}
    {outcome : Outcome} {done : List Effect} (hs' : s' = s.after done) (hdone : plans done none)
    (htimer : plans (done ++ [.spawn .fakeTimer]) none) :
    wp (resumeFake outcome) (fun progress s' => Follows plans s s' progress.next)
      (fun _ s' => Follows plans s s' none) s' := by
  subst hs'
  unfold resumeFake
  rw [wp_bind, wp_read]
  split
  · rw [wp_bind, wp_perform]
    exact ⟨_, htimer, (Session.after_append _ _ _).symm⟩
  · exact ⟨_, hdone, rfl⟩

theorem handleResume_meets : Meets (CommandPlan s request .resume) s (handleResume request) := by
  refine .of_quiet (.quiet _) fun hquiet => ?_
  refine cachedOutcome_spec hquiet (fun outcome _ => hquiet) fun hnone => ?_
  refine currentSessionState_spec hquiet fun state hrow => ?_
  split
  · exact recordCommandOutcome_spec hnone hquiet ⟨_, .commits _ _ _ hnone (.outcome _ _ nofun), rfl⟩
  split
  · exact hquiet
  next hpaused =>
  obtain rfl : state = .paused := by simpa using hpaused
  rw [wp_bind, wp_read]
  refine commitCommandEvents_spec hnone hquiet fun _ => ?_
  simp only [Bool.false_eq_true, if_false]
  have hplan := fun outcome => CommandPlan.commits _ _ outcome hnone (.resume _ hrow)
  rw [wp_bind, wp_read]
  split
  · next hknown =>
    refine history_spec ⟨_, hplan _, rfl⟩ ?_
    split
    · exact resumeFake_spec rfl (hplan _) (.resumeFake _ hrow)
    next run hrun =>
    rw [wp_bind]
    refine append_spec ⟨_, hplan _, rfl⟩ fun _ => ?_
    rw [wp_bind, wp_read]
    split
    · next hdispatch =>
      have hactive : s.active = none := Option.isNone_iff_eq_none.mp hdispatch.2
      have hstopped : (stoppedRun s.events).isSome := by
        have hsame := recoverRun_concat s.events
          ⟨.sessionResumed s.nextId, some request, none⟩
        rw [Session.apply_commit_events hrow, stoppedRun, hsame] at hrun
        exact Option.isSome_of_eq_some hrun
      exact ⟨_, .relock _ _ _ hnone hrow hknown hstopped hactive, rfl⟩
    · exact resumeFake_spec rfl (.resumeRun _ _ [] hrow (.inl rfl))
        (.resumeRun _ _ _ hrow (.inr rfl))
  · exact resumeFake_spec rfl (hplan _) (.resumeFake _ hrow)

theorem handleRedirect_meets {instruction : String} :
    Meets (CommandPlan s request (.redirect instruction)) s
      (handleRedirect request instruction) := by
  refine .of_quiet (.quiet _) fun hquiet => ?_
  refine cachedOutcome_spec hquiet (fun outcome _ => hquiet) fun hnone => ?_
  refine history_spec hquiet ?_
  refine lift_spec hquiet fun folded hfolded => ?_
  split
  · exact hquiet
  rw [wp_bind, wp_read]
  refine commitCommandEvents_spec hnone hquiet fun _ => ?_
  refine ⟨_, .commits _ _ _ hnone (.redirect _ _ ?_), rfl⟩
  by_cases hpaused : folded.state = .paused
  · exact .inl ⟨folded, hfolded, hpaused⟩
  · exact .inr ⟨folded, hfolded, by grind⟩

theorem handleCancel_meets : Meets (CommandPlan s request .cancel) s (handleCancel request) := by
  refine .of_quiet (.quiet _) fun hquiet => ?_
  refine cachedOutcome_spec hquiet (fun outcome _ => ?_) fun hnone => ?_
  · refine history_spec hquiet ?_
    refine lift_spec hquiet fun folded hfolded => ?_
    split
    · next hstate =>
      refine lift_spec hquiet fun control _ => ?_
      rw [wp_bind, wp_perform]
      have hspawned : Follows (CommandPlan s request .cancel) s _ none :=
        ⟨_, .cancelReplay control ⟨folded, hfolded, hstate⟩, rfl⟩
      exact hspawned.replies
    · exact hquiet.replies
  · refine history_spec hquiet ?_
    refine lift_spec hquiet fun folded hfolded => ?_
    split
    · exact hquiet
    next haccepted =>
    have haccepted : refusesCancel folded.state = false := by simpa using haccepted
    rw [wp_bind, wp_read, wp_bind, wp_read]
    split
    · next hnothing =>
      have hactive : s.active = none := by
        cases hactive : s.active with
        | none => rfl
        | some active => rw [hactive] at hnothing; cases hnothing
      have hlatest : latestStartedAttempt s.events = none := by
        simpa [hactive] using hnothing
      refine commitCommandEvents_spec hnone hquiet fun _ => ?_
      have hcommit : Follows (CommandPlan s request .cancel) s _ none :=
        ⟨_, .commits _ _ (.control s.nextId .cancel .cancelled) hnone
          (.cancelNow _ folded.state ⟨folded, hfolded, rfl⟩ haccepted hactive hlatest), rfl⟩
      exact hcommit.replies
    · next attempt hattempt =>
      refine commitCommandEvents_spec hnone hquiet fun _ => ?_
      simp only [Bool.not_false, if_true]
      rw [wp_bind, wp_perform]
      have hcommit : Follows (CommandPlan s request .cancel) s _ none :=
        ⟨_, .cancelAttempt (.control s.nextId .cancel .cancelRequested) folded.state attempt
          ⟨folded, hfolded, rfl⟩ haccepted hattempt, rfl⟩
      exact hcommit.replies

theorem handlePrompt_meets {text : String} {explicitTarget : Option String} :
    Meets (CommandPlan s request (.prompt text explicitTarget)) s
      (handlePrompt env request text explicitTarget) := by
  refine .of_quiet (.quiet _) fun hquiet => ?_
  refine cachedOutcome_spec hquiet (fun outcome _ => hquiet.replies) fun hnone => ?_
  refine history_spec hquiet ?_
  refine lift_spec hquiet fun folded hfolded => ?_
  split
  · exact hquiet
  next hready =>
  have hfold : s.FoldsTo .ready := ⟨folded, hfolded, by simpa using hready⟩
  rw [wp_bind, wp_read]
  refine sessionConfiguration_spec hquiet ?_
  refine lift_spec hquiet fun target _ => ?_
  refine lift_spec hquiet fun decision hdecision => ?_
  have hcommit : ∀ outcome tail, PromptTail request (s.nextId + 2) tail →
      Follows (CommandPlan s request (.prompt text explicitTarget)) s
        (s.apply (.commit (promptEvents request s.nextId text s.events target ++ tail)
          (some ⟨request, .prompt text explicitTarget, outcome⟩))) none :=
    fun outcome tail htail =>
      ⟨_, .commits _ _ _ hnone (.prompt _ _ outcome target tail hfold htail), rfl⟩
  cases decision with
  | capabilityUnavailable =>
    have hdone := hcommit (.durableFailure .capabilityUnavailable) [] .unavailable
    rw [List.append_nil] at hdone
    exact commitCommandEvents_spec hnone hquiet fun _ => hdone.replies
  | clarification =>
    refine commitCommandEvents_spec hnone hquiet fun _ => ?_
    exact (hcommit _ _ (.clarification _ _)).replies
  | selected _ permission =>
    dsimp only
    split
    · refine commitCommandEvents_spec hnone hquiet fun _ => ?_
      exact (hcommit _ _ (.denied _ _)).replies
    next hdenied =>
    split
    · rw [List.append_assoc]
      refine commitCommandEvents_spec hnone hquiet fun _ => ?_
      exact (hcommit _ _ (.approval _ _)).replies
    next happroval =>
    -- the policy never grants a prompt read-only access
    obtain ⟨_, _, _, hplans, _⟩ := planRoute_selected hdecision
    have hprotected := effectiveProviderPermission_ne_readOnly s.configuration
    cases permission with
    | readOnly => exact absurd hplans.effective.symm hprotected
    | approvalRequired => exact absurd rfl happroval
    | denied => exact absurd rfl hdenied

theorem replayGrant_meets {approvalId : Uuid} {outcome : Outcome}
    (hrecorded : s.recorded request (.approvalResolve approvalId .grant) = .ok (some outcome)) :
    Meets (CommandPlan s request (.approvalResolve approvalId .grant)) s
      (replayGrant env request outcome) := by
  refine .of_quiet (.quiet _) fun hquiet => ?_
  refine history_spec hquiet ?_
  refine lift_spec hquiet fun folded hfolded => ?_
  rw [wp_bind, wp_read]
  split
  · next attempt hlatest =>
    split
    · next hready =>
      have hfold : s.FoldsTo .running := ⟨folded, hfolded, hready.1⟩
      have hactive := Option.isNone_iff_eq_none.mp hready.2
      refine lift_spec hquiet fun context _ => ?_
      exact activateAttempt_spec hquiet
        (fun effects hact =>
          ⟨_, .replayGrant approvalId _ attempt outcome _ _ hrecorded hfold hlatest hactive hact,
            rfl⟩)
        (fun effects progress hact =>
          ⟨_, .replayGrant approvalId _ attempt outcome _ _ hrecorded hfold hlatest hactive hact,
            rfl⟩)
    · exact hquiet.replies
  · exact hquiet.replies

theorem handleApproval_meets {approvalId : Uuid} {decision : ApprovalDecision} :
    Meets (CommandPlan s request (.approvalResolve approvalId decision)) s
      (handleApproval env request approvalId decision) := by
  refine .of_quiet (.quiet _) fun hquiet => ?_
  refine cachedOutcome_spec hquiet (fun outcome hfound => ?_) fun hnone => ?_
  · dsimp only
    split
    · next hgrant =>
      subst hgrant
      rcases hfound with hrecorded | hburied
      · exact replayGrant_meets hrecorded
      -- only a deletion is answered from a tombstone
      unfold Session.buried at hburied
      split at hburied
      · cases hburied
      · split at hburied
        · cases hburied
        · cases hburied
    · exact hquiet.replies
  · refine history_spec hquiet ?_
    refine lift_spec hquiet fun folded hfolded => ?_
    split
    · next recorded hrecorded =>
      split
      · exact hquiet
      · next hsame =>
        obtain rfl : recorded = decision := not_not.mp hsame
        exact recordCommandOutcome_spec hnone hquiet
          ⟨_, .commits _ _ _ hnone (.decidedAgain _ _ folded hfolded hrecorded), rfl⟩
    · next hundecided =>
      split
      · exact hquiet
      next hpending =>
      obtain ⟨hawaiting, hid⟩ : folded.state = .awaitingApproval ∧
          folded.pendingApprovalId = some approvalId := by simpa using hpending
      have hawaits : s.Awaits approvalId folded := ⟨hfolded, hawaiting, hid, hundecided⟩
      rw [wp_bind, wp_read]
      cases decision with
      | grant =>
        have hgrant := fun rest next hact => @CommandPlan.activates s request _ _ _ _ rest next
          hnone (.grant approvalId folded hawaits) (.grant approvalId folded hawaits) hact
        refine commitCommandEvents_spec hnone hquiet fun _ => ?_
        have hcommit : Follows (CommandPlan s request (.approvalResolve approvalId .grant)) s
            _ none := ⟨_, hgrant [] none .refused, rfl⟩
        refine history_spec hcommit ?_
        refine lift_spec hcommit fun context _ => ?_
        exact activateAttempt_spec hcommit
          (fun effects hact => ⟨_, hgrant effects none hact, rfl⟩)
          (fun effects progress hact => ⟨_, hgrant effects progress.next hact, rfl⟩)
      | deny =>
        refine commitCommandEvents_spec hnone hquiet fun _ => ?_
        have hcommit : Follows (CommandPlan s request (.approvalResolve approvalId .deny)) s
            _ none := ⟨_, .commits _ _ _ hnone (.deny approvalId folded hawaits), rfl⟩
        exact hcommit.replies

theorem handleReconcile_meets {attempt : Uuid} {resolution : ReconciliationResolution}
    {evidence : Option String} :
    Meets (CommandPlan s request (.reconcile attempt resolution evidence)) s
      (handleReconcile env request attempt resolution evidence) := by
  refine .of_quiet (.quiet _) fun hquiet => ?_
  refine cachedOutcome_spec hquiet (fun outcome _ => hquiet.replies) fun hnone => ?_
  refine history_spec hquiet ?_
  refine lift_spec hquiet fun folded hfolded => ?_
  split
  · exact hquiet
  next hpending =>
  have huncertain : s.Uncertain attempt := ⟨folded, hfolded, by simpa using hpending⟩
  rw [wp_bind, wp_read]
  cases resolution with
  | retry =>
    have hretry := fun rest next hact => @CommandPlan.activates s request _ _
      (.reconciliation attempt .retry (some s.nextId) (resolutionState .retry)) _ rest next hnone
      (.retry attempt evidence _ huncertain) (.retry attempt evidence huncertain) hact
    refine commitCommandEvents_spec hnone hquiet fun _ => ?_
    have hcommit : Follows (CommandPlan s request (.reconcile attempt .retry evidence)) s
        _ none := ⟨_, hretry [] none .refused, rfl⟩
    refine history_spec hcommit ?_
    refine lift_spec hcommit fun context _ => ?_
    exact activateAttempt_spec hcommit
      (fun effects hact => ⟨_, hretry effects none hact, rfl⟩)
      (fun effects progress hact => ⟨_, hretry effects progress.next hact, rfl⟩)
  | acceptResult =>
    refine commitCommandEvents_spec hnone hquiet fun _ => ?_
    exact Follows.replies
      ⟨_, .commits _ _ _ hnone (.acceptResult attempt evidence _ _ huncertain), rfl⟩
  | abandon =>
    refine commitCommandEvents_spec hnone hquiet fun _ => ?_
    exact Follows.replies
      ⟨_, .commits _ _ _ hnone (.abandon attempt evidence _ _ huncertain), rfl⟩

end

/-! ## Exports and deletions -/

/-- The changes so far all belong to an export of one of the commands. -/
def Exporting (commands : Command → Prop) (s s' : Session) : Prop :=
  s.Underwent (fun effects => ∀ effect ∈ effects, ExportEffect commands effect) s'

namespace Exporting

variable {commands : Command → Prop} {s s' : Session}

theorem refl (commands : Command → Prop) (s : Session) : Exporting commands s s :=
  ⟨[], List.forall_mem_nil _, rfl⟩

theorem extend (h : Exporting commands s s') (more : List Effect)
    (hmore : ∀ effect ∈ more, ExportEffect commands effect) :
    Exporting commands s (s'.after more) := by
  obtain ⟨effects, heffects, rfl⟩ := h
  refine ⟨effects ++ more, ?_, (Session.after_append _ _ _).symm⟩
  exact List.forall_mem_append.mpr ⟨heffects, hmore⟩

end Exporting

section

variable {commands : Command → Prop} {s s' : Session}

/-- An export moves its journal to the end, appending its event unless it is recorded already. -/
theorem advanceExport_spec {I E : Session → Prop} {ok : Outcome → Session → Prop}
    {journal : ExportJournal} (hinit : I s) (herr : ∀ s', I s' → E s')
    (hstage : ∀ s' stage, I s' → I (s'.apply (.stageExport journal.exportId stage)))
    (hclosed : ∀ s' stored, I s' →
      s'.recorded journal.request journal.command = .ok (some stored) →
      ok stored (s'.apply (.closeExport journal.exportId)))
    (hrecorded : ∀ s', I s' → s'.row.isSome →
      s'.recorded journal.request journal.command = .ok none →
      ok (.exported journal.exportId) (s'.after
        [.commit [⟨.sessionExported journal.exportId, some journal.request, none⟩]
            (some ⟨journal.request, journal.command, .exported journal.exportId⟩),
          .closeExport journal.exportId])) :
    wp (advanceExport journal) ok (fun _ => E) s := by
  have hreach : ∀ {s' : Session} {stage : ExportStage} {ok : Unit → Session → Prop}, I s' →
      (I (s'.apply (.stageExport journal.exportId stage)) →
        ok () (s'.apply (.stageExport journal.exportId stage))) →
      wp (reachStage journal.exportId stage) ok (fun _ => E) s' := by
    intro s' stage ok h hok
    rw [reachStage, wp_invoke]
    refine ⟨herr s' h, ?_⟩
    cases hkey : s'.key with
    | false => exact herr s' h
    | true => exact hok (hstage s' stage h)
  have hcommit : ∀ {s' : Session}, I s' → wp (commitExport journal) ok (fun _ => E) s' := by
    intro s' h
    rw [commitExport, wp_invoke]
    refine ⟨herr s' h, ?_⟩
    dsimp only
    cases hadmits : s'.admits _ with
    | error e => exact herr s' h
    | ok u =>
      cases hpublished : s'.isPublished journal.exportId with
      | false => exact herr s' h
      | true =>
        cases hfound : s'.recorded journal.request journal.command with
        | error e => exact herr s' h
        | ok found =>
          cases found with
          | some stored => exact hclosed s' stored h hfound
          | none => exact hrecorded s' h (Session.admits_eq_ok hadmits).1 hfound
  unfold advanceExport
  split
  · rw [wp_bind]
    refine hreach hinit fun h => ?_
    rw [wp_bind]
    exact hreach h hcommit
  · rw [wp_bind]
    exact hreach hinit hcommit
  · exact hcommit hinit

theorem advanceExport_exporting (h : Exporting commands s s') (journal : ExportJournal)
    (hcommand : commands journal.command) :
    wp (advanceExport journal) (fun _ => Exporting commands s) (fun _ => Exporting commands s)
      s' := by
  refine advanceExport_spec h (fun _ h => h) ?_ ?_ ?_
  · exact fun s' stage h => h.extend [.stageExport _ stage] (by simpa using .stage _ stage)
  · exact fun s' _ h _ => h.extend [.closeExport _] (by simpa using .close _)
  · exact fun s' h _ _ => h.extend [_, _] (by simpa using ⟨.record _ _ _ hcommand, .close _⟩)

theorem loadOrCreateExportJournal_exporting {command : Command}
    (h : Exporting (· = command) s s') (request exportId : Uuid) :
    wp (loadOrCreateExportJournal request command exportId)
      (fun journal s' => journal.command = command ∧ Exporting (· = command) s s')
      (fun _ => Exporting (· = command) s) s' := by
  rw [loadOrCreateExportJournal, wp_invoke]
  refine ⟨h, ?_⟩
  split
  · next journal s'' hop =>
    split at hop
    · obtain ⟨-, hop⟩ := ok_of_guard hop
      obtain ⟨hcommand, hop⟩ := ok_of_check hop
      cases hop
      exact ⟨hcommand, h⟩
    · split at hop
      · cases hop
      obtain ⟨-, hop⟩ := ok_of_guard hop
      obtain ⟨-, hop⟩ := ok_of_guard hop
      cases hop
      exact ⟨rfl, h.extend [.journalExport ⟨exportId, request, command, .prepared⟩]
        (by simpa using .journal _ rfl)⟩
  · exact h

theorem handleExport_meets {request : Uuid} {outputPath : String} {ageRecipients : List String} :
    Meets (CommandPlan s request (.exportBundle outputPath ageRecipients)) s
      (handleExport request (.exportBundle outputPath ageRecipients)) := by
  refine .of_quiet (.quiet _) fun hquiet => ?_
  have hexporting : ∀ s', Exporting (· = .exportBundle outputPath ageRecipients) s s' →
      Follows (CommandPlan s request (.exportBundle outputPath ageRecipients)) s s' none :=
    fun s' ⟨effects, heffects, hs'⟩ => ⟨effects, .exportBundle _ _ effects heffects, hs'⟩
  refine cachedOutcome_spec hquiet (fun outcome _ => hquiet) fun _ => ?_
  refine history_spec hquiet ?_
  refine lift_spec hquiet fun folded hfolded => ?_
  rw [wp_bind, wp_read, wp_bind]
  refine wp_mono (fun journal s' h => ?_) (fun _ s' h => hexporting s' h)
    (loadOrCreateExportJournal_exporting (.refl _ s) request s.nextId)
  rw [wp_bind]
  exact wp_mono (fun _ s' h => hexporting s' h) (fun _ s' h => hexporting s' h)
    (advanceExport_exporting h.2 journal h.1)

end

section

variable {E : Session → Prop} {s : Session}

theorem ensureNoPendingExport_spec {ok : Unit → Session → Prop} (herr : E s) (hok : ok () s) :
    wp ensureNoPendingExport ok (fun _ => E) s := by
  rw [ensureNoPendingExport, wp_invoke]
  refine ⟨herr, ?_⟩
  cases hexports : s.exports.isEmpty with
  | true => exact hok
  | false => exact herr

variable {ok : Uuid → Session → Prop}

theorem finishDeletion_spec {journal : DeletionJournal}
    (hjournal : s.deletion = some journal) (herr : E s) (hdestroyed : E (s.apply .destroyKey))
    (hok : ok journal.deletionId (s.after [.destroyKey, .finishDeletion journal])) :
    wp finishDeletion ok (fun _ => E) s := by
  unfold finishDeletion
  rw [wp_bind]
  refine ensureNoPendingExport_spec herr ?_
  rw [wp_bind, deletionJournal, wp_invoke]
  refine ⟨herr, ?_⟩
  simp only [hjournal]
  rw [wp_bind, destroySessionKey, wp_invoke]
  refine ⟨herr, ?_⟩
  dsimp only
  rw [buryRows, wp_invoke]
  refine ⟨hdestroyed, ?_⟩
  have hkept : (s.apply .destroyKey).deletion = some journal := hjournal
  simp only [hkept]
  exact hok

/-- A deletion without journal fails before it does anything. -/
theorem requestDeletion_spec {deletionId request : Uuid} (herr : E s)
    (hcut : ∀ effects, Deletion s effects → E (s.after effects))
    (hok : ∀ id done, Deletion s (done ++ [.deactivate, .evict]) → ok id (s.after done)) :
    wp (requestDeletion deletionId request) ok (fun _ => E) s := by
  unfold requestDeletion
  rw [wp_bind, wp_read]
  split
  · next tombstone hburied =>
    split
    · exact hok _ [] (.repeated (by rw [hburied]; rfl))
    · exact herr
  · rw [wp_bind]
    refine ensureNoPendingExport_spec herr ?_
    refine currentSessionState_spec herr fun column hrow => ?_
    split
    · exact herr
    next hcolumn =>
    have hcolumn : deletableColumn column := by simpa using hcolumn
    rw [wp_bind, wp_read]
    split
    · next journal hjournal =>
      split
      · exact herr
      · exact finishDeletion_spec hjournal herr (hcut _ (.continued journal 1 hjournal))
          (hok _ [.destroyKey, .finishDeletion journal] (.continued journal 4 hjournal))
    · next hnone =>
      have hopened := fun cut =>
        Deletion.opened ⟨deletionId, request⟩ column cut hrow hcolumn hnone
      rw [wp_bind, openDeletion, wp_invoke]
      refine ⟨herr, ?_⟩
      cases hkey : s.key with
      | false => exact herr
      | true =>
        exact finishDeletion_spec rfl (hcut _ (hopened 1)) (hcut _ (hopened 2))
          (hok _ [.requestDeletion ⟨deletionId, request⟩, .destroyKey,
            .finishDeletion ⟨deletionId, request⟩] (hopened 5))

theorem handleDelete_meets {request : Uuid} {confirmed : Bool} :
    Meets (CommandPlan s request (.delete confirmed)) s (handleDelete request confirmed) := by
  refine .of_quiet (.quiet _) fun hquiet => ?_
  unfold Meets handleDelete
  split
  · exact hquiet
  refine cachedOutcome_spec hquiet (fun outcome _ => hquiet) fun _ => ?_
  refine history_spec hquiet ?_
  refine lift_spec hquiet fun folded hfolded => ?_
  split
  · exact hquiet
  next hfinal =>
  have hfinal : isFinal folded.state := by simpa using hfinal
  rw [wp_bind, wp_read, wp_bind]
  refine ensureNoPendingExport_spec hquiet ?_
  rw [wp_bind]
  refine requestDeletion_spec hquiet
    (fun effects heffects =>
      ⟨effects, .delete _ _ _ ⟨folded, hfolded, rfl⟩ hfinal heffects, rfl⟩)
    fun id done hdone => ?_
  rw [wp_bind, wp_perform]
  exact ⟨_, .delete _ _ _ ⟨folded, hfolded, rfl⟩ hfinal hdone,
    (Session.after_append _ _ _).symm⟩

end

theorem dispatchSession_meets {env : Environment} {s : Session} {request : Uuid}
    {command : Command} :
    Meets (CommandPlan s request command) s (dispatchSession env request command) := by
  cases command with
  | prompt => exact handlePrompt_meets
  | pause => exact handlePause_meets
  | resume => exact handleResume_meets
  | redirect => exact handleRedirect_meets
  | cancel => exact handleCancel_meets
  | approvalResolve => exact handleApproval_meets
  | reconcile => exact handleReconcile_meets
  | exportBundle => exact handleExport_meets
  | delete => exact handleDelete_meets

end Workbench.Daemon
