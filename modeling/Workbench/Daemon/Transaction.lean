import Workbench.Daemon.CommitLog

/-!
# Daemon: every transaction

`Transaction` lists the transactions that a step of a task can commit, with what is known
where they are committed, and `Upkeep` those of maintenance, shutdown and recovery.  A
property of all commits of all runs is then a case analysis over these two lists
(`transactions_invariant`).
-/

namespace Workbench.Daemon

open Workbench.Core Config Storage Library List

/-! ## The transactions of a task -/

variable (s : Session) in
/-- A transaction of a step: the events appended before, those it appends, and its outcome. -/
inductive Transaction : Point → Response → List Event → List Event → Option StoredCommand →
    Prop where
  -- commands
  | command (request : Uuid) (command : Command) (batch : List Event) (outcome : Outcome)
      (hcommit : CommandCommit s request command batch outcome) :
      Transaction (.command request command) .proceed [] batch (some ⟨request, command, outcome⟩)
  | runPaused (request : Uuid) (run : WorkflowRun) (hrow : s.row = some .running)
      (hactive : s.active.all (·.isFake)) :
      Transaction (.command request .pause) .proceed (pauseEvents request s.nextId)
        [⟨.workflowTransition run .paused, some request, none⟩] none
  | runResumed (request : Uuid) (run : WorkflowRun) (hrow : s.row = some .paused) :
      Transaction (.command request .resume) .proceed
        [⟨.sessionResumed s.nextId, some request, none⟩]
        [⟨.workflowTransition run .resumed, some request, none⟩] none
  | exported (request : Uuid) (outputPath : String) (ageRecipients : List String)
      (done : List Event) (exportId exporter : Uuid)
      (hdone : ∀ event ∈ done, ∃ exportId, event.payload = .sessionExported exportId) :
      Transaction (.command request (.exportBundle outputPath ageRecipients)) .proceed done
        [⟨.sessionExported exportId, some exporter, none⟩]
        (some ⟨exporter, .exportBundle outputPath ageRecipients, .exported exportId⟩)
  -- providers
  | unavailable (request causation attempt : Uuid) (command : Command) (done : List Event)
      (state : SessionState) (hactivated : Activated s request command causation attempt done)
      (hrow : s.row.map (columnAfter · done) = some state) :
      Transaction (.command request command) .proceed done
        [failureEvent state causation attempt adapterUnavailable] none
  | failed (point : Point) (response : Response) (request attempt : Uuid) (state : SessionState)
      (failure : ProviderFailure) (rest : List Effect)
      (hfailing : Failing s point response request attempt state failure rest) :
      Transaction point response [] [failureEvent state request attempt failure] none
  | progress (active : ActiveExecution) (output : ProviderOutput) (event : Event)
      (hactive : s.active = some active)
      (hevent : ProgressEvent active.request active.attempt event) :
      Transaction (.stream active.attempt) (.item output) [] [event] none
  | completed (active : ActiveExecution) (summary : String) (state : SessionState)
      (hworks : s.Works active state) (hworkflow : sessionWorkflowId s.events = none) :
      Transaction (.stream active.attempt) (.item (.completed summary)) []
        [⟨.sessionCompleted summary, some active.request, some active.attempt⟩] none
  | fakeMessage (active : ActiveExecution) (content : String) (hactive : s.active = some active)
      (hfake : active.isFake) (hfold : s.FoldsTo .running) :
      Transaction .fakeTimer .proceed []
        [⟨.providerEvent "message" content, some active.request, some active.attempt⟩] none
  | fakeCompleted (active : ActiveExecution) (content summary : String)
      (hactive : s.active = some active) (hfake : active.isFake)
      (hfold : s.FoldsTo .running) (hworkflow : sessionWorkflowId s.events = none) :
      Transaction .fakeTimer .proceed
        [⟨.providerEvent "message" content, some active.request, some active.attempt⟩]
        [⟨.sessionCompleted summary, some active.request, some active.attempt⟩] none
  -- workflows
  | advanceOrphan (request attempt : Uuid) (findings : Bool) (summary : String)
      (hworkflow : sessionWorkflowId s.events = none) :
      Transaction (.advance request attempt findings) .proceed []
        [⟨.sessionCompleted summary, some request, some attempt⟩] none
  | ceiling (request attempt : Uuid) (findings : Bool) (workflow : Workflow)
      (previous run : WorkflowRun) (done : List Event) (event : Event) (rest : List Event)
      (hworkflow : s.configuredWorkflow = some workflow)
      (hprevious : recoverRun s.events = some previous)
      (hmove : moveAfterAttempt workflow previous findings = .ok (run, .awaitingHuman))
      (hevents : ceilingEvents run request attempt s.nextId = done ++ event :: rest) :
      Transaction (.advance request attempt findings) .proceed done [event] none
  | runCompleted (request attempt : Uuid) (findings : Bool) (run : WorkflowRun) (done : List Event)
      (event : Event) (rest : List Event)
      (hevents : completionEvents run request attempt = done ++ event :: rest) :
      Transaction (.advance request attempt findings) .proceed done [event] none
  | advanced (request attempt : Uuid) (findings : Bool) (run : WorkflowRun)
      (reason : TransitionReason) :
      Transaction (.advance request attempt findings) .proceed []
        [⟨.workflowTransition run reason, some request, some attempt⟩] none
  | stepRefused (request : Uuid) (run : WorkflowRun) (summary : String) :
      Transaction (.dispatchStep request run) .proceed []
        [⟨.sessionFailed summary, some request, none⟩] none
  | stepRouted (request : Uuid) (run : WorkflowRun) (plan : RoutingPlan) (done : List Event)
      (event : Event) (rest : List Event)
      (hevents : stepEvents plan run request s.nextId = done ++ event :: rest) :
      Transaction (.dispatchStep request run) .proceed done [event] none
  -- cancellation
  | resolved (request control : Uuid) (attempt : Option Uuid) (confirmed : Bool)
      (summary : String) (hfold : s.FoldsTo .cancelRequested) :
      Transaction (.resolveCancel request control attempt confirmed summary) .proceed []
        (resolutionEvents request control attempt confirmed summary s.nextId) none

/-- A transaction outside of any task. -/
inductive Upkeep (s : Session) : List Event → List Event → Option StoredCommand → Prop where
  | stopped (execution : ActiveExecution) (hactive : s.active = some execution) :
      Upkeep s [] [⟨.outcomeUnknown "daemon_shutdown", none, some execution.attempt⟩] none
  | exported (done : List Event) (exportId exporter : Uuid) (command : Command)
      (hcommand : command.isExport)
      (hdone : ∀ event ∈ done, ∃ exportId, event.payload = .sessionExported exportId) :
      Upkeep s done [⟨.sessionExported exportId, some exporter, none⟩]
        (some ⟨exporter, command, .exported exportId⟩)
  | control (batch : List Event) (hbatch : controlCompletion s.events = some batch) :
      Upkeep s [] batch none
  | uncertain (done : List Uuid) (attempt : Uuid) (rest : List Uuid)
      (hattempts : uncertainAttempts s.events = done ++ attempt :: rest) :
      Upkeep s (done.map recoveredEvent) [recoveredEvent attempt] none

/-! ## The kinds of event of a transaction -/

/-- The kinds of event that a command appends. -/
def Command.kinds : Command → List EventPayload
  | .prompt _ _ => [.inputRecorded, .workflowTransition, .clarificationRequested, .routingPlanned,
      .approvalRequested]
  | .pause => [.pauseRequested, .sessionPaused, .workflowTransition]
  | .resume => [.sessionResumed, .workflowTransition]
  | .redirect _ => [.sessionRedirected]
  | .cancel => [.cancelRequested, .cancelConfirmed, .sessionCancelled]
  | .approvalResolve _ .grant => [.approvalRecorded .grant, .dispatchPlanned, .dispatchStarted,
      .sessionFailed, .outcomeUnknown]
  | .approvalResolve _ .deny => [.approvalRecorded .deny, .sessionPaused]
  | .reconcile _ .retry _ => [.outcomeReconciled .retry, .dispatchPlanned, .dispatchStarted,
      .sessionFailed, .outcomeUnknown]
  | .reconcile _ .acceptResult _ => [.outcomeReconciled .acceptResult, .sessionCompleted]
  | .reconcile _ .abandon _ => [.outcomeReconciled .abandon, .sessionAbandoned]
  | .exportBundle _ _ => [.sessionExported]
  | .delete _ => []

/-- The kinds of event that the step from a point appends. -/
def Point.kinds : Point → List EventPayload
  | .command _ asked => asked.kinds
  | .startSession .. | .promptStream .. | .activating _ | .launch _ | .launchStarted _ =>
    [.sessionFailed, .outcomeUnknown]
  | .stream _ => [.dispatchAcknowledged, .providerEvent, .toolEvent, .sessionCompleted,
      .sessionFailed, .outcomeUnknown]
  | .fakeTimer => [.providerEvent, .sessionCompleted]
  | .advance .. => [.workflowTransition, .pauseRequested, .sessionPaused, .sessionCompleted]
  | .dispatchStep .. => [.routingPlanned, .dispatchPlanned, .dispatchStarted, .sessionFailed]
  | .resolveCancel .. => [.cancelConfirmed, .sessionCancelled, .outcomeUnknown]
  | .relock .. | .activate _ | .cancelResolution .. | .cancelPending .. => []

/-- The kinds of event that maintenance, shutdown and recovery append. -/
def upkeepKinds : List EventPayload :=
  [.sessionExported, .sessionPaused, .cancelConfirmed, .sessionCancelled, .outcomeUnknown]

def areOf (kinds : List EventPayload) (events : List Event) : Bool :=
  events.all fun event => decide (event.payload.toCore ∈ kinds)

section

variable {kinds : List EventPayload} {events before after : List Event} {event : Event}
    {s : Session}
  {point : Point} {response : Response} {done batch : List Event} {stored : Option StoredCommand}

theorem areOf_iff : areOf kinds events ↔ ∀ event ∈ events, event.payload.toCore ∈ kinds := by
  simp [areOf]

theorem areOf_append :
    areOf kinds (before ++ after) ↔ areOf kinds before ∧ areOf kinds after := by
  simp [areOf]

/-- The events of a step up to one of them. -/
theorem areOf_upTo (h : areOf kinds events) (hsplit : events = before ++ event :: after) :
    areOf kinds (before ++ [event]) := by
  rw [hsplit, append_cons, areOf_append] at h
  exact h.1

/-- What holds of every event of these kinds. -/
theorem all_of_areOf {p : Event → Bool} {q : EventPayload → Bool} (h : areOf kinds events)
    (hkinds : kinds.all q) (hp : ∀ event, q event.payload.toCore → p event) :
    events.all p :=
  all_eq_true.mpr fun event hmem =>
    hp event (all_eq_true.mp hkinds _ (areOf_iff.mp h event hmem))

theorem areOf_mono {more : List EventPayload} (h : areOf kinds events)
    (hmore : kinds.all more.elem) : areOf more events :=
  all_of_areOf h hmore fun _ hkind => decide_eq_true (mem_of_elem_eq_true hkind)

theorem areOf_failureEvent (state : SessionState) (request attempt : Uuid)
    (failure : ProviderFailure) :
    areOf [.sessionFailed, .outcomeUnknown] [failureEvent state request attempt failure] := by
  unfold failureEvent
  split <;> rfl

theorem areOf_exported
    (hdone : ∀ event ∈ done, ∃ exportId, event.payload = .sessionExported exportId) :
    areOf [.sessionExported] done := by
  refine areOf_iff.mpr fun event hmem => ?_
  obtain ⟨exportId, hpayload⟩ := hdone event hmem
  rw [hpayload]
  exact mem_singleton_self _

theorem CommandCommit.areOf {request : Uuid} {command : Command} {outcome : Outcome}
    (h : CommandCommit s request command batch outcome) : areOf command.kinds batch := by
  cases h with
  | prompt _ _ _ _ _ _ htail =>
    refine areOf_append.mpr ⟨?_, by cases htail <;> rfl⟩
    unfold promptEvents
    split
    · split <;> rfl
    · rfl
  | _ => rfl

/-- A step appends events of its kinds only. -/
theorem Transaction.areOf (h : Transaction s point response done batch stored) :
    areOf point.kinds (done ++ batch) := by
  cases h with
  | command _ _ _ _ hcommit => exact hcommit.areOf
  | exported _ _ _ _ _ _ hdone =>
    exact areOf_append.mpr ⟨areOf_mono (areOf_exported hdone) rfl, rfl⟩
  | unavailable _ _ _ _ _ _ hactivated =>
    cases hactivated <;> exact areOf_append.mpr ⟨rfl, areOf_mono (areOf_failureEvent _ _ _ _) rfl⟩
  | failed _ _ _ _ _ _ _ hfailing =>
    cases hfailing <;> exact areOf_mono (areOf_failureEvent _ _ _ _) rfl
  | progress _ _ _ _ hevent => cases hevent <;> rfl
  | ceiling _ _ _ _ _ _ _ _ _ _ _ _ hevents | runCompleted _ _ _ _ _ _ _ hevents
  | stepRouted _ _ _ _ _ _ hevents => exact areOf_upTo rfl hevents
  | resolved =>
    dsimp only [resolutionEvents]
    split <;> rfl
  | _ => rfl

/-- Maintenance, shutdown and recovery append events of their kinds only. -/
theorem Upkeep.areOf (h : Upkeep s done batch stored) : areOf upkeepKinds (done ++ batch) := by
  cases h with
  | stopped => rfl
  | exported _ _ _ _ _ hdone => exact areOf_append.mpr ⟨areOf_mono (areOf_exported hdone) rfl, rfl⟩
  | control _ hbatch =>
    unfold controlCompletion at hbatch
    split at hbatch
    · cases hbatch
    split at hbatch
    · cases hbatch
      rfl
    · split at hbatch <;> cases hbatch <;> rfl
    · cases hbatch
      rfl
    · cases hbatch
  | uncertain =>
    refine areOf_append.mpr ⟨areOf_iff.mpr fun event hmem => ?_, rfl⟩
    obtain ⟨found, _, rfl⟩ := mem_map.mp hmem
    exact mem_of_elem_eq_true rfl

end

/-! ## Steps as transactions -/

theorem columnAfter_append (column : SessionState) (first second : List Event) :
    columnAfter column (first ++ second) = columnAfter (columnAfter column first) second :=
  foldl_append

/-- The session has appended these events since a step began, unless it has lost its row. -/
structure Appended (s : Session) (done : List Event) (s' : Session) : Prop where
  row : s'.row = s.row.map (columnAfter · done)
  events : ∀ column, s'.row = some column → s'.events = s.events ++ done
  confirmed : s'.confirmed = s.confirmed

theorem Appended.refl (s : Session) : Appended s [] s where
  row := by cases s.row <;> rfl
  events _ _ := (append_nil _).symm
  confirmed := rfl

/-- What is to be shown of a transaction after the events that its step has appended. -/
def CommitMeets (P : List Event → Commit → Prop) (s : Session) (done batch : List Event)
    (stored : Option StoredCommand) : Prop :=
  ∀ column, s.row = some column →
    P (s.events ++ done) ⟨batch, stored, s.confirmed, columnAfter column (done ++ batch)⟩

/-- What is to be shown of the transaction that opens a deletion. -/
def DeletionMeets (P : List Event → Commit → Prop) (s : Session) : Prop :=
  ∀ column journal, s.row = some column → deletableColumn column →
    (isFinal column ∨ ∃ state, s.FoldsTo state ∧ isFinal state) →
    P s.events ⟨[Session.deletionEvent journal], none, s.confirmed, .deleting⟩

section

variable {P : List Event → Commit → Prop} {s s' : Session} {effects : List Effect}
  {next : Option Point} {done batch : List Event} {stored : Option StoredCommand}

namespace Appended

variable (h : Appended s done s')
include h

/-- The transaction that the step makes next. -/
theorem meets (hP : CommitMeets P s done batch stored) :
    (Effect.commit batch stored).Meets P s' := by
  intro column' hrow'
  rw [h.events column' hrow', h.confirmed]
  rw [h.row] at hrow'
  obtain ⟨column, hrow, rfl⟩ := Option.map_eq_some_iff.mp hrow'
  rw [← columnAfter_append]
  exact hP column hrow

theorem commit (batch : List Event) (stored : Option StoredCommand) :
    Appended s (done ++ batch) (s'.apply (.commit batch stored)) where
  row := by
    show s'.row.map _ = _
    rw [h.row, Option.map_map]
    simp only [Function.comp_def, columnAfter_append]
  events column hrow := by
    obtain ⟨before, hbefore, _⟩ := Option.map_eq_some_iff.mp hrow
    rw [Session.apply_commit_events hbefore, h.events before hbefore, append_assoc]
  confirmed := h.confirmed

/-- A transaction and what follows it. -/
theorem committing (hP : CommitMeets P s done batch stored)
    (hrest : ∀ s'', Appended s (done ++ batch) s'' → Committing P s'' effects) :
    Committing P s' (.commit batch stored :: effects) :=
  ⟨h.meets hP, hrest _ (h.commit batch stored)⟩

/-- The last transaction of a step. -/
theorem single (hP : CommitMeets P s done batch stored)
    (hsilent : effects.all Effect.isSilent) :
    Committing P s' (.commit batch stored :: effects) :=
  ⟨h.meets hP, committing_of_silent hsilent⟩

/-- Each event of a list in a transaction of its own. -/
theorem eachAlone {events : List Event} (cut : Nat)
    (hP : ∀ before event rest, events = before ++ event :: rest →
      CommitMeets P s (done ++ before) [event] none) :
    Committing P s' (eachAlone events cut) := by
  refine Committing.take ?_ cut
  induction events generalizing s' done with
  | nil => trivial
  | cons event rest ih =>
    have hfirst := hP [] event rest rfl
    rw [append_nil] at hfirst
    refine h.committing hfirst fun s'' hs'' => ih hs'' fun before other more hsplit => ?_
    rw [append_assoc]
    exact hP (event :: before) other more (congrArg (event :: ·) hsplit)

theorem exports {commands : Command → Prop}
    (hcommands : ∀ command, commands command → command.isExport)
    (heffects : ∀ effect ∈ effects, ExportEffect commands effect)
    (hdone : ∀ event ∈ done, ∃ exportId, event.payload = .sessionExported exportId)
    (hP : ∀ done exportId exporter command, commands command →
      (∀ event ∈ done, ∃ exportId, event.payload = .sessionExported exportId) →
      CommitMeets P s done [⟨.sessionExported exportId, some exporter, none⟩]
        (some ⟨exporter, command, .exported exportId⟩)) :
    Committing P s' effects := by
  induction effects generalizing s' done with
  | nil => trivial
  | cons effect rest ih =>
    have hrest : ∀ effect ∈ rest, ExportEffect commands effect :=
      fun effect hmem => heffects effect (mem_cons_of_mem _ hmem)
    cases heffects effect mem_cons_self with
    | journal _ hcommand =>
      exact ⟨hcommands _ hcommand, ih ⟨h.row, h.events, h.confirmed⟩ hrest hdone⟩
    | stage | close => exact ⟨trivial, ih ⟨h.row, h.events, h.confirmed⟩ hrest hdone⟩
    | record exportId exporter command hcommand =>
      refine h.committing (hP done exportId exporter command hcommand hdone)
        fun s'' hs'' => ih hs'' hrest fun event hmem => ?_
      rcases mem_append.mp hmem with hmem | hmem
      · exact hdone event hmem
      · exact ⟨exportId, by rw [mem_singleton.mp hmem]⟩

omit h

end Appended

/-- What is to be shown of the transactions of a step. -/
structure Transacting (P : List Event → Commit → Prop) (s : Session) (point : Point)
    (response : Response) : Prop where
  commits : ∀ done batch stored, Transaction s point response done batch stored →
    CommitMeets P s done batch stored
  deletes : ∀ request confirmed, point = .command request (.delete confirmed) → DeletionMeets P s

theorem Transacting.single {point : Point} {response : Response}
    (hP : Transacting P s point response) (h : Transaction s point response [] batch stored)
    (hsilent : effects.all Effect.isSilent) :
    Committing P s (.commit batch stored :: effects) :=
  (Appended.refl s).single (hP.commits _ _ _ h) hsilent

variable {request : Uuid} {command : Command}
  (hP : Transacting P s (.command request command) .proceed)
include hP

/-- What follows the activation of an attempt by a command. -/
theorem Activation.transacting {causation attempt : Uuid}
    (h : Activation s' causation attempt effects next)
    (hactivated : Activated s request command causation attempt done) (hs' : Appended s done s') :
    Committing P s' effects := by
  cases h with
  | refused | fake | start => exact committing_of_silent rfl
  | unavailable state hstate =>
    exact hs'.single (hP.commits _ _ _ (.unavailable request causation attempt command done state
      hactivated (hs'.row ▸ hstate))) rfl

/-- What a command commits first, and what its activation commits then. -/
theorem Activation.committing {causation attempt : Uuid}
    (h : Activation (s.apply (.commit batch stored)) causation attempt effects next)
    (hfirst : Transaction s (.command request command) .proceed [] batch stored)
    (hactivated : Activated s request command causation attempt batch) :
    Committing P s (.commit batch stored :: effects) :=
  ⟨(Appended.refl s).meets (hP.commits _ _ _ hfirst),
   h.transacting hP hactivated ((Appended.refl s).commit batch stored)⟩

theorem CommandPlan.transacting (h : CommandPlan s request command effects next) :
    Committing P s effects := by
  have hstart := Appended.refl s
  cases h with
  | quiet | cancelReplay => exact committing_of_silent rfl
  | commits _ _ _ _ hcommit => exact hP.single (.command _ _ _ _ hcommit) rfl
  | pauseRun _ _ hrow hactive =>
    exact hstart.committing (hP.commits _ _ _ (.command _ _ _ _ (.pause _ hrow hactive)))
      fun s' hs' => hs'.single (hP.commits _ _ _ (.runPaused _ _ hrow hactive)) rfl
  | resumeFake _ hrow => exact hP.single (.command _ _ _ _ (.resume _ hrow)) rfl
  | resumeRun _ _ _ hrow hrest =>
    refine hstart.committing (hP.commits _ _ _ (.command _ _ _ _ (.resume _ hrow))) fun s' hs' =>
      hs'.single (hP.commits _ _ _ (.runResumed _ _ hrow)) ?_
    rcases hrest with rfl | rfl <;> rfl
  | relock _ _ _ _ hrow =>
    exact hstart.committing (hP.commits _ _ _ (.command _ _ _ _ (.resume _ hrow))) fun s' hs' =>
      hs'.single (hP.commits _ _ _ (.runResumed _ _ hrow)) rfl
  | cancelAttempt _ _ _ hfold haccepted hattempt =>
    exact hP.single (.command _ _ _ _ (.cancelAttempt _ _ _ hfold haccepted hattempt)) rfl
  | activates _ _ _ _ _ _ _ hcommit hactivated hrest =>
    exact hrest.committing hP (.command _ _ _ _ hcommit) hactivated
  | replayGrant _ _ _ _ _ _ hrecorded hfold hlatest hactive heffects =>
    exact heffects.transacting hP (.replay _ _ _ _ hrecorded hfold hlatest hactive) hstart
  | exportBundle _ _ _ heffects =>
    refine hstart.exports ?_ heffects (forall_mem_nil _) ?_
    · rintro _ rfl
      rfl
    rintro done exportId exporter _ rfl hdone
    exact hP.commits _ _ _ (.exported _ _ _ _ _ _ hdone)
  | delete confirmed state _ hfold hfinal heffects =>
    exact heffects.committing fun column journal hrow hcolumn =>
      hP.deletes request confirmed rfl column journal hrow hcolumn (.inr ⟨state, hfold, hfinal⟩)

omit hP

theorem Plan.transacting {env : Environment} {point : Point} {response : Response}
    (h : Plan env s point response effects next) (hP : Transacting P s point response) :
    Committing P s effects := by
  have hstart := Appended.refl s
  cases h with
  | command _ _ _ _ hplan => exact hplan.transacting hP
  | quiet | startedCli | startedStream | opened | activate | activated | cancellationPending
  | stepCompleted | launchFake | launchProvider | launched | cancelUnmatched | cancelProvider =>
    exact committing_of_silent rfl
  | failed _ _ _ _ _ _ _ hfailing =>
    refine hP.single (.failed _ _ _ _ _ _ _ hfailing) ?_
    cases hfailing <;> rfl
  | progress _ _ _ hactive hevent => exact hP.single (.progress _ _ _ hactive hevent) rfl
  | completed _ _ _ cut hworks hworkflow =>
    exact Committing.take (hP.single (.completed _ _ _ hworks hworkflow) rfl) cut
  | fakeCompleted _ _ _ cut hactive hfake hfold hworkflow =>
    refine Committing.take (hstart.committing
      (hP.commits _ _ _ (.fakeMessage _ _ hactive hfake hfold)) fun s' hs' => ?_) cut
    have hidle : Appended s _ (s'.apply .deactivate) := ⟨hs'.row, hs'.events, hs'.confirmed⟩
    exact ⟨trivial, hidle.single
      (hP.commits _ _ _ (.fakeCompleted _ _ _ hactive hfake hfold hworkflow)) rfl⟩
  | fakeStep _ _ _ hactive hfake hfold =>
    exact hP.single (.fakeMessage _ _ hactive hfake hfold) rfl
  | advanceOrphan _ _ _ _ hworkflow => exact hP.single (.advanceOrphan _ _ _ _ hworkflow) rfl
  | advanceCeiling _ _ _ _ _ _ cut hworkflow hprevious hmove =>
    exact hstart.eachAlone cut fun _ _ _ hevents =>
      hP.commits _ _ _ (.ceiling _ _ _ _ _ _ _ _ _ hworkflow hprevious hmove hevents)
  | advanceCompleted _ _ _ _ cut =>
    exact hstart.eachAlone cut fun _ _ _ hevents =>
      hP.commits _ _ _ (.runCompleted _ _ _ _ _ _ _ hevents)
  | advanceStep => exact hP.single (.advanced _ _ _ _ _) rfl
  | stepRefused => exact hP.single (.stepRefused _ _ _) rfl
  | stepCut _ _ _ cut =>
    exact hstart.eachAlone cut fun _ _ _ hevents =>
      hP.commits _ _ _ (.stepRouted _ _ _ _ _ _ hevents)
  | stepDispatched =>
    exact hstart.eachAlone 3 fun _ _ _ hevents =>
      hP.commits _ _ _ (.stepRouted _ _ _ _ _ _ hevents)
  | cancelFake | adapterCancelled =>
    refine committing_of_silent ?_
    split <;> rfl
  | cancelResolved _ _ _ _ _ hfold => exact hP.single (.resolved _ _ _ _ _ hfold) rfl

/-! ## The rest -/

/-- What is to be shown of the transactions outside of tasks. -/
structure Upkeeping (P : List Event → Commit → Prop) (s : Session) : Prop where
  commits : ∀ done batch stored, Upkeep s done batch stored → CommitMeets P s done batch stored
  deletes : DeletionMeets P s

theorem Maintenance.transacting (h : Maintenance s effects) (hP : Upkeeping P s) :
    Committing P s effects := by
  cases h with
  | loaded _ heffects => exact heffects.committing
  | deleted _ _ column hloading hrow hfinal hdeleting =>
    refine hloading.committing.append (hdeleting.committing fun found journal hfound hcolumn => ?_)
    rw [hloading.row_eq, hrow] at hfound
    obtain rfl := Option.some.inj hfound
    have hexpired := hP.deletes column journal hrow hcolumn (.inl hfinal)
    cases hloading <;> exact hexpired

theorem ShuttingDown.transacting (h : ShuttingDown s effects) (hP : Upkeeping P s) :
    Committing P s effects := by
  cases h with
  | idle | taken => exact committing_of_silent rfl
  | recorded execution hactive =>
    have hidle : Appended s [] (s.apply .deactivate) :=
      ⟨(Appended.refl s).row, (Appended.refl s).events, rfl⟩
    exact ⟨trivial, hidle.single (hP.commits _ _ _ (.stopped execution hactive)) rfl⟩

theorem Pass.transacting {pass : RecoveryPass} {done : Bool} (h : Pass s pass done effects)
    (hjournals : ∀ journal ∈ s.exports, journal.command.isExport) (hP : Upkeeping P s) :
    Committing P s effects := by
  have hstart := Appended.refl s
  cases h with
  | creations _ _ _ heffects | sessions _ _ heffects => exact heffects.committing
  | exports _ _ heffects =>
    have hcommands : ∀ command, s.exporting command → command.isExport := by
      rintro _ ⟨journal, hmem, rfl⟩
      exact hjournals journal hmem
    refine hstart.exports hcommands heffects (forall_mem_nil _) ?_
    intro done exportId exporter command hcommand hdone
    exact hP.commits _ _ _
      (.exported done exportId exporter command (hcommands command hcommand) hdone)
  | noDeletion | deletion | controls => exact committing_of_silent rfl
  | deletionCut => exact Committing.take (committing_of_silent rfl) _
  | control batch _ hbatch => exact hstart.single (hP.commits _ _ _ (.control batch hbatch)) rfl
  | attempts _ cut =>
    refine hstart.eachAlone cut fun before event rest hsplit => ?_
    obtain ⟨first, others, hattempts, rfl, hothers⟩ := map_eq_append_iff.mp hsplit
    obtain ⟨attempt, more, rfl, rfl, rfl⟩ := map_eq_cons_iff.mp hothers
    exact hP.commits _ _ _ (.uncertain first attempt more hattempts)

end

/-! ## Every run -/

/-- In a run, a task of a session takes an allowed step. -/
structure Resumes (env : Environment) (allowed : Application → Action → Prop)
    (app : Application) (index task : Nat) (response : Response) (faults : List Bool)
    (s : Session) (point : Point) : Prop where
  reached : Reaches (Application.step env) allowed .initial app
  isAllowed : allowed app (.resume index task response faults)
  session : app.sessions[index]? = some s
  point : s.tasks[task]? = some point

section

variable {env : Environment} {P : List Event → Commit → Prop}
  {allowed : Application → Action → Prop} (hupkeep : ∀ s, LogMeets P s → Upkeeping P s)
include hupkeep

theorem Recovery.logMeets {passes : List RecoveryPass} {s s' : Session} {done : Bool}
    (h : Recovery passes s done s') (hlog : LogMeets P s) : LogMeets P s' := by
  induction h with
  | done | stopped => exact hlog
  | failed pass _ s _ hfailed =>
    obtain ⟨effects, heffects, rfl⟩ := hfailed
    exact hlog.after (heffects.transacting hlog.journals (hupkeep s hlog))
  | passed pass _ s _ _ _ hpassed _ ih =>
    obtain ⟨effects, heffects, rfl⟩ := hpassed
    exact ih (hlog.after (heffects.transacting hlog.journals (hupkeep s hlog)))

/-- A property of the transactions of allowed steps and of those outside of tasks is invariant. -/
theorem transactions_invariant
    (hcreate : ∀ workflow request,
      P [] ⟨[⟨.sessionCreated workflow, some request, none⟩], none, [], .ready⟩)
    (htask : ∀ {app index task response faults s point},
      Resumes env allowed app index task response faults s point → LogMeets P (s.without task) →
      Transacting P (s.without task) point response)
    {app : Application} (hreach : Reaches (Application.step env) allowed .initial app) :
    ∀ s ∈ app.sessions, LogMeets P s := by
  refine sessions_invariant (fun s hcreated => created_logMeets hcreate hcreated) ?_ hreach
  intro app action index s s' hreached hallowed hindex h hevolution
  cases hevolution with
  | unchanged => exact h
  | submitted | dropped | aborted | crashed => exact h.congr rfl rfl rfl rfl rfl rfl
  | stepped task _ _ _ _ _ hpoint _ hplan =>
    have hwithout : LogMeets P (s.without task) := h.congr rfl rfl rfl rfl rfl rfl
    have hcommitting := hplan.transacting (htask ⟨hreached, hallowed, hindex, hpoint⟩ hwithout)
    exact (hwithout.after hcommitting).congr rfl rfl rfl rfl rfl rfl
  | loaded _ _ _ _ _ _ heffects | reconciled _ _ _ _ _ _ _ heffects =>
    exact (h.after heffects.committing).congr rfl rfl rfl rfl rfl rfl
  | maintained _ _ _ _ heffects | shutDown _ _ _ heffects =>
    exact (h.after (heffects.transacting (hupkeep s h))).congr rfl rfl rfl rfl rfl rfl
  | recovered _ _ hrecovery => exact hrecovery.logMeets hupkeep h
  | recoveryFailed _ _ hrecovery =>
    exact (hrecovery.logMeets hupkeep h).congr rfl rfl rfl rfl rfl rfl

end

end Workbench.Daemon
