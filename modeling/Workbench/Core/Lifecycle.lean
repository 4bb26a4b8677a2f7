import Workbench.Core.Session

/-!
# Core: safety of accepted histories

`fold_history` with its check of the sequence numbers, and what every history it accepts
keeps to.  The laws are about unbounded histories; each one is a set of states that the
single transitions cannot leave.
-/

namespace Workbench.Core

open List

/-- A session sequence number: a positive 64-bit integer. -/
structure Sequence where
  get : Nat
  positive : 0 < get
  bounded : get < 2 ^ 64
  deriving DecidableEq

/-- The next sequence, or an error on exhaustion. -/
def Sequence.checkedNext (sequence : Sequence) : Except CoreError Sequence :=
  if h : sequence.get + 1 < 2 ^ 64 then .ok ⟨sequence.get + 1, Nat.succ_pos _, h⟩
  else .error ⟨.internal, "session sequence is exhausted"⟩

/-- A stored event, down to what the fold reads. -/
structure PersistedEvent where
  sequence : Sequence
  payload : EventPayload
  deriving DecidableEq

/-- Folds one event while rejecting illegal lifecycle transitions. -/
def foldEvent (current : Option SessionState) (event : PersistedEvent) :
    Except CoreError SessionState :=
  transition current event.payload

/-- The sequence an event must have after its predecessor. -/
def requireNext (previous : Option Sequence) (event : PersistedEvent) : Except CoreError Unit :=
  match previous with
  | none => .ok ()
  | some previous => do
    let expected ← previous.checkedNext
    if event.sequence = expected then .ok ()
    else .error ⟨.storageUnavailable, "session history contains a sequence gap"⟩

/-- The loop of `fold_history`. -/
def foldFrom (state : Option SessionState) (previous : Option Sequence) :
    List PersistedEvent → Except CoreError (Option SessionState)
  | [] => .ok state
  | event :: rest => do
    requireNext previous event
    let next ← foldEvent state event
    foldFrom (some next) (some event.sequence) rest

/-- Folds a complete ordered history: `fold_history` on stored events. -/
def foldPersisted (events : List PersistedEvent) : Except CoreError SessionState := do
  match ← foldFrom none none events with
  | some state => .ok state
  | none => .error ⟨.sessionNotFound, "session history is empty"⟩

/-! ## Accepted histories as walks of the transition function -/

/-- The payloads lead from one state to another, one legal transition each. -/
inductive Walk : Option SessionState → List EventPayload → Option SessionState → Prop where
  | nil (state : Option SessionState) : Walk state [] state
  | cons {state : Option SessionState} {next : SessionState} {payload : EventPayload}
      {rest : List EventPayload} {last : Option SessionState}
      (first : transition state payload = .ok next) (tail : Walk (some next) rest last) :
      Walk state (payload :: rest) last

variable {state last : Option SessionState} {previous : Option Sequence}

theorem foldFrom_cons_eq_ok {event : PersistedEvent} {rest : List PersistedEvent} :
    foldFrom state previous (event :: rest) = .ok last
      ↔ ∃ next, requireNext previous event = .ok () ∧ transition state event.payload = .ok next
        ∧ foldFrom (some next) (some event.sequence) rest = .ok last := by
  rw [foldFrom, foldEvent]
  cases hnext : requireNext previous event with
  | error failure => simp [bind, Except.bind]
  | ok u => cases transition state event.payload <;> simp [bind, Except.bind]

/-- An accepted history is accepted up to every point of it, and goes on from there. -/
theorem foldFrom_append_ok {before after : List PersistedEvent}
    (h : foldFrom state previous (before ++ after) = .ok last) :
    ∃ middle, foldFrom state previous before = .ok middle
      ∧ Walk middle (after.map PersistedEvent.payload) last := by
  induction before generalizing state previous with
  | nil =>
    refine ⟨state, rfl, ?_⟩
    induction after generalizing state previous with
    | nil => cases h; exact .nil _
    | cons event rest ih =>
      obtain ⟨next, -, hstep, hrest⟩ := foldFrom_cons_eq_ok.mp h
      exact .cons hstep (ih hrest)
  | cons event rest ih =>
    obtain ⟨next, hnext, hstep, hrest⟩ := foldFrom_cons_eq_ok.mp h
    obtain ⟨middle, hbefore, hafter⟩ := ih hrest
    exact ⟨middle, foldFrom_cons_eq_ok.mpr ⟨next, hnext, hstep, hbefore⟩, hafter⟩

theorem foldPersisted_eq_ok {events : List PersistedEvent} {state : SessionState} :
    foldPersisted events = .ok state ↔ foldFrom none none events = .ok (some state) := by
  unfold foldPersisted
  cases foldFrom none none events with
  | error failure => simp [bind, Except.bind]
  | ok folded => cases folded <;> simp [bind, Except.bind]

namespace Walk

variable {state last : Option SessionState} {first second : List EventPayload}

theorem of_append (h : Walk state (first ++ second) last) :
    ∃ middle, Walk state first middle ∧ Walk middle second last := by
  induction first generalizing state with
  | nil => exact ⟨state, .nil _, h⟩
  | cons payload rest ih =>
    cases h with
    | cons hstep htail =>
      obtain ⟨middle, hfirst, hsecond⟩ := ih htail
      exact ⟨middle, .cons hstep hfirst, hsecond⟩

/-- States that no transition on the payloads leaves are kept by every walk over such payloads. -/
theorem keeps {K : SessionState → Prop} {P : EventPayload → Prop}
    (hstep : ∀ state payload next, K state → P payload →
      transition (some state) payload = .ok next → K next)
    {state : SessionState} {payloads : List EventPayload}
    (h : Walk (some state) payloads last) (hK : K state)
    (hallowed : ∀ payload ∈ payloads, P payload) : ∃ state, last = some state ∧ K state := by
  induction payloads generalizing state with
  | nil => cases h; exact ⟨state, rfl, hK⟩
  | cons payload rest ih =>
    cases h with
    | cons first tail =>
      exact ih tail (hstep _ _ _ hK (hallowed _ (mem_cons_self)) first)
        fun other hmem => hallowed other (mem_cons_of_mem _ hmem)

end Walk

/-! ## What the single transitions keep to -/

/-- The states a session has once it was asked to cancel or reached an outcome. -/
def SessionState.isStopped : SessionState → Bool
  | .cancelRequested | .outcomeUnknown | .completed | .failed | .cancelled | .abandoned
  | .deleting | .deleted => true
  | _ => false

/-- The states with an outcome, which a session can only leave to be deleted. -/
def SessionState.isClosed : SessionState → Bool
  | .abandoned | .completed | .failed | .cancelled => true
  | _ => false

/-- The events that record a definite terminal outcome of the session. -/
def EventPayload.isTerminal : EventPayload → Bool
  | .sessionCompleted | .sessionFailed | .sessionCancelled | .sessionAbandoned
  | .outcomeReconciled .acceptResult | .outcomeReconciled .abandon | .sessionDeleted => true
  | _ => false

def SessionState.all : List SessionState :=
  [.ready, .running, .pausing, .paused, .awaitingClarification, .awaitingApproval,
    .cancelRequested, .outcomeUnknown, .completed, .failed, .cancelled, .abandoned, .deleting,
    .deleted]

def EventPayload.all : List EventPayload :=
  [.sessionCreated, .configurationResolved, .inputRecorded, .routingPlanned,
    .clarificationRequested, .approvalRequested, .approvalRecorded .grant,
    .approvalRecorded .deny, .dispatchPlanned, .dispatchStarted, .dispatchAcknowledged,
    .providerEvent, .toolEvent, .pauseRequested, .sessionPaused, .sessionResumed,
    .sessionRedirected, .cancelRequested, .cancelConfirmed, .outcomeUnknown,
    .outcomeReconciled .retry, .outcomeReconciled .acceptResult, .outcomeReconciled .abandon,
    .sessionCompleted, .sessionFailed, .sessionCancelled, .sessionAbandoned, .sessionExported,
    .sessionDeletionRequested, .sessionDeleted, .workflowTransition]

theorem SessionState.mem_all (state : SessionState) : state ∈ SessionState.all := by
  cases state <;> decide

theorem EventPayload.mem_all (payload : EventPayload) : payload ∈ EventPayload.all := by
  cases payload with
  | approvalRecorded decision => cases decision <;> decide
  | outcomeReconciled resolution => cases resolution <;> decide
  | _ => decide

/-- A law of single transitions, checked over the whole table. -/
def TableMeets (law : SessionState → EventPayload → SessionState → Bool) : Bool :=
  SessionState.all.all fun state => EventPayload.all.all fun payload =>
    match transition (some state) payload with
    | .ok next => law state payload next
    | .error _ => true

theorem law_of_table {law : SessionState → EventPayload → SessionState → Bool}
    (h : TableMeets law) {state next : SessionState} {payload : EventPayload}
    (hstep : transition (some state) payload = .ok next) : law state payload next := by
  have hrow := all_eq_true.mp h state state.mem_all
  have hcell := all_eq_true.mp hrow payload payload.mem_all
  rwa [hstep] at hcell

theorem table_stops : TableMeets fun state payload next =>
    !state.isStopped || payload == .outcomeReconciled .retry
      || (next.isStopped && payload != .dispatchStarted) := by
  decide +kernel

theorem table_stopping : TableMeets fun _ payload next =>
    !(payload == .cancelRequested || payload.isTerminal) || next.isStopped := by
  decide +kernel

theorem table_dispatch : TableMeets fun state payload _ =>
    payload != .dispatchStarted || state == .ready || state == .running := by
  decide +kernel

theorem table_closed : TableMeets fun state _ next =>
    !(state.isClosed || state == .deleting)
      || next == state || next == .deleting || next == .deleted := by
  decide +kernel

theorem table_deleted : TableMeets fun state _ _ => state != .deleted := by
  decide +kernel

section

variable {state next : SessionState} {payload : EventPayload}
  (hstep : transition (some state) payload = .ok next)

include hstep

/-- Once stopped, a session starts no dispatch and stays stopped, but for a retry. -/
theorem isStopped_step (hstopped : state.isStopped)
    (hretry : payload ≠ .outcomeReconciled .retry) :
    next.isStopped ∧ payload ≠ .dispatchStarted := by
  simpa [hstopped, hretry] using law_of_table table_stops hstep

/-- A cancel request and a terminal event stop the session. -/
theorem isStopped_of_stopping (hpayload : payload = .cancelRequested ∨ payload.isTerminal) :
    next.isStopped := by
  have hlaw := law_of_table table_stopping hstep
  rcases hpayload with rfl | hterminal
  · simpa using hlaw
  · simpa [hterminal] using hlaw

theorem ready_or_running_of_dispatch (hpayload : payload = .dispatchStarted) :
    state = .ready ∨ state = .running := by
  simpa [hpayload] using law_of_table table_dispatch hstep

theorem closed_step (hclosed : state.isClosed ∨ state = .deleting) :
    next = state ∨ next = .deleting ∨ next = .deleted := by
  have hlaw := law_of_table table_closed hstep
  rcases hclosed with hclosed | rfl
  · simpa [hclosed, or_assoc] using hlaw
  · simpa [or_assoc] using hlaw

theorem not_deleted_of_step : state ≠ .deleted := by
  simpa using law_of_table table_deleted hstep

end

/-! ## What accepted histories keep to -/

section

variable {events before after : List PersistedEvent} {event : PersistedEvent}
  {state : SessionState}

/-- Every event of an accepted history is a legal transition of the state before it. -/
theorem folded_before (h : foldPersisted (before ++ event :: after) = .ok state)
    (hevent : event.payload ≠ .sessionCreated) :
    ∃ source next, foldPersisted before = .ok source
      ∧ transition (some source) event.payload = .ok next
      ∧ Walk (some next) (after.map PersistedEvent.payload) (some state) := by
  obtain ⟨folded, hbefore, hafter⟩ := foldFrom_append_ok (foldPersisted_eq_ok.mp h)
  cases hafter with
  | cons hstep hrest =>
    cases folded with
    | none =>
      -- Only the creation is legal where no session exists.
      unfold transition at hstep
      split at hstep <;> simp_all
    | some source => exact ⟨source, _, foldPersisted_eq_ok.mpr hbefore, hstep, hrest⟩

/-- Once stopped, a session starts a dispatch only after a retry. -/
theorem retry_of_dispatch {stopped : SessionState} {payloads rest : List EventPayload}
    (hstopped : stopped.isStopped)
    (h : Walk (some stopped) (payloads ++ .dispatchStarted :: rest) last) :
    .outcomeReconciled .retry ∈ payloads := by
  by_contra hretry
  obtain ⟨reached, hpayloads, hrest⟩ := h.of_append
  have hkept := hpayloads.keeps (K := fun state => state.isStopped)
    (P := fun payload => payload ≠ .outcomeReconciled .retry)
    (fun _ _ _ hK hP hstep => (isStopped_step hstep hK hP).1) hstopped
    fun payload hmem heq => hretry (heq ▸ hmem)
  obtain ⟨still, rfl, hstill⟩ := hkept
  cases hrest with
  | cons hstep _ => exact (isStopped_step hstep hstill nofun).2 rfl

theorem walk_after (h : foldPersisted (before ++ after) = .ok state) {source : SessionState}
    (hbefore : foldPersisted before = .ok source) :
    Walk (some source) (after.map PersistedEvent.payload) (some state) := by
  obtain ⟨folded, hfolded, hafter⟩ := foldFrom_append_ok (foldPersisted_eq_ok.mp h)
  have heq := (foldPersisted_eq_ok.mp hbefore).symm.trans hfolded
  cases heq
  exact hafter

/-- A session with an outcome is left only to be deleted, and stays deleted. -/
theorem closed_walk {closed : SessionState} {payloads : List EventPayload}
    (h : Walk (some closed) payloads (some state)) (hclosed : closed.isClosed) :
    state = closed ∨ state = .deleting ∨ state = .deleted := by
  have hkept := h.keeps (K := fun state => state = closed ∨ state = .deleting ∨ state = .deleted)
    (P := fun _ => True) ?_ (.inl rfl) fun _ _ => trivial
  · obtain ⟨last, heq, hlast⟩ := hkept
    cases heq
    exact hlast
  · intro source payload next hsource _ hstep
    rcases hsource with rfl | rfl | rfl
    · exact closed_step hstep (.inl hclosed)
    · exact .inr (by simpa using closed_step hstep (.inr rfl))
    · exact absurd rfl (not_deleted_of_step hstep)

/-- Every accepted history is safe: after a cancel request or a terminal event a dispatch
starts only once a retry was reconciled, no dispatch starts in a paused or waiting session,
deleted is final, and a session with an outcome is left only towards deletion. -/
theorem accepted_history_safe (h : foldPersisted events = .ok state) :
    (∀ before stop middle dispatch after,
        events = before ++ stop :: (middle ++ dispatch :: after) →
        stop.payload = .cancelRequested ∨ stop.payload.isTerminal →
        dispatch.payload = .dispatchStarted →
        ∃ retry ∈ middle, retry.payload = .outcomeReconciled .retry)
      ∧ (∀ before dispatch after, events = before ++ dispatch :: after →
        dispatch.payload = .dispatchStarted →
        ∃ source, foldPersisted before = .ok source
          ∧ source ∉ [.paused, .awaitingClarification, .awaitingApproval])
      ∧ (∀ before after, events = before ++ after → foldPersisted before = .ok .deleted →
        state = .deleted)
      ∧ ∀ before after closed, events = before ++ after → foldPersisted before = .ok closed →
        closed ∈ [.abandoned, .completed, .failed, .cancelled] →
        state ∈ [closed, .deleting, .deleted] := by
  refine ⟨?_, ?_, ?_, ?_⟩
  · rintro before stop middle dispatch after rfl hstop hdispatch
    have hcreated : stop.payload ≠ .sessionCreated := by
      intro heq
      simp [heq, EventPayload.isTerminal] at hstop
    obtain ⟨source, next, -, hstep, hwalk⟩ := folded_before h hcreated
    simp only [map_append, map_cons, hdispatch] at hwalk
    simpa using retry_of_dispatch (isStopped_of_stopping hstep hstop) hwalk
  · rintro before dispatch after rfl hdispatch
    obtain ⟨source, next, hbefore, hstep, -⟩ := folded_before h (by simp [hdispatch])
    refine ⟨source, hbefore, ?_⟩
    rcases ready_or_running_of_dispatch hstep hdispatch with rfl | rfl <;> decide
  · rintro before after rfl hbefore
    have hwalk := walk_after h hbefore
    generalize after.map PersistedEvent.payload = payloads at hwalk
    cases hwalk with
    | nil => rfl
    | cons hstep _ => exact absurd rfl (not_deleted_of_step hstep)
  · rintro before after closed rfl hbefore hclosed
    have hkind : closed.isClosed := by
      simp only [mem_cons, not_mem_nil, or_false] at hclosed
      rcases hclosed with rfl | rfl | rfl | rfl <;> rfl
    simpa using closed_walk (walk_after h hbefore) hkind

end

/-- A stored history with its sequence numbers from one on. -/
def numbered (payloads : List EventPayload) (h : payloads.length < 2 ^ 64 - 1) :
    List PersistedEvent :=
  payloads.mapFinIdx fun index payload hindex =>
    ⟨⟨index + 1, Nat.succ_pos _, by omega⟩, payload⟩

/-- A session is cancelled, loses its attempt, is retried by a human and ends deleted. -/
def retriedHistory : List PersistedEvent :=
  numbered [.sessionCreated, .dispatchStarted, .cancelRequested, .outcomeUnknown,
    .outcomeReconciled .retry, .dispatchStarted, .sessionCompleted, .sessionDeletionRequested,
    .sessionDeleted] (by decide)

theorem retriedHistory_safe :
    foldPersisted retriedHistory = .ok .deleted
      ∧ ∃ retry ∈ (retriedHistory.drop 3).take 2,
        retry.payload = .outcomeReconciled .retry := by
  have h : foldPersisted retriedHistory = .ok .deleted := by decide +kernel
  exact ⟨h, (accepted_history_safe h).1 (retriedHistory.take 2)
    ⟨⟨3, by decide, by decide⟩, .cancelRequested⟩ _
    ⟨⟨6, by decide, by decide⟩, .dispatchStarted⟩ (retriedHistory.drop 6)
    (by decide) (.inl rfl) rfl⟩

/-! ## Which logs are accepted -/

section

variable {state last : Option SessionState} {previous : Option Sequence}

attribute [ext] Sequence

/-- A stored event with its session, which the fold does not read. -/
structure LoggedEvent extends PersistedEvent where
  sessionId : Nat

/-- The sequence of an event is the next one after that of its predecessor. -/
def Succeeds (before after : Sequence) : Prop := after.get = before.get + 1

theorem requireNext_eq_ok {event : PersistedEvent} :
    requireNext previous event = .ok () ↔ ∀ before ∈ previous, Succeeds before event.sequence := by
  cases previous with
  | none => simp [requireNext]
  | some before =>
    have hbound := event.sequence.bounded
    simp only [Option.mem_some_iff, forall_eq', Succeeds, requireNext, Sequence.checkedNext]
    by_cases hnext : before.get + 1 < 2 ^ 64
    · rw [dif_pos hnext]
      simp [bind, Except.bind, Sequence.ext_iff]
    · rw [dif_neg hnext]
      simp [bind, Except.bind]
      omega

/-- The loop accepts exactly the logs with consecutive sequences and legal events. -/
theorem foldFrom_eq_ok {events : List PersistedEvent} :
    foldFrom state previous events = .ok last ↔
      (previous.toList ++ events.map (·.sequence)).IsChain Succeeds ∧
        Walk state (events.map (·.payload)) last := by
  induction events generalizing state previous with
  | nil =>
    refine ⟨fun h => ?_, fun ⟨_, h⟩ => ?_⟩
    · cases h
      exact ⟨by cases previous <;> simp, .nil _⟩
    · cases h
      rfl
  | cons event rest ih =>
    have hchain : (previous.toList ++ event.sequence :: rest.map (·.sequence)).IsChain Succeeds ↔
        (∀ before ∈ previous, Succeeds before event.sequence) ∧
          (event.sequence :: rest.map (·.sequence)).IsChain Succeeds := by
      cases previous <;> simp
    simp only [foldFrom_cons_eq_ok, requireNext_eq_ok, ih, map_cons, hchain]
    constructor
    · rintro ⟨next, hprevious, hstep, hrest, hwalk⟩
      exact ⟨⟨hprevious, hrest⟩, .cons hstep hwalk⟩
    · rintro ⟨⟨hprevious, hrest⟩, hwalk⟩
      cases hwalk with
      | cons hstep hwalk => exact ⟨_, hprevious, hstep, hrest, hwalk⟩

end
end Workbench.Core
