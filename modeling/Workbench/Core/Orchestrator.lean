import Workbench.Library.Writes
import Workbench.Core.Attempt
import Workbench.Core.Lifecycle
import Workbench.Core.Routing

/-!
# Core: persist-before-effect orchestration

`Orchestrator::execute` over a durable store and one provider adapter.  The store may
refuse any append, and may also report a failure for an event that it did store.  The
adapter answers as it likes: a stream is given by its items, and has no end if every
position holds one.  The run notes what it does in order, so that the record of a dispatch
and the calls to the adapter can be compared.

Identifiers are drawn from a counter; the time an event occurred at is left out.
-/

namespace Workbench.Core

open Library List

/-! ## Ports -/

/-- Normalized item emitted by a provider stream. -/
inductive ProviderOutput where
  | acknowledged (providerRequestId : Option String)
  | content (eventType : String) (content : NonEmptyText)
  | tool (eventType : String) (content : NonEmptyText)
  | completed (summary : String)
  deriving DecidableEq

/-- Normalized provider failure. -/
structure ProviderFailure where
  category : FailureCategory
  userSafeMessage : String
  definite : Bool
  deriving DecidableEq

/-- Prompt passed to exactly one selected provider. -/
structure ProviderPrompt where
  sessionId : Nat
  attemptId : Nat
  runtimeModel : String
  content : NonEmptyText

/-- The items of a stream by position; the first position without one is its end. -/
abbrev ProviderStream := Nat → Option (Except ProviderFailure ProviderOutput)

/-- What a provider answers to the calls that `execute` makes. -/
structure ProviderAdapter where
  startSession : Except ProviderFailure String
  promptStream : String → ProviderPrompt → Except ProviderFailure ProviderStream

/-- The payloads that `execute` records. -/
inductive Recorded where
  | inputRecorded (inputId : Nat) (content : NonEmptyText)
  | routingPlanned (plan : RoutingPlan)
  | dispatchPlanned (attemptId : Nat) (effectClass : EffectClass) (operation : String)
      (idempotent : Bool)
  | dispatchStarted (attemptId : Nat) (adapterSessionId : Option String)
  | dispatchAcknowledged (attemptId : Nat) (providerRequestId : Option String)
  | providerEvent (attemptId : Nat) (eventType : String) (content : NonEmptyText)
  | toolEvent (attemptId : Nat) (eventType : String) (content : NonEmptyText)
  | outcomeUnknown (attemptId : Nat) (reason : String)
      (reconciliationOptions : List ReconciliationResolution)
  | sessionCompleted (attemptId : Option Nat) (summary : String) (correlationId : Nat)
  | sessionFailed (attemptId : Option Nat) (summary : String) (correlationId : Nat)

/-- What the domain fold reads of a recorded payload. -/
def Recorded.payload : Recorded → EventPayload
  | inputRecorded .. => .inputRecorded
  | routingPlanned .. => .routingPlanned
  | dispatchPlanned .. => .dispatchPlanned
  | dispatchStarted .. => .dispatchStarted
  | dispatchAcknowledged .. => .dispatchAcknowledged
  | providerEvent .. => .providerEvent
  | toolEvent .. => .toolEvent
  | outcomeUnknown .. => .outcomeUnknown
  | sessionCompleted .. => .sessionCompleted
  | sessionFailed .. => .sessionFailed

/-- The terminal events and the unknown outcome. -/
def Recorded.isEnd : Recorded → Bool
  | outcomeUnknown .. | sessionCompleted .. | sessionFailed .. => true
  | _ => false

/-- An event before the store gave it a sequence number. -/
structure NewEvent where
  sessionId : Nat
  causationRequestId : Option Nat
  payload : Recorded

/-- An event as the store keeps it. -/
structure StoredEvent where
  sequence : Sequence
  event : NewEvent

/-- What the domain fold reads of a stored event. -/
def StoredEvent.persisted (stored : StoredEvent) : PersistedEvent :=
  ⟨stored.sequence, stored.event.payload.payload⟩

/-- How the store answers one append. -/
inductive StoreAnswer where
  | stores
  | refuses (failure : CoreError)
  /-- The event is stored, but its acknowledgement is lost. -/
  | storesUnacknowledged (failure : CoreError)

/-- A call to the adapter. -/
inductive Contact where
  | startSession
  | promptStream (handle : String) (prompt : ProviderPrompt)
  | nextItem (index : Nat)

/-- One thing that `execute` did. -/
inductive Note where
  | stored (event : StoredEvent)
  | contacted (contact : Contact)

/-- The store of one session with its answers to come, and what was done so far. -/
structure World where
  history : List PersistedEvent
  answers : Nat → StoreAnswer
  appends : Nat
  nextId : Nat
  notes : List Note

/-- The sequence number of the event after a history. -/
def nextSequence (history : List PersistedEvent) : Except CoreError Sequence :=
  match history.getLast? with
  | none => .ok ⟨1, by decide, by decide⟩
  | some event => event.sequence.checkedNext

def World.store (w : World) (event : StoredEvent) : World :=
  { w with
    history := w.history ++ [event.persisted]
    appends := w.appends + 1
    notes := w.notes ++ [.stored event] }

/-- Atomically allocates the next sequence and appends one event, or fails. -/
def World.append (event : NewEvent) (w : World) : Except CoreError StoredEvent × World :=
  match nextSequence w.history with
  | .error failure => (.error failure, { w with appends := w.appends + 1 })
  | .ok sequence =>
    match w.answers w.appends with
    | .stores => (.ok ⟨sequence, event⟩, w.store ⟨sequence, event⟩)
    | .refuses failure => (.error failure, { w with appends := w.appends + 1 })
    | .storesUnacknowledged failure => (.error failure, w.store ⟨sequence, event⟩)

/-! ## The orchestrator -/

/-- Result after an explicit route reaches a durable outcome. -/
inductive ExecutionOutcome where
  | completed
  | failed
  | outcomeUnknown
  deriving DecidableEq

/-- Complete input required to execute one explicitly selected route. -/
structure ExecutionRequest where
  sessionId : Nat
  requestId : Nat
  content : NonEmptyText
  plan : RoutingPlan
  operation : String
  operationPolicy : OperationPolicy
  adapter : ProviderAdapter

abbrev Orchestration := Program World CoreError

namespace Orchestrator

def newId : Orchestration Nat :=
  Program.access fun w => .ok (w.nextId, { w with nextId := w.nextId + 1 })

def contact (made : Contact) : Orchestration Unit :=
  Program.update fun w => { w with notes := w.notes ++ [.contacted made] }

def append (sessionId requestId : Nat) (payload : Recorded) : Orchestration StoredEvent := do
  let answer ← Program.access fun w => .ok (w.append ⟨sessionId, some requestId, payload⟩)
  Program.lift answer

def recordUnknown (sessionId requestId attemptId : Nat) (reason : String) :
    Orchestration ExecutionOutcome := do
  let _ ← append sessionId requestId
    (.outcomeUnknown attemptId reason [.retry, .acceptResult, .abandon])
  return .outcomeUnknown

def recordStreamFailure (sessionId requestId attemptId : Nat) (failure : ProviderFailure) :
    Orchestration ExecutionOutcome := do
  if failure.definite then
    let correlationId ← newId
    let _ ← append sessionId requestId
      (.sessionFailed (some attemptId) failure.userSafeMessage correlationId)
    return .failed
  else
    recordUnknown sessionId requestId attemptId failure.userSafeMessage

def recordProviderSetupFailure (sessionId requestId attemptId : Nat) (failure : ProviderFailure) :
    Orchestration ExecutionOutcome :=
  recordStreamFailure sessionId requestId attemptId failure

/-- The loop over at most `fuel` items of the stream; `none` while it waits for the next one. -/
def consume (sessionId requestId attemptId : Nat) (stream : ProviderStream) :
    Nat → Nat → Orchestration (Option ExecutionOutcome)
  | 0, _ => return none
  | fuel + 1, index => do
    contact (.nextItem index)
    match stream index with
    | some (.ok (.acknowledged providerRequestId)) =>
      let _ ← append sessionId requestId (.dispatchAcknowledged attemptId providerRequestId)
      consume sessionId requestId attemptId stream fuel (index + 1)
    | some (.ok (.content eventType content)) =>
      let _ ← append sessionId requestId (.providerEvent attemptId eventType content)
      consume sessionId requestId attemptId stream fuel (index + 1)
    | some (.ok (.tool eventType content)) =>
      let _ ← append sessionId requestId (.toolEvent attemptId eventType content)
      consume sessionId requestId attemptId stream fuel (index + 1)
    | some (.ok (.completed summary)) =>
      let correlationId ← newId
      let _ ← append sessionId requestId (.sessionCompleted (some attemptId) summary correlationId)
      return some .completed
    | some (.error failure) =>
      let outcome ← recordStreamFailure sessionId requestId attemptId failure
      return some outcome
    | none =>
      let outcome ← recordUnknown sessionId requestId attemptId
        "provider stream ended without a definite terminal result"
      return some outcome

/-- What the plan permits before any attempt is created. -/
def requirePermitted (plan : RoutingPlan) : Except CoreError Unit :=
  match plan.context.permission with
  | .denied => .error ⟨.policyDenied, "route is denied by effective policy"⟩
  | .approvalRequired =>
    .error ⟨.approvalRequired, "route requires recorded approval before dispatch"⟩
  | .readOnly => .ok ()

/-- Sends the prompt of a started attempt and follows its stream. -/
def dispatch (request : ExecutionRequest) (attemptId fuel : Nat) :
    Orchestration (Option ExecutionOutcome) := do
  contact .startSession
  match request.adapter.startSession with
  | .error failure =>
    let outcome ← recordProviderSetupFailure request.sessionId request.requestId attemptId failure
    return some outcome
  | .ok handle =>
    let prompt : ProviderPrompt :=
      { sessionId := request.sessionId, attemptId,
        runtimeModel := request.plan.destination.runtimeModel, content := request.content }
    contact (.promptStream handle prompt)
    match request.adapter.promptStream handle prompt with
    | .error failure =>
      let outcome ← recordProviderSetupFailure request.sessionId request.requestId attemptId failure
      return some outcome
    | .ok stream => consume request.sessionId request.requestId attemptId stream fuel 0

/-- Records input and route before creating one external provider attempt. -/
def execute (request : ExecutionRequest) (fuel : Nat) :
    Orchestration (Option ExecutionOutcome) := do
  let inputId ← newId
  let _ ← append request.sessionId request.requestId (.inputRecorded inputId request.content)
  let _ ← append request.sessionId request.requestId (.routingPlanned request.plan)
  Program.lift (requirePermitted request.plan)
  let attemptId ← newId
  let attempt ← Program.lift (Attempt.plan attemptId request.operation request.operationPolicy)
  let _ ← append request.sessionId request.requestId
    (.dispatchPlanned attempt.id attempt.policy.effectClass attempt.operation
      attempt.policy.explicitlyIdempotent)
  let attempt ← Program.lift attempt.markStarted
  let _ ← append request.sessionId request.requestId (.dispatchStarted attempt.id none)
  dispatch request attempt.id fuel

end Orchestrator

/-! ## What a run keeps to -/

/-- The events stored so far, in their order. -/
def storedIn (notes : List Note) : List StoredEvent :=
  notes.filterMap fun
    | .stored event => some event
    | .contacted _ => none

@[simp] theorem storedIn_stored (notes : List Note) (event : StoredEvent) :
    storedIn (notes ++ [.stored event]) = storedIn notes ++ [event] := by
  simp [storedIn]

@[simp] theorem storedIn_contacted (notes : List Note) (made : Contact) :
    storedIn (notes ++ [.contacted made]) = storedIn notes := by
  simp [storedIn]

@[simp] theorem storedIn_store (w : World) (event : StoredEvent) :
    storedIn (w.store event).notes = storedIn w.notes ++ [event] := storedIn_stored _ _

/-- The event says that the dispatch of an attempt started. -/
def StoredEvent.StartsDispatch (stored : StoredEvent) : Prop :=
  ∃ attemptId, stored.event.payload = .dispatchStarted attemptId none

/-- What was done extends the history legally, contacts the adapter only after a stored dispatch,
and stores nothing after a terminal or unknown outcome. -/
structure Orderly (start w : World) (state : SessionState) : Prop where
  history : w.history = start.history ++ (storedIn w.notes).map StoredEvent.persisted
  folds : foldPersisted w.history = .ok state
  contacts : ∀ before made after, w.notes = before ++ .contacted made :: after →
    ∃ event ∈ storedIn before, event.StartsDispatch
  ends : ∀ before event after, storedIn w.notes = before ++ event :: after →
    event.event.payload.isEnd → after = []

/-- The outcome that a payload records. -/
def ExecutionOutcome.recordedBy : ExecutionOutcome → Recorded → Bool
  | .completed, .sessionCompleted .. => true
  | .failed, .sessionFailed .. => true
  | .outcomeUnknown, .outcomeUnknown .. => true
  | _, _ => false

/-- No terminal or unknown outcome was stored yet. -/
def Unended (w : World) : Prop :=
  ∀ event ∈ storedIn w.notes, event.event.payload.isEnd = false

theorem Unended.store {w : World} (h : Unended w) {event : StoredEvent}
    (hend : event.event.payload.isEnd = false) : Unended (w.store event) := by
  intro other hmem
  rw [storedIn_store, mem_append, mem_singleton] at hmem
  rcases hmem with hmem | rfl
  · exact h other hmem
  · exact hend

variable {history : List PersistedEvent}

theorem foldFrom_snoc {state : Option SessionState} {previous : Option Sequence}
    {event : PersistedEvent} {middle : Option SessionState}
    {next : SessionState} (hfold : foldFrom state previous history = .ok middle)
    (hnext : requireNext ((history.getLast?.map PersistedEvent.sequence).or previous) event
      = .ok ()) (hstep : transition middle event.payload = .ok next) :
    foldFrom state previous (history ++ [event]) = .ok (some next) := by
  induction history generalizing state previous with
  | nil =>
    cases hfold
    exact foldFrom_cons_eq_ok.mpr ⟨next, hnext, hstep, rfl⟩
  | cons first rest ih =>
    obtain ⟨second, hfirst, hlegal, hrest⟩ := foldFrom_cons_eq_ok.mp hfold
    refine foldFrom_cons_eq_ok.mpr ⟨second, hfirst, hlegal, ih hrest ?_⟩
    cases rest with
    | nil => exact hnext
    | cons => simpa [getLast?_cons] using hnext

/-- The store numbers events so that a legal one extends the history. -/
theorem foldPersisted_snoc {state next : SessionState}
    {sequence : Sequence} {payload : EventPayload} (hfold : foldPersisted history = .ok state)
    (hsequence : nextSequence history = .ok sequence)
    (hstep : transition (some state) payload = .ok next) :
    foldPersisted (history ++ [⟨sequence, payload⟩]) = .ok next := by
  refine foldPersisted_eq_ok.mpr (foldFrom_snoc (foldPersisted_eq_ok.mp hfold) ?_ hstep)
  unfold nextSequence at hsequence
  cases hlast : history.getLast? with
  | none => rfl
  | some last =>
    rw [hlast] at hsequence
    simp only [Option.map_some, Option.some_or, requireNext]
    rw [show last.sequence.checkedNext = .ok sequence from hsequence]
    simp [bind, Except.bind]

section

variable {start w : World} {state next : SessionState}

theorem Orderly.store (h : Orderly start w state) (hunended : Unended w) {sequence : Sequence}
    (hsequence : nextSequence w.history = .ok sequence) {event : NewEvent}
    (hlegal : transition (some state) event.payload.payload = .ok next) :
    Orderly start (w.store ⟨sequence, event⟩) next where
  history := by simp [World.store, h.history]
  folds := foldPersisted_snoc h.folds hsequence hlegal
  contacts before made after hnotes := by
    rcases eq_nil_or_concat after with rfl | ⟨rest, last, rfl⟩
    · simp [World.store] at hnotes
    have hsplit : w.notes = before ++ .contacted made :: rest := by
      have hnotes' : w.notes ++ [.stored ⟨sequence, event⟩]
          = (before ++ .contacted made :: rest) ++ [last] := by
        simpa [World.store] using hnotes
      exact (append_inj' hnotes' rfl).1
    exact h.contacts before made rest hsplit
  ends before stored after hstored hend := by
    rcases eq_nil_or_concat after with rfl | ⟨rest, last, rfl⟩
    · rfl
    -- An end before the last event would have been stored earlier.
    have hstored' : storedIn w.notes ++ [⟨sequence, event⟩]
        = (before ++ stored :: rest) ++ [last] := by
      simpa [World.store] using hstored
    have hmem : stored ∈ storedIn w.notes := by
      rw [(append_inj' hstored' rfl).1]
      simp
    simp [hunended stored hmem] at hend

theorem Orderly.contact (h : Orderly start w state)
    (hstarted : ∃ event ∈ storedIn w.notes, event.StartsDispatch) (made : Contact) :
    Orderly start { w with notes := w.notes ++ [.contacted made] } state where
  history := by simpa using h.history
  folds := h.folds
  contacts before other after hnotes := by
    rcases eq_nil_or_concat after with rfl | ⟨rest, last, rfl⟩
    · have hsame := append_inj' hnotes rfl
      exact hsame.1 ▸ hstarted
    · have hnotes' : w.notes ++ [.contacted made]
          = (before ++ .contacted other :: rest) ++ [last] := by
        simpa using hnotes
      exact h.contacts before other rest (append_inj' hnotes' rfl).1
  ends := by simpa using h.ends

/-- The attempt was dispatched, and no outcome of it was stored yet. -/
structure Running (start w : World) : Prop where
  orderly : Orderly start w .running
  unended : Unended w
  started : ∃ event ∈ storedIn w.notes, event.StartsDispatch

/-- Drawing an identifier does nothing that a run keeps to. -/
theorem Orderly.draws (h : Orderly start w state) (id : Nat) :
    Orderly start { w with nextId := id } state :=
  ⟨h.history, h.folds, h.contacts, h.ends⟩

theorem Running.draws (h : Running start w) (id : Nat) : Running start { w with nextId := id } :=
  ⟨h.orderly.draws id, h.unended, h.started⟩

theorem Running.contacts (h : Running start w) (made : Contact) :
    Running start { w with notes := w.notes ++ [.contacted made] } where
  orderly := h.orderly.contact h.started made
  unended := by
    intro event hmem
    rw [storedIn_contacted] at hmem
    exact h.unended event hmem
  started := by simpa using h.started

/-- The attempt was not dispatched yet. -/
structure Planning (start w : World) : Prop where
  orderly : Orderly start w .ready
  unended : Unended w

theorem Planning.draws (h : Planning start w) (id : Nat) : Planning start { w with nextId := id } :=
  ⟨h.orderly.draws id, h.unended⟩

/-- A run before its first append. -/
theorem planning_start (hready : foldPersisted start.history = .ok .ready)
    (hnotes : start.notes = []) : Planning start start where
  orderly :=
    { history := by simp [hnotes, storedIn]
      folds := hready
      contacts := by simp [hnotes]
      ends := by simp [hnotes, storedIn] }
  unended := by simp [Unended, hnotes, storedIn]

def LastStored (w : World) (payload : Recorded) : Prop :=
  ∃ event, (storedIn w.notes).getLast? = some event ∧ event.event.payload = payload

/-- Where a run that fails leaves things. -/
def FailsOrderly (start : World) (_ : CoreError) (w : World) : Prop :=
  ∃ state, Orderly start w state

namespace Orchestrator

variable {ok : StoredEvent → World → Prop} {sessionId requestId attemptId : Nat}
  {payload : Recorded}

/-- One append: a legal event goes to the end of the history, or the run fails. -/
theorem wp_append (h : Orderly start w state) (hunended : Unended w)
    (hlegal : transition (some state) payload.payload = .ok next)
    (hok : ∀ sequence, Orderly start
    (w.store ⟨sequence, ⟨sessionId, some requestId, payload⟩⟩) next →
      ok ⟨sequence, ⟨sessionId, some requestId, payload⟩⟩
        (w.store ⟨sequence, ⟨sessionId, some requestId, payload⟩⟩)) :
    (append sessionId requestId payload).wp ok (FailsOrderly start) w := by
  unfold append
  rw [Program.wp_bind, Program.wp_access]
  simp only [World.append]
  cases hsequence : nextSequence w.history with
  | error failure => exact ⟨state, h.history, h.folds, h.contacts, h.ends⟩
  | ok sequence =>
    have hstored := h.store hunended hsequence
      (show transition (some state) (NewEvent.mk sessionId (some requestId) payload).payload.payload
        = .ok next from hlegal)
    cases w.answers w.appends with
    | stores => exact hok sequence hstored
    | refuses => exact ⟨state, h.history, h.folds, h.contacts, h.ends⟩
    | storesUnacknowledged => exact ⟨next, hstored⟩

/-- The event of the outcome is the last one. -/
theorem wp_append_end (h : Running start w)
    (hlegal : transition (some .running) payload.payload = .ok next)
    (hok : ∀ event w', Orderly start w' next → LastStored w' payload → ok event w') :
    (append sessionId requestId payload).wp ok (FailsOrderly start) w :=
  wp_append h.orderly h.unended hlegal fun sequence hstored =>
    hok _ _ hstored ⟨_, by rw [storedIn_store, getLast?_concat], rfl⟩

/-- Where a run that returns leaves things: a returned outcome is recorded last. -/
def ReturnsOrderly (start : World) (outcome : ExecutionOutcome) (w : World) : Prop :=
  (∃ state, Orderly start w state) ∧ ∃ payload, LastStored w payload ∧ outcome.recordedBy payload

theorem wp_recordUnknown {reason : String} (h : Running start w) :
    (recordUnknown sessionId requestId attemptId reason).wp (ReturnsOrderly start)
      (FailsOrderly start) w := by
  unfold recordUnknown
  rw [Program.wp_bind]
  exact wp_append_end h rfl fun event w' horderly hlast => ⟨⟨_, horderly⟩, _, hlast, rfl⟩

theorem wp_recordStreamFailure {failure : ProviderFailure} (h : Running start w) :
    (recordStreamFailure sessionId requestId attemptId failure).wp (ReturnsOrderly start)
      (FailsOrderly start) w := by
  unfold recordStreamFailure
  split
  · rw [Program.wp_bind, newId, Program.wp_access]
    simp only
    rw [Program.wp_bind]
    exact wp_append_end (h.draws _) rfl fun event w' horderly hlast =>
      ⟨⟨_, horderly⟩, _, hlast, rfl⟩
  · exact wp_recordUnknown h

/-- What holds when the loop, or the whole run, returns. -/
def Returns (start : World) (outcome : Option ExecutionOutcome) (w : World) : Prop :=
  (∃ state, Orderly start w state) ∧
    ∀ ended, outcome = some ended → ∃ payload, LastStored w payload ∧ ended.recordedBy payload

theorem wp_returning {prog : Orchestration ExecutionOutcome}
    (h : prog.wp (ReturnsOrderly start) (FailsOrderly start) w) :
    (prog >>= fun outcome => pure (some outcome) :
      Orchestration (Option ExecutionOutcome)).wp (Returns start) (FailsOrderly start) w := by
  rw [Program.wp_bind]
  refine Program.wp_mono (fun outcome w' hreturn => ?_) (fun _ _ hfail => hfail) h
  refine ⟨hreturn.1, fun ended hended => ?_⟩
  cases hended
  exact hreturn.2

/-- The loop over the stream keeps the attempt running until it records an outcome. -/
theorem wp_consume {stream : ProviderStream} (fuel index : Nat) (h : Running start w) :
    (consume sessionId requestId attemptId stream fuel index).wp (Returns start)
      (FailsOrderly start) w := by
  induction fuel generalizing index w with
  | zero => exact ⟨⟨_, h.orderly⟩, nofun⟩
  | succ fuel ih =>
    have hcontacted := h.contacts (.nextItem index)
    unfold consume
    rw [Program.wp_bind, contact, Program.wp_update]
    cases stream index with
    | none => exact wp_returning (wp_recordUnknown hcontacted)
    | some item =>
      cases item with
      | error failure => exact wp_returning (wp_recordStreamFailure hcontacted)
      | ok output =>
        cases output with
        | acknowledged | content | tool =>
          -- an event before the outcome leaves the attempt running
          simp only [Program.wp_bind]
          refine wp_append hcontacted.orderly hcontacted.unended rfl fun sequence hstored =>
            ih _ ⟨hstored, hcontacted.unended.store rfl, ?_⟩
          obtain ⟨event, hmem, hstarts⟩ := hcontacted.started
          exact ⟨event, by rw [storedIn_store]; exact mem_append_left _ hmem, hstarts⟩
        | completed =>
          simp only [Program.wp_bind, newId, Program.wp_access]
          refine wp_append_end (hcontacted.draws _) rfl fun _ _ horderly hlast => ?_
          exact ⟨⟨_, horderly⟩, fun ended hended => ⟨_, hlast, by cases hended; rfl⟩⟩

theorem wp_dispatch {request : ExecutionRequest} {fuel : Nat} (h : Running start w) :
    (dispatch request attemptId fuel).wp (Returns start) (FailsOrderly start) w := by
  unfold dispatch
  rw [Program.wp_bind, contact, Program.wp_update]
  cases request.adapter.startSession with
  | error failure => exact wp_returning (wp_recordStreamFailure (h.contacts _))
  | ok handle =>
    simp only [Program.wp_bind, contact, Program.wp_update]
    split
    · exact wp_returning (wp_recordStreamFailure ((h.contacts _).contacts _))
    · exact wp_consume fuel 0 ((h.contacts _).contacts _)

/-- An event before the dispatch leaves the session ready. -/
theorem wp_append_planning (h : Planning start w) (hend : payload.isEnd = false)
    (hlegal : transition (some .ready) payload.payload = .ok .ready)
    (hok : ∀ event w', Planning start w' → ok event w') :
    (append sessionId requestId payload).wp ok (FailsOrderly start) w :=
  wp_append h.orderly h.unended hlegal fun _ hstored => hok _ _ ⟨hstored, h.unended.store hend⟩

theorem wp_execute {request : ExecutionRequest} (fuel : Nat)
    (hready : foldPersisted start.history = .ok .ready) (hnotes : start.notes = []) :
    (execute request fuel).wp (Returns start) (FailsOrderly start) start := by
  unfold execute
  simp only [Program.wp_bind, newId, Program.wp_access]
  refine wp_append_planning ((planning_start hready hnotes).draws _) rfl rfl fun _ w₁ hinput => ?_
  refine wp_append_planning hinput rfl rfl fun _ w₂ hrouted => ?_
  cases requirePermitted request.plan with
  | error failure => exact ⟨_, hrouted.orderly⟩
  | ok =>
    rw [Program.wp_lift_ok]
    cases Attempt.plan w₂.nextId request.operation request.operationPolicy with
    | error failure => exact ⟨_, (hrouted.draws _).orderly⟩
    | ok attempt =>
      refine wp_append_planning (hrouted.draws _) rfl rfl fun _ w₃ hplanned => ?_
      cases attempt.markStarted with
      | error failure => exact ⟨_, hplanned.orderly⟩
      | ok started =>
        refine wp_append hplanned.orderly hplanned.unended rfl fun sequence hstored => ?_
        refine wp_dispatch ⟨hstored, hplanned.unended.store rfl, ?_⟩
        exact ⟨_, by rw [storedIn_store]; exact mem_concat_self, started.id, rfl⟩

end Orchestrator

end

/-! ## Returning -/

/-- The item after which the loop stops. -/
def stopsStream : Option (Except ProviderFailure ProviderOutput) → Bool
  | none | some (.error _) | some (.ok (.completed _)) => true
  | _ => false

namespace Orchestrator

/-- The loop returns once it comes to an item that stops it. -/
theorem consume_returns {sessionId requestId attemptId : Nat} {stream : ProviderStream}
    {fuel index : Nat} {w : World} (hstops : ∃ n < fuel, stopsStream (stream (index + n))) :
    (consume sessionId requestId attemptId stream fuel index).wp
      (fun outcome _ => outcome ≠ none) (fun _ _ => True) w := by
  induction fuel generalizing index w with
  | zero =>
    obtain ⟨n, hn, -⟩ := hstops
    exact absurd hn (Nat.not_lt_zero n)
  | succ fuel ih =>
    have hlater : stopsStream (stream index) = false →
        ∀ w, (consume sessionId requestId attemptId stream fuel (index + 1)).wp
          (fun outcome _ => outcome ≠ none) (fun _ _ => True) w := by
      intro hgoes w
      obtain ⟨n, hn, hstop⟩ := hstops
      cases n with
      | zero => rw [Nat.add_zero, hgoes] at hstop; cases hstop
      | succ n =>
        exact ih ⟨n, Nat.lt_of_succ_lt_succ hn, by rwa [Nat.add_assoc, Nat.add_comm 1]⟩
    unfold consume
    rw [Program.wp_bind, contact, Program.wp_update]
    cases hitem : stream index with
    | none =>
      rw [Program.wp_bind]
      exact Program.wp_of_forall (fun _ _ => nofun) (fun _ _ => trivial) _ _
    | some item =>
      cases item with
      | error failure =>
        simp only [Program.wp_bind]
        exact Program.wp_of_forall (fun _ _ => nofun) (fun _ _ => trivial) _ _
      | ok output =>
        cases output with
        | completed =>
          simp only [Program.wp_bind]
          exact Program.wp_of_forall
            (fun _ _ => Program.wp_of_forall (fun _ _ => nofun) (fun _ _ => trivial) _ _)
            (fun _ _ => trivial) _ _
        | acknowledged | content | tool =>
          simp only [Program.wp_bind]
          exact Program.wp_of_forall (fun _ => hlater (by rw [hitem]; rfl)) (fun _ _ => trivial) _ _

variable {request : ExecutionRequest}

/-- A run whose streams stop in time does not wait forever. -/
theorem execute_returns {fuel n : Nat} {start : World} (hn : n < fuel)
    (hstops : ∀ handle prompt stream, request.adapter.promptStream handle prompt = .ok stream →
      stopsStream (stream n)) :
    (execute request fuel).wp (fun outcome _ => outcome ≠ none) (fun _ _ => True) start := by
  have hdispatch : ∀ attemptId w, (dispatch request attemptId fuel).wp
      (fun outcome _ => outcome ≠ none) (fun _ _ => True) w := by
    intro attemptId w
    unfold dispatch
    rw [Program.wp_bind, contact, Program.wp_update]
    cases request.adapter.startSession with
    | error failure =>
      simp only [Program.wp_bind]
      exact Program.wp_of_forall (fun _ _ => nofun) (fun _ _ => trivial) _ _
    | ok handle =>
      simp only [Program.wp_bind, contact, Program.wp_update]
      split
      · rw [Program.wp_bind]
        exact Program.wp_of_forall (fun _ _ => nofun) (fun _ _ => trivial) _ _
      · next stream hstream =>
          exact consume_returns ⟨n, hn, by simpa using hstops _ _ stream hstream⟩
  unfold execute
  simp only [Program.wp_bind]
  -- Whatever the nine calls before the dispatch answer, it returns if it is reached.
  iterate 9 refine Program.wp_of_forall (fun _ _ => ?_) (fun _ _ => trivial) _ _
  exact hdispatch _ _

/-- For every provider stream and every pattern of store failures, `execute` extends a ready history
legally, contacts the adapter only after the dispatch was stored, stores at most one outcome and
nothing after it, returns only the outcome stored last, and does return as soon as the stream has an
item that stops it. -/
theorem execute_persists_first {start : World}
    (hready : foldPersisted start.history = .ok .ready) (hnotes : start.notes = []) (fuel : Nat) :
    (∃ state, Orderly start ((execute request fuel).run [] start).2 state)
      ∧ (∀ outcome, ((execute request fuel).run [] start).1 = .ok (some outcome) →
        ∃ payload, LastStored ((execute request fuel).run [] start).2 payload
          ∧ outcome.recordedBy payload)
      ∧ ∀ n < fuel, (∀ handle prompt stream,
          request.adapter.promptStream handle prompt = .ok stream → stopsStream (stream n)) →
        ((execute request fuel).run [] start).1 ≠ .ok none := by
  have hwp : (execute request fuel).wp (Returns start) (FailsOrderly start) start :=
    wp_execute fuel hready hnotes
  have hends := Program.wp_run hwp []
  refine ⟨?_, fun outcome hresult => ?_, fun n hn hstops hnone => ?_⟩
  · cases hresult : ((execute request fuel).run [] start).1 with
    | ok outcome => exact (hends.of_ok hresult).1
    | error failure => exact hends.of_error hresult
  · exact (hends.of_ok hresult).2 outcome rfl
  · exact (Program.wp_run (execute_returns hn hstops) []).of_ok hnone rfl

/-- A provider that acknowledges the prompt, sends one text and completes. -/
def completingAdapter : ProviderAdapter where
  startSession := .ok "opaque"
  promptStream _ _ := .ok fun
    | 0 => some (.ok (.acknowledged none))
    | 1 => some (.ok (.content "assistant_text_delta" ⟨"text", by decide⟩))
    | _ => some (.ok (.completed "done"))

def sampleRequest : ExecutionRequest where
  sessionId := 1
  requestId := 2
  content := ⟨"prompt", by decide⟩
  plan :=
    { intent := "implement"
      destination :=
        { role := ⟨"implementer", by decide⟩
          modelAlias := ⟨"implementation", by decide⟩
          provider := ⟨"fake", by decide⟩
          runtimeModel := "fake-model" }
      context := { tools := [], dataSources := [], permission := .readOnly }
      risk := .low
      confidence := 1
      selectedBy := .explicit }
  operation := "inference"
  operationPolicy := ⟨.paidInference, false, true⟩
  adapter := completingAdapter

/-- A ready session, with a store whose acknowledgement of the seventh event is lost. -/
def sampleWorld : World where
  history := [⟨⟨1, by decide, by decide⟩, .sessionCreated⟩]
  answers n := if n = 6 then .storesUnacknowledged ⟨.storageUnavailable, "lost"⟩ else .stores
  appends := 0
  nextId := 3
  notes := []

/-- The completion was stored although its append failed: nothing follows it. -/
theorem unacknowledged_completion_ends :
    ((execute sampleRequest 3).run [] sampleWorld).2.history.map PersistedEvent.payload
        = [.sessionCreated, .inputRecorded, .routingPlanned, .dispatchPlanned, .dispatchStarted,
          .dispatchAcknowledged, .providerEvent, .sessionCompleted]
      ∧ ((execute sampleRequest 3).run [] sampleWorld).1
        = .error ⟨.storageUnavailable, "lost"⟩
      ∧ ∃ state, Orderly sampleWorld ((execute sampleRequest 3).run [] sampleWorld).2 state :=
  ⟨by decide +kernel, by decide +kernel, (execute_persists_first (by decide +kernel) rfl 3).1⟩

end Orchestrator

end Workbench.Core
