import Workbench.Openrouter.Transport

/-!
# Openrouter: provider adapter

`prompt_stream` and `cancel` of `OpenRouterProviderAdapter` as they interleave.  A call
stands at a point of its body, and each step takes one call over one access to what the
calls share: the shutdown flag, the session map, a session's setup lock, its active slot,
its set of pending cancellations, a cancellation flag, the ledger.  The secret store, the
network and the spend store answer as they like.  Lock poisoning is left out.

Two fields of a call are not in the source: `sent` says whether its paid request may have
been written, and `response` keeps what came back, also where the client drops it.
-/

namespace Workbench.Openrouter

open Library Workbench.Core

/-- Loads a non-empty secret or returns a definite pre-dispatch failure. -/
def requireSecret : Except OpenRouterError (Option String) → Except OpenRouterError String
  | .error error => .error error
  | .ok none => .error ⟨.credentialMissing, "API credential is unavailable"⟩
  | .ok (some secret) =>
    if secret = "" then .error ⟨.credentialEmpty, "API credential is empty"⟩ else .ok secret

/-! ## Sessions and calls -/

structure ActiveAttempt where
  attemptId : Nat
  /-- The `prompt_stream` call whose cancellation flag this is. -/
  cancel : Nat
  deriving DecidableEq

structure LocalSession where
  /-- Whether the session map still holds the session. -/
  mapped : Bool
  /-- The call that holds the setup lock. -/
  setup : Option Nat
  active : Option ActiveAttempt
  pendingCancellations : List Nat

abbrev Outcome := Except ProviderFailure (List ProviderOutput)

inductive PromptPoint where
  | entering
  | lookingUp
  | locking
  | checkingActive
  | requiringSecret
  | checkingBudget
  | registering
  | checkingPending
  | awaitingTransport
  | responded (result : TransportResult)
  | recording (outputs : List ProviderOutput) (spend : Nat)
  | persisting (outputs : List ProviderOutput)
  | clearingActive (outcome : Outcome)
  | clearingPending (outcome : Outcome)
  | returned (outcome : Outcome)
  | panicked

/-- One call of `prompt_stream`. -/
structure PromptCall where
  handle : Nat
  prompt : ProviderPrompt
  point : PromptPoint
  cancel : Bool
  sent : Bool
  response : Option TransportResult

inductive CancellationStatus where
  | confirmed
  | unconfirmed
  deriving DecidableEq

inductive CancelPoint where
  | lookingUp
  | inserting
  | readingActive
  | storing (call : Nat)
  | returned (status : CancellationStatus)
  deriving DecidableEq

/-- One call of `cancel`. -/
structure CancelCall where
  handle : Nat
  attemptId : Nat
  point : CancelPoint

structure AdapterState where
  shuttingDown : Bool
  sessions : List LocalSession
  prompts : List PromptCall
  cancels : List CancelCall
  /-- The totals of the ledger. -/
  spends : Spends

structure AdapterConfig where
  formats : TextFormats
  transport : OpenRouterTransport
  policy : CostPolicyConfig
  /-- Whether the ledger has a durable store. -/
  durable : Bool

/-- What the world answers in a step of `prompt_stream`. -/
structure Answer where
  secret : Except OpenRouterError (Option String)
  network : Network
  persisted : Except OpenRouterError Unit

inductive AdapterAction where
  | startSession
  | shutDown
  | clearSessions
  | promptStream (handle : Nat) (prompt : ProviderPrompt)
  | cancel (handle attemptId : Nat)
  | runPrompt (call : Nat) (answer : Answer)
  | runCancel (call : Nat)

/-! ## Steps of `prompt_stream` -/

/-- What becomes of a response. -/
inductive Settlement where
  | fails (failure : ProviderFailure)
  | completes (outputs : List ProviderOutput) (spend : Nat)
  deriving DecidableEq

/-- From the response to the recording of the spend; `none` is a panic. -/
def settle (formats : TextFormats) (cancelled : Bool) (result : TransportResult) :
    Option Settlement :=
  if cancelled then
    some (.fails (OpenRouterError.intoProviderFailure
      ⟨.cancelled, "OpenRouter attempt was cancelled"⟩ true))
  else
    (decodeBody formats result.body).map fun
      | .error error => .fails (error.intoProviderFailure false)
      | .ok (outputs, completed) =>
        if completed = false ∧ outputs = [] then
          .fails (OpenRouterError.intoProviderFailure
            ⟨.outcomeUnknown, "OpenRouter stream ended without a definite completion"⟩ false)
        else if completed = true then .completes outputs (max result.usage.costUsdMicros 1)
        else
          .fails (OpenRouterError.intoProviderFailure
            ⟨.outcomeUnknown, "OpenRouter stream ended without a terminal marker"⟩ false)

/-- The outputs of a stream that ends well. -/
def completedOutputs (outputs : List ProviderOutput) : List ProviderOutput :=
  outputs ++ [.completed "openrouter completed"]

namespace PromptCall

/-- A call that goes on at another point. -/
def goTo (call : PromptCall) (point : PromptPoint) : PromptCall := { call with point := point }

/-- A call that returns; the setup lock is released. -/
def leave (call : PromptCall) (session : LocalSession) (spends : Spends) (outcome : Outcome) :
    Option (PromptCall × LocalSession × Spends) :=
  some (call.goTo (.returned outcome), { session with setup := none }, spends)

def leaveWith (call : PromptCall) (session : LocalSession) (spends : Spends)
    (error : OpenRouterError) : Option (PromptCall × LocalSession × Spends) :=
  call.leave session spends (.error (error.intoProviderFailure true))

/-- The next step of a call that has found its session. -/
def goOn (config : AdapterConfig) (index : Nat) (answer : Answer) (call : PromptCall)
    (session : LocalSession) (spends : Spends) : Option (PromptCall × LocalSession × Spends) :=
  match call.point with
  | .entering | .lookingUp | .returned _ | .panicked => none
  | .locking =>
    if session.setup = none then
      some (call.goTo .checkingActive, { session with setup := some index }, spends)
    else none
  | .checkingActive =>
    if session.active.isSome then
      call.leaveWith session spends
        ⟨.unavailable, "OpenRouter session already has an active attempt"⟩
    else some (call.goTo .requiringSecret, session, spends)
  | .requiringSecret =>
    match requireSecret answer.secret with
    | .error error => call.leaveWith session spends error
    | .ok _ => some (call.goTo .checkingBudget, session, spends)
  | .checkingBudget =>
    match denyError (evaluateBudget config.policy spends call.prompt.sessionId
      (estimateAttemptUsdMicros config.policy)) with
    | .error error => call.leaveWith session spends error
    | .ok () => some (call.goTo .registering, session, spends)
  | .registering =>
    some (call.goTo .checkingPending,
      { session with active := some ⟨call.prompt.attemptId, index⟩ }, spends)
  | .checkingPending =>
    if call.prompt.attemptId ∈ session.pendingCancellations then
      some (call.goTo (.clearingActive (.error (OpenRouterError.intoProviderFailure
        ⟨.cancelled, "OpenRouter attempt was cancelled before dispatch"⟩ true))), session, spends)
    else some ({ call with point := .awaitingTransport, sent := true }, session, spends)
  | .awaitingTransport =>
    match chatCompletion config.formats config.transport answer.network with
    | .error error =>
      some ({ call with
        point := .clearingActive (.error (error.intoProviderFailure error.kind.isPreDispatch))
        sent := mayHaveSent config.transport answer.network
        response := arrived config.formats config.transport answer.network }, session, spends)
    | .ok result =>
      some ({ call with point := .responded result, response := some result }, session, spends)
  | .responded result =>
    match settle config.formats call.cancel result with
    | none => some (call.goTo .panicked, { session with setup := none }, spends)
    | some (.fails failure) => some (call.goTo (.clearingActive (.error failure)), session, spends)
    | some (.completes outputs spend) =>
      some (call.goTo (.recording outputs spend), session, spends)
  | .recording outputs spend =>
    let point : PromptPoint := if config.durable then .persisting outputs
      else .clearingActive (.ok (completedOutputs outputs))
    some (call.goTo point, session, fun other =>
      if other = call.prompt.sessionId then saturatingAdd (spends other) spend else spends other)
  | .persisting outputs =>
    match answer.persisted with
    | .error error => call.leaveWith session spends error
    | .ok () => some (call.goTo (.clearingActive (.ok (completedOutputs outputs))), session, spends)
  | .clearingActive outcome =>
    let active := session.active.filter fun current => current.attemptId ≠ call.prompt.attemptId
    some (call.goTo (.clearingPending outcome), { session with active := active }, spends)
  | .clearingPending outcome =>
    let pending := session.pendingCancellations.filter (· ≠ call.prompt.attemptId)
    call.leave { session with pendingCancellations := pending } spends outcome

variable (config : AdapterConfig) (index : Nat) (answer : Answer) (call : PromptCall)
  (session : LocalSession) (spends : Spends) in
/-- What one step of `goOn` can do. -/
inductive Moved : PromptCall → LocalSession → Spends → Prop where
  | locked (hpoint : call.point = .locking) (hfree : session.setup = none) :
      Moved (call.goTo .checkingActive) { session with setup := some index } spends
  | refused (error : OpenRouterError)
      (hpoint : call.point = .checkingActive ∨ call.point = .requiringSecret ∨
        call.point = .checkingBudget) :
      Moved
        (call.goTo (.returned (.error (error.intoProviderFailure true))))
        { session with setup := none } spends
  | prepared (point : PromptPoint)
      (hpoint : (call.point = .checkingActive ∧ point = .requiringSecret) ∨
        (call.point = .requiringSecret ∧ point = .checkingBudget) ∨
        (call.point = .checkingBudget ∧ point = .registering)) :
      Moved (call.goTo point) session spends
  | registered (hpoint : call.point = .registering) :
      Moved (call.goTo .checkingPending)
        { session with active := some ⟨call.prompt.attemptId, index⟩ } spends
  | withdrawn (hpoint : call.point = .checkingPending) (failure : ProviderFailure) :
      Moved (call.goTo (.clearingActive (.error failure))) session spends
  | dispatched (hpoint : call.point = .checkingPending)
      (hpending : call.prompt.attemptId ∉ session.pendingCancellations) :
      Moved { call with point := .awaitingTransport, sent := true } session spends
  | unanswered (hpoint : call.point = .awaitingTransport) (error : OpenRouterError)
      (herror : chatCompletion config.formats config.transport answer.network = .error error) :
      Moved
        { call with
          point := .clearingActive (.error (error.intoProviderFailure error.kind.isPreDispatch))
          sent := mayHaveSent config.transport answer.network
          response := arrived config.formats config.transport answer.network } session spends
  | answered (hpoint : call.point = .awaitingTransport) (result : TransportResult) :
      Moved { call with point := .responded result, response := some result } session spends
  | panicked (result : TransportResult) (hpoint : call.point = .responded result)
      (hsettle : settle config.formats call.cancel result = none) :
      Moved (call.goTo .panicked) { session with setup := none } spends
  | unsuccessful (result : TransportResult) (hpoint : call.point = .responded result)
      (failure : ProviderFailure)
      (hsettle : settle config.formats call.cancel result = some (.fails failure)) :
      Moved (call.goTo (.clearingActive (.error failure))) session spends
  | completed (result : TransportResult) (hpoint : call.point = .responded result)
      (outputs : List ProviderOutput) (spend : Nat)
      (hsettle : settle config.formats call.cancel result = some (.completes outputs spend)) :
      Moved (call.goTo (.recording outputs spend)) session spends
  | recorded (outputs : List ProviderOutput) (spend : Nat)
      (hpoint : call.point = .recording outputs spend) (point : PromptPoint)
      (hafter : point = .persisting outputs ∨
        point = .clearingActive (.ok (completedOutputs outputs))) :
      Moved (call.goTo point) session fun other =>
        if other = call.prompt.sessionId then saturatingAdd (spends other) spend else spends other
  | unrecorded (outputs : List ProviderOutput) (hpoint : call.point = .persisting outputs)
      (error : OpenRouterError) (herror : answer.persisted = .error error) :
      Moved
        (call.goTo (.returned (.error (error.intoProviderFailure true))))
        { session with setup := none } spends
  | persisted (outputs : List ProviderOutput) (hpoint : call.point = .persisting outputs) :
      Moved (call.goTo (.clearingActive (.ok (completedOutputs outputs)))) session spends
  | clearedActive (outcome : Outcome) (hpoint : call.point = .clearingActive outcome) :
      Moved (call.goTo (.clearingPending outcome))
        { session with
          active := session.active.filter
            fun current => current.attemptId ≠ call.prompt.attemptId } spends
  | clearedPending (outcome : Outcome) (hpoint : call.point = .clearingPending outcome) :
      Moved (call.goTo (.returned outcome))
        { session with
          pendingCancellations := session.pendingCancellations.filter (· ≠ call.prompt.attemptId)
          setup := none } spends

theorem moved_of_goOn {config : AdapterConfig} {index : Nat} {answer : Answer} {call : PromptCall}
    {session : LocalSession} {spends : Spends} {after : PromptCall × LocalSession × Spends}
    (h : call.goOn config index answer session spends = some after) :
    Moved config index answer call session spends after.1 after.2.1 after.2.2 := by
  unfold goOn at h
  split at h
  case h_1 | h_2 | h_3 | h_4 => cases h
  case h_5 hpoint =>
    split at h
    · next hfree =>
      cases h
      exact .locked hpoint hfree
    · cases h
  case h_6 hpoint =>
    split at h
    · cases h
      exact .refused _ (by simp [hpoint])
    · cases h
      exact .prepared _ (by simp [hpoint])
  case h_7 hpoint =>
    split at h
    · cases h
      exact .refused _ (by simp [hpoint])
    · cases h
      exact .prepared _ (by simp [hpoint])
  case h_8 hpoint =>
    split at h
    · cases h
      exact .refused _ (by simp [hpoint])
    · cases h
      exact .prepared _ (by simp [hpoint])
  case h_9 hpoint =>
    cases h
    exact .registered hpoint
  case h_10 hpoint =>
    split at h
    · cases h
      exact .withdrawn hpoint _
    · next hpending =>
      cases h
      exact .dispatched hpoint hpending
  case h_11 hpoint =>
    split at h
    · next error herror =>
      cases h
      exact .unanswered hpoint error herror
    · next result hresult =>
      cases h
      exact .answered hpoint result
  case h_12 result hpoint =>
    split at h
    · next hsettle =>
      cases h
      exact .panicked result hpoint hsettle
    · next failure hsettle =>
      cases h
      exact .unsuccessful result hpoint failure hsettle
    · next outputs spend hsettle =>
      cases h
      exact .completed result hpoint outputs spend hsettle
  case h_13 outputs spend hpoint =>
    cases h
    exact .recorded outputs spend hpoint _ (by cases config.durable <;> simp)
  case h_14 outputs hpoint =>
    split at h
    · next error herror =>
      cases h
      exact .unrecorded outputs hpoint error herror
    · cases h
      exact .persisted outputs hpoint
  case h_15 outcome hpoint =>
    cases h
    exact .clearedActive outcome hpoint
  case h_16 outcome hpoint =>
    cases h
    exact .clearedPending outcome hpoint

end PromptCall

/-! ## Steps of the adapter -/

namespace AdapterState

/-- The session that the map holds for a handle. -/
def lookup (s : AdapterState) (handle : Nat) : Option LocalSession :=
  (s.sessions[handle]?).filter LocalSession.mapped

def setPrompt (s : AdapterState) (index : Nat) (call : PromptCall) : AdapterState :=
  { s with prompts := s.prompts.set index call }

def setCancel (s : AdapterState) (index : Nat) (call : CancelCall) : AdapterState :=
  { s with cancels := s.cancels.set index call }

def runPrompt (config : AdapterConfig) (s : AdapterState) (index : Nat) (answer : Answer)
    (call : PromptCall) : Option AdapterState :=
  match call.point with
  | .entering =>
    if s.shuttingDown then
      some (s.setPrompt index (call.goTo (.returned (.error (OpenRouterError.intoProviderFailure
        ⟨.shuttingDown, "OpenRouter adapter is shutting down"⟩ true)))))
    else some (s.setPrompt index (call.goTo .lookingUp))
  | .lookingUp =>
    match s.lookup call.handle with
    | none =>
      some (s.setPrompt index (call.goTo (.returned (.error (OpenRouterError.intoProviderFailure
        ⟨.unavailable, "unknown provider session"⟩ true)))))
    | some _ => some (s.setPrompt index (call.goTo .locking))
  | _ =>
    (s.sessions[call.handle]?).bind fun session =>
      (call.goOn config index answer session s.spends).map fun (call', session', spends') =>
        { s with
          sessions := s.sessions.set call.handle session'
          prompts := s.prompts.set index call'
          spends := spends' }

def runCancel (s : AdapterState) (index : Nat) (call : CancelCall) : Option AdapterState :=
  match call.point with
  | .lookingUp =>
    match s.lookup call.handle with
    | none => some (s.setCancel index { call with point := .returned .unconfirmed })
    | some _ => some (s.setCancel index { call with point := .inserting })
  | .inserting =>
    (s.sessions[call.handle]?).map fun session =>
      { s with
        sessions := s.sessions.set call.handle { session with
          pendingCancellations := call.attemptId :: session.pendingCancellations }
        cancels := s.cancels.set index { call with point := .readingActive } }
  | .readingActive =>
    (s.sessions[call.handle]?).map fun session =>
      match session.active.filter fun active => active.attemptId = call.attemptId with
      | some active => s.setCancel index { call with point := .storing active.cancel }
      | none => s.setCancel index { call with point := .returned .unconfirmed }
  | .storing flag =>
    (s.prompts[flag]?).map fun prompt =>
      (s.setPrompt flag { prompt with cancel := true }).setCancel index
        { call with point := .returned .confirmed }
  | .returned _ => none

def step (config : AdapterConfig) (s : AdapterState) : AdapterAction → Option AdapterState
  | .startSession =>
    -- also after shutdown: the flag may have been read before it was set
    some { s with sessions := s.sessions ++ [⟨true, none, none, []⟩] }
  | .shutDown => some { s with shuttingDown := true }
  | .clearSessions =>
    if s.shuttingDown then
      some { s with sessions := s.sessions.map fun session => { session with mapped := false } }
    else none
  | .promptStream handle prompt =>
    some { s with prompts := s.prompts ++ [⟨handle, prompt, .entering, false, false, none⟩] }
  | .cancel handle attemptId =>
    some { s with cancels := s.cancels ++ [⟨handle, attemptId, .lookingUp⟩] }
  | .runPrompt index answer => (s.prompts[index]?).bind (s.runPrompt config index answer)
  | .runCancel index => (s.cancels[index]?).bind (s.runCancel index)

variable (config : AdapterConfig) (s : AdapterState) in
/-- What a step of the adapter can do. -/
inductive Stepped : AdapterAction → AdapterState → Prop where
  | startSession :
      Stepped .startSession { s with sessions := s.sessions ++ [⟨true, none, none, []⟩] }
  | shutDown : Stepped .shutDown { s with shuttingDown := true }
  | clearSessions :
      Stepped .clearSessions
        { s with sessions := s.sessions.map fun session => { session with mapped := false } }
  | promptStream (handle : Nat) (prompt : ProviderPrompt) :
      Stepped (.promptStream handle prompt)
        { s with prompts := s.prompts ++ [⟨handle, prompt, .entering, false, false, none⟩] }
  | cancel (handle attemptId : Nat) :
      Stepped (.cancel handle attemptId)
        { s with cancels := s.cancels ++ [⟨handle, attemptId, .lookingUp⟩] }
  /-- A prompt goes on, or fails, before it has its session. -/
  | arrives (index : Nat) (answer : Answer) (call : PromptCall)
      (hcall : s.prompts[index]? = some call) (hpoint : call.point ∈ [.entering, .lookingUp])
      (point : PromptPoint)
      (hafter : point ∈ [.lookingUp, .locking] ∨ ∃ failure, point = .returned (.error failure)) :
      Stepped (.runPrompt index answer) (s.setPrompt index (call.goTo point))
  | moves (index : Nat) (answer : Answer) (call : PromptCall)
      (hcall : s.prompts[index]? = some call) (session : LocalSession)
      (hsession : s.sessions[call.handle]? = some session) (call' : PromptCall)
      (session' : LocalSession) (spends' : Spends)
      (hmoved : PromptCall.Moved config index answer call session s.spends call' session' spends') :
      Stepped (.runPrompt index answer)
        { s with
          sessions := s.sessions.set call.handle session'
          prompts := s.prompts.set index call'
          spends := spends' }
  /-- A cancellation goes on without touching anything. -/
  | cancelGoesOn (index : Nat) (call : CancelCall) (hcall : s.cancels[index]? = some call)
      (point : CancelPoint) (hafter : point ∈ [.inserting, .returned .unconfirmed]) :
      Stepped (.runCancel index) (s.setCancel index { call with point := point })
  | cancelInserts (index : Nat) (call : CancelCall) (hcall : s.cancels[index]? = some call)
      (session : LocalSession) (hsession : s.sessions[call.handle]? = some session) :
      Stepped (.runCancel index)
        { s with
          sessions := s.sessions.set call.handle { session with
            pendingCancellations := call.attemptId :: session.pendingCancellations }
          cancels := s.cancels.set index { call with point := .readingActive } }
  | cancelFinds (index : Nat) (call : CancelCall) (hcall : s.cancels[index]? = some call)
      (hpoint : call.point = .readingActive) (session : LocalSession)
      (hsession : s.sessions[call.handle]? = some session) (flag : Nat)
      (hactive : session.active = some ⟨call.attemptId, flag⟩) :
      Stepped (.runCancel index) (s.setCancel index { call with point := .storing flag })
  | cancelStores (index : Nat) (call : CancelCall) (hcall : s.cancels[index]? = some call)
      (flag : Nat) (hpoint : call.point = .storing flag) (prompt : PromptCall)
      (hprompt : s.prompts[flag]? = some prompt) :
      Stepped (.runCancel index)
        ((s.setPrompt flag { prompt with cancel := true }).setCancel index
          { call with point := .returned .confirmed })

variable {config : AdapterConfig} {s s' : AdapterState}

theorem stepped_of_runPrompt {index : Nat} {answer : Answer} {call : PromptCall}
    (hcall : s.prompts[index]? = some call) (h : s.runPrompt config index answer call = some s') :
    Stepped config s (.runPrompt index answer) s' := by
  unfold runPrompt at h
  split at h
  iterate 2
    · next hpoint =>
      have hin : call.point ∈ [.entering, .lookingUp] := by simp [hpoint]
      split at h
      · cases h
        exact .arrives index answer call hcall hin _ (.inr ⟨_, rfl⟩)
      · cases h
        exact .arrives index answer call hcall hin _ (.inl (by simp))
  · obtain ⟨session, hsession, hmap⟩ := Option.bind_eq_some_iff.mp h
    obtain ⟨after, hafter, rfl⟩ := Option.map_eq_some_iff.mp hmap
    exact .moves index answer call hcall session hsession _ _ _ (PromptCall.moved_of_goOn hafter)

theorem stepped_of_runCancel {index : Nat} {call : CancelCall}
    (hcall : s.cancels[index]? = some call) (h : s.runCancel index call = some s') :
    Stepped config s (.runCancel index) s' := by
  unfold runCancel at h
  split at h
  · split at h
    · cases h
      exact .cancelGoesOn index call hcall _ (by simp)
    · cases h
      exact .cancelGoesOn index call hcall _ (by simp)
  · obtain ⟨session, hsession, rfl⟩ := Option.map_eq_some_iff.mp h
    exact .cancelInserts index call hcall session hsession
  · next hpoint =>
    obtain ⟨session, hsession, rfl⟩ := Option.map_eq_some_iff.mp h
    split
    · next active hactive =>
      obtain ⟨hactive, hattempt⟩ := Option.filter_eq_some_iff.mp hactive
      refine .cancelFinds index call hcall hpoint session hsession active.cancel ?_
      rw [hactive, ← of_decide_eq_true hattempt]
    · exact .cancelGoesOn index call hcall _ (by simp)
  · next flag hpoint =>
    obtain ⟨prompt, hprompt, rfl⟩ := Option.map_eq_some_iff.mp h
    exact .cancelStores index call hcall flag hpoint prompt hprompt
  · cases h

theorem stepped_of_step {action : AdapterAction} (h : s.step config action = some s') :
    Stepped config s action s' := by
  cases action with
  | startSession =>
    cases h
    exact .startSession
  | shutDown =>
    cases h
    exact .shutDown
  | clearSessions =>
    simp only [step] at h
    split at h
    · cases h
      exact .clearSessions
    · cases h
  | promptStream handle prompt =>
    cases h
    exact .promptStream handle prompt
  | cancel handle attemptId =>
    cases h
    exact .cancel handle attemptId
  | runPrompt =>
    obtain ⟨call, hcall, hrun⟩ := Option.bind_eq_some_iff.mp h
    exact stepped_of_runPrompt hcall hrun
  | runCancel =>
    obtain ⟨call, hcall, hrun⟩ := Option.bind_eq_some_iff.mp h
    exact stepped_of_runCancel hcall hrun

/-- An adapter without sessions over a ledger. -/
def connected (spends : Spends) : AdapterState := ⟨false, [], [], [], spends⟩

end AdapterState

end Workbench.Openrouter
