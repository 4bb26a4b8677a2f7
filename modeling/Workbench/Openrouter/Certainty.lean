import Workbench.Openrouter.Adapter

/-!
# Openrouter: certainty of reported outcomes

A definite failure and a confirmed cancellation say that no paid request is out.  The
adapter keeps that promise as long as no cancellation finds an attempt that is already on
its way, the spend of a completed response can be written, and no error frame is cut within
a character.  Then the active slot names a call only while it is registered, and a confirmed
cancellation is about an attempt that its own call will find cancelled before dispatch.
-/

namespace Workbench.Openrouter

open Library Workbench.Core List Option

/-! ## One call and its session -/

/-- The active slot of the session may name the call. -/
def PromptPoint.isRegistered : PromptPoint → Bool
  | .checkingPending | .awaitingTransport | .responded _ | .recording .. | .persisting _
  | .clearingActive _ => true
  | _ => false

def PromptPoint.isEnded : PromptPoint → Bool
  | .returned _ | .panicked => true
  | _ => false

/-- An outcome that says for certain that the attempt failed. -/
def isDefinite : Outcome → Bool
  | .error failure => failure.definite
  | .ok _ => false

/-- The call has returned a definite failure. -/
def PromptPoint.isDefiniteFailure : PromptPoint → Bool
  | .returned outcome => isDefinite outcome
  | _ => false

/-- The active slot names a call only while it is registered, by its own attempt. -/
def Tied (index : Nat) (call : PromptCall) (session : LocalSession) : Prop :=
  ∀ attemptId, session.active = some ⟨attemptId, index⟩ →
    call.point.isRegistered ∧ attemptId = call.prompt.attemptId

namespace PromptCall

/-- What a call says, or is about to say, agrees with what it has sent. -/
def isHonest (call : PromptCall) : Bool :=
  match call.point with
  | .entering | .lookingUp | .locking | .checkingActive | .requiringSecret | .checkingBudget
  | .registering | .checkingPending => !call.sent
  | .awaitingTransport | .responded _ | .recording .. | .persisting _ => call.sent
  | .clearingActive outcome | .clearingPending outcome | .returned outcome =>
    !isDefinite outcome || !call.sent
  | .panicked => true

/-- A call that will never send: a cancellation is pending at its check, or it is on its way out. -/
def IsDoomed (call : PromptCall) (pending : List Nat) : Prop :=
  call.sent = false ∧
    match call.point with
    | .checkingPending => call.prompt.attemptId ∈ pending
    | .clearingActive _ | .clearingPending _ | .returned _ => True
    | _ => False

theorem IsDoomed.mono {call : PromptCall} {pending more : List Nat} (h : call.IsDoomed pending)
    (hmore : call.prompt.attemptId ∈ pending → call.prompt.attemptId ∈ more) :
    call.IsDoomed more := by
  obtain ⟨hsent, hpoint⟩ := h
  refine ⟨hsent, ?_⟩
  split at hpoint
  · exact hmore hpoint
  · trivial
  · trivial
  · trivial
  · exact hpoint.elim

/-- The active slot stays: the spend is not written, or an error message is cut in a character. -/
def isAbrupt (config : AdapterConfig) (answer : Answer) (call : PromptCall) : Bool :=
  match call.point with
  | .persisting _ => !answer.persisted.toBool
  | .responded result => (decodeBody config.formats result.body).isNone
  | _ => false

namespace Moved

/-- A response is a definite failure only for a call whose flag was set. -/
theorem definite_of_settle {formats : TextFormats} {result : TransportResult}
    {failure : ProviderFailure} (h : settle formats false result = some (.fails failure)) :
    failure.definite = false := by
  obtain ⟨decoded, -, hfails⟩ := map_eq_some_iff.mp h
  revert hfails
  cases decoded with
  | error error =>
    rintro ⟨⟩
    rfl
  | ok decoded =>
    dsimp only
    split
    · rintro ⟨⟩
      rfl
    · split
      · nofun
      · rintro ⟨⟩
        rfl

variable {config : AdapterConfig} {index : Nat} {answer : Answer} {call call' : PromptCall}
  {session session' : LocalSession} {spends spends' : Spends}
  (h : Moved config index answer call session spends call' session' spends')

include h

theorem handle_eq : call'.handle = call.handle := by
  cases h <;> rfl

theorem prompt_eq : call'.prompt = call.prompt := by
  cases h <;> rfl

theorem cancel_eq : call'.cancel = call.cancel := by
  cases h <;> rfl

/-- Only a call that has not ended moves. -/
theorem isEnded_eq : call.point.isEnded = false := by
  cases h with
  | refused _ hpoint => obtain hpoint | hpoint | hpoint := hpoint <;> rw [hpoint] <;> rfl
  | prepared _ hpoint =>
    obtain ⟨hpoint, -⟩ | ⟨hpoint, -⟩ | ⟨hpoint, -⟩ := hpoint <;> rw [hpoint] <;> rfl
  | locked hpoint | registered hpoint | withdrawn hpoint | dispatched hpoint | unanswered hpoint
  | answered hpoint | panicked _ hpoint | unsuccessful _ hpoint | completed _ hpoint
  | recorded _ _ hpoint | unrecorded _ hpoint | persisted _ hpoint | clearedActive _ hpoint
  | clearedPending _ hpoint =>
    rw [hpoint]
    rfl

/-- The only entry a call puts into the active slot is its own. -/
theorem active_cases {active : ActiveAttempt} (hactive : session'.active = some active) :
    (active = ⟨call.prompt.attemptId, index⟩ ∧ call'.point.isRegistered) ∨
      session.active = some active := by
  cases h with
  | registered => exact .inl ⟨(some.inj hactive).symm, rfl⟩
  | clearedActive => exact .inr (filter_eq_some_iff.mp hactive).1
  | _ => exact .inr hactive

/-- A call that was registered stays so until it has cleared the slot. -/
theorem isRegistered_cases
    (hsmooth : call.isAbrupt config answer = false) (hregistered : call.point.isRegistered) :
    call'.point.isRegistered ∨
      session'.active = session.active.filter
        fun current => current.attemptId ≠ call.prompt.attemptId := by
  cases h with
  | locked hpoint | registered hpoint | clearedPending _ hpoint =>
    exact absurd hregistered (by rw [hpoint]; nofun)
  | refused _ hpoint =>
    obtain hpoint | hpoint | hpoint := hpoint <;> exact absurd hregistered (by rw [hpoint]; nofun)
  | prepared _ hpoint =>
    obtain ⟨hpoint, -⟩ | ⟨hpoint, -⟩ | ⟨hpoint, -⟩ := hpoint <;>
      exact absurd hregistered (by rw [hpoint]; nofun)
  | recorded _ _ _ _ hafter => obtain rfl | rfl := hafter <;> exact .inl rfl
  | panicked result hpoint hsettle =>
    rw [isAbrupt, hpoint] at hsmooth
    change (decodeBody config.formats result.body).isNone = false at hsmooth
    unfold settle at hsettle
    split at hsettle
    · cases hsettle
    · rw [map_eq_none_iff.mp hsettle] at hsmooth
      cases hsmooth
  | unrecorded _ hpoint _ herror =>
    rw [isAbrupt, hpoint, herror] at hsmooth
    cases hsmooth
  | clearedActive => exact .inr rfl
  | withdrawn | dispatched | unanswered | answered | unsuccessful | completed | persisted =>
    exact .inl rfl

/-- Only the attempt of a call that ends can lose its pending cancellation. -/
theorem pending_cases {attemptId : Nat} (hpending : attemptId ∈ session.pendingCancellations) :
    attemptId ∈ session'.pendingCancellations ∨
      (attemptId = call.prompt.attemptId ∧ call'.point.isEnded) := by
  cases h with
  | clearedPending =>
    by_cases heq : attemptId = call.prompt.attemptId
    · exact .inr ⟨heq, rfl⟩
    · exact .inl (mem_filter.mpr ⟨hpending, by simpa using heq⟩)
  | _ => exact .inl hpending

theorem isDoomed (hdoomed : call.IsDoomed session.pendingCancellations) :
    call'.IsDoomed session'.pendingCancellations := by
  obtain ⟨hsent, hpoint⟩ := hdoomed
  cases h with
  | withdrawn | clearedActive | clearedPending | refused => exact ⟨hsent, trivial⟩
  | dispatched hat hpending =>
    rw [hat] at hpoint
    exact absurd hpoint hpending
  | prepared _ hat =>
    obtain ⟨hat, -⟩ | ⟨hat, -⟩ | ⟨hat, -⟩ := hat <;> rw [hat] at hpoint <;> exact hpoint.elim
  | locked hat | registered hat | unanswered hat | answered hat | panicked _ hat
  | unsuccessful _ hat | completed _ hat | recorded _ _ hat | unrecorded _ hat | persisted _ hat =>
    rw [hat] at hpoint
    exact hpoint.elim

/-- A call whose flag is only set before it sends stays honest. -/
theorem isHonest (hsmooth : call.isAbrupt config answer = false)
    (hflag : call.sent → call.cancel = false) (hhonest : call.isHonest) :
    call'.isHonest := by
  unfold PromptCall.isHonest at hhonest
  cases h with
  | locked hpoint | registered hpoint | answered hpoint | completed _ hpoint
  | clearedActive _ hpoint | clearedPending _ hpoint =>
    rw [hpoint] at hhonest
    exact hhonest
  | refused _ hpoint =>
    have hsent : (!call.sent) := by
      obtain hpoint | hpoint | hpoint := hpoint <;> rw [hpoint] at hhonest <;> exact hhonest
    show (!true || !call.sent) = true
    rw [hsent]
    rfl
  | prepared _ hpoint =>
    obtain ⟨hpoint, rfl⟩ | ⟨hpoint, rfl⟩ | ⟨hpoint, rfl⟩ := hpoint <;>
      rw [hpoint] at hhonest <;> exact hhonest
  | withdrawn hpoint failure =>
    rw [hpoint] at hhonest
    change (!call.sent) = true at hhonest
    show (!failure.definite || !call.sent) = true
    rw [hhonest, Bool.or_true]
  | dispatched | panicked | persisted => rfl
  | unanswered _ error herror =>
    cases hkind : error.kind.isPreDispatch with
    | false => rfl
    | true =>
      rw [mayHaveSent_of_isPreDispatch herror hkind]
      rfl
  | unsuccessful _ hpoint failure hsettle =>
    rw [hpoint] at hhonest
    rw [hflag hhonest] at hsettle
    show (!failure.definite || !call.sent) = true
    rw [definite_of_settle hsettle]
    rfl
  | recorded _ _ hpoint _ hafter =>
    rw [hpoint] at hhonest
    obtain rfl | rfl := hafter
    · exact hhonest
    · rfl
  | unrecorded _ hpoint _ herror =>
    rw [isAbrupt, hpoint, herror] at hsmooth
    cases hsmooth

end Moved

end PromptCall

/-! ## Steps that leave the sessions' calls alone -/

/-- A call that has not found its session goes on or gives up; any other one stays. -/
structure QuietCall (call call' : PromptCall) : Prop where
  handle : call'.handle = call.handle
  prompt : call'.prompt = call.prompt
  sent : call'.sent = call.sent
  point : call'.point = call.point ∨ (call.point ∈ [.entering, .lookingUp] ∧
    (call'.point ∈ [.lookingUp, .locking] ∨ ∃ failure, call'.point = .returned (.error failure)))

structure QuietSession (session session' : LocalSession) : Prop where
  active : session'.active = session.active
  pending : ∀ attemptId ∈ session.pendingCancellations, attemptId ∈ session'.pendingCancellations

theorem QuietCall.refl (call : PromptCall) : QuietCall call call := ⟨rfl, rfl, rfl, .inl rfl⟩

theorem QuietSession.refl (session : LocalSession) : QuietSession session session :=
  ⟨rfl, fun _ => id⟩

/-- A call that has just been made. -/
def IsNewCall (call : PromptCall) : Prop :=
  call.point = .entering ∧ call.sent = false ∧ call.cancel = false

def IsNewSession (session : LocalSession) : Prop := session.active = none

namespace QuietCall

variable {call call' : PromptCall} (h : QuietCall call call')

include h

theorem isRegistered_eq : call'.point.isRegistered = call.point.isRegistered := by
  obtain hsame | ⟨hfrom, hto⟩ := h.point
  · rw [hsame]
  · simp only [mem_cons, not_mem_nil, or_false] at hfrom hto
    obtain hfrom | hfrom := hfrom <;> obtain (hto | hto) | ⟨_, hto⟩ := hto <;>
      rw [hfrom, hto] <;> rfl

theorem isEnded (hended : call.point.isEnded) : call'.point.isEnded := by
  obtain hsame | ⟨hfrom, -⟩ := h.point
  · rw [hsame]
    exact hended
  · simp only [mem_cons, not_mem_nil, or_false] at hfrom
    obtain hfrom | hfrom := hfrom <;> rw [hfrom] at hended <;> cases hended

theorem isHonest (hhonest : call.isHonest) : call'.isHonest := by
  unfold PromptCall.isHonest at hhonest ⊢
  rw [h.sent]
  obtain hsame | ⟨hfrom, hto⟩ := h.point
  · rw [hsame]
    exact hhonest
  · simp only [mem_cons, not_mem_nil, or_false] at hfrom hto
    have hsent : (!call.sent) := by
      obtain hfrom | hfrom := hfrom <;> rw [hfrom] at hhonest <;> exact hhonest
    obtain (hto | hto) | ⟨_, hto⟩ := hto <;> rw [hto] <;> simp [hsent]

theorem isDoomed {pending : List Nat} (hdoomed : call.IsDoomed pending) :
    call'.IsDoomed pending := by
  obtain ⟨hsent, hpoint⟩ := hdoomed
  refine ⟨h.sent.trans hsent, ?_⟩
  obtain hsame | ⟨hfrom, -⟩ := h.point
  · rw [hsame, h.prompt]
    exact hpoint
  · simp only [mem_cons, not_mem_nil, or_false] at hfrom
    obtain hfrom | hfrom := hfrom <;> rw [hfrom] at hpoint <;> exact hpoint.elim

end QuietCall

namespace AdapterState

structure Quietly (s s' : AdapterState) : Prop where
  prompts : PoolKept QuietCall IsNewCall s.prompts s'.prompts
  sessions : PoolKept QuietSession IsNewSession s.sessions s'.sessions

/-- A call moves in its session, and the state with it. -/
structure MovesTo (config : AdapterConfig) (s : AdapterState) (index : Nat) (answer : Answer)
    (call : PromptCall) (session : LocalSession) (call' : PromptCall) (session' : LocalSession)
    (s' : AdapterState) : Prop where
  hcall : s.prompts[index]? = some call
  hsession : s.sessions[call.handle]? = some session
  moved : PromptCall.Moved config index answer call session s.spends call' session' s'.spends
  prompts : s'.prompts = s.prompts.set index call'
  sessions : s'.sessions = s.sessions.set call.handle session'
  cancels : s'.cancels = s.cancels

/-- Every step but those of a call in its session is quiet. -/
theorem Stepped.quietly {config : AdapterConfig} {s s' : AdapterState} {action : AdapterAction}
    (h : Stepped config s action s') :
    Quietly s s' ∨ ∃ index answer call session call' session', action = .runPrompt index answer ∧
      MovesTo config s index answer call session call' session' s' := by
  have hprompts : PoolKept QuietCall IsNewCall s.prompts s.prompts := .refl QuietCall.refl _
  have hsessions : PoolKept QuietSession IsNewSession s.sessions s.sessions :=
    .refl QuietSession.refl _
  cases h with
  | startSession => exact .inl ⟨hprompts, .concat QuietSession.refl rfl⟩
  | shutDown | cancel | cancelGoesOn | cancelFinds => exact .inl ⟨hprompts, hsessions⟩
  | clearSessions => exact .inl ⟨hprompts, .map fun _ => ⟨rfl, fun _ => id⟩⟩
  | promptStream =>
    exact .inl ⟨.concat QuietCall.refl ⟨rfl, rfl, rfl⟩, hsessions⟩
  | arrives _ _ _ hcall hpoint _ hafter =>
    exact .inl ⟨.set QuietCall.refl hcall ⟨rfl, rfl, rfl, .inr ⟨hpoint, hafter⟩⟩, hsessions⟩
  | moves index answer call hcall session hsession call' session' _ hmoved =>
    exact .inr ⟨index, answer, call, session, call', session', rfl, hcall, hsession, hmoved,
      rfl, rfl, rfl⟩
  | cancelInserts _ _ _ _ hsession =>
    exact .inl ⟨hprompts, .set QuietSession.refl hsession ⟨rfl, fun _ => mem_cons_of_mem _⟩⟩
  | cancelStores _ _ _ _ _ _ hprompt =>
    exact .inl ⟨.set QuietCall.refl hprompt ⟨rfl, rfl, rfl, .inl rfl⟩, hsessions⟩

/-! ## The invariant -/

/-- A call that its session will turn away before it sends. -/
def Doomed (s : AdapterState) (call : PromptCall) : Prop :=
  ∃ session, s.sessions[call.handle]? = some session ∧ call.IsDoomed session.pendingCancellations

/-- A cancellation that has been announced, or whose attempt is over. -/
def Announced (s : AdapterState) (handle attemptId : Nat) : Prop :=
  (∃ session, s.sessions[handle]? = some session ∧ attemptId ∈ session.pendingCancellations) ∨
    ∃ (index : Nat) (call : PromptCall), s.prompts[index]? = some call ∧
      call.prompt.attemptId = attemptId ∧ call.point.isEnded

/-- The attempt that a cancellation has found will not be sent. -/
def Forestalled (s : AdapterState) (flag attemptId : Nat) : Prop :=
  ∃ call, s.prompts[flag]? = some call ∧ call.prompt.attemptId = attemptId ∧ s.Doomed call

/-- What a call of `cancel` relies on. -/
def CancelMeets (s : AdapterState) (cancel : CancelCall) : Prop :=
  match cancel.point with
  | .lookingUp | .inserting | .returned .unconfirmed => True
  | .readingActive => s.Announced cancel.handle cancel.attemptId
  | .storing flag => s.Forestalled flag cancel.attemptId
  | .returned .confirmed => ∃ flag, s.Forestalled flag cancel.attemptId

structure Sound (s : AdapterState) : Prop where
  tied : ∀ (index : Nat) (call : PromptCall) (session : LocalSession),
    s.prompts[index]? = some call → s.sessions[call.handle]? = some session →
    Tied index call session
  owned : ∀ (handle : Nat) (session : LocalSession) (active : ActiveAttempt),
    s.sessions[handle]? = some session → session.active = some active →
    ∃ call, s.prompts[active.cancel]? = some call ∧ call.handle = handle
  distinct : ∀ (first second : Nat) (call other : PromptCall), s.prompts[first]? = some call →
    s.prompts[second]? = some other → call.prompt.attemptId = other.prompt.attemptId →
    first = second
  honest : ∀ (index : Nat) (call : PromptCall), s.prompts[index]? = some call → call.isHonest
  flagged : ∀ (index : Nat) (call : PromptCall), s.prompts[index]? = some call →
    call.cancel → s.Doomed call
  cancels : ∀ (index : Nat) (cancel : CancelCall), s.cancels[index]? = some cancel →
    s.CancelMeets cancel

/-- A session's active slot names one of its calls, which is registered for that attempt. -/
def SlotsRegistered (s : AdapterState) : Prop :=
  ∀ (handle : Nat) (session : LocalSession) (active : ActiveAttempt),
    s.sessions[handle]? = some session → session.active = some active →
    ∃ call, s.prompts[active.cancel]? = some call ∧ call.handle = handle ∧
      call.point.isRegistered ∧ active.attemptId = call.prompt.attemptId

variable {s : AdapterState}

theorem Sound.registered (hsound : s.Sound) : s.SlotsRegistered := by
  intro handle session active hsession hactive
  obtain ⟨call, hcall, rfl⟩ := hsound.owned handle session active hsession hactive
  exact ⟨call, hcall, rfl, hsound.tied _ call session hcall hsession active.attemptId hactive⟩

theorem SlotsRegistered.tied (hslots : s.SlotsRegistered) (index : Nat)
    (call : PromptCall) (session : LocalSession) (hcall : s.prompts[index]? = some call)
    (hsession : s.sessions[call.handle]? = some session) : Tied index call session := by
  intro attemptId hactive
  obtain ⟨found, hfound, -, hholds⟩ := hslots _ session _ hsession hactive
  obtain rfl := some.inj (hcall.symm.trans hfound)
  exact hholds

theorem SlotsRegistered.owned (hslots : s.SlotsRegistered) (handle : Nat)
    (session : LocalSession) (active : ActiveAttempt)
    (hsession : s.sessions[handle]? = some session)
    (hactive : session.active = some active) :
    ∃ call, s.prompts[active.cancel]? = some call ∧ call.handle = handle := by
  obtain ⟨call, hcall, hhandle, -⟩ := hslots handle session active hsession hactive
  exact ⟨call, hcall, hhandle⟩

/-- Attempts are prompted once, none is cancelled between slot and check, and no exit is abrupt. -/
def Careful (config : AdapterConfig) (s : AdapterState) : AdapterAction → Prop
  | .promptStream _ prompt => ∀ call ∈ s.prompts, call.prompt.attemptId ≠ prompt.attemptId
  | .runPrompt index answer =>
    ∀ call ∈ s.prompts[index]?, call.isAbrupt config answer = false
  | .runCancel index =>
    ∀ cancel ∈ s.cancels[index]?, cancel.point = .readingActive →
    ∀ session ∈ s.sessions[cancel.handle]?, ∀ active ∈ session.active,
    active.attemptId = cancel.attemptId → ∀ call ∈ s.prompts[active.cancel]?, call.sent = false
  | _ => True

instance (config : AdapterConfig) (s : AdapterState) (action : AdapterAction) :
    Decidable (s.Careful config action) := by
  cases action <;> unfold Careful <;> infer_instance

section

variable {s s' : AdapterState} (h : Quietly s s')

include h

theorem Quietly.doomed {index : Nat} {call : PromptCall} (hcall : s.prompts[index]? = some call)
    (hdoomed : s.Doomed call) :
    ∃ call', s'.prompts[index]? = some call' ∧ call'.prompt = call.prompt ∧ s'.Doomed call' := by
  obtain ⟨session, hsession, hdoomed⟩ := hdoomed
  obtain ⟨call', hcall', hquiet⟩ := h.prompts.forth hcall
  obtain ⟨session', hsession', hquietSession⟩ := h.sessions.forth hsession
  refine ⟨call', hcall', hquiet.prompt, session', by rw [hquiet.handle]; exact hsession', ?_⟩
  exact (hquiet.isDoomed hdoomed).mono (hquietSession.pending _)

theorem Quietly.announced {handle attemptId : Nat} (hannounced : s.Announced handle attemptId) :
    s'.Announced handle attemptId := by
  obtain ⟨session, hsession, hpending⟩ | ⟨index, call, hcall, hattempt, hended⟩ := hannounced
  · obtain ⟨session', hsession', hquiet⟩ := h.sessions.forth hsession
    exact .inl ⟨session', hsession', hquiet.pending _ hpending⟩
  · obtain ⟨call', hcall', hquiet⟩ := h.prompts.forth hcall
    refine .inr ⟨index, call', hcall', ?_, hquiet.isEnded hended⟩
    rw [hquiet.prompt]
    exact hattempt

theorem Quietly.registered (hslots : s.SlotsRegistered) : s'.SlotsRegistered := by
  intro handle session' active hsession' hactive
  obtain ⟨-, hnew⟩ | ⟨session, hsession, hquiet⟩ := h.sessions.back hsession'
  · rw [hnew] at hactive
    cases hactive
  rw [hquiet.active] at hactive
  obtain ⟨call, hcall, hholds⟩ := hslots handle session active hsession hactive
  obtain ⟨call', hcall', hquiet⟩ := h.prompts.forth hcall
  refine ⟨call', hcall', ?_⟩
  rw [hquiet.handle, hquiet.isRegistered_eq, hquiet.prompt]
  exact hholds

theorem Quietly.honest (hsound : s.Sound) {index : Nat} {call' : PromptCall}
    (hcall' : s'.prompts[index]? = some call') : call'.isHonest := by
  obtain ⟨-, hnew, hsent, -⟩ | ⟨call, hcall, hquiet⟩ := h.prompts.back hcall'
  · rw [PromptCall.isHonest, hnew]
    simp [hsent]
  · exact hquiet.isHonest (hsound.honest index call hcall)

end

section

variable {config : AdapterConfig} {s s' : AdapterState} {index : Nat} {answer : Answer}
  {call call' : PromptCall} {session session' : LocalSession}
  (h : MovesTo config s index answer call session call' session' s')

include h

theorem MovesTo.prompt_self : s'.prompts[index]? = some call' := by
  rw [h.prompts]
  exact getElem?_set_self (List.getElem?_eq_some_iff.mp h.hcall).1

theorem MovesTo.session_self : s'.sessions[call.handle]? = some session' := by
  rw [h.sessions]
  exact getElem?_set_self (List.getElem?_eq_some_iff.mp h.hsession).1

variable {place handle : Nat} {other : PromptCall} {found : LocalSession}

theorem MovesTo.prompt_ne (hne : place ≠ index) : s'.prompts[place]? = s.prompts[place]? := by
  rw [h.prompts]
  exact getElem?_set_ne (Ne.symm hne)

theorem MovesTo.session_ne (hne : handle ≠ call.handle) :
    s'.sessions[handle]? = s.sessions[handle]? := by
  rw [h.sessions]
  exact getElem?_set_ne (Ne.symm hne)

theorem MovesTo.doomed (hsound : s.Sound) (hother : s.prompts[place]? = some other)
    (hdoomed : s.Doomed other) :
    ∃ other', s'.prompts[place]? = some other' ∧
      other'.prompt = other.prompt ∧ s'.Doomed other' := by
  obtain ⟨found, hfound, hdoomed⟩ := hdoomed
  by_cases hplace : place = index
  · subst hplace
    obtain rfl := some.inj (h.hcall.symm.trans hother)
    obtain rfl := some.inj (h.hsession.symm.trans hfound)
    refine ⟨call', h.prompt_self, h.moved.prompt_eq, session', ?_, h.moved.isDoomed hdoomed⟩
    rw [h.moved.handle_eq]
    exact h.session_self
  · refine ⟨other, by rw [h.prompt_ne hplace]; exact hother, rfl, ?_⟩
    by_cases hhandle : other.handle = call.handle
    · rw [hhandle] at hfound
      obtain rfl := some.inj (h.hsession.symm.trans hfound)
      refine ⟨session', by rw [hhandle]; exact h.session_self, hdoomed.mono fun hpending => ?_⟩
      obtain hstill | ⟨hattempt, -⟩ := h.moved.pending_cases hpending
      · exact hstill
      · exact absurd (hsound.distinct place index other call hother h.hcall hattempt) hplace
    · exact ⟨found, by rw [h.session_ne hhandle]; exact hfound, hdoomed⟩

theorem MovesTo.announced {attemptId : Nat} (hannounced : s.Announced handle attemptId) :
    s'.Announced handle attemptId := by
  obtain ⟨found, hfound, hpending⟩ | ⟨place, other, hother, hattempt, hended⟩ := hannounced
  · by_cases hhandle : handle = call.handle
    · rw [hhandle] at hfound ⊢
      obtain rfl := some.inj (h.hsession.symm.trans hfound)
      obtain hstill | ⟨hattempt, hended⟩ := h.moved.pending_cases hpending
      · exact .inl ⟨session', h.session_self, hstill⟩
      · exact .inr ⟨index, call', h.prompt_self, by rw [h.moved.prompt_eq, hattempt], hended⟩
    · exact .inl ⟨found, by rw [h.session_ne hhandle]; exact hfound, hpending⟩
  · refine .inr ⟨place, other, ?_, hattempt, hended⟩
    rw [h.prompt_ne]
    · exact hother
    · rintro rfl
      obtain rfl := some.inj (h.hcall.symm.trans hother)
      rw [h.moved.isEnded_eq] at hended
      cases hended

theorem MovesTo.registered (hsmooth : call.isAbrupt config answer = false)
    (hslots : s.SlotsRegistered) : s'.SlotsRegistered := by
  intro handle found active hfound hactive
  -- a call that does not move holds its slot as before
  have hother : ∀ other, s.prompts[active.cancel]? = some other → active.cancel ≠ index →
      s'.prompts[active.cancel]? = some other := fun other hother hplace => by
    rw [h.prompt_ne hplace]
    exact hother
  rw [h.sessions] at hfound
  obtain ⟨rfl, rfl⟩ | ⟨hhandle, hfound⟩ := getElem?_set_cases hfound
  · obtain ⟨rfl, hregistered⟩ | hbefore := h.moved.active_cases hactive
    · exact ⟨call', h.prompt_self, h.moved.handle_eq, hregistered, by rw [h.moved.prompt_eq]⟩
    obtain ⟨other, hcall, hin, hregistered, hattempt⟩ := hslots _ _ _ h.hsession hbefore
    by_cases hplace : active.cancel = index
    · obtain rfl := some.inj (h.hcall.symm.trans (hplace ▸ hcall))
      refine ⟨call', hplace ▸ h.prompt_self, h.moved.handle_eq, ?_,
        by rw [h.moved.prompt_eq, hattempt]⟩
      obtain hstill | hcleared := h.moved.isRegistered_cases hsmooth hregistered
      · exact hstill
      · rw [hcleared, hbefore] at hactive
        simp [hattempt] at hactive
    · exact ⟨other, hother other hcall hplace, hin, hregistered, hattempt⟩
  · obtain ⟨other, hcall, hholds⟩ := hslots _ _ _ hfound hactive
    refine ⟨other, hother other hcall fun hplace => ?_, hholds⟩
    obtain rfl := some.inj (h.hcall.symm.trans (hplace ▸ hcall))
    exact hhandle hholds.1.symm

theorem MovesTo.honest (hsound : s.Sound) (hsmooth : call.isAbrupt config answer = false)
    (hother : s'.prompts[place]? = some other) : other.isHonest := by
  rw [h.prompts] at hother
  obtain ⟨-, rfl⟩ | ⟨-, hother⟩ := getElem?_set_cases hother
  · refine h.moved.isHonest hsmooth (fun hsent => ?_) (hsound.honest index call h.hcall)
    -- a flag is set only for a call that sends nothing
    by_contra hflag
    obtain ⟨_, -, hdoomed⟩ := hsound.flagged index call h.hcall (Bool.not_eq_false _ ▸ hflag)
    rw [hdoomed.1] at hsent
    cases hsent
  · exact hsound.honest place other hother

end

/-! ## Runs -/

section

variable {config : AdapterConfig} {s s' : AdapterState} {action : AdapterAction} {index : Nat}

/-- A doomed call stays doomed, whoever steps. -/
theorem Sound.later_doomed (hsound : s.Sound) (hstep : Stepped config s action s')
    {call : PromptCall} (hcall : s.prompts[index]? = some call) (hdoomed : s.Doomed call) :
    ∃ call', s'.prompts[index]? = some call' ∧ call'.prompt = call.prompt ∧ s'.Doomed call' := by
  obtain hquiet | ⟨_, _, _, _, _, _, -, hmoves⟩ := hstep.quietly
  · exact hquiet.doomed hcall hdoomed
  · exact hmoves.doomed hsound hcall hdoomed

theorem Sound.later_forestalled (hsound : s.Sound) (hstep : Stepped config s action s')
    {flag attemptId : Nat} (h : s.Forestalled flag attemptId) : s'.Forestalled flag attemptId := by
  obtain ⟨call, hcall, hattempt, hdoomed⟩ := h
  obtain ⟨call', hcall', hprompt, hdoomed'⟩ := hsound.later_doomed hstep hcall hdoomed
  exact ⟨call', hcall', by rw [hprompt]; exact hattempt, hdoomed'⟩

variable {cancel : CancelCall}

/-- What a cancellation relies on stays so while it waits. -/
theorem Sound.later_cancelMeets (hsound : s.Sound) (hstep : Stepped config s action s')
    (h : s.CancelMeets cancel) : s'.CancelMeets cancel := by
  unfold CancelMeets at h ⊢
  split
  · trivial
  · trivial
  · trivial
  · next hpoint =>
    rw [hpoint] at h
    obtain hquiet | ⟨_, _, _, _, _, _, -, hmoves⟩ := hstep.quietly
    · exact hquiet.announced h
    · exact hmoves.announced h
  · next flag hpoint =>
    rw [hpoint] at h
    exact hsound.later_forestalled hstep h
  · next hpoint =>
    rw [hpoint] at h
    obtain ⟨flag, hforestalled⟩ := h
    exact ⟨flag, hsound.later_forestalled hstep hforestalled⟩

/-- A cancellation that finds an unsent attempt finds it before its check, or on its way out. -/
theorem Sound.forestalled_of_found (hsound : s.Sound) {session : LocalSession} {flag : Nat}
    (hannounced : s.Announced cancel.handle cancel.attemptId)
    (hsession : s.sessions[cancel.handle]? = some session)
    (hactive : session.active = some ⟨cancel.attemptId, flag⟩)
    (hunsent : ∀ call, s.prompts[flag]? = some call → call.sent = false) :
    s.Forestalled flag cancel.attemptId := by
  obtain ⟨call, hcall, hhandle, hregistered, hattempt⟩ :=
    hsound.registered _ session _ hsession hactive
  have hin : s.sessions[call.handle]? = some session := hhandle ▸ hsession
  have hsent := hunsent call hcall
  have hhonest := hsound.honest flag call hcall
  have hpending : cancel.attemptId ∈ session.pendingCancellations := by
    obtain ⟨found, hfound, hpending⟩ | ⟨other, ended, hended, hsame, hover⟩ := hannounced
    · obtain rfl := some.inj (hsession.symm.trans hfound)
      exact hpending
    -- the only call of the attempt has not ended
    obtain rfl := hsound.distinct other flag ended call hended hcall (hsame.trans hattempt)
    obtain rfl := some.inj (hcall.symm.trans hended)
    revert hregistered hover
    cases call.point <;> nofun
  refine ⟨call, hcall, hattempt.symm, session, hin, hsent, ?_⟩
  unfold PromptCall.isHonest at hhonest
  rw [hsent] at hhonest
  revert hregistered hhonest
  cases call.point with
  | checkingPending => exact fun _ _ => hattempt ▸ hpending
  | clearingActive => exact fun _ _ => trivial
  | _ => nofun

variable (hstep : Stepped config s action s')
include hstep

/-- Only `prompt_stream` adds a prompt; only a cancellation that found a call sets its flag. -/
theorem Stepped.prompt_back {call' : PromptCall} (hcall' : s'.prompts[index]? = some call') :
    (∃ call, s.prompts[index]? = some call ∧ call'.prompt = call.prompt ∧
        (call'.cancel = call.cancel ∨
          ∃ (place : Nat) (cancel : CancelCall), s.cancels[place]? = some cancel ∧
            cancel.point = .storing index)) ∨
      (index = s.prompts.length ∧ (∃ handle, action = .promptStream handle call'.prompt) ∧
        call'.cancel = false) := by
  cases hstep with
  | promptStream handle =>
    obtain ⟨hindex, rfl⟩ | hcall := getElem?_concat_cases hcall'
    · exact .inr ⟨hindex, ⟨handle, rfl⟩, rfl⟩
    · exact .inl ⟨call', hcall, rfl, .inl rfl⟩
  | startSession | shutDown | clearSessions | cancel | cancelGoesOn | cancelInserts
  | cancelFinds => exact .inl ⟨call', hcall', rfl, .inl rfl⟩
  | arrives _ _ call hcall =>
    obtain ⟨rfl, rfl⟩ | ⟨-, hcall⟩ := getElem?_set_cases hcall'
    · exact .inl ⟨call, hcall, rfl, .inl rfl⟩
    · exact .inl ⟨call', hcall, rfl, .inl rfl⟩
  | moves _ _ call hcall _ _ _ _ _ hmoved =>
    obtain ⟨rfl, rfl⟩ | ⟨-, hcall⟩ := getElem?_set_cases hcall'
    · exact .inl ⟨call, hcall, hmoved.prompt_eq, .inl hmoved.cancel_eq⟩
    · exact .inl ⟨call', hcall, rfl, .inl rfl⟩
  | cancelStores place cancel hcancel _ hpoint prompt hprompt =>
    obtain ⟨rfl, rfl⟩ | ⟨-, hcall⟩ := getElem?_set_cases hcall'
    · exact .inl ⟨prompt, hprompt, rfl, .inr ⟨place, cancel, hcancel, hpoint⟩⟩
    · exact .inl ⟨call', hcall, rfl, .inl rfl⟩

theorem Sound.flagged_step (hsound : s.Sound)
    {call' : PromptCall} (hcall' : s'.prompts[index]? = some call') (hflag : call'.cancel) :
    s'.Doomed call' := by
  have hbefore : ∀ call : PromptCall, s.prompts[index]? = some call → s.Doomed call →
      s'.Doomed call' := by
    intro call hcall hdoomed
    obtain ⟨found, hfound, -, hdoomed'⟩ := hsound.later_doomed hstep hcall hdoomed
    obtain rfl := some.inj (hfound.symm.trans hcall')
    exact hdoomed'
  obtain ⟨call, hcall, -, hsame | ⟨place, cancel, hcancel, hpoint⟩⟩ | ⟨-, -, hnew⟩ :=
    hstep.prompt_back hcall'
  · exact hbefore call hcall (hsound.flagged index call hcall (hsame ▸ hflag))
  · have hmeets := hsound.cancels place cancel hcancel
    rw [CancelMeets, hpoint] at hmeets
    obtain ⟨found, hfound, -, hdoomed⟩ := hmeets
    exact hbefore found hfound hdoomed
  · rw [hnew] at hflag
    cases hflag

theorem Sound.distinct_step (hsound : s.Sound) (hallowed : s.Careful config action)
    {first second : Nat} {call other : PromptCall} (hcall : s'.prompts[first]? = some call)
    (hother : s'.prompts[second]? = some other)
    (hsame : call.prompt.attemptId = other.prompt.attemptId) : first = second := by
  have hfresh : ∀ (place : Nat) (old new : PromptCall) (handle : Nat),
      s.prompts[place]? = some old → action = .promptStream handle new.prompt →
      old.prompt.attemptId ≠ new.prompt.attemptId := by
    rintro place old new handle hold rfl
    exact hallowed old (mem_of_getElem? hold)
  obtain ⟨before, hbefore, hprompt, -⟩ | ⟨hfirst, ⟨handle, haction⟩, -⟩ := hstep.prompt_back hcall
  · obtain ⟨before', hbefore', hprompt', -⟩ | ⟨-, ⟨handle, haction⟩, -⟩ := hstep.prompt_back hother
    · rw [hprompt, hprompt'] at hsame
      exact hsound.distinct first second before before' hbefore hbefore' hsame
    · rw [hprompt] at hsame
      exact absurd hsame (hfresh first before other handle hbefore haction)
  · obtain ⟨before', hbefore', hprompt', -⟩ | ⟨hsecond, -⟩ := hstep.prompt_back hother
    · rw [hprompt'] at hsame
      exact absurd hsame.symm (hfresh second before' call handle hbefore' haction)
    · rw [hfirst, hsecond]

theorem Sound.cancels_step (hsound : s.Sound) (hallowed : s.Careful config action)
    (hcancel : s'.cancels[index]? = some cancel) : s'.CancelMeets cancel := by
  have hkept : s.cancels[index]? = some cancel → s'.CancelMeets cancel := fun hbefore =>
    hsound.later_cancelMeets hstep (hsound.cancels index cancel hbefore)
  have hlater : ∀ {flag attemptId : Nat}, s.Forestalled flag attemptId →
      s'.Forestalled flag attemptId := hsound.later_forestalled hstep
  cases hstep with
  | startSession | shutDown | clearSessions | promptStream | arrives | moves => exact hkept hcancel
  | cancel =>
    obtain ⟨-, rfl⟩ | hbefore := getElem?_concat_cases hcancel
    · trivial
    · exact hkept hbefore
  | cancelGoesOn _ _ _ _ hafter =>
    obtain ⟨-, rfl⟩ | ⟨-, hbefore⟩ := getElem?_set_cases hcancel
    · simp only [mem_cons, not_mem_nil, or_false] at hafter
      obtain rfl | rfl := hafter <;> trivial
    · exact hkept hbefore
  | cancelInserts _ _ _ _ hsession =>
    obtain ⟨-, rfl⟩ | ⟨-, hbefore⟩ := getElem?_set_cases hcancel
    · exact .inl ⟨_, getElem?_set_self (List.getElem?_eq_some_iff.mp hsession).1,
        mem_cons_self⟩
    · exact hkept hbefore
  | cancelFinds place call hcall hpoint session hsession _ hactive =>
    obtain ⟨-, rfl⟩ | ⟨-, hbefore⟩ := getElem?_set_cases hcancel
    · have hmeets := hsound.cancels place call hcall
      rw [CancelMeets, hpoint] at hmeets
      exact hsound.forestalled_of_found hmeets hsession hactive
        (hallowed call hcall hpoint session hsession _ hactive rfl)
    · exact hkept hbefore
  | cancelStores place call hcall flag hpoint =>
    obtain ⟨-, rfl⟩ | ⟨-, hbefore⟩ := getElem?_set_cases hcancel
    · have hmeets := hsound.cancels place call hcall
      rw [CancelMeets, hpoint] at hmeets
      exact ⟨flag, hlater hmeets⟩
    · exact hkept hbefore

theorem Sound.step (hsound : s.Sound) (hallowed : s.Careful config action) : s'.Sound := by
  have hdistinct := @Sound.distinct_step config s s' action hstep hsound hallowed
  obtain hquiet | ⟨index, answer, call, session, call', session', rfl, hmoves⟩ := hstep.quietly
  · have hslots := hquiet.registered hsound.registered
    exact ⟨hslots.tied, hslots.owned, fun _ _ _ _ => hdistinct, fun _ _ => hquiet.honest hsound,
      fun _ _ => hsound.flagged_step hstep, fun _ _ => hsound.cancels_step hstep hallowed⟩
  · have hsmooth : call.isAbrupt config answer = false := hallowed call hmoves.hcall
    have hslots := hmoves.registered hsmooth hsound.registered
    exact ⟨hslots.tied, hslots.owned, fun _ _ _ _ => hdistinct,
      fun _ _ => hmoves.honest hsound hsmooth,
      fun _ _ => hsound.flagged_step hstep, fun _ _ => hsound.cancels_step hstep hallowed⟩

end

theorem sound_connected (spends : Spends) : (connected spends).Sound := by
  have hprompts : ∀ index : Nat, (connected spends).prompts[index]? = none := fun _ => rfl
  have hsessions : ∀ handle : Nat, (connected spends).sessions[handle]? = none := fun _ => rfl
  have hcancels : ∀ index : Nat, (connected spends).cancels[index]? = none := fun _ => rfl
  constructor <;> simp [hprompts, hsessions, hcancels]

/-- The adapter's answers: a definite failure and a confirmed cancellation are about attempts whose
request is not out, and active slots name calls that still run. -/
structure Certain (s : AdapterState) : Prop where
  failures : ∀ call ∈ s.prompts, call.point.isDefiniteFailure → call.sent = false
  cancellations : ∀ cancel ∈ s.cancels, cancel.point = .returned .confirmed →
    ∀ call ∈ s.prompts, call.prompt.attemptId = cancel.attemptId → call.sent = false
  slots : ∀ session ∈ s.sessions, ∀ active ∈ session.active,
    ∃ call ∈ s.prompts[active.cancel]?, call.point.isEnded = false

theorem Sound.certain (hsound : s.Sound) : s.Certain := by
  refine ⟨fun call hcall hdefinite => ?_, fun cancel hcancel hpoint call hcall hsame => ?_,
    fun session hsession active hactive => ?_⟩
  · obtain ⟨index, hcall⟩ := mem_iff_getElem?.mp hcall
    have hhonest := hsound.honest index call hcall
    unfold PromptCall.isHonest at hhonest
    revert hdefinite hhonest
    cases call.point with
    | returned outcome =>
      intro hdefinite hhonest
      change isDefinite outcome = true at hdefinite
      simpa [hdefinite] using hhonest
    | _ => nofun
  · obtain ⟨index, hcall⟩ := mem_iff_getElem?.mp hcall
    obtain ⟨place, hcancel⟩ := mem_iff_getElem?.mp hcancel
    have hmeets := hsound.cancels place cancel hcancel
    rw [CancelMeets, hpoint] at hmeets
    obtain ⟨flag, found, hfound, hattempt, _, -, hdoomed⟩ := hmeets
    obtain rfl := hsound.distinct index flag call found hcall hfound (hsame.trans hattempt.symm)
    obtain rfl := some.inj (hfound.symm.trans hcall)
    exact hdoomed.1
  · obtain ⟨handle, hsession⟩ := mem_iff_getElem?.mp hsession
    obtain ⟨call, hcall, -, hregistered, -⟩ :=
      hsound.registered handle session active hsession hactive
    refine ⟨call, hcall, ?_⟩
    revert hregistered
    cases call.point <;> first | exact fun _ => rfl | nofun

/-- In every run in which each attempt is prompted once, no cancellation looks at one that is on
its way, and no exit is abrupt, the adapter's answers can be relied on. -/
theorem adapter_certain (config : AdapterConfig) (spends : Spends) (s : AdapterState)
    (hreach : Reaches (step config) (Careful config) (connected spends) s) : s.Certain :=
  Sound.certain (hreach.invariant (sound_connected spends) fun _ _ _ hsound hallowed hstep =>
    hsound.step (stepped_of_step hstep) hallowed)

/-! ## Runs against the in-process fake -/

/-- UTF-8 restricted to ASCII, and no JSON at all. -/
def asciiFormats : TextFormats where
  fromUtf8 bytes := some (bytes.map fun byte => Char.ofNat byte.toNat)
  fromStr _ := none
  f64ToUsdMicros _ := 0

def offlineConfig : AdapterConfig where
  formats := asciiFormats
  transport := ⟨true, "fake://openrouter"⟩
  policy := ⟨1000000, none⟩
  durable := true

/-- The world answers well, with a response that completes. -/
def wellAnswered : Answer where
  secret := .ok (some "key")
  network := ⟨.stream [] (.object []), .connectFailed⟩
  persisted := .ok ()

def ledgerFails : Answer :=
  { wellAnswered with persisted := .error ⟨.unavailable, "cost ledger persist failed"⟩ }

theorem text_ne_empty : "text" ≠ "" := by decide

def offlinePrompt : ProviderPrompt := ⟨1, 5, "model", ⟨"text", text_ne_empty⟩⟩

/-- A session, one prompt in it, and so many of its steps. -/
def promptSteps (steps : Nat) : List AdapterAction :=
  [.startSession, .promptStream 0 offlinePrompt] ++ replicate steps (.runPrompt 0 wellAnswered)

/-- One cancellation of the attempt, from its call to its return. -/
def cancelSteps : List AdapterAction := [.cancel 0 5] ++ replicate 4 (.runCancel 0)

/-- Cancelled between registration and check, the attempt fails for certain; nothing was sent. -/
theorem cancelled_before_dispatch :
    ∃ s, Reaches (step offlineConfig) (Careful offlineConfig) (connected fun _ => 0) s ∧
      (∃ call ∈ s.prompts, call.point.isDefiniteFailure) ∧
      (∃ cancel ∈ s.cancels, cancel.point = .returned .confirmed) ∧ s.Certain := by
  obtain ⟨s, hreach, hfailed, hconfirmed⟩ :=
    @exists_reaches_of_execute _ _ (step offlineConfig) (Careful offlineConfig) _
      (connected fun _ => 0)
      (promptSteps 7 ++ cancelSteps ++ replicate 3 (.runPrompt 0 wellAnswered))
      (fun s => (∃ call ∈ s.prompts, call.point.isDefiniteFailure = true) ∧
        ∃ cancel ∈ s.cancels, cancel.point = .returned .confirmed) (by decide +kernel)
  exact ⟨s, hreach, hfailed, hconfirmed, adapter_certain offlineConfig _ s hreach⟩

/-- Cancelled while its request is out, the attempt is confirmed as cancelled and fails
for certain when the response is there; and where the spend of a completed response cannot
be written, the attempt fails for certain and stays in the active slot. -/
theorem sent_attempt_denied :
    (∃ s, Reaches (step offlineConfig) anyAction (connected fun _ => 0) s ∧
      (∃ call ∈ s.prompts, call.prompt.attemptId = 5 ∧ call.sent ∧
        call.point.isDefiniteFailure) ∧
      ∃ cancel ∈ s.cancels, cancel.attemptId = 5 ∧ cancel.point = .returned .confirmed) ∧
    ∃ s, Reaches (step offlineConfig) anyAction (connected fun _ => 0) s ∧
      (∃ call ∈ s.prompts, call.sent ∧ call.point.isDefiniteFailure) ∧
      ∃ session ∈ s.sessions, session.active = some ⟨5, 0⟩ ∧ session.setup = none := by
  refine ⟨exists_reaches_of_execute (promptSteps 8 ++ cancelSteps ++
    replicate 4 (.runPrompt 0 wellAnswered)) (by decide +kernel),
    exists_reaches_of_execute (promptSteps 11 ++ [.runPrompt 0 ledgerFails]) (by decide +kernel)⟩

end AdapterState

end Workbench.Openrouter
