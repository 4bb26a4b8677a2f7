import Workbench.Daemon.Effects

/-!
# Daemon: attempts are drawn before they are named

An attempt gets its id from the counter of its session.  Whatever a session, its execution
or its tasks name later has been drawn.
-/

namespace Workbench.Daemon

open Workbench.Core Config Storage Library List

/-! ## Ids -/

/-- The attempts that a step names. -/
def attemptsOf (effects : List Effect) (next : Option Point) : List Uuid :=
  effects.flatMap Effect.attempts ++ (next.bind Point.attempt?).toList

/-- Every attempt that a session names has an id below the bound. -/
structure Below (bound : Uuid) (s : Session) : Prop where
  events : ∀ attempt ∈ namedAttempts s.events, attempt < bound
  active : ∀ execution, s.active = some execution → execution.attempt < bound
  tasks : ∀ point ∈ s.tasks, ∀ attempt, point.attempt? = some attempt → attempt < bound

section

variable {bound : Uuid} {s s' : Session} {effects : List Effect} {next : Option Point}
  {attempt : Uuid}

namespace Below

variable (h : Below bound s)
include h

theorem mono {larger : Uuid} (hle : bound ≤ larger) : Below larger s where
  events attempt hmem := Nat.lt_of_lt_of_le (h.events attempt hmem) hle
  active execution hactive := Nat.lt_of_lt_of_le (h.active execution hactive) hle
  tasks point hmem attempt hattempt := Nat.lt_of_lt_of_le (h.tasks point hmem attempt hattempt) hle

theorem apply {effect : Effect} (heffect : ∀ attempt ∈ effect.attempts, attempt < bound) :
    Below bound (s.apply effect) := by
  have hevents : ∀ batch, (∀ attempt ∈ namedAttempts batch, attempt < bound) →
      ∀ attempt ∈ namedAttempts (s.events ++ batch), attempt < bound := by
    intro batch hbatch attempt hmem
    rw [namedAttempts_append, mem_append] at hmem
    rcases hmem with hmem | hmem
    · exact h.events attempt hmem
    · exact hbatch attempt hmem
  cases effect with
  | commit =>
    refine ⟨hevents _ ?_, h.active, h.tasks⟩
    cases s.row with
    | none => exact fun _ hmem => (nomatch hmem)
    | some column => exact heffect
  | spawn =>
    refine ⟨h.events, h.active, fun other hmem attempt hattempt => ?_⟩
    rcases mem_append.mp hmem with hmem | hmem
    · exact h.tasks other hmem attempt hattempt
    · rw [mem_singleton.mp hmem] at hattempt
      exact heffect attempt (Option.mem_toList.mpr hattempt)
  | activate execution =>
    refine ⟨h.events, fun found hfound => ?_, h.tasks⟩
    cases hfound
    exact heffect execution.attempt mem_cons_self
  | deactivate => exact ⟨h.events, fun _ hfound => (nomatch hfound), h.tasks⟩
  | claimCancel =>
    refine ⟨h.events, fun found hfound => ?_, h.tasks⟩
    obtain ⟨execution, hexecution, rfl⟩ := Option.map_eq_some_iff.mp hfound
    exact h.active execution hexecution
  | requestDeletion | insertSession =>
    exact ⟨hevents _ (fun _ hmem => (nomatch hmem)), h.active, h.tasks⟩
  | finishDeletion => exact ⟨fun _ hmem => (nomatch hmem), h.active, h.tasks⟩
  | _ => exact ⟨h.events, h.active, h.tasks⟩

theorem after (heffects : ∀ attempt ∈ effects.flatMap Effect.attempts, attempt < bound) :
    Below bound (s.after effects) := by
  induction effects generalizing s with
  | nil => exact h
  | cons effect rest ih =>
    exact ih (h.apply fun attempt hmem => heffects attempt (mem_append_left _ hmem))
      fun attempt hmem => heffects attempt (mem_append_right _ hmem)

theorem settle (hnext : ∀ attempt ∈ (next.bind Point.attempt?).toList, attempt < bound) :
    Below bound (s.settle next) := by
  refine ⟨h.events, h.active, fun point hmem attempt hattempt => ?_⟩
  rcases mem_append.mp hmem with hmem | hmem
  · exact h.tasks point hmem attempt hattempt
  · rw [Option.mem_toList.mp hmem] at hnext
    exact hnext attempt (Option.mem_toList.mpr hattempt)

/-- A session that names nothing else. -/
theorem of_subset (hevents : s'.events = s.events)
    (hactive : s'.active = s.active ∨ s'.active = none)
    (htasks : ∀ point ∈ s'.tasks, point ∈ s.tasks) :
    Below bound s' where
  events := hevents ▸ h.events
  active execution hexecution := by
    rcases hactive with heq | heq
    · exact h.active execution (heq ▸ hexecution)
    · rw [heq] at hexecution
      cases hexecution
  tasks point hmem := h.tasks point (htasks point hmem)

end Below

end

/-! ## The attempts that a step names -/

variable (s : Session) (point : Point) in
/-- Where an attempt comes from: it is drawn, worked on, active, or named in the history. -/
inductive Known : Uuid → Prop where
  | new : Known s.nextId
  | task (attempt : Uuid) (hattempt : point.attempt? = some attempt) : Known attempt
  | active (execution : ActiveExecution) (hactive : s.active = some execution) :
      Known execution.attempt
  | named (attempt : Uuid) (hmem : attempt ∈ namedAttempts s.events) : Known attempt

theorem Known.le {s : Session} {point : Point} {attempt : Uuid} (h : Known s point attempt)
    (hbelow : Below s.nextId s)
    (hpoint : ∀ attempt, point.attempt? = some attempt → attempt < s.nextId) :
    attempt ≤ s.nextId := by
  cases h with
  | new => exact Nat.le_refl _
  | task _ hattempt => exact Nat.le_of_lt (hpoint attempt hattempt)
  | active execution hactive => exact Nat.le_of_lt (hbelow.active execution hactive)
  | named _ hmem => exact Nat.le_of_lt (hbelow.events attempt hmem)

theorem foldSession_eq_ok {history : List Event} {folded : FoldedSession}
    (h : foldSession history = .ok folded) :
    history.foldl FoldedSession.next .initial = folded := by
  unfold foldSession at h
  split at h
  · exact Except.ok.inj h
  · cases h

theorem uncertainAttempt_recorded (events : List Event) {attempt : Uuid}
    (h : (events.foldl FoldedSession.next .initial).uncertainAttemptId = some attempt) :
    ∃ unknown ∈ events, (∃ reason, unknown.payload = .outcomeUnknown reason) ∧
      unknown.attempt = some attempt := by
  induction events using reverseRecOn with
  | nil => cases h
  | append_singleton events event ih =>
    rw [foldl_concat] at h
    generalize events.foldl FoldedSession.next .initial = folded at h ih
    have hkept : folded.uncertainAttemptId = some attempt →
        ∃ unknown ∈ events ++ [event], (∃ reason, unknown.payload = .outcomeUnknown reason) ∧
          unknown.attempt = some attempt := by
      intro huncertain
      obtain ⟨unknown, hmem, hunknown⟩ := ih huncertain
      exact ⟨unknown, mem_append_left _ hmem, hunknown⟩
    unfold FoldedSession.next at h
    cases hpayload : event.payload with
    | outcomeUnknown reason =>
      rw [hpayload] at h
      exact ⟨event, by simp, ⟨reason, hpayload⟩, h⟩
    | outcomeReconciled => rw [hpayload] at h; cases h
    | sessionRedirected =>
      rw [hpayload] at h
      dsimp only at h
      split at h <;> exact hkept h
    | _ =>
      rw [hpayload] at h
      exact hkept h

section

variable {env : Environment} {s : Session} {point : Point} {response : Response}
  {effects : List Effect} {next : Option Point} {attempt : Uuid}

attribute [local simp] attemptsOf Effect.attempts namedAttempts Point.attempt? Job.execution
  dispatchEvents

@[simp] theorem failureEvent_attempt (state : SessionState) (request attempt : Uuid)
    (failure : ProviderFailure) :
    (failureEvent state request attempt failure).attempt = some attempt := by
  unfold failureEvent
  split <;> rfl

theorem attemptsOf_none (effects : List Effect) :
    attemptsOf effects none = effects.flatMap Effect.attempts := append_nil _

theorem attempts_take {cut : Nat}
    (h : attempt ∈ (effects.take cut).flatMap Effect.attempts) :
    attempt ∈ effects.flatMap Effect.attempts := by
  obtain ⟨effect, hmem, hattempt⟩ := mem_flatMap.mp h
  exact mem_flatMap.mpr ⟨effect, mem_of_mem_take hmem, hattempt⟩

theorem attempts_eachAlone {events : List Event} {cut : Nat}
    (h : attempt ∈ (eachAlone events cut).flatMap Effect.attempts) :
    attempt ∈ namedAttempts events := by
  obtain ⟨effect, hmem, hattempt⟩ := mem_flatMap.mp (attempts_take h)
  obtain ⟨event, hevent, rfl⟩ := mem_map.mp hmem
  obtain ⟨single, hsingle, hattempt⟩ := mem_filterMap.mp hattempt
  rw [mem_singleton.mp hsingle] at hattempt
  exact mem_namedAttempts hevent hattempt

variable {found : Uuid}

theorem Activation.attempts_eq {causation : Uuid} (h : Activation s causation attempt effects next)
    (hmem : found ∈ attemptsOf effects next) : found = attempt := by
  cases h with
  | refused => cases hmem
  | fake => exact mem_singleton.mp hmem
  | start _ _ hattempt => exact (mem_singleton.mp hmem).trans hattempt
  | unavailable => simpa using hmem

/-- A command that activates an attempt names it and what its own events name. -/
theorem attemptsOf_cons {effect : Effect} (h : attempt ∈ attemptsOf (effect :: effects) next) :
    attempt ∈ effect.attempts ∨ attempt ∈ attemptsOf effects next := by
  unfold attemptsOf at h ⊢
  rw [flatMap_cons, append_assoc, mem_append] at h
  exact h

theorem Quiet.attemptsOf {known : Uuid → Prop} (h : Quiet known effects)
    (hmem : attempt ∈ attemptsOf effects none) : known attempt := by
  rw [attemptsOf_none] at hmem
  exact h.named hmem

theorem Session.Uncertain.recorded (h : s.Uncertain attempt) :
    ∃ unknown ∈ s.events, (∃ reason, unknown.payload = .outcomeUnknown reason) ∧
      unknown.attempt = some attempt := by
  obtain ⟨folded, hfold, -, huncertain⟩ := h
  obtain rfl := foldSession_eq_ok hfold
  exact uncertainAttempt_recorded s.events huncertain

theorem Session.Uncertain.named (h : s.Uncertain attempt) : attempt ∈ namedAttempts s.events := by
  obtain ⟨unknown, hmem, _, hattempt⟩ := h.recorded
  exact mem_namedAttempts hmem hattempt

theorem CommandCommit.known {request : Uuid} {command : Command} {batch : List Event}
    {outcome : Outcome} (h : CommandCommit s request command batch outcome)
    (hmem : found ∈ namedAttempts batch) : Known s (.command request command) found := by
  cases h with
  | prompt text _ _ target tail _ htail =>
    have hprompt : namedAttempts (promptEvents request s.nextId text s.events target) = [] := by
      unfold promptEvents
      split
      · split <;> rfl
      · rfl
    have htail' : namedAttempts tail = [] := by cases htail <;> rfl
    rw [namedAttempts_append, hprompt, htail'] at hmem
    cases hmem
  | grant =>
    obtain rfl : found = s.nextId := by simpa using hmem
    exact .new
  | retry attempt _ _ huncertain =>
    obtain rfl | rfl : found = attempt ∨ found = s.nextId := by simpa using hmem
    · exact .named _ huncertain.named
    · exact .new
  | acceptResult attempt _ _ _ huncertain | abandon attempt _ _ _ huncertain =>
    obtain rfl : found = attempt := by simpa using hmem
    exact .named _ huncertain.named
  | _ => cases hmem

theorem CommandPlan.known {request : Uuid} {command : Command}
    (h : CommandPlan s request command effects next) (hmem : found ∈ attemptsOf effects next) :
    Known s (.command request command) found := by
  cases h with
  | quiet | pauseRun | resumeFake | relock => cases hmem
  | commits _ _ _ _ hcommit =>
    rcases attemptsOf_cons hmem with hmem | hmem
    · exact hcommit.known hmem
    · cases hmem
  | resumeRun _ _ _ _ hrest => rcases hrest with rfl | rfl <;> cases hmem
  | cancelReplay =>
    have hmem : found ∈ (latestStartedAttempt s.events).toList := by
      simpa using hmem
    exact .named _ (started_named (latestStartedAttempt_mem (Option.mem_toList.mp hmem)))
  | cancelAttempt _ _ attempt _ _ hattempt =>
    obtain rfl : found = attempt := mem_singleton.mp hmem
    cases hactive : s.active with
    | none =>
      rw [hactive] at hattempt
      exact .named _ (started_named (latestStartedAttempt_mem hattempt))
    | some execution =>
      rw [hactive] at hattempt
      obtain rfl := Option.some.inj hattempt
      exact .active execution hactive
  | activates _ _ _ _ _ _ _ hcommit _ hrest =>
    rcases attemptsOf_cons hmem with hmem | hmem
    · exact hcommit.known hmem
    · rw [hrest.attempts_eq hmem]
      exact .new
  | replayGrant _ _ _ _ _ _ _ _ hlatest _ heffects =>
    rw [heffects.attempts_eq hmem]
    exact .named _ (started_named (latestStartedAttempt_mem hlatest))
  | exportBundle _ _ _ heffects => exact (quiet_exports heffects).any.attemptsOf hmem
  | delete _ _ _ _ _ heffects => exact heffects.quiet.any.attemptsOf hmem

theorem Plan.known (h : Plan env s point response effects next)
    (hmem : found ∈ attemptsOf effects next) : Known s point found := by
  have htask : ∀ {attempt}, point.attempt? = some attempt → (∀ found ∈ attemptsOf effects next,
      found = attempt) → Known s point found := by
    intro attempt hattempt hall
    rw [hall found hmem]
    exact .task attempt hattempt
  cases h with
  | command _ _ _ _ hplan => exact hplan.known hmem
  | quiet | stepRefused => cases hmem
  | failed _ _ _ _ _ _ _ hfailing => cases hfailing <;> exact htask rfl (by simp)
  | startedStream | opened | activate | activated | cancellationPending | stepCompleted
  | advanceOrphan | launchProvider | launchFake | cancelProvider =>
    exact htask rfl (by simp)
  | startedCli _ _ _ hattempt | launched _ _ hattempt =>
    exact htask rfl (by simp [hattempt])
  | progress _ _ _ _ hevent =>
    refine htask rfl ?_
    cases hevent <;> simp
  | completed =>
    refine htask rfl fun found hmem => ?_
    rw [attemptsOf_none] at hmem
    exact mem_singleton.mp (attempts_take hmem)
  | fakeCompleted active _ _ _ hactive =>
    rw [attemptsOf_none] at hmem
    obtain rfl : found = active.attempt := by simpa using attempts_take hmem
    exact .active active hactive
  | fakeStep active _ _ hactive =>
    obtain rfl : found = active.attempt := by simpa using hmem
    exact .active active hactive
  | advanceCeiling | advanceCompleted =>
    refine htask rfl fun found hmem => ?_
    rw [attemptsOf_none] at hmem
    simpa [ceilingEvents, completionEvents] using attempts_eachAlone hmem
  | advanceStep _ _ _ _ _ _ hnext =>
    refine htask rfl ?_
    rcases hnext with rfl | rfl <;> simp
  | stepCut =>
    rw [attemptsOf_none] at hmem
    obtain rfl : found = s.nextId := by
      simpa [stepEvents] using attempts_eachAlone hmem
    exact .new
  | stepDispatched _ _ _ _ hattempt =>
    obtain rfl : found = s.nextId := by
      rcases mem_append.mp hmem with hmem | hmem
      · simpa [stepEvents] using attempts_eachAlone hmem
      · exact (mem_singleton.mp hmem).trans hattempt
    exact .new
  | cancelUnmatched =>
    have hattempt := Option.mem_toList.mp hmem
    exact .task _ hattempt
  | cancelFake | adapterCancelled =>
    refine htask rfl ?_
    split <;> simp
  | cancelResolved request control attempt confirmed summary =>
    have hnamed : found ∈ namedAttempts
        (resolutionEvents request control attempt confirmed summary s.nextId) := by
      simpa using hmem
    unfold resolutionEvents at hnamed
    cases attempt with
    | none =>
      split at hnamed
      · cases hnamed
      · rw [mem_singleton.mp hnamed]
        exact .new
    | some attempt =>
      have heq : found = attempt := by
        split at hnamed <;> simpa using hnamed
      rw [heq]
      exact .task _ rfl

end

section

variable {env : Environment} {s s' : Session} {effects : List Effect}

theorem Below.visited (h : Below s.nextId s) (hquiet : Quiet (· < s.nextId) effects) :
    Below ((s.after effects).settle none).nextId ((s.after effects).settle none) := by
  have hafter : Below s.nextId (s.after effects) := h.after fun _ => hquiet.named
  have hsettled : Below s.nextId ((s.after effects).settle none) :=
    hafter.settle fun _ hmem => (nomatch hmem)
  refine hsettled.mono ?_
  show s.nextId ≤ (s.after effects).nextId + _
  rw [after_nextId]
  exact Nat.le_add_right _ _

theorem Below.recovered {done : Bool} (h : Below s.nextId s)
    (hrecovery : Recovery recoveryPasses s done s') : Below s'.nextId s' := by
  obtain ⟨effects, heffects, rfl⟩ := hrecovery.quiet
  rw [after_nextId]
  exact h.after fun attempt hmem => h.events attempt (heffects.named hmem)

theorem Below.created (h : Created s) : Below s.nextId s := by
  obtain ⟨request, workflow, configuration, effects, heffects, rfl⟩ := h
  have hfresh : Below (Session.fresh request workflow configuration).nextId
      (.fresh request workflow configuration) :=
    ⟨fun _ hmem => (nomatch hmem), fun _ hactive => (nomatch hactive), fun _ hmem => (nomatch hmem)⟩
  exact hfresh.visited heffects.quiet.any

theorem Below.evolves {action : Action} {index : Nat} (h : Below s.nextId s)
    (hevolution : Evolution env index s action s') : Below s'.nextId s' := by
  cases hevolution with
  | unchanged => exact h
  | submitted => exact h.apply fun _ hmem => (nomatch hmem)
  | dropped => exact h.of_subset rfl (.inl rfl) fun _ hmem => mem_of_mem_eraseIdx hmem
  | aborted => exact h.of_subset rfl (.inl rfl) fun _ hmem => mem_of_mem_filter hmem
  | crashed => exact h.of_subset rfl (.inr rfl) fun _ hmem => (nomatch hmem)
  | stepped task _ _ point effects next hpoint hlock hplan =>
    have hwithout : Below (s.without task).nextId (s.without task) :=
      h.of_subset rfl (.inl rfl) fun _ hmem => mem_of_mem_eraseIdx hmem
    have hknown : ∀ attempt ∈ attemptsOf effects next, attempt < s.nextId + Session.idBlock := by
      intro attempt hmem
      have hle := (hplan.known hmem).le hwithout (h.tasks point (mem_of_getElem? hpoint))
      exact Nat.lt_of_le_of_lt hle (Nat.lt_add_of_pos_right (by decide))
    have hwide : Below (s.nextId + Session.idBlock) (s.without task) :=
      hwithout.mono (Nat.le_add_right _ _)
    have hafter := hwide.after fun attempt hmem => hknown attempt (mem_append_left _ hmem)
    refine (hafter.settle fun attempt hmem => hknown attempt (mem_append_right _ hmem)).mono ?_
    show s.nextId + _ ≤ ((s.without task).after effects).nextId + _
    rw [after_nextId]
    exact Nat.le_refl _
  | loaded _ _ _ _ _ _ heffects | reconciled _ _ _ _ _ _ _ heffects | maintained _ _ _ _ heffects =>
    exact h.visited heffects.quiet.any
  | shutDown _ effects _ heffects =>
    have hafter : Below s.nextId (s.after effects) := by
      refine h.after fun attempt hmem => ?_
      obtain ⟨execution, hactive, rfl⟩ := heffects.quiet.named hmem
      exact h.active execution hactive
    rw [apply_nextId, after_nextId]
    exact hafter.apply fun _ hmem => (nomatch hmem)
  | recovered _ _ hrecovery => exact h.recovered hrecovery
  | recoveryFailed _ _ hrecovery =>
    exact (h.recovered hrecovery).of_subset rfl (.inr rfl) fun _ hmem => (nomatch hmem)

/-- Every attempt that a session names has been drawn. -/
theorem attempts_drawn {allowed : Application → Action → Prop} {app : Application}
    (hreach : Reaches (Application.step env) allowed .initial app) :
    ∀ s ∈ app.sessions, Below s.nextId s :=
  sessions_invariant (fun _ => Below.created) (fun _ _ _ _ _ _ _ _ h => h.evolves) hreach

end

end Workbench.Daemon
