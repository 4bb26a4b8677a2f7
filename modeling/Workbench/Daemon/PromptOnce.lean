import Workbench.Daemon.Drawn

/-!
# Daemon: an attempt is prompted once

A task on its way to `prompt_stream` carries its attempt with it.  An attempt is claimed
once it has been prompted or some task carries it; each call of `prompt_stream` hands a
claim over from a task to the record of calls.  New claims are made with new ids, except by
a repeated grant: it activates the latest started attempt again when it finds no execution,
and a claimed attempt may have none.
-/

namespace Workbench.Daemon

open Workbench.Core Config Storage Library List

/-- The attempt that the task will hand to `prompt_stream`. -/
def Point.carried : Point → Option Uuid
  | .startSession job _ | .launch job | .launchStarted job => some job.attempt
  | .activate prompt => some prompt.attempt
  | _ => none

/-- The attempts that have been prompted or that some task will prompt. -/
def Session.claimed (s : Session) : List Uuid :=
  s.prompts.map ProviderPrompt.attempt ++ s.tasks.filterMap Point.carried

/-- The attempt that an effect claims. -/
def Effect.claimed : Effect → Option Uuid
  | .prompted prompt => some prompt.attempt
  | .spawn point => point.carried
  | _ => none

/-- The attempts that a step claims. -/
def gained (effects : List Effect) (next : Option Point) : List Uuid :=
  effects.filterMap Effect.claimed ++ (next.bind Point.carried).toList

/-- A repeated grant will activate the latest attempt: it is recorded, and nothing executes. -/
def Session.replays (s : Session) : Point → Bool
  | .command request (.approvalResolve approvalId .grant) =>
    (match s.recorded request (.approvalResolve approvalId .grant) with
      | .ok (some _) => true
      | _ => false) &&
    decide (s.FoldsTo .running) && s.active.isNone
  | _ => false

/-- The attempt that a repeated grant is about to activate is already claimed. -/
def Session.replaysClaimed (s : Session) (point : Point) : Bool :=
  s.replays point && (latestStartedAttempt s.events).any fun attempt => decide (attempt ∈ s.claimed)

/-- The runs in which no claimed attempt is activated again. -/
abbrev ReplaysNoClaimed : Application → Action → Prop :=
  StepsMeet fun s point _ => s.replaysClaimed point = false

section

variable {env : Environment} {s : Session} {point : Point} {response : Response}
  {effects : List Effect} {next : Option Point} {task : Nat}

theorem apply_claimed (s : Session) (effect : Effect) :
    Perm (s.apply effect).claimed (s.claimed ++ effect.claimed.toList) := by
  cases effect with
  | prompted prompt =>
    show Perm ((s.prompts ++ [prompt]).map _ ++ s.tasks.filterMap _) _
    rw [map_append, append_assoc]
    refine (perm_append_comm.append_left _).trans ?_
    rw [← append_assoc]
    rfl
  | spawn point =>
    show Perm (s.prompts.map _ ++ (s.tasks ++ [point]).filterMap _) _
    cases hcarried : point.carried <;> simp [Effect.claimed, Session.claimed, hcarried]
  | _ => simp [Session.claimed, Session.apply, Session.append, Effect.claimed]

theorem after_claimed (s : Session) (effects : List Effect) :
    Perm (s.after effects).claimed (s.claimed ++ effects.filterMap Effect.claimed) := by
  induction effects generalizing s with
  | nil => simp
  | cons effect rest ih =>
    refine (ih (s.apply effect)).trans (((apply_claimed s effect).append_right _).trans ?_)
    cases hclaimed : effect.claimed <;> simp [hclaimed]

theorem settle_claimed (s : Session) (effects : List Effect) (next : Option Point) :
    Perm ((s.after effects).settle next).claimed (s.claimed ++ gained effects next) := by
  have hsettle : ((s.after effects).settle next).claimed
      = (s.after effects).claimed ++ (next.bind Point.carried).toList := by
    show (s.after effects).prompts.map _ ++ ((s.after effects).tasks ++ next.toList).filterMap _ = _
    rw [filterMap_append, ← append_assoc]
    cases next with
    | none => rfl
    | some point => cases hcarried : point.carried <;> simp [Session.claimed, hcarried]
  rw [hsettle, gained, ← append_assoc]
  exact (after_claimed s effects).append_right _

theorem without_claimed (hpoint : s.tasks[task]? = some point) :
    Perm s.claimed (point.carried.toList ++ (s.without task).claimed) := by
  have hperm := ((tasks_perm hpoint).filterMap Point.carried).append_left
    (s.prompts.map ProviderPrompt.attempt)
  refine hperm.trans ?_
  cases hcarried : point.carried with
  | none => simp [Session.claimed, Session.without, hcarried]
  | some attempt =>
    rw [filterMap_cons_some hcarried]
    exact perm_middle

variable (s : Session) (point : Point) in
/-- An attempt is claimed by the task that carries it, by its draw, or by a repeated grant. -/
inductive Claiming : List Uuid → Prop where
  | nothing : Claiming []
  | kept (attempt : Uuid) (hcarried : point.carried = some attempt) : Claiming [attempt]
  | new : Claiming [s.nextId]
  | replayed (attempt : Uuid) (hlatest : latestStartedAttempt s.events = some attempt)
      (hreplays : s.replays point) : Claiming [attempt]

theorem gained_offline (h : Offline effects) : gained effects none = [] := by
  rw [gained, Option.bind_none, Option.toList_none, append_nil]
  refine filterMap_eq_nil_iff.mpr fun effect hmem => ?_
  have hoffline := h effect hmem
  cases effect <;> first | rfl | cases hoffline

theorem Activation.gained_eq {causation attempt : Uuid}
    (h : Activation s causation attempt effects next) :
    gained effects next = [] ∨ gained effects next = [attempt] := by
  cases h with
  | refused | fake | unavailable => exact .inl rfl
  | start _ _ hattempt =>
    right
    rw [← hattempt]
    rfl

theorem CommandPlan.claiming {request : Uuid} {command : Command}
    (h : CommandPlan s request command effects next) :
    Claiming s (.command request command) (gained effects next) := by
  cases h with
  | quiet | commits | pauseRun | resumeFake | relock | cancelReplay | cancelAttempt =>
    exact .nothing
  | resumeRun _ _ _ _ hrest => rcases hrest with rfl | rfl <;> exact .nothing
  | activates _ _ _ _ rest next _ _ _ hrest =>
    show Claiming _ _ (gained rest next)
    rcases hrest.gained_eq with heq | heq <;> rw [heq]
    · exact .nothing
    · exact .new
  | replayGrant _ _ attempt _ _ _ hrecorded hfold hlatest hactive heffects =>
    rcases heffects.gained_eq with heq | heq <;> rw [heq]
    · exact .nothing
    · exact .replayed attempt hlatest (by simp [Session.replays, hrecorded, hfold, hactive])
  | exportBundle _ _ _ heffects =>
    rw [gained_offline (quiet_exports heffects).isOffline]
    exact .nothing
  | delete _ _ _ _ _ heffects => rw [gained_offline heffects.quiet.isOffline]; exact .nothing

theorem Plan.claiming (h : Plan env s point response effects next) :
    Claiming s point (gained effects next) := by
  cases h with
  | command _ _ _ _ hplan => exact hplan.claiming
  | quiet | opened | activated | progress | cancellationPending | stepCompleted | fakeStep
  | advanceOrphan | stepRefused | launchFake | cancelUnmatched | cancelProvider
  | cancelResolved => exact .nothing
  | failed _ _ _ _ _ _ _ hfailing => cases hfailing <;> exact .nothing
  | completed | fakeCompleted => rw [gained_offline (Offline.take (.of_all rfl) _)]; exact .nothing
  | advanceCeiling | advanceCompleted | stepCut =>
    rw [gained_offline (offline_eachAlone _ _)]
    exact .nothing
  | startedCli _ _ _ hattempt | startedStream _ _ _ hattempt | launched _ _ hattempt =>
    exact .kept _ (by rw [Point.carried, hattempt])
  | activate | launchProvider => exact .kept _ rfl
  | advanceStep _ _ _ _ _ _ hnext => rcases hnext with rfl | rfl <;> exact .nothing
  | stepDispatched _ _ _ _ hattempt =>
    rw [gained, Option.bind_some, Point.carried, hattempt]
    exact .new
  | cancelFake | adapterCancelled => split <;> exact .nothing

end

/-! ## The invariant -/

/-- Every attempt is claimed once, under an id that has been drawn. -/
def Claims (s : Session) : Prop :=
  s.claimed.Nodup ∧ ∀ attempt ∈ s.claimed, attempt < s.nextId

namespace Claims

variable {env : Environment} {s s' : Session} {point : Point} {response : Response}
  {effects : List Effect} {next : Option Point} {task : Nat} (h : Claims s)
include h

/-- Fewer claims, and no id is taken back. -/
theorem mono (hclaimed : s'.claimed.Subperm s.claimed)
    (hnext : s.nextId ≤ s'.nextId) : Claims s' := by
  refine ⟨?_, fun attempt hmem => Nat.lt_of_lt_of_le (h.2 attempt (hclaimed.subset hmem)) hnext⟩
  obtain ⟨claims, hperm, hsub⟩ := hclaimed
  exact hperm.nodup_iff.mp (h.1.sublist hsub)

theorem fewer (htasks : s'.tasks.Sublist s.tasks) (hprompts : s'.prompts = s.prompts)
    (hnext : s'.nextId = s.nextId) : Claims s' := by
  refine h.mono ?_ hnext.ge
  rw [Session.claimed, hprompts]
  exact ((append_sublist_append_left _).mpr (htasks.filterMap _)).subperm

theorem without : Claims (s.without task) := h.fewer (eraseIdx_sublist _ _) rfl rfl

/-- A step claims attempts that nobody else claims. -/
theorem claims_new (hbelow : Below s.nextId s) (hpoint : s.tasks[task]? = some point)
    (hallowed : s.replaysClaimed point = false) {claims : List Uuid}
    (hclaiming : Claiming (s.without task) point claims) :
    ((s.without task).claimed ++ claims).Nodup ∧
      ∀ attempt ∈ claims, attempt < s.nextId + Session.idBlock := by
  have hwithout : Claims (s.without task) := h.without
  have hdisjoint : ∀ attempt, attempt ∉ (s.without task).claimed →
      ((s.without task).claimed ++ [attempt]).Nodup := by
    intro attempt hnot
    exact (nodup_append_comm).mp (nodup_cons.mpr ⟨hnot, hwithout.1⟩)
  cases hclaiming with
  | nothing => exact ⟨by simpa using hwithout.1, nofun⟩
  | kept attempt hcarried =>
    have hperm := without_claimed hpoint
    rw [hcarried] at hperm
    have hcons := nodup_cons.mp (hperm.nodup_iff.mp h.1)
    have hlt := h.2 attempt (hperm.symm.subset mem_cons_self)
    refine ⟨hdisjoint attempt hcons.1, fun claim hmem => ?_⟩
    rw [mem_singleton.mp hmem]
    exact Nat.lt_add_right _ hlt
  | new =>
    refine ⟨hdisjoint _ fun hmem => Nat.lt_irrefl _ (hwithout.2 _ hmem), ?_⟩
    exact forall_mem_singleton.mpr (Nat.lt_add_of_pos_right (by decide))
  | replayed attempt hlatest hreplays =>
    have hlatest' : latestStartedAttempt s.events = some attempt := hlatest
    have hreplays' : s.replays point := hreplays
    have hnot : attempt ∉ s.claimed := by
      simpa [Session.replaysClaimed, hreplays', hlatest'] using hallowed
    refine ⟨hdisjoint attempt fun hmem => hnot ?_, fun claim hmem => ?_⟩
    · exact (without_claimed hpoint).symm.subset (mem_append_right _ hmem)
    · rw [mem_singleton.mp hmem]
      exact Nat.lt_add_right _
        (hbelow.events attempt (started_named (latestStartedAttempt_mem hlatest)))

theorem stepped (hbelow : Below s.nextId s) (hpoint : s.tasks[task]? = some point)
    (hallowed : s.replaysClaimed point = false)
    (hplan : Plan env (s.without task) point response effects next) :
    Claims (((s.without task).after effects).settle next) := by
  obtain ⟨hnodup, hlt⟩ := h.claims_new hbelow hpoint hallowed hplan.claiming
  have hperm := settle_claimed (s.without task) effects next
  have hnext : (((s.without task).after effects).settle next).nextId
      = s.nextId + Session.idBlock := by
    show ((s.without task).after effects).nextId + _ = _
    rw [after_nextId]
    rfl
  refine ⟨hperm.nodup_iff.mpr hnodup, fun attempt hmem => ?_⟩
  rw [hnext]
  rcases mem_append.mp (hperm.subset hmem) with hmem | hmem
  · exact Nat.lt_add_right _ ((h.without).2 attempt hmem)
  · exact hlt attempt hmem

/-- Effects that start nothing keep the claims. -/
theorem visited {known : Uuid → Prop} (heffects : Quiet known effects) :
    Claims (s.after effects) := by
  have hperm := after_claimed s effects
  have hnone := gained_offline heffects.isOffline
  rw [gained, Option.bind_none, Option.toList_none, append_nil] at hnone
  rw [hnone, append_nil] at hperm
  exact h.mono hperm.subperm (Nat.le_of_eq (after_nextId s effects).symm)

theorem settled : Claims (s.settle none) := by
  refine h.mono ?_ (Nat.le_add_right _ _)
  rw [Session.claimed, Session.settle, Option.toList_none, append_nil]
  exact Subperm.refl _

omit h

theorem created (h : Created s) : Claims s := by
  obtain ⟨request, workflow, configuration, effects, heffects, rfl⟩ := h
  have hfresh : Claims (.fresh request workflow configuration) := ⟨nodup_nil, nofun⟩
  exact (hfresh.visited heffects.quiet).settled

theorem crashed (h : Claims s) : Claims s.crashed := h.fewer (nil_sublist _) rfl rfl

theorem recovered {passes : List RecoveryPass} {done : Bool} (h : Claims s)
    (hrecovery : Recovery passes s done s') : Claims s' := by
  obtain ⟨effects, heffects, rfl⟩ := hrecovery.quiet
  exact h.visited heffects

theorem evolves {app : Application} {action : Action} {index : Nat} (h : Claims s)
    (hbelow : Below s.nextId s)
    (hallowed : ReplaysNoClaimed app action) (hindex : app.sessions[index]? = some s)
    (hevolution : Evolution env index s action s') : Claims s' := by
  cases hevolution with
  | unchanged => exact h
  | submitted request command =>
    have hperm : Perm (s.apply (.spawn (.command request command))).claimed
        (s.claimed ++ []) := apply_claimed s _
    rw [append_nil] at hperm
    exact h.mono hperm.subperm (Nat.le_refl _)
  | dropped => exact h.without
  | stepped task response faults point _ _ hpoint _ hplan =>
    have hmeets := hallowed index task response faults s point rfl hindex hpoint
    exact h.stepped hbelow hpoint hmeets hplan
  | loaded _ _ _ _ _ _ heffects | reconciled _ _ _ _ _ _ _ heffects | maintained _ _ _ _ heffects =>
    exact (h.visited heffects.quiet).settled
  | aborted => exact h.fewer filter_sublist rfl rfl
  | shutDown _ _ _ heffects =>
    have hrecorded := h.visited heffects.quiet
    exact hrecorded.visited (@Quiet.of_plain (fun _ => False) [.deactivate] rfl)
  | crashed => exact h.crashed
  | recovered _ _ hrecovery => exact h.recovered hrecovery
  | recoveryFailed _ _ hrecovery => exact (h.recovered hrecovery).crashed

end Claims

/-! ## Runs -/

theorem repeated_starts_nothing {env : Environment} {app app' : Application} {s s' : Session}
    {index task : Nat} {response : Response} {faults : List Bool} {request attempt : Uuid}
    {command : Command} {outcome : Outcome}
    (hstep : app.step env (.resume index task response faults) = some app')
    (hindex : app.sessions[index]? = some s)
    (hpoint : s.tasks[task]? = some (.command request command))
    (hrecorded : s.recorded request command = .ok (some outcome))
    (hindex' : app'.sessions[index]? = some s') (hmem : attempt ∈ startedAttempts s'.events) :
    attempt ∈ startedAttempts s.events := by
  obtain ⟨s₀, s₀', hindex₀, hindex₀', hresume⟩ := step_resume hstep
  obtain rfl : s = s₀ := Option.some.inj (hindex.symm.trans hindex₀)
  obtain rfl : s' = s₀' := Option.some.inj (hindex'.symm.trans hindex₀')
  obtain ⟨point, hpoint₀, _, rfl | ⟨effects, next, hplan, rfl⟩⟩ := resume_plan hresume
  · exact hmem
  obtain rfl : .command request command = point := Option.some.inj (hpoint.symm.trans hpoint₀)
  rcases after_started hmem with hold | hnew
  · exact hold
  cases hplan with
  | quiet => cases hnew
  | failed _ _ _ _ _ _ _ hfailing => cases hfailing
  | command _ _ _ _ hplan =>
    rcases hplan.started_eq with heq | ⟨_, hnone⟩
    · rw [heq] at hnew
      cases hnew
    · have hnone : s.recorded request command = .ok none := hnone
      rw [hrecorded] at hnone
      cases hnone

/-- `prompt_stream` is called at most once for an attempt, and a repeated request starts no attempt,
in every run in which no repeated grant activates an attempt that was or is about to be prompted. -/
theorem attempts_prompted_once (env : Environment) {app : Application}
    (hreach : Reaches (Application.step env) ReplaysNoClaimed .initial app) :
    (∀ s ∈ app.sessions, (s.prompts.map ProviderPrompt.attempt).Nodup) ∧
    ∀ index task response faults app' s s' request command outcome,
      app.step env (.resume index task response faults) = some app' →
      app.sessions[index]? = some s → s.tasks[task]? = some (.command request command) →
      s.recorded request command = .ok (some outcome) → app'.sessions[index]? = some s' →
      ∀ attempt ∈ startedAttempts s'.events, attempt ∈ startedAttempts s.events := by
  constructor
  · intro s hmem
    have honce : Claims s := sessions_invariant (fun s hcreated => .created hcreated)
      (fun app action index s s' hreach hallowed hindex h hevolution =>
        h.evolves (attempts_drawn hreach s (mem_of_getElem? hindex)) hallowed hindex hevolution)
      hreach s hmem
    exact honce.1.sublist (sublist_append_left _ _)
  · intro index task response faults app' s s' request command outcome hstep hindex hpoint
      hrecorded hindex' attempt hmem
    exact repeated_starts_nothing hstep hindex hpoint hrecorded hindex' hmem

/-- Both steps of a workflow are prompted, each once. -/
theorem two_steps_prompted_once :
    ∃ app, Reaches (Application.step smallEnvironment) ReplaysNoClaimed .initial
        app ∧
      (∃ s ∈ app.sessions, s.prompts.length = 2) ∧
      ∀ s ∈ app.sessions, (s.prompts.map ProviderPrompt.attempt).Nodup :=
  exists_reaches_and
    (smallStart .api [smallStep "a", smallStep "b"] ++ smallPrompt ++
      [.resume 0 0 (.item (.completed "done")) [], .resume 0 0 .proceed [],
       .resume 0 0 .proceed [], .resume 0 0 .proceed [], .resume 0 0 (.sessionStarted (.ok ())) [],
       .resume 0 0 .proceed []])
    (by decide +kernel) fun _ hreach _ => (attempts_prompted_once _ hreach).1

/-- The first step has completed and the task that starts the second waits for the lock.  The client
repeats its grant, and the first step is prompted again. -/
theorem repeated_grant_prompts_twice :
    ∃ app, Reaches (Application.step smallEnvironment) anyAction .initial app ∧
      ∃ s ∈ app.sessions, ¬ (s.prompts.map ProviderPrompt.attempt).Nodup :=
  exists_reaches_of_execute
    (smallStart .api [smallStep "a", smallStep "b"] ++ smallPrompt ++
      [.resume 0 0 (.item (.completed "done")) [],
       .submit 0 102 (.approvalResolve 11 .grant), .resume 0 1 .proceed [],
       .resume 0 1 (.sessionStarted (.ok ())) []]) (by decide +kernel)

end Workbench.Daemon
