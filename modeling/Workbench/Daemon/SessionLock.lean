import Workbench.Daemon.Effects

/-!
# Daemon: the session lock

The lock of a session is not reentrant.  A task that holds it between two steps is in a
call of its provider adapter, or it waits for the lock it already holds: `handle_resume`
calls `dispatch_workflow_step`, which takes the lock again.  Where that branch is not
taken, every holder leaves the critical section after at most two adapter calls.
-/

namespace Workbench.Daemon

open Workbench.Core Config Storage Library List

/-- The adapter calls a holder of the lock still makes, one more while it waits for the lock. -/
def Point.lockRank : Point → Nat
  | .relock _ _ _ => 3
  | .startSession _ _ => 2
  | .promptStream _ _ => 1
  | _ => 0

/-- No task that holds the session lock waits for it. -/
def Session.NeverWaitsForItself (env : Environment) (s : Session) : Prop :=
  ∀ point ∈ s.tasks, point.holdsLock → ∀ response,
    (continuation env point response).isSome → needsLock point response = false

/-- `handle_resume` is about to reach `dispatch_workflow_step`: the request is new, the session is
paused, its run was stopped and nothing executes. -/
def Session.resumesStoppedRun (s : Session) : Point → Bool
  | .command request .resume =>
    decide (s.recorded request .resume = .ok none) && s.row == some .paused && s.workflowKnown &&
      (stoppedRun s.events).isSome && s.active.isNone
  | _ => false

/-- The runs in which no stopped run is resumed. -/
abbrev ResumesNoStoppedRun : Application → Action → Prop :=
  StepsMeet fun s point _ => s.resumesStoppedRun point = false

section

variable {env : Environment} {s : Session} {point : Point} {response : Response}
  {effects : List Effect} {next : Option Point}

theorem lockRank_eq_zero_iff : point.lockRank = 0 ↔ point.holdsLock = false := by
  cases point <;> simp [Point.lockRank, Point.holdsLock]

/-- A step starts no holder, and goes on as one only from the lock or at a lower rank. -/
structure LocksInOrder (point : Point) (response : Response) (effects : List Effect)
    (next : Option Point) : Prop where
  spawned : ∀ task ∈ spawned effects, task.lockRank = 0
  next : ∀ task ∈ next, task.lockRank = 0 ∨ (needsLock point response ∧ task.lockRank ≤ 2) ∨
    task.lockRank < point.lockRank

theorem Activation.locksInOrder {causation attempt : Uuid}
    (h : Activation s causation attempt effects next) (request : Uuid) (command : Command) :
    LocksInOrder (.command request command) .proceed effects next := by
  cases h with
  | refused | fake | unavailable =>
    exact ⟨by simp [Effect.spawned, Point.lockRank], by simp⟩
  | start =>
    exact ⟨by simp, by simp [needsLock, Point.lockRank]⟩

/-- A step that starts no task and does not wait afterwards. -/
theorem LocksInOrder.of_none (h : Daemon.spawned effects = []) :
    LocksInOrder point response effects none := by
  refine ⟨fun task hmem => ?_, fun task hmem => nomatch hmem⟩
  rw [h] at hmem
  cases hmem

theorem CommandPlan.locksInOrder {request : Uuid} {command : Command}
    (hallowed : s.resumesStoppedRun (.command request command) = false)
    (h : CommandPlan s request command effects next) :
    LocksInOrder (.command request command) .proceed effects next := by
  cases h with
  | quiet | commits | pauseRun => exact .of_none rfl
  | resumeRun _ _ _ _ hrest =>
    rcases hrest with rfl | rfl <;> exact ⟨by simp [Effect.spawned, Point.lockRank], by simp⟩
  | relock _ _ _ hnone hrow hknown hrun hactive =>
    simp [Session.resumesStoppedRun, hnone, hrow, hknown, hrun, hactive] at hallowed
  | resumeFake | cancelReplay | cancelAttempt =>
    exact ⟨by simp [Effect.spawned, Point.lockRank], by simp⟩
  | activates _ _ _ _ _ _ _ _ _ hrest =>
    obtain ⟨hspawned, hnext⟩ := hrest.locksInOrder request _
    exact ⟨hspawned, hnext⟩
  | replayGrant _ _ _ _ _ _ _ _ _ _ heffects => exact heffects.locksInOrder request _
  | exportBundle _ _ _ heffects => exact .of_none (quiet_exports heffects).isOffline.spawned_eq
  | delete _ _ _ _ _ heffects => exact .of_none heffects.quiet.isOffline.spawned_eq

theorem Plan.locksInOrder (hallowed : s.resumesStoppedRun point = false)
    (h : Plan env s point response effects next) : LocksInOrder point response effects next := by
  cases h with
  | command _ _ _ _ hplan => exact hplan.locksInOrder hallowed
  | quiet | advanceOrphan | stepRefused | cancelResolved => exact .of_none rfl
  | failed _ _ _ _ _ _ _ hfailing =>
    refine .of_none ?_
    cases hfailing <;> rfl
  | completed | fakeCompleted => exact .of_none (spawned_take_eq_nil rfl _)
  | advanceCeiling | advanceCompleted | stepCut => exact .of_none (spawned_eachAlone _ _)
  | startedCli | opened | launchFake | launched =>
    exact ⟨by simp [Effect.spawned, Point.lockRank], by simp⟩
  | startedStream => exact ⟨by simp [Effect.spawned], by simp [Point.lockRank]⟩
  | activate | activated | progress | cancellationPending | stepCompleted | fakeStep
  | launchProvider | cancelUnmatched | cancelProvider =>
    exact ⟨by simp [Effect.spawned], by simp [Point.lockRank]⟩
  | stepDispatched => exact ⟨by simp, by simp [Point.lockRank]⟩
  | cancelFake | adapterCancelled =>
    refine ⟨?_, by simp [Point.lockRank]⟩
    split <;> simp [Effect.spawned]
  | advanceStep _ _ _ _ _ _ hnext =>
    refine ⟨by simp [Effect.spawned], ?_⟩
    rcases hnext with rfl | rfl <;> simp [Point.lockRank]

end

/-! ## The rank of a session -/

/-- The adapter calls that the holders of the lock still make. -/
def Session.lockRank (s : Session) : Nat := (s.tasks.map Point.lockRank).sum

section

variable {env : Environment} {s s' : Session} {point : Point} {response : Response}
  {effects : List Effect} {next : Option Point} {task index : Nat} {action : Action}

theorem locked_eq_false_iff : s.locked = false ↔ s.lockRank = 0 := by
  simp [Session.locked, Session.lockRank, List.sum_eq_zero_iff_forall_eq_nat, lockRank_eq_zero_iff]

theorem lockRank_without (hpoint : s.tasks[task]? = some point) :
    s.lockRank = point.lockRank + (s.without task).lockRank := by
  rw [Session.lockRank, ((tasks_perm hpoint).map Point.lockRank).sum_nat, map_cons, sum_cons]
  rfl

theorem lockRank_settle (hspawned : ∀ task ∈ spawned effects, task.lockRank = 0) :
    ((s.after effects).settle next).lockRank = s.lockRank +
    (next.toList.map Point.lockRank).sum := by
  have hzero : ((spawned effects).map Point.lockRank).sum = 0 := by
    simpa [List.sum_eq_zero_iff_forall_eq_nat] using hspawned
  rw [Session.lockRank, settle_tasks, map_append, map_append, sum_append,
    sum_append, hzero, Nat.zero_add]
  rfl

/-- What a step does to the rank. -/
theorem Plan.rank_le (h : Plan env (s.without task) point response effects next)
    (hallowed : s.resumesStoppedRun point = false) (hpoint : s.tasks[task]? = some point)
    (hlock : needsLock point response → s.locked = false) :
    (s.lockRank = 0 ∧ (((s.without task).after effects).settle next).lockRank ≤ 2) ∨
      (((s.without task).after effects).settle next).lockRank + point.lockRank = s.lockRank ∨
      (((s.without task).after effects).settle next).lockRank < s.lockRank := by
  have hwithout := lockRank_without hpoint
  have horder := Plan.locksInOrder (s := s.without task) hallowed h
  rw [lockRank_settle horder.spawned]
  cases next with
  | none =>
    simp only [Option.toList_none, map_nil, sum_nil]
    omega
  | some task =>
    simp only [Option.toList_some, map_cons, map_nil, sum_cons, sum_nil]
    rcases horder.next task rfl with hzero | ⟨hneeds, hle⟩ | hlt
    · omega
    · have hfree := locked_eq_false_iff.mp (hlock hneeds)
      omega
    · omega

theorem lockRank_le_of_sublist (h : s'.tasks.Sublist s.tasks) : s'.lockRank ≤ s.lockRank :=
  (h.map Point.lockRank).sum_le_sum fun _ _ => Nat.zero_le _

theorem lockRank_offline (h : Offline effects) :
    ((s.after effects).settle none).lockRank ≤ s.lockRank := by
  simp [Session.lockRank, settle_tasks, h.spawned_eq]

/-- A free lock goes to a holder of rank two at most, and the rank of a taken lock only falls. -/
theorem Evolution.lockRank_le {app : Application}
    (hallowed : ResumesNoStoppedRun app action) (hindex : app.sessions[index]? = some s)
    (h : Evolution env index s action s') :
    s'.lockRank ≤ s.lockRank ∨ (s.lockRank = 0 ∧ s'.lockRank ≤ 2) := by
  cases h with
  | unchanged => exact .inl (Nat.le_refl _)
  | submitted =>
    left
    simp [Session.lockRank, apply_tasks, Effect.spawned, Point.lockRank]
  | dropped =>
    left
    exact lockRank_le_of_sublist (eraseIdx_sublist _ _)
  | stepped task response faults point _ _ hpoint hlock hplan =>
    have hmeets := hallowed index task response faults s point rfl hindex hpoint
    rcases hplan.rank_le hmeets hpoint hlock with hfree | hsame | hlower
    · exact .inr hfree
    · left; omega
    · left; omega
  | loaded _ _ _ _ _ _ heffects | reconciled _ _ _ _ _ _ _ heffects | maintained _ _ _ _ heffects =>
    exact .inl (lockRank_offline heffects.quiet.isOffline)
  | aborted =>
    left
    exact lockRank_le_of_sublist filter_sublist
  | shutDown _ effects _ heffects =>
    refine .inl (lockRank_le_of_sublist ?_)
    show (s.after effects).tasks.Sublist s.tasks
    rw [heffects.quiet.isOffline.tasks_eq]
  | crashed | recoveryFailed => exact .inl (Nat.zero_le _)
  | recovered _ _ hrecovery =>
    obtain ⟨effects, heffects, rfl⟩ := hrecovery.quiet
    refine .inl (lockRank_le_of_sublist ?_)
    rw [heffects.isOffline.tasks_eq]

end

/-! ## Runs -/

/-- The lock of the session at a position is free. -/
def Application.LockFree (index : Nat) (app : Application) : Prop :=
  ∀ s, app.sessions[index]? = some s → s.locked = false

/-- The holder of the lock of a session gets the answer of its adapter. -/
def Application.HolderGoesOn (index : Nat) (app : Application) (action : Action) : Prop :=
  ∃ s task point response faults, action = .resume index task response faults ∧
    app.sessions[index]? = some s ∧ s.tasks[task]? = some point ∧ point.holdsLock

/-- Every holder of the lock waits for its adapter, and any answer lets it go on. -/
def Session.HoldersGoOn (env : Environment) (s : Session) : Prop :=
  ∀ task point, s.tasks[task]? = some point → point.holdsLock →
    (∃ response, (continuation env point response).isSome) ∧
    ∀ stopping response faults, (continuation env point response).isSome →
      (s.resume env stopping task response faults).isSome

section

variable {env : Environment} {s : Session} {app : Application}

theorem lockRank_le_two (hreach : Reaches (Application.step env) ResumesNoStoppedRun .initial app) :
    ∀ s ∈ app.sessions, s.lockRank ≤ 2 := by
  refine sessions_invariant (fun s hcreated => ?_) ?_ hreach
  · obtain ⟨request, workflow, configuration, effects, heffects, rfl⟩ := hcreated
    exact Nat.le_trans (lockRank_offline heffects.quiet.isOffline) (Nat.zero_le _)
  · intro app action index s s' _ hallowed hindex hle hevolution
    rcases hevolution.lockRank_le hallowed hindex with hle' | ⟨_, hle'⟩
    · exact Nat.le_trans hle' hle
    · exact hle'

/-- A holder of a rank of at most two is in a call of its adapter. -/
theorem needsLock_eq_false {point : Point} (hholds : point.holdsLock)
    (hrank : point.lockRank ≤ 2) (response : Response) :
    needsLock point response = false ∧ needsGate point response = false := by
  cases point with
  | startSession | promptStream => exact ⟨rfl, rfl⟩
  | relock => simp [Point.lockRank] at hrank
  | _ => cases hholds

theorem point_lockRank_le {task : Nat} {point : Point} (hpoint : s.tasks[task]? = some point) :
    point.lockRank ≤ s.lockRank := by
  rw [lockRank_without hpoint]
  exact Nat.le_add_right _ _

theorem neverWaitsForItself_of_rank (hrank : s.lockRank ≤ 2) : s.NeverWaitsForItself env := by
  intro point hmem hholds response _
  obtain ⟨task, hpoint⟩ := mem_iff_getElem?.mp hmem
  exact (needsLock_eq_false hholds (Nat.le_trans (point_lockRank_le hpoint) hrank) response).1

theorem holdersGoOn_of_rank (hrank : s.lockRank ≤ 2) : s.HoldersGoOn env := by
  intro task point hpoint hholds
  have hle := Nat.le_trans (point_lockRank_le hpoint) hrank
  refine ⟨?_, fun stopping response faults hcontinues => ?_⟩
  · cases point with
    | startSession => exact ⟨.sessionStarted (.ok ()), rfl⟩
    | promptStream => exact ⟨.streamOpened (.ok ()), rfl⟩
    | relock => simp [Point.lockRank] at hle
    | _ => cases hholds
  · obtain ⟨prog, hprog⟩ := Option.isSome_iff_exists.mp hcontinues
    obtain ⟨hneeds, hgate⟩ := needsLock_eq_false hholds hle response
    simp [Session.resume, hpoint, hprog, hneeds, hgate]

/-- The rank of the session at a position. -/
def Application.lockRank (index : Nat) (app : Application) : Nat :=
  (app.sessions[index]?.map Session.lockRank).getD 0

variable {index : Nat}

theorem lockFree_iff : app.LockFree index ↔ app.lockRank index = 0 := by
  unfold Application.LockFree Application.lockRank
  cases hindex : app.sessions[index]? with
  | none => simp
  | some s => simp [locked_eq_false_iff]

theorem step_lockRank_le {app' : Application} {action : Action}
    (hallowed : ResumesNoStoppedRun app action) (hstep : app.step env action = some app')
    (htaken : ¬ app.LockFree index) : app'.lockRank index ≤ app.lockRank index := by
  rw [lockFree_iff] at htaken
  unfold Application.lockRank at htaken ⊢
  cases hindex' : app'.sessions[index]? with
  | none => exact Nat.zero_le _
  | some s' =>
    rcases step_sessions hstep index s' hindex' with ⟨hnone, _⟩ | ⟨s, hindex, hevolution⟩
    · rw [hnone] at htaken
      exact absurd rfl htaken
    · rw [hindex] at htaken ⊢
      rcases hevolution.lockRank_le hallowed hindex with hle | ⟨hzero, _⟩
      · exact hle
      · exact absurd hzero htaken

/-- An answer of its adapter brings the holder closer to the end of the critical section. -/
theorem holder_lockRank_lt {app' : Application} {action : Action}
    (hallowed : ResumesNoStoppedRun app action) (hstep : app.step env action = some app')
    (hholder : app.HolderGoesOn index action) : app'.lockRank index < app.lockRank index := by
  obtain ⟨s, task, point, response, faults, rfl, hindex, hpoint, hholds⟩ := hholder
  obtain ⟨s₀, s', hindex₀, hindex', hresume⟩ := step_resume hstep
  obtain rfl : s = s₀ := Option.some.inj (hindex.symm.trans hindex₀)
  have hpositive : 0 < point.lockRank := by
    rw [Nat.pos_iff_ne_zero, ne_eq, lockRank_eq_zero_iff, hholds]
    exact Bool.noConfusion
  have hwithout := lockRank_without hpoint
  unfold Application.lockRank
  rw [hindex, hindex']
  show s'.lockRank < s.lockRank
  obtain ⟨point₀, hpoint₀, hlock, rfl | ⟨effects, next, hplan, rfl⟩⟩ := resume_plan hresume
  · omega
  obtain rfl : point = point₀ := Option.some.inj (hpoint.symm.trans hpoint₀)
  have hmeets := hallowed index task response faults s point rfl hindex hpoint
  rcases hplan.rank_le hmeets hpoint hlock with hfree | hsame | hlower
  · omega
  · omega
  · exact hlower

/-- No task waits for the session lock it holds, and a holder leaves the critical section once its
adapter calls return, in every run in which no stopped workflow run is resumed. -/
theorem holders_leave_critical_section (env : Environment) :
    (∀ app, Reaches (Application.step env) ResumesNoStoppedRun .initial app →
      ∀ s ∈ app.sessions, s.NeverWaitsForItself env ∧ s.HoldersGoOn env) ∧
    (∀ (run : EndlessRun (Application.step env) ResumesNoStoppedRun .initial) (index : Nat),
      (∀ n, ¬ (run.state n).LockFree index → ∃ m, n ≤ m ∧
        ((run.state m).LockFree index ∨ (run.state m).HolderGoesOn index (run.action m))) →
      ∀ n, ∃ m, n ≤ m ∧ (run.state m).LockFree index) := by
  constructor
  · intro app hreach s hmem
    have hrank := lockRank_le_two hreach s hmem
    exact ⟨neverWaitsForItself_of_rank hrank, holdersGoOn_of_rank hrank⟩
  intro run index hreturns n
  refine run.eventually (Application.lockRank index) (fun n htaken => ?_) (fun n htaken => ?_) n
  · exact step_lockRank_le (run.isAllowed n) (run.goesOn n) htaken
  · obtain ⟨m, hle, hfree | hholder⟩ := hreturns n htaken
    · exact ⟨m, hle, .inl hfree⟩
    · exact ⟨m, hle, .inr (holder_lockRank_lt (run.isAllowed m) (run.goesOn m) hholder)⟩

/-- A session whose provider is being started holds its lock. -/
theorem starting_provider_leaves_critical_section :
    ∃ app, Reaches (Application.step smallEnvironment) ResumesNoStoppedRun .initial
        app ∧
      (∃ s ∈ app.sessions, s.locked) ∧
      ∀ s ∈ app.sessions, s.NeverWaitsForItself smallEnvironment ∧
        s.HoldersGoOn smallEnvironment :=
  exists_reaches_and (smallStart .api [smallStep "a"] ++ [.resume 0 0 .proceed []])
    (by decide +kernel) fun app hreach _ => (holders_leave_critical_section _).1 app hreach

/-- A session that asked for a human is resumed, and its lock is never free again. -/
theorem resume_after_ceiling_deadlocks :
    ∃ app, Reaches (Application.step findingsEnvironment) anyAction .initial app ∧
      ∃ s ∈ app.sessions, ¬ s.NeverWaitsForItself findingsEnvironment ∧
        ∃ task point, s.tasks[task]? = some point ∧ point.holdsLock ∧
          ∀ stopping response faults,
            s.resume findingsEnvironment stopping task response faults = none := by
  obtain ⟨app, hreach, s, hmem, hhead⟩ :=
    @exists_reaches_of_execute _ _ (Application.step findingsEnvironment) anyAction _
      .initial
    (smallStart .fake [smallLoop "a"] ++
      [.resume 0 0 .proceed [], .resume 0 0 .proceed [], .resume 0 0 .proceed [],
       .submit 0 103 .resume, .resume 0 0 .proceed []])
    (fun app => ∃ s ∈ app.sessions, ∃ point ∈ s.tasks.head?, point.lockRank = 3)
    (by decide +kernel)
  obtain ⟨point, hpoint, hrank⟩ := hhead
  have hpoint : s.tasks[0]? = some point := by rw [← head?_eq_getElem?]; exact hpoint
  cases point with
  | relock =>
    refine ⟨app, hreach, s, hmem, fun hnever => ?_, 0, _, hpoint, rfl, fun _ _ _ => ?_⟩
    · have hneeds := hnever _ (mem_of_getElem? hpoint) rfl .proceed rfl
      cases hneeds
    -- a task that waits for the lock it holds never goes on
    have hlocked : s.locked := any_eq_true.mpr ⟨_, mem_of_getElem? hpoint, rfl⟩
    unfold Session.resume
    rw [hpoint]
    dsimp only
    split
    · rfl
    · rw [hlocked]
      rfl
  | _ => simp [Point.lockRank] at hrank

end

end Workbench.Daemon
