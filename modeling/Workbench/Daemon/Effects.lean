import Workbench.Daemon.Evolution

/-!
# Daemon: the fields that effects change

For each field that an invariant reads, what a list of effects adds to it.
-/

namespace Workbench.Daemon

open Workbench.Core Config Storage Library List

/-- The task that an effect starts. -/
def Effect.spawned : Effect → Option Point
  | .spawn point => some point
  | _ => none

/-- The tasks that effects start. -/
def spawned (effects : List Effect) : List Point := effects.filterMap Effect.spawned

@[simp] theorem spawned_nil : spawned [] = [] := rfl

@[simp] theorem spawned_cons (effect : Effect) (effects : List Effect) :
    spawned (effect :: effects) = effect.spawned.toList ++ spawned effects := by
  cases h : effect.spawned <;> simp [spawned, h]

theorem spawned_eq_nil {effects : List Effect} (h : ∀ effect ∈ effects, effect.spawned = none) :
    spawned effects = [] := filterMap_eq_nil_iff.mpr h

theorem spawned_take_eq_nil {effects : List Effect} (h : spawned effects = []) (cut : Nat) :
    spawned (effects.take cut) = [] :=
  spawned_eq_nil fun effect hmem =>
    filterMap_eq_nil_iff.mp h effect (mem_of_mem_take hmem)

@[simp] theorem spawned_eachAlone (events : List Event) (cut : Nat) :
    spawned (eachAlone events cut) = [] := by
  refine spawned_take_eq_nil (spawned_eq_nil fun effect hmem => ?_) cut
  obtain ⟨event, _, rfl⟩ := mem_map.mp hmem
  rfl

theorem apply_tasks (s : Session) (effect : Effect) :
    (s.apply effect).tasks = s.tasks ++ effect.spawned.toList := by
  cases effect <;> simp [Session.apply, Session.append, Effect.spawned]

theorem after_tasks (s : Session) (effects : List Effect) :
    (s.after effects).tasks = s.tasks ++ spawned effects := by
  induction effects generalizing s with
  | nil => simp
  | cons effect rest ih => rw [Session.after_cons, ih, apply_tasks, spawned_cons, append_assoc]

/-- The tasks of a session are the one that goes on and the others. -/
theorem tasks_perm {s : Session} {task : Nat} {point : Point}
    (hpoint : s.tasks[task]? = some point) :
    Perm s.tasks (point :: (s.without task).tasks) := by
  obtain ⟨hlt, rfl⟩ := List.getElem?_eq_some_iff.mp hpoint
  exact (getElem_cons_eraseIdx_perm hlt).symm

theorem settle_tasks (s : Session) (effects : List Effect) (next : Option Point) :
    ((s.after effects).settle next).tasks = s.tasks ++ (spawned effects ++ next.toList) := by
  show (s.after effects).tasks ++ next.toList = _
  rw [after_tasks, append_assoc]

@[simp] theorem apply_nextId (s : Session) (effect : Effect) :
    (s.apply effect).nextId = s.nextId := by
  cases effect <;> rfl

@[simp] theorem after_nextId (s : Session) (effects : List Effect) :
    (s.after effects).nextId = s.nextId := by
  induction effects generalizing s with
  | nil => rfl
  | cons effect rest ih => rw [Session.after_cons, ih, apply_nextId]

/-! ## Effects that start nothing -/

/-- The effect starts no task and no execution, and calls no adapter. -/
def Effect.isOffline : Effect → Bool
  | .spawn _ | .activate _ | .claimCancel | .prompted _ | .cancellationConfirmed _ => false
  | _ => true

/-- Effects that start nothing. -/
def Offline (effects : List Effect) : Prop := ∀ effect ∈ effects, effect.isOffline

namespace Offline

variable {s : Session} {effects : List Effect}

theorem of_all (h : effects.all Effect.isOffline) : Offline effects :=
  all_eq_true.mp h

theorem take (h : Offline effects) (cut : Nat) : Offline (effects.take cut) :=
  fun effect hmem => h effect (mem_of_mem_take hmem)

theorem spawned_eq (h : Offline effects) : spawned effects = [] :=
  spawned_eq_nil fun effect hmem => by
    have hoffline := h effect hmem
    cases effect <;> first | rfl | cases hoffline

theorem tasks_eq (h : Offline effects) : (s.after effects).tasks = s.tasks := by
  rw [after_tasks, h.spawned_eq, append_nil]

end Offline

theorem offline_eachAlone (events : List Event) (cut : Nat) : Offline (eachAlone events cut) := by
  refine Offline.take (fun effect hmem => ?_) cut
  obtain ⟨event, _, rfl⟩ := mem_map.mp hmem
  rfl

/-! ## The attempts that effects start and name -/

/-- The attempts that an effect starts. -/
def Effect.started : Effect → List Uuid
  | .commit batch _ => startedAttempts batch
  | _ => []

/-- The attempt that a task works on. -/
def Point.attempt? : Point → Option Uuid
  | .startSession job _ | .promptStream job _ | .launch job | .launchStarted job => some job.attempt
  | .activate prompt => some prompt.attempt
  | .activating attempt | .stream attempt | .advance _ attempt _ | .cancelPending _ _ attempt =>
    some attempt
  | .cancelResolution _ _ attempt | .resolveCancel _ _ attempt _ _ => attempt
  | .command _ _ | .relock _ _ _ | .fakeTimer | .dispatchStep _ _ => none

/-- The attempts that events name. -/
def namedAttempts (events : List Event) : List Uuid := events.filterMap Event.attempt

/-- The attempts that an effect names. -/
def Effect.attempts : Effect → List Uuid
  | .commit batch _ => namedAttempts batch
  | .spawn point => point.attempt?.toList
  | .activate execution => [execution.attempt]
  | _ => []

/-- The attempts that effects start. -/
def started (effects : List Effect) : List Uuid := effects.flatMap Effect.started

section

variable {s : Session} {effects : List Effect} {attempt : Uuid}

theorem startedAttempts_append (first second : List Event) :
    startedAttempts (first ++ second) = startedAttempts first ++ startedAttempts second :=
  filterMap_append

theorem namedAttempts_append (first second : List Event) :
    namedAttempts (first ++ second) = namedAttempts first ++ namedAttempts second :=
  filterMap_append

variable {events history : List Event} {event : Event}

theorem mem_namedAttempts (hmem : event ∈ events) (hattempt : event.attempt = some attempt) :
    attempt ∈ namedAttempts events :=
  mem_filterMap.mpr ⟨event, hmem, hattempt⟩

theorem started_named (h : attempt ∈ startedAttempts events) : attempt ∈ namedAttempts events := by
  obtain ⟨event, hmem, hattempt⟩ := mem_filterMap.mp h
  split at hattempt
  · exact mem_namedAttempts hmem hattempt
  · cases hattempt

theorem fromLastStart_split {later : List Event} (h : fromLastStart history = event :: later) :
    (∃ init, history = init ++ event :: later) ∧ Event.isStart event := by
  induction history with
  | nil => cases h
  | cons first rest ih =>
    unfold fromLastStart at h
    split at h
    · split at h
      · next hstart =>
        cases h
        exact ⟨⟨[], rfl⟩, hstart⟩
      · cases h
    · obtain ⟨⟨init, hinit⟩, hstart⟩ := ih h
      exact ⟨⟨first :: init, by rw [hinit]; rfl⟩, hstart⟩

theorem latestStartedAttempt_mem (h : latestStartedAttempt history = some attempt) :
    attempt ∈ startedAttempts history := by
  unfold latestStartedAttempt at h
  split at h
  · cases h
  next event later hfrom =>
  obtain ⟨⟨init, hinit⟩, hstart⟩ := fromLastStart_split hfrom
  have hmem : event ∈ history := by rw [hinit]; simp
  split at h
  · cases h
  next found hattempt =>
  split at h
  · cases h
  · cases h
    exact mem_filterMap.mpr ⟨event, hmem, by rw [if_pos hstart, hattempt]⟩

/-- An event that effects append stands in one of their transactions, or names no attempt. -/
theorem mem_after_events (hmem : event ∈ (s.after effects).events) :
    event ∈ s.events ∨ (∃ batch stored, .commit batch stored ∈ effects ∧ event ∈ batch) ∨
      event.attempt = none := by
  induction effects generalizing s with
  | nil => exact .inl hmem
  | cons effect rest ih =>
    rcases ih hmem with hmem | ⟨batch, stored, hcommit, hevent⟩ | hnone
    · have hown : event ∈ s.events ∨
        (∃ batch stored, .commit batch stored = effect ∧ event ∈ batch) ∨
          event.attempt = none := by
        cases effect with
        | commit batch stored =>
          rcases mem_append.mp hmem with hold | hnew
          · exact .inl hold
          · cases hrow : s.row with
            | none => rw [hrow] at hnew; cases hnew
            | some column => rw [hrow] at hnew; exact .inr (.inl ⟨batch, stored, rfl, hnew⟩)
        | requestDeletion | insertSession =>
          rcases mem_append.mp hmem with hold | hnew
          · exact .inl hold
          · rw [mem_singleton.mp hnew]
            exact .inr (.inr rfl)
        | finishDeletion => cases hmem
        | _ => exact .inl hmem
      rcases hown with hold | ⟨batch, stored, rfl, hevent⟩ | hnone
      · exact .inl hold
      · exact .inr (.inl ⟨batch, stored, mem_cons_self, hevent⟩)
      · exact .inr (.inr hnone)
    · exact .inr (.inl ⟨batch, stored, mem_cons_of_mem _ hcommit, hevent⟩)
    · exact .inr (.inr hnone)

theorem after_started (hmem : attempt ∈ startedAttempts (s.after effects).events) :
    attempt ∈ startedAttempts s.events ∨ attempt ∈ started effects := by
  obtain ⟨event, hevent, hattempt⟩ := mem_filterMap.mp hmem
  rcases mem_after_events hevent with hold | ⟨batch, stored, hcommit, hnew⟩ | hnone
  · exact .inl (mem_filterMap.mpr ⟨event, hold, hattempt⟩)
  · exact .inr (mem_flatMap.mpr ⟨_, hcommit, mem_filterMap.mpr ⟨event, hnew, hattempt⟩⟩)
  · rw [hnone, ite_self] at hattempt
    cases hattempt

theorem after_named (hmem : attempt ∈ namedAttempts (s.after effects).events) :
    attempt ∈ namedAttempts s.events ∨ attempt ∈ effects.flatMap Effect.attempts := by
  obtain ⟨event, hevent, hattempt⟩ := mem_filterMap.mp hmem
  rcases mem_after_events hevent with hold | ⟨batch, stored, hcommit, hnew⟩ | hnone
  · exact .inl (mem_namedAttempts hold hattempt)
  · exact .inr (mem_flatMap.mpr ⟨_, hcommit, mem_namedAttempts hnew hattempt⟩)
  · rw [hnone] at hattempt
    cases hattempt

end

/-! ## Visits -/

/-- The effect starts nothing, and what it appends names known attempts only. -/
structure Effect.IsQuiet (known : Uuid → Prop) (effect : Effect) : Prop where
  offline : effect.isOffline
  started : effect.started = []
  named : ∀ attempt ∈ effect.attempts, known attempt

def Quiet (known : Uuid → Prop) (effects : List Effect) : Prop :=
  ∀ effect ∈ effects, effect.IsQuiet known

/-- The effect is offline and no transaction. -/
def Effect.isPlain : Effect → Bool
  | .commit _ _ => false
  | effect => effect.isOffline

namespace Quiet

variable {known : Uuid → Prop} {effects : List Effect}

theorem append {first second : List Effect} (hfirst : Quiet known first)
    (hsecond : Quiet known second) : Quiet known (first ++ second) := by
  exact forall_mem_append.mpr ⟨hfirst, hsecond⟩

theorem take (h : Quiet known effects) (cut : Nat) : Quiet known (effects.take cut) :=
  fun effect hmem => h effect (mem_of_mem_take hmem)

theorem mono {more : Uuid → Prop} (h : Quiet known effects)
    (hmore : ∀ attempt, known attempt → more attempt) : Quiet more effects :=
  fun effect hmem => { h effect hmem with
    named := fun attempt hattempt => hmore attempt ((h effect hmem).named attempt hattempt) }

theorem any (h : Quiet (fun _ => False) effects) : Quiet known effects := h.mono nofun

theorem of_plain (h : effects.all Effect.isPlain) : Quiet known effects := by
  intro effect hmem
  have hplain := all_eq_true.mp h effect hmem
  cases effect <;> first | exact ⟨rfl, rfl, nofun⟩ | cases hplain

theorem commit {batch : List Event} {stored : Option StoredCommand}
    (hstarted : startedAttempts batch = [])
    (hnamed : ∀ attempt ∈ namedAttempts batch, known attempt) :
    Quiet known [.commit batch stored] := by
  exact forall_mem_singleton.mpr (⟨rfl, hstarted, hnamed⟩)

theorem isOffline (h : Quiet known effects) : Offline effects :=
  fun effect hmem => (h effect hmem).offline

theorem started_eq (h : Quiet known effects) : started effects = [] :=
  flatMap_eq_nil_iff.mpr fun effect hmem => (h effect hmem).started

theorem named {attempt : Uuid} (h : Quiet known effects)
    (hmem : attempt ∈ effects.flatMap Effect.attempts) : known attempt := by
  obtain ⟨effect, heffect, hattempt⟩ := mem_flatMap.mp hmem
  exact (h effect heffect).named attempt hattempt

end Quiet

section

variable {commands : Command → Prop} {s s' : Session} {effects : List Effect} {done : Bool}

theorem quiet_exports (h : ∀ effect ∈ effects, ExportEffect commands effect) :
    Quiet (fun _ => False) effects := by
  intro effect hmem
  cases h effect hmem <;> exact ⟨rfl, rfl, nofun⟩

theorem Deletion.quiet (h : Deletion s effects) : Quiet (fun _ => False) effects := by
  cases h with
  | opened | continued => exact Quiet.take (.of_plain rfl) _
  | repeated => exact .of_plain rfl

theorem Reconciling.quiet (h : Reconciling s done effects) : Quiet (fun _ => False) effects := by
  cases h <;> exact .of_plain rfl

theorem Creation.quiet (h : Creation effects) : Quiet (fun _ => False) effects := by
  cases h with
  | failed cut _ hundo =>
    refine .append (Quiet.take (.of_plain rfl) cut) ?_
    rcases hundo with rfl | rfl | rfl <;> exact .of_plain rfl
  | created _ hrest =>
    refine .append (.of_plain rfl) ?_
    rcases hrest with rfl | rfl <;> exact .of_plain rfl

theorem Hydration.quiet (h : Hydration effects) : Quiet (fun _ => False) effects := by
  cases h <;> exact .of_plain rfl

theorem Maintenance.quiet (h : Maintenance s effects) : Quiet (fun _ => False) effects := by
  cases h with
  | loaded _ heffects => exact heffects.quiet
  | deleted _ _ _ hloading _ _ hdeleting => exact hloading.quiet.append hdeleting.quiet

theorem ShuttingDown.quiet (h : ShuttingDown s effects) :
    Quiet (fun attempt => ∃ execution, s.active = some execution ∧ execution.attempt = attempt)
      effects := by
  cases h with
  | idle | taken => exact .of_plain rfl
  | recorded execution hactive =>
    refine @Quiet.append _ [.deactivate] _ (.of_plain rfl) (.commit rfl ?_)
    exact forall_mem_singleton.mpr (⟨execution, hactive, rfl⟩)

/-- The end of a control starts nothing and names attempts of the history. -/
theorem controlCompletion_quiet {events batch : List Event}
    (h : controlCompletion events = some batch) :
    startedAttempts batch = [] ∧ ∀ attempt ∈ namedAttempts batch,
      attempt ∈ namedAttempts events := by
  unfold controlCompletion at h
  split at h
  · cases h
  next last hlast =>
  split at h
  · cases h
    exact ⟨rfl, nofun⟩
  · split at h
    · cases h
      exact ⟨rfl, nofun⟩
    next found hfound =>
    cases h
    refine ⟨rfl, fun attempt hmem => ?_⟩
    rw [mem_singleton.mp hmem]
    exact started_named (latestStartedAttempt_mem hfound)
  · cases h
    refine ⟨rfl, fun attempt hmem => ?_⟩
    have hattempt : last.attempt = some attempt := by simpa [namedAttempts] using hmem
    exact mem_namedAttempts (mem_of_getLast? hlast) hattempt
  · cases h

theorem Pass.quiet {pass : RecoveryPass} (h : Pass s pass done effects) :
    Quiet (· ∈ namedAttempts s.events) effects := by
  cases h with
  | creations _ _ _ heffects | sessions _ _ heffects => exact heffects.quiet.any
  | exports _ _ heffects => exact (quiet_exports heffects).any
  | noDeletion | deletion | controls => exact .of_plain rfl
  | deletionCut => exact Quiet.take (.of_plain rfl) _
  | control _ _ hbatch =>
    exact .commit (controlCompletion_quiet hbatch).1 (controlCompletion_quiet hbatch).2
  | attempts =>
    refine Quiet.take (fun effect hmem => ?_) _
    simp only [map_map, mem_map] at hmem
    obtain ⟨attempt, hattempt, rfl⟩ := hmem
    refine ⟨rfl, rfl, fun found hfound => ?_⟩
    rw [mem_singleton.mp hfound]
    exact started_named (mem_dedup.mp (mem_of_mem_filter ((mem_insertionSort _).mp hattempt)))

theorem Recovery.quiet {passes : List RecoveryPass} (h : Recovery passes s done s') :
    ∃ effects, Quiet (· ∈ namedAttempts s.events) effects ∧ s' = s.after effects := by
  induction h with
  | done | stopped => exact ⟨[], .of_plain rfl, rfl⟩
  | failed _ _ _ _ hpass =>
    obtain ⟨effects, heffects, rfl⟩ := hpass
    exact ⟨effects, heffects.quiet, rfl⟩
  | passed _ _ _ _ _ _ hpass _ ih =>
    obtain ⟨first, hfirst, rfl⟩ := hpass
    obtain ⟨second, hsecond, rfl⟩ := ih
    refine ⟨first ++ second, hfirst.quiet.append (hsecond.mono fun attempt hnamed => ?_),
      (Session.after_append _ _ _).symm⟩
    exact (after_named hnamed).elim id hfirst.quiet.named

end

/-! ## Steps -/

section

variable {s : Session} {effects : List Effect} {next : Option Point}

theorem Activation.started_eq {causation attempt : Uuid}
    (h : Activation s causation attempt effects next) : started effects = [] := by
  cases h with
  | refused | fake | start => rfl
  | unavailable =>
    unfold failureEvent
    split <;> rfl

theorem CommandCommit.started_eq {request : Uuid} {command : Command} {batch : List Event}
    {outcome : Outcome} {stored : Option StoredCommand}
    (h : CommandCommit s request command batch outcome) (hrest : started effects = []) :
    started (.commit batch stored :: effects) = [] ∨
      started (.commit batch stored :: effects) = [s.nextId] := by
  show startedAttempts batch ++ started effects = [] ∨ startedAttempts batch ++ started effects = _
  rw [hrest, append_nil]
  cases h with
  | prompt text _ _ target tail _ htail =>
    left
    rw [startedAttempts, filterMap_append, append_eq_nil_iff]
    constructor
    · unfold promptEvents
      split
      · split <;> rfl
      · rfl
    · cases htail <;> rfl
  | grant | retry => exact .inr rfl
  | _ => exact .inl rfl

/-- A command that is repeated starts nothing, any other starts the next attempt at most. -/
theorem CommandPlan.started_eq {request : Uuid} {command : Command}
    (h : CommandPlan s request command effects next) :
    started effects = [] ∨
      (started effects = [s.nextId] ∧ s.recorded request command = .ok none) := by
  cases h with
  | quiet | pauseRun | resumeFake | relock | cancelReplay | cancelAttempt => exact .inl rfl
  | resumeRun _ _ _ _ hrest => rcases hrest with rfl | rfl <;> exact .inl rfl
  | commits _ _ _ hnone hcommit => exact (hcommit.started_eq rfl).imp_right (⟨·, hnone⟩)
  | activates _ _ _ _ _ _ hnone hcommit _ hrest =>
    exact (hcommit.started_eq hrest.started_eq).imp_right (⟨·, hnone⟩)
  | replayGrant _ _ _ _ _ _ _ _ _ _ heffects => exact .inl heffects.started_eq
  | exportBundle _ _ _ heffects => exact .inl (quiet_exports heffects).started_eq
  | delete _ _ _ _ _ heffects => exact .inl heffects.quiet.started_eq

end

end Workbench.Daemon
