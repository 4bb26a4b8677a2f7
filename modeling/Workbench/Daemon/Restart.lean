import Workbench.Daemon.StateColumn

/-!
# Daemon: what a recovery leaves behind

A recovery that goes well finishes the exports of a session, completes the control that
its last event requested, and marks the attempts without a fact (`Restarted`).  After it
every pass finds nothing to do (`Settled`), so a second recovery changes nothing that
outlives the process.

The control is judged by the last event alone.  An export appends an event in any state,
and so hides a control that was requested before it.
-/

namespace Workbench.Daemon

open Workbench.Core Config Storage Library Program List

/-! ## Passes one after the other -/

/-- A session goes through the passes in this order. -/
def Through (R : RecoveryPass → Session → Session → Prop) :
    List RecoveryPass → Session → Session → Prop
  | [], s, s' => s' = s
  | pass :: rest, s, s' => ∃ middle, R pass s middle ∧ Through R rest middle s'

/-- Passes that all go well take every session through all of them. -/
theorem recoverPasses_through {R : RecoveryPass → Session → Session → Prop}
    (hR : ∀ pass s, wp pass.program (fun _ => R pass s) (fun _ _ => True) s)
    {faults : RecoveryPass → List (List Bool)} {passes : List RecoveryPass}
    {sessions sessions' : List Session}
    (h : Application.recoverPasses faults passes sessions = (true, sessions')) :
    Forall₂ (Through R passes) sessions sessions' := by
  have hall := recoverPasses_rule
    (T := fun passes s ended s' => ended = true → Through R passes s s')
    hR (fun _ _ => rfl) (fun _ _ => nofun) (fun _ _ _ _ _ => nofun)
    (fun _ _ _ middle _ _ hpass hrest hended => ⟨middle, hpass, hrest hended⟩) faults
    passes sessions
  rw [h] at hall
  exact hall.imp fun _ _ hthrough => hthrough rfl

/-! ## Rows and events -/

/-- A session without a row has no events. -/
def RowHolds (s : Session) : Prop := s.row = none → s.events = []

namespace RowHolds

variable {s s' : Session}

theorem congr (h : RowHolds s) (hrow : s'.row = s.row) (hevents : s'.events = s.events) :
    RowHolds s' :=
  fun hnone => hevents.trans (h (hrow.symm.trans hnone))

theorem apply (h : RowHolds s) (effect : Effect) : RowHolds (s.apply effect) := by
  cases effect with
  | commit =>
    intro hnone
    have hrow : s.row = none := Option.map_eq_none_iff.mp hnone
    show s.events ++ s.row.elim [] _ = []
    rw [hrow, h hrow]
    rfl
  | finishDeletion => exact fun _ => rfl
  | requestDeletion | insertSession => exact fun hnone => (nomatch hnone)
  | _ => exact h

theorem after (h : RowHolds s) (effects : List Effect) : RowHolds (s.after effects) := by
  induction effects generalizing s with
  | nil => exact h
  | cons effect rest ih => exact ih (h.apply effect)

theorem settle (h : RowHolds s) (effects : List Effect) (next : Option Point) :
    RowHolds ((s.after effects).settle next) := h.after effects

end RowHolds

theorem rowHolds {env : Environment} {allowed : Application → Action → Prop} {app : Application}
    (hreach : Reaches (Application.step env) allowed .initial app) :
    ∀ s ∈ app.sessions, RowHolds s := by
  refine sessions_invariant ?_ ?_ hreach
  · rintro s ⟨request, workflow, configuration, effects, _, rfl⟩
    have hfresh : RowHolds (.fresh request workflow configuration) := fun _ => rfl
    exact hfresh.settle effects none
  intro app action index s s' _ _ _ h hevolution
  cases hevolution with
  | unchanged | dropped | aborted | crashed => exact h
  | submitted => exact h.apply _
  | stepped task _ _ _ effects next =>
    have hwithout : RowHolds (s.without task) := h
    exact hwithout.settle effects next
  | loaded _ _ _ _ _ effects | reconciled _ _ _ _ _ _ effects | maintained _ _ effects =>
    exact h.settle effects none
  | shutDown _ effects => exact (h.after effects).apply .deactivate
  | recovered _ _ hrecovery | recoveryFailed _ _ hrecovery =>
    obtain ⟨effects, _, rfl⟩ := hrecovery.quiet
    exact h.after effects

/-! ## Exports -/

/-- The outcome of the request is recorded. -/
def Session.answered (s : Session) (request : Uuid) : Bool :=
  s.commands.any fun stored => stored.request == request

/-- The request of some unfinished export has no outcome yet. -/
def Session.owesExport (s : Session) : Bool :=
  s.exports.any fun journal => !s.answered journal.request

def exportedEvent (journal : ExportJournal) : Event :=
  ⟨.sessionExported journal.exportId, some journal.request, none⟩

/-- The unfinished exports have appended their events, those with an outcome excepted. -/
def ExportsResumed (s s' : Session) : Prop :=
  ∃ exported, s'.events = s.events ++ exported.map exportedEvent ∧
    (exported = [] ↔ s.owesExport = false)

section

variable {s : Session}

theorem recorded_eq_none_iff (s : Session) (request : Uuid) (command : Command) :
    s.recorded request command = .ok none ↔ s.answered request = false := by
  unfold Session.recorded Session.answered
  cases hfind : s.commands.find? (fun stored => stored.request == request) with
  | none =>
    rw [find?_eq_none] at hfind
    refine ⟨fun _ => ?_, fun _ => rfl⟩
    rw [any_eq_false]
    exact hfind
  | some stored =>
    have hrequest := find?_some hfind
    have hanswered : s.commands.any (fun stored => stored.request == request) :=
      any_eq_true.mpr ⟨stored, mem_of_find?_eq_some hfind, hrequest⟩
    rw [hanswered]
    refine ⟨fun h => ?_, fun h => (nomatch h)⟩
    dsimp only at h
    split at h <;> cases h

/-- What the end of an export appends. -/
def ExportEnds (s : Session) (journal : ExportJournal) (s' : Session) : Prop :=
  (s.answered journal.request ∧ s'.events = s.events ∧ s'.commands = s.commands) ∨
    (s.answered journal.request = false ∧ s'.events = s.events ++ [exportedEvent journal])

theorem advanceExport_ends (journal : ExportJournal) :
    wp (advanceExport journal) (fun _ => ExportEnds s journal) (fun _ _ => True) s := by
  refine advanceExport_spec
    (I := fun s' => s'.events = s.events ∧ s'.commands = s.commands) ⟨rfl, rfl⟩
    (fun _ _ => trivial) (fun _ _ h => h) (fun s' stored h hstored => ?_)
    fun s' h hsome hnone => ?_
  · refine .inl ⟨?_, h⟩
    rw [Session.answered, ← h.2, ← Session.answered, ← Bool.not_eq_false,
      ← recorded_eq_none_iff s' _ journal.command, hstored]
    exact nofun
  · obtain ⟨column, hrow⟩ := Option.isSome_iff_exists.mp hsome
    refine .inr ⟨?_, ?_⟩
    · rw [Session.answered, ← h.2]
      exact (recorded_eq_none_iff s' _ _).mp hnone
    · rw [← h.1]
      exact Session.apply_commit_events hrow [exportedEvent journal]
        (some ⟨journal.request, journal.command, .exported journal.exportId⟩)

theorem resumeExports_resumed :
    wp resumeExports (fun _ => ExportsResumed s) (fun _ _ => True) s := by
  unfold resumeExports
  rw [wp_bind, wp_invoke]
  refine ⟨trivial, ?_⟩
  -- as long as nothing was appended the outcomes are those of the start
  refine wp_mono (fun _ s' hs' => ?_) (fun _ _ he => he)
    (wp_forEach (fun (rest : List ExportJournal) s' =>
        ∃ done exported, done ++ rest = s.exports ∧
          s'.events = s.events ++ exported.map exportedEvent ∧
          (exported = [] → s'.commands = s.commands) ∧
          (exported = [] ↔ ∀ journal ∈ done, s.answered journal.request = true))
      ?_ s.exports s ⟨[], [], rfl, (append_nil _).symm, fun _ => rfl, by simp⟩)
  · obtain ⟨done, exported, hdone, hevents, _, howes⟩ := hs'
    rw [append_nil] at hdone
    refine ⟨exported, hevents, howes.trans ?_⟩
    rw [hdone]
    simp [Session.owesExport]
  · rintro journal rest s' ⟨done, exported, hdone, hevents, hcommands, howes⟩
    rw [wp_bind, wp_invoke]
    refine ⟨trivial, ?_⟩
    cases hkey : s'.key with
    | false => trivial
    | true =>
      simp only [if_true]
      rw [wp_bind]
      refine wp_mono (fun _ s'' hends => ?_) (fun _ _ _ => trivial) (advanceExport_ends journal)
      have hsplit : done ++ [journal] ++ rest = s.exports := by simpa using hdone
      rcases hends with ⟨hanswered, hevents', hcommands'⟩ | ⟨hanswered, hevents'⟩
      · refine ⟨done ++ [journal], exported, hsplit, hevents'.trans hevents,
          fun hnil => hcommands'.trans (hcommands hnil), ?_⟩
        constructor
        · intro hnil other hmem
          rcases mem_append.mp hmem with hmem | hmem
          · exact howes.mp hnil other hmem
          · rw [mem_singleton.mp hmem, Session.answered, ← hcommands hnil]
            exact hanswered
        · exact fun hall => howes.mpr fun other hmem => hall other (mem_append_left _ hmem)
      · refine ⟨done ++ [journal], exported ++ [journal], hsplit, ?_, by simp, by simp, ?_⟩
        · rw [hevents', hevents, map_append, append_assoc]
          rfl
        intro hall
        have hnil := howes.mpr fun other hmem => hall other (mem_append_left _ hmem)
        have hagain := hall journal (by simp)
        rw [Session.answered, ← hcommands hnil] at hagain
        exact absurd (hanswered.symm.trans hagain) (by decide)

end

/-! ## Each pass -/

/-- A pass that went well. -/
def PassedWell (pass : RecoveryPass) (s s' : Session) : Prop :=
  Passes s pass true s' ∧ (pass = .exports → ExportsResumed s s')

theorem passedWell (pass : RecoveryPass) (s : Session) :
    wp pass.program (fun _ => PassedWell pass s) (fun _ _ => True) s := by
  have hpasses : wp pass.program (fun _ => Passes s pass true) (fun _ _ => True) s :=
    wp_mono (fun _ _ h => h) (fun _ _ _ => trivial) (pass.passes s)
  by_cases hexports : pass = .exports
  · subst hexports
    exact wp_mono (fun _ s' h => ⟨h.1, fun _ => h.2⟩) (fun _ _ _ => trivial)
      (wp_and hpasses resumeExports_resumed)
  · exact wp_mono (fun _ s' h => ⟨h, fun heq => absurd heq hexports⟩) (fun _ _ he => he) hpasses

/-- The events with which recovery completes the control that the history ends with. -/
def completionOf (events : List Event) : List Event := (controlCompletion events).getD []

section

variable {s s' : Session}

/-- The session appended these events; its row and its other journals are as they were. -/
structure Extended (s : Session) (events : List Event) (s' : Session) : Prop where
  events : s'.events = s.events ++ events
  row : s'.row.isSome = s.row.isSome
  creation : s'.creation = s.creation
  deletion : s'.deletion = s.deletion

theorem Extended.refl (s : Session) : Extended s [] s := ⟨(append_nil _).symm, rfl, rfl, rfl⟩

theorem Extended.commit (hrow : s.row.isSome) (batch : List Event)
    (stored : Option StoredCommand) : Extended s batch (s.apply (.commit batch stored)) := by
  obtain ⟨column, hcolumn⟩ := Option.isSome_iff_exists.mp hrow
  exact ⟨Session.apply_commit_events hcolumn batch stored, Option.isSome_map, rfl, rfl⟩

theorem Extended.trans {middle : Session} {first second : List Event} (h : Extended s first middle)
    (h' : Extended middle second s') : Extended s (first ++ second) s' where
  events := by rw [h'.events, h.events, append_assoc]
  row := h'.row.trans h.row
  creation := h'.creation.trans h.creation
  deletion := h'.deletion.trans h.deletion

theorem Extended.eachAlone (hrow : s.row.isSome) (events : List Event) :
    Extended s events (s.after (eachAlone events events.length)) ∧
      (s.after (Daemon.eachAlone events events.length)).exports = s.exports := by
  induction events generalizing s with
  | nil => exact ⟨.refl s, rfl⟩
  | cons event rest ih =>
    have hfirst := Extended.commit hrow [event] none
    obtain ⟨hrest, hexports⟩ := ih (hfirst.row.trans hrow)
    exact ⟨hfirst.trans hrest, hexports⟩

theorem passed_creations (h : Passes s .creations true s') :
    ∃ key, s' = { s with key, creation := none } := by
  obtain ⟨effects, hpass, rfl⟩ := h
  cases hpass with
  | creations _ _ hdone heffects =>
    cases heffects with
    | none =>
      have hnone := (hdone rfl).resolve_right (by simp)
      exact ⟨s.key, by rw [← hnone]; rfl⟩
    | undone => exact ⟨false, rfl⟩
    | closed => exact ⟨s.key, rfl⟩

theorem passed_deletions (h : Passes s .deletions true s') :
    (s.deletion = none ∧ s' = s) ∨
      ∃ journal, s.deletion = some journal ∧
        s' = s.after [.destroyKey, .finishDeletion journal] := by
  obtain ⟨effects, hpass, rfl⟩ := h
  cases hpass with
  | noDeletion hnone => exact .inl ⟨hnone, rfl⟩
  | deletion journal hsome => exact .inr ⟨journal, hsome, rfl⟩

theorem passed_sessions (h : Passes s .sessions true s') :
    ∃ known, s' = { s with workflowKnown := known } := by
  obtain ⟨effects, hpass, rfl⟩ := h
  cases hpass with
  | sessions _ _ heffects =>
    cases heffects with
    | unknown => exact ⟨s.workflowKnown, rfl⟩
    | known => exact ⟨true, rfl⟩

theorem after_exports {commands : Command → Prop} {effects : List Effect}
    (h : ∀ effect ∈ effects, ExportEffect commands effect) :
    (s.after effects).row.isSome = s.row.isSome ∧ (s.after effects).creation = s.creation ∧
      (s.after effects).deletion = s.deletion := by
  induction effects generalizing s with
  | nil => exact ⟨rfl, rfl, rfl⟩
  | cons effect rest ih =>
    obtain ⟨hrow, hcreation, hdeletion⟩ :=
      @ih (s.apply effect) fun other hmem => h other (mem_cons_of_mem _ hmem)
    cases h effect mem_cons_self with
    | record => exact ⟨hrow.trans Option.isSome_map, hcreation, hdeletion⟩
    | journal | stage | close => exact ⟨hrow, hcreation, hdeletion⟩

theorem passed_exports (h : PassedWell .exports s s') :
    s'.exports = [] ∧ ∃ exported,
      Extended s (exported.map exportedEvent) s' ∧ (exported = [] ↔ s.owesExport = false) := by
  obtain ⟨⟨effects, hpass, rfl⟩, hresumed⟩ := h
  obtain ⟨exported, hevents, howes⟩ := hresumed rfl
  cases hpass with
  | exports _ _ heffects hdone =>
    obtain ⟨hrow, hcreation, hdeletion⟩ := after_exports heffects
    exact ⟨hdone rfl, exported, ⟨hevents, hrow, hcreation, hdeletion⟩, howes⟩

theorem passed_controls (h : Passes s .controls true s') (hrow : s.row.isSome) :
    Extended s (completionOf s.events) s' ∧ s'.exports = s.exports := by
  obtain ⟨effects, hpass, rfl⟩ := h
  unfold completionOf
  cases hpass with
  | controls _ hdone =>
    rw [hdone rfl hrow]
    exact ⟨.refl s, rfl⟩
  | control batch _ hbatch =>
    rw [hbatch]
    exact ⟨.commit hrow batch none, rfl⟩

theorem passed_attempts (h : Passes s .attempts true s') (hrow : s.row.isSome) :
    Extended s ((uncertainAttempts s.events).map recoveredEvent) s' ∧ s'.exports = s.exports := by
  obtain ⟨effects, hpass, rfl⟩ := h
  cases hpass with
  | attempts _ cut hdone =>
    have hall := Extended.eachAlone hrow ((uncertainAttempts s.events).map recoveredEvent)
    have hcut : eachAlone ((uncertainAttempts s.events).map recoveredEvent) cut
        = eachAlone ((uncertainAttempts s.events).map recoveredEvent)
          ((uncertainAttempts s.events).map recoveredEvent).length := by
      unfold eachAlone
      rw [take_of_length_le (by simpa using hdone rfl), take_of_length_le (by simp)]
    rw [← hcut] at hall
    exact hall

/-- Without a row nothing is appended. -/
theorem passed_rowless {pass : RecoveryPass} (h : Passes s pass true s')
    (hpass : pass = .controls ∨ pass = .attempts) (hrow : s.row = none) (hevents : s.events = []) :
    s' = s := by
  obtain ⟨effects, h, rfl⟩ := h
  cases h with
  | controls => rfl
  | control _ hsome =>
    rw [hrow] at hsome
    cases hsome
  | attempts =>
    rw [hevents]
    exact congrArg s.after take_nil
  | _ => rcases hpass with hpass | hpass <;> cases hpass

end

/-! ## Facts and controls -/

/-- The event asks for a control, or confirms one, that is not completed yet. -/
def Event.leavesControl (event : Event) : Bool :=
  match event.payload with
  | .pauseRequested _ | .cancelRequested _ | .cancelConfirmed _ => true
  | _ => false

section

variable {events : List Event} {attempt : Uuid}

theorem hasFact_append (first second : List Event) (attempt : Uuid) :
    hasFact (first ++ second) attempt = (hasFact first attempt || hasFact second attempt) :=
  any_append

theorem mem_uncertainAttempts :
    attempt ∈ uncertainAttempts events ↔
      attempt ∈ startedAttempts events ∧ hasFact events attempt = false := by
  simp [uncertainAttempts, mem_insertionSort, mem_dedup]

/-- Events that neither start nor settle an attempt. -/
theorem mem_uncertainAttempts_append {others : List Event} (hstarted : startedAttempts others = [])
    (hfacts : ∀ attempt, hasFact others attempt = false) :
    attempt ∈ uncertainAttempts (events ++ others) ↔ attempt ∈ uncertainAttempts events := by
  rw [mem_uncertainAttempts, mem_uncertainAttempts, startedAttempts_append, hstarted,
    hasFact_append, hfacts]
  simp

theorem hasFact_recovered (attempts : List Uuid) :
    hasFact (attempts.map recoveredEvent) attempt ↔ attempt ∈ attempts := by
  rw [hasFact, any_map, any_eq_true]
  simp [recoveredEvent, Event.isFact]

theorem uncertainAttempts_recovered (events : List Event) :
    uncertainAttempts (events ++ (uncertainAttempts events).map recoveredEvent) = [] := by
  simp only [eq_nil_iff_forall_not_mem, mem_uncertainAttempts, not_and, Bool.not_eq_false]
  intro attempt hmem
  have hnone : startedAttempts ((uncertainAttempts events).map recoveredEvent) = [] := by
    rw [startedAttempts, filterMap_map]
    exact filterMap_eq_nil_iff.mpr fun _ _ => rfl
  rw [startedAttempts_append, hnone, append_nil] at hmem
  rw [hasFact_append, Bool.or_eq_true, hasFact_recovered, mem_uncertainAttempts]
  cases hfact : hasFact events attempt with
  | true => exact .inl rfl
  | false => exact .inr ⟨hmem, rfl⟩

theorem controlCompletion_eq_none_iff :
    controlCompletion events = none ↔ events.getLast?.any Event.leavesControl = false := by
  unfold controlCompletion
  cases events.getLast? with
  | none => exact ⟨fun _ => rfl, fun _ => rfl⟩
  | some last =>
    obtain ⟨payload, causation, attempt⟩ := last
    cases payload with
    | cancelRequested =>
      dsimp only
      split <;> exact ⟨fun h => (nomatch h), fun h => (nomatch h)⟩
    | pauseRequested | cancelConfirmed =>
      exact ⟨fun h => (nomatch h), fun h => (nomatch h)⟩
    | _ => exact ⟨fun _ => rfl, fun _ => rfl⟩

/-- What completes a control ends with an event that asks for nothing. -/
theorem leavesControl_completion {batch : List Event} (h : controlCompletion events = some batch) :
    ∃ init last, batch = init ++ [last] ∧ Event.leavesControl last = false := by
  unfold controlCompletion at h
  split at h
  · cases h
  split at h
  · cases h
    exact ⟨[], _, rfl, rfl⟩
  · split at h <;> cases h
    · exact ⟨[_], _, rfl, rfl⟩
    · exact ⟨[], _, rfl, rfl⟩
  · cases h
    exact ⟨[], _, rfl, rfl⟩
  · cases h

theorem controlCompletion_concat {last : Event} (h : Event.leavesControl last = false) :
    controlCompletion (events ++ [last]) = none := by
  rw [controlCompletion_eq_none_iff, getLast?_concat]
  exact h

/-- The history of a session behind its exports, after a recovery. -/
def recoveredHistory (events : List Event) : List Event :=
  let controlled := events ++ completionOf events
  controlled ++ (uncertainAttempts controlled).map recoveredEvent

theorem controlCompletion_completed (events : List Event) :
    controlCompletion (events ++ completionOf events) = none := by
  unfold completionOf
  cases hbatch : controlCompletion events with
  | none =>
    rw [Option.getD_none, append_nil]
    exact hbatch
  | some batch =>
    obtain ⟨init, last, hsplit, hlast⟩ := leavesControl_completion hbatch
    rw [Option.getD_some, hsplit, ← append_assoc]
    exact controlCompletion_concat hlast

theorem controlCompletion_recovered (events : List Event) :
    controlCompletion (recoveredHistory events) = none := by
  unfold recoveredHistory
  dsimp only
  generalize hcontrolled : events ++ completionOf events = controlled
  rcases eq_nil_or_concat (uncertainAttempts controlled) with hnil | ⟨init, last, hsplit⟩
  · rw [hnil, map_nil, append_nil, ← hcontrolled]
    exact controlCompletion_completed events
  · rw [hsplit, concat_eq_append, map_append, ← append_assoc]
    exact controlCompletion_concat rfl

end

/-! ## The whole recovery -/

/-- Nothing is left for a recovery to do. -/
structure Settled (s : Session) : Prop where
  creation : s.creation = none
  exports : s.exports = []
  deletion : s.deletion = none
  control : s.row.isSome → controlCompletion s.events = none
  attempts : uncertainAttempts s.events = []

/-- What a recovery that goes well makes of a session. -/
inductive Restarted (s s' : Session) : Prop where
  | gone (hbefore : s.row = none ∨ s.deletion.isSome) (hrow : s'.row = none)
      (hevents : s'.events = [])
  | kept (exported : List ExportJournal) (hrow : s.row.isSome) (hdeletion : s.deletion = none)
      (hrow' : s'.row.isSome) (howes : exported = [] ↔ s.owesExport = false)
      (hevents : s'.events = recoveredHistory (s.events ++ exported.map exportedEvent))

section

variable {s s' : Session}

theorem settled_of_gone (hcreation : s.creation = none) (hexports : s.exports = [])
    (hdeletion : s.deletion = none) (hrow : s.row = none) (hevents : s.events = []) :
    Settled s where
  creation := hcreation
  exports := hexports
  deletion := hdeletion
  control hsome := by
    rw [hrow] at hsome
    cases hsome
  attempts := by
    rw [hevents]
    rfl

theorem restarted (hrowHolds : RowHolds s) (h : Through PassedWell recoveryPasses s s') :
    Restarted s s' ∧ Settled s' := by
  obtain ⟨created, hcreations, exporting, hexports, deleted, hdeletions, loaded, hsessions,
    controlled, hcontrols, marked, hattempts, rfl⟩ := h
  obtain ⟨key, rfl⟩ := passed_creations hcreations.1
  obtain ⟨hnoExports, exported, hextended, howes⟩ := passed_exports hexports
  have hexporting : RowHolds exporting := by
    have hcreated : RowHolds { s with key, creation := none } := hrowHolds.congr rfl rfl
    obtain ⟨⟨effects, _, rfl⟩, _⟩ := hexports
    exact hcreated.after effects
  obtain ⟨known, rfl⟩ := passed_sessions hsessions.1
  rcases passed_deletions hdeletions.1 with ⟨hnone, rfl⟩ | ⟨journal, hjournal, rfl⟩
  · rw [hextended.deletion] at hnone
    cases hrow : deleted.row with
    | none =>
      have hevents := hexporting hrow
      obtain rfl := passed_rowless hcontrols.1 (.inl rfl) hrow hevents
      obtain rfl := passed_rowless hattempts.1 (.inr rfl) hrow hevents
      have hbefore : s.row = none := by
        have hsome := hextended.row
        rw [hrow] at hsome
        simpa using hsome.symm
      exact ⟨.gone (.inl hbefore) hrow hevents, settled_of_gone hextended.creation hnoExports
        (hextended.deletion.trans hnone) hrow hevents⟩
    | some column =>
      have hsome : deleted.row.isSome := by rw [hrow]; rfl
      obtain ⟨hcompleted, hexports'⟩ := passed_controls hcontrols.1 hsome
      obtain ⟨hrecovered, hexports''⟩ := passed_attempts hattempts.1 (hcompleted.row.trans hsome)
      have hall := hcompleted.trans hrecovered
      have hevents : s'.events
          = recoveredHistory (s.events ++ exported.map exportedEvent) := by
        rw [hall.events, hcompleted.events, hextended.events]
        exact (append_assoc _ _ _).symm
      refine ⟨.kept exported (hextended.row.symm.trans hsome) hnone
        (hall.row.trans hsome) howes hevents,
        ⟨hall.creation.trans hextended.creation, hexports''.trans (hexports'.trans hnoExports),
          hall.deletion.trans (hextended.deletion.trans hnone), fun _ => ?_, ?_⟩⟩
      · rw [hevents]
        exact controlCompletion_recovered _
      · rw [hevents]
        exact uncertainAttempts_recovered _
  · obtain rfl := passed_rowless hcontrols.1 (.inl rfl) rfl rfl
    obtain rfl := passed_rowless hattempts.1 (.inr rfl) rfl rfl
    have hbefore : s.deletion.isSome := by
      rw [← hextended.deletion, hjournal]
      rfl
    exact ⟨.gone (.inr hbefore) rfl rfl, settled_of_gone hextended.creation hnoExports rfl rfl rfl⟩

end

end Workbench.Daemon
