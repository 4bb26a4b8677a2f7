import Workbench.Daemon.Plan.Tasks

/-!
# Daemon: what creation, maintenance, shutdown and recovery can do

The programs that run outside of any task, as lists of changes to one session.  Each
pass of recovery says what it does when it succeeds and what it may leave behind when
it fails.
-/

namespace Workbench.Daemon

open Workbench.Core Config Storage Library Program List

/-- The end of an unfinished creation, up to where it was cut short. -/
inductive Reconciling (s : Session) : Bool → List Effect → Prop where
  | none (done : Bool) : Reconciling s done []
  | keyDestroyed (hrow : s.row = none) : Reconciling s false [.destroyKey]
  | undone (hrow : s.row = none) : Reconciling s true [.destroyKey, .closeCreation]
  | closed (hrow : s.row.isSome) : Reconciling s true [.closeCreation]

/-- What `create_session` does to a new session. -/
inductive Creation : List Effect → Prop where
  | failed (cut : Nat) (undo : List Effect)
      (hundo : undo = [] ∨ undo = [.destroyKey] ∨ undo = [.destroyKey, .closeCreation]) :
      Creation ([.journalCreation, .createKey, .markKeyCreated].take cut ++ undo)
  | created (rest : List Effect) (hrest : rest = [] ∨ rest = [.knowWorkflow]) :
      Creation ([.journalCreation, .createKey, .markKeyCreated, .insertSession] ++ rest)

/-- What the load of a stored session changes. -/
inductive Hydration : List Effect → Prop where
  | unknown : Hydration []
  | known : Hydration [.knowWorkflow]

/-- The event with which recovery marks an attempt. -/
def recoveredEvent (attempt : Uuid) : Event :=
  ⟨.outcomeUnknown "daemon_recovery", none, some attempt⟩

/-- What one pass of recovery does to a session, and whether it succeeds. -/
inductive Pass (s : Session) : RecoveryPass → Bool → List Effect → Prop where
  | creations (done : Bool) (effects : List Effect)
      (hdone : done → s.creation = none ∨ effects ≠ []) (heffects : Reconciling s done effects) :
      Pass s .creations done effects
  | exports (done : Bool) (effects : List Effect)
      (heffects : ∀ effect ∈ effects, ExportEffect s.exporting effect)
      (hdone : done → (s.after effects).exports = []) : Pass s .exports done effects
  | noDeletion (hnone : s.deletion = none) : Pass s .deletions true []
  | deletionCut (journal : DeletionJournal) (cut : Nat) (hsome : s.deletion = some journal) :
      Pass s .deletions false ([.destroyKey].take cut)
  | deletion (journal : DeletionJournal) (hsome : s.deletion = some journal) :
      Pass s .deletions true [.destroyKey, .finishDeletion journal]
  | sessions (done : Bool) (effects : List Effect) (heffects : Hydration effects) :
      Pass s .sessions done effects
  | controls (done : Bool)
      (hdone : done → s.row.isSome → controlCompletion s.events = none) : Pass s .controls done []
  | control (batch : List Event) (hrow : s.row.isSome)
      (hbatch : controlCompletion s.events = some batch) :
      Pass s .controls true [.commit batch none]
  | attempts (done : Bool) (cut : Nat)
      (hdone : done → (uncertainAttempts s.events).length ≤ cut) :
      Pass s .attempts done (eachAlone ((uncertainAttempts s.events).map recoveredEvent) cut)

section

variable {E : Session → Prop} {s : Session} {ok : Unit → Session → Prop}

theorem store_spec {effect : Effect} (herr : E s) (hok : ok () (s.apply effect)) :
    wp (store effect) ok (fun _ => E) s := by
  rw [store, wp_invoke]
  exact ⟨herr, hok⟩

theorem reconcileCreation_spec (herr : ∀ effects, Reconciling s false effects → E (s.after effects))
    (hok : ∀ effects, Reconciling s true effects → (s.creation = none ∨ effects ≠ []) →
      ok () (s.after effects)) : wp reconcileCreation ok (fun _ => E) s := by
  unfold reconcileCreation
  rw [wp_bind, wp_read]
  split
  · rw [wp_bind, wp_read]
    split
    · next hrow =>
      have hrow := Option.isNone_iff_eq_none.mp hrow
      rw [wp_bind, destroySessionKey, wp_invoke]
      refine ⟨herr [] (.none _), ?_⟩
      exact store_spec (herr _ (.keyDestroyed hrow)) (hok _ (.undone hrow) (.inr (by simp)))
    · next hrow =>
      have hrow : s.row.isSome := by
        cases hrow' : s.row with
        | none => rw [hrow'] at hrow; exact absurd rfl hrow
        | some column => rfl
      exact store_spec (herr [] (.none _)) (hok _ (.closed hrow) (.inr (by simp)))
  · next hcreation =>
    have hcreation : s.creation = none := by simpa using hcreation
    exact hok [] (.none _) (.inl hcreation)

/-- The changes so far are those of a creation. -/
def Creating (s s' : Session) : Prop := s.Underwent Creation s'

variable {s : Session}

theorem undo_creating (hrow : s.row = none) (cut : Nat) (error : DaemonError) :
    wp (do ignoringErrors reconcileCreation; fail error : App Unit) ok (fun _ => Creating s)
      (s.after ([.journalCreation, .createKey, .markKeyCreated].take cut)) := by
  have hrow' : (s.after ([.journalCreation, .createKey, .markKeyCreated].take cut)).row = none := by
    match cut with
    | 0 | 1 | 2 => exact hrow
    | cut + 3 => rw [take_of_length_le (by simp)]; exact hrow
  have hcreating : ∀ done effects, Reconciling
      (s.after ([.journalCreation, .createKey, .markKeyCreated].take cut)) done effects →
      Creating s ((s.after ([.journalCreation, .createKey, .markKeyCreated].take cut)).after
        effects) := by
    intro done effects heffects
    cases heffects with
    | none => exact ⟨_, .failed cut [] (.inl rfl), (Session.after_append _ _ _).symm⟩
    | keyDestroyed => exact ⟨_, .failed cut _ (.inr (.inl rfl)), (Session.after_append _ _ _).symm⟩
    | undone => exact ⟨_, .failed cut _ (.inr (.inr rfl)), (Session.after_append _ _ _).symm⟩
    | closed hsome => rw [hrow'] at hsome; cases hsome
  rw [wp_bind, wp_ignoringErrors]
  exact reconcileCreation_spec (fun effects heffects => hcreating _ effects heffects)
    (fun effects heffects _ => hcreating _ effects heffects)

theorem createSession_creating (hrow : s.row = none) :
    wp createSession (fun _ => Creating s) (fun _ => Creating s) s := by
  have hcreated := fun rest hrest => (⟨_, Creation.created rest hrest, rfl⟩ :
    Creating s (s.after ([.journalCreation, .createKey, .markKeyCreated, .insertSession] ++ rest)))
  unfold createSession
  rw [wp_bind]
  refine store_spec ⟨_, .failed 0 [] (.inl rfl), rfl⟩ ?_
  rw [wp_bind, wp_catchError]
  unfold finishCreateSession
  rw [wp_bind, store, wp_invoke]
  refine ⟨undo_creating hrow 1 _, ?_⟩
  dsimp only
  rw [wp_bind, store, wp_invoke]
  refine ⟨undo_creating hrow 2 _, ?_⟩
  dsimp only
  rw [store, wp_invoke]
  refine ⟨undo_creating hrow 3 _, ?_⟩
  dsimp only
  rw [wp_bind, wp_read]
  split
  · rw [wp_perform]
    exact hcreated _ (.inr rfl)
  · exact hcreated [] (.inl rfl)

theorem loadSession_spec (herr : E s) (hok : s.row.isSome → s.key → ok () s) :
    wp loadSession ok (fun _ => E) s := by
  rw [loadSession, wp_invoke]
  refine ⟨herr, ?_⟩
  cases hrow : s.row with
  | none => exact herr
  | some column =>
    cases hkey : s.key with
    | false => exact herr
    | true => exact hok (by rw [hrow]; rfl) hkey

theorem hydrate_spec {err : DaemonError → Session → Prop}
    (hok : ∀ effects, Hydration effects → ok () (s.after effects)) : wp hydrate ok err s := by
  unfold hydrate
  rw [wp_ignoringErrors]
  refine history_spec (hok [] .unknown) ?_
  split
  · rw [wp_perform]
    exact hok _ .known
  · exact hok [] .unknown

theorem recreate_hydrates :
    wp Application.recreate (fun _ => s.Underwent Hydration) (fun _ => s.Underwent Hydration)
      s := by
  unfold Application.recreate
  rw [wp_bind, wp_read]
  split
  · rw [wp_bind]
    refine loadSession_spec ⟨[], .unknown, rfl⟩ fun _ _ => ?_
    exact hydrate_spec fun effects heffects => ⟨effects, heffects, rfl⟩
  · exact ⟨[], .unknown, rfl⟩

/-- The retention pass: a load, then perhaps a deletion of a session whose column is final. -/
inductive Maintenance (s : Session) : List Effect → Prop where
  | loaded (effects : List Effect) (heffects : Hydration effects) : Maintenance s effects
  | deleted (loading deleting : List Effect) (column : SessionState)
      (hloading : Hydration loading) (hrow : s.row = some column) (hfinal : isFinal column)
      (hdeleting : Deletion (s.after loading) deleting) : Maintenance s (loading ++ deleting)

theorem Hydration.row_eq {effects : List Effect} (h : Hydration effects) :
    (s.after effects).row = s.row := by
  cases h <;> rfl

theorem maintain_maintenance (due : Bool) :
    wp (maintain due) (fun _ => s.Underwent (Maintenance s))
      (fun _ => s.Underwent (Maintenance s)) s := by
  unfold maintain
  rw [wp_bind]
  refine loadSession_spec ⟨[], .loaded _ .unknown, rfl⟩ fun _ _ => ?_
  rw [wp_bind]
  refine hydrate_spec fun loading hloading => ?_
  have hloaded : s.Underwent (Maintenance s) (s.after loading) :=
    ⟨loading, .loaded _ hloading, rfl⟩
  refine currentSessionState_spec hloaded fun column hrow => ?_
  rw [hloading.row_eq] at hrow
  rw [wp_bind, wp_read]
  split
  · next hdue =>
    rw [wp_bind, wp_read, wp_bind]
    refine requestDeletion_spec hloaded
      (fun deleting hdeleting => ⟨_, .deleted loading deleting column hloading hrow hdue.2.1
        hdeleting, (Session.after_append _ _ _).symm⟩)
      fun id done hdone => ?_
    rw [wp_perform]
    refine ⟨_, .deleted loading _ column hloading hrow hdue.2.1 hdone, ?_⟩
    rw [Session.after_append, Session.after_append]
  · exact hloaded

/-! ## The passes of recovery -/

/-- The ids of the open exports. -/
def Session.exportIds (s : Session) : List Uuid := s.exports.map (·.exportId)

theorem advanceExport_ids (journal : ExportJournal) :
    wp (advanceExport journal)
      (fun _ s' => s'.exportIds = s.exportIds.filter (· ≠ journal.exportId)) (fun _ _ => True)
      s := by
  have hclosed : ∀ s' : Session, s'.exportIds = s.exportIds →
      (s'.apply (.closeExport journal.exportId)).exportIds
        = s.exportIds.filter (· ≠ journal.exportId) := by
    intro s' hids
    rw [← hids, Session.exportIds, Session.exportIds, filter_map]
    rfl
  refine advanceExport_spec (I := fun s' => s'.exportIds = s.exportIds) rfl (fun _ _ => trivial)
    (fun s' stage hids => ?_) (fun s' _ hids _ => hclosed s' hids)
    fun s' hids _ _ => hclosed (s'.apply (.commit _ _)) hids
  rw [← hids]
  show (s'.exports.map _).map _ = _
  rw [map_map]
  refine map_congr_left fun journal _ => ?_
  simp only [Function.comp_apply]
  split <;> rfl

/-- The pass ended as one of its plans says; `done` tells whether it succeeded. -/
def Passes (s : Session) (pass : RecoveryPass) (done : Bool) (s' : Session) : Prop :=
  s.Underwent (Pass s pass done) s'

theorem resumeExports_passes :
    wp resumeExports (fun _ => Passes s .exports true) (fun _ => Passes s .exports false) s := by
  have hfailed : ∀ s', Exporting s.exporting s s' → Passes s .exports false s' :=
    fun s' ⟨effects, heffects, hs'⟩ => ⟨effects, .exports _ _ heffects nofun, hs'⟩
  unfold resumeExports
  rw [wp_bind, wp_invoke]
  refine ⟨hfailed s (.refl _ s), ?_⟩
  refine wp_mono (fun _ s' hs' => ?_) (fun _ _ he => he)
    (wp_forEach (fun (rest : List ExportJournal) s' => (∀ journal ∈ rest, journal ∈ s.exports) ∧
        Exporting s.exporting s s' ∧ ∀ id ∈ s'.exportIds, id ∈ rest.map ExportJournal.exportId)
      ?_ s.exports s ⟨fun _ hmem => hmem, .refl _ s, fun id hid => hid⟩)
  · obtain ⟨_, ⟨effects, heffects, rfl⟩, hids⟩ := hs'
    refine ⟨effects, .exports _ _ heffects fun _ => ?_, rfl⟩
    exact map_eq_nil_iff.mp (eq_nil_iff_forall_not_mem.mpr fun id hid => by
      simpa using hids id hid)
  · intro journal rest s' h
    obtain ⟨hjournals, hexporting, hids⟩ := h
    have hcommand : s.exporting journal.command :=
      ⟨journal, hjournals journal mem_cons_self, rfl⟩
    rw [wp_bind, wp_invoke]
    refine ⟨hfailed s' hexporting, ?_⟩
    cases hkey : s'.key with
    | false => exact hfailed s' hexporting
    | true =>
      simp only [if_true]
      rw [wp_bind]
      refine wp_mono (fun _ s'' hs'' => ⟨fun other hmem =>
          hjournals other (mem_cons_of_mem _ hmem), hs''.1, ?_⟩)
        (fun _ s'' hs'' => hfailed s'' hs''.1)
        (wp_and (advanceExport_exporting hexporting journal hcommand) (advanceExport_ids journal))
      intro id hid
      rw [hs''.2] at hid
      obtain ⟨hmem, hne⟩ := mem_filter.mp hid
      have hin := hids id hmem
      rcases mem_cons.mp hin with rfl | hin
      · simp at hne
      · exact hin

theorem reconcileCreation_passes :
    wp reconcileCreation (fun _ => Passes s .creations true) (fun _ => Passes s .creations false)
      s :=
  reconcileCreation_spec (fun effects heffects => ⟨effects, .creations _ _ nofun heffects, rfl⟩)
    fun effects heffects hdone => ⟨effects, .creations _ _ (fun _ => hdone) heffects, rfl⟩

theorem resumeDeletion_passes :
    wp resumeDeletion (fun _ => Passes s .deletions true) (fun _ => Passes s .deletions false)
      s := by
  unfold resumeDeletion
  rw [wp_bind, wp_read]
  split
  · next hsome =>
    obtain ⟨journal, hjournal⟩ := Option.isSome_iff_exists.mp hsome
    have hcut := fun cut => Pass.deletionCut journal cut hjournal
    rw [wp_bind]
    exact finishDeletion_spec hjournal ⟨_, hcut 0, rfl⟩ ⟨_, hcut 1, rfl⟩
      ⟨_, .deletion journal hjournal, rfl⟩
  · next hnone =>
    exact ⟨[], .noDeletion (by simpa using hnone), rfl⟩

theorem loadAndHydrate_passes :
    wp loadAndHydrate (fun _ => Passes s .sessions true) (fun _ => Passes s .sessions false)
      s := by
  unfold loadAndHydrate
  rw [wp_bind, wp_read]
  split
  · rw [wp_bind]
    refine loadSession_spec ⟨[], .sessions _ _ .unknown, rfl⟩ fun _ _ => ?_
    exact hydrate_spec fun effects heffects => ⟨effects, .sessions _ _ heffects, rfl⟩
  · exact ⟨[], .sessions _ _ .unknown, rfl⟩

theorem recoverIncompleteControls_passes :
    wp recoverIncompleteControls (fun _ => Passes s .controls true)
      (fun _ => Passes s .controls false) s := by
  have hfailed : Passes s .controls false s := ⟨[], .controls _ nofun, rfl⟩
  unfold recoverIncompleteControls
  rw [wp_bind, wp_read]
  split
  · next hrow =>
    refine history_spec hfailed ?_
    split
    · next hnone => exact ⟨[], .controls _ fun _ _ => hnone, rfl⟩
    · next batch hbatch =>
      exact appendEvents_spec hfailed fun _ => ⟨_, .control batch hrow hbatch, rfl⟩
  · next hrow => exact ⟨[], .controls _ fun _ h => absurd h hrow, rfl⟩

theorem after_eachAlone_succ (s : Session) (first : List Event) (event : Event)
    (rest : List Event) :
    s.after (eachAlone (first ++ event :: rest) (first.length + 1))
      = (s.after (eachAlone (first ++ event :: rest) first.length)).apply
          (.commit [event] none) := by
  have htake : eachAlone (first ++ event :: rest) (first.length + 1)
      = eachAlone (first ++ event :: rest) first.length ++ [.commit [event] none] := by
    simp [eachAlone, take_append]
  rw [htake, Session.after_append]
  rfl

theorem recoverUncertainAttempts_passes :
    wp recoverUncertainAttempts (fun _ => Passes s .attempts true)
      (fun _ => Passes s .attempts false) s := by
  have hcut : ∀ cut, Passes s .attempts false (s.after (eachAlone
      ((uncertainAttempts s.events).map recoveredEvent) cut)) :=
    fun cut => ⟨_, .attempts _ cut nofun, rfl⟩
  unfold recoverUncertainAttempts
  rw [wp_bind, wp_invoke]
  refine ⟨hcut 0, ?_⟩
  refine wp_mono (fun _ s' hs' => ?_) (fun _ _ he => he)
    (wp_forEach (fun (rest : List Uuid) s' => ∃ first, first ++ rest = uncertainAttempts s.events ∧
        s' = s.after (eachAlone ((uncertainAttempts s.events).map recoveredEvent) first.length))
      ?_ (uncertainAttempts s.events) s ⟨[], rfl, rfl⟩)
  · obtain ⟨first, hfirst, rfl⟩ := hs'
    refine ⟨_, .attempts _ first.length fun _ => ?_, rfl⟩
    rw [← hfirst, append_nil]
  rintro attempt rest s' ⟨first, hfirst, rfl⟩
  refine append_spec (hcut _) fun _ => ⟨first ++ [attempt], by simpa using hfirst, ?_⟩
  have hsucc := after_eachAlone_succ s (first.map recoveredEvent) (recoveredEvent attempt)
    (rest.map recoveredEvent)
  rw [← map_cons, ← map_append, hfirst, length_map] at hsucc
  rw [length_append, length_singleton]
  exact hsucc.symm

/-- Every pass follows its plan. -/
theorem RecoveryPass.passes (pass : RecoveryPass) (s : Session) :
    wp pass.program (fun _ => Passes s pass true) (fun _ => Passes s pass false) s := by
  cases pass with
  | creations => exact reconcileCreation_passes
  | exports => exact resumeExports_passes
  | deletions => exact resumeDeletion_passes
  | sessions => exact loadAndHydrate_passes
  | controls => exact recoverIncompleteControls_passes
  | attempts => exact recoverUncertainAttempts_passes

/-- What shutdown does to a session. -/
inductive ShuttingDown (s : Session) : List Effect → Prop where
  | idle : ShuttingDown s []
  | taken (execution : ActiveExecution) (hactive : s.active = some execution) :
      ShuttingDown s [.deactivate]
  | recorded (execution : ActiveExecution) (hactive : s.active = some execution) :
      ShuttingDown s [.deactivate,
        .commit [⟨.outcomeUnknown "daemon_shutdown", none, some execution.attempt⟩] none]

theorem shutdownRecord_shuttingDown :
    wp (Application.shutdownRecord s) (fun _ => s.Underwent (ShuttingDown s))
      (fun _ => s.Underwent (ShuttingDown s)) s := by
  unfold Application.shutdownRecord
  split
  · exact ⟨[], .idle, rfl⟩
  · next execution hactive =>
    rw [wp_bind, wp_perform]
    exact append_spec ⟨_, .taken execution hactive, rfl⟩
      fun _ => ⟨_, .recorded execution hactive, rfl⟩

end

end Workbench.Daemon
