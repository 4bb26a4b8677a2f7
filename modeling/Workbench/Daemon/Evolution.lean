import Workbench.Daemon.Plan.Visits
import Workbench.Library.Transition

/-!
# Daemon: how a session evolves

`Evolution` lists what an action of the application can do to one session, and
`step_sessions` says that a step does nothing else.  An invariant of sessions is then
proved by a case analysis over the evolutions (`sessions_invariant`).
-/

namespace Workbench.Daemon

open Workbench.Core Config Storage Library Program List

/-- What the passes do to one session.  The flag says whether all went well; a session whose turn
does not come is left alone. -/
inductive Recovery : List RecoveryPass → Session → Bool → Session → Prop where
  | done (s : Session) : Recovery [] s true s
  | stopped (passes : List RecoveryPass) (s : Session) : Recovery passes s false s
  | failed (pass : RecoveryPass) (rest : List RecoveryPass) (s s' : Session)
      (hpass : Passes s pass false s') : Recovery (pass :: rest) s false s'
  | passed (pass : RecoveryPass) (rest : List RecoveryPass) (s middle s' : Session) (done : Bool)
      (hpass : Passes s pass true middle) (hrest : Recovery rest middle done s') :
      Recovery (pass :: rest) s done s'

variable (env : Environment) (index : Nat) (s : Session) in
/-- What an action does to the session at a position. -/
inductive Evolution : Action → Session → Prop where
  | unchanged (action : Action) : Evolution action s
  | submitted (request : Uuid) (command : Command) :
      Evolution (.submit index request command) (s.apply (.spawn (.command request command)))
  | dropped (task : Nat) (response : Response) (faults : List Bool) :
      Evolution (.resume index task response faults) (s.without task)
  | stepped (task : Nat) (response : Response) (faults : List Bool) (point : Point)
      (effects : List Effect) (next : Option Point) (hpoint : s.tasks[task]? = some point)
      (hlock : needsLock point response → s.locked = false)
      (hplan : Plan env (s.without task) point response effects next) :
      Evolution (.resume index task response faults) (((s.without task).after effects).settle next)
  | loaded (request : Uuid) (workflow : Option String) (configuration : WorkbenchConfiguration)
      (retryFaults faults : List Bool) (effects : List Effect) (heffects : Hydration effects) :
      Evolution (.create request workflow configuration retryFaults faults)
        ((s.after effects).settle none)
  | reconciled (request : Uuid) (workflow : Option String) (configuration : WorkbenchConfiguration)
      (retryFaults faults : List Bool) (done : Bool) (effects : List Effect)
      (heffects : Reconciling s done effects) :
      Evolution (.create request workflow configuration retryFaults faults)
        ((s.after effects).settle none)
  | maintained (due : Bool) (faults : List Bool) (effects : List Effect)
      (hlock : s.locked = false) (heffects : Maintenance s effects) :
      Evolution (.maintain index due faults) ((s.after effects).settle none)
  | aborted : Evolution .drain s.aborted
  | shutDown (faults : List (List Bool)) (effects : List Effect)
      (hgate : s.tasks.any Point.holdsGate = false) (heffects : ShuttingDown s effects) :
      Evolution (.shutdown faults) ((s.after effects).apply .deactivate)
  | crashed : Evolution .crash s.crashed
  | recovered (faults : RecoveryPass → List (List Bool)) (s' : Session)
      (hrecovery : Recovery recoveryPasses s true s') : Evolution (.recover faults) s'
  | recoveryFailed (faults : RecoveryPass → List (List Bool)) (s' : Session)
      (hrecovery : Recovery recoveryPasses s false s') : Evolution (.recover faults) s'.crashed

/-! ## Sweeps and passes -/

/-- A sweep that goes well has run on every session; otherwise some were left alone. -/
theorem sweep_forall₂ {prog : Session → App Unit} {done left : Session → Session → Prop}
    (hprog : ∀ s, wp (prog s) (fun _ => done s) (fun _ => left s) s) (faults : List (List Bool))
    (sessions : List Session) :
    Forall₂ (fun s s' => done s s' ∨
        ((Application.sweep prog faults sessions).1 = false ∧ (left s s' ∨ s' = s)))
      sessions (Application.sweep prog faults sessions).2 := by
  induction sessions generalizing faults with
  | nil => exact .nil
  | cons s rest ih =>
    have hends := wp_run (hprog s) (faults.headD [])
    unfold Application.sweep
    generalize (prog s).run (faults.headD []) s = outcome at hends
    match outcome, hends with
    | (.ok u, s'), hdone =>
      exact .cons (.inl hdone) (ih faults.tail)
    | (.error e, s'), hleft =>
      refine .cons (.inr ⟨rfl, .inl hleft⟩) ?_
      exact forall₂_same.mpr fun s _ => .inr ⟨rfl, .inr rfl⟩

theorem forall₂_trans {α : Type} {R S T : α → α → Prop} (htrans : ∀ a b c, R a b → S b c → T a c)
    {xs ys zs : List α} (hfirst : Forall₂ R xs ys) (hsecond : Forall₂ S ys zs) :
    Forall₂ T xs zs := by
  induction hfirst generalizing zs with
  | nil =>
    cases hsecond
    exact .nil
  | cons hhead _ ih =>
    cases hsecond with
    | cons hhead' htail' => exact .cons (htrans _ _ _ hhead hhead') (ih htail')

/-- What the passes do to all sessions: `T` holds of those that go through all of them and of one
that a failure stops. -/
theorem recoverPasses_rule {done left : RecoveryPass → Session → Session → Prop}
    {T : List RecoveryPass → Session → Bool → Session → Prop}
    (hpass : ∀ pass s, wp (RecoveryPass.program pass) (fun _ => done pass s)
    (fun _ => left pass s) s)
    (hnil : ∀ s, T [] s true s) (hstopped : ∀ passes s, T passes s false s)
    (hfailed : ∀ pass rest s s', left pass s s' → T (pass :: rest) s false s')
    (hpassed : ∀ pass rest s middle s' ended, done pass s middle → T rest middle ended s' →
      T (pass :: rest) s ended s')
    (faults : RecoveryPass → List (List Bool)) (passes : List RecoveryPass)
    (sessions : List Session) :
    Forall₂ (fun s s' => T passes s (Application.recoverPasses faults passes sessions).1 s')
      sessions (Application.recoverPasses faults passes sessions).2 := by
  induction passes generalizing sessions with
  | nil => exact forall₂_same.mpr fun s _ => hnil s
  | cons pass rest ih =>
    have hsweep := sweep_forall₂ (fun s => hpass pass s) (faults pass) sessions
    unfold Application.recoverPasses
    generalize Application.sweep (fun _ => pass.program) (faults pass) sessions = outcome at hsweep
    match outcome, hsweep with
    | (false, swept), hsweep =>
      refine hsweep.imp fun s s' h => ?_
      rcases h with hdone | ⟨_, hleft | rfl⟩
      · exact hpassed pass rest s s' s' false hdone (hstopped rest s')
      · exact hfailed pass rest s s' hleft
      · exact hstopped _ _
    | (true, swept), hsweep =>
      have hdone := hsweep.imp fun s s' h => h.resolve_right fun hfalse => Bool.noConfusion hfalse.1
      exact forall₂_trans (fun s middle s' => hpassed pass rest s middle s' _) hdone (ih swept)

theorem prepareShutdown_forall₂ (faults : List (List Bool)) (sessions : List Session) :
    Forall₂ (fun s s' => ∃ effects, ShuttingDown s effects ∧
        s' = (s.after effects).apply .deactivate)
      sessions (Application.prepareShutdown faults sessions) := by
  have hsweep := sweep_forall₂ (fun s => @shutdownRecord_shuttingDown s) faults sessions
  refine forall₂_map_right_iff.mpr (hsweep.imp fun s s' h => ?_)
  rcases h with ⟨effects, heffects, rfl⟩ | ⟨_, ⟨effects, heffects, rfl⟩ | rfl⟩
  · exact ⟨effects, heffects, rfl⟩
  · exact ⟨effects, heffects, rfl⟩
  · exact ⟨[], .idle, rfl⟩

/-! ## Steps -/

/-- What a program leaves behind satisfies what both of its ends satisfy. -/
theorem run_ends {prog : App Unit} {s : Session} {P : Session → Prop}
    (hprog : wp prog (fun _ => P) (fun _ => P) s) (faults : List Bool) :
    P (prog.run faults s).2 := by
  have hends := wp_run hprog faults
  generalize prog.run faults s = outcome at hends ⊢
  match outcome, hends with
  | (.ok _, _), h | (.error _, _), h => exact h

/-- The sessions that a create request can add. -/
def Created (s' : Session) : Prop :=
  ∃ request workflow configuration effects, Creation effects ∧
    s' = ((Session.fresh request workflow configuration).after effects).settle none

theorem visit_created (request : Uuid) (workflow : Option String)
    (configuration : WorkbenchConfiguration) (faults : List Bool) :
    Created (Application.visit createSession faults (.fresh request workflow configuration)) := by
  obtain ⟨effects, heffects, hrun⟩ :=
    run_ends (createSession_creating (s := .fresh request workflow configuration) rfl) faults
  refine ⟨request, workflow, configuration, effects, heffects, ?_⟩
  rw [Application.visit, hrun]

/-- Where the session at a position comes from: it is new there, or it has evolved. -/
def Origin (env : Environment) (sessions : List Session) (action : Action) (index : Nat)
    (s' : Session) : Prop :=
  (sessions[index]? = none ∧ Created s') ∨
    ∃ s, sessions[index]? = some s ∧ Evolution env index s action s'

/-- Every session of a list comes from the sessions before. -/
def Originates (env : Environment) (sessions : List Session) (action : Action)
    (sessions' : List Session) : Prop :=
  ∀ index s', sessions'[index]? = some s' → Origin env sessions action index s'

section

variable {env : Environment} {app app' : Application} {action : Action}

theorem originates_unchanged : Originates env app.sessions action app.sessions :=
  fun _ s' hindex => .inr ⟨s', hindex, .unchanged action⟩

variable {index : Nat} {request : Uuid} {workflow : Option String}
  {configuration : WorkbenchConfiguration} {faults : List Bool}

/-- The sessions of a list in which one was replaced. -/
theorem originates_set {s s' : Session} (hindex : app.sessions[index]? = some s)
    (hevolution : Evolution env index s action s') :
    Originates env app.sessions action (app.sessions.set index s') := by
  intro position t hposition
  rw [getElem?_set] at hposition
  split at hposition
  · next heq =>
    subst heq
    split at hposition
    · cases hposition
      exact .inr ⟨s, hindex, hevolution⟩
    · cases hposition
  · exact originates_unchanged position t hposition

theorem originates_change {f : Session → Option Session}
    (hf : ∀ s s', f s = some s' → Evolution env index s action s')
    (hchange : app.change index f = some app') :
    Originates env app.sessions action app'.sessions := by
  unfold Application.change at hchange
  split at hchange
  · cases hchange
  · next s hindex =>
    obtain ⟨s', hs', rfl⟩ := Option.map_eq_some_iff.mp hchange
    exact originates_set hindex (hf s s' hs')

theorem originates_forall₂ {sessions' : List Session}
    (hall : Forall₂ (fun s s' => ∀ index, Evolution env index s action s')
      app.sessions sessions') :
    Originates env app.sessions action sessions' := by
  intro index t hindex
  obtain ⟨hlt', rfl⟩ := List.getElem?_eq_some_iff.mp hindex
  have hlt : index < app.sessions.length := by
    rw [hall.length_eq]
    exact hlt'
  exact .inr ⟨app.sessions[index], getElem?_eq_getElem hlt, hall.get hlt hlt' index⟩

theorem originates_createNew {retried : Application}
    (hlength : retried.sessions.length = app.sessions.length)
    (hall : Originates env app.sessions action retried.sessions) :
    Originates env app.sessions action
      (retried.createNew request workflow configuration faults).sessions := by
  intro index t hindex
  rcases Nat.lt_or_ge index retried.sessions.length with hlt | hge
  · rw [Application.createNew, getElem?_append_left hlt] at hindex
    exact hall index t hindex
  · rw [Application.createNew, getElem?_append_right hge] at hindex
    rw [mem_singleton.mp (mem_of_getElem? hindex)]
    exact .inl ⟨getElem?_eq_none (by omega), visit_created request workflow configuration faults⟩

theorem reconcileCreation_reconciles (faults : List Bool) (s : Session) :
    ∃ done effects, Reconciling s done effects ∧
      (reconcileCreation.run faults s).2 = s.after effects :=
  run_ends (P := fun s' => ∃ done effects, Reconciling s done effects ∧ s' = s.after effects)
    (reconcileCreation_spec (fun effects heffects => ⟨_, effects, heffects, rfl⟩)
      fun effects heffects _ => ⟨_, effects, heffects, rfl⟩) faults

theorem originates_handleCreate {retryFaults : List Bool}
    (hstep : app.handleCreate request workflow configuration retryFaults faults = some app') :
    Originates env app.sessions (.create request workflow configuration retryFaults faults)
      app'.sessions := by
  unfold Application.handleCreate at hstep
  split at hstep
  · refine originates_change (fun s s' hs' => ?_) hstep
    obtain ⟨effects, heffects, hrun⟩ := run_ends recreate_hydrates faults
    cases hs'
    rw [Application.visit, hrun]
    exact .loaded _ _ _ _ _ effects heffects
  · split at hstep
    · cases hstep
      exact originates_unchanged
    split at hstep
    · cases hstep
      exact originates_createNew rfl originates_unchanged
    split at hstep
    · cases hstep
    next s hindex =>
    obtain ⟨done, effects, heffects, hrun⟩ := reconcileCreation_reconciles retryFaults s
    have hretried := originates_set hindex (@Evolution.reconciled env _ s request workflow
      configuration retryFaults faults done effects heffects)
    rw [← hrun] at hretried
    split at hstep <;> cases hstep
    · exact hretried
    · exact originates_createNew (length_set) hretried

/-- A step adds created sessions and lets the others evolve. -/
theorem step_sessions (hstep : app.step env action = some app') :
    Originates env app.sessions action app'.sessions := by
  unfold Application.step at hstep
  split at hstep
  · split at hstep
    · exact originates_handleCreate hstep
    · cases hstep
  · split at hstep
    · refine originates_change (fun s s' hs' => ?_) hstep
      cases hs'
      exact .submitted _ _
    · cases hstep
  · split at hstep
    · cases hstep
    · refine originates_change (fun s s' hs' => ?_) hstep
      obtain ⟨point, hpoint, hlock, rfl | ⟨effects, next, hplan, rfl⟩⟩ := resume_plan hs'
      · exact .dropped _ _ _
      · exact .stepped _ _ _ point effects next hpoint hlock hplan
  · split at hstep
    · refine originates_change (fun s s' hs' => ?_) hstep
      split at hs'
      · cases hs'
      next due faults _ hlock =>
      obtain ⟨effects, heffects, hrun⟩ := run_ends (maintain_maintenance due) faults
      cases hs'
      rw [Application.visit, hrun]
      exact .maintained due faults effects (by simpa using hlock) heffects
    · cases hstep
  · split at hstep
    · cases hstep
      exact originates_forall₂ (forall₂_map_right_iff.mpr
        (forall₂_same.mpr fun s _ index => .aborted))
    · cases hstep
  · split at hstep
    · next faults hgate =>
      cases hstep
      have hidle : ∀ s ∈ app.sessions, s.tasks.any Point.holdsGate = false := by
        intro s hmem
        simpa using all_eq_true.mp hgate.2 s hmem
      have hall := (forall₂_and_left _ _).mpr ⟨hidle, prepareShutdown_forall₂ faults app.sessions⟩
      refine originates_forall₂ (hall.imp fun s s' h index => ?_)
      obtain ⟨hidle, effects, heffects, rfl⟩ := h
      exact .shutDown faults effects hidle heffects
    · cases hstep
  · cases hstep
    exact originates_forall₂ (forall₂_map_right_iff.mpr
      (forall₂_same.mpr fun s _ index => .crashed))
  · split at hstep
    · next faults _ =>
      have hall := recoverPasses_rule (T := Recovery) RecoveryPass.passes .done .stopped .failed
        .passed faults recoveryPasses app.sessions
      generalize Application.recoverPasses faults recoveryPasses app.sessions
        = outcome at hall hstep
      match outcome, hall with
      | (true, sessions), hall =>
        cases hstep
        exact originates_forall₂ (hall.imp fun s s' h index => .recovered faults s' h)
      | (false, sessions), hall =>
        cases hstep
        exact originates_forall₂ (forall₂_map_right_iff.mpr
          (hall.imp fun s s' h index => .recoveryFailed faults s' h))
    · cases hstep

end

/-- A task that goes on changes its own session only. -/
theorem step_resume {env : Environment} {app app' : Application} {index task : Nat}
    {response : Response} {faults : List Bool}
    (hstep : app.step env (.resume index task response faults) = some app') :
    ∃ s s', app.sessions[index]? = some s ∧ app'.sessions[index]? = some s' ∧
      s.resume env (app.status == .stopping) task response faults = some s' := by
  unfold Application.step at hstep
  dsimp only at hstep
  split at hstep
  · cases hstep
  unfold Application.change at hstep
  split at hstep
  · cases hstep
  · next s hindex =>
    obtain ⟨s', hs', rfl⟩ := Option.map_eq_some_iff.mp hstep
    obtain ⟨hlt, _⟩ := List.getElem?_eq_some_iff.mp hindex
    exact ⟨s, s', hindex, getElem?_set_self hlt, hs'⟩

/-- The condition holds of every task that goes on, in the state in which it does. -/
def StepsMeet (condition : Session → Point → Response → Prop) (app : Application)
    (action : Action) : Prop :=
  ∀ index task response faults s point, action = .resume index task response faults →
    app.sessions[index]? = some s → s.tasks[task]? = some point → condition s point response

instance (condition : Session → Point → Response → Prop)
    [∀ s point response, Decidable (condition s point response)] (app : Application)
    (action : Action) : Decidable (StepsMeet condition app action) :=
  match action with
  | .resume index task response faults =>
    decidable_of_iff (∀ s ∈ app.sessions[index]?, ∀ point ∈ s.tasks[task]?,
      condition s point response)
      ⟨fun h _ _ _ _ s point heq hs hpoint => by cases heq; exact h s hs point hpoint,
       fun h s hs point hpoint => h index task response faults s point rfl hs hpoint⟩
  | .create _ _ _ _ _ | .submit _ _ _ | .maintain _ _ _ | .drain | .shutdown _ | .crash
  | .recover _ => isTrue (by intro _ _ _ _ _ _ heq; cases heq)

/-- An invariant of sessions holds of new ones and is kept by every evolution that is reached. -/
theorem sessions_invariant {env : Environment} {allowed : Application → Action → Prop}
    {I : Session → Prop} (hcreated : ∀ s, Created s → I s)
    (hkeep : ∀ app action index s s', Reaches (Application.step env) allowed .initial app →
      allowed app action → app.sessions[index]? = some s → I s →
      Evolution env index s action s' → I s')
    {app : Application} (hreach : Reaches (Application.step env) allowed .initial app) :
    ∀ s ∈ app.sessions, I s := by
  induction hreach with
  | start => simp [Application.initial]
  | next action hreached hallowed hstep hall =>
  intro t hmem
  obtain ⟨index, hindex'⟩ := mem_iff_getElem?.mp hmem
  rcases step_sessions hstep index t hindex' with ⟨_, hcreated'⟩ | ⟨s, hindex, hevolution⟩
  · exact hcreated t hcreated'
  · exact hkeep _ action index s t hreached hallowed hindex
      (hall s (mem_iff_getElem?.mpr ⟨index, hindex⟩)) hevolution

/-! ## A small deployment -/

/-- One provider, one role, and a workflow with the given steps. -/
def smallConfiguration (kind : ProviderType) (steps : List WorkflowStep) : WorkbenchConfiguration :=
  { providers := [("p", { kind })]
    models := [("m", ⟨"p", "runtime"⟩)]
    roles := [("dev", ⟨"m", [], [], [], []⟩)]
    tools := []
    workflows := [("w", ⟨steps⟩)]
    routing := ⟨"dev", 1⟩
    policies := { defaultToolMode := .readOnly, globalDeny := [] } }

/-- An environment in which the provider of the small configuration is available. -/
def smallEnvironment : Environment :=
  { providerCatalog := [("p", ⟨"p", "1", "stdio", .available, [],
      [⟨"prompt", .paidInference, false, true, .policy⟩]⟩)]
    adapter := fun _ => true
    fake := ⟨true, false⟩ }

/-- The same with a fake provider that reports findings. -/
def findingsEnvironment : Environment := { smallEnvironment with fake := ⟨true, true⟩ }

/-- A start of the daemon and of a session with these workflow steps; its prompt has been routed,
and the grant of its approval waits for the session lock. -/
def smallStart (kind : ProviderType) (steps : List WorkflowStep) : List Action :=
  [.recover fun _ => [], .create 100 (some "w") (smallConfiguration kind steps) [] [],
   .submit 0 101 (.prompt "go" none), .resume 0 0 .proceed [],
   .submit 0 102 (.approvalResolve 11 .grant)]

/-- A workflow step that reports no findings. -/
def smallStep (id : String) : WorkflowStep := ⟨id, "dev", none, none, [], []⟩

/-- A workflow step that is corrected by itself, once at most. -/
def smallLoop (id : String) : WorkflowStep := ⟨id, "dev", some id, some 1, [], []⟩

/-- The first task takes the lock, and the provider it calls answers. -/
def smallPrompt : List Action :=
  [.resume 0 0 .proceed [], .resume 0 0 (.sessionStarted (.ok ())) [],
   .resume 0 0 (.streamOpened (.ok ())) []]

end Workbench.Daemon
