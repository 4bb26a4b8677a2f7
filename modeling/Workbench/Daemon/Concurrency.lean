import Workbench.Daemon.Evolution
import Workbench.Daemon.Subscription

/-!
# Daemon: the threads of a session

`System` lets a task go on from one wait to the next in one step.  Here the tasks of one
session run side by side, one call at a time: a transaction commits events in one move and
each of them is published in a later one, and a client that attaches reads the history in
one move and subscribes in the next.  A task that starts the provider for the next step of a
workflow has released the session lock and still records the provider's failure, so its moves
fall between those of the others.

A run is one life of the process up to its shutdown, whose event is not published.  The rows
and the subscriptions of a deleted session go in one move: nothing is published in between.
-/

namespace Workbench.Daemon

open Workbench.Core Storage Library Program

/-! ## Clients -/

/-- A client that has attached after a cursor, and what it has received. -/
structure Client where
  cursor : Nat
  subscription : Subscription
  received : List SessionEvent

namespace Client

/-- `SessionSubscription::next`. -/
def read (client : Client) : Client :=
  match client.subscription.next with
  | (.event event, subscription) =>
    { client with subscription, received := client.received ++ [event] }
  | (_, subscription) => { client with subscription }

/-- The client drops its subscription. -/
def detach (client : Client) : Client :=
  { client with subscription := { client.subscription with registered := false } }

def publish (encode : SessionEvent → Nat) (event : SessionEvent) (client : Client) : Client :=
  { client with subscription := client.subscription.publish encode event }

def purge (client : Client) : Client :=
  { client with subscription := client.subscription.purge }

end Client

/-! ## Threads -/

inductive Activity where
  /-- A task: the events it has committed and not published, and the rest of its program. -/
  | handling (unpublished : List SessionEvent) (rest : App Progress)
  /-- `handle_attach`: the history, once it has been read. -/
  | attaching (cursor : Nat) (history : Option (List Event))
  | ended

structure Thread where
  /-- It has taken the session lock and keeps it to its end. -/
  locked : Bool
  activity : Activity

def Thread.holdsLock (thread : Thread) : Bool :=
  match thread.activity with
  | .ended => false
  | _ => thread.locked

theorem Thread.locked_of_holdsLock (thread : Thread) (h : thread.holdsLock) :
    thread.locked := by
  unfold Thread.holdsLock at h
  split at h
  · cases h
  · exact h

theorem Thread.holdsLock_of_locked (thread : Thread) (hactive : thread.activity ≠ .ended)
    (hlocked : thread.locked) : thread.holdsLock := by
  unfold Thread.holdsLock
  split
  · next hended => exact absurd hended hactive
  · exact hlocked

/-- A session in a running daemon. -/
structure Live where
  session : Session
  threads : List Thread
  clients : List Client

/-- What the environment can do. -/
inductive Live.Move where
  | submit (request : Uuid) (command : Command)
  /-- A `session.attach` gets the lock. -/
  | attach (cursor : Nat)
  /-- A waiting task gets its response, and the lock if it needs it. -/
  | start (task : Nat) (response : Response)
  /-- The retention pass gets to the session. -/
  | maintain (due : Bool)
  /-- A thread makes its next move; `fault` makes a storage call fail. -/
  | go (thread : Nat) (fault : Bool)
  | read (client : Nat)
  | detach (client : Nat)

/-- The event that a deletion starts with, which is not published. -/
def isDeletionRequest (event : Event) : Bool :=
  match event.payload with
  | .sessionDeletionRequested _ => true
  | _ => false

/-- The events that one call has committed and that are going to be published. -/
def announced (before after : List Event) : List SessionEvent :=
  if before.isPrefixOf after then
    if (after.drop before.length).any isDeletionRequest then []
    else numbered (before.length + 1) (after.drop before.length)
  else []

/-- Where a task goes on after a program has ended. -/
def nextPoint : Except DaemonError Progress → Option Point
  | .ok progress => progress.next
  | .error _ => none

namespace Live

/-- A session of a daemon that nobody is attached to. -/
def idle (session : Session) : Live := ⟨session, [], []⟩

def spawn (live : Live) (thread : Thread) : Live :=
  { live with threads := live.threads ++ [thread] }

/-- Nobody holds the session lock: no thread, and no task that waits with it. -/
def lockFree (live : Live) : Bool := !live.session.locked && !live.threads.any Thread.holdsLock

/-- The next move of a thread: the session, the clients and the thread after it. -/
def goOn (encode : SessionEvent → Nat) (fault : Bool) (session : Session) (clients : List Client) :
    Activity → Option (Session × List Client × Activity)
  | .handling (event :: unpublished) rest =>
    some (session, clients.map (Client.publish encode event), .handling unpublished rest)
  | .handling [] (.done result) => some (session.settle (nextPoint result), clients, .ended)
  | .handling [] (.call storageFault op next) =>
    let called := makeCall storageFault op fault session
    some (called.2,
      if session.events.isPrefixOf called.2.events then clients else clients.map Client.purge,
      .handling (announced session.events called.2.events) (next called.1))
  | .attaching cursor none =>
    if fault || !session.key then some (session, clients, .ended)
    else some (session, clients, .attaching cursor (some session.events))
  | .attaching cursor (some history) =>
    match handleAttach encode history cursor with
    | .ok (_, subscription) => some (session, clients ++ [⟨cursor, subscription, []⟩], .ended)
    | .error _ => some (session, clients, .ended)
  | .ended => none

/-- A waiting task gets its response. -/
def start (env : Environment) (task : Nat) (response : Response) (live : Live) : Option Live :=
  match live.session.tasks[task]? with
  | none => none
  | some point =>
    match continuation env point response with
    | none => none
    | some prog =>
      let locked := needsLock point response || point.holdsLock
      if needsLock point response && live.session.locked then none
      else if locked && live.threads.any Thread.holdsLock then none
      else some ({ live with session := live.session.without task }.spawn
        ⟨locked, .handling [] prog⟩)

def step (env : Environment) (encode : SessionEvent → Nat) (live : Live) : Move → Option Live
  | .submit request command =>
    some { live with session :=
      { live.session with tasks := live.session.tasks ++ [.command request command] } }
  | .attach cursor =>
    if live.lockFree then some (live.spawn ⟨true, .attaching cursor none⟩) else none
  | .start task response => live.start env task response
  | .maintain due =>
    if live.lockFree then
      some (live.spawn ⟨true, .handling [] (do Daemon.maintain due; pure .finished)⟩)
    else none
  | .go index fault =>
    match live.threads[index]? with
    | none => none
    | some thread =>
      (goOn encode fault live.session live.clients thread.activity).map
        fun (session, clients, activity) =>
          ⟨session, live.threads.set index { thread with activity }, clients⟩
  | .read index =>
    (live.clients[index]?).map fun client =>
      { live with clients := live.clients.set index client.read }
  | .detach index =>
    (live.clients[index]?).map fun client =>
      { live with clients := live.clients.set index client.detach }

end Live

/-- A script of the daemon followed by a script of the threads of one of its sessions. -/
theorem interleaving_reaches {env : Environment} {encode : SessionEvent → Nat}
    {allowed : Live → Live.Move → Prop} [∀ live move, Decidable (allowed live move)]
    (actions : List Action) (moves : List Live.Move) {P : Live → Prop}
    (hrun : ∃ app ∈ execute (Application.step env) anyAction actions .initial,
      ∃ s ∈ app.sessions, ∃ live ∈ execute (Live.step env encode) allowed moves (.idle s), P live) :
    ∃ app, Reaches (Application.step env) anyAction .initial app ∧ ∃ s ∈ app.sessions,
      ∃ live, Reaches (Live.step env encode) allowed (.idle s) live ∧ P live := by
  obtain ⟨app, hreach, s, hs, hlive⟩ := exists_reaches_of_execute actions hrun
  exact ⟨app, hreach, s, hs, exists_reaches_of_execute moves hlive⟩

/-- The provider for the second step of a workflow is being started. -/
def secondStepStarts : List Action :=
  smallStart .api [smallStep "a", smallStep "b"] ++ smallPrompt ++
    [.resume 0 0 (.item (.completed "done")) [], .resume 0 0 .proceed [],
     .resume 0 0 .proceed [], .resume 0 0 .proceed []]

def startFails : Response := .sessionStarted (.error ⟨"provider unavailable", false⟩)

/-! ## The threads as a run of the system -/

/-- What goes on in the sessions of a daemon that is serving. -/
def serves (_ : Application) : Action → Prop
  | .submit _ _ _ | .resume _ _ _ _ | .maintain _ _ _ => True
  | _ => False

/-- The steps of a serving daemon take a session from one state to another. -/
def Serves (env : Environment) (s s' : Session) : Prop :=
  Reaches (Application.step env) serves ⟨.serving, [s]⟩ ⟨.serving, [s']⟩

/-- The rest of the task that a thread is in the middle of. -/
def Thread.rest (thread : Thread) : Option (App Progress) :=
  match thread.activity with
  | .handling _ rest => some rest
  | _ => none

/-- The tasks that are under way. -/
def Live.underWay (live : Live) : List (App Progress) := live.threads.filterMap Thread.rest

/-- Every task under way has the session lock. -/
def Live.allLocked (live : Live) : Bool := live.threads.all fun thread =>
  thread.locked || thread.rest.isNone

/-- A task without the lock runs alone, and a command comes in between tasks. -/
def Live.takesTurns (live : Live) : Live.Move → Bool
  | .submit _ _ => live.underWay.isEmpty
  | .start task response =>
    live.allLocked && (live.underWay.isEmpty ||
      (live.session.tasks[task]?).all fun point => needsLock point response || point.holdsLock)
  | .maintain _ => live.allLocked
  | _ => true

/-- The system reaches what the session becomes once its one task has ended, however it fails. -/
def EndsServed (env : Environment) (s session : Session) : List (App Progress) → Prop
  | [] => Serves env s session
  | [rest] => ∀ faults, Serves env s (session.execute rest faults)
  | _ => False

section

variable {env : Environment} {encode : SessionEvent → Nat} {s t t' : Session} {live : Live}

theorem Serves.resume {task : Nat} {response : Response} {faults : List Bool} (h : Serves env s t)
    (hresume : t.resume env false task response faults = some t') : Serves env s t' := by
  refine .next (.resume 0 task response faults) h trivial ?_
  simp [Application.step, Application.change, show (Status.serving == .stopping) = false from rfl,
    hresume]

theorem Serves.maintain (h : Serves env s t) (hlocked : t.locked = false) (due : Bool)
    (faults : List Bool) :
    Serves env s (t.execute (do Daemon.maintain due; pure .finished) faults) := by
  have hvisit : t.execute (do Daemon.maintain due; pure .finished) faults
      = Application.visit (Daemon.maintain due) faults t := by
    rw [Application.visit, Session.execute, run_bind_pure]
    cases ((Daemon.maintain due).run faults t).1 <;> rfl
  refine .next (.maintain 0 due faults) h trivial ?_
  simp [Application.step, Application.change, hlocked, hvisit]

/-- A move of a thread brings the session on within its task. -/
theorem EndsServed.goOn {fault : Bool} {clients clients' : List Client} {thread : Thread}
    {activity : Activity} {before after : List (App Progress)}
    (hgo : Live.goOn encode fault t clients thread.activity = some (t', clients', activity))
    (h : EndsServed env s t (before ++ thread.rest.toList ++ after)) :
    EndsServed env s t'
      (before ++ ({ thread with activity } : Thread).rest.toList ++ after) := by
  obtain ⟨locked, current⟩ := thread
  cases current with
  | ended => cases hgo
  | attaching cursor history =>
    -- whatever an attachment comes to, it is no task and leaves the session alone
    cases history <;> simp only [Live.goOn] at hgo <;> split at hgo <;> cases hgo <;> exact h
  | handling unpublished rest =>
    -- the task is the only one
    have halone : before = [] ∧ after = [] := by
      match before, after, h with
      | [], [], _ => exact ⟨rfl, rfl⟩
      | [], _ :: _, h | [_], _, h | _ :: _ :: _, _, h => exact h.elim
    obtain ⟨rfl, rfl⟩ := halone
    match unpublished, rest with
    | event :: unpublished, rest =>
      cases hgo
      exact h
    | [], .done result =>
      cases hgo
      cases result <;> exact h []
    | [], .call storageFault op next =>
      cases hgo
      intro faults
      obtain ⟨faults', hcall⟩ := run_call storageFault op next fault faults t
      have hserved := h faults'
      rw [Session.execute, hcall] at hserved
      exact hserved

/-- The threads before and after one of them. -/
theorem underWay_set {index : Nat} {thread : Thread}
    (hthread : live.threads[index]? = some thread) :
    ∃ before after, live.underWay = before ++ thread.rest.toList ++ after ∧ ∀ other,
      (live.threads.set index other).filterMap Thread.rest
        = before ++ other.rest.toList ++ after := by
  obtain ⟨hlt, hget⟩ := List.getElem?_eq_some_iff.mp hthread
  have hset : ∀ other, (live.threads.set index other).filterMap Thread.rest
      = (live.threads.take index).filterMap Thread.rest ++ other.rest.toList
        ++ (live.threads.drop (index + 1)).filterMap Thread.rest := by
    intro other
    rw [List.set_eq_take_append_cons_drop, if_pos hlt, List.filterMap_append, List.filterMap_cons]
    cases other.rest <;> simp
  refine ⟨_, _, ?_, hset⟩
  rw [← hset thread, ← hget, List.set_getElem_self]
  rfl

/-- Nothing is under way when the lock is free and every task under way has it. -/
theorem underWay_eq_nil (hlocked : live.allLocked)
    (hfree : live.threads.any Thread.holdsLock = false) :
    live.underWay = [] := by
  refine List.filterMap_eq_nil_iff.mpr fun thread hmem => ?_
  have hlocked := List.all_eq_true.mp hlocked thread hmem
  have hfree := List.any_eq_false.mp hfree thread hmem
  obtain ⟨locked, _ | _ | _⟩ := thread
  · cases locked
    · exact absurd hlocked (by simp [Thread.rest])
    · exact absurd rfl hfree
  all_goals rfl

theorem underWay_spawn (thread : Thread) :
    (live.spawn thread).underWay = live.underWay ++ thread.rest.toList := by
  simp only [Live.underWay, Live.spawn, List.filterMap_append]
  cases hrest : thread.rest <;> simp [hrest]

theorem EndsServed.step {live' : Live} {move : Live.Move}
    (h : EndsServed env s live.session live.underWay) (hturn : live.takesTurns move)
    (hstep : live.step env encode move = some live') :
    EndsServed env s live'.session live'.underWay := by
  cases move with
  | submit request command =>
    cases hstep
    have hquiet : live.underWay = [] := List.isEmpty_iff.mp hturn
    rw [hquiet] at h
    show EndsServed _ _ _ live.underWay
    rw [hquiet]
    refine .next (.submit 0 request command) h trivial ?_
    simp [Application.step, Application.change, Session.apply]
  | attach cursor =>
    rw [Live.step] at hstep
    split at hstep <;> cases hstep
    rw [underWay_spawn]
    exact (List.append_nil live.underWay).symm ▸ h
  | start task response =>
    obtain ⟨hlocked, hturn⟩ := Bool.and_eq_true_iff.mp hturn
    simp only [Live.step, Live.start] at hstep
    split at hstep
    · cases hstep
    next point hpoint =>
    repeat' split at hstep
    all_goals cases hstep
    next prog hprog hneeds hheld =>
    have hquiet : live.underWay = [] := by
      rcases Bool.or_eq_true_iff.mp hturn with hquiet | htakes
      · exact List.isEmpty_iff.mp hquiet
      · rw [hpoint, Option.all_some] at htakes
        exact underWay_eq_nil hlocked (by simpa only [htakes, Bool.true_and,
          Bool.not_eq_true] using hheld)
    rw [hquiet] at h
    have hquiet' : Live.underWay { live with session := live.session.without task } = [] := hquiet
    rw [underWay_spawn, hquiet']
    intro faults
    have hresume : live.session.resume env false task response faults
        = some ((live.session.without task).execute prog faults) := by
      simp [Session.resume, hpoint, hprog, hneeds]
    exact h.resume hresume
  | maintain due =>
    rw [Live.step] at hstep
    split at hstep
    · next hfree =>
      cases hstep
      obtain ⟨hsession, hthreads⟩ := Bool.and_eq_true_iff.mp hfree
      have hquiet := underWay_eq_nil hturn (by simpa using hthreads)
      rw [hquiet] at h
      rw [underWay_spawn, hquiet]
      exact fun faults => h.maintain (by simpa using hsession) due faults
    · cases hstep
  | go index fault =>
    rw [Live.step] at hstep
    split at hstep
    · cases hstep
    next thread hthread =>
    obtain ⟨⟨session, clients, activity⟩, hgo, rfl⟩ := Option.map_eq_some_iff.mp hstep
    obtain ⟨before, after, hbefore, hset⟩ := underWay_set hthread
    show EndsServed env s session ((live.threads.set index _).filterMap Thread.rest)
    rw [hset]
    exact .goOn hgo (hbefore ▸ h)
  | read | detach =>
    obtain ⟨_, -, rfl⟩ := Option.map_eq_some_iff.mp hstep
    exact h

/-- Every run of the threads in which tasks take turns is a run of the system whenever no task is
under way: committing and publishing event by event, attaching, reading and detaching add nothing.
-/
theorem turns_served
    (hrun : Reaches (Live.step env encode) (fun live move => live.takesTurns move) (.idle s) live)
    (hquiet : live.underWay = []) : Serves env s live.session := by
  have hserved : EndsServed env s live.session live.underWay := by
    refine hrun.invariant (I := fun live => EndsServed env s live.session live.underWay) ?_
      fun _ _ _ h hturn hstep => h.step hturn hstep
    exact Reaches.start
  rwa [hquiet] at hserved

end

/-- A client attaches while a provider failure is recorded; then the step is abandoned. -/
theorem abandonment_served :
    ∃ app, Reaches (Application.step smallEnvironment) anyAction .initial app ∧
      ∃ s ∈ app.sessions, ∃ live,
        Reaches (Live.step smallEnvironment fun _ => 100)
          (fun live move => live.takesTurns move) (.idle s) live ∧
        live.clients.length = 1 ∧ live.session.events.length = 15 ∧
        Serves smallEnvironment s live.session := by
  obtain ⟨app, happ, s, hs, live, hlive, hquiet, hclients, hevents⟩ := @interleaving_reaches
    smallEnvironment (fun _ => 100) (fun live move => live.takesTurns move) _
    secondStepStarts
    ([.attach 3, .go 0 false, .start 0 startFails] ++ List.replicate 3 (.go 1 false) ++
      [.go 0 false, .go 1 false, .submit 103 (.reconcile 57 .abandon none), .start 0 .proceed] ++
      List.replicate 7 (.go 2 false))
    (fun live => live.underWay.isEmpty ∧ live.clients.length = 1 ∧ live.session.events.length = 15)
    (by decide +kernel)
  exact ⟨app, happ, s, hs, live, hlive, hclients, hevents,
    turns_served hlive (List.isEmpty_iff.mp hquiet)⟩

end Workbench.Daemon
