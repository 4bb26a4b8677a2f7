import Workbench.Daemon.Concurrency
import Workbench.Daemon.Evolution
import Workbench.Library.Exclusion

/-!
# Daemon: the order of delivery

What a client receives are consecutive events from its cursor on, as long as the threads of
the session do not come between each other where the lock does not keep them apart, no event
is recorded after the request for a deletion that has not been carried out, and the cursor
is not ahead of the history.

At most one thread has committed events that are not published, or has read the history for
a client that has not subscribed.  The session is described by what that thread is doing.
-/

namespace Workbench.Daemon

open Workbench.Core Storage Library Program List

/-! ## When threads do not disturb each other -/

/-- The thread holds events to publish, or the history for a client that has not subscribed. -/
def Thread.busy (thread : Thread) : Bool :=
  match thread.activity with
  | .handling (_ :: _) _ => true
  | .attaching _ (some _) => true
  | _ => false

/-- The history after the next move of the thread. -/
def Thread.eventsAfter (fault : Bool) (session : Session) (thread : Thread) : List Event :=
  match thread.activity with
  | .handling [] (.call storageFault op _) => (makeCall storageFault op fault session).2.events
  | _ => session.events

/-- The next move reads the history for a client, or changes it. -/
def Thread.usesHistory (fault : Bool) (session : Session) (thread : Thread) : Bool :=
  match thread.activity with
  | .attaching _ none => true
  | _ => thread.eventsAfter fault session != session.events

/-- The next move appends to the history. -/
def Thread.records (fault : Bool) (session : Session) (thread : Thread) : Bool :=
  session.events.isPrefixOf (thread.eventsAfter fault session) &&
    thread.eventsAfter fault session != session.events

/-- A client that is about to be given the history has a cursor that lies in it. -/
def Thread.cursorKnown (session : Session) (thread : Thread) : Bool :=
  match thread.activity with
  | .attaching cursor none => cursor ≤ session.events.length
  | _ => true

def Session.deletionRequested (session : Session) : Bool := session.events.any isDeletionRequest

/-- A thread uses the history only while no other is busy, unless the session lock keeps them apart;
nothing is recorded once a deletion is requested; no client attaches beyond the history. -/
def Live.Undisturbed (live : Live) : Live.Move → Prop
  | .go index fault =>
    match live.threads[index]? with
    | none => True
    | some thread =>
      (thread.usesHistory fault live.session →
        ∀ other ∈ live.threads.eraseIdx index, other.busy →
          thread.locked ∧ other.locked) ∧
      (thread.records fault live.session → live.session.deletionRequested = false) ∧
      thread.cursorKnown live.session
  | _ => True

instance (live : Live) (move : Live.Move) : Decidable (live.Undisturbed move) := by
  unfold Live.Undisturbed
  split
  · split <;> infer_instance
  · infer_instance

/-! ## Clients -/

namespace Client

/-- The client has received consecutive events from its cursor on. -/
def Ordered (client : Client) : Prop :=
  client.received.map (·.sequence) = range' (client.cursor + 1) client.received.length

instance (client : Client) : Decidable client.Ordered := inferInstanceAs (Decidable (_ = _))

/-- What the client has received, and what waits for it. -/
def log (client : Client) : List SessionEvent :=
  client.received ++ client.subscription.queue.contents

/-- The events up to a position have been given to the client, each once and in order. -/
def StandsAt (client : Client) (position : Nat) : Prop :=
  client.cursor ≤ position ∧
    client.log.map (·.sequence) = range' (client.cursor + 1) (position - client.cursor)

def InOrder (client : Client) : Prop := ∃ position, client.StandsAt position

/-- The client has been given the same events as before, and is not registered again. -/
structure Follows (client' client : Client) : Prop where
  cursor : client'.cursor = client.cursor
  log : client'.log = client.log
  registered : client'.subscription.registered → client.subscription.registered

variable {client client' : Client} {position : Nat}

theorem StandsAt.follow (h : client.StandsAt position) (hfollows : client'.Follows client) :
    client'.StandsAt position := by
  unfold StandsAt
  rw [hfollows.cursor, hfollows.log]
  exact h

theorem InOrder.follow (h : client.InOrder) (hfollows : client'.Follows client) : client'.InOrder :=
  h.imp fun _ hat => hat.follow hfollows

/-- Less of the same events is still in order. -/
theorem InOrder.sequences_of_prefix (h : client.InOrder) {events rest : List SessionEvent}
    (hlog : client.log = events ++ rest) :
    events.map (·.sequence) = range' (client.cursor + 1) events.length := by
  obtain ⟨position, _, hsequences⟩ := h
  rw [hlog, map_append] at hsequences
  obtain ⟨count, _, hevents, _⟩ := range'_eq_append_iff.mp hsequences.symm
  have hcount : events.length = count := by
    rw [← length_map (·.sequence), hevents, length_range']
  rw [hevents, hcount]

theorem InOrder.ordered (h : client.InOrder) : client.Ordered :=
  h.sequences_of_prefix rfl

theorem read_follows (client : Client) : client.read.Follows client := by
  unfold read Subscription.next
  split
  · next subscription hnext =>
    split at hnext
    · split at hnext <;> cases hnext
    · cases hnext
    split at hnext
    · cases hnext
    · next hpop =>
      cases hnext
      refine ⟨rfl, ?_, id⟩
      rw [log, log, SubscriptionQueue.contents_of_pop hpop, append_assoc, singleton_append]
  · next subscription hother hnext =>
    split at hnext
    · cases hnext
      exact ⟨rfl, rfl, id⟩
    · cases hnext
      exact ⟨rfl, rfl, id⟩
    split at hnext
    · cases hnext
      exact ⟨rfl, rfl, id⟩
    · cases hnext
      exact absurd rfl (hother _)

/-- A purged client keeps what it has received. -/
theorem InOrder.purge (h : client.InOrder) : client.purge.InOrder := by
  refine ⟨client.cursor + client.received.length, Nat.le_add_right _ _, ?_⟩
  show (client.received ++ []).map _ = range' (client.cursor + 1) (_ - client.cursor)
  rw [append_nil, Nat.add_sub_cancel_left]
  exact h.ordered

section

variable {encode : SessionEvent → Nat} {event : SessionEvent}

/-- A client that takes the event was given one more; one that lags behind is cut off. -/
theorem publish_cases (encode : SessionEvent → Nat) (event : SessionEvent) (client : Client) :
    (client.publish encode event).Follows client ∧
        (client.publish encode event).subscription.registered = false ∨
      client.subscription.registered ∧
        (client.publish encode event).log = client.log ++ [event] := by
  unfold publish Subscription.publish
  split
  · next hregistered =>
    split
    · next queue hpush =>
      refine .inr ⟨hregistered, ?_⟩
      rw [log, log, SubscriptionQueue.contents_of_push hpush, append_assoc]
    · next error queue hpush =>
      refine .inl ⟨⟨rfl, ?_, fun h => by cases h⟩, rfl⟩
      rw [log, log, SubscriptionQueue.contents_of_push_error hpush]
  · next hregistered => exact .inl ⟨⟨rfl, rfl, id⟩, by simpa using hregistered⟩

theorem StandsAt.publish (h : client.StandsAt position)
    (hsequence : event.sequence = position + 1)
    (hlog : (client.publish encode event).log = client.log ++ [event]) :
    (client.publish encode event).StandsAt (position + 1) := by
  refine ⟨Nat.le_succ_of_le h.1, ?_⟩
  show (client.publish encode event).log.map _
    = range' (client.cursor + 1) (position + 1 - client.cursor)
  rw [hlog, map_append, h.2, Nat.succ_sub h.1, range'_concat, map_singleton, hsequence]
  have hlast : client.cursor + 1 + 1 * (position - client.cursor) = position + 1 := by
    have := h.1
    omega
  rw [hlast]

end

end Client

/-! ## What the busy thread is doing -/

namespace Live

/-- The threads in the middle of something that concerns the subscribers. -/
def busy (live : Live) : List Thread := live.threads.filter Thread.busy

/-- All registered clients have been given the events up to a position. -/
def AllAt (live : Live) (position : Nat) : Prop :=
  ∀ client ∈ live.clients, client.subscription.registered → client.StandsAt position

/-- What the session is in the middle of. -/
inductive Phase (live : Live) : Prop where
  | quiet (hbusy : live.busy = [])
      (hat : live.session.deletionRequested = false → live.AllAt live.session.events.length)
  | publishing (published : Nat) (locked : Bool) (rest : App Progress)
      (hbusy : live.busy = [⟨locked,
        .handling (numbered (published + 1) (live.session.events.drop published)) rest⟩])
      (hopen : live.session.deletionRequested = false)
      (hat : live.AllAt published)
  | subscribing (cursor : Nat) (locked : Bool)
      (hbusy : live.busy = [⟨locked, .attaching cursor (some live.session.events)⟩])
      (hcursor : cursor ≤ live.session.events.length)
      (hat : live.session.deletionRequested = false → live.AllAt live.session.events.length)

/-- A move that leaves the history and the busy thread alone. -/
theorem Phase.frame {live live' : Live} (h : live.Phase)
    (hevents : live'.session.events = live.session.events) (hbusy : live'.busy = live.busy)
    (hclients : ∀ position, live.AllAt position → live'.AllAt position) : live'.Phase := by
  have hrequested : live'.session.deletionRequested = live.session.deletionRequested := by
    unfold Session.deletionRequested
    rw [hevents]
  cases h with
  | quiet hidle hat =>
    refine .quiet (hbusy.trans hidle) fun hopen => ?_
    rw [hevents]
    exact hclients _ (hat (hrequested ▸ hopen))
  | publishing published locked rest hthread hopen hat =>
    refine .publishing published locked rest ?_ (hrequested.trans hopen) (hclients _ hat)
    rw [hbusy, hthread, hevents]
  | subscribing cursor locked hthread hcursor hat =>
    refine .subscribing cursor locked ?_ (hevents ▸ hcursor) fun hopen => ?_
    · rw [hbusy, hthread, hevents]
    · rw [hevents]
      exact hclients _ (hat (hrequested ▸ hopen))

/-- The threads of a session and its subscribers are in order. -/
structure Orderly (live : Live) : Prop where
  oneLocked : (live.threads.filter Thread.holdsLock).length ≤ 1
  inOrder : ∀ client ∈ live.clients, client.InOrder
  phase : live.Phase

end Live

/-! ## One move -/

namespace Live.Orderly

variable {live : Live} {thread : Thread} {index : Nat}

/-- A move that leaves the history and the busy thread alone, and gives no client an event. -/
theorem frame (h : live.Orderly) {live' : Live}
    (hevents : live'.session.events = live.session.events) (hbusy : live'.busy = live.busy)
    (hclients : ∀ client' ∈ live'.clients, ∃ client ∈ live.clients, client'.Follows client)
    (hlocked : (live'.threads.filter Thread.holdsLock).length ≤ 1) : live'.Orderly := by
  refine ⟨hlocked, fun client' hmem => ?_, h.phase.frame hevents hbusy fun position hat => ?_⟩
  · obtain ⟨client, hclient, hfollows⟩ := hclients client' hmem
    exact (h.inOrder client hclient).follow hfollows
  · intro client' hmem hregistered
    obtain ⟨client, hclient, hfollows⟩ := hclients client' hmem
    exact (hat client hclient (hfollows.registered hregistered)).follow hfollows

/-- Every client stays as it is. -/
theorem follows_self (live : Live) :
    ∀ client' ∈ live.clients, ∃ client ∈ live.clients, client'.Follows client :=
  fun client hmem => ⟨client, hmem, rfl, rfl, id⟩

variable (h : live.Orderly)
include h

/-- One client is replaced by one that has been given the same events. -/
theorem set_client {client client' : Client}
    (hclient : live.clients[index]? = some client) (hfollows : client'.Follows client) :
    Orderly { live with clients := live.clients.set index client' } := by
  refine h.frame rfl rfl (fun other hmem => ?_) h.oneLocked
  obtain hmem | rfl := mem_or_eq_of_mem_set hmem
  · exact follows_self live other hmem
  · exact ⟨client, mem_of_getElem? hclient, hfollows⟩

variable {session : Session} {locked : Bool} {rest prog : App Progress} {cursor : Nat}

/-- A new thread takes the lock only if nobody holds it. -/
theorem spawn (hevents : session.events = live.session.events) (hidle : thread.busy = false)
    (hlock : thread.locked → live.threads.any Thread.holdsLock = false) :
    Orderly ({ live with session }.spawn thread) := by
  refine h.frame hevents ?_ (follows_self live) ?_
  · show (live.threads ++ [thread]).filter _ = live.threads.filter _
    rw [filter_append, filter_singleton, hidle]
    exact append_nil _
  show ((live.threads ++ [thread]).filter _).length ≤ 1
  rw [filter_append, length_append]
  by_cases hlocked : thread.locked = true
  · have hnone : live.threads.filter Thread.holdsLock = [] := by
      have hany := hlock hlocked
      rw [any_eq_false] at hany
      exact filter_eq_nil_iff.mpr hany
    rw [hnone]
    exact Nat.le_trans (Nat.le_of_eq (Nat.zero_add _)) (length_filter_le _ _)
  · have hnot := Bool.eq_false_iff.mpr fun hholds => hlocked (thread.locked_of_holdsLock hholds)
    rw [filter_singleton, hnot]
    exact h.oneLocked

/-- A thread that goes on takes no lock. -/
theorem oneLocked_set (hthread : live.threads[index]? = some thread)
    (hactive : thread.activity ≠ .ended) (activity : Activity) :
    ((live.threads.set index { thread with activity }).filter Thread.holdsLock).length ≤ 1 := by
  refine Nat.le_trans (length_filter_set_le hthread fun hholds => ?_) h.oneLocked
  exact thread.holdsLock_of_locked hactive
    (Thread.locked_of_holdsLock { thread with activity } hholds)

/-- A thread that is not busy goes on, and the history stays as it is. -/
theorem goes_on (hthread : live.threads[index]? = some thread)
    (hidle : thread.busy = false) (hactive : thread.activity ≠ .ended) (session : Session)
    (hevents : session.events = live.session.events) (activity : Activity)
    (hidle' : Thread.busy { thread with activity } = false) :
    Orderly ⟨session, live.threads.set index { thread with activity }, live.clients⟩ :=
  h.frame hevents (filter_set_of_neg hthread hidle hidle') (follows_self live)
    (h.oneLocked_set hthread hactive activity)

/-- A thread that may use the history finds no other thread busy. -/
theorem nobody_busy (hthread : live.threads[index]? = some thread)
    (hidle : thread.busy = false) (hactive : thread.activity ≠ .ended)
    (hapart : ∀ other ∈ live.threads.eraseIdx index, other.busy →
      thread.locked ∧ other.locked) : live.busy = [] := by
  refine filter_eq_nil_iff.mpr fun other hmem hbusy => ?_
  have hne : other ≠ thread := fun heq => by
    rw [heq, hidle] at hbusy
    cases hbusy
  have hother := mem_eraseIdx_of_ne hthread hmem hne
  obtain ⟨hlocked, hlocked'⟩ := hapart other hother hbusy
  -- both hold the lock, which only one thread can
  have hfree := neg_of_mem_eraseIdx hthread (thread.holdsLock_of_locked hactive hlocked)
    h.oneLocked hother
  have hactive' : other.activity ≠ .ended := fun hended => by
    rw [Thread.busy, hended] at hbusy
    cases hbusy
  rw [other.holdsLock_of_locked hactive' hlocked'] at hfree
  cases hfree

/-- Nobody is busy, so all registered clients have been given the whole history. -/
theorem allAt (hnone : live.busy = []) (hopen : live.session.deletionRequested = false) :
    live.AllAt live.session.events.length := by
  cases h.phase with
  | quiet _ hat => exact hat hopen
  | publishing _ _ _ hbusy | subscribing _ _ hbusy => rw [hnone] at hbusy; cases hbusy

theorem busy_eq (hthread : live.threads[index]? = some thread) (hbusy : thread.busy) :
    live.busy = [thread] := by
  have hmem : thread ∈ live.busy := mem_filter.mpr ⟨mem_of_getElem? hthread, hbusy⟩
  cases h.phase with
  | quiet hnone =>
    rw [hnone] at hmem
    cases hmem
  | publishing _ _ _ honly | subscribing _ _ honly =>
    rw [honly, mem_singleton] at hmem
    rw [honly, hmem]

/-! ### Publishing -/

variable {event : SessionEvent} {unpublished : List SessionEvent}

/-- A thread that publishes is the busy one, and publishes the next event. -/
theorem publishing_inv
    (hthread : live.threads[index]? = some ⟨locked, .handling (event :: unpublished) rest⟩) :
    ∃ published, event.sequence = published + 1 ∧
      unpublished = numbered (published + 2) (live.session.events.drop (published + 1)) ∧
      published < live.session.events.length ∧ live.AllAt published ∧
      live.session.deletionRequested = false := by
  have hthis := h.busy_eq hthread rfl
  cases h.phase with
  | quiet hbusy | subscribing _ _ hbusy =>
    rw [hthis] at hbusy
    cases hbusy
  | publishing published _ _ hbusy hopen hat =>
    rw [hthis, cons.injEq] at hbusy
    injection hbusy.1 with _ hactivity
    injection hactivity with hevents
    cases hdrop : live.session.events.drop published with
    | nil =>
      rw [hdrop] at hevents
      cases hevents
    | cons first later =>
      rw [hdrop, numbered] at hevents
      obtain ⟨rfl, hlater⟩ := cons_eq_cons.mp hevents
      have hlt : published < live.session.events.length := by
        by_contra hge
        rw [drop_eq_nil_of_le (by omega)] at hdrop
        cases hdrop
      refine ⟨published, rfl, ?_, hlt, hat, hopen⟩
      rw [hlater, ← tail_drop, hdrop]
      rfl

/-- Publishing gives the next event to every registered client, or cuts it off. -/
theorem publishes {encode : SessionEvent → Nat}
    {published : Nat} (hat : live.AllAt published) (hsequence : event.sequence = published + 1) :
    ∀ client' ∈ live.clients.map (Client.publish encode event), client'.InOrder ∧
      (client'.subscription.registered → client'.StandsAt (published + 1)) := by
  intro client' hmem
  obtain ⟨client, hclient, rfl⟩ := mem_map.mp hmem
  obtain ⟨hfollows, hcut⟩ | ⟨hregistered, hlog⟩ := Client.publish_cases encode event client
  · refine ⟨(h.inOrder client hclient).follow hfollows, fun hregistered => ?_⟩
    rw [hcut] at hregistered
    cases hregistered
  · have hstands := (hat client hclient hregistered).publish hsequence hlog
    exact ⟨⟨_, hstands⟩, fun _ => hstands⟩

theorem publish (encode : SessionEvent → Nat)
    (hthread : live.threads[index]? = some ⟨locked, .handling (event :: unpublished) rest⟩) :
    Orderly ⟨live.session, live.threads.set index ⟨locked, .handling unpublished rest⟩,
      live.clients.map (Client.publish encode event)⟩ := by
  obtain ⟨published, hsequence, hrest, hlt, hat, hopen⟩ := h.publishing_inv hthread
  have hclients := @publishes live h event encode published hat hsequence
  have hset := @filter_set_of_only _ _ _ _ Thread.busy hthread rfl (h.busy_eq hthread rfl)
    ⟨locked, .handling unpublished rest⟩
  refine ⟨h.oneLocked_set hthread nofun _, fun client hmem => (hclients client hmem).1, ?_⟩
  cases hunpublished : unpublished with
  | nil =>
    rw [hunpublished] at hset hrest
    refine .quiet hset fun _ client hmem hregistered => ?_
    have hlast : published + 1 = live.session.events.length := by
      have hlength := congrArg length hrest
      rw [length_numbered, length_drop, length_nil] at hlength
      omega
    exact hlast ▸ (hclients client hmem).2 hregistered
  | cons next later =>
    rw [hunpublished] at hset hrest
    refine .publishing (published + 1) locked rest ?_ hopen
      fun client hmem hregistered => (hclients client hmem).2 hregistered
    rw [← hrest]
    exact hset

/-! ### Calls -/

/-- A call publishes the events that it appends, unless it has requested the deletion. -/
theorem append
    (hthread : live.threads[index]? = some ⟨locked, .handling [] prog⟩) (hnone : live.busy = [])
    (hopen : live.session.deletionRequested = false) {new : List Event}
    (hevents : session.events = live.session.events ++ new) (hnew : new ≠ []) :
    Orderly ⟨session, live.threads.set index
      ⟨locked, .handling (announced live.session.events session.events) rest⟩, live.clients⟩ := by
  have hannounced : announced live.session.events session.events
      = if new.any isDeletionRequest then []
        else numbered (live.session.events.length + 1) new := by
    rw [announced, hevents, if_pos ( isPrefixOf_iff_prefix.mpr (prefix_append _ _)), drop_left]
  have hrequested : session.deletionRequested = new.any isDeletionRequest := by
    unfold Session.deletionRequested at hopen ⊢
    rw [hevents, any_append, hopen, Bool.false_or]
  have hset := @filter_set_of_none _ _ _ _ Thread.busy hthread hnone
  have hlocked := h.oneLocked_set hthread nofun
  rw [hannounced]
  split
  · next hdeletion =>
    refine ⟨hlocked _, h.inOrder, .quiet (hset _) fun hstill => ?_⟩
    rw [hrequested, hdeletion] at hstill
    cases hstill
  · next hdeletion =>
    refine ⟨hlocked _, h.inOrder, .publishing live.session.events.length locked rest ?_
      (hrequested.trans (by simpa using hdeletion)) (h.allAt hnone hopen)⟩
    show (live.threads.set _ _).filter _ = _
    rw [hset, hevents, drop_left]
    cases new with
    | nil => exact absurd rfl hnew
    | cons first later => rfl

/-- A call that removes the history leaves no client registered. -/
theorem remove
    (hthread : live.threads[index]? = some ⟨locked, .handling [] prog⟩) (hnone : live.busy = [])
    (session : Session) :
    Orderly ⟨session, live.threads.set index ⟨locked, .handling [] rest⟩,
      live.clients.map Client.purge⟩ := by
  refine ⟨h.oneLocked_set hthread nofun _, fun client' hmem => ?_,
    .quiet (@filter_set_of_none _ _ _ _ Thread.busy hthread hnone _) fun _ client' hmem hreg => ?_⟩
  · obtain ⟨client, hclient, rfl⟩ := mem_map.mp hmem
    exact (h.inOrder client hclient).purge
  · obtain ⟨client, hclient, rfl⟩ := mem_map.mp hmem
    cases hreg

theorem call (hthread : live.threads[index]? = some ⟨locked, .handling [] prog⟩)
    (hnone : session.events ≠ live.session.events → live.busy = [])
    (hopen : live.session.events.isPrefixOf session.events →
      session.events ≠ live.session.events → live.session.deletionRequested = false) :
    Orderly ⟨session, live.threads.set index
        ⟨locked, .handling (announced live.session.events session.events) rest⟩,
      if live.session.events.isPrefixOf session.events then live.clients
      else live.clients.map Client.purge⟩ := by
  by_cases hsame : session.events = live.session.events
  · have hextends : live.session.events.isPrefixOf session.events := by
      rw [hsame]
      exact isPrefixOf_iff_prefix.mpr prefix_rfl
    have hannounced : announced live.session.events session.events = [] := by
      rw [announced, if_pos hextends, hsame, drop_length]
      rfl
    rw [if_pos hextends, hannounced]
    exact h.goes_on hthread rfl nofun session hsame (.handling [] rest) rfl
  · by_cases hextends : live.session.events.isPrefixOf session.events = true
    · rw [if_pos hextends]
      obtain ⟨new, hnew⟩ := isPrefixOf_iff_prefix.mp hextends
      refine h.append hthread (hnone hsame) (hopen hextends hsame) hnew.symm fun hnil => ?_
      rw [hnil, append_nil] at hnew
      exact hsame hnew.symm
    · rw [if_neg hextends, announced, if_neg hextends]
      exact h.remove hthread (hnone hsame) session

/-! ### Attaching -/

/-- While a thread has read the history, the history stays the same. -/
theorem subscribing_inv {history : List Event}
    (hthread : live.threads[index]? = some ⟨locked, .attaching cursor (some history)⟩) :
    history = live.session.events ∧ cursor ≤ history.length ∧
      (live.session.deletionRequested = false → live.AllAt history.length) := by
  have hthis := h.busy_eq hthread rfl
  cases h.phase with
  | quiet hbusy | publishing _ _ _ hbusy =>
    rw [hthis] at hbusy
    cases hbusy
  | subscribing _ _ hbusy hcursor hat =>
    rw [hthis] at hbusy
    cases hbusy
    exact ⟨rfl, hcursor, hat⟩

/-- The thread ends, with a new subscriber or without one. -/
theorem subscribe {history : List Event}
    (hthread : live.threads[index]? = some ⟨locked, .attaching cursor (some history)⟩)
    (new : List Client) (hnew : ∀ client ∈ new, client.StandsAt history.length) :
    Orderly ⟨live.session, live.threads.set index ⟨locked, .ended⟩, live.clients ++ new⟩ := by
  obtain ⟨rfl, hcursor, hat⟩ := h.subscribing_inv hthread
  refine ⟨h.oneLocked_set hthread nofun _, fun client hmem => ?_,
    .quiet (filter_set_of_only hthread rfl (h.busy_eq hthread rfl) _)
      fun hopen client hmem hregistered => ?_⟩
  · obtain hmem | hmem := mem_append.mp hmem
    · exact h.inOrder client hmem
    · exact ⟨_, hnew client hmem⟩
  · obtain hmem | hmem := mem_append.mp hmem
    · exact hat hopen client hmem hregistered
    · exact hnew client hmem

end Live.Orderly

/-! ## Every move -/

section

variable {env : Environment} {encode : SessionEvent → Nat} {live live' : Live}

theorem Live.Orderly.go (h : live.Orderly) {index : Nat} {fault : Bool}
    (hallowed : live.Undisturbed (.go index fault))
    (hstep : live.step env encode (.go index fault) = some live') : live'.Orderly := by
  cases hthread : live.threads[index]? with
  | none =>
    rw [Live.step, hthread] at hstep
    cases hstep
  | some thread =>
    simp only [Live.step, hthread] at hstep
    simp only [Live.Undisturbed, hthread] at hallowed
    obtain ⟨hapart, hopen, hcursor⟩ := hallowed
    obtain ⟨locked, activity⟩ := thread
    cases activity with
    | ended => cases hstep
    | handling unpublished rest =>
      cases unpublished with
      | cons event unpublished =>
        cases hstep
        exact h.publish encode hthread
      | nil =>
        cases rest with
        | done result =>
          cases hstep
          exact h.goes_on hthread rfl (by rintro ⟨⟩) (live.session.settle _) rfl .ended rfl
        | call =>
          cases hstep
          refine h.call hthread (fun hchange => ?_) fun hextends hchange => ?_
          · exact h.nobody_busy hthread rfl (by rintro ⟨⟩) (hapart (bne_iff_ne.mpr hchange))
          · exact hopen (Bool.and_eq_true_iff.mpr ⟨hextends, bne_iff_ne.mpr hchange⟩)
    | attaching cursor history =>
      cases history with
      | none =>
        simp only [Live.goOn] at hstep
        split at hstep
        · cases hstep
          exact h.goes_on hthread rfl (by rintro ⟨⟩) live.session rfl .ended rfl
        cases hstep
        have hnone := h.nobody_busy hthread rfl (by rintro ⟨⟩) (hapart rfl)
        exact ⟨h.oneLocked_set hthread (by rintro ⟨⟩) _, h.inOrder,
          .subscribing cursor _ (@filter_set_of_none _ _ _ _ Thread.busy hthread hnone _)
            (of_decide_eq_true hcursor) fun hopen => h.allAt hnone hopen⟩
      | some history =>
        simp only [Live.goOn] at hstep
        split at hstep
        · next result subscription hattach =>
          cases hstep
          refine h.subscribe hthread _ fun client hmem => ?_
          rw [mem_singleton] at hmem
          subst hmem
          -- a new subscriber has been given the whole history behind its cursor
          refine ⟨(h.subscribing_inv hthread).2.1, ?_⟩
          show ([] ++ subscription.queue.contents).map SessionEvent.sequence
            = range' (cursor + 1) (history.length - cursor)
          rw [nil_append, contents_of_handleAttach hattach, replayAfter_numbered,
            sequences_numbered, length_drop]
        · cases hstep
          have hended := h.subscribe hthread [] (by rintro _ ⟨⟩)
          rw [append_nil] at hended
          exact hended

theorem Live.Orderly.step (h : live.Orderly) {move : Live.Move} (hallowed : live.Undisturbed move)
    (hstep : live.step env encode move = some live') : live'.Orderly := by
  cases move with
  | submit =>
    cases hstep
    exact h.frame rfl rfl (Live.Orderly.follows_self live) h.oneLocked
  | attach | maintain =>
    simp only [Live.step] at hstep
    split at hstep
    · next hfree =>
      cases hstep
      rw [Live.lockFree, Bool.and_eq_true, Bool.not_eq_true', Bool.not_eq_true'] at hfree
      exact h.spawn rfl rfl fun _ => hfree.2
    · cases hstep
  | start =>
    simp only [Live.step, Live.start] at hstep
    split at hstep
    · cases hstep
    split at hstep
    · cases hstep
    split at hstep
    · cases hstep
    obtain ⟨hfree, hstep⟩ := Option.ite_none_left_eq_some.mp hstep
    cases hstep
    refine h.spawn rfl rfl fun hlocked => ?_
    rw [Bool.and_eq_true, not_and] at hfree
    exact Bool.eq_false_iff.mpr (hfree hlocked)
  | go => exact h.go hallowed hstep
  | read =>
    simp only [Live.step, Option.map_eq_some_iff] at hstep
    obtain ⟨client, hclient, rfl⟩ := hstep
    exact h.set_client hclient client.read_follows
  | detach =>
    simp only [Live.step, Option.map_eq_some_iff] at hstep
    obtain ⟨client, hclient, rfl⟩ := hstep
    exact h.set_client hclient ⟨rfl, rfl, fun h => by cases h⟩

end

/-! ## Every run -/

theorem Live.orderly_idle (s : Session) : (Live.idle s).Orderly :=
  ⟨Nat.zero_le _, nofun, .quiet rfl nofun⟩

/-- In every run of a session's threads that do not disturb each other, each client receives
consecutive events from right after its cursor. -/
theorem delivery_in_order (env : Environment) (encode : SessionEvent → Nat) (s : Session)
    {live : Live} (hreach : Reaches (Live.step env encode) Live.Undisturbed (.idle s) live) :
    ∀ client ∈ live.clients, client.Ordered := by
  have horderly : live.Orderly :=
    hreach.invariant (Live.orderly_idle s) fun _ _ _ h hallowed hstep => h.step hallowed hstep
  exact fun client hmem => (horderly.inOrder client hmem).ordered

/-- A client attaches after the third event, the failure of the provider is recorded and the attempt
abandoned: the client receives the events from the fourth on. -/
theorem attached_client_reads_on :
    ∃ app, Reaches (Application.step smallEnvironment) anyAction .initial app ∧
      ∃ s ∈ app.sessions, ∃ live,
        Reaches (Live.step smallEnvironment fun _ => 100) Live.Undisturbed
          (.idle s) live ∧
        (∃ client ∈ live.clients, client.received.length = 12) ∧
        ∀ client ∈ live.clients, client.Ordered := by
  obtain ⟨app, happ, s, hs, live, hlive, hlength⟩ := @interleaving_reaches
    smallEnvironment (fun _ => 100) Live.Undisturbed _ secondStepStarts
    ([.attach 3, .go 0 false, .go 0 false, .start 0 startFails] ++
      replicate 4 (.go 1 false) ++
      [.submit 103 (.reconcile 57 .abandon none), .start 0 .proceed] ++
      replicate 6 (.go 2 false) ++ replicate 12 (.read 0))
    (fun live => ∃ client ∈ live.clients, client.received.length = 12) (by decide +kernel)
  exact ⟨app, happ, s, hs, live, hlive, hlength, delivery_in_order _ _ s hlive⟩

/-- A client has been given the history when a provider failure is recorded and published, and
subscribes then: it stays registered and is never given that event. -/
theorem failure_skipped_while_attaching :
    ∃ app, Reaches (Application.step smallEnvironment) anyAction .initial app ∧
      ∃ s ∈ app.sessions, ∃ live,
        Reaches (Live.step smallEnvironment fun _ => 100) anyAction (.idle s) live ∧
        ∃ client ∈ live.clients, client.subscription.registered ∧ ¬ client.Ordered :=
  interleaving_reaches secondStepStarts
    ([.attach 0, .go 0 false, .start 0 startFails] ++ replicate 4 (.go 1 false) ++
      [.go 0 false, .submit 103 (.reconcile 57 .abandon none), .start 0 .proceed] ++
      replicate 6 (.go 2 false) ++ replicate 13 (.read 0)) (by decide +kernel)

end Workbench.Daemon
