import Workbench.Daemon.Subscription
import Workbench.Library.Transition

/-!
# Daemon: the subscription hub

Until it closes, a subscription loses nothing: what its client has received and what is still
queued is the replay followed by what was published since.  A lag notice is the last item.
A deletion purges the subscribers of its session before it publishes its event, so no client
receives that event.
-/

namespace Workbench.Daemon

open Storage Library List

/-- A subscription, with what it was offered and what its client has received. -/
structure Subscriber extends Subscription where
  session : Uuid
  /-- The replay, and then the events published to the session since. -/
  offered : List SessionEvent
  items : List Item
  purged : Bool

/-- The event that `next` has returned, if it was one. -/
def Item.event? : Item → Option SessionEvent
  | .event read => some read
  | _ => none

namespace Subscriber

def received (subscriber : Subscriber) : List SessionEvent := subscriber.items.filterMap Item.event?

def publish (encode : SessionEvent → Nat) (session : Uuid) (event : SessionEvent)
    (subscriber : Subscriber) : Subscriber :=
  if subscriber.session = session then
    { subscriber with
      toSubscription := subscriber.toSubscription.publish encode event
      offered := subscriber.offered ++ [event] }
  else subscriber

/-- Only who is still registered is purged. -/
def purge (session : Uuid) (subscriber : Subscriber) : Subscriber :=
  if subscriber.session = session ∧ subscriber.registered = true then
    { subscriber with toSubscription := subscriber.toSubscription.purge, purged := true }
  else subscriber

/-- The end of the subscription, and a wait for more, are no items. -/
def next (subscriber : Subscriber) : Subscriber :=
  match subscriber.toSubscription.next with
  | (.ended, toSubscription) | (.waits, toSubscription) => { subscriber with toSubscription }
  | (item, toSubscription) =>
    { subscriber with toSubscription, items := subscriber.items ++ [item] }

end Subscriber

inductive HubAction where
  | subscribe (session : Uuid) (replay : List SessionEvent)
  | publish (session : Uuid) (event : SessionEvent)
  | next (index : Nat)
  | purge (session : Uuid)
  /-- Both ends of a subscription are gone. -/
  | drop (index : Nat)

/-- The hub, with the subscriptions that it has handed out. -/
def hubStep (encode : SessionEvent → Nat) (hub : List Subscriber) :
    HubAction → Option (List Subscriber)
  | .subscribe session replay =>
    match Subscription.subscribe encode replay with
    | .ok subscription => some (hub ++ [⟨subscription, session, replay, [], false⟩])
    | .error _ => some hub
  | .publish session event => some (hub.map (Subscriber.publish encode session event))
  | .next index => hub[index]?.map fun subscriber => hub.set index subscriber.next
  | .purge session => some (hub.map (Subscriber.purge session))
  | .drop index => some (hub.eraseIdx index)

/-! ## Lossless until it closes -/

/-- What a client can rely on. -/
structure Subscriber.Lossless (subscriber : Subscriber) : Prop where
  received : subscriber.received <+: subscriber.offered
  attached : subscriber.registered →
    subscriber.received ++ subscriber.queue.contents = subscriber.offered
  signals : subscriber.purged = false →
    subscriber.signals.count .event = subscriber.queue.contents.length
  lagged : subscriber.items = subscriber.received.map .event ∨
    subscriber.items = subscriber.received.map .event ++ [.lagged]

/-- Open; closed, with the notice behind the queued signals; with the notice read; purged. -/
inductive Subscriber.Stands (subscriber : Subscriber) (received : List SessionEvent) : Prop where
  | queued (notice : List Signal)
      (hopen : (subscriber.registered ∧ notice = [] ∧
          received ++ subscriber.queue.contents = subscriber.offered) ∨
        (subscriber.registered = false ∧ notice = [.lagged] ∧
          received ++ subscriber.queue.contents <+: subscriber.offered))
      (hsignals : subscriber.signals
        = replicate subscriber.queue.contents.length .event ++ notice)
      (hitems : subscriber.items = received.map .event) (hpurged : subscriber.purged = false)
  | closed (notice : List Item) (left : Nat) (hregistered : subscriber.registered = false)
      (hoffered : received <+: subscriber.offered) (hempty : subscriber.queue.contents = [])
      (hsignals : subscriber.signals = replicate left .event)
      (hitems : subscriber.items = received.map .event ++ notice)
      (hnotice : (notice = [.lagged] ∧ left = 0) ∨ (notice = [] ∧ subscriber.purged))

namespace Subscriber.Stands

variable {subscriber : Subscriber} {received : List SessionEvent} (h : subscriber.Stands received)
include h

theorem received_eq : subscriber.received = received := by
  have hmap : (received.map Item.event).filterMap Item.event? = received := by
    simp [filterMap_map, Function.comp_def, Item.event?]
  cases h with
  | queued _ _ _ hitems => rw [Subscriber.received, hitems, hmap]
  | closed _ _ _ _ _ _ hitems hnotice =>
    rw [Subscriber.received, hitems, filterMap_append, hmap]
    rcases hnotice with ⟨rfl, -⟩ | ⟨rfl, -⟩ <;> simp [Item.event?]

theorem lossless : subscriber.Lossless := by
  have hreceived := h.received_eq
  cases h with
  | queued _ hopen hsignals hitems =>
    have hprefix := prefix_append received subscriber.queue.contents
    rcases hopen with ⟨-, rfl, hoffered⟩ | ⟨hregistered, rfl, hoffered⟩
    · exact ⟨by rwa [hreceived, ← hoffered], fun _ => hreceived ▸ hoffered,
        fun _ => by simp [hsignals], .inl (hreceived ▸ hitems)⟩
    · exact ⟨hreceived ▸ hprefix.trans hoffered, by simp [hregistered],
        fun _ => by simp [hsignals], .inl (hreceived ▸ hitems)⟩
  | closed _ _ _ _ _ _ _ hnotice =>
    rcases hnotice with ⟨rfl, rfl⟩ | ⟨rfl, hpurged⟩ <;> constructor <;> simp_all

theorem publish (encode : SessionEvent → Nat) (session : Uuid)
    (event : SessionEvent) : (subscriber.publish encode session event).Stands received := by
  unfold Subscriber.publish Subscription.publish
  split
  · have hgrows := prefix_append subscriber.offered [event]
    cases h with
    | queued _ hopen hsignals hitems hpurged =>
      rcases hopen with ⟨hregistered, rfl, hoffered⟩ | ⟨hregistered, rfl, hoffered⟩
      · rw [if_pos hregistered]
        split
        · next queue hpush =>
          have hcontents := SubscriptionQueue.contents_of_push hpush
          refine .queued [] (.inl ⟨hregistered, rfl, ?_⟩) ?_ hitems hpurged
          · simp [hcontents, ← hoffered]
          · simp [hcontents, hsignals, replicate_succ']
        · next queue hpush =>
          have hcontents := SubscriptionQueue.contents_of_push_error hpush
          exact .queued [.lagged] (.inr ⟨rfl, rfl, by simp [hcontents, hoffered]⟩)
            (by simp [hcontents, hsignals]) hitems hpurged
      · rw [if_neg (by simp [hregistered])]
        exact .queued _ (.inr ⟨hregistered, rfl, hoffered.trans hgrows⟩) hsignals hitems hpurged
    | closed notice left hregistered hoffered hempty hsignals hitems hnotice =>
      rw [if_neg (by simp [hregistered])]
      exact .closed notice left hregistered (hoffered.trans hgrows) hempty hsignals hitems hnotice
  · exact h

theorem purge (session : Uuid) : (subscriber.purge session).Stands received := by
  unfold Subscriber.purge
  split
  · next hboth =>
    cases h with
    | queued _ hopen hsignals hitems =>
      rcases hopen with ⟨-, rfl, hoffered⟩ | ⟨hregistered, -⟩
      · rw [append_nil] at hsignals
        exact .closed [] _ rfl ⟨_, hoffered⟩ rfl hsignals (by simp [hitems]) (.inr ⟨rfl, rfl⟩)
      · simp [hregistered] at hboth
    | closed _ _ hregistered => simp [hregistered] at hboth
  · exact h

/-- One event is received, the notice is read, or nothing happens. -/
theorem next : ∃ more, subscriber.next.Stands (received ++ more) := by
  unfold Subscriber.next Subscription.next
  cases h with
  | queued notice hopen hsignals hitems hpurged =>
    cases hcontents : subscriber.queue.contents with
    | nil =>
      refine ⟨[], ?_⟩
      rw [hcontents] at hsignals
      rcases hopen with ⟨hregistered, rfl, hoffered⟩ | ⟨hregistered, rfl, hoffered⟩
      · simp only [hsignals, length_nil, replicate_zero, append_nil, hregistered, if_true]
        exact .queued [] (.inl ⟨hregistered, rfl, hoffered⟩) (by simp [hcontents, hsignals]) hitems
          hpurged
      · simp only [hsignals, length_nil, replicate_zero, nil_append, append_nil]
        rw [hcontents, append_nil] at hoffered
        exact .closed [.lagged] 0 hregistered hoffered hcontents rfl (by rw [hitems])
          (.inl ⟨rfl, rfl⟩)
    | cons event rest =>
      obtain ⟨queue, hpop, hrest, -⟩ := SubscriptionQueue.pop_of_contents hcontents
      refine ⟨[event], ?_⟩
      rw [hcontents] at hsignals hopen
      simp only [hsignals, length_cons, replicate_succ, cons_append, hpop]
      exact .queued notice (by simpa [hrest] using hopen) (by simp [hrest])
        (by simp [hitems]) hpurged
  | closed notice left hregistered hoffered hempty hsignals hitems hnotice =>
    refine ⟨[], ?_⟩
    rw [append_nil, hsignals]
    cases left with
    | zero =>
      simp only [replicate_zero, hregistered, Bool.false_eq_true, if_false]
      exact .closed notice 0 hregistered hoffered hempty hsignals hitems hnotice
    | succ left =>
      have hpop : subscriber.queue.pop = none := by
        cases hpop : subscriber.queue.pop with
        | none => rfl
        | some popped => simp [SubscriptionQueue.contents_of_pop hpop] at hempty
      simp only [replicate_succ, hpop]
      exact .closed notice left hregistered hoffered hempty rfl hitems
        (.inr (by simpa using hnotice))

omit h

end Subscriber.Stands

variable {encode : SessionEvent → Nat}

theorem stands_of_subscribe {replay : List SessionEvent}
    {subscription : Subscription} (session : Uuid)
    (h : Subscription.subscribe encode replay = .ok subscription) :
    Subscriber.Stands ⟨subscription, session, replay, [], false⟩ [] := by
  unfold Subscription.subscribe at h
  cases hpush : SubscriptionQueue.empty.pushAll encode replay with
  | error error => rw [hpush] at h; cases h
  | ok queue =>
    rw [hpush] at h
    cases h
    have hcontents : queue.contents = replay := SubscriptionQueue.contents_of_pushAll hpush
    exact .queued [] (.inl ⟨rfl, rfl, hcontents⟩) (by simp [SubscriptionQueue.contents]) rfl rfl

/-- In every run of the hub, every subscription is lossless. -/
theorem hub_lossless (encode : SessionEvent → Nat) {hub : List Subscriber}
    (hreach : Reaches (hubStep encode) anyAction [] hub) :
    ∀ subscriber ∈ hub, subscriber.Lossless := by
  suffices h : ∀ subscriber ∈ hub, ∃ received, subscriber.Stands received by
    intro subscriber hmem
    obtain ⟨received, hstands⟩ := h subscriber hmem
    exact hstands.lossless
  refine hreach.invariant (I := fun hub => ∀ subscriber ∈ hub, ∃ received,
    subscriber.Stands received) (forall_mem_nil _) ?_
  intro hub action after h _ hstep
  cases action with
  | subscribe session =>
    simp only [hubStep] at hstep
    split at hstep
    · next subscription hsubscribe =>
      cases hstep
      exact forall_mem_append.mpr ⟨h,
        forall_mem_singleton.mpr ⟨[], stands_of_subscribe session hsubscribe⟩⟩
    · cases hstep
      exact h
  | publish session event =>
    cases hstep
    refine forall_mem_map.mpr fun subscriber hmem => ?_
    exact (h subscriber hmem).imp fun _ hstands => hstands.publish encode session event
  | next =>
    obtain ⟨subscriber, hindex, rfl⟩ := Option.map_eq_some_iff.mp hstep
    intro other hmem
    rcases mem_or_eq_of_mem_set hmem with hold | rfl
    · exact h other hold
    · obtain ⟨received, hstands⟩ := h subscriber (mem_of_getElem? hindex)
      exact hstands.next.imp' (received ++ ·) fun _ hnext => hnext
  | purge session =>
    cases hstep
    refine forall_mem_map.mpr fun subscriber hmem => ?_
    exact (h subscriber hmem).imp fun _ hstands => hstands.purge session
  | drop =>
    cases hstep
    exact fun subscriber hmem => h subscriber (mem_of_mem_eraseIdx hmem)

/-- Some event of a session. -/
def pausedAt (sequence : Nat) : SessionEvent := wireEvent sequence ⟨.sessionPaused 0, none, none⟩

/-- Two clients, one of which is purged before it has read what was published. -/
theorem purged_client_lossless :
    ∃ hub : List Subscriber, (∃ subscriber ∈ hub, subscriber.received = [pausedAt 1] ∧
      subscriber.offered = [pausedAt 1, pausedAt 2]) ∧
      ∀ subscriber ∈ hub, subscriber.Lossless := by
  obtain ⟨hub, hreach, hread⟩ := @exists_reaches_of_execute _ _ (hubStep fun _ => 1) anyAction _ []
    [.subscribe 1 [pausedAt 1], .subscribe 2 [], .publish 1 (pausedAt 2), .next 0,
    .purge 1, .next 0]
    (fun hub => ∃ subscriber ∈ hub, subscriber.received = [pausedAt 1] ∧
      subscriber.offered = [pausedAt 1, pausedAt 2]) (by decide +kernel)
  exact ⟨hub, hread, hub_lossless _ hreach⟩

/-! ## Deletion -/

/-- The end of `handle_delete`: the session is purged, and then its last event is published. -/
def Subscriber.deleted (encode : SessionEvent → Nat) (session : Uuid) (deletion : SessionEvent)
    (subscriber : Subscriber) : Subscriber :=
  (subscriber.purge session).publish encode session deletion

/-- The next so many results of `next`. -/
def Subscription.read : Nat → Subscription → List Item
  | 0, _ => []
  | count + 1, subscription => subscription.next.1 :: subscription.next.2.read count

/-- The subscriber is attached to the session and has room for the event. -/
def Subscriber.Awaits (encode : SessionEvent → Nat) (session : Uuid) (deletion : SessionEvent)
    (subscriber : Subscriber) : Prop :=
  subscriber.session = session ∧ subscriber.registered ∧
    subscriber.queue.hasRoom encode deletion

/-- The client reads what was queued, the event of the deletion and the end. -/
def Subscriber.SeesDeletion (encode : SessionEvent → Nat) (session : Uuid)
    (deletion : SessionEvent) (subscriber : Subscriber) : Prop :=
  (subscriber.deleted encode session deletion).read (subscriber.queue.contents.length + 2)
    = subscriber.queue.contents.map .event ++ [.event deletion, .ended]

/-- A purged subscription has no event to read, and is not published to. -/
theorem next_deleted {session : Uuid} {deletion : SessionEvent}
    {subscriber : Subscriber} (h : subscriber.Awaits encode session deletion)
    (event : SessionEvent) :
    (subscriber.deleted encode session deletion).toSubscription.next.1 ≠ .event event := by
  obtain ⟨hsession, hregistered, -⟩ := h
  simp only [Subscriber.deleted, Subscriber.purge, Subscriber.publish, Subscription.publish,
    Subscription.purge, hsession, hregistered, and_self, if_true, Bool.false_eq_true, if_false]
  unfold Subscription.next
  split
  · nofun
  · nofun
  · nofun

/-- Every attached client with room sees a deletion exactly if there is no such client. -/
theorem deletion_seen_iff (encode : SessionEvent → Nat) (hub : List Subscriber) (session : Uuid)
    (deletion : SessionEvent) :
    (∀ subscriber ∈ hub, subscriber.Awaits encode session deletion →
      subscriber.SeesDeletion encode session deletion) ↔
    ∀ subscriber ∈ hub, ¬ subscriber.Awaits encode session deletion := by
  refine ⟨fun hsees subscriber hmem hawaits => ?_, fun hnone subscriber hmem hawaits =>
    absurd hawaits (hnone subscriber hmem)⟩
  have hread := hsees subscriber hmem hawaits
  unfold Subscriber.SeesDeletion at hread
  -- the first item would be an event
  cases hcontents : subscriber.queue.contents with
  | nil =>
    rw [hcontents] at hread
    exact next_deleted hawaits deletion (cons.inj hread).1
  | cons event rest =>
    rw [hcontents] at hread
    exact next_deleted hawaits event (cons.inj hread).1

/-- A client that has an event to read and room for more reads the end of its subscription. -/
theorem deletion_not_seen : ∃ hub,
    Reaches (hubStep fun _ => 1) anyAction [] hub ∧
    ∃ subscriber ∈ hub, subscriber.Awaits (fun _ => 1) 1 (pausedAt 3) ∧
      ¬ subscriber.SeesDeletion (fun _ => 1) 1 (pausedAt 3) ∧
      (subscriber.deleted (fun _ => 1) 1 (pausedAt 3)).read 3 = [.ended, .ended, .ended] := by
  refine exists_reaches_of_execute [.subscribe 1 [pausedAt 1]] ?_
  exact ⟨_, rfl, _, mem_singleton_self _, ⟨rfl, rfl, by decide⟩, nofun, rfl⟩

end Workbench.Daemon
