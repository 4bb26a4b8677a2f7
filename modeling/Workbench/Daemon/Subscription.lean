import Workbench.Daemon.History
import Workbench.Protocol.Codec

/-!
# Daemon: subscriptions

A client that attaches to a session is given the events after its cursor and then the
events that are published.  Both go through one bounded queue: `subscribe` fills it with
the whole backlog before the client can read anything.

A wire event carries what its check reads; the rest of its fields count only by the length
of its encoding, which is the parameter `encode`.
-/

namespace Workbench.Daemon

open Storage List

/-! ## Events on the wire -/

/-- A session event as a client receives it. -/
structure SessionEvent where
  protocol : String
  sequence : Nat
  event : Event
  /-- The field `data` is an object. -/
  hasObject : Bool
  deriving DecidableEq

def SessionEvent.validate (event : SessionEvent) : Except String Unit := do
  if event.protocol ≠ Protocol.protocolV1 then throw "unsupported protocol major"
  if event.sequence = 0 then throw "event sequence must be positive"
  if !event.hasObject then throw "event data must be an object"

/-- A stored event on the wire; the payloads of the daemon are objects. -/
def wireEvent (sequence : Nat) (event : Event) : SessionEvent :=
  ⟨Protocol.protocolV1, sequence, event, true⟩

@[simp] theorem wireEvent_sequence (sequence : Nat) (event : Event) :
    (wireEvent sequence event).sequence = sequence := rfl

/-- The events of a history, numbered from `start` on. -/
def numbered (start : Nat) : List Event → List SessionEvent
  | [] => []
  | event :: rest => wireEvent start event :: numbered (start + 1) rest

/-- The events behind a cursor. -/
def replayAfter (cursor : Nat) (events : List SessionEvent) : List SessionEvent :=
  events.filter fun event => cursor < event.sequence

section

variable (start : Nat) (events : List Event)

@[simp] theorem length_numbered : (numbered start events).length = events.length := by
  induction events generalizing start with
  | nil => rfl
  | cons event rest ih => rw [numbered, length_cons, ih, length_cons]

theorem sequences_numbered :
    (numbered start events).map (·.sequence) = range' start events.length := by
  induction events generalizing start with
  | nil => rfl
  | cons event rest ih =>
    rw [numbered, map_cons, ih, length_cons, range'_succ, wireEvent_sequence]

theorem numbered_append (more : List Event) :
    numbered start (events ++ more)
      = numbered start events ++ numbered (start + events.length) more := by
  induction events generalizing start with
  | nil => rfl
  | cons event rest ih =>
    rw [cons_append, numbered, numbered, ih, cons_append, length_cons,
      Nat.add_assoc, Nat.add_comm 1]

variable {start events}

theorem mem_numbered {event : SessionEvent} (h : event ∈ numbered start events) :
    ∃ sequence stored, start ≤ sequence ∧ event = wireEvent sequence stored := by
  induction events generalizing start with
  | nil => cases h
  | cons stored rest ih =>
    rcases mem_cons.mp h with rfl | h
    · exact ⟨start, stored, le_rfl, rfl⟩
    · obtain ⟨sequence, stored, hle, heq⟩ := ih h
      exact ⟨sequence, stored, by omega, heq⟩

theorem le_of_mem_numbered {event : SessionEvent} (h : event ∈ numbered start events) :
    start ≤ event.sequence := by
  obtain ⟨sequence, stored, hle, rfl⟩ := mem_numbered h
  exact hle

theorem validate_of_mem_numbered {event : SessionEvent} (hstart : 0 < start)
    (h : event ∈ numbered start events) : event.validate = .ok () := by
  obtain ⟨sequence, stored, hle, rfl⟩ := mem_numbered h
  have hsequence : sequence ≠ 0 := by omega
  simp [SessionEvent.validate, wireEvent, hsequence]
  rfl

/-- From its cursor on, a client is missing the events behind it. -/
theorem replayAfter_numbered (cursor : Nat) (events : List Event) :
    replayAfter cursor (numbered 1 events) = numbered (cursor + 1) (events.drop cursor) := by
  suffices h : ∀ start cursor, replayAfter cursor (numbered start events)
      = numbered (max start (cursor + 1)) (events.drop (cursor + 1 - start)) by
    rw [h 1 cursor, Nat.add_sub_cancel, Nat.max_eq_right (by omega)]
  intro start cursor
  induction events generalizing start with
  | nil => rw [drop_nil]; rfl
  | cons event rest ih =>
    rw [numbered, replayAfter, filter_cons, wireEvent_sequence]
    by_cases hlt : cursor < start
    · rw [if_pos (decide_eq_true hlt), show cursor + 1 - start = 0 by omega, drop_zero,
        Nat.max_eq_left (by omega), numbered]
      have hrest := ih (start + 1)
      rw [replayAfter, show cursor + 1 - (start + 1) = 0 by omega, drop_zero,
        Nat.max_eq_left (by omega)] at hrest
      rw [hrest]
    · rw [if_neg fun h => hlt (of_decide_eq_true h)]
      have hrest := ih (start + 1)
      rw [replayAfter] at hrest
      rw [hrest, show cursor + 1 - start = cursor + 1 - (start + 1) + 1 by omega,
        drop_succ_cons, Nat.max_eq_right (by omega), Nat.max_eq_right (by omega)]

end

/-! ## The bounded queue -/

inductive SubscriptionError where
  | clientLagged
  | closed
  | encoding

def maxQueueEvents : Nat := 1024

def maxQueueBytes : Nat := 8388608

/-- The events of one client that have not been read, each with its encoded size. -/
structure SubscriptionQueue where
  events : List (SessionEvent × Nat)
  encodedBytes : Nat
  closed : Bool
  counted : encodedBytes = (events.map (·.2)).sum
  bounded : events.length ≤ maxQueueEvents ∧ encodedBytes ≤ maxQueueBytes

section

variable (encode : SessionEvent → Nat)

/-- The size of an event in the queue: its encoding and a newline. -/
def frameSize (event : SessionEvent) : Nat := encode event + 1

namespace SubscriptionQueue

def empty : SubscriptionQueue where
  events := []
  encodedBytes := 0
  closed := false
  counted := rfl
  bounded := by decide

def hasRoom (queue : SubscriptionQueue) (event : SessionEvent) : Prop :=
  queue.events.length ≠ maxQueueEvents ∧ queue.encodedBytes + frameSize encode event ≤ maxQueueBytes

instance (queue : SubscriptionQueue) (event : SessionEvent) :
    Decidable (queue.hasRoom encode event) := inferInstanceAs (Decidable (_ ∧ _))

def push (queue : SubscriptionQueue) (event : SessionEvent) :
    Except SubscriptionError Unit × SubscriptionQueue :=
  if queue.closed then (.error .closed, queue)
  else
    match event.validate with
    | .error _ => (.error .encoding, queue)
    | .ok () =>
      if h : queue.hasRoom encode event then
        (.ok (),
         { events := queue.events ++ [(event, frameSize encode event)]
           encodedBytes := queue.encodedBytes + frameSize encode event
           closed := queue.closed
           counted := by rw [queue.counted, map_append, sum_append]; simp
           bounded := by
             have hlength := queue.bounded.1
             rw [length_append, length_singleton]
             exact ⟨by have := h.1; omega, h.2⟩ })
      else (.error .clientLagged, { queue with closed := true })

def pop (queue : SubscriptionQueue) : Option (SessionEvent × SubscriptionQueue) :=
  match h : queue.events with
  | [] => none
  | (event, size) :: rest =>
    some (event,
      { events := rest
        encodedBytes := queue.encodedBytes - size
        closed := queue.closed
        counted := by rw [queue.counted, h, map_cons, sum_cons]; omega
        bounded := by
          have hbounded := queue.bounded
          rw [h, length_cons] at hbounded
          exact ⟨by omega, by omega⟩ })

/-- Pushes events until one is refused. -/
def pushAll (queue : SubscriptionQueue) : List SessionEvent →
    Except SubscriptionError SubscriptionQueue
  | [] => .ok queue
  | event :: rest =>
    match queue.push encode event with
    | (.ok (), queue) => queue.pushAll rest
    | (.error error, _) => .error error

/-- The events in the queue, without their sizes. -/
def contents (queue : SubscriptionQueue) : List SessionEvent := queue.events.map (·.1)

/-- Empties the queue. -/
def clear (queue : SubscriptionQueue) : SubscriptionQueue where
  events := []
  encodedBytes := 0
  closed := queue.closed
  counted := rfl
  bounded := by decide

variable {encode} {queue : SubscriptionQueue} {event : SessionEvent}

theorem push_of_hasRoom (hopen : queue.closed = false) (hvalid : event.validate = .ok ())
    (hroom : queue.hasRoom encode event) :
    ∃ queue', queue.push encode event = (.ok (), queue') ∧ queue'.closed = false ∧
      queue'.contents = queue.contents ++ [event] ∧
      queue'.encodedBytes = queue.encodedBytes + frameSize encode event := by
  unfold push
  rw [if_neg (by simp [hopen]), hvalid]
  dsimp only
  rw [dif_pos hroom]
  exact ⟨_, rfl, hopen, by simp [contents], rfl⟩

theorem push_of_not_hasRoom (hopen : queue.closed = false) (hvalid : event.validate = .ok ())
    (hroom : ¬ queue.hasRoom encode event) :
    queue.push encode event = (.error .clientLagged, { queue with closed := true }) := by
  unfold push
  rw [if_neg (by simp [hopen]), hvalid]
  dsimp only
  rw [dif_neg hroom]

/-- A push appends the event, with the size of its frame, or leaves the events alone. -/
theorem push_cases (encode : SessionEvent → Nat) (queue : SubscriptionQueue)
    (event : SessionEvent) :
    (∃ error queue', queue.push encode event = (.error error, queue') ∧
      queue'.events = queue.events) ∨
    ∃ queue', queue.push encode event = (.ok (), queue') ∧ queue.hasRoom encode event ∧
      queue'.events = queue.events ++ [(event, frameSize encode event)] := by
  unfold push
  split
  · exact .inl ⟨_, _, rfl, rfl⟩
  split
  · exact .inl ⟨_, _, rfl, rfl⟩
  · split
    · next hroom => exact .inr ⟨_, rfl, hroom, rfl⟩
    · exact .inl ⟨_, _, rfl, rfl⟩

variable {queue' : SubscriptionQueue}

/-- A push that goes well appends. -/
theorem contents_of_push (h : queue.push encode event = (.ok (), queue')) :
    queue'.contents = queue.contents ++ [event] := by
  obtain ⟨_, _, hpush, -⟩ | ⟨_, hpush, -, hevents⟩ := push_cases encode queue event
  · cases h.symm.trans hpush
  · cases h.symm.trans hpush
    simp [contents, hevents]

theorem contents_of_push_error {error : SubscriptionError}
    (h : queue.push encode event = (.error error, queue')) : queue'.contents = queue.contents := by
  obtain ⟨_, _, hpush, hevents⟩ | ⟨_, hpush, -⟩ := push_cases encode queue event
  · cases h.symm.trans hpush
    rw [contents, hevents, contents]
  · cases h.symm.trans hpush

/-- A pop takes the first event. -/
theorem contents_of_pop (h : queue.pop = some (event, queue')) :
    queue.contents = event :: queue'.contents := by
  unfold pop at h
  split at h
  · cases h
  · next hevents =>
    cases h
    exact congrArg (map (·.1)) hevents

/-- A queue that holds an event can be popped. -/
theorem pop_of_contents {rest : List SessionEvent} (h : queue.contents = event :: rest) :
    ∃ queue', queue.pop = some (event, queue') ∧ queue'.contents = rest ∧
      queue'.closed = queue.closed := by
  unfold pop
  split
  · next hevents =>
    rw [contents, hevents] at h
    cases h
  · next hevents =>
    rw [contents, hevents] at h
    cases h
    exact ⟨_, rfl, rfl, rfl⟩

/-- Events that were all taken are behind those that were there. -/
theorem contents_of_pushAll {events : List SessionEvent}
    (h : queue.pushAll encode events = .ok queue') :
    queue'.contents = queue.contents ++ events := by
  induction events generalizing queue with
  | nil =>
    cases h
    exact (append_nil _).symm
  | cons event rest ih =>
    unfold pushAll at h
    split at h
    · next pushed hpush =>
      rw [ih h, contents_of_push hpush, append_assoc, singleton_append]
    · cases h

/-! ### Accounts -/

/-- What is done to a queue. -/
inductive Operation where
  | push (event : SessionEvent)
  | pop

variable (encode) in
def after (queue : SubscriptionQueue) : Operation → SubscriptionQueue
  | .push event => (queue.push encode event).2
  | .pop => (queue.pop.map (·.2)).getD queue

variable (encode) in
/-- Every event is counted by the size of its own frame. -/
def Accounted (queue : SubscriptionQueue) : Prop :=
  ∀ entry ∈ queue.events, entry.2 = frameSize encode entry.1

theorem Accounted.after (h : queue.Accounted encode) (operation : Operation) :
    (queue.after encode operation).Accounted encode := by
  cases operation with
  | push event =>
    rw [SubscriptionQueue.after]
    obtain ⟨_, queue', hpush, hevents⟩ | ⟨queue', hpush, -, hevents⟩ :=
      push_cases encode queue event
    · rw [hpush, Accounted, hevents]
      exact h
    · rw [hpush, Accounted, hevents]
      exact forall_mem_append.mpr ⟨h, by simp⟩
  | pop =>
    rw [SubscriptionQueue.after]
    unfold pop
    split
    · exact h
    · next hevents => exact fun entry hmem => h entry (hevents ▸ mem_cons_of_mem _ hmem)

theorem closed_after (hclosed : queue.closed) (operations : List Operation) :
    (operations.foldl (after encode) queue).closed := by
  induction operations generalizing queue with
  | nil => exact hclosed
  | cons operation rest ih =>
    refine ih ?_
    cases operation with
    | push event => rwa [after, push, if_pos hclosed]
    | pop =>
      rw [after]
      unfold pop
      split <;> exact hclosed

/-- After any operations on an empty queue its total is that of its events' frames, within the
limits, and covers each of them.  Once closed it accepts nothing, and what is accepted fits into a
frame when it is sent, as an event alone. -/
theorem accounts (serde : Protocol.SerdeJson) (toValue : SessionEvent → Library.Json)
    (operations : List Operation) :
    let encode event := (serde.print (toValue event)).length
    let queue := operations.foldl (after encode) empty
    (queue.encodedBytes = (queue.contents.map (frameSize encode)).sum ∧
      queue.encodedBytes ≤ maxQueueBytes ∧ queue.events.length ≤ maxQueueEvents) ∧
    (∀ entry ∈ queue.events, entry.2 ≤ queue.encodedBytes) ∧
    (queue.closed → ∀ (more : List Operation) event,
      ((more.foldl (after encode) queue).push encode event).1 = .error .closed) ∧
    ∀ event, (queue.push encode event).1 = .ok () → ∀ destination,
      Protocol.encode serde (fun event => .ok (toValue event)) event destination
        = .ok (destination ++ serde.print (toValue event) ++ [Protocol.newline]) := by
  intro encode queue
  have haccounted : queue.Accounted encode :=
    foldlRecOn operations (after encode) (motive := Accounted encode) nofun fun _ h operation _ =>
      h.after operation
  refine ⟨⟨?_, queue.bounded.2, queue.bounded.1⟩, fun entry hmem => ?_,
    fun hclosed more event => ?_, fun event haccepted destination => ?_⟩
  · rw [queue.counted, contents, map_map]
    exact congrArg sum (map_congr_left haccounted)
  · rw [queue.counted]
    exact single_le_sum (fun _ _ => Nat.zero_le _) _ (mem_map_of_mem hmem)
  · rw [push, if_pos (closed_after hclosed more)]
  obtain ⟨_, _, hpush, -⟩ | ⟨_, -, hroom, -⟩ := push_cases encode queue event
  · rw [hpush] at haccepted
    cases haccepted
  -- the newline is counted, so that one byte is to spare
  have hbytes : queue.encodedBytes + (encode event + 1) ≤ Protocol.maxFrameBytes := hroom.2
  change (if Protocol.maxFrameBytes < encode event then _ else _) = _
  rw [if_neg (by omega)]
  rfl

end SubscriptionQueue

end

/-! ## Both ends of a subscription -/

inductive Signal where
  | event
  | lagged
  deriving DecidableEq

/-- A subscription: its queue, the signals not received, and whether the hub holds its other end. -/
structure Subscription where
  queue : SubscriptionQueue
  signals : List Signal
  registered : Bool

/-- What a client gets from `next`. -/
inductive Item where
  | event (event : SessionEvent)
  | lagged
  /-- The subscription has ended. -/
  | ended
  /-- There is nothing to read at the moment. -/
  | waits

namespace Subscription

variable (encode : SessionEvent → Nat)

def subscribe (replay : List SessionEvent) : Except SubscriptionError Subscription := do
  let queue ← SubscriptionQueue.empty.pushAll encode replay
  return { queue, signals := replicate queue.events.length .event, registered := true }

/-- What `publish` does to one subscriber of the session. -/
def publish (event : SessionEvent) (subscription : Subscription) : Subscription :=
  if subscription.registered then
    match subscription.queue.push encode event with
    | (.ok (), queue) =>
      { subscription with queue, signals := subscription.signals ++ [.event] }
    | (.error _, queue) =>
      { queue, signals := subscription.signals ++ [.lagged], registered := false }
  else subscription

/-- What `purge_session` does to one subscriber of the session. -/
def purge (subscription : Subscription) : Subscription :=
  { subscription with queue := subscription.queue.clear, registered := false }

def next (subscription : Subscription) : Item × Subscription :=
  match subscription.signals with
  | [] => (if subscription.registered then .waits else .ended, subscription)
  | .lagged :: rest => (.lagged, { subscription with signals := rest })
  | .event :: rest =>
    match subscription.queue.pop with
    | none => (.ended, { subscription with signals := rest })
    | some (event, queue) => (.event event, { subscription with queue, signals := rest })

end Subscription

/-! ## Attaching -/

structure AttachSessionResult where
  state : Core.SessionState
  replayAfterSequence : Nat
  lastSequence : Nat

/-- How a refused subscription is reported. -/
def SubscriptionError.toDaemonError : SubscriptionError → DaemonError
  | .clientLagged => .clientLagged
  | _ => .internal

/-- `handle_attach`, on the history that it has read. -/
def handleAttach (encode : SessionEvent → Nat) (history : List Event) (afterSequence : Nat) :
    Except DaemonError (AttachSessionResult × Subscription) := do
  let folded ← foldSession history
  let subscription ← (Subscription.subscribe encode
    (replayAfter afterSequence (numbered 1 history))).mapError SubscriptionError.toDaemonError
  return (⟨folded.state, afterSequence, folded.lastSequence⟩, subscription)

/-- Who has attached finds the events after the cursor in the queue. -/
theorem contents_of_handleAttach {encode : SessionEvent → Nat} {history : List Event}
    {cursor : Nat} {result : AttachSessionResult} {subscription : Subscription}
    (h : handleAttach encode history cursor = .ok (result, subscription)) :
    subscription.queue.contents = replayAfter cursor (numbered 1 history) := by
  unfold handleAttach Subscription.subscribe at h
  cases hfold : foldSession history with
  | error error => rw [hfold] at h; cases h
  | ok folded =>
    rw [hfold] at h
    cases hpush : SubscriptionQueue.empty.pushAll encode
        (replayAfter cursor (numbered 1 history)) with
    | error error => rw [hpush] at h; cases h
    | ok queue =>
      rw [hpush] at h
      cases h
      exact SubscriptionQueue.contents_of_pushAll hpush

end Workbench.Daemon
