import Workbench.Daemon.Subscription

/-!
# Daemon: replay from a cursor

What a client receives that attaches after a cursor and reads every event before the next
one is published.  The backlog has to fit into the empty queue of the subscription as a
whole, since nothing can be read before all of it was pushed.
-/

namespace Workbench.Daemon

open Storage List

/-! ## Reading -/

namespace Subscription

variable (encode : SessionEvent → Nat)

/-- Reads until an item is no event; a client that is told it lagged is cut off. -/
def readAll : Nat → Subscription → Except DaemonError (List SessionEvent × Subscription)
  | 0, subscription => .ok ([], subscription)
  | fuel + 1, subscription =>
    match subscription.next with
    | (.event event, rest) => (readAll fuel rest).map fun read => (event :: read.1, read.2)
    | (.lagged, _) => .error .clientLagged
    | (_, rest) => .ok ([], rest)

/-- Reads as long as there is a signal. -/
def drain (subscription : Subscription) : Except DaemonError (List SessionEvent × Subscription) :=
  readAll subscription.signals.length subscription

/-- What a client receives that drains its subscription after each published event. -/
def followLive : List SessionEvent → Subscription → Except DaemonError (List SessionEvent)
  | [], _ => .ok []
  | event :: rest, subscription => do
    let (first, subscription) ← (subscription.publish encode event).drain
    return first ++ (← followLive rest subscription)

end Subscription

/-- What a client receives that attaches after a cursor and keeps reading. -/
def follow (encode : SessionEvent → Nat) (history later : List Event) (cursor : Nat) :
    Except DaemonError (List SessionEvent) := do
  let (_, subscription) ← handleAttach encode history cursor
  let (backlog, subscription) ← subscription.drain
  return backlog
    ++ (← Subscription.followLive encode (numbered (history.length + 1) later) subscription)

/-- The events fit into an empty queue together. -/
def FitsQueue (encode : SessionEvent → Nat) (events : List SessionEvent) : Prop :=
  events.length ≤ maxQueueEvents ∧ (events.map (frameSize encode)).sum ≤ maxQueueBytes

instance (encode : SessionEvent → Nat) (events : List SessionEvent) :
    Decidable (FitsQueue encode events) := inferInstanceAs (Decidable (_ ∧ _))

/-! ## Filling the queue -/

section

variable {encode : SessionEvent → Nat}
  {events : List SessionEvent} {subscription : Subscription} {event : SessionEvent}
  {cursor : Nat} {history : List Event} (hvalid : ∀ event ∈ events, event.validate = .ok ())
include hvalid

variable {queue : SubscriptionQueue}

theorem pushAll_of_fits (hopen : queue.closed = false)
    (hlength : queue.contents.length + events.length ≤ maxQueueEvents)
    (hbytes : queue.encodedBytes + (events.map (frameSize encode)).sum ≤ maxQueueBytes) :
    ∃ queue', queue.pushAll encode events = .ok queue' ∧ queue'.closed = false ∧
      queue'.contents = queue.contents ++ events := by
  induction events generalizing queue with
  | nil => exact ⟨queue, rfl, hopen, (append_nil _).symm⟩
  | cons event rest ih =>
    rw [length_cons] at hlength
    rw [map_cons, sum_cons] at hbytes
    have hroom : queue.hasRoom encode event := by
      rw [SubscriptionQueue.contents, length_map] at hlength
      exact ⟨by omega, by omega⟩
    obtain ⟨pushed, hpush, hpushed, hcontents, hencoded⟩ :=
      SubscriptionQueue.push_of_hasRoom hopen (hvalid event mem_cons_self) hroom
    obtain ⟨queue', hrest, hopen', hcontents'⟩  :=
      ih (fun other hmem => hvalid other (mem_cons_of_mem _ hmem)) hpushed
      (by rw [hcontents, length_append, length_singleton]; omega)
      (by rw [hencoded]; omega)
    refine ⟨queue', ?_, hopen', ?_⟩
    · rw [SubscriptionQueue.pushAll, hpush]
      exact hrest
    · rw [hcontents', hcontents, append_assoc, singleton_append]

theorem pushAll_of_not_fits (hopen : queue.closed = false)
    (hnot : ¬ (queue.contents.length + events.length ≤ maxQueueEvents ∧
      queue.encodedBytes + (events.map (frameSize encode)).sum ≤ maxQueueBytes)) :
    queue.pushAll encode events = .error .clientLagged := by
  induction events generalizing queue with
  | nil =>
    refine absurd ?_ hnot
    rw [SubscriptionQueue.contents, length_map]
    exact queue.bounded
  | cons event rest ih =>
    have hchecked := hvalid event mem_cons_self
    rw [SubscriptionQueue.pushAll]
    by_cases hroom : queue.hasRoom encode event
    · obtain ⟨pushed, hpush, hpushed, hcontents, hencoded⟩ :=
        SubscriptionQueue.push_of_hasRoom hopen hchecked hroom
      rw [hpush]
      refine ih (fun other hmem => hvalid other (mem_cons_of_mem _ hmem)) hpushed ?_
      rw [hcontents, hencoded, length_append, length_singleton]
      rw [length_cons, map_cons, sum_cons] at hnot
      omega
    · rw [SubscriptionQueue.push_of_not_hasRoom hopen hchecked hroom]

/-- A subscription that is in step with its queue: one signal for each event in it. -/
structure InStep (subscription : Subscription) (unread : List SessionEvent) : Prop where
  registered : subscription.registered
  isOpen : subscription.queue.closed = false
  contents : subscription.queue.contents = unread
  signals : subscription.signals = replicate unread.length .event

theorem subscribe_of_fits (hfits : FitsQueue encode events) :
    ∃ subscription, Subscription.subscribe encode events = .ok subscription ∧
      InStep subscription events := by
  obtain ⟨queue, hpush, hopen, hcontents⟩ := @pushAll_of_fits encode events hvalid .empty rfl
    (by rw [SubscriptionQueue.contents]; simpa [SubscriptionQueue.empty] using hfits.1)
    (by simpa [SubscriptionQueue.empty] using hfits.2)
  have hcontents : queue.contents = events := hcontents
  refine ⟨_, by rw [Subscription.subscribe, hpush]; rfl, rfl, hopen, hcontents, ?_⟩
  rw [← hcontents, SubscriptionQueue.contents, length_map]

theorem subscribe_of_not_fits (hnot : ¬ FitsQueue encode events) :
    Subscription.subscribe encode events = .error .clientLagged := by
  have hpush := @pushAll_of_not_fits encode events hvalid .empty rfl
    (by simpa [SubscriptionQueue.contents, SubscriptionQueue.empty, FitsQueue] using hnot)
  rw [Subscription.subscribe, hpush]
  rfl

omit hvalid

theorem InStep.drain {unread : List SessionEvent} (h : InStep subscription unread) :
    ∃ drained, subscription.drain = .ok (unread, drained) ∧ InStep drained [] := by
  unfold Subscription.drain
  rw [h.signals, length_replicate]
  induction unread generalizing subscription with
  | nil => exact ⟨subscription, rfl, h⟩
  | cons event rest ih =>
    obtain ⟨queue, hpop, hcontents, hclosed⟩ := SubscriptionQueue.pop_of_contents h.contents
    have hnext : subscription.next = (.event event, { subscription with
        queue, signals := replicate rest.length .event }) := by
      rw [Subscription.next, h.signals, length_cons, replicate_succ]
      rw [hpop]
    have hstep : InStep { subscription with
        queue, signals := replicate rest.length .event } rest :=
      ⟨h.registered, hclosed.trans h.isOpen, hcontents, rfl⟩
    obtain ⟨drained, hread, hdrained⟩ := ih hstep
    refine ⟨drained, ?_, hdrained⟩
    rw [length_cons, Subscription.readAll, hnext]
    dsimp only
    rw [hread]
    rfl

/-- An event that fits an empty queue reaches a client that has read everything. -/
theorem InStep.publish (h : InStep subscription []) (hchecked : event.validate = .ok ())
    (hfits : frameSize encode event ≤ maxQueueBytes) :
    InStep (subscription.publish encode event) [event] := by
  have hevents : subscription.queue.events = [] := map_eq_nil_iff.mp h.contents
  have hroom : subscription.queue.hasRoom encode event := by
    refine ⟨by rw [hevents]; decide, ?_⟩
    rw [subscription.queue.counted, hevents]
    simpa using hfits
  obtain ⟨queue, hpush, hopen, hcontents, _⟩ :=
    SubscriptionQueue.push_of_hasRoom h.isOpen hchecked hroom
  rw [Subscription.publish, if_pos h.registered, hpush]
  refine ⟨h.registered, hopen, ?_, ?_⟩
  · rw [hcontents, h.contents]
    rfl
  · rw [h.signals]
    rfl

/-- An event that does not fit even an empty queue ends the subscription. -/
theorem InStep.lagged (h : InStep subscription []) (hchecked : event.validate = .ok ())
    (hsize : ¬ frameSize encode event ≤ maxQueueBytes) :
    (subscription.publish encode event).drain = .error .clientLagged := by
  have hroom : ¬ subscription.queue.hasRoom encode event := by
    intro hroom
    exact hsize (Nat.le_trans (Nat.le_add_left _ _) hroom.2)
  have hpublish : subscription.publish encode event
      = ⟨{ subscription.queue with closed := true }, [.lagged], false⟩ := by
    rw [Subscription.publish, if_pos h.registered,
      SubscriptionQueue.push_of_not_hasRoom h.isOpen hchecked hroom, h.signals]
    rfl
  rw [hpublish]
  rfl

/-- A reading client receives the live events, and is cut off at one too large for the queue. -/
theorem followLive_eq (h : InStep subscription [])
    (hvalid : ∀ event ∈ events, event.validate = .ok ()) :
    Subscription.followLive encode events subscription
      = if ∀ event ∈ events, frameSize encode event ≤ maxQueueBytes then .ok events
        else .error .clientLagged := by
  induction events generalizing subscription with
  | nil => rfl
  | cons event rest ih =>
    have hchecked := hvalid event mem_cons_self
    rw [Subscription.followLive]
    by_cases hsize : frameSize encode event ≤ maxQueueBytes
    · obtain ⟨drained, hread, hdrained⟩ := (h.publish hchecked hsize).drain
      have hrest := ih hdrained fun other hmem => hvalid other (mem_cons_of_mem _ hmem)
      rw [hread]
      show (Subscription.followLive encode rest drained).bind
        (fun live => .ok ([event] ++ live)) = _
      simp only [hrest, forall_mem_cons, hsize, true_and]
      split <;> rfl
    · rw [h.lagged hchecked hsize, if_neg fun hall => hsize (hall event mem_cons_self)]
      rfl

/-! ## Replay -/

theorem validate_of_replay (h : event ∈ replayAfter cursor (numbered 1 history)) :
    event.validate = .ok () :=
  validate_of_mem_numbered Nat.one_pos (mem_of_mem_filter h)

variable {folded : FoldedSession}

theorem handleAttach_of_fits (hfold : foldSession history = .ok folded)
    (hfits : FitsQueue encode (replayAfter cursor (numbered 1 history))) :
    ∃ subscription, handleAttach encode history cursor
        = .ok (⟨folded.state, cursor, folded.lastSequence⟩, subscription) ∧
      InStep subscription (replayAfter cursor (numbered 1 history)) := by
  obtain ⟨subscription, hsubscribe, hstep⟩ :=
    subscribe_of_fits (fun event => validate_of_replay) hfits
  refine ⟨subscription, ?_, hstep⟩
  rw [handleAttach, hfold, hsubscribe]
  rfl

/-- A backlog that does not fit the queue cannot be attached to. -/
theorem handleAttach_of_not_fits (hfold : foldSession history = .ok folded)
    (hnot : ¬ FitsQueue encode (replayAfter cursor (numbered 1 history))) :
    handleAttach encode history cursor = .error .clientLagged := by
  have hsubscribe := subscribe_of_not_fits (fun event => validate_of_replay) hnot
  rw [handleAttach, hfold, hsubscribe]
  rfl

/-- The events after the cursor, unless it lies ahead, are the backlog and all later events. -/
theorem replayAfter_append_eq_iff (history later : List Event) (cursor : Nat) :
    replayAfter cursor (numbered 1 (history ++ later))
        = replayAfter cursor (numbered 1 history) ++ numbered (history.length + 1) later ↔
      later = [] ∨ cursor ≤ history.length := by
  rw [numbered_append, replayAfter, filter_append, Nat.add_comm 1, replayAfter,
    append_cancel_left_eq, filter_eq_self]
  constructor
  · intro hall
    cases later with
    | nil => exact .inl rfl
    | cons event rest =>
      have hfirst : cursor < history.length + 1 := of_decide_eq_true
        (hall (wireEvent (history.length + 1) event) mem_cons_self)
      exact .inr (by omega)
  · rintro (rfl | hcursor) event hmem
    · cases hmem
    · have := le_of_mem_numbered hmem
      simp only [decide_eq_true_eq]
      omega

/-- A client that attaches and keeps reading receives exactly the events behind its cursor if and
only if its backlog fits the queue, no later event is too large for an empty one, and its cursor is
not ahead of the history while events follow. -/
theorem follow_eq_replay_iff {history later : List Event} {cursor : Nat}
    (hfold : foldSession history = .ok folded) :
    follow encode history later cursor
        = .ok (replayAfter cursor (numbered 1 (history ++ later))) ↔
      FitsQueue encode (replayAfter cursor (numbered 1 history)) ∧
        (later = [] ∨ cursor ≤ history.length) ∧
        ∀ event ∈ numbered (history.length + 1) later, frameSize encode event ≤ maxQueueBytes := by
  by_cases hfits : FitsQueue encode (replayAfter cursor (numbered 1 history))
  · obtain ⟨subscription, hattach, hstep⟩ := handleAttach_of_fits hfold hfits
    obtain ⟨drained, hread, hdrained⟩ := hstep.drain
    have hlive := @followLive_eq encode (numbered (history.length + 1) later) _ hdrained
      fun event hmem => validate_of_mem_numbered (Nat.succ_pos _) hmem
    have hfollow : follow encode history later cursor
        = (Subscription.followLive encode (numbered (history.length + 1) later) drained).bind
            fun live => .ok (replayAfter cursor (numbered 1 history) ++ live) := by
      rw [follow, hattach]
      show subscription.drain.bind _ = _
      rw [hread]
      rfl
    rw [hfollow, hlive, ← replayAfter_append_eq_iff history later cursor]
    split
    · next hsizes =>
      rw [Except.bind, Except.ok.injEq]
      exact ⟨fun heq => ⟨hfits, heq.symm, hsizes⟩, fun hall => hall.2.1.symm⟩
    · next hsizes => exact ⟨fun h => (nomatch h), fun hall => absurd hall.2.2 hsizes⟩
  · have hfollow : follow encode history later cursor = .error .clientLagged := by
      rw [follow, handleAttach_of_not_fits hfold hfits]
      rfl
    rw [hfollow]
    exact ⟨fun h => (nomatch h), fun h => absurd h.1 hfits⟩

/-! ## A long backlog -/

/-- A session that has streamed a number of texts. -/
def streamedHistory (texts : Nat) : List Event :=
  ⟨.sessionCreated none, none, none⟩ ::
    replicate texts ⟨.providerEvent "message" "text", none, none⟩

theorem streamedHistory_folds (texts : Nat) :
    ∃ folded, foldSession (streamedHistory texts) = .ok folded := ⟨_, rfl⟩

/-- A short backlog is replayed. -/
theorem short_backlog_followed :
    follow (fun _ => 200) (streamedHistory 3) (streamedHistory 1).tail 2
        = .ok (replayAfter 2 (numbered 1 (streamedHistory 3 ++ (streamedHistory 1).tail))) ↔
      FitsQueue (fun _ => 200) (replayAfter 2 (numbered 1 (streamedHistory 3))) ∧
        ((streamedHistory 1).tail = [] ∨ 2 ≤ (streamedHistory 3).length) ∧
        ∀ event ∈ numbered ((streamedHistory 3).length + 1) (streamedHistory 1).tail,
          frameSize (fun _ => 200) event ≤ maxQueueBytes :=
  follow_eq_replay_iff (streamedHistory_folds 3).choose_spec

/-- After 1,024 texts no client can attach from the start, nor catch up there. -/
theorem long_backlog_refused :
    (∃ folded, foldSession (streamedHistory 1024) = .ok folded) ∧
      ∀ encode : SessionEvent → Nat,
        handleAttach encode (streamedHistory 1024) 0 = .error .clientLagged := by
  obtain ⟨folded, hfold⟩ := streamedHistory_folds 1024
  refine ⟨⟨folded, hfold⟩, fun encode => handleAttach_of_not_fits hfold ?_⟩
  rintro ⟨hlength, _⟩
  rw [replayAfter_numbered, length_numbered, drop_zero, streamedHistory, length_cons,
    length_replicate] at hlength
  exact absurd hlength (by decide)

end

end Workbench.Daemon
