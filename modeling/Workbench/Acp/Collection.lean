import Workbench.Acp.Bridge

/-!
# Acp: where the texts of a turn come from

Only the check of the deadline takes events from the queue or answers a prompt (`step_cases`).
If at these steps the events that give text fit the prompt, and the collection ends as it
should, then every turn is made of fitting events only (`turns_made_of`).
-/

namespace Workbench.Acp

open Library Storage List

/-! ## The collection under way -/

/-- The prompt that a call belongs to, and the chunks collected before it. -/
def Purpose.collecting : Purpose → Option (PromptCall × List Chunk)
  | .prompt call | .attach call => some (call, [])
  | .check call collected | .grant call collected => some (call, collected.getD [])
  | .connect | .identify _ | .create _ | .cancel _ => none

/-- The prompt under way, and the chunks collected for it. -/
def Control.collecting : Control → Option (PromptCall × List Chunk)
  | .ready | .closed => none
  | .calling purpose _ => purpose.collecting
  | .head call chunks | .waiting call chunks => some (call, chunks)

namespace Bridge

@[simp] theorem turns_answer (bridge : Bridge) (answer : Answer) :
    (bridge.answer answer).turns = bridge.turns ++
      (match answer with
        | .prompted turn => [turn]
        | _ => []) := by
  cases answer <;> simp [turns, Bridge.answer]

/-- Takes nothing from the queue and answers no prompt; a collection goes on, stops or begins. -/
structure Waits (bridge after : Bridge) : Prop where
  events : ∃ events, after.received = bridge.received ++ events ∧
    after.pendingEvents = bridge.pendingEvents ++ events
  turns : after.turns = bridge.turns
  sessions : after.sessions = bridge.sessions ∨
    ∃ session, after.sessions = (toString session, session) :: bridge.sessions
  collecting : ∀ call chunks, after.control.collecting = some (call, chunks) →
    bridge.control.collecting = some (call, chunks) ∨
      chunks = [] ∧ bridge.sessions.lookup call.key = some call.session

namespace Waits

variable {bridge : Bridge}

/-- Nothing but the control changes. -/
theorem move (control : Control)
    (h : control.collecting = none ∨ control.collecting = bridge.control.collecting) :
    bridge.Waits { bridge with control } where
  events := ⟨[], by simp⟩
  turns := rfl
  sessions := .inl rfl
  collecting call chunks hafter := by
    rcases h with h | h
    · rw [h] at hafter
      cases hafter
    · exact .inl (h ▸ hafter)

theorem call {purpose : Purpose} (session : Option Uuid) (command : Command)
    (h : ∀ prompt chunks, purpose.collecting = some (prompt, chunks) →
      bridge.control.collecting = some (prompt, chunks) ∨
        chunks = [] ∧ bridge.sessions.lookup prompt.key = some prompt.session) :
    bridge.Waits (bridge.call purpose session command) :=
  ⟨⟨[], by simp [Bridge.call]⟩, rfl, .inl rfl, h⟩

theorem replied (message : Json) : bridge.Waits (bridge.answer (.replied message)) :=
  ⟨⟨[], by simp [Bridge.answer]⟩, by simp, .inl rfl, nofun⟩

theorem failed (error : AcpServerError) : bridge.Waits (bridge.answer (.failed error)) :=
  ⟨⟨[], by simp [Bridge.answer]⟩, by simp, .inl rfl, nofun⟩

theorem push (event : SessionEvent) : bridge.Waits (bridge.push event) :=
  ⟨⟨[event], rfl, rfl⟩, rfl, .inl rfl, fun _ _ h => .inl h⟩

end Waits

/-! ## One step -/

theorem failCall_waits (bridge : Bridge) (purpose : Purpose) (message : String) :
    bridge.Waits (bridge.failCall purpose message) := by
  cases purpose with
  | connect => exact .move .closed (.inl rfl)
  | cancel => exact .replied _
  | identify | create | prompt | check | grant | attach => exact .failed _

variable {call : PromptCall} {purpose : Purpose} {bridge : Bridge}

theorem granted_waits {collected : Option (List Chunk)}
    (hcontrol : bridge.control.collecting = some (call, collected.getD [])) :
    bridge.Waits (bridge.granted call collected) := by
  cases collected with
  | none => exact .call _ _ fun _ _ h => .inl (hcontrol.trans h)
  | some chunks => exact .move (.head call chunks) (.inr hcontrol.symm)

theorem reply_waits (decoders : Decoders)
    (hcontrol : bridge.control.collecting = purpose.collecting) (result : Json) :
    bridge.Waits (bridge.reply decoders purpose result) := by
  cases purpose with
  | connect =>
    simp only [reply]
    split
    · exact .move .ready (.inl rfl)
    · exact .move .closed (.inl rfl)
  | identify | cancel => exact .replied _
  | create =>
    simp only [reply]
    split
    · exact .failed _
    · next session _ =>
      exact ⟨⟨[], by simp [answer]⟩, by simp [turns, answer], .inr ⟨session, rfl⟩, nofun⟩
  | prompt =>
    simp only [reply]
    split
    · exact .call _ _ fun _ _ h => .inl (hcontrol.trans h)
    · exact .failed _
  | check =>
    simp only [reply]
    split
    · exact .failed _
    · exact .call _ _ fun _ _ h => .inl (hcontrol.trans h)
    · split
      · exact .call _ _ fun _ _ h => .inl (hcontrol.trans h)
      · exact granted_waits hcontrol
  | grant => exact granted_waits hcontrol
  | attach call =>
    simp only [reply]
    split
    · exact .move (.head call []) (.inr hcontrol.symm)
    · exact .failed _

theorem receiveReply_waits (decoders : Decoders)
    (hcontrol : bridge.control.collecting = purpose.collecting) (expected : Uuid)
    (message : Inbound) : bridge.Waits (bridge.receiveReply decoders purpose expected message) := by
  cases message with
  | event event => exact .push event
  | success _ result =>
    simp only [receiveReply]
    split
    · exact failCall_waits ..
    · exact reply_waits decoders hcontrol result
  | failure =>
    simp only [receiveReply]
    split <;> exact failCall_waits ..
  | malformed | disconnected => exact failCall_waits ..

theorem receiveEvent_waits {chunks : List Chunk}
    (hcontrol : bridge.control = .waiting call chunks) (message : Inbound) :
    bridge.Waits (bridge.receiveEvent call chunks message) := by
  have hcollecting : bridge.control.collecting = some (call, chunks) := by rw [hcontrol]; rfl
  cases message with
  | event event => exact ⟨⟨[event], rfl, rfl⟩, rfl, .inl rfl,
      fun _ _ h => .inl (hcollecting.trans h)⟩
  | success | failure => exact .move (.head call chunks) (.inr hcollecting.symm)
  | malformed | disconnected => exact .failed _

theorem handlePrompt_waits (bridge : Bridge) (id : Option Json) (params : Json) :
    bridge.Waits (bridge.handlePrompt id params) := by
  unfold handlePrompt
  split
  · exact .failed _
  split
  · exact .failed _
  next session hsession =>
  split
  · exact .failed _
  · refine .call _ _ fun prompt chunks h => .inr ?_
    cases h
    exact ⟨rfl, hsession⟩

theorem handleCancel_waits (bridge : Bridge) (id : Option Json) (params : Json) :
    bridge.Waits (bridge.handleCancel id params) := by
  unfold handleCancel
  split
  · exact .failed _
  · split
    · exact .replied _
    · exact .call _ _ nofun

theorem handleMessage_waits (bridge : Bridge) (message : Json) :
    bridge.Waits (bridge.handleMessage message) := by
  unfold handleMessage
  split
  · exact .failed _
  split
  · split
    · exact .failed _
    split
    · exact .failed _
    split_ifs
    · exact .call _ _ nofun
    · exact .call _ _ nofun
    · exact handlePrompt_waits ..
    · exact handleCancel_waits ..
    · exact .failed _
  · exact .failed _

/-- Only the check of the deadline takes from the queue or answers a prompt. -/
theorem step_cases {decoders : Decoders} {bridge after : Bridge} {input : Input}
    (h : bridge.step decoders input = some after) :
    bridge.Waits after ∨ ∃ call chunks expired, input = .clock expired ∧
      bridge.control = .head call chunks ∧
      after = if expired then bridge.finish call chunks none else bridge.drain call chunks := by
  unfold step at h
  split at h
  · cases h
    exact .inl ⟨⟨[], by simp⟩, rfl, .inl rfl, fun _ _ h => .inl h⟩
  · split at h <;> cases h
    exact .inl (handleMessage_waits ..)
  · split at h <;> cases h
    · next hcontrol => exact .inl (receiveReply_waits decoders (by rw [hcontrol]; rfl) _ _)
    · next hcontrol => exact .inl (receiveEvent_waits hcontrol _)
  · split at h <;> cases h
    exact .inl (failCall_waits ..)
  · split at h <;> cases h
    next hcontrol => exact .inl (.call _ _ fun _ _ h => .inl (by rw [hcontrol]; exact h))
  · next expired =>
    split at h <;> cases h
    next call chunks hcontrol => exact .inr ⟨call, chunks, expired, rfl, hcontrol, rfl⟩

/-! ## What a round takes from the queue -/

/-- The events that a round takes: those up to the first one that ends the turn. -/
def takenEvents : List SessionEvent → List SessionEvent
  | [] => []
  | event :: rest => event :: if isTerminal event.kind then [] else takenEvents rest

def chunkOf (event : SessionEvent) : List Chunk :=
  (eventContent event).toList.map fun text => ⟨text, some event⟩

theorem takenEvents_append_drop (pending : List SessionEvent) :
    takenEvents pending ++ pending.drop (takenEvents pending).length = pending := by
  induction pending with
  | nil => rfl
  | cons event rest ih =>
    unfold takenEvents
    split
    · simp
    · simpa using ih

theorem drainEvents_eq (chunks : List Chunk) (pending : List SessionEvent) :
    drainEvents chunks pending =
      (chunks ++ (takenEvents pending).flatMap chunkOf,
        (takenEvents pending).find? (isTerminal ·.kind),
        pending.drop (takenEvents pending).length) := by
  induction pending generalizing chunks with
  | nil => simp [drainEvents, takenEvents]
  | cons event rest ih =>
    unfold drainEvents takenEvents
    split
    · next hterminal => simp [chunkOf, hterminal]
    · next hgoes => simp [ih, chunkOf, hgoes, append_assoc]

theorem drain_eq (bridge : Bridge) (call : PromptCall) (chunks : List Chunk) :
    bridge.drain call chunks =
      let taken := takenEvents bridge.pendingEvents
      let chunks := chunks ++ taken.flatMap chunkOf
      let rest := bridge.pendingEvents.drop taken.length
      match taken.find? (isTerminal ·.kind) with
      | some event => { bridge with pendingEvents := rest }.finish call chunks (some event)
      | none => { bridge with pendingEvents := rest, control := .waiting call chunks } := by
  simp only [drain, drainEvents_eq]
  split
  · next heq =>
    simp only [Prod.mk.injEq] at heq
    obtain ⟨rfl, hfound, rfl⟩ := heq
    rw [hfound]
  · next heq =>
    simp only [Prod.mk.injEq] at heq
    obtain ⟨rfl, hfound, rfl⟩ := heq
    rw [hfound]

/-! ## Whole runs -/

variable {fits : PromptCall → SessionEvent → Bool}
  {ends : List SessionEvent → PromptCall → Option SessionEvent → Bool}

/-- At the check of the deadline, the taken events with a text fit the prompt; a turn that ends has
a text and its end is as it should be. -/
def Collects (fits : PromptCall → SessionEvent → Bool)
    (ends : List SessionEvent → PromptCall → Option SessionEvent → Bool)
    (bridge : Bridge) (input : Input) : Prop :=
  match bridge.control, input with
  | .head call chunks, .clock true => chunks ≠ [] ∧ ends bridge.received call none
  | .head call chunks, .clock false =>
    let taken := takenEvents bridge.pendingEvents
    (∀ event ∈ taken, eventContent event ≠ none → fits call event) ∧
      ∀ event ∈ taken.find? (isTerminal ·.kind),
        (chunks ≠ [] ∨ ∃ event ∈ taken, eventContent event ≠ none) ∧
          ends bridge.received call (some event)
  | _, _ => True

instance (bridge : Bridge) (input : Input) : Decidable (bridge.Collects fits ends input) := by
  unfold Collects
  split <;> infer_instance

end Bridge

/-- A chunk is the text of an event that was received and fits. -/
def Chunk.TakenFrom (received : List SessionEvent) (fits : SessionEvent → Bool) (chunk : Chunk) :
    Prop :=
  ∃ event ∈ received, chunk.origin = some event ∧ eventContent event = some chunk.text ∧ fits event

theorem Chunk.TakenFrom.mono {received : List SessionEvent} {fits : SessionEvent → Bool}
    {chunk : Chunk} (h : chunk.TakenFrom received fits) (more : List SessionEvent) :
    chunk.TakenFrom (received ++ more) fits := by
  obtain ⟨event, hmem, hrest⟩ := h
  exact ⟨event, mem_append_left _ hmem, hrest⟩

/-- The prompt names the session it goes to, and its chunks are texts of fitting events. -/
def PromptCall.Collected (fits : PromptCall → SessionEvent → Bool) (received : List SessionEvent)
    (call : PromptCall) (chunks : List Chunk) : Prop :=
  call.key = toString call.session ∧ ∀ chunk ∈ chunks, chunk.TakenFrom received (fits call)

namespace Bridge

variable {fits : PromptCall → SessionEvent → Bool}
  {ends : List SessionEvent → PromptCall → Option SessionEvent → Bool} {bridge after : Bridge}

/-- What holds between the steps of a run. -/
structure MadeOf (fits : PromptCall → SessionEvent → Bool)
    (ends : List SessionEvent → PromptCall → Option SessionEvent → Bool) (bridge : Bridge) :
    Prop where
  queue : ∀ event ∈ bridge.pendingEvents, event ∈ bridge.received
  named : ∀ entry ∈ bridge.sessions, entry.1 = toString entry.2
  progress : ∀ call chunks, bridge.control.collecting = some (call, chunks) →
    call.Collected fits bridge.received chunks
  turns : ∀ turn ∈ bridge.turns, turn.call.Collected fits bridge.received turn.chunks ∧
    ends bridge.received turn.call turn.ended

theorem MadeOf.waits (hends : ∀ received more call ended, ends received call ended →
      ends (received ++ more) call ended)
    (h : bridge.MadeOf fits ends) (hstep : bridge.Waits after) : after.MadeOf fits ends := by
  obtain ⟨⟨events, hreceived, hpending⟩, hturns, hsessions, hcollecting⟩ := hstep
  have hgrow : ∀ call chunks, PromptCall.Collected fits bridge.received call chunks →
      PromptCall.Collected fits after.received call chunks := by
    rintro call chunks ⟨hkey, hchunks⟩
    rw [hreceived]
    exact ⟨hkey, fun chunk hmem => (hchunks chunk hmem).mono events⟩
  constructor
  · intro event hmem
    rw [hpending] at hmem
    rw [hreceived]
    rcases mem_append.mp hmem with hmem | hmem
    · exact mem_append_left _ (h.queue event hmem)
    · exact mem_append_right _ hmem
  · intro entry hmem
    rcases hsessions with hsame | ⟨session, hnew⟩
    · exact h.named entry (hsame ▸ hmem)
    · rw [hnew] at hmem
      rcases mem_cons.mp hmem with rfl | hmem
      · rfl
      · exact h.named entry hmem
  · intro call chunks hafter
    rcases hcollecting call chunks hafter with hbefore | ⟨rfl, hlookup⟩
    · exact hgrow _ _ (h.progress call chunks hbefore)
    · exact ⟨h.named (call.key, call.session) (mem_of_lookup hlookup), nofun⟩
  · intro turn hmem
    obtain ⟨hmade, hended⟩ := h.turns turn (hturns ▸ hmem)
    exact ⟨hgrow _ _ hmade, hreceived ▸ hends _ _ _ _ hended⟩

variable {call : PromptCall} {chunks : List Chunk}

/-- An answered prompt adds one turn. -/
theorem MadeOf.finish (h : bridge.MadeOf fits ends) {ended : Option SessionEvent}
    (hsome : chunks ≠ []) (hchunks : call.Collected fits bridge.received chunks)
    (hended : ends bridge.received call ended) :
    (bridge.finish call chunks ended).MadeOf fits ends := by
  have heq : bridge.finish call chunks ended = bridge.answer (.prompted ⟨call, chunks, ended⟩) := by
    simp [Bridge.finish, hsome]
  rw [heq]
  refine ⟨h.queue, h.named, nofun, fun turn hmem => ?_⟩
  rw [turns_answer] at hmem
  rcases mem_append.mp hmem with hmem | hmem
  · exact h.turns turn hmem
  · obtain rfl := mem_singleton.mp hmem
    exact ⟨hchunks, hended⟩

/-- A round of the collection. -/
theorem MadeOf.drain (h : bridge.MadeOf fits ends) (hcontrol : bridge.control = .head call chunks)
    (hallowed : bridge.Collects fits ends (.clock false)) :
    (bridge.drain call chunks).MadeOf fits ends := by
  simp only [Collects, hcontrol] at hallowed
  obtain ⟨hfits, hterminal⟩ := hallowed
  obtain ⟨hkey, hchunks⟩ := h.progress call chunks (by rw [hcontrol]; rfl)
  have hsplit := takenEvents_append_drop bridge.pendingEvents
  rw [drain_eq]
  revert hfits hterminal hsplit
  dsimp only
  generalize takenEvents bridge.pendingEvents = taken
  generalize hrest : bridge.pendingEvents.drop taken.length = rest
  intro hfits hterminal hsplit
  have hqueue : ∀ event ∈ rest, event ∈ bridge.received := fun event hmem =>
    h.queue event (hsplit ▸ mem_append_right _ hmem)
  have hcollected : call.Collected fits bridge.received (chunks ++ taken.flatMap chunkOf) := by
    refine ⟨hkey, fun chunk hmem => ?_⟩
    rcases mem_append.mp hmem with hmem | hmem
    · exact hchunks chunk hmem
    obtain ⟨event, htaken, hchunk⟩ := mem_flatMap.mp hmem
    obtain ⟨text, htext, rfl⟩ := mem_map.mp hchunk
    have hcontent : eventContent event = some text := Option.mem_toList.mp htext
    exact ⟨event, h.queue event (hsplit ▸ mem_append_left _ htaken), rfl, hcontent,
      hfits event htaken (by simp [hcontent])⟩
  have hshorter : { bridge with pendingEvents := rest }.MadeOf fits ends :=
    ⟨hqueue, h.named, h.progress, h.turns⟩
  split
  · next event hfound =>
    obtain ⟨hsome, hended⟩ := hterminal event hfound
    refine hshorter.finish ?_ hcollected hended
    intro hempty
    obtain ⟨hnone, htexts⟩ := append_eq_nil_iff.mp hempty
    rcases hsome with hsome | ⟨event, htaken, hcontent⟩
    · exact hsome hnone
    · obtain ⟨text, htext⟩ := Option.ne_none_iff_exists'.mp hcontent
      have := flatMap_eq_nil_iff.mp htexts event htaken
      simp [chunkOf, htext] at this
  · refine ⟨hqueue, h.named, fun prompt collected hafter => ?_, h.turns⟩
    cases hafter
    exact hcollected

/-- In a run whose rounds take fitting events only, every turn is made of fitting events. -/
theorem turns_made_of {decoders : Decoders}
    (hends : ∀ received more call ended, ends received call ended →
      ends (received ++ more) call ended)
    (hrun : Reaches (Bridge.step decoders) (Collects fits ends) connecting bridge) :
    bridge.MadeOf fits ends := by
  refine hrun.invariant ⟨nofun, nofun, nofun, nofun⟩ fun before input after h hallowed hstep => ?_
  rcases step_cases hstep with hwaits | ⟨call, chunks, expired, rfl, hcontrol, rfl⟩
  · exact h.waits hends hwaits
  cases expired with
  | false => exact h.drain hcontrol hallowed
  | true =>
    simp only [Collects, hcontrol] at hallowed
    exact h.finish hallowed.1 (h.progress call chunks (by rw [hcontrol]; rfl)) hallowed.2

end Bridge

end Workbench.Acp
