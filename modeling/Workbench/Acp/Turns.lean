import Workbench.Acp.Collection

/-!
# Acp: isolation and honesty of turns

All sessions share the queue of events, which survives from one prompt to the next, and the
collection looks at the kind of an event but not at its session.  It ends at the deadline as it
does at any event that ends a session, always with `end_turn`.

A turn is *isolated* when its texts and its end come from the session of the prompt, and
*honest* when that session completed and the texts are contents of its provider events.  The
theorems say which queues and which arrivals make every turn of a run so.
-/

namespace Workbench.Acp

open Library Storage List

/-- Every text, and the event that ended the turn, is of the session that is notified. -/
def Turn.Isolated (received : List SessionEvent) (turn : Turn) : Prop :=
  (∀ chunk ∈ turn.chunks, ∃ event ∈ received, chunk.origin = some event ∧
    eventContent event = some chunk.text ∧ turn.call.key = toString event.sessionId) ∧
  ∀ event ∈ turn.ended, turn.call.key = toString event.sessionId

/-- The session of the prompt completed, and every text is of one of its provider events. -/
def Turn.Honest (received : List SessionEvent) (turn : Turn) : Prop :=
  (∃ event ∈ received, event.kind = .sessionCompleted ∧ turn.call.key = toString event.sessionId) ∧
  ∀ chunk ∈ turn.chunks, ∃ event ∈ received, event.kind = .providerEvent ∧
    eventContent event = some chunk.text ∧ turn.call.key = toString event.sessionId

/-! ## Isolation -/

def ofPrompted (call : PromptCall) (event : SessionEvent) : Bool := event.sessionId = call.session

/-- The event that ends the turn, if any, is of the session of the prompt. -/
def endsOwn (_ : List SessionEvent) (call : PromptCall) (ended : Option SessionEvent) : Bool :=
  ended.all (ofPrompted call)

/-- Up to the first that ends a session, the queued events that end a session or carry a text are of
the prompt's session; the collection has a text when it ends. -/
def OwnEventsAhead (bridge : Bridge) (input : Input) : Prop :=
  bridge.Collects ofPrompted endsOwn input

instance (bridge : Bridge) (input : Input) : Decidable (OwnEventsAhead bridge input) :=
  inferInstanceAs (Decidable (bridge.Collects ..))

theorem turns_isolated {decoders : Decoders} {bridge : Bridge}
    (hrun : Reaches (Bridge.step decoders) OwnEventsAhead .connecting bridge) {turn : Turn}
    (hturn : turn ∈ bridge.turns) : turn.Isolated bridge.received := by
  have hmade : bridge.MadeOf ofPrompted endsOwn :=
    Bridge.turns_made_of (fun _ _ _ _ h => h) hrun
  obtain ⟨⟨hkey, hchunks⟩, hended⟩ := hmade.turns turn hturn
  refine ⟨fun chunk hmem => ?_, fun event hmem => ?_⟩
  · obtain ⟨event, hreceived, horigin, hcontent, hown⟩ := hchunks chunk hmem
    have hsession : event.sessionId = turn.call.session := of_decide_eq_true hown
    exact ⟨event, hreceived, horigin, hcontent, hsession ▸ hkey⟩
  · have hown : ofPrompted turn.call event := by
      rw [Option.mem_def.mp hmem] at hended
      exact hended
    have hsession : event.sessionId = turn.call.session := of_decide_eq_true hown
    exact hsession ▸ hkey

/-! A daemon with two sessions, whose replies all succeed. -/

def plainDecoders : Decoders where
  initializeResult _ := true
  createSessionResult
    | .number (.natural session) => some session.toNat
    | _ => none
  promptResult _ := true
  sessionResult _ := some none
  attachSessionResult _ := true
  parseUuid _ := none

def acpRequest (method : String) (params : Json) : Input :=
  .request (.object [("id", .number (.natural 1)), ("jsonrpc", .string "2.0"),
    ("method", .string method), ("params", params)])

def succeeds (requestId : Uuid) (result : Json) : Input := .received (.success requestId result)

/-- The connection is set up and two sessions are created. -/
def twoSessions : List Input :=
  [succeeds 0 .null, acpRequest "session/new" (.object []), succeeds 1 (.number (.natural 11)),
    acpRequest "session/new" (.object []), succeeds 2 (.number (.natural 12))]

/-- A prompt up to the first check of the deadline. -/
def promptSession (session firstId : Uuid) : List Input :=
  [acpRequest "session/prompt" (.object [("prompt", .string "continue"),
      ("sessionId", .string (toString session))]),
    succeeds firstId .null, succeeds (firstId + 1) .null, succeeds (firstId + 2) .null]

def sessionEvent (session : Uuid) (kind : EventKind) (content : Option String) : SessionEvent :=
  ⟨session, kind, .object (content.toList.map fun text => ("content", .string text))⟩

def arrives (event : SessionEvent) : Input := .received (.event event)

/-- The provider answers and the session completes. -/
def completedPrompt : List Input :=
  twoSessions ++ promptSession 11 3 ++
    [.clock false, arrives (sessionEvent 11 .providerEvent (some "done")), .clock false,
      arrives (sessionEvent 11 .sessionCompleted none), .clock false]

theorem completed_turn_isolated :
    ∃ bridge, Reaches (Bridge.step plainDecoders) OwnEventsAhead .connecting bridge ∧
      ∃ turn ∈ bridge.turns, turn.Isolated bridge.received := by
  obtain ⟨bridge, hrun, hsome⟩ := @exists_reaches_of_execute Bridge Input
    (Bridge.step plainDecoders) OwnEventsAhead _ .connecting completedPrompt
    (fun bridge => bridge.turns ≠ []) (by decide +kernel)
  obtain ⟨turn, hmem⟩ := exists_mem_of_ne_nil _ hsome
  exact ⟨bridge, hrun, turn, hmem, turns_isolated hrun hmem⟩

/-- A text of session 11 read as the deadline passes is forwarded by the prompt of session 12. -/
theorem late_text_crosses_sessions :
    ∃ bridge, Reaches (Bridge.step plainDecoders) anyAction .connecting bridge ∧
      ∃ turn ∈ bridge.turns, ¬ turn.Isolated bridge.received := by
  obtain ⟨bridge, hrun, hturns⟩ := @exists_reaches_of_execute Bridge Input
    (Bridge.step plainDecoders) anyAction _ .connecting
    (twoSessions ++ promptSession 11 3 ++
      [.clock false, arrives (sessionEvent 11 .providerEvent (some "of 11")), .clock true] ++
      promptSession 12 6 ++ [.clock false, .quiet, succeeds 9 .null, .clock true])
    (fun bridge => bridge.turns[1]? = some ⟨⟨some (.number (.natural 1)), "12", 12⟩,
      [⟨"of 11", some (sessionEvent 11 .providerEvent (some "of 11"))⟩], none⟩)
    (by decide +kernel)
  refine ⟨bridge, hrun, _, mem_of_getElem? hturns, fun hisolated => ?_⟩
  obtain ⟨event, _, horigin, _, hkey⟩ := hisolated.1 _ (mem_singleton.mpr rfl)
  obtain rfl := Option.some.inj horigin
  exact absurd hkey (by decide)

/-! ## Honesty -/

def providerText (call : PromptCall) (event : SessionEvent) : Bool :=
  event.kind = .providerEvent ∧ event.sessionId = call.session

/-- `session_completed` of the session of the prompt has arrived. -/
def completionArrived (received : List SessionEvent) (call : PromptCall)
    (_ : Option SessionEvent) : Bool :=
  received.any fun event => event.kind = .sessionCompleted ∧ event.sessionId = call.session

/-- Up to the first that ends a session, the queued events with a text are provider events of the
prompt's session; when the deadline has passed or one of them ends a session, its
`session_completed` has arrived and there is a text. -/
def CompletedAhead (bridge : Bridge) (input : Input) : Prop :=
  bridge.Collects providerText completionArrived input

instance (bridge : Bridge) (input : Input) : Decidable (CompletedAhead bridge input) :=
  inferInstanceAs (Decidable (bridge.Collects ..))

theorem turns_honest {decoders : Decoders} {bridge : Bridge}
    (hrun : Reaches (Bridge.step decoders) CompletedAhead .connecting bridge) {turn : Turn}
    (hturn : turn ∈ bridge.turns) : turn.Honest bridge.received := by
  have hgrows : ∀ received more call ended, completionArrived received call ended →
      completionArrived (received ++ more) call ended := by
    intro received more call ended h
    rw [completionArrived, any_append, Bool.or_eq_true]
    exact .inl h
  have hmade := Bridge.turns_made_of hgrows hrun
  obtain ⟨⟨hkey, hchunks⟩, hended⟩ := hmade.turns turn hturn
  refine ⟨?_, fun chunk hmem => ?_⟩
  · obtain ⟨event, hreceived, hcompleted⟩ := any_eq_true.mp hended
    obtain ⟨hkind, hsession⟩ := of_decide_eq_true hcompleted
    exact ⟨event, hreceived, hkind, hsession ▸ hkey⟩
  · obtain ⟨event, hreceived, _, hcontent, hprovider⟩ := hchunks chunk hmem
    obtain ⟨hkind, hsession⟩ := of_decide_eq_true hprovider
    exact ⟨event, hreceived, hkind, hcontent, hsession ▸ hkey⟩

theorem completed_turn_honest :
    ∃ bridge, Reaches (Bridge.step plainDecoders) CompletedAhead .connecting bridge ∧
      ∃ turn ∈ bridge.turns, turn.Honest bridge.received := by
  obtain ⟨bridge, hrun, hsome⟩ := @exists_reaches_of_execute Bridge Input
    (Bridge.step plainDecoders) CompletedAhead _ .connecting completedPrompt
    (fun bridge => bridge.turns ≠ []) (by decide +kernel)
  obtain ⟨turn, hmem⟩ := exists_mem_of_ne_nil _ hsome
  exact ⟨bridge, hrun, turn, hmem, turns_honest hrun hmem⟩

/-- A session that was cancelled is reported as a finished turn. -/
theorem cancelled_session_finishes_turn :
    ∃ bridge, Reaches (Bridge.step plainDecoders) anyAction .connecting bridge ∧
      ∃ turn ∈ bridge.turns, ¬ turn.Honest bridge.received := by
  obtain ⟨bridge, hrun, hturns, hreceived⟩ := @exists_reaches_of_execute Bridge Input
    (Bridge.step plainDecoders) anyAction _ .connecting
    (twoSessions ++ promptSession 11 3 ++
      [.clock false, arrives (sessionEvent 11 .sessionCancelled none), .clock false])
    (fun bridge => bridge.turns ≠ [] ∧ ∀ event ∈ bridge.received, event.kind ≠ .sessionCompleted)
    (by decide +kernel)
  obtain ⟨turn, hmem⟩ := exists_mem_of_ne_nil _ hturns
  refine ⟨bridge, hrun, turn, hmem, fun hhonest => ?_⟩
  obtain ⟨event, harrived, hkind, _⟩ := hhonest.1
  exact hreceived event harrived hkind

end Workbench.Acp
