import Workbench.Sqlite.Statements

/-!
# Sqlite: the single writes of the operations

`Change codec op s s'` lists every write that the operation `op` can make, with what holds
when it is made.  A lemma for each function says that its runs, under any faults and from
any state, change the store in these ways only; the invariants are then proved write by
write.
-/

namespace Workbench.Sqlite

open Workbench.Core Library Storage Program List Database Function

namespace Operation

/-- The events that an operation appends for its caller, or for recovery. -/
def Appends : Operation → EventInput → Prop
  | .appendEvent input, event => event = input
  | .appendEvents events, event => event ∈ events
  | .commitPortCommand _ _ input, event => event = input
  | .commitCommandEvent _ _ _ _ input, event => event = input
  | .commitCommandEvents _ _ _ _ events, event => event ∈ events
  | .recoverUncertainAttempts occurredAt _, event =>
    ∃ eventId sessionId attemptId, event = uncertainEvent occurredAt eventId sessionId attemptId
  | _, _ => False

/-- The outcomes that an operation records for its caller. -/
def Records (codec : Codec) : Operation → Option Uuid → Uuid → StoredCommandRecord → Prop
  | .recordPortCommand sessionId requestId record, id, request, stored =>
    id = sessionId ∧ request = requestId ∧ stored = record ∧
      scopeFits sessionId record.method
  | .commitPortCommand requestId record input, id, request, stored =>
    id = some input.sessionId ∧ request = requestId ∧ stored = record ∧
      record.method ≠ "session.create"
  | .commitCommandEvent requestId method parameters outcome event, id, request, stored =>
    id = some event.sessionId ∧ request = requestId ∧
      stored = ⟨method, codec.canonicalHash parameters, codec.print outcome⟩ ∧
      method ≠ "session.create"
  | .commitCommandEvents requestId method parameters outcome events, id, request, stored =>
    (∃ event ∈ events, id = some event.sessionId) ∧ request = requestId ∧
      stored = ⟨method, codec.canonicalHash parameters, codec.print outcome⟩ ∧
      method ≠ "session.create"
  | _, _, _, _ => False

/-- The operations that can start a deletion. -/
def RequestsDeletion : Operation → Prop
  | .requestDeletion .. => True
  | .runRetention .. => True
  | _ => False

/-- The operations that can finish a deletion. -/
def Deletes (op : Operation) : Prop := op.RequestsDeletion ∨ op = .resumeDeletions

end Operation

variable (codec : Codec) (op : Operation) (s : Store) in
/-- The writes of an operation. -/
inductive Change : Store → Prop where
  | append {id : Uuid} {keyId : KeyId} {key : SecretKey} {inputs : List EventInput}
      (hinputs : ∀ input ∈ inputs, op.Appends input ∧ input.sessionId = id)
      (hsession : s.database.HasSession id) (hkey : s.keys id = some key) :
      Change { s with database := s.database.appended id keyId key inputs }
  | commit {id requestId : Uuid} {keyId : KeyId} {key : SecretKey} {inputs : List EventInput}
      {record : StoredCommandRecord}
      (hinputs : ∀ input ∈ inputs, op.Appends input ∧ input.sessionId = id)
      (hsession : s.database.HasSession id) (hkey : s.keys id = some key)
      (hrecord : op.Records codec (some id) requestId record)
      (hnew : s.database.command? (.session id) requestId = none) :
      Change { s with database :=
        (s.database.appended id keyId key inputs).recorded (.ofSession id requestId record) }
  | recordOutcome {requestId : Uuid} {sessionId : Option Uuid} {method : String}
      {parameters outcome : Json}
      (hop : op = .recordCommandOutcome (commandScope sessionId) requestId sessionId method
        parameters outcome)
      (hfits : scopeFits sessionId method)
      (hnew : s.database.command? (commandScope sessionId) requestId = none) :
      Change { s with database := s.database.recorded ⟨commandScope sessionId, requestId, sessionId,
        ⟨method, codec.canonicalHash parameters, codec.print outcome⟩⟩ }
  | recordPort {requestId : Uuid} {sessionId : Option Uuid} {record : StoredCommandRecord}
      (hop : op = .recordPortCommand sessionId requestId record)
      (hfits : scopeFits sessionId record.method)
      (hsession : ∀ id, sessionId = some id → s.database.HasSession id)
      (hnew : s.database.command? (commandScope sessionId) requestId = none)
      (hburied : s.database.buried? sessionId requestId = none) :
      Change { s with database :=
        s.database.recorded ⟨commandScope sessionId, requestId, sessionId, record⟩ }
  | spend {id : Uuid} {spendUsdMicros : Nat} :
      Change { s with database :=
        s.database.updateSession id fun row => { row with spendUsdMicros } }
  | journalCreation {input : CreateSession} {eventId : Uuid} {draw : SecretKey}
      (hop : op = .createSession input eventId draw)
      (hnew : s.database.command? .daemon input.requestId = none)
      (hburied : s.database.buried? none input.requestId = none)
      (hfree : ∀ other ∈ s.database.creations,
        other.sessionId ≠ input.sessionId ∧ other.requestId ≠ input.requestId) :
      Change { s with database.creations := s.database.creations ++
        [input.journal (codec.canonicalHash input.requestParameters)] }
  | createKey {input : CreateSession} {eventId : Uuid} {draw : SecretKey}
      (hop : op = .createSession input eventId draw)
      (hjournal : input.journal (codec.canonicalHash input.requestParameters)
        ∈ s.database.creations)
      (hkey : s.keys input.sessionId = none) :
      Change { s with keys := update s.keys input.sessionId (some draw) }
  | markCreation {journal : CreationRow} (hkey : (s.keys journal.sessionId).isSome) :
      Change { s with database.creations := s.database.creations.map fun row =>
        if row = journal then { row with state := .keyCreated } else row }
  | commitCreation {input : CreateSession} {eventId : Uuid} {draw key : SecretKey}
      (hop : op = .createSession input eventId draw)
      (hsession : ¬ s.database.HasSession input.sessionId)
      (hkey : s.keys input.sessionId = some key)
      (hjournal : ({ input.journal (codec.canonicalHash input.requestParameters) with
        state := .keyCreated } : CreationRow) ∈ s.database.creations)
      (hnew : s.database.command? .daemon input.requestId = none)
      (hburied : s.database.buried? none input.requestId = none) :
      Change { s with database := s.database.created codec input eventId key }
  | destroyOrphan {id : Uuid} (hsession : ¬ s.database.HasSession id) :
      Change { s with keys := update s.keys id none }
  | closeCreation {journal : CreationRow}
      (hsettled : s.database.HasSession journal.sessionId ∨ s.keys journal.sessionId = none) :
      Change { s with database.creations :=
        s.database.creations.filter fun row => !decide (row = journal) }
  | journalDeletion {id deletionId requestId eventId : Uuid} {occurredAt : Time} {actor : String}
      {keyId : KeyId} {key : SecretKey} (hop : op.RequestsDeletion)
      (hsession : s.database.HasSession id) (hkey : s.keys id = some key)
      (htombstone : s.database.tombstone? id = none) (hexport : s.database.hasExport id = false)
      (hfree : ∀ other ∈ s.database.deletions, other.sessionId ≠ id ∧
        other.deletionId ≠ deletionId) :
      Change
        { s with
          database := s.database.deleting ⟨id, deletionId, requestId⟩
            (deletionEvent id deletionId requestId eventId occurredAt actor) keyId key }
  | destroyKey {journal : DeletionRow} (hop : op.Deletes)
      (hjournal : s.database.deletion? journal.sessionId = some journal) :
      Change { s with keys := update s.keys journal.sessionId none }
  | purge {journal : DeletionRow} (hop : op.Deletes)
      (hjournal : s.database.deletion? journal.sessionId = some journal)
      (hexport : s.database.hasExport journal.sessionId = false)
      (hkey : s.keys journal.sessionId = none) :
      Change { s with database := s.database.purged codec journal }
  | journalExport {command : ExportCommand} {draw : ExportDraw} {outputPath : Path}
      {row : SessionRow} {key : SecretKey} (hop : op = .executeExport command draw)
      (hrow : s.database.session? command.sessionId = some row) (hstate : row.state ≠ .deleting)
      (hdeletion : s.database.deletion? command.sessionId = none)
      (hnew : s.database.command? (.session command.sessionId) command.requestId = none)
      (hpath : s.files.normalized command.outputPath = some outputPath)
      (hkey : s.keys command.sessionId = some key)
      (hfree : ∀ other ∈ s.database.exports, other.exportId ≠ command.exportId ∧
        ¬ (other.sessionId = command.sessionId ∧ other.requestId = command.requestId)) :
      Change { s with database.exports := s.database.exports ++
        [(command.journal (codec.canonicalHash command.parameters)
          (command.payload outputPath draw.eventId)).row key] }
  | updateExport {exportId : Uuid} {state : ExportState} {fingerprint : FileFingerprint}
      (hstate : ∀ row ∈ s.database.exports, row.exportId = exportId →
        (state = .staged ∧ row.state = .prepared) ∨
          (state = .published ∧ row.state = .staged ∧ row.fingerprint = some fingerprint)) :
      Change { s with database.exports := s.database.exports.map fun row =>
        if row.exportId = exportId then { row with state, fingerprint := some fingerprint }
        else row }
  | commitExport {journal : ExportRow} {record : StoredCommandRecord} {event : EventInput}
      {keyId : KeyId} {key : SecretKey}
      (hjournal : journal ∈ s.database.exports) (hstate : journal.state = .published)
      (hsession : s.database.HasSession journal.sessionId)
      (hkey : s.keys journal.sessionId = some key) (hmethod : record.method = "session.export")
      (hevent : event.sessionId = journal.sessionId)
      (hkind : event.kind = "session_exported")
      (hcausation : event.causationRequestId = some journal.requestId)
      (hnew : s.database.command? (.session journal.sessionId) journal.requestId = none) :
      Change { s with database :=
        s.database.exported journal.exportId journal.requestId record event keyId key }
  | dropExport {journal : ExportRow} {existing : StoredCommandRecord}
      (hjournal : journal ∈ s.database.exports)
      (hexisting : s.database.command? (.session journal.sessionId) journal.requestId
        = some existing)
      (hmethod : existing.method = "session.export") :
      Change { s with database := s.database.removeExport journal.exportId }
  | interfere : Change { s with files := s.files.interfere }
  | removeStage {path : Path} (hpath : path.isStaging) :
      Change { s with files := s.files.unlink path }
  | createStage {path : Path} {id : FileId} (hpath : path.isStaging)
      (hfree : s.files.idAt path = none) (hid : s.files.isLinked id = false) :
      Change { s with files := (s.files.write id ⟨"", true, true, true⟩).link path id }
  | writeStage {path : Path} {id : FileId} {file : File} (hstage : s.files.IsStage path id) :
      Change { s with files := s.files.write id file }
  | publish {journal : ExportRow} {fingerprint : FileFingerprint} {id : FileId}
      (hjournal : journal ∈ s.database.exports) (hstate : journal.state = .staged)
      (hrecorded : journal.fingerprint = some fingerprint)
      (hstage : s.files.idAt (journal.payload.plaintext.outputPath.staging journal.exportId)
        = some id)
      (hfingerprint : s.files.fingerprint codec.blake3
        (journal.payload.plaintext.outputPath.staging journal.exportId) = some fingerprint)
      (hfree : s.files.idAt journal.payload.plaintext.outputPath = none) :
      Change { s with files := s.files.link journal.payload.plaintext.outputPath id }

/-! ## Events and commands -/

/-- A row that was just added is found. -/
theorem Database.command?_recorded_self {db : Database} {scope : Scope} {requestId : Uuid}
    {owner : Option Uuid} {record : StoredCommandRecord} (h : db.command? scope requestId = none) :
    (db.recorded ⟨scope, requestId, owner, record⟩).command? scope requestId = some record := by
  rw [command?, Option.map_eq_none_iff] at h
  show Option.map _ ((db.outcomes ++ [_]).find? _) = _
  rw [find?_append, h, Option.none_or, find?_singleton, if_pos (decide_eq_true ⟨rfl, rfl⟩)]
  rfl

section

variable {codec : Codec} {op : Operation}
  {T : Store → Store → Prop} {α : Type} {ok : α → Store → Prop}
  {err : StorageError → Store → Prop} {input : EventInput} {record : StoredCommandRecord}

theorem sessionKeyId_rule {rest : KeyId → Op α} {s : Store} {id : Uuid} (herr : ∀ e, err e s)
    (hok : ∀ row, s.database.session? id = some row → wpVia T (rest row.keyId) ok err s) :
    wpVia T (sessionKeyId id >>= rest) ok err s := by
  rw [wpVia_bind]
  refine query_rule herr ?_
  cases hrow : s.database.session? id with
  | none => exact herr _
  | some row => exact hok row hrow

variable {sessionId : Option Uuid} {requestId : Uuid} {events : List EventInput} {method : String}
  {parameters outcome : Json}

/-- Two queries, the second one only if the first finds nothing. -/
theorem lookupPortCommand_rule {rest : Option StoredCommandRecord → Op α} {s : Store}
    (herr : ∀ e, err e s)
    (hsome : ∀ record, (s.database.command? (commandScope sessionId) requestId).or
      (s.database.buried? sessionId requestId) = some record →
      wpVia T (rest (some record)) ok err s)
    (hnone : s.database.command? (commandScope sessionId) requestId = none →
      s.database.buried? sessionId requestId = none → wpVia T (rest none) ok err s) :
    wpVia T (lookupPortCommand sessionId requestId >>= rest) ok err s := by
  rw [wpVia_bind]
  refine query_rule herr ?_
  cases hcommand : s.database.command? (commandScope sessionId) requestId with
  | some record => exact hsome record (by rw [hcommand, Option.some_or])
  | none =>
    rw [← wpVia_bind]
    refine query_rule herr ?_
    cases hburied : s.database.buried? sessionId requestId with
    | some record => exact hsome record (by rw [hcommand, hburied, Option.none_or])
    | none => exact hnone hcommand hburied

theorem appendEvent_changes (hinput : op.Appends input) (s : Store) :
    wpVia (Change codec op) (appendEvent input) (fun _ _ => True) (fun _ s' => s' = s) s := by
  refine sessionKeyId_rule (fun _ => rfl) ?_
  intro row hrow
  refine sessionKey_rule (fun _ => rfl) ?_
  intro key hkey
  refine transaction_rule (fun _ => rfl) ?_
  intro event db hevent
  obtain ⟨hsession, -, rfl⟩ := appendEvent_eq hevent
  refine ⟨.inr (.append ?_ hsession hkey), trivial⟩
  intro other hother
  rw [mem_singleton] at hother
  exact ⟨hother ▸ hinput, hother ▸ rfl⟩

theorem appendEvents_changes (hevents : ∀ event ∈ events, op.Appends event) (s : Store) :
    wpVia (Change codec op) (appendEvents events) (fun _ _ => True) (fun _ s' => s' = s) s := by
  unfold appendEvents
  split
  · rfl
  next first rest =>
  split
  · rfl
  next hsame =>
  have hids : ∀ input ∈ first :: rest, input.sessionId = first.sessionId := by
    intro input hinput
    by_contra hne
    exact hsame (any_eq_true.mpr ⟨input, hinput, decide_eq_true hne⟩)
  refine sessionKeyId_rule (fun _ => rfl) ?_
  intro row hrow
  refine sessionKey_rule (fun _ => rfl) ?_
  intro key hkey
  refine transaction_rule (fun _ => rfl) ?_
  intro persisted db hbody
  obtain ⟨hsession, -, rfl⟩ := appendEvents_eq hids hbody
  refine ⟨.inr (.append ?_ (hsession (cons_ne_nil _ _)) hkey), trivial⟩
  intro input hinput
  exact ⟨hevents input hinput, hids input hinput⟩

theorem commitPortCommand_changes (s : Store) :
    wpVia (Change codec (.commitPortCommand requestId record input))
      (commitPortCommand requestId record input)
      (fun result t => ∀ event, result = .applied event →
        t.database.command? (.session input.sessionId) requestId = some record)
      (fun _ s' => s' = s) s := by
  refine lift_rule (fun _ _ => rfl) ?_
  intro _ _
  split
  · rfl
  next hscope =>
  refine sessionKeyId_rule (fun _ => rfl) ?_
  intro row hrow
  refine sessionKey_rule (fun _ => rfl) ?_
  intro key hkey
  refine transaction_rule (fun _ => rfl) ?_
  intro commit db hbody
  split at hbody
  · split at hbody
    · cases hbody
      exact ⟨.inl rfl, nofun⟩
    · cases hbody
  · next hnew =>
    obtain ⟨pair, hevent, hbody⟩ := bind_eq_ok hbody
    obtain ⟨hsession, -, hdb⟩ := appendEvent_eq hevent
    obtain ⟨middle, houtcome, ⟨⟩⟩ := bind_eq_ok hbody
    obtain ⟨hfree, rfl⟩ := insertOutcome_eq houtcome
    refine ⟨?_, fun _ _ => command?_recorded_self hfree⟩
    rw [hdb]
    refine .inr (.commit ?_ hsession hkey ⟨rfl, rfl, rfl, (not_or.mp hscope).1⟩ hnew)
    intro other hother
    obtain rfl := mem_singleton.mp hother
    exact ⟨rfl, rfl⟩

/-- A recorded batch reports as many events as it was given. -/
def CommandEventsOutcome.Covers (count : Nat) : CommandEventsOutcome → Prop
  | .recorded persisted _ => persisted.length = count
  | .replay _ => True

/-- The outcome that a batch says it has recorded is found. -/
def CommandEventsOutcome.IsRecorded (codec : Codec) (id requestId : Uuid)
    (method parameterHash : String) (t : Store) : CommandEventsOutcome → Prop
  | .recorded _ told => t.database.command? (.session id) requestId
      = some ⟨method, parameterHash, codec.print told⟩
  | .replay _ => True

/-- The same for a single event. -/
def CommandEventOutcome.IsRecorded (codec : Codec) (id requestId : Uuid)
    (method parameterHash : String) (t : Store) : CommandEventOutcome → Prop
  | .recorded _ told => t.database.command? (.session id) requestId
      = some ⟨method, parameterHash, codec.print told⟩
  | .replay _ => True

theorem commitCommandEvents_changes (hevents : ∀ event ∈ events, op.Appends event)
    (hrecord : method ≠ "session.create" → ∀ event ∈ events,
      op.Records codec (some event.sessionId) requestId
        ⟨method, codec.canonicalHash parameters, codec.print outcome⟩) (s : Store) :
    wpVia (Change codec op) (commitCommandEvents codec requestId method parameters outcome events)
      (fun result t => result.Covers events.length ∧ ∀ event ∈ events,
        result.IsRecorded codec event.sessionId requestId method (codec.canonicalHash parameters) t)
      (fun _ s' => s' = s) s := by
  unfold commitCommandEvents
  split
  · rfl
  next first rest =>
  split
  · rfl
  next hscope =>
  obtain ⟨hmethod, hscope⟩ := not_or.mp hscope
  have hids : ∀ input ∈ first :: rest, input.sessionId = first.sessionId := by
    intro input hinput
    by_contra hne
    exact (not_or.mp hscope).2 (any_eq_true.mpr ⟨input, hinput, decide_eq_true (.inl hne)⟩)
  refine lift_rule (fun _ _ => rfl) ?_
  intro _ _
  refine sessionKeyId_rule (fun _ => rfl) ?_
  intro row hrow
  refine sessionKey_rule (fun _ => rfl) ?_
  intro key hkey
  refine transaction_rule (fun _ => rfl) ?_
  intro result db hbody
  split at hbody
  · split at hbody
    · obtain ⟨recorded, _, ⟨⟩⟩ := bind_eq_ok hbody
      exact ⟨.inl rfl, trivial, fun _ _ => trivial⟩
    · cases hbody
  · next hnew =>
    obtain ⟨pair, hbatch, hbody⟩ := bind_eq_ok hbody
    obtain ⟨hsession, hpersisted, hdb⟩ := appendEvents_eq hids hbatch
    obtain ⟨middle, houtcome, ⟨⟩⟩ := bind_eq_ok hbody
    obtain ⟨hfree, rfl⟩ := insertOutcome_eq houtcome
    refine ⟨?_, ?_, ?_⟩
    · rw [hdb]
      refine .inr (.commit ?_ (hsession (cons_ne_nil _ _)) hkey
        (hrecord hmethod first mem_cons_self) hnew)
      intro input hinput
      exact ⟨hevents input hinput, hids input hinput⟩
    · show pair.1.length = _
      rw [hpersisted, EventInput.length_persistedFrom]
    · intro input hinput
      rw [hids input hinput]
      exact command?_recorded_self hfree

theorem commitCommandEvent_changes {event : EventInput} (s : Store) :
    wpVia (Change codec (.commitCommandEvent requestId method parameters outcome event))
      (commitCommandEvent codec requestId method parameters outcome event)
      (fun result t => result.IsRecorded codec event.sessionId requestId method
        (codec.canonicalHash parameters) t) (fun _ s' => s' = s) s := by
  refine wpVia_seq (commitCommandEvents_changes (forall_mem_singleton.mpr (by rfl))
    (fun hmethod => forall_mem_singleton.mpr (by exact ⟨rfl, rfl, rfl, hmethod⟩)) s) ?_
  rintro result s' ⟨hcovers, hrecorded⟩
  cases result with
  | replay => trivial
  | recorded persisted =>
    cases hlast : persisted.getLast? with
    | some last =>
      simp only [hlast]
      exact hrecorded event (mem_singleton_self _)
    | none =>
      rw [getLast?_eq_none_iff] at hlast
      rw [CommandEventsOutcome.Covers, hlast] at hcovers
      cases hcovers

theorem recordCommandOutcome_changes {scope : Scope}
    (hop : op = .recordCommandOutcome scope requestId sessionId method parameters outcome)
    (s : Store) :
    wpVia (Change codec op)
      (recordCommandOutcome codec scope requestId sessionId method parameters outcome)
      (fun result t => ∀ told, result = .recorded told →
        t.database.command? (commandScope sessionId) requestId
          = some ⟨method, codec.canonicalHash parameters, codec.print told⟩)
      (fun _ s' => s' = s) s := by
  unfold recordCommandOutcome
  split
  · rfl
  next hscope =>
  obtain ⟨hscope, hfits⟩ := not_or.mp hscope
  obtain rfl := not_not.mp hscope
  refine transaction_rule (fun _ => rfl) ?_
  intro result db hbody
  split at hbody
  · obtain ⟨recorded, _, hbody⟩ := bind_eq_ok hbody
    obtain ⟨-, ⟨⟩⟩ := ok_of_check hbody
    exact ⟨.inl rfl, nofun⟩
  next hnew =>
  obtain ⟨middle, houtcome, ⟨⟩⟩ := bind_eq_ok hbody
  obtain ⟨hfree, rfl⟩ := insertOutcome_eq houtcome
  refine ⟨.inr (.recordOutcome hop (Bool.not_eq_false _ ▸ hfits) hnew), ?_⟩
  rintro _ ⟨⟩
  exact command?_recorded_self hfree

theorem recordPortCommand_changes (hop : op = .recordPortCommand sessionId requestId record)
    (s : Store) :
    wpVia (Change codec op) (recordPortCommand sessionId requestId record)
      (fun _ t => s.database.command? (commandScope sessionId) requestId = none →
        s.database.buried? sessionId requestId = none →
        t.database.command? (commandScope sessionId) requestId = some record)
      (fun _ s' => s' = s) s := by
  refine lift_rule (fun _ _ => rfl) ?_
  intro _ _
  split
  · rfl
  next hfits =>
  refine lookupPortCommand_rule (fun _ => rfl) ?_ ?_
  · intro existing hfound
    rw [wpVia_ite]
    split
    · intro hnew hburied
      rw [hnew, hburied] at hfound
      cases hfound
    · rfl
  · intro hnew hburied
    have hinsert : (∀ id, sessionId = some id → s.database.HasSession id) →
        wpVia (Change codec op) (execute (·.insertPortCommand sessionId requestId record))
          (fun _ t => s.database.command? (commandScope sessionId) requestId = none →
            s.database.buried? sessionId requestId = none →
            t.database.command? (commandScope sessionId) requestId = some record)
          (fun _ s' => s' = s) s := by
      intro hsession
      refine execute_rule (fun _ => rfl) ?_
      intro db hdb
      obtain ⟨hfree, rfl⟩ := insertOutcome_eq hdb
      exact ⟨.recordPort hop (Bool.not_eq_false _ ▸ hfits) hsession hnew hburied,
        fun _ _ => command?_recorded_self hfree⟩
    cases sessionId with
    | none => exact hinsert nofun
    | some id =>
      refine query_rule (fun _ => rfl) ?_
      split
      · rfl
      next hsession =>
      refine hinsert ?_
      rintro other ⟨rfl⟩
      rw [HasSession, Option.isSome_iff_ne_none]
      exact fun hnone => hsession (Option.isNone_iff_eq_none.mpr hnone)

theorem replay_changes (id : Uuid) (afterSequence : Nat) (s : Store) :
    wpVia (Change codec op) (replay id afterSequence) (fun _ s' => s' = s) (fun _ s' => s' = s)
      s := by
  unfold replay
  split
  · rfl
  refine sessionKey_rule (fun _ => rfl) ?_
  intro key _
  refine query_rule (fun _ => rfl) ?_
  rw [← wpVia_bind_pure]
  exact lift_rule (fun _ _ => rfl) (fun _ _ => rfl)

theorem lookupCommandOutcome_changes (sessionId : Option Uuid) (requestId : Uuid)
    (method : String) (parameters : Json) (s : Store) :
    wpVia (Change codec op) (lookupCommandOutcome codec sessionId requestId method parameters)
      (fun _ s' => s' = s) (fun _ s' => s' = s) s := by
  unfold lookupCommandOutcome
  split
  · rfl
  refine lookupPortCommand_rule (fun _ => rfl) ?_ (fun _ _ => rfl)
  intro existing _
  rw [wpVia_ite]
  split
  · exact lift_rule (fun _ _ => rfl) (fun _ _ => rfl)
  · rfl

theorem recoverUncertainAttempts_changes {occurredAt : Time} {eventIds : Nat → Uuid}
    (hop : op = .recoverUncertainAttempts occurredAt eventIds) (s : Store) :
    wpVia (Change codec op) (recoverUncertainAttempts occurredAt eventIds) (fun _ _ => True)
      (fun _ _ => True) s := by
  refine query_rule (fun _ => trivial) ?_
  rw [wpVia_bind]
  refine wpVia_imp (wpVia_forEach (fun _ _ => True) ?_ _ s trivial) (fun _ _ _ => trivial)
    (fun _ _ h => h)
  intro attempt _ t _
  rw [wpVia_bind]
  have hevent : op.Appends (uncertainEvent occurredAt attempt.eventId attempt.sessionId
      attempt.attemptId) := by
    rw [hop]
    exact ⟨_, _, _, rfl⟩
  exact wpVia_imp (appendEvent_changes hevent t) (fun _ _ _ => trivial) (fun _ _ _ => trivial)

theorem storeSessionSpend_changes (id : Uuid) (spendUsdMicros : Nat) (s : Store) :
    wpVia (Change codec op) (storeSessionSpend id spendUsdMicros) (fun _ _ => True)
      (fun _ s' => s' = s) s := by
  unfold storeSessionSpend
  split
  · rfl
  refine execute_rule (fun _ => rfl) ?_
  intro db hdb
  split at hdb
  · cases hdb
  · cases hdb
    exact ⟨.spend, trivial⟩

end

/-! ## Creation -/

section

variable {codec : Codec} {op : Operation}

/-- Only creation journals and keys differ. -/
def OnlyCreations (s s' : Store) : Prop :=
  s' = ⟨{ s.database with creations := s'.database.creations }, s'.keys, s.files⟩

theorem OnlyCreations.refl (s : Store) : OnlyCreations s s := rfl

variable {s : Store} {s' : Store} {input : CreateSession} {eventId : Uuid} {draw : SecretKey}

theorem OnlyCreations.trans {s'' : Store} (first : OnlyCreations s s')
    (second : OnlyCreations s' s'') : OnlyCreations s s'' := by
  rw [OnlyCreations] at first second ⊢
  rw [second, first]

theorem reconcileCreation_changes (journal : CreationRow) (s : Store) :
    wpVia (Change codec op) (reconcileCreation journal) (fun _ => OnlyCreations s)
      (fun _ => OnlyCreations s) s := by
  unfold reconcileCreation
  split
  · exact .refl s
  refine query_rule (fun _ => .refl s) ?_
  cases hrow : s.database.session? journal.sessionId with
  | some row =>
    rw [wpVia_ite]
    split
    · exact .refl s
    · refine execute_rule (fun _ => .refl s) ?_
      intro db hdb
      obtain ⟨-, rfl⟩ := changeCreation_none_eq hdb
      exact ⟨.closeCreation (.inl (.of_session? hrow)), rfl⟩
  | none =>
    rw [wpVia_bind]
    refine destroySessionKey_rule (fun _ => .refl s)
      ⟨.destroyOrphan (by simp [HasSession, hrow]), ?_⟩
    refine execute_rule (fun _ => rfl) ?_
    intro db hdb
    obtain ⟨-, rfl⟩ := changeCreation_none_eq hdb
    exact ⟨.closeCreation (.inr (update_self _ _ _)), rfl⟩

theorem reconcileFound_changes (found : Option CreationRow) (fits : CreationRow → Bool)
    (s : Store) :
    wpVia (Change codec op) (reconcileFound found fits) (fun _ => OnlyCreations s)
      (fun _ => OnlyCreations s) s := by
  unfold reconcileFound
  cases found with
  | none => exact .refl s
  | some journal =>
    rw [wpVia_ite]
    split
    · exact reconcileCreation_changes journal s
    · exact .refl s

theorem reconcileCreateRetry_changes (sessionId requestId : Uuid) (parameterHash : String)
    (s : Store) :
    wpVia (Change codec op) (reconcileCreateRetry sessionId requestId parameterHash)
      (fun _ => OnlyCreations s) (fun _ => OnlyCreations s) s := by
  refine query_rule (fun _ => .refl s) ?_
  refine wpVia_seq (reconcileFound_changes _ _ s) ?_
  intro _ t ht
  refine query_rule (fun _ => ht) ?_
  exact wpVia_imp (reconcileFound_changes _ _ t) (fun _ _ h => ht.trans h) (fun _ _ h => ht.trans h)

/-- The events, sessions and outcomes are the same. -/
def SameRecords (s s' : Store) : Prop :=
  s'.database.outcomes = s.database.outcomes ∧ s'.database.tombstones = s.database.tombstones ∧
    s'.database.sessions = s.database.sessions ∧ s'.database.events = s.database.events

theorem OnlyCreations.sameRecords (h : OnlyCreations s s') : SameRecords s s' := by
  rw [h]
  exact ⟨rfl, rfl, rfl, rfl⟩

theorem finishCreateSession_changes (hop : op = .createSession input eventId draw)
    (hjournal : input.journal (codec.canonicalHash input.requestParameters)
      ∈ s.database.creations) (hnew : s.database.command? .daemon input.requestId = none)
    (hburied : s.database.buried? none input.requestId = none) :
    wpVia (Change codec op)
      (finishCreateSession codec input (codec.canonicalHash input.requestParameters) eventId draw)
      (fun result t => ∀ told, result = .recorded told → t.database.command? .daemon input.requestId
        = some ⟨"session.create", codec.canonicalHash input.requestParameters, codec.print told⟩)
      (fun _ => SameRecords s) s := by
  have hsame : SameRecords s s := ⟨rfl, rfl, rfl, rfl⟩
  unfold finishCreateSession
  rw [wpVia_bind]
  refine createSessionKey_rule (fun _ => hsame) ?_
  intro hkey
  refine ⟨.createKey hop hjournal hkey, ?_⟩
  have hcreated : update s.keys input.sessionId (some draw) input.sessionId = some draw :=
    update_self _ _ _
  rw [wpVia_bind]
  refine execute_rule (fun _ => hsame) ?_
  intro marked hmarked
  obtain ⟨-, rfl⟩ := changeCreation_some_eq hmarked
  refine ⟨?_, ?_⟩
  · simp only [decide_eq_true_eq]
    refine .markCreation ?_
    show (update s.keys input.sessionId (some draw) input.sessionId).isSome = true
    rw [hcreated]
    rfl
  refine sessionKey_rule (fun _ => hsame) ?_
  intro key hfetched
  rw [wpVia_bind]
  refine execute_rule (fun _ => hsame) ?_
  intro db hdb
  obtain ⟨hsession, hfree, rfl⟩ := commitCreation_eq hdb
  refine ⟨.commitCreation hop hsession hfetched ?_ hnew hburied, ?_⟩
  · exact mem_map.mpr ⟨_, hjournal, if_pos (decide_eq_true rfl)⟩
  · rintro _ ⟨⟩
    exact command?_recorded_self hfree

theorem createSession_changes (hop : op = .createSession input eventId draw) (s : Store) :
    wpVia (Change codec op) (createSession codec input eventId draw)
      (fun result t => ∀ told, result = .recorded told → t.database.command? .daemon input.requestId
        = some ⟨"session.create", codec.canonicalHash input.requestParameters, codec.print told⟩)
      (fun _ => SameRecords s) s := by
  have hsame : SameRecords s s := ⟨rfl, rfl, rfl, rfl⟩
  refine lookupPortCommand_rule (fun _ => hsame) ?_ ?_
  · intro record _
    rw [wpVia_ite]
    split
    · exact lift_rule (fun _ _ => hsame) (fun _ _ => nofun)
    · exact hsame
  · intro hnew hburied
    rw [wpVia_bind]
    refine wpVia_imp (reconcileCreateRetry_changes _ _ _ s) ?_ (fun _ _ h => h.sameRecords)
    intro _ t ht
    have hrecords := ht.sameRecords
    have hcommand : t.database.command? .daemon input.requestId = none := by
      rw [command?, hrecords.1]
      exact hnew
    have htombstone : t.database.buried? none input.requestId = none := by
      rw [buried?, hrecords.2.1]
      exact hburied
    rw [wpVia_bind]
    refine execute_rule (fun _ => hrecords) ?_
    intro db hdb
    obtain ⟨hfree, rfl⟩ := insertCreation_eq hdb
    refine ⟨.journalCreation hop hcommand htombstone hfree, ?_⟩
    rw [wpVia_catchError]
    have hmem : input.journal (codec.canonicalHash input.requestParameters)
        ∈ t.database.creations ++ [input.journal (codec.canonicalHash input.requestParameters)] :=
      mem_append_right _ (mem_singleton_self _)
    refine wpVia_imp (finishCreateSession_changes hop hmem hcommand htombstone) (fun _ _ h => h) ?_
    -- a failure is followed by an attempt to reconcile what was journaled
    intro error u hu
    rw [wpVia_bind, wpVia_ignoringErrors]
    have hkept : ∀ v, OnlyCreations u v → SameRecords s v := by
      intro v hv
      have hlast := hv.sameRecords
      exact ⟨hlast.1.trans (hu.1.trans hrecords.1), hlast.2.1.trans (hu.2.1.trans hrecords.2.1),
        hlast.2.2.1.trans (hu.2.2.1.trans hrecords.2.2.1),
        hlast.2.2.2.trans (hu.2.2.2.trans hrecords.2.2.2)⟩
    exact wpVia_imp (query_rule (fun _ => .refl u) (reconcileFound_changes _ _ u))
      (fun _ v hv => hkept v hv) (fun _ v hv => hkept v hv)

theorem resumeSessionCreations_changes (s : Store) :
    wpVia (Change codec op) resumeSessionCreations (fun _ _ => True) (fun _ _ => True) s := by
  refine query_rule (fun _ => trivial) ?_
  rw [wpVia_bind]
  refine wpVia_imp (wpVia_forEach (fun _ _ => True) ?_ _ s trivial) (fun _ _ _ => trivial)
    (fun _ _ h => h)
  intro journal _ t _
  exact wpVia_imp (reconcileCreation_changes journal t) (fun _ _ _ => trivial)
    (fun _ _ _ => trivial)

end

/-! ## Deletion -/

section

variable {codec : Codec} {op : Operation}
  {T : Store → Store → Prop} {err : StorageError → Store → Prop} {id : Uuid}
  {ok : DeletionSummary → Store → Prop}

theorem ensureNoPendingExport_rule {rest : Unit → Op DeletionSummary} {s : Store}
    (herr : ∀ e, err e s) (hok : s.database.hasExport id = false → wpVia T (rest ()) ok err s) :
    wpVia T (ensureNoPendingExport id >>= rest) ok err s := by
  rw [wpVia_bind]
  refine query_rule herr ?_
  split
  · exact herr _
  · next hexport => exact hok (Bool.eq_false_iff.mpr hexport)

/-- The state after a deletion has been finished. -/
def Store.finished (codec : Codec) (s : Store) (journal : DeletionRow) : Store :=
  { s with
    keys := update s.keys journal.sessionId none
    database := s.database.purged codec journal }

/-- A deletion that is finished destroys the key and then purges the session. -/
theorem finishDeletion_rule {s : Store} (herr : ∀ e, err e s)
    (hfinished : ∀ journal, s.database.deletion? id = some journal → journal.sessionId = id →
      s.database.hasExport id = false →
      let destroyed := { s with keys := update s.keys journal.sessionId none }
      T s destroyed ∧ (∀ e, err e destroyed) ∧ T destroyed (s.finished codec journal) ∧
        ok ⟨id, journal.deletionId, true⟩ (s.finished codec journal)) :
    wpVia T (finishDeletion codec id) ok err s := by
  refine ensureNoPendingExport_rule herr ?_
  intro hexport
  refine query_rule herr ?_
  cases hfound : s.database.deletion? id with
  | none => exact herr _
  | some journal =>
    obtain rfl := sessionId_of_deletion? hfound
    obtain ⟨hdestroy, herr', hpurge, hok⟩ := hfinished journal hfound rfl hexport
    rw [wpVia_bind]
    refine destroySessionKey_rule herr ⟨hdestroy, ?_⟩
    rw [wpVia_bind]
    refine execute_rule herr' ?_
    intro db hdb
    obtain ⟨middle, hdelete, ⟨⟩⟩ := bind_eq_ok hdb
    obtain ⟨-, ⟨⟩⟩ := ok_of_guard hdelete
    exact ⟨hpurge, hok⟩

/-- A deletion request stops at a check, is repeated, goes on with a journal, or makes one. -/
theorem requestDeletion_rule {s : Store} {deletionId requestId eventId : Uuid} {occurredAt : Time}
    {actor : String} (herr : ∀ e, err e s)
    (hrepeated : ∀ tombstone, s.database.tombstone? id = some tombstone →
      tombstone.deletionRequestId = requestId → ok ⟨id, tombstone.deletionId, true⟩ s)
    (hcontinued : ∀ journal, s.database.deletion? id = some journal →
      journal.requestId = requestId → wpVia T (finishDeletion codec id) ok err s)
    (hopened : ∀ row key db, s.database.tombstone? id = none → s.database.hasExport id = false →
      s.database.session? id = some row → isDeletable row.state →
      s.database.deletion? id = none → s.keys id = some key →
      s.database.journalDeletion ⟨id, deletionId, requestId⟩
        (deletionEvent id deletionId requestId eventId occurredAt actor) row.keyId key = .ok db →
      T s { s with database := db } ∧
        wpVia T (finishDeletion codec id) ok err { s with database := db }) :
    wpVia T (requestDeletion codec id deletionId requestId occurredAt actor eventId) ok err s := by
  refine query_rule herr ?_
  cases htombstone : s.database.tombstone? id with
  | some tombstone =>
    rw [wpVia_ite]
    split
    · exact herr _
    · next hsame => exact hrepeated tombstone htombstone (not_not.mp (not_or.mp hsame).1)
  | none =>
    refine ensureNoPendingExport_rule herr ?_
    intro hexport
    refine query_rule herr ?_
    cases hrow : s.database.session? id with
    | none => exact herr _
    | some row =>
      rw [wpVia_ite]
      split
      · exact herr _
      next hdeletable =>
      refine query_rule herr ?_
      cases hdeletion : s.database.deletion? id with
      | some journal =>
        rw [wpVia_ite]
        split
        · exact herr _
        · next hrequest => exact hcontinued journal hdeletion (not_not.mp hrequest)
      | none =>
        refine sessionKeyId_rule herr ?_
        intro again hagain
        obtain rfl := Option.some.inj (hrow.symm.trans hagain)
        refine sessionKey_rule herr ?_
        intro key hkey
        rw [wpVia_bind]
        refine execute_rule herr ?_
        intro db hdb
        exact hopened row key db htombstone hexport hrow (Bool.not_eq_false _ ▸ hdeletable)
          hdeletion hkey hdb

theorem deletion?_deleting {db : Database} {journal : DeletionRow} {event : EventInput}
    {keyId : KeyId} {key : SecretKey} (hnone : db.deletion? journal.sessionId = none) :
    (db.deleting journal event keyId key).deletion? journal.sessionId = some journal := by
  show (db.deletions ++ [journal]).find? _ = _
  rw [deletion?] at hnone
  rw [find?_append, hnone, Option.none_or, find?_singleton]
  exact if_pos (decide_eq_true rfl)

/-- The tombstone of a deletion that is reported to its requester. -/
def Buried (id requestId : Uuid) (summary : DeletionSummary) (t : Store) : Prop :=
  ∃ tombstone ∈ t.database.tombstones, tombstone.sessionId = id ∧
    tombstone.deletionRequestId = requestId ∧ tombstone.deletionId = summary.deletionId

theorem finishDeletion_changes (hop : op.Deletes) (id : Uuid) (s : Store) :
    wpVia (Change codec op) (finishDeletion codec id)
      (fun summary t => ∀ journal, s.database.deletion? id = some journal →
        Buried id journal.requestId summary t) (fun _ _ => True) s := by
  refine finishDeletion_rule (fun _ => trivial) ?_
  rintro journal hfound rfl hexport
  refine ⟨.destroyKey hop hfound, fun _ => trivial,
    .purge hop hfound hexport (update_self _ _ _), ?_⟩
  rintro other hother
  obtain rfl := Option.some.inj (hfound.symm.trans hother)
  exact ⟨_, mem_append_right _ (mem_singleton_self _), rfl, rfl, rfl⟩

theorem requestDeletion_changes (hop : op.RequestsDeletion) (id deletionId requestId : Uuid)
    (occurredAt : Time) (actor : String) (eventId : Uuid) (s : Store) :
    wpVia (Change codec op)
      (requestDeletion codec id deletionId requestId occurredAt actor eventId)
      (Buried id requestId) (fun _ _ => True) s := by
  refine requestDeletion_rule (fun _ => trivial) ?_ ?_ ?_
  · intro tombstone hfound hsame
    exact ⟨tombstone, mem_of_find?_eq_some hfound, sessionId_of_tombstone? hfound, hsame, rfl⟩
  · rintro journal hfound rfl
    exact wpVia_imp (finishDeletion_changes (.inl hop) id s) (fun _ _ h => h journal hfound)
      (fun _ _ h => h)
  intro row key db htombstone hexport hrow _ hnone hkey hdb
  obtain ⟨hfree, rfl⟩ := journalDeletion_eq hdb
  refine ⟨.journalDeletion hop (.of_session? hrow) hkey htombstone hexport hfree, ?_⟩
  exact wpVia_imp (finishDeletion_changes (.inl hop) id _)
    (fun _ _ h => h ⟨id, deletionId, requestId⟩ (deletion?_deleting hnone))
    (fun _ _ h => h)

theorem resumeDeletions_changes (hop : op.Deletes) (s : Store) :
    wpVia (Change codec op) (resumeDeletions codec) (fun _ _ => True) (fun _ _ => True) s := by
  refine query_rule (fun _ => trivial) ?_
  refine wpVia_collect (fun _ _ => True) ?_ _ s trivial
  intro id _ t _
  exact wpVia_imp (finishDeletion_changes hop id t) (fun _ _ _ => trivial) (fun _ _ h => h)

theorem runRetention_changes (hop : op.RequestsDeletion) (now : Time)
    (retentionDays : Option Nat) (draws : Nat → DeletionDraw) (s : Store) :
    wpVia (Change codec op) (runRetention codec now retentionDays draws) (fun _ _ => True)
      (fun _ _ => True) s := by
  unfold runRetention
  split
  · trivial
  · trivial
  refine query_rule (fun _ => trivial) ?_
  refine wpVia_collect (fun _ _ => True) ?_ _ s trivial
  intro due _ t _
  exact wpVia_imp (requestDeletion_changes hop _ _ _ _ _ _ t) (fun _ _ _ => trivial)
    (fun _ _ h => h)

end

end Workbench.Sqlite
