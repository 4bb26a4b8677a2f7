import Workbench.Sqlite.EventLog

/-!
# Sqlite: exports happen once

As long as no export is asked for under the name of a staging file, at every crash point
of every run each export request has at most one event and one outcome, a target is only
ever linked to the bundle that was fingerprinted at staging, what is found at a target
stays there, and a journal ends with the write that records its outcome.
-/

namespace Workbench.Sqlite

open Workbench.Core Library Storage Program List Database

/-! ## Events and outcomes of exports -/

namespace Database

/-- The events that a request for an export has left. -/
def exportEvents (db : Database) (id requestId : Uuid) : List EventRow :=
  (db.eventsOf id).filter fun row =>
    row.kind = "session_exported" ∧ row.causationRequestId = some requestId

/-- The outcome of a request for an export is recorded. -/
def IsExported (db : Database) (id requestId : Uuid) : Prop :=
  ∃ record, db.command? (.session id) requestId = some record ∧ record.method = "session.export"

/-- Each request for an export has one outcome at most, and one event if it has one. -/
structure ExportedOnce (db : Database) : Prop where
  outcome : ∀ id requestId, (db.outcomes.filter fun row =>
    row.scope = .session id ∧ row.requestId = requestId).length ≤ 1
  event : ∀ id requestId, (db.exportEvents id requestId).length ≤ 1
  both : ∀ id requestId, db.exportEvents id requestId ≠ [] ↔ db.IsExported id requestId

variable {db db' : Database}

/-- Other events do not count. -/
theorem exportEvents_append {rows : List EventRow} (hevents : db'.events = db.events ++ rows)
    (hrows : ∀ row ∈ rows, row.kind ≠ "session_exported") (id requestId : Uuid) :
    db'.exportEvents id requestId = db.exportEvents id requestId := by
  have hnone : (rows.filter (·.sessionId = id)).filter (fun row =>
      row.kind = "session_exported" ∧ row.causationRequestId = some requestId) = [] := by
    refine filter_eq_nil_iff.mpr ?_
    intro row hrow hkind
    exact hrows row (mem_filter.mp hrow).1 (of_decide_eq_true hkind).1
  rw [exportEvents, exportEvents, eventsOf, eventsOf, hevents, filter_append,
    filter_append, hnone, append_nil]

variable {event : EventInput} {requestId : Uuid}

/-- The event of an export is the only new one of its request. -/
theorem exportEvents_exported (db : Database) (exportId : Uuid) (record : StoredCommandRecord)
    (keyId : KeyId) (key : SecretKey) (hkind : event.kind = "session_exported")
    (hcausation : event.causationRequestId = some requestId) (id request : Uuid) :
    (db.exported exportId requestId record event keyId key).exportEvents id request
      = db.exportEvents id request ++
        if id = event.sessionId ∧ request = requestId then
          [event.row (db.lastSequence event.sessionId + 1) keyId key]
        else [] := by
  show ((db.events ++ [event.row (db.lastSequence event.sessionId + 1) keyId key]).filter
    _).filter _
    = _
  rw [filter_append, filter_append]
  congr 1
  rw [filter_filter]
  by_cases hboth : id = event.sessionId ∧ request = requestId
  · rw [if_pos hboth]
    refine filter_eq_self.mpr ?_
    intro row hrow
    rw [mem_singleton.mp hrow, Bool.and_eq_true, decide_eq_true_eq, decide_eq_true_eq]
    exact ⟨⟨hkind, hcausation.trans (congrArg some hboth.2.symm)⟩, hboth.1.symm⟩
  · rw [if_neg hboth]
    refine filter_eq_nil_iff.mpr ?_
    intro row hrow
    rw [mem_singleton.mp hrow, Bool.and_eq_true, decide_eq_true_eq, decide_eq_true_eq]
    rintro ⟨⟨-, hcause⟩, hid⟩
    exact hboth ⟨hid.symm, Option.some.inj (hcause.symm.trans hcausation)⟩

/-- Other outcomes do not count, unless they take the request first. -/
theorem isExported_append {added : List CommandRow}
    (houtcomes : db'.outcomes = db.outcomes ++ added)
    (hadded : ∀ row ∈ added, row.record.method ≠ "session.export") (id requestId : Uuid) :
    db'.IsExported id requestId ↔ db.IsExported id requestId := by
  have hcommand : db'.command? (.session id) requestId
      = (db.command? (.session id) requestId).or ((added.find? fun row =>
          row.scope = .session id ∧ row.requestId = requestId).map (·.record)) := by
    rw [command?, command?, houtcomes, find?_append, Option.map_or]
  have hnone : ∀ record, (added.find? fun row =>
      row.scope = .session id ∧ row.requestId = requestId).map (·.record) = some record →
        record.method ≠ "session.export" := by
    intro record hfound
    obtain ⟨row, hrow, rfl⟩ := Option.map_eq_some_iff.mp hfound
    exact hadded row (mem_of_find?_eq_some hrow)
  rw [IsExported, IsExported, hcommand]
  cases db.command? (.session id) requestId with
  | some record => exact Iff.rfl
  | none =>
    refine ⟨?_, ?_⟩
    · rintro ⟨record, hfound, hmethod⟩
      exact absurd hmethod (hnone record hfound)
    · rintro ⟨record, hfound, -⟩
      cases hfound

variable {exportId : Uuid} {record : StoredCommandRecord} {keyId : KeyId} {key : SecretKey}

theorem command?_exported (hnew : db.command? (.session event.sessionId) requestId = none) :
    (db.exported exportId requestId record event keyId key).command? (.session event.sessionId)
      requestId = some record :=
  command?_recorded_self hnew

theorem command?_exported_of_ne {id request : Uuid}
    (hne : ¬ (id = event.sessionId ∧ request = requestId)) :
    (db.exported exportId requestId record event keyId key).command? (.session id) request
      = db.command? (.session id) request := by
  show Option.map _ ((db.outcomes ++
    [CommandRow.ofSession event.sessionId requestId record]).find? _)
    = _
  rw [find?_append, find?_singleton, if_neg, Option.or_none]
  · rfl
  · intro hmatch
    obtain ⟨hscope, hrequest⟩ := of_decide_eq_true hmatch
    exact hne ⟨(Scope.session.inj hscope).symm, hrequest.symm⟩

/-- An outcome in the scope of a session names the session. -/
def Scoped (db : Database) : Prop :=
  ∀ row ∈ db.outcomes, ∀ id, row.scope = .session id → row.sessionId = some id

theorem command?_purged_of_ne (hscoped : db.Scoped) {codec : Codec} {journal : DeletionRow}
    {id : Uuid} (hne : id ≠ journal.sessionId) (requestId : Uuid) :
    (db.purged codec journal).command? (.session id) requestId
      = db.command? (.session id) requestId := by
  refine congrArg (Option.map _) (find?_filter_eq ?_)
  intro row hrow hmatch
  have hsession := hscoped row hrow id (of_decide_eq_true hmatch).1
  exact decide_eq_true fun hsame => hne (Option.some.inj (hsession.symm.trans hsame))

end Database

/-! ## Which operations write what -/

/-- Operations other than exports do not record events and outcomes like those of an export. -/
def Operation.LeavesExports : Operation → Prop
  | .appendEvent input => input.kind ≠ "session_exported"
  | .appendEvents events => ∀ event ∈ events, event.kind ≠ "session_exported"
  | .recordCommandOutcome _ _ _ method _ _ => method ≠ "session.export"
  | .recordPortCommand _ _ record => record.method ≠ "session.export"
  | .commitPortCommand _ record input =>
    record.method ≠ "session.export" ∧ input.kind ≠ "session_exported"
  | .commitCommandEvent _ method _ _ event =>
    method ≠ "session.export" ∧ event.kind ≠ "session_exported"
  | .commitCommandEvents _ method _ _ events =>
    method ≠ "session.export" ∧ ∀ event ∈ events, event.kind ≠ "session_exported"
  | _ => True

instance (op : Operation) : Decidable op.LeavesExports := by
  induction op using Operation.casesOn <;> unfold Operation.LeavesExports <;> infer_instance

variable {op : Operation} {codec : Codec} {s s' : Store}

theorem Operation.LeavesExports.kind_ne (h : op.LeavesExports) {input : EventInput}
    (happends : op.Appends input) : input.kind ≠ "session_exported" := by
  cases op with
  | appendEvent =>
    obtain rfl := happends
    exact h
  | appendEvents => exact h input happends
  | commitPortCommand | commitCommandEvent =>
    obtain rfl := happends
    exact h.2
  | commitCommandEvents => exact h.2 input happends
  | recoverUncertainAttempts =>
    obtain ⟨eventId, sessionId, attemptId, rfl⟩ := happends
    show "outcome_unknown" ≠ "session_exported"
    decide
  | _ => cases happends

theorem Operation.LeavesExports.method_ne (h : op.LeavesExports)
    {id : Option Uuid} {requestId : Uuid} {record : StoredCommandRecord}
    (hrecords : op.Records codec id requestId record) : record.method ≠ "session.export" := by
  cases op with
  | recordPortCommand =>
    obtain ⟨-, -, rfl, -⟩ := hrecords
    exact h
  | commitPortCommand | commitCommandEvent | commitCommandEvents =>
    obtain ⟨-, -, rfl, -⟩ := hrecords
    exact h.1
  | _ => cases hrecords

/-- The events and outcomes of exports are those of the other database. -/
structure Database.SameExports (db db' : Database) : Prop where
  events : ∃ rows, db'.events = db.events ++ rows ∧ ∀ row ∈ rows, row.kind ≠ "session_exported"
  outcomes : ∃ added, db'.outcomes = db.outcomes ++ added ∧
    (∀ row ∈ added, row.record.method ≠ "session.export") ∧
    ∀ row ∈ added, ∀ id, row.scope = .session id → row.sessionId = some id

theorem Database.SameExports.refl (db : Database) : db.SameExports db :=
  ⟨⟨[], (append_nil _).symm, forall_mem_nil _⟩,
    ⟨[], (append_nil _).symm, forall_mem_nil _, forall_mem_nil _⟩⟩

theorem EventInput.kind_rows {keyId : KeyId} {key : SecretKey} {last : Nat}
    {inputs : List EventInput} (hinputs : ∀ input ∈ inputs, input.kind ≠ "session_exported") :
    ∀ row ∈ EventInput.rows keyId key last inputs, row.kind ≠ "session_exported" := by
  intro row hrow
  obtain ⟨input, hinput, sequence, rfl⟩ := EventInput.mem_rows hrow
  exact hinputs input hinput

/-- One outcome more. -/
theorem Database.SameExports.of_recorded {db db' : Database} {rows : List EventRow}
    (hevents : db'.events = db.events ++ rows) (hrows : ∀ row ∈ rows, row.kind ≠ "session_exported")
    {added : CommandRow} (houtcomes : db'.outcomes = db.outcomes ++ [added])
    (hmethod : added.record.method ≠ "session.export")
    (hscope : ∀ id, added.scope = .session id → added.sessionId = some id) :
    db.SameExports db' := by
  refine ⟨⟨rows, hevents, hrows⟩, [added], houtcomes, ?_, ?_⟩
  · exact forall_mem_singleton.mpr hmethod
  · exact forall_mem_singleton.mpr hscope

/-- Only the end of an export and a purge touch the events and outcomes of exports. -/
theorem sameExports_or (hop : op.LeavesExports)
    (hchange : Change codec op s s') :
    s.database.SameExports s'.database ∨
      (∃ journal, s' = { s with database := s.database.purged codec journal }) ∨
      ∃ journal record event keyId key, journal ∈ s.database.exports ∧
        record.method = "session.export" ∧
        event.sessionId = journal.sessionId ∧ event.kind = "session_exported" ∧
        event.causationRequestId = some journal.requestId ∧
        s.database.command? (.session journal.sessionId) journal.requestId = none ∧
        s' = { s with
          database := s.database.exported journal.exportId journal.requestId record event keyId
            key } := by
  cases hchange with
  | append hinputs =>
    refine .inl ⟨⟨_, rfl, EventInput.kind_rows ?_⟩, (Database.SameExports.refl s.database).outcomes⟩
    intro input hinput
    exact hop.kind_ne (hinputs input hinput).1
  | @commit _ _ _ _ _ _ hinputs _ _ hrecord =>
    refine .inl (.of_recorded rfl (EventInput.kind_rows ?_) rfl (hop.method_ne hrecord) ?_)
    · intro input hinput
      exact hop.kind_ne (hinputs input hinput).1
    · rintro other ⟨⟩
      rfl
  | @recordOutcome _ sessionId _ _ _ hrecord | @recordPort _ sessionId _ hrecord =>
    rw [hrecord] at hop
    refine .inl (.of_recorded (append_nil _).symm (forall_mem_nil _) rfl hop ?_)
    intro other hother
    cases sessionId <;> cases hother
    rfl
  | commitCreation =>
    refine .inl (.of_recorded rfl ?_ rfl ?_ ?_)
    · refine forall_mem_singleton.mpr ?_
      show "session_created" ≠ "session_exported"
      decide
    · show "session.create" ≠ "session.export"
      decide
    · rintro other ⟨⟩
  | journalDeletion =>
    refine .inl ⟨⟨_, rfl, ?_⟩, (Database.SameExports.refl s.database).outcomes⟩
    refine forall_mem_singleton.mpr ?_
    show "session_deletion_requested" ≠ "session_exported"
    decide
  | @purge journal => exact .inr (.inl ⟨journal, rfl⟩)
  | @commitExport journal record event keyId key hjournal _ _ _ hmethod hevent hkind hcausation hnew
      =>
      exact .inr (.inr ⟨journal, record, event, keyId, key, hjournal, hmethod, hevent, hkind,
        hcausation, hnew, rfl⟩)
  | _ => exact .inl ⟨(Database.SameExports.refl s.database).events,
      (Database.SameExports.refl s.database).outcomes⟩

/-! ## Journals -/

/-- The name that an export is asked for is not one of a staging file. -/
def Operation.PlainTarget : Operation → Prop
  | .executeExport command _ => command.outputPath.isStaging = false
  | _ => True

instance (op : Operation) : Decidable op.PlainTarget := by
  induction op using Operation.casesOn <;> unfold Operation.PlainTarget <;> infer_instance

/-- The target of a journal. -/
def ExportRow.target (row : ExportRow) : Path := row.payload.plaintext.outputPath

/-- The journal has moved on from `old`. -/
structure ExportRow.Advances (old row : ExportRow) : Prop where
  exportId : row.exportId = old.exportId
  sessionId : row.sessionId = old.sessionId
  requestId : row.requestId = old.requestId
  target : row.target = old.target
  state : row.state ≠ .prepared
  fingerprint : old.state = .prepared ∨ row.fingerprint = old.fingerprint

variable {row : ExportRow}

/-- A row of the table was there, has moved on in its state, or was journaled by a command. -/
theorem mem_exports_change (hchange : Change codec op s s') (hrow : row ∈ s'.database.exports) :
    row ∈ s.database.exports ∨
      (∃ old ∈ s.database.exports, old.Advances row) ∨
      ((∀ other ∈ s.database.exports, other.exportId ≠ row.exportId) ∧
        s.database.command? (.session row.sessionId) row.requestId = none ∧
        s'.database.outcomes = s.database.outcomes ∧
        row.fingerprint = none ∧ ∃ command draw, op = .executeExport command draw ∧
          row.target.name = command.outputPath.name) := by
  cases hchange with
  | @journalExport command draw _ _ _ hop _ _ _ hnew hpath _ hfree =>
      rcases mem_append.mp hrow with hold | hadded
      · exact .inl hold
      rw [mem_singleton.mp hadded]
      refine .inr (.inr ⟨fun other hother =>
        (hfree other hother).1, hnew, rfl, rfl, command, draw,
        hop, ?_⟩)
      obtain ⟨directory, -, rfl⟩ := Option.map_eq_some_iff.mp hpath
      rfl
  | @updateExport exportId _ _ hstate =>
    obtain ⟨old, hold, rfl⟩ := mem_map.mp hrow
    by_cases hid : old.exportId = exportId
    · rw [if_pos hid]
      refine .inr (.inl ⟨old, hold, rfl, rfl, rfl, rfl, ?_, ?_⟩)
      · rcases hstate old hold hid with ⟨rfl, -⟩ | ⟨rfl, -⟩
        · exact nofun
        · exact nofun
      · rcases hstate old hold hid with ⟨-, hprepared⟩ | ⟨-, -, hsame⟩
        · exact .inl hprepared
        · exact .inr hsame.symm
    · rw [if_neg hid]
      exact .inl hold
  | commitExport | dropExport => exact .inl (mem_filter.mp hrow).1
  | append | commit | recordOutcome | recordPort | spend | journalCreation | createKey
  | markCreation
  | commitCreation | destroyOrphan | closeCreation | journalDeletion | destroyKey | purge
  | interfere
  | removeStage | createStage | writeStage | publish => exact .inl hrow

/-- A journal stays until its export is committed, or found to be. -/
theorem exports_change (hchange : Change codec op s s') (hrow : row ∈ s.database.exports) :
    (∃ kept ∈ s'.database.exports, kept.exportId = row.exportId) ∨
      (∃ journal ∈ s.database.exports, journal.exportId = row.exportId ∧
        s'.database.IsExported journal.sessionId journal.requestId) := by
  cases hchange with
  | journalExport => exact .inl ⟨row, mem_append_left _ hrow, rfl⟩
  | updateExport =>
    refine .inl ⟨_, mem_map.mpr ⟨row, hrow, rfl⟩, ?_⟩
    split <;> rfl
  | @commitExport journal record _ _ _ hjournal _ _ _ hmethod hevent _ _ hnew =>
      by_cases hid : row.exportId = journal.exportId
      · refine .inr ⟨journal, hjournal, hid.symm, record, ?_, hmethod⟩
        rw [← hevent] at hnew ⊢
        exact command?_exported hnew
      · exact .inl ⟨row, mem_filter.mpr ⟨hrow, decide_eq_true hid⟩, rfl⟩
  | @dropExport journal existing hjournal hexisting hmethod =>
    by_cases hid : row.exportId = journal.exportId
    · exact .inr ⟨journal, hjournal, hid.symm, existing, hexisting, hmethod⟩
    · exact .inl ⟨row, mem_filter.mpr ⟨hrow, decide_eq_true hid⟩, rfl⟩
  | _ => exact .inl ⟨row, hrow, rfl⟩

/-! ## The invariant -/

/-- What holds at every crash point. -/
structure ExportInvariant (s : Store) : Prop where
  tables : s.database.WellFormed
  scopes : s.database.Scoped
  event : ∀ id requestId, (s.database.exportEvents id requestId).length ≤ 1
  both : ∀ id requestId,
    s.database.exportEvents id requestId ≠ [] ↔ s.database.IsExported id requestId
  pending : ∀ row ∈ s.database.exports, ¬ s.database.IsExported row.sessionId row.requestId
  unstaged : ∀ row ∈ s.database.exports, row.state = .prepared → row.fingerprint = none
  targets : ∀ row ∈ s.database.exports, row.target.isStaging = false

namespace ExportInvariant

theorem new (files : FileSystem) : ExportInvariant (.new files) where
  tables := .empty
  scopes := forall_mem_nil _
  event _ _ := Nat.zero_le _
  both := by
    intro id requestId
    refine ⟨fun hne => absurd rfl hne, ?_⟩
    rintro ⟨record, hfound, -⟩
    cases hfound
  pending := forall_mem_nil _
  unstaged := forall_mem_nil _
  targets := forall_mem_nil _

theorem scopes_change (h : ExportInvariant s) (hop : op.LeavesExports)
    (hchange : Change codec op s s') : s'.database.Scoped := by
  rcases sameExports_or hop hchange with hsame | ⟨journal, rfl⟩ |
    ⟨journal, record, event, keyId, key, -, -, -, -, -, -, rfl⟩
  · obtain ⟨added, houtcomes, -, hadded⟩ := hsame.outcomes
    intro row hrow
    rw [houtcomes] at hrow
    rcases mem_append.mp hrow with hold | hnew
    · exact h.scopes row hold
    · exact hadded row hnew
  · intro row hrow
    exact h.scopes row (mem_filter.mp hrow).1
  · refine forall_mem_append.mpr ⟨h.scopes, forall_mem_singleton.mpr ?_⟩
    rintro id ⟨⟩
    rfl

/-- After a purge, what is left of exports is what other sessions have. -/
theorem isExported_purged (h : ExportInvariant s) (journal : DeletionRow) (id requestId : Uuid) :
    (s.database.purged codec journal).IsExported id requestId ↔
      s.database.IsExported id requestId ∧ id ≠ journal.sessionId := by
  by_cases hid : id = journal.sessionId
  · refine ⟨?_, fun hboth => absurd hid hboth.2⟩
    rintro ⟨record, hfound, -⟩
    obtain ⟨row, hrow, hscope, -⟩ := exists_of_command? hfound
    obtain ⟨hold, hkept⟩ := mem_filter.mp hrow
    exact absurd ((h.scopes row hold id hscope).trans (congrArg some hid)) (of_decide_eq_true hkept)
  · rw [IsExported, command?_purged_of_ne h.scopes hid]
    exact ⟨fun hexported => ⟨hexported, hid⟩, fun hboth => hboth.1⟩

variable (h : ExportInvariant s)
include h

/-- The events of exports after a write, and the outcomes that go with them. -/
theorem once_change (hop : op.LeavesExports)
    (hchange : Change codec op s s') (id requestId : Uuid) :
    (s'.database.exportEvents id requestId).length ≤ 1 ∧
      (s'.database.exportEvents id requestId ≠ [] ↔ s'.database.IsExported id requestId) := by
  rcases sameExports_or hop hchange with hsame | ⟨journal, rfl⟩ |
    ⟨journal, record, event, keyId, key, -, hmethod, hevent, hkind, hcausation, hnew, rfl⟩
  · obtain ⟨rows, hevents, hrows⟩ := hsame.events
    obtain ⟨added, houtcomes, hadded, -⟩ := hsame.outcomes
    rw [exportEvents_append hevents hrows, isExported_append houtcomes hadded]
    exact ⟨h.event id requestId, h.both id requestId⟩
  · rw [exportEvents, eventsOf_purged, h.isExported_purged, ← h.both]
    split
    · next hid => exact ⟨Nat.zero_le _, fun hne => absurd rfl hne, fun hboth => absurd hid hboth.2⟩
    · next hid =>
      exact ⟨h.event id requestId, fun hexported => ⟨hexported, hid⟩, fun hboth => hboth.1⟩
  · rw [← hevent] at hnew
    rw [exportEvents_exported _ _ _ _ _ hkind hcausation]
    by_cases hthis : id = event.sessionId ∧ requestId = journal.requestId
    · obtain ⟨rfl, rfl⟩ := hthis
      -- the request had no outcome and so no event
      have hnone : s.database.exportEvents event.sessionId journal.requestId = [] := by
        by_contra hne
        obtain ⟨existing, hexisting, -⟩ := (h.both _ _).mp hne
        rw [hnew] at hexisting
        cases hexisting
      rw [if_pos ⟨rfl, rfl⟩, hnone]
      refine ⟨Nat.le_refl 1, fun _ => ?_, fun _ => cons_ne_nil _ _⟩
      exact ⟨record, command?_exported hnew, hmethod⟩
    · rw [if_neg hthis, append_nil, IsExported, command?_exported_of_ne hthis]
      exact ⟨h.event id requestId, h.both id requestId⟩

variable {first second : ExportRow}

/-- Two journals with one identifier or one request are the same. -/
theorem eq_of_exportId (hfirst : first ∈ s.database.exports)
    (hsecond : second ∈ s.database.exports) (hid : first.exportId = second.exportId) :
    first = second :=
  inj_on_of_nodup_map h.tables.exportIds hfirst hsecond hid

/-- A journal that is still there has no outcome. -/
theorem pending_of_mem (hop : op.LeavesExports)
    (hchange : Change codec op s s') {row kept : ExportRow} (hrow : row ∈ s.database.exports)
    (hkept : kept ∈ s'.database.exports) (hid : kept.exportId = row.exportId) :
    ¬ s'.database.IsExported row.sessionId row.requestId := by
  rcases sameExports_or hop hchange with hsame | ⟨journal, rfl⟩ |
    ⟨journal, record, event, keyId, key, hjournal, hmethod, hevent, hkind, hcausation, hnew, rfl⟩
  · obtain ⟨added, houtcomes, hadded, -⟩ := hsame.outcomes
    rw [isExported_append houtcomes hadded]
    exact h.pending row hrow
  · rw [h.isExported_purged]
    exact fun hboth => h.pending row hrow hboth.1
  have hne : ¬ (row.sessionId = event.sessionId ∧ row.requestId = journal.requestId) := by
    rintro ⟨hsession, hrequest⟩
    have hequal := inj_on_of_nodup_map h.tables.exportRequests hrow hjournal
      (Prod.ext (hsession.trans hevent) hrequest)
    exact of_decide_eq_true (mem_filter.mp hkept).2 (hid.trans (congrArg _ hequal))
  rw [IsExported, command?_exported_of_ne hne]
  exact h.pending row hrow

theorem change (hop : op.LeavesExports) (htarget : op.PlainTarget)
    (hchange : Change codec op s s') : ExportInvariant s' where
  tables := h.tables.change hchange
  scopes := h.scopes_change hop hchange
  event id requestId := (h.once_change hop hchange id requestId).1
  both id requestId := (h.once_change hop hchange id requestId).2
  pending := by
    intro row hrow
    rcases mem_exports_change hchange hrow with hold | ⟨old, hold, hadvances⟩ |
      ⟨-, hnew, houtcomes, -⟩
    · exact h.pending_of_mem hop hchange hold hrow rfl
    · rw [hadvances.sessionId, hadvances.requestId]
      exact h.pending_of_mem hop hchange hold hrow hadvances.exportId
    rintro ⟨record, hfound, -⟩
    rw [command?, houtcomes] at hfound
    rw [command?] at hnew
    rw [hnew] at hfound
    cases hfound
  unstaged := by
    intro row hrow hprepared
    rcases mem_exports_change hchange hrow with hold | ⟨old, hold, hadvances⟩ | ⟨-, -, -, hnone, -⟩
    · exact h.unstaged row hold hprepared
    · exact absurd hprepared hadvances.state
    · exact hnone
  targets := by
    intro row hrow
    rcases mem_exports_change hchange hrow with hold | ⟨old, hold, hadvances⟩ |
      ⟨-, -, -, -, command, draw, rfl, hname⟩
    · exact h.targets row hold
    · rw [hadvances.target]
      exact h.targets old hold
    · change command.outputPath.isStaging = false at htarget
      unfold Path.isStaging at htarget ⊢
      rw [hname]
      exact htarget

end ExportInvariant

/-! ## Files -/

namespace FileSystem

/-- Whatever is at a name that is not one of a staging file stays there as it is. -/
def KeepsTargets (fs fs' : FileSystem) : Prop :=
  ∀ path, path.isStaging = false → ∀ id, fs.idAt path = some id →
    fs'.idAt path = some id ∧ fs'.files id = fs.files id

theorem KeepsTargets.refl (fs : FileSystem) : fs.KeepsTargets fs := fun _ _ _ hid => ⟨hid, rfl⟩

variable {path : Path} {fs : FileSystem} {id : FileId}

theorem keepsTargets_unlink (fs : FileSystem) (hpath : path.isStaging) :
    fs.KeepsTargets (fs.unlink path) := by
  intro other hother id hid
  have hne : other ≠ path := by
    rintro rfl
    rw [hpath] at hother
    cases hother
  refine ⟨?_, rfl⟩
  rw [idAt_unlink, if_neg hne]
  exact hid

theorem keepsTargets_create (file : File) (hfree : fs.idAt path = none)
    (hid : fs.isLinked id = false) : fs.KeepsTargets ((fs.write id file).link path id) := by
  intro other _ otherId hother
  have hne : other ≠ path := by
    rintro rfl
    rw [hfree] at hother
    cases hother
  have hfile : otherId ≠ id := by
    rintro rfl
    rw [isLinked_of_idAt hother] at hid
    cases hid
  refine ⟨?_, files_write_of_ne fs file hfile⟩
  rw [idAt_link, if_neg hne]
  exact hother

theorem keepsTargets_write (file : File) (hstage : fs.IsStage path id) :
    fs.KeepsTargets (fs.write id file) := by
  intro other hother otherId hid
  refine ⟨hid, files_write_of_ne fs file ?_⟩
  rintro rfl
  -- the staging name is the only one of the file
  rw [hstage.only other hid, hstage.isStaging] at hother
  cases hother

theorem keepsTargets_link (id : FileId) (hfree : fs.idAt path = none) :
    fs.KeepsTargets (fs.link path id) := by
  intro other _ otherId hid
  refine ⟨?_, rfl⟩
  rw [idAt_link, if_neg]
  · exact hid
  · rintro rfl
    rw [hfree] at hid
    cases hid

end FileSystem

/-- A file that comes to a target is the staged bundle that the journal has recorded. -/
def PublishesStaged (codec : Codec) (s s' : Store) : Prop :=
  ∀ path, path.isStaging = false → s.files.idAt path = none →
    (s'.files.idAt path).isSome →
      ∃ row ∈ s.database.exports, row.target = path ∧ row.state = .staged ∧
        row.fingerprint.isSome ∧
        s'.files.fingerprint codec.blake3 path = row.fingerprint

/-- Others act, or a write keeps what is at the targets and adds staged bundles only. -/
theorem files_change (hchange : Change codec op s s') :
    s' = { s with files := s.files.interfere } ∨
      (s.files.KeepsTargets s'.files ∧ PublishesStaged codec s s') := by
  -- a write that brings nothing to a target
  have hquiet : ∀ t, (∀ path, path.isStaging = false → s.files.idAt path = none →
      t.files.idAt path = none) → PublishesStaged codec s t := by
    intro t hnone path hpath hfree hsome
    rw [hnone path hpath hfree] at hsome
    cases hsome
  cases hchange with
  | interfere => exact .inl rfl
  | @removeStage path hpath =>
    refine .inr ⟨s.files.keepsTargets_unlink hpath, hquiet _ ?_⟩
    intro other _ hfree
    rw [FileSystem.idAt_unlink, hfree, ite_self]
  | @createStage path id hpath hfree hid =>
    refine .inr ⟨FileSystem.keepsTargets_create _ hfree hid, hquiet _ ?_⟩
    intro other hother hnone
    rw [FileSystem.idAt_link, if_neg]
    · exact hnone
    · rintro rfl
      rw [hpath] at hother
      cases hother
  | writeStage hstage =>
    exact .inr ⟨FileSystem.keepsTargets_write _ hstage, hquiet _ fun _ _ hnone => hnone⟩
  | @publish journal _ id hjournal hstate hrecorded hstage hfingerprint hfree =>
    refine .inr ⟨FileSystem.keepsTargets_link id hfree, ?_⟩
    intro path hpath hnone hsome
    by_cases htarget : path = journal.target
    · subst htarget
      refine ⟨journal, hjournal, rfl, hstate, Option.isSome_of_eq_some hrecorded, ?_⟩
      have hlinked : (s.files.link journal.target id).idAt journal.target = some id := by
        rw [FileSystem.idAt_link, if_pos rfl]
      rw [hrecorded, ← hfingerprint]
      change (s.files.link journal.target id).fingerprint codec.blake3 journal.target = _
      rw [FileSystem.fingerprint, FileSystem.fingerprint, hlinked, hstage]
      rfl
    · change ((s.files.link journal.target id).idAt path).isSome = true at hsome
      rw [FileSystem.idAt_link, if_neg htarget, hnone] at hsome
      cases hsome
  | _ => exact .inr ⟨.refl s.files, hquiet _ fun _ _ hnone => hnone⟩

/-! ## Runs -/

/-- The conditions on a write of the storage. -/
structure ExportsSafely (codec : Codec) (s s' : Store) : Prop where
  /-- What is at a target is neither overwritten nor removed. -/
  kept : s.files.KeepsTargets s'.files
  /-- What comes to a target is what was staged for it. -/
  published : PublishesStaged codec s s'
  /-- The fingerprint recorded at staging does not change. -/
  fixed : ∀ row ∈ s.database.exports, row.fingerprint.isSome →
    ∀ kept ∈ s'.database.exports, kept.exportId = row.exportId → kept.fingerprint = row.fingerprint
  /-- A journal ends exactly when the outcome of its command is recorded. -/
  ended : ∀ row ∈ s.database.exports, (∀ kept ∈ s'.database.exports, kept.exportId ≠ row.exportId) ↔
    (¬ s.database.IsExported row.sessionId row.requestId ∧
      s'.database.IsExported row.sessionId row.requestId)

/-- The conditions on a state. -/
structure ExportSafe (s : Store) : Prop where
  once : s.database.ExportedOnce
  targets : ∀ row ∈ s.database.exports, row.target.isStaging = false

theorem ExportInvariant.safe {s : Store} (h : ExportInvariant s) : ExportSafe s where
  once := by
    refine ⟨?_, h.event, h.both⟩
    intro id requestId
    refine length_filter_le_one h.tables.outcomes (k := (Scope.session id, requestId)) ?_
    intro row _ hmatch
    obtain ⟨hscope, hrequest⟩ := of_decide_eq_true hmatch
    exact Prod.ext hscope hrequest
  targets := h.targets

theorem ExportInvariant.exportsSafely_refl {s : Store} (h : ExportInvariant s) (codec : Codec) :
    ExportsSafely codec s s where
  kept := .refl s.files
  published := by
    intro path _ hnone hsome
    rw [hnone] at hsome
    cases hsome
  fixed := by
    intro row hrow _ kept hkept hid
    rw [h.eq_of_exportId hkept hrow hid]
  ended := by
    intro row hrow
    exact ⟨fun hgone => absurd rfl (hgone row hrow), fun hboth => absurd hboth.2 hboth.1⟩

theorem ExportInvariant.exportsSafely
    (h : ExportInvariant s) (hop : op.LeavesExports) (hchange : Change codec op s s')
    (hkept : s.files.KeepsTargets s'.files) (hpublished : PublishesStaged codec s s') :
    ExportsSafely codec s s' where
  kept := hkept
  published := hpublished
  fixed := by
    intro row hrow hsome kept hkept hid
    rcases mem_exports_change hchange hkept with hold | ⟨old, hold, hadvances⟩ | ⟨hfresh, -⟩
    · rw [h.eq_of_exportId hold hrow hid]
    · obtain rfl := h.eq_of_exportId hold hrow (hadvances.exportId.symm.trans hid)
      rcases hadvances.fingerprint with hprepared | hfingerprint
      · rw [h.unstaged old hold hprepared] at hsome
        cases hsome
      · exact hfingerprint
    · exact absurd hid.symm (hfresh row hrow)
  ended := by
    intro row hrow
    refine ⟨?_, ?_⟩
    · intro hgone
      refine ⟨h.pending row hrow, ?_⟩
      rcases exports_change hchange
        hrow with ⟨kept, hkept, hid⟩ | ⟨journal, hjournal, hid, hexported⟩
      · exact absurd hid (hgone kept hkept)
      · rw [← h.eq_of_exportId hjournal hrow hid]
        exact hexported
    · rintro ⟨-, hexported⟩ kept hkept hid
      exact h.pending_of_mem hop hchange hrow hkept hid hexported

/-- No operation records like an export, and no export is asked for under a staging name. -/
def PlainTargets (_ : Store) (action : Action) : Prop :=
  action.operation.LeavesExports ∧ action.operation.PlainTarget

/-- Exports happen once: at every crash point of every run with plain targets, a request has at most
one event and one outcome, and every write of the storage keeps what is at the targets, adds staged
bundles only and ends a journal exactly with its outcome. -/
theorem exports_happen_once (codec : Codec) (exporter : Exporter) (files : FileSystem) {s : Store}
    (hreach : Reaches (step codec exporter) PlainTargets (.new files) s) :
    ExportSafe s ∧ ∀ action, PlainTargets s action → ∀ write ∈ action.writes codec exporter s,
      ExportSafe write.1 ∧ ExportSafe write.2 ∧
        (write.2 = { write.1 with files := write.1.files.interfere } ∨
          ExportsSafely codec write.1 write.2) := by
  obtain ⟨hinvariant, hwrites⟩ := changes_invariant
    (I := fun op t => ExportInvariant t ∧ op.LeavesExports ∧ op.PlainTarget)
    (fun _ _ h hallowed => ⟨h, hallowed⟩)
    (fun _ _ _ h hchange => ⟨h.1.change h.2.1 h.2.2 hchange, h.2⟩) (fun _ _ h => h.1) (.new files)
    hreach
  refine ⟨hinvariant.safe, ?_⟩
  intro action hallowed write hwrite
  obtain ⟨hbefore, hafter, hchange⟩ := hwrites action hallowed write hwrite
  refine ⟨hbefore.safe, hafter.safe, ?_⟩
  rcases hchange with hsame | hchange
  · rw [hsame]
    exact .inr (hbefore.exportsSafely_refl codec)
  · refine (files_change hchange).imp (fun hothers => hothers) ?_
    rintro ⟨hkept, hpublished⟩
    exact hbefore.exportsSafely hallowed.1 hchange hkept hpublished

/-- An export of session 1, to a file in one directory. -/
def plainExport (requestId exportId : Uuid) (name : String) : ExportCommand where
  sessionId := 1
  requestId := requestId
  exportId := exportId
  occurredAt := 0
  parameters := exportParameters ["recipient"] ⟨"exports", name⟩
  outputPath := ⟨"exports", name⟩
  ageRecipients := ["recipient"]
  outcome := .object []
  eventPayload := .object []

instance (s : Store) (action : Action) : Decidable (PlainTargets s action) :=
  inferInstanceAs (Decidable (_ ∧ _))

/-- An export that is cut off after its journal has been written is completed by recovery. -/
theorem interrupted_export_resumed : ∃ s,
    s.database.exportEvents 1 10 ≠ [] ∧ s.database.exports = [] ∧ ExportSafe s := by
  have hrun : ∃ s, Reaches (step plainCodec plainExporter) PlainTargets (.new emptyFiles) s ∧
      (s.database.exportEvents 1 10 ≠ [] ∧ s.database.exports = []) :=
    exists_reaches_of_execute
      [⟨.createSession (plainCreation 1 2) 3 4, []⟩,
        ⟨.executeExport (plainExport 10 11 "bundle.age") ⟨12, ⟨0, 1⟩, 0⟩,
          replicate 10 false ++ replicate 20 true⟩,
        ⟨.resumeExports (fun _ => ⟨13, ⟨0, 2⟩, 0⟩), []⟩]
      ⟨_, rfl, by decide +kernel⟩
  obtain ⟨s, hreach, hevents, hexports⟩ := hrun
  exact ⟨s, hevents, hexports, (exports_happen_once plainCodec plainExporter emptyFiles hreach).1⟩

/-- No operation passes its records off as those of an export. -/
def LeavesExports (_ : Store) (action : Action) : Prop := action.operation.LeavesExports

instance (s : Store) (action : Action) : Decidable (LeavesExports s action) :=
  inferInstanceAs (Decidable action.operation.LeavesExports)

/-- A private file of the daemon's user stands where the export 11 stages its bundle. -/
def occupiedFiles : FileSystem where
  canonicalDirectory := some
  entries := [(⟨"exports", stagingName 11⟩, ⟨0, 7⟩)]
  files := fun _ => ⟨"kept", true, true, true⟩
  intrusions := []

/-- Targets with the name of a staging file are not safe: a file that is there already, so that an
export to it is refused, is removed as the partial bundle of another; and the file of a recorded
export is removed when one that was cut off before is resumed. -/
theorem target_file_removed :
    (∃ s, Reaches (step plainCodec plainExporter) LeavesExports (.new occupiedFiles) s ∧
      s.files.idAt (plainExport 20 21 (stagingName 11)).outputPath = some ⟨0, 7⟩ ∧
      ((executeExport plainCodec plainExporter (plainExport 20 21 (stagingName 11))
        ⟨22, ⟨0, 2⟩, 0⟩).run [] s).1 = .error .unsafeExportPath ∧
      ∃ after, step plainCodec plainExporter s
          ⟨.executeExport (plainExport 10 11 "bundle.age") ⟨12, ⟨0, 1⟩, 0⟩, []⟩ = some after ∧
        after.files.idAt (plainExport 20 21 (stagingName 11)).outputPath = none) ∧
    ∃ s, Reaches (step plainCodec plainExporter) LeavesExports (.new emptyFiles) s ∧
      s.database.exportEvents 1 20 ≠ [] ∧
      s.files.idAt (plainExport 20 21 (stagingName 11)).outputPath = some ⟨0, 2⟩ ∧
      ∃ resumed, step plainCodec plainExporter s
          ⟨.resumeExports fun _ => ⟨12, ⟨0, 1⟩, 0⟩, []⟩ = some resumed ∧
        resumed.files.idAt (plainExport 20 21 (stagingName 11)).outputPath = none := by
  refine ⟨?_, ?_⟩
  · exact exists_reaches_of_execute [⟨.createSession (plainCreation 1 2) 3 4, []⟩]
      ⟨_, rfl, by decide +kernel, rfl, _, rfl, by decide +kernel⟩
  exact exists_reaches_of_execute
    [⟨.createSession (plainCreation 1 2) 3 4, []⟩,
      ⟨.executeExport (plainExport 10 11 "bundle.age") ⟨12, ⟨0, 1⟩, 0⟩,
        replicate 10 false ++ replicate 20 true⟩,
      ⟨.executeExport (plainExport 20 21 (stagingName 11)) ⟨22, ⟨0, 2⟩, 0⟩, []⟩]
    ⟨_, rfl, by decide +kernel, by decide +kernel, _, rfl, by decide +kernel⟩

end Workbench.Sqlite
