import Workbench.Sqlite.System

/-!
# Sqlite: what the transactions do

For each transaction the database that it makes, and a lemma that a transaction which
succeeds has made it, with what it checked before.  Everything later reasons about these
databases and not about the statements.
-/

namespace Workbench.Sqlite

open Workbench.Core Library Storage List

/-! ## Rows of appended events -/

/-- The rows of a batch that comes after `last`. -/
def EventInput.rows (keyId : KeyId) (key : SecretKey) : Nat → List EventInput → List EventRow
  | _, [] => []
  | last, input :: rest =>
    input.row (last + 1) keyId key :: EventInput.rows keyId key (last + 1) rest

/-- What a batch reports. -/
def EventInput.persistedFrom : Nat → List EventInput → List PersistedEvent
  | _, [] => []
  | last, input :: rest => input.persisted (last + 1) :: EventInput.persistedFrom (last + 1) rest

theorem EventInput.length_persistedFrom (last : Nat) (inputs : List EventInput) :
    (EventInput.persistedFrom last inputs).length = inputs.length := by
  induction inputs generalizing last with
  | nil => rfl
  | cons input rest ih => rw [EventInput.persistedFrom, length_cons, ih, length_cons]

theorem EventInput.sequences_rows (keyId : KeyId) (key : SecretKey) (last : Nat)
    (inputs : List EventInput) :
    (EventInput.rows keyId key last inputs).map (·.sequence)
      = range' (last + 1) inputs.length := by
  induction inputs generalizing last with
  | nil => rfl
  | cons input rest ih =>
    rw [EventInput.rows, map_cons, ih, length_cons, range'_succ]
    rfl

theorem EventInput.length_rows (keyId : KeyId) (key : SecretKey) (last : Nat)
    (inputs : List EventInput) :
    (EventInput.rows keyId key last inputs).length = inputs.length := by
  have hlength := congrArg length (EventInput.sequences_rows keyId key last inputs)
  rwa [length_map, length_range'] at hlength

theorem EventInput.mem_rows {keyId : KeyId} {key : SecretKey} {last : Nat}
    {inputs : List EventInput} {row : EventRow} (h : row ∈ EventInput.rows keyId key last inputs) :
    ∃ input ∈ inputs, ∃ sequence, row = input.row sequence keyId key := by
  induction inputs generalizing last with
  | nil => cases h
  | cons input rest ih =>
    rcases mem_cons.mp h with rfl | hrest
    · exact ⟨input, mem_cons_self, last + 1, rfl⟩
    · obtain ⟨other, hother, sequence, heq⟩ := ih hrest
      exact ⟨other, mem_cons_of_mem _ hother, sequence, heq⟩

/-- The column of a session after a batch. -/
def EventInput.columns (inputs : List EventInput) (row : SessionRow) : SessionRow :=
  inputs.foldl (fun row input => input.column row) row

theorem EventInput.sessionId_columns (inputs : List EventInput) (row : SessionRow) :
    (EventInput.columns inputs row).sessionId = row.sessionId := by
  induction inputs generalizing row with
  | nil => rfl
  | cons input rest ih =>
    refine (ih (input.column row)).trans ?_
    unfold EventInput.column
    split
    · rfl
    · split <;> rfl

def CommandRow.ofSession (id requestId : Uuid) (record : StoredCommandRecord) : CommandRow :=
  ⟨.session id, requestId, some id, record⟩

namespace Database

/-! ## Queries after a change -/

variable (db : Database)

/-- The session has a row. -/
def HasSession (id : Uuid) : Prop := (db.session? id).isSome

instance (id : Uuid) : Decidable (db.HasSession id) :=
  inferInstanceAs (Decidable ((db.session? id).isSome))

theorem hasSession_iff (id : Uuid) : db.HasSession id ↔ id ∈ db.sessions.map (·.sessionId) := by
  rw [HasSession, session?, find?_isSome, mem_map]
  simp only [decide_eq_true_eq]

variable {id : Uuid} {journal : DeletionRow} {db' : Database} {inputs : List EventInput}
  {keyId : KeyId} {key : SecretKey} {codec : Codec}

theorem HasSession.of_session? {db : Database} {row : SessionRow} (h : db.session? id = some row) :
    db.HasSession id := by
  rw [HasSession, h]
  rfl

theorem sessionId_of_deletion? {db : Database} (h : db.deletion? id = some journal) :
    journal.sessionId = id := by
  have hjournal := find?_some h
  exact of_decide_eq_true hjournal

theorem sessionId_of_tombstone? {db : Database} {tombstone : TombstoneRow}
    (h : db.tombstone? id = some tombstone) : tombstone.sessionId = id := by
  have htombstone := find?_some h
  exact of_decide_eq_true htombstone

@[simp] theorem hasSession_updateSession (id other : Uuid) (change : SessionRow → SessionRow)
    (hchange : ∀ row, (change row).sessionId = row.sessionId) :
    (db.updateSession id change).HasSession other ↔ db.HasSession other := by
  rw [hasSession_iff, hasSession_iff, updateSession, map_map]
  refine iff_of_eq (congrArg (other ∈ ·) (map_congr_left fun row _ => ?_))
  show (if row.sessionId = id then change row else row).sessionId = row.sessionId
  split
  · exact hchange row
  · rfl

theorem foldr_max_append (first second : List Nat) :
    (first ++ second).foldr max 0 = max (first.foldr max 0) (second.foldr max 0) := by
  induction first with
  | nil => simp
  | cons n rest ih => rw [cons_append, foldr_cons, foldr_cons, ih, Nat.max_assoc]

/-! ## Appending -/

/-- The database after a batch has been appended to a session. -/
def appended (id : Uuid) (keyId : KeyId) (key : SecretKey) (inputs : List EventInput) : Database :=
  { db.updateSession id (EventInput.columns inputs) with
    events := db.events ++ EventInput.rows keyId key (db.lastSequence id) inputs }

theorem updateSession_updateSession (id : Uuid) (first second : SessionRow → SessionRow)
    (hfirst : ∀ row, (first row).sessionId = row.sessionId) :
    (db.updateSession id first).updateSession id second
      = db.updateSession id fun row => second (first row) := by
  rw [updateSession, updateSession, updateSession, map_map]
  have hmap : ∀ row ∈ db.sessions,
      ((fun row => if row.sessionId = id then second row else row) ∘
          fun row => if row.sessionId = id then first row else row) row
        = if row.sessionId = id then second (first row) else row := by
    intro row _
    rw [Function.comp_apply]
    by_cases hrow : row.sessionId = id
    · rw [if_pos hrow, if_pos hrow, if_pos ((hfirst row).trans hrow)]
    · rw [if_neg hrow, if_neg hrow, if_neg hrow]
  rw [map_congr_left hmap]

@[simp] theorem hasSession_appended (id other : Uuid) (keyId : KeyId) (key : SecretKey)
    (inputs : List EventInput) :
    (db.appended id keyId key inputs).HasSession other ↔ db.HasSession other := by
  exact hasSession_updateSession db id other _ (EventInput.sessionId_columns inputs)

section

variable (keyId : KeyId) (key : SecretKey) (hinputs : ∀ input ∈ inputs, input.sessionId = id)
include hinputs

theorem eventsOf_appended_self :
    (db.appended id keyId key inputs).eventsOf id
      = db.eventsOf id ++ EventInput.rows keyId key (db.lastSequence id) inputs := by
  show (db.events ++ _).filter _ = _
  rw [filter_append]
  congr 1
  refine filter_eq_self.mpr fun row hrow => ?_
  obtain ⟨input, hinput, sequence, rfl⟩ := EventInput.mem_rows hrow
  exact decide_eq_true (hinputs input hinput)

theorem eventsOf_appended_of_ne {other : Uuid} (hne : other ≠ id) :
    (db.appended id keyId key inputs).eventsOf other = db.eventsOf other := by
  show (db.events ++ _).filter _ = _
  rw [filter_append]
  have hnone : (EventInput.rows keyId key (db.lastSequence id) inputs).filter
      (·.sessionId = other) = [] := by
    refine filter_eq_nil_iff.mpr fun row hrow => ?_
    obtain ⟨input, hinput, sequence, rfl⟩ := EventInput.mem_rows hrow
    rw [decide_eq_true_eq]
    intro hsame
    exact hne (hsame.symm.trans (hinputs input hinput))
  rw [hnone, append_nil, eventsOf]

theorem lastSequence_appended :
    (db.appended id keyId key inputs).lastSequence id
      = db.lastSequence id + inputs.length := by
  rw [lastSequence, eventsOf_appended_self db keyId key hinputs, map_append,
    EventInput.sequences_rows, foldr_max_append]
  show max (db.lastSequence id) _ = _
  generalize db.lastSequence id = last
  clear hinputs
  induction inputs generalizing last with
  | nil => simp
  | cons input rest ih =>
    rw [length_cons, range'_succ, foldr_cons]
    have hrest := ih (last + 1)
    omega

end

theorem appended_appended (keyId : KeyId) (key : SecretKey) (input : EventInput)
    (rest : List EventInput) (hinput : input.sessionId = id) :
    (db.appended id keyId key [input]).appended id keyId key rest
      = db.appended id keyId key (input :: rest) := by
  have hlast : (db.appended id keyId key [input]).lastSequence id = db.lastSequence id + 1 :=
    lastSequence_appended db keyId key (by simpa using hinput)
  have hsessions := updateSession_updateSession db id (EventInput.columns [input])
    (EventInput.columns rest) (EventInput.sessionId_columns [input])
  have hrows := congrArg Database.sessions hsessions
  rw [appended, hlast]
  congr 1
  exact append_assoc _ _ _

theorem appendEvent_eq {db : Database} {input : EventInput} {event : PersistedEvent}
    (h : db.appendEvent input keyId key = .ok (event, db')) :
    db.HasSession input.sessionId ∧
      event = input.persisted (db.lastSequence input.sessionId + 1) ∧
      db' = db.appended input.sessionId keyId key [input] := by
  obtain ⟨sequence, hsequence, h⟩ := bind_eq_ok h
  obtain ⟨-, ⟨⟩⟩ := ok_of_check hsequence
  obtain ⟨middle, hinsert, ⟨⟩⟩ := bind_eq_ok h
  obtain ⟨hguard, ⟨⟩⟩ := ok_of_check hinsert
  exact ⟨hguard.2.2.1, rfl, rfl⟩

theorem appendEvents_eq {db : Database} (hinputs : ∀ input ∈ inputs, input.sessionId = id)
    {events : List PersistedEvent} (h : db.appendEvents keyId key inputs = .ok (events, db')) :
    (inputs ≠ [] → db.HasSession id) ∧
      events = EventInput.persistedFrom (db.lastSequence id) inputs ∧
      db' = db.appended id keyId key inputs := by
  induction inputs generalizing db events with
  | nil =>
    cases h
    refine ⟨fun hne => absurd rfl hne, rfl, ?_⟩
    show _ = Database.mk _ _ _ _ _ _ _
    simp [updateSession, EventInput.rows, EventInput.columns]
  | cons input rest ih =>
    obtain ⟨hinput, hrest⟩ := forall_mem_cons.mp hinputs
    obtain ⟨pair, hfirst, h⟩ := bind_eq_ok h
    obtain ⟨hsession, hevent, hdb⟩ := appendEvent_eq hfirst
    rw [hinput] at hsession hevent hdb
    obtain ⟨final, hnext, ⟨⟩⟩ := bind_eq_ok h
    obtain ⟨-, hevents, hfinal⟩ := ih hrest hnext
    refine ⟨fun _ => hsession, ?_, ?_⟩
    · have hlast : pair.2.lastSequence id = db.lastSequence id + 1 := by
        rw [hdb]
        exact lastSequence_appended db keyId key (by simpa using hinput)
      rw [EventInput.persistedFrom, hevent, hevents, hlast]
    · rw [hfinal, hdb]
      exact appended_appended db keyId key input rest hinput

/-! ## Outcomes -/

/-- The database after an outcome has been recorded. -/
def recorded (row : CommandRow) : Database := { db with outcomes := db.outcomes ++ [row] }

@[simp] theorem hasSession_recorded (row : CommandRow) :
    (db.recorded row).HasSession id ↔ db.HasSession id :=
  Iff.rfl

variable {db : Database}

theorem insertOutcome_eq {row : CommandRow} (h : db.insertOutcome row = .ok db') :
    db.command? row.scope row.requestId = none ∧ db' = db.recorded row := by
  obtain ⟨hnone, h⟩ := ok_of_guard h
  cases h
  exact ⟨Option.not_isSome_iff_eq_none.mp hnone, rfl⟩

/-! ## Creation -/

/-- The database after a creation has been committed. -/
def created (codec : Codec) (input : CreateSession) (eventId : Uuid) (key : SecretKey) : Database :=
  { db with
    sessions := db.sessions ++ [input.sessionRow key]
    events := db.events ++ [(input.createdEvent eventId).row 1 (.session input.sessionId) key]
    outcomes := db.outcomes ++ [⟨.daemon, input.requestId, some input.sessionId,
      ⟨"session.create", codec.canonicalHash input.requestParameters,
        codec.print input.commandOutcome⟩⟩]
    creations := db.creations.filter fun row =>
      ¬ (row.sessionId = input.sessionId ∧ row.requestId = input.requestId ∧
        row.keyId = .session input.sessionId ∧ row.state = .keyCreated) }

variable {selected : CreationRow → Bool} {input : CreateSession} {eventId : Uuid}
  {event : EventInput}

theorem changeCreation_none_eq (h : db.changeCreation selected (fun _ => none) = .ok db') :
    (db.creations.filter selected).length = 1 ∧
      db' = { db with creations := db.creations.filter fun row => !selected row } := by
  obtain ⟨hcount, h⟩ := ok_of_check h
  cases h
  refine ⟨hcount, ?_⟩
  have hfilter : ∀ rows : List CreationRow,
      rows.filterMap (fun row => if selected row = true then none else some row)
        = rows.filter fun row => !selected row := by
    intro rows
    induction rows with
    | nil => rfl
    | cons row rest ih => by_cases hrow : selected row = true <;> simp [hrow, ih]
  rw [hfilter]

theorem changeCreation_some_eq {change : CreationRow → CreationRow}
    (h : db.changeCreation selected (fun row => some (change row)) = .ok db') :
    (∃ row ∈ db.creations, selected row) ∧
      db' = { db with
        creations := db.creations.map fun row => if selected row then change row else row } := by
  obtain ⟨hcount, h⟩ := ok_of_check h
  cases h
  have hne : db.creations.filter selected ≠ [] := by
    intro hnil
    rw [hnil] at hcount
    cases hcount
  obtain ⟨row, hrow⟩ := exists_mem_of_ne_nil _ hne
  refine ⟨⟨row, (mem_filter.mp hrow).1, (mem_filter.mp hrow).2⟩, ?_⟩
  have hmap : ∀ rows : List CreationRow,
      rows.filterMap (fun row => if selected row = true then some (change row) else some row)
        = rows.map fun row => if selected row then change row else row := by
    intro rows
    induction rows with
    | nil => rfl
    | cons row rest ih => by_cases hrow : selected row = true <;> simp [hrow, ih]
  rw [hmap]

theorem insertCreation_eq {row : CreationRow} (h : db.insertCreation row = .ok db') :
    (∀ other ∈ db.creations,
        other.sessionId ≠ row.sessionId ∧ other.requestId ≠ row.requestId) ∧
      db' = { db with creations := db.creations ++ [row] } := by
  obtain ⟨hfree, h⟩ := ok_of_guard h
  cases h
  refine ⟨?_, rfl⟩
  intro other hother
  rw [any_eq_true] at hfree
  refine ⟨?_, ?_⟩
  · intro hid
    exact hfree ⟨other, hother, decide_eq_true (.inl hid)⟩
  · intro hid
    exact hfree ⟨other, hother, decide_eq_true (.inr (.inl hid))⟩

theorem commitCreation_eq
    (h : db.commitCreation codec input (codec.canonicalHash input.requestParameters) eventId key
      = .ok db') :
    ¬ db.HasSession input.sessionId ∧ db.command? .daemon input.requestId = none ∧
      db' = db.created codec input eventId key := by
  obtain ⟨first, hsession, h⟩ := bind_eq_ok h
  obtain ⟨hfree, ⟨⟩⟩ := ok_of_guard hsession
  obtain ⟨second, hevent, h⟩ := bind_eq_ok h
  obtain ⟨-, ⟨⟩⟩ := ok_of_check hevent
  obtain ⟨third, houtcome, h⟩ := bind_eq_ok h
  obtain ⟨hnew, rfl⟩ := insertOutcome_eq houtcome
  obtain ⟨-, rfl⟩ := changeCreation_none_eq h
  refine ⟨?_, hnew, ?_⟩
  · rw [hasSession_iff]
    intro hmem
    obtain ⟨row, hrow, hid⟩ := mem_map.mp hmem
    exact hfree (any_eq_true.mpr ⟨row, hrow, decide_eq_true (.inl hid)⟩)
  · simp only [created, recorded, decide_not]

theorem hasSession_created : (db.created codec input eventId key).HasSession id ↔
      db.HasSession id ∨ id = input.sessionId := by
  rw [hasSession_iff, hasSession_iff]
  show id ∈ (db.sessions ++ [_]).map _ ↔ _
  rw [map_append, mem_append, map_singleton, mem_singleton]
  rfl

/-! ## Deletion -/

/-- The database after a deletion has been journaled. -/
def deleting (journal : DeletionRow) (event : EventInput) (keyId : KeyId) (key : SecretKey) :
    Database :=
  { db.updateSession journal.sessionId fun row => { row with state := .deleting } with
    events := db.events ++ [event.row (db.lastSequence journal.sessionId + 1) keyId key]
    deletions := db.deletions ++ [journal] }

@[simp] theorem hasSession_deleting :
    (db.deleting journal event keyId key).HasSession id ↔ db.HasSession id :=
  hasSession_updateSession db journal.sessionId id _ fun _ => rfl

theorem journalDeletion_eq (h : db.journalDeletion journal event keyId key = .ok db') :
    (∀ other ∈ db.deletions, other.sessionId ≠ journal.sessionId ∧
        other.deletionId ≠ journal.deletionId) ∧
      db' = db.deleting journal event keyId key := by
  obtain ⟨sequence, hsequence, h⟩ := bind_eq_ok h
  obtain ⟨-, ⟨⟩⟩ := ok_of_check hsequence
  obtain ⟨first, hinsert, h⟩ := bind_eq_ok h
  obtain ⟨-, ⟨⟩⟩ := ok_of_check hinsert
  obtain ⟨second, hdeletion, ⟨⟩⟩ := bind_eq_ok h
  obtain ⟨hfree, ⟨⟩⟩ := ok_of_guard hdeletion
  refine ⟨fun other hother => ?_, rfl⟩
  rw [any_eq_true] at hfree
  refine ⟨fun hid => hfree ⟨other, hother, decide_eq_true (.inl hid)⟩, fun hid => ?_⟩
  exact hfree ⟨other, hother, decide_eq_true (.inr (.inl hid))⟩

/-- The database after the rows of a session have been removed. -/
def purged (codec : Codec) (journal : DeletionRow) : Database :=
  { db with
    sessions := db.sessions.filter (·.sessionId ≠ journal.sessionId)
    events := db.events.filter (·.sessionId ≠ journal.sessionId)
    outcomes := db.outcomes.filter (·.sessionId ≠ some journal.sessionId)
    deletions := db.deletions.filter (·.sessionId ≠ journal.sessionId)
    tombstones := db.tombstones.filter (fun other =>
        other.sessionId ≠ journal.sessionId ∧ other.deletionId ≠ journal.deletionId) ++
      [journal.tombstone codec (db.creationCommand? journal.sessionId)] }

theorem hasSession_purged : (db.purged codec journal).HasSession id ↔
      db.HasSession id ∧ id ≠ journal.sessionId := by
  rw [hasSession_iff, hasSession_iff]
  constructor
  · intro hmem
    obtain ⟨row, hrow, rfl⟩ := mem_map.mp hmem
    obtain ⟨hmem, hne⟩ := mem_filter.mp hrow
    exact ⟨mem_map.mpr ⟨row, hmem, rfl⟩, of_decide_eq_true hne⟩
  · rintro ⟨hmem, hne⟩
    obtain ⟨row, hrow, rfl⟩ := mem_map.mp hmem
    exact mem_map.mpr ⟨row, mem_filter.mpr ⟨hrow, decide_eq_true hne⟩, rfl⟩

theorem eventsOf_purged : (db.purged codec journal).eventsOf id =
      if id = journal.sessionId then [] else db.eventsOf id := by
  show (db.events.filter _).filter _ = _
  rw [filter_filter]
  split
  · next hid =>
    refine filter_eq_nil_iff.mpr fun row _ => ?_
    simp only [Bool.and_eq_true, decide_eq_true_eq, not_and]
    intro hrow hne
    exact hne (hrow.trans hid)
  · next hid =>
    refine filter_congr fun row _ => ?_
    by_cases hrow : row.sessionId = id
    · simp [hrow, hid]
    · simp [hrow]

/-! ## Export -/

theorem insertExport_eq {row : ExportRow} (h : db.insertExport row = .ok db') :
    (∀ other ∈ db.exports, other.exportId ≠ row.exportId ∧
        ¬ (other.sessionId = row.sessionId ∧ other.requestId = row.requestId)) ∧
      db' = { db with exports := db.exports ++ [row] } := by
  obtain ⟨hguard, h⟩ := ok_of_guard h
  cases h
  refine ⟨?_, rfl⟩
  intro other hother
  have hfree := (not_or.mp hguard).2
  rw [any_eq_true] at hfree
  refine ⟨?_, ?_⟩
  · intro hid
    exact hfree ⟨other, hother, decide_eq_true (.inl hid)⟩
  · intro hboth
    exact hfree ⟨other, hother, decide_eq_true (.inr hboth)⟩

/-- The database after an export has been committed. -/
def exported (exportId requestId : Uuid) (record : StoredCommandRecord) (event : EventInput)
    (keyId : KeyId) (key : SecretKey) : Database :=
  ((db.appended event.sessionId keyId key [event]).recorded
    (.ofSession event.sessionId requestId record)).removeExport exportId

variable {record : StoredCommandRecord} {exportId requestId : Uuid}

@[simp] theorem hasSession_exported :
    (db.exported exportId requestId record event keyId key).HasSession id ↔ db.HasSession id :=
  hasSession_appended db event.sessionId id keyId key [event]

theorem commitExport_eq {commit : StoredCommandCommit}
    (h : db.commitExport exportId requestId record event keyId key = .ok (commit, db')) :
    ∃ journal ∈ db.exports, journal.exportId = exportId ∧ journal.sessionId = event.sessionId ∧
      journal.requestId = requestId ∧ journal.state = .published ∧
      ((∃ existing, db.command? (.session event.sessionId) requestId = some existing ∧
          existing.matches record.method record.parameterHash ∧
          commit = .replayed existing ∧ db' = db.removeExport exportId) ∨
        (db.command? (.session event.sessionId) requestId = none ∧
          (∃ persisted, commit = .applied persisted) ∧
          db' = db.exported exportId requestId record event keyId key)) := by
  unfold commitExport at h
  split at h
  · cases h
  next journal hfind =>
  have hmem := mem_of_find?_eq_some hfind
  have hrow := find?_some hfind
  rw [decide_eq_true_eq] at hrow
  obtain ⟨hstate, h⟩ := ok_of_guard h
  refine ⟨journal, hmem, hrow.1, hrow.2.1, hrow.2.2.1, not_not.mp hstate, ?_⟩
  split at h
  · next existing hcommand =>
    obtain ⟨hmatches, h⟩ := ok_of_check h
    cases h
    exact .inl ⟨existing, hcommand, hmatches, rfl, rfl⟩
  · next hcommand =>
    obtain ⟨pair, hevent, h⟩ := bind_eq_ok h
    obtain ⟨-, -, hdb⟩ := appendEvent_eq hevent
    obtain ⟨middle, houtcome, h⟩ := bind_eq_ok h
    obtain ⟨-, rfl⟩ := insertOutcome_eq houtcome
    obtain ⟨-, ⟨⟩⟩ := ok_of_guard h
    exact .inr ⟨hcommand, ⟨_, rfl⟩, by rw [hdb]; rfl⟩

end Database

end Workbench.Sqlite
