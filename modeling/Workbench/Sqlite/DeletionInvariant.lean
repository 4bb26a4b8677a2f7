import Workbench.Sqlite.EventLog

/-!
# Sqlite: the invariant of deletion

What a purge does to the queries, which identifiers an operation may be given, and the
invariant that ties the journals of exports, deletions and creations to the sessions and
the tombstones.
-/

namespace Workbench.Sqlite

open Workbench.Core Library Storage Program List Database

namespace Database

/-! ## Tombstones and purges -/

/-- The tombstone that a journaled deletion leads to. -/
def pendingTombstone (db : Database) (codec : Codec) (id : Uuid) : Option TombstoneRow :=
  (db.deletion? id).map fun journal => journal.tombstone codec (db.creationCommand? id)

/-- No table but that of the tombstones has a row of the session. -/
structure Forgotten (db : Database) (id : Uuid) : Prop where
  session : ¬ db.HasSession id
  events : db.eventsOf id = []
  outcomes : ∀ row ∈ db.outcomes, row.sessionId ≠ some id
  creations : ∀ row ∈ db.creations, row.sessionId ≠ id
  exports : db.hasExport id = false
  deletions : db.deletion? id = none

/-- Some row of the session is gone: its own, one of its log or one of its commands. -/
def LosesRows (db db' : Database) (id : Uuid) : Prop :=
  (db.HasSession id ∧ ¬ db'.HasSession id) ∨ (∃ row ∈ db.eventsOf id, row ∉ db'.eventsOf id) ∨
    ∃ row ∈ db.outcomes, row.sessionId = some id ∧ row ∉ db'.outcomes

variable {db : Database} {codec : Codec} {journal : DeletionRow} {id : Uuid}

theorem hasExport_eq_true : db.hasExport id ↔ ∃ row ∈ db.exports, row.sessionId = id := by
  rw [hasExport, any_eq_true]
  simp only [decide_eq_true_eq]

theorem deletion?_eq_none : db.deletion? id = none ↔ ∀ row ∈ db.deletions, row.sessionId ≠ id := by
  rw [deletion?, find?_eq_none]
  simp only [decide_eq_true_eq, ne_eq]

theorem tombstone?_isSome :
    (db.tombstone? id).isSome ↔ ∃ row ∈ db.tombstones, row.sessionId = id := by
  rw [tombstone?, find?_isSome]
  simp only [decide_eq_true_eq]

theorem tombstone?_purged (db : Database) (codec : Codec) (journal : DeletionRow) :
    (db.purged codec journal).tombstone? journal.sessionId
      = some (journal.tombstone codec (db.creationCommand? journal.sessionId)) := by
  show (_ ++ [_]).find? _ = _
  rw [find?_append]
  have hnone : (db.tombstones.filter (fun other => other.sessionId ≠ journal.sessionId ∧
      other.deletionId ≠ journal.deletionId)).find? (·.sessionId = journal.sessionId) = none := by
    rw [find?_eq_none]
    intro row hrow hid
    have hkept := of_decide_eq_true (mem_filter.mp hrow).2
    exact hkept.1 (of_decide_eq_true hid)
  rw [hnone, Option.none_or, find?_singleton]
  exact if_pos (decide_eq_true rfl)

/-- A purge spares the tombstones of other sessions that have other deletion ids. -/
theorem tombstone?_purged_of_ne (hne : id ≠ journal.sessionId) {tombstone : TombstoneRow}
    (hfound : db.tombstone? id = some tombstone)
    (hdeletion : tombstone.deletionId ≠ journal.deletionId) :
    (db.purged codec journal).tombstone? id = some tombstone := by
  have hid := sessionId_of_tombstone? hfound
  have hkept := find?_filter_of_find?
    (q := fun other => decide (other.sessionId ≠ journal.sessionId ∧
      other.deletionId ≠ journal.deletionId)) hfound
    (decide_eq_true ⟨fun hsame => hne (hid.symm.trans hsame), hdeletion⟩)
  show (_ ++ [_]).find? _ = _
  rw [find?_append, hkept]
  rfl

theorem deletion?_purged_of_ne (hne : id ≠ journal.sessionId) :
    (db.purged codec journal).deletion? id = db.deletion? id := by
  refine find?_filter_eq ?_
  intro row _ hrow
  exact decide_eq_true fun hsame => hne ((of_decide_eq_true hrow).symm.trans hsame)

theorem deletion?_purged_self : (db.purged codec journal).deletion? journal.sessionId = none := by
  rw [deletion?_eq_none]
  intro row hrow
  exact of_decide_eq_true (mem_filter.mp hrow).2

theorem creationCommand?_purged_of_ne (hne : id ≠ journal.sessionId) :
    (db.purged codec journal).creationCommand? id = db.creationCommand? id := by
  refine congrArg _ (find?_filter_eq ?_)
  intro row _ hrow
  have hid := (of_decide_eq_true hrow).1
  exact decide_eq_true fun hsame => hne (Option.some.inj (hid.symm.trans hsame))

/-- What the other deletions lead to is not touched. -/
theorem pendingTombstone_purged_of_ne (hne : id ≠ journal.sessionId) :
    (db.purged codec journal).pendingTombstone codec id = db.pendingTombstone codec id := by
  rw [pendingTombstone, deletion?_purged_of_ne hne, creationCommand?_purged_of_ne hne]
  rfl

theorem pendingTombstone_eq (hfound : db.deletion? id = some journal) :
    db.pendingTombstone codec id = some (journal.tombstone codec (db.creationCommand? id)) := by
  rw [pendingTombstone, hfound]
  rfl

theorem KeepsRows.pendingTombstone {db' : Database} (h : db.KeepsRows db')
    (hfound : db.deletion? id = some journal) (hid : db.HasSession id) :
    db'.pendingTombstone codec id = db.pendingTombstone codec id := by
  rw [pendingTombstone_eq (h.deletion? hfound), pendingTombstone_eq hfound, h.creationCommand? hid]

end Database

/-! ## Identifiers -/

/-- New sessions get identifiers that no session has or had, unless the request is one that
has been answered, and outcomes are recorded for sessions that exist. -/
def Operation.ProperIds (db : Database) : Operation → Prop
  | .createSession input _ _ =>
    (¬ db.HasSession input.sessionId ∧ db.tombstone? input.sessionId = none) ∨
      (db.command? .daemon input.requestId).isSome ∨
      (db.buried? none input.requestId).isSome
  | .recordCommandOutcome _ _ (some id) _ _ _ => db.HasSession id
  | _ => True

instance (db : Database) (op : Operation) : Decidable (op.ProperIds db) := by
  induction op using Operation.casesOn with
  | createSession input eventId draw =>
    exact inferInstanceAs (Decidable
      ((¬ db.HasSession input.sessionId ∧ db.tombstone? input.sessionId = none) ∨ _ ∨ _))
  | recordCommandOutcome scope requestId sessionId method parameters outcome =>
    cases sessionId with
    | none => exact .isTrue trivial
    | some id => exact inferInstanceAs (Decidable (db.HasSession id))
  | _ => exact .isTrue trivial

/-- The operation of the action uses proper identifiers. -/
def ProperIds (s : Store) (action : Action) : Prop := action.operation.ProperIds s.database

instance (s : Store) (action : Action) : Decidable (ProperIds s action) :=
  inferInstanceAs (Decidable (action.operation.ProperIds s.database))

/-! ## What a write does to the tables -/

section

variable {codec : Codec} {op : Operation} {s s' : Store} (hchange : Change codec op s s')

include hchange

/-- A session that did not exist is the one being created. -/
theorem hasSession_change {id : Uuid} (hid : s'.database.HasSession id) :
    s.database.HasSession id ∨ ∃ input eventId draw, op = .createSession input eventId draw ∧
      id = input.sessionId ∧ (s'.database.command? .daemon input.requestId).isSome ∧
      ∃ journal ∈ s.database.creations, journal.sessionId = id := by
  cases hchange with
  | @commitCreation input eventId draw _ hop _ _ hjournal hnew =>
    rcases hasSession_created.mp hid with hold | rfl
    · exact .inl hold
    · refine .inr ⟨input, eventId, draw, hop, rfl, ?_, _, hjournal, rfl⟩
      exact Option.isSome_of_eq_some (command?_recorded_self hnew)
  | purge => exact .inl (hasSession_purged.mp hid).1
  | append | commit | spend | journalDeletion | commitExport => exact .inl (by simpa using hid)
  | recordOutcome | recordPort | journalCreation | createKey | markCreation | destroyOrphan
  | closeCreation | destroyKey | journalExport | updateExport | dropExport | interfere
  | removeStage | createStage | writeStage | publish => exact .inl hid

/-- A deletion is journaled for a session that exists and is not being exported. -/
theorem mem_deletions_change {journal : DeletionRow} (hmem : journal ∈ s'.database.deletions) :
    journal ∈ s.database.deletions ∨ (s.database.HasSession journal.sessionId ∧
      s.database.hasExport journal.sessionId = false ∧
      s'.database.exports = s.database.exports) := by
  cases hchange with
  | journalDeletion _ hsession _ _ hexport =>
    rcases mem_append.mp hmem with hold | hadded
    · exact .inl hold
    · rw [mem_singleton.mp hadded]
      exact .inr ⟨hsession, hexport, rfl⟩
  | purge => exact .inl (mem_filter.mp hmem).1
  | _ => exact .inl hmem

/-- An export is journaled for a session that exists and is not being deleted. -/
theorem exists_export_of_change {row : ExportRow} (hmem : row ∈ s'.database.exports) :
    (∃ old ∈ s.database.exports, old.sessionId = row.sessionId) ∨
      (s.database.HasSession row.sessionId ∧ s.database.deletion? row.sessionId = none) := by
  cases hchange with
  | journalExport _ hrow _ hdeletion =>
    rcases mem_append.mp hmem with hold | hadded
    · exact .inl ⟨row, hold, rfl⟩
    · rw [mem_singleton.mp hadded]
      exact .inr ⟨.of_session? hrow, hdeletion⟩
  | updateExport =>
    obtain ⟨old, hold, rfl⟩ := mem_map.mp hmem
    refine .inl ⟨old, hold, ?_⟩
    split <;> rfl
  | commitExport | dropExport => exact .inl ⟨row, (mem_filter.mp hmem).1, rfl⟩
  | _ => exact .inl ⟨row, hmem, rfl⟩

/-- An outcome that is new belongs to a session that exists. -/
theorem mem_outcomes_change (hids : op.ProperIds s.database) {row : CommandRow}
    (hmem : row ∈ s'.database.outcomes) :
    row ∈ s.database.outcomes ∨ ∀ id, row.sessionId = some id → s'.database.HasSession id := by
  have hadd : ∀ {added : CommandRow},
      (∀ id, added.sessionId = some id → s'.database.HasSession id) →
      row ∈ s.database.outcomes ++ [added] →
      row ∈ s.database.outcomes ∨ ∀ id, row.sessionId = some id → s'.database.HasSession id := by
    intro added hadded hrow
    refine (mem_append.mp hrow).imp id fun hnew => ?_
    rw [mem_singleton.mp hnew]
    exact hadded
  cases hchange with
  | commit _ hsession =>
    refine hadd ?_ hmem
    rintro _ ⟨⟩
    simpa using hsession
  | recordOutcome hop =>
    refine hadd ?_ hmem
    rintro id rfl
    rw [hop] at hids
    exact hids
  | recordPort _ _ hsession => exact hadd hsession hmem
  | commitCreation =>
    refine hadd ?_ hmem
    rintro _ ⟨⟩
    exact hasSession_created.mpr (.inr rfl)
  | purge => exact .inl (mem_filter.mp hmem).1
  | commitExport _ _ hsession _ _ hevent =>
    refine hadd ?_ hmem
    rintro _ ⟨⟩
    rw [← hevent] at hsession
    simpa using hsession
  | _ => exact .inl hmem

/-- A tombstone that is new comes with the purge of its session. -/
theorem mem_tombstones_change {tombstone : TombstoneRow}
    (hmem : tombstone ∈ s'.database.tombstones) :
    tombstone ∈ s.database.tombstones ∨ ∃ journal ∈ s.database.deletions,
      tombstone.sessionId = journal.sessionId ∧ s.keys journal.sessionId = none ∧
      s' = { s with database := s.database.purged codec journal } := by
  rcases keepsRows_or_purge hchange with hkeeps | ⟨journal, -, hjournal, -, hkey, rfl⟩
  · exact .inl (hkeeps.tombstones ▸ hmem)
  · rcases mem_append.mp hmem with hold | hnew
    · exact .inl (mem_filter.mp hold).1
    · rw [mem_singleton.mp hnew]
      exact .inr ⟨journal, mem_of_find?_eq_some hjournal, rfl, hkey, rfl⟩

end

/-- An operation keeps to proper identifiers to its end. -/
theorem Operation.ProperIds.change {codec : Codec} {op : Operation} {s s' : Store}
    (h : op.ProperIds s.database) (hchange : Change codec op s s') : op.ProperIds s'.database := by
  rcases keepsRows_or_purge hchange with hkeeps | ⟨journal, hdeletes, -⟩
  · cases op with
    | createSession input =>
      rcases h with ⟨hsession, htombstone⟩ | hrecorded | hburied
      · by_cases hcreated : s'.database.HasSession input.sessionId
        · rcases hasSession_change hchange hcreated with hold | ⟨_, _, _, ⟨⟩, -, hrecorded, -⟩
          · exact absurd hold hsession
          · exact .inr (.inl hrecorded)
        · refine .inl ⟨hcreated, ?_⟩
          rw [tombstone?, hkeeps.tombstones]
          exact htombstone
      · obtain ⟨record, hrecord⟩ := Option.isSome_iff_exists.mp hrecorded
        exact .inr (.inl (Option.isSome_of_eq_some (hkeeps.command? hrecord)))
      · refine .inr (.inr ?_)
        rw [buried?, hkeeps.tombstones]
        exact hburied
    | recordCommandOutcome _ _ sessionId =>
      cases sessionId with
      | none => trivial
      | some id => exact hkeeps.sessions id h
    | _ => trivial
  · -- only deletions purge
    rcases hdeletes with hrequests | rfl
    · cases op with
      | requestDeletion | runRetention => trivial
      | _ => cases hrequests
    · trivial

/-! ## The invariant -/

/-- What holds at every crash point. -/
structure DeletionInvariant (s : Store) : Prop where
  log : EventLog s
  tables : s.database.WellFormed
  exclusive : ∀ row ∈ s.database.exports, ∀ journal ∈ s.database.deletions,
    row.sessionId ≠ journal.sessionId
  exporting : ∀ row ∈ s.database.exports, s.database.HasSession row.sessionId
  deleting : ∀ journal ∈ s.database.deletions, s.database.HasSession journal.sessionId
  fresh : ∀ journal ∈ s.database.creations, ¬ s.database.HasSession journal.sessionId ∧
    ∀ tombstone ∈ s.database.tombstones, tombstone.sessionId ≠ journal.sessionId
  buried : ∀ tombstone ∈ s.database.tombstones, s.keys tombstone.sessionId = none ∧
    ¬ s.database.HasSession tombstone.sessionId ∧
    ∀ row ∈ s.database.outcomes, row.sessionId ≠ some tombstone.sessionId

namespace DeletionInvariant

variable {s s' : Store}

theorem new (files : FileSystem) : DeletionInvariant (.new files) where
  log := .new files
  tables := .empty
  exclusive := forall_mem_nil _
  exporting := forall_mem_nil _
  deleting := forall_mem_nil _
  fresh := forall_mem_nil _
  buried := forall_mem_nil _

variable {codec : Codec} {op : Operation} (h : DeletionInvariant s)
  (hchange : Change codec op s s')

include h hchange

theorem exclusive_change {row : ExportRow} (hrow : row ∈ s'.database.exports)
    {journal : DeletionRow} (hjournal : journal ∈ s'.database.deletions) :
    row.sessionId ≠ journal.sessionId := by
  rcases mem_deletions_change hchange hjournal with hold | ⟨-, hexport, hsame⟩
  · rcases exists_export_of_change hchange hrow with ⟨old, hmem, hid⟩ | ⟨-, hnone⟩
    · rw [← hid]
      exact h.exclusive old hmem journal hold
    · exact fun hid => deletion?_eq_none.mp hnone journal hold hid.symm
  · intro hid
    rw [hsame] at hrow
    rw [hasExport_eq_true.mpr ⟨row, hrow, hid⟩] at hexport
    cases hexport

theorem exporting_change {row : ExportRow} (hrow : row ∈ s'.database.exports) :
    s'.database.HasSession row.sessionId := by
  rcases keepsRows_or_purge hchange with hkeeps | ⟨journal, -, hjournal, -, -, rfl⟩
  · refine hkeeps.sessions _ ?_
    rcases exists_export_of_change hchange hrow with ⟨old, hmem, hid⟩ | ⟨hsession, -⟩
    · rw [← hid]
      exact h.exporting old hmem
    · exact hsession
  · exact hasSession_purged.mpr
      ⟨h.exporting row hrow, h.exclusive row hrow journal (mem_of_find?_eq_some hjournal)⟩

theorem deleting_change {journal : DeletionRow} (hjournal : journal ∈ s'.database.deletions) :
    s'.database.HasSession journal.sessionId := by
  rcases keepsRows_or_purge hchange with hkeeps | ⟨purged, -, -, -, -, rfl⟩
  · refine hkeeps.sessions _ ?_
    rcases mem_deletions_change hchange hjournal with hold | ⟨hsession, -⟩
    · exact h.deleting journal hold
    · exact hsession
  · obtain ⟨hold, hne⟩ := mem_filter.mp hjournal
    exact hasSession_purged.mpr ⟨h.deleting journal hold, of_decide_eq_true hne⟩

variable (hids : op.ProperIds s.database)

include hids

theorem fresh_change : ∀ journal ∈ s'.database.creations,
    ¬ s'.database.HasSession journal.sessionId ∧
      ∀ tombstone ∈ s.database.tombstones, tombstone.sessionId ≠ journal.sessionId := by
  cases hchange with
  | journalCreation hop hnew hburied =>
    refine forall_mem_append.mpr ⟨h.fresh, forall_mem_singleton.mpr ?_⟩
    rw [hop] at hids
    rcases hids with ⟨hsession, htombstone⟩ | hrecorded | hrecorded
    · refine ⟨hsession, fun tombstone hmem hsame => ?_⟩
      rw [tombstone?, find?_eq_none] at htombstone
      exact htombstone tombstone hmem (decide_eq_true hsame)
    · rw [hnew] at hrecorded
      cases hrecorded
    · rw [hburied] at hrecorded
      cases hrecorded
  | markCreation =>
    intro journal hjournal
    obtain ⟨old, hold, rfl⟩ := mem_map.mp hjournal
    have hfresh := h.fresh old hold
    split <;> exact hfresh
  | commitCreation _ _ _ hjournal =>
    intro journal hmem
    obtain ⟨hold, hkept⟩ := mem_filter.mp hmem
    obtain ⟨hnone, hunburied⟩ := h.fresh journal hold
    refine ⟨fun hsome => ?_, hunburied⟩
    rcases hasSession_created.mp hsome with hbefore | hid
    · exact hnone hbefore
    · -- the journal of the new session is the one that has been removed
      rw [inj_on_of_nodup_map h.tables.creations hold hjournal hid] at hkept
      exact of_decide_eq_true hkept ⟨rfl, rfl, rfl, rfl⟩
  | closeCreation => exact fun journal hmem => h.fresh journal (mem_filter.mp hmem).1
  | purge =>
    intro journal hmem
    obtain ⟨hnone, hunburied⟩ := h.fresh journal hmem
    exact ⟨fun hsome => hnone (hasSession_purged.mp hsome).1, hunburied⟩
  | append | commit | spend | journalDeletion | commitExport =>
    intro journal hmem
    have hfresh := h.fresh journal hmem
    simpa using hfresh
  | _ => exact h.fresh

theorem buried_change {tombstone : TombstoneRow} (hmem : tombstone ∈ s.database.tombstones) :
    s'.keys tombstone.sessionId = none ∧ ¬ s'.database.HasSession tombstone.sessionId ∧
      ∀ row ∈ s'.database.outcomes, row.sessionId ≠ some tombstone.sessionId := by
  obtain ⟨hkey, hsession, hgone⟩ := h.buried tombstone hmem
  have hunused : ∀ journal ∈ s.database.creations, journal.sessionId ≠ tombstone.sessionId :=
    fun journal hjournal hid => (h.fresh journal hjournal).2 tombstone hmem hid.symm
  have hnone : ¬ s'.database.HasSession tombstone.sessionId := by
    intro hsome
    rcases hasSession_change hchange hsome with hold | ⟨_, _, _, -, -, -, journal, hjournal, hid⟩
    · exact hsession hold
    · exact hunused journal hjournal hid
  refine ⟨?_, hnone, fun row hrow hid => ?_⟩
  · rcases keys_change hchange tombstone.sessionId with hsame | ⟨-, journal, hjournal, hid⟩ | hlost
    · exact hsame.trans hkey
    · exact absurd hid (hunused journal hjournal)
    · exact hlost.1
  · rcases mem_outcomes_change hchange hids hrow with hold | hnew
    · exact hgone row hold hid
    · exact hnone (hnew _ hid)

theorem change : DeletionInvariant s' where
  log := h.log.change hchange
  tables := h.tables.change hchange
  exclusive _ hrow _ hjournal := h.exclusive_change hchange hrow hjournal
  exporting _ hrow := h.exporting_change hchange hrow
  deleting _ hjournal := h.deleting_change hchange hjournal
  fresh := by
    intro journal hjournal
    obtain ⟨hnone, hunburied⟩ := h.fresh_change hchange hids journal hjournal
    refine ⟨hnone, fun tombstone hmem => ?_⟩
    rcases mem_tombstones_change hchange hmem with hold | ⟨deleted, hdeleted, hid, -, rfl⟩
    · exact hunburied tombstone hold
    · rw [hid]
      intro hsame
      exact (h.fresh journal hjournal).1 (hsame ▸ h.deleting deleted hdeleted)
  buried := by
    intro tombstone hmem
    rcases mem_tombstones_change hchange hmem with hold | ⟨deleted, -, hid, hkey, rfl⟩
    · exact h.buried_change hchange hids hold
    · rw [hid]
      refine ⟨hkey, fun hsome => (hasSession_purged.mp hsome).2 rfl, fun row hrow => ?_⟩
      exact of_decide_eq_true (mem_filter.mp hrow).2

end DeletionInvariant

end Workbench.Sqlite
