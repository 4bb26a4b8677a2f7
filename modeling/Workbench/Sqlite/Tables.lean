import Workbench.Sqlite.ExportChange

/-!
# Sqlite: keys of the tables

The unique columns of the tables hold in every state of every run, and rows are found by
them.  Rows of sessions, events and outcomes are only ever added, until a purge removes
those of one session.
-/

namespace Workbench.Sqlite

open Workbench.Core Library Storage List Function

/-! ## Lists with distinct keys -/

section

variable {α κ : Type} {key : α → κ} {rows : List α} {row : α} {p : α → Bool}
  (h : (rows.map key).Nodup)
include h

theorem nodup_map_concat (hnew : ∀ other ∈ rows, key other ≠ key row) :
    ((rows ++ [row]).map key).Nodup := by
  rw [map_append, map_singleton, nodup_append]
  refine ⟨h, nodup_singleton _, ?_⟩
  intro first hfirst second hsecond
  obtain ⟨other, hother, rfl⟩ := mem_map.mp hfirst
  rw [mem_singleton.mp hsecond]
  exact hnew other hother

theorem nodup_map_filter (p : α → Bool) : ((rows.filter p).map key).Nodup :=
  h.sublist (filter_sublist.map key)

theorem nodup_map_map {change : α → α}
    (hchange : ∀ row, key (change row) = key row) : ((rows.map change).map key).Nodup := by
  rw [map_map]
  have hsame : key ∘ change = key := funext hchange
  rw [hsame]
  exact h

/-- At most one row has a given key. -/
theorem length_filter_le_one {k : κ}
    (hp : ∀ row ∈ rows, p row → key row = k) : (rows.filter p).length ≤ 1 := by
  have hkeys : (rows.filter p).map key = replicate (rows.filter p).length k := by
    rw [eq_replicate_iff, length_map]
    refine ⟨rfl, ?_⟩
    intro other hother
    obtain ⟨row, hrow, rfl⟩ := mem_map.mp hother
    obtain ⟨hmem, hkept⟩ := mem_filter.mp hrow
    exact hp row hmem hkept
  have hnodup := nodup_map_filter h p
  rw [hkeys] at hnodup
  exact nodup_replicate.mp hnodup

omit h

/-- A row that a filter keeps is found among the rows it keeps. -/
theorem find?_filter_of_find? {q : α → Bool} (h : rows.find? p = some row) (hkept : q row) :
    (rows.filter q).find? p = some row := by
  induction rows with
  | nil => cases h
  | cons first rest ih =>
    rw [find?_cons] at h
    cases hp : p first with
    | true =>
      rw [hp] at h
      cases h
      rw [filter_cons_of_pos hkept, find?_cons, hp]
    | false =>
      rw [hp] at h
      cases hq : q first with
      | true =>
        rw [filter_cons_of_pos hq, find?_cons, hp]
        exact ih h
      | false =>
        rw [filter_cons_of_neg (Bool.eq_false_iff.mp hq)]
        exact ih h

/-- A filter that keeps every row that is looked for changes nothing. -/
theorem find?_filter_eq {q : α → Bool} (h : ∀ row ∈ rows, p row → q row) :
    (rows.filter q).find? p = rows.find? p := by
  cases hfind : rows.find? p with
  | some row =>
    exact find?_filter_of_find? hfind (h row (mem_of_find?_eq_some hfind) (find?_some hfind))
  | none =>
    rw [find?_eq_none] at hfind ⊢
    intro row hrow
    exact hfind row (mem_filter.mp hrow).1

end

/-! ## Rows and queries -/

namespace Database

variable {db : Database} {scope : Scope} {requestId : Uuid}

theorem command?_eq_none :
    db.command? scope requestId = none ↔
      ∀ row ∈ db.outcomes, ¬ (row.scope = scope ∧ row.requestId = requestId) := by
  rw [command?, Option.map_eq_none_iff, find?_eq_none]
  simp only [decide_eq_true_eq]

theorem exists_of_command? {record : StoredCommandRecord}
    (h : db.command? scope requestId = some record) :
    ∃ row ∈ db.outcomes, row.scope = scope ∧ row.requestId = requestId ∧ row.record = record := by
  rw [command?, Option.map_eq_some_iff] at h
  obtain ⟨row, hfind, hrecord⟩ := h
  have hrow := find?_some hfind
  rw [decide_eq_true_eq] at hrow
  exact ⟨row, mem_of_find?_eq_some hfind, hrow.1, hrow.2, hrecord⟩

/-- The unique columns of the tables. -/
structure WellFormed (db : Database) : Prop where
  outcomes : (db.outcomes.map fun row => (row.scope, row.requestId)).Nodup
  creations : (db.creations.map (·.sessionId)).Nodup
  deletions : (db.deletions.map (·.sessionId)).Nodup
  deletionIds : (db.deletions.map (·.deletionId)).Nodup
  exportIds : (db.exports.map (·.exportId)).Nodup
  exportRequests : (db.exports.map fun row => (row.sessionId, row.requestId)).Nodup

theorem WellFormed.empty : WellFormed .empty :=
  ⟨nodup_nil, nodup_nil, nodup_nil, nodup_nil, nodup_nil, nodup_nil⟩

theorem WellFormed.recorded (h : db.WellFormed) (row : CommandRow)
    (hnew : db.command? row.scope row.requestId = none) : (db.recorded row).WellFormed := by
  refine { h with outcomes := nodup_map_concat h.outcomes ?_ }
  intro other hother hkey
  exact command?_eq_none.mp hnew other hother ⟨congrArg Prod.fst hkey, congrArg Prod.snd hkey⟩

theorem WellFormed.removeExport (h : db.WellFormed) (exportId : Uuid) :
    (db.removeExport exportId).WellFormed :=
  { h with
    exportIds := nodup_map_filter h.exportIds _
    exportRequests := nodup_map_filter h.exportRequests _ }

theorem WellFormed.change {codec : Codec} {op : Operation} {s s' : Store}
    (h : s.database.WellFormed) (hchange : Change codec op s s') : s'.database.WellFormed := by
  cases hchange with
  | append | spend => exact { h with }
  | @commit id requestId keyId key inputs record _ _ _ _ hnew =>
    have happended : (s.database.appended id keyId key inputs).WellFormed := { h with }
    exact happended.recorded (.ofSession id requestId record) hnew
  | recordOutcome _ _ hnew | recordPort _ _ _ hnew => exact h.recorded _ hnew
  | journalCreation _ _ _ hfree =>
    exact { h with
      creations := nodup_map_concat h.creations fun other hother => (hfree other hother).1 }
  | markCreation =>
    refine { h with creations := nodup_map_map h.creations ?_ }
    intro row
    split <;> rfl
  | @commitCreation input _ _ _ _ _ _ _ hnew =>
    have hrecorded := h.recorded ⟨.daemon, input.requestId, some input.sessionId,
      ⟨"session.create", codec.canonicalHash input.requestParameters,
        codec.print input.commandOutcome⟩⟩ hnew
    exact { hrecorded with creations := nodup_map_filter h.creations _ }
  | closeCreation => exact { h with creations := nodup_map_filter h.creations _ }
  | journalDeletion _ _ _ _ _ hfree =>
    exact { h with
      deletions := nodup_map_concat h.deletions fun other hother => (hfree other hother).1
      deletionIds := nodup_map_concat h.deletionIds fun other hother => (hfree other hother).2 }
  | purge =>
    exact { h with
      outcomes := nodup_map_filter h.outcomes _
      deletions := nodup_map_filter h.deletions _
      deletionIds := nodup_map_filter h.deletionIds _ }
  | journalExport _ _ _ _ _ _ _ hfree =>
    refine { h with
      exportIds := nodup_map_concat h.exportIds fun other hother => (hfree other hother).1
      exportRequests := nodup_map_concat h.exportRequests ?_ }
    intro other hother hkeys
    exact (hfree other hother).2 ⟨congrArg Prod.fst hkeys, congrArg Prod.snd hkeys⟩
  | updateExport =>
    refine { h with
      exportIds := nodup_map_map h.exportIds ?_
      exportRequests := nodup_map_map h.exportRequests ?_ }
    · intro row
      split <;> rfl
    · intro row
      split <;> rfl
  | @commitExport journal record event keyId key _ _ _ _ _ hevent _ _ hnew =>
      have happended : (s.database.appended event.sessionId keyId key [event]).WellFormed :=
        { h with }
      rw [← hevent] at hnew
      exact (happended.recorded (.ofSession event.sessionId journal.requestId record)
        hnew).removeExport journal.exportId
  | dropExport => exact h.removeExport _
  | _ => exact h

end Database

/-! ## Keys -/

section

variable {codec : Codec} {op : Operation} {s s' : Store}

/-- A key comes with a creation's journal; it goes where no session is or one is being deleted. -/
theorem keys_change (hchange : Change codec op s s') (id : Uuid) :
    s'.keys id = s.keys id ∨
      (s.keys id = none ∧ ∃ journal ∈ s.database.creations, journal.sessionId = id) ∨
      (s'.keys id = none ∧ (s.database.HasSession id → s.database.deletion? id ≠ none)) := by
  cases hchange with
  | @createKey input _ _ _ hjournal hkey =>
    by_cases hid : id = input.sessionId
    · exact .inr (.inl ⟨hid ▸ hkey, _, hjournal, hid.symm⟩)
    · exact .inl (update_of_ne hid _ _)
  | @destroyOrphan orphan hsession =>
    by_cases hid : id = orphan
    · subst hid
      exact .inr (.inr ⟨update_self .., fun hexists => absurd hexists hsession⟩)
    · exact .inl (update_of_ne hid _ _)
  | @destroyKey journal hop hjournal =>
    by_cases hid : id = journal.sessionId
    · subst hid
      exact .inr (.inr ⟨update_self .., fun _ => by simp [hjournal]⟩)
    · exact .inl (update_of_ne hid _ _)
  | _ => exact .inl rfl

end

/-! ## Rows only go with their session -/

theorem scopeFits_some {id : Uuid} {method : String} (h : scopeFits (some id) method) :
    method ≠ "session.create" := by
  rintro rfl
  cases h

theorem Operation.Records.method_ne {codec : Codec} {op : Operation} {id requestId : Uuid}
    {record : StoredCommandRecord} (h : op.Records codec (some id) requestId record) :
    record.method ≠ "session.create" := by
  cases op with
  | recordPortCommand =>
    obtain ⟨rfl, -, rfl, hfits⟩ := h
    exact scopeFits_some hfits
  | commitPortCommand | commitCommandEvent | commitCommandEvents =>
    obtain ⟨-, -, rfl, hmethod⟩ := h
    exact hmethod
  | _ => cases h

/-- No part of a session, its log or its commands has gone, and no command was recorded as the
creation of a session that already existed. -/
structure Database.KeepsRows (db db' : Database) : Prop where
  sessions : ∀ id, db.HasSession id → db'.HasSession id
  events : ∀ row ∈ db.events, row ∈ db'.events
  outcomes : ∃ added, db'.outcomes = db.outcomes ++ added ∧ ∀ row ∈ added, ∀ id,
    row.sessionId = some id → db.HasSession id → row.record.method ≠ "session.create"
  deletions : db.deletions <+: db'.deletions
  tombstones : db'.tombstones = db.tombstones

namespace Database.KeepsRows

variable {db db' : Database}

/-- Outcomes and tombstones are as before. -/
theorem of_same (hsessions : ∀ id, db.HasSession id → db'.HasSession id)
    (hevents : ∀ row ∈ db.events, row ∈ db'.events) (houtcomes : db'.outcomes = db.outcomes)
    (hdeletions : db.deletions <+: db'.deletions) (htombstones : db'.tombstones = db.tombstones) :
    KeepsRows db db' where
  sessions := hsessions
  events := hevents
  outcomes := ⟨[], by rw [houtcomes, append_nil], forall_mem_nil _⟩
  deletions := hdeletions
  tombstones := htombstones

/-- One outcome has been added. -/
theorem of_recorded {row : CommandRow} (hsessions : ∀ id, db.HasSession id → db'.HasSession id)
    (hevents : ∀ row ∈ db.events, row ∈ db'.events)
    (houtcomes : db'.outcomes = db.outcomes ++ [row])
    (hrow : ∀ id, row.sessionId = some id → db.HasSession id →
      row.record.method ≠ "session.create")
    (hdeletions : db.deletions <+: db'.deletions) (htombstones : db'.tombstones = db.tombstones) :
    KeepsRows db db' where
  sessions := hsessions
  events := hevents
  outcomes := by
    refine ⟨[row], houtcomes, ?_⟩
    exact forall_mem_singleton.mpr hrow
  deletions := hdeletions
  tombstones := htombstones

/-- Recorded commands are still found. -/
theorem command? (h : KeepsRows db db') {scope : Scope} {requestId : Uuid}
    {record : StoredCommandRecord} (hfound : db.command? scope requestId = some record) :
    db'.command? scope requestId = some record := by
  obtain ⟨added, houtcomes, -⟩ := h.outcomes
  rw [Database.command?, Option.map_eq_some_iff] at hfound
  obtain ⟨row, hfind, hrecord⟩ := hfound
  rw [Database.command?, houtcomes, find?_append, hfind]
  exact congrArg some hrecord

theorem deletion? (h : KeepsRows db db') {id : Uuid} {journal : DeletionRow}
    (hfound : db.deletion? id = some journal) : db'.deletion? id = some journal := by
  obtain ⟨added, hdeletions⟩ := h.deletions
  rw [Database.deletion?] at hfound ⊢
  rw [← hdeletions, find?_append, hfound]
  rfl

/-- The creation of a session that exists stays the one it was. -/
theorem creationCommand? (h : KeepsRows db db') {id : Uuid} (hid : db.HasSession id) :
    db'.creationCommand? id = db.creationCommand? id := by
  obtain ⟨added, houtcomes, hadded⟩ := h.outcomes
  have hnone : added.find? (fun row =>
      row.sessionId = some id ∧ row.record.method = "session.create") = none := by
    rw [find?_eq_none]
    intro row hrow hmatch
    obtain ⟨hsession, hmethod⟩ := of_decide_eq_true hmatch
    exact hadded row hrow id hsession hid hmethod
  rw [Database.creationCommand?, houtcomes, find?_append, hnone, Option.or_none]
  rfl

end Database.KeepsRows

/-- Only the purge of a journaled session without a key removes rows. -/
theorem keepsRows_or_purge {codec : Codec} {op : Operation} {s s' : Store}
    (hchange : Change codec op s s') :
    s.database.KeepsRows s'.database ∨
      ∃ journal, op.Deletes ∧ s.database.deletion? journal.sessionId = some journal ∧
        s.database.hasExport journal.sessionId = false ∧ s.keys journal.sessionId = none ∧
        s' = { s with database := s.database.purged codec journal } := by
  cases hchange with
  | append =>
    exact .inl (.of_same (by simp) (fun _ hrow => mem_append_left _ hrow) rfl (prefix_refl _) rfl)
  | @commit _ _ _ _ _ _ _ _ _ hrecord =>
    exact .inl (.of_recorded (by simp) (fun _ hrow => mem_append_left _ hrow) rfl
      (fun _ _ _ => hrecord.method_ne) (prefix_refl _) rfl)
  | @recordOutcome _ _ _ _ _ _ hfits | @recordPort _ _ _ _ hfits =>
    refine .inl (.of_recorded (fun _ hid => hid) (fun _ hrow => hrow) rfl ?_ (prefix_refl _) rfl)
    rintro id rfl _
    exact scopeFits_some hfits
  | spend =>
    exact .inl (.of_same (by simp) (fun _ hrow => hrow) rfl (prefix_refl _) rfl)
  | @commitCreation _ _ _ _ _ hsession =>
    refine .inl (.of_recorded ?_ (fun _ hrow => mem_append_left _ hrow) rfl ?_ (prefix_refl _) rfl)
    · intro other hother
      exact Database.hasSession_created.mpr (.inl hother)
    · rintro _ ⟨⟩ hid
      exact absurd hid hsession
  | journalDeletion =>
    exact .inl (.of_same (by simp) (fun _ hrow => mem_append_left _ hrow) rfl
      (prefix_append _ _) rfl)
  | @purge journal hop hjournal hexport hkey =>
    exact .inr ⟨journal, hop, hjournal, hexport, hkey, rfl⟩
  | @commitExport _ _ _ _ _ _ _ _ _ hmethod =>
    refine .inl (.of_recorded (by simp) (fun _ hrow => mem_append_left _ hrow) rfl ?_
      (prefix_refl _) rfl)
    intro _ _ _ hcreate
    have hboth := hmethod.symm.trans hcreate
    revert hboth
    decide
  | _ =>
    exact .inl (.of_same (fun _ hid => hid) (fun _ hrow => hrow) rfl (prefix_refl _) rfl)

end Workbench.Sqlite
