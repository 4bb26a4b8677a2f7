import Workbench.Sqlite.DeletionInvariant

/-!
# Sqlite: what becomes of recorded commands

The outcome of a request is found in the command table or, once the session has been
deleted, in its tombstone: the creation under the daemon's scope, the deletion under that
of the session.  The two never answer for the same request, a purge moves the creation from
one to the other, and nothing but the purge of its own session takes a record away.
-/

namespace Workbench.Sqlite

open Workbench.Core Library Storage Program List Database

/-! ## Records -/

namespace Database

/-- The recorded command of a request, as `lookup_port_command` finds it. -/
def recorded? (db : Database) (sessionId : Option Uuid) (requestId : Uuid) :
    Option StoredCommandRecord :=
  (db.command? (commandScope sessionId) requestId).or (db.buried? sessionId requestId)

/-- A row that the command table may get. -/
structure NewRecord (db : Database) (row : CommandRow) : Prop where
  new : db.command? row.scope row.requestId = none
  fits : row.scope = .daemon ∧ row.record.method = "session.create" ∧
      db.buried? none row.requestId = none ∧ (∀ id, row.sessionId = some id → ¬ db.HasSession id) ∨
    ∃ id, row.scope = .session id ∧ row.sessionId = some id ∧
      row.record.method ≠ "session.create" ∧ db.HasSession id

/-- Where the commands are recorded, and under which keys. -/
structure RecordsKept (db : Database) (codec : Codec) : Prop where
  inScope : ∀ row ∈ db.outcomes, row.scope = .daemon ∧ row.record.method = "session.create" ∨
    ∃ id, row.scope = .session id ∧ row.sessionId = some id ∧
      row.record.method ≠ "session.create"
  existing : ∀ row ∈ db.outcomes, ∀ id, row.sessionId = some id → db.HasSession id
  oneCreation : ∀ row ∈ db.outcomes, ∀ other ∈ db.outcomes, row.scope = .daemon →
    other.scope = .daemon → ∀ id, row.sessionId = some id → other.sessionId = some id → row = other
  unrepeated : ∀ tombstone ∈ db.tombstones, ∀ creation, tombstone.creation = some creation →
    db.command? .daemon creation.1 = none
  oneTombstone : ∀ tombstone ∈ db.tombstones, ∀ other ∈ db.tombstones,
    tombstone.sessionId = other.sessionId ∨
      (∃ creation ∈ tombstone.creation, ∃ again ∈ other.creation, creation.1 = again.1) →
    tombstone = other
  deletion : ∀ tombstone ∈ db.tombstones, tombstone.deletion
    = ⟨"session.delete", codec.canonicalHash (deletionParameters tombstone.sessionId),
        codec.print (deletionOutcome tombstone.sessionId tombstone.deletionId)⟩

variable {db db' : Database} {codec : Codec}

/-! ## Tombstones that answer -/

theorem exists_of_buried_none {requestId : Uuid} {record : StoredCommandRecord}
    (h : db.buried? none requestId = some record) :
    ∃ tombstone ∈ db.tombstones, tombstone.creation = some (requestId, record) := by
  obtain ⟨tombstone, hmem, hfound⟩ := exists_of_findSome?_eq_some h
  refine ⟨tombstone, hmem, ?_⟩
  obtain ⟨creation, hcreation, hrecord⟩ := Option.bind_eq_some_iff.mp hfound
  split at hrecord
  · next hrequest =>
    cases hrecord
    rw [hcreation, ← hrequest]
  · cases hrecord

theorem exists_of_buried_some {id requestId : Uuid} {record : StoredCommandRecord}
    (h : db.buried? (some id) requestId = some record) :
    ∃ tombstone ∈ db.tombstones, tombstone.sessionId = id ∧
      tombstone.deletionRequestId = requestId ∧ tombstone.deletion = record := by
  obtain ⟨tombstone, hfind, hrecord⟩ := Option.map_eq_some_iff.mp h
  have hmatch := find?_some hfind
  rw [decide_eq_true_eq] at hmatch
  exact ⟨tombstone, mem_of_find?_eq_some hfind, hmatch.1, hmatch.2, hrecord⟩

/-- One more element leaves a list without two related ones, if it is related to none. -/
theorem unique_append {α : Type} {R : α → α → Prop} {old : List α} {new : α}
    (hsymm : ∀ {a b}, R a b → R b a) (hold : ∀ a ∈ old, ∀ b ∈ old, R a b → a = b)
    (hnew : ∀ a ∈ old, ¬ R a new) : ∀ a ∈ old ++ [new], ∀ b ∈ old ++ [new], R a b → a = b := by
  simp only [mem_append, mem_singleton]
  rintro a (ha | rfl) b (hb | rfl) h
  · exact hold a ha b hb h
  · exact absurd h (hnew a ha)
  · exact absurd (hsymm h) (hnew b hb)
  · rfl

namespace RecordsKept

variable {tombstone : TombstoneRow} (h : db.RecordsKept codec)
include h

theorem buried_none (hmem : tombstone ∈ db.tombstones)
    {requestId : Uuid} {record : StoredCommandRecord}
    (hcreation : tombstone.creation = some (requestId, record)) :
    db.buried? none requestId = some record := by
  cases hburied : db.buried? none requestId with
  | none =>
    have hnone := findSome?_eq_none_iff.mp hburied tombstone hmem
    simp [hcreation] at hnone
  | some found =>
    obtain ⟨other, hother, hfound⟩ := exists_of_buried_none hburied
    have hsame := h.oneTombstone tombstone hmem other hother (.inr ⟨_, hcreation, _, hfound, rfl⟩)
    rw [← hsame, hcreation] at hfound
    cases hfound
    rfl

theorem buried_some (hmem : tombstone ∈ db.tombstones) :
    db.buried? (some tombstone.sessionId) tombstone.deletionRequestId
      = some tombstone.deletion := by
  cases hburied : db.buried? (some tombstone.sessionId) tombstone.deletionRequestId with
  | none =>
    have hnone := find?_eq_none.mp (Option.map_eq_none_iff.mp hburied) tombstone hmem
    exact absurd (decide_eq_true ⟨rfl, rfl⟩) hnone
  | some found =>
    obtain ⟨other, hother, hid, -, hrecord⟩ := exists_of_buried_some hburied
    rw [h.oneTombstone tombstone hmem other hother (.inl hid.symm), hrecord]

/-- A tombstone leaves no record of its session in the command table. -/
theorem command?_eq_none_of_buried
    (hgone : ∀ tombstone ∈ db.tombstones, ¬ db.HasSession tombstone.sessionId)
    {sessionId : Option Uuid} {requestId : Uuid} {record : StoredCommandRecord}
    (hburied : db.buried? sessionId requestId = some record) :
    db.command? (commandScope sessionId) requestId = none := by
  cases sessionId with
  | none =>
    obtain ⟨tombstone, hmem, hcreation⟩ := exists_of_buried_none hburied
    exact h.unrepeated tombstone hmem _ hcreation
  | some id =>
    obtain ⟨tombstone, hmem, rfl, -, -⟩ := exists_of_buried_some hburied
    refine command?_eq_none.mpr fun row hrow hkey => hgone tombstone hmem ?_
    obtain ⟨hdaemon, -⟩ | ⟨id, hscope, hid, -⟩ := h.inScope row hrow
    · rw [hdaemon] at hkey
      cases hkey.1
    · cases hscope.symm.trans hkey.1
      exact h.existing row hrow _ hid

/-! ## Writes -/

/-- Nothing that the records consist of has changed, and no session is gone. -/
theorem of_same (houtcomes : db'.outcomes = db.outcomes)
    (htombstones : db'.tombstones = db.tombstones)
    (hsessions : ∀ id, db.HasSession id → db'.HasSession id) : db'.RecordsKept codec where
  inScope := houtcomes ▸ h.inScope
  existing row hrow id hid := hsessions id (h.existing row (houtcomes ▸ hrow) id hid)
  oneCreation := houtcomes ▸ h.oneCreation
  unrepeated := by
    rw [htombstones]
    intro tombstone hmem creation hcreation
    rw [command?, houtcomes]
    exact h.unrepeated tombstone hmem creation hcreation
  oneTombstone := htombstones ▸ h.oneTombstone
  deletion := htombstones ▸ h.deletion

/-- One record is new. -/
theorem of_recorded {row : CommandRow} (hrow : db.NewRecord row)
    (houtcomes : db'.outcomes = db.outcomes ++ [row]) (htombstones : db'.tombstones = db.tombstones)
    (hsessions : ∀ id, db.HasSession id → db'.HasSession id)
    (hexists : ∀ id, row.sessionId = some id → db'.HasSession id) : db'.RecordsKept codec where
  inScope := by
    rw [houtcomes]
    refine forall_mem_append.mpr ⟨h.inScope, forall_mem_singleton.mpr ?_⟩
    exact hrow.fits.imp (fun hfits => ⟨hfits.1, hfits.2.1⟩)
      fun ⟨id, hscope, hid, hmethod, _⟩ => ⟨id, hscope, hid, hmethod⟩
  existing := by
    rw [houtcomes]
    refine forall_mem_append.mpr ⟨fun other hother id hid => ?_, forall_mem_singleton.mpr hexists⟩
    exact hsessions id (h.existing other hother id hid)
  oneCreation := by
    -- a creation is recorded for a session that did not exist, so no older row names it
    have hunique := @unique_append _ (fun first second => first.scope = .daemon ∧
      second.scope = .daemon ∧ ∃ id, first.sessionId = some id ∧ second.sessionId = some id)
      db.outcomes row (fun ⟨hfirst, hsecond, id, hid, hid'⟩ => ⟨hsecond, hfirst, id, hid', hid⟩)
      (fun first hfirst second hsecond ⟨hscope, hscope', id, hid, hid'⟩ =>
        h.oneCreation first hfirst second hsecond hscope hscope' id hid hid') ?_
    · rw [houtcomes]
      exact fun first hfirst second hsecond hscope hscope' id hid hid' =>
        hunique first hfirst second hsecond ⟨hscope, hscope', id, hid, hid'⟩
    rintro other hother ⟨-, hscope, id, hsame, hid⟩
    obtain ⟨-, -, -, hnone⟩ | ⟨_, hsession, -⟩ := hrow.fits
    · exact hnone id hid (h.existing other hother id hsame)
    · rw [hscope] at hsession
      cases hsession
  unrepeated := by
    rw [htombstones]
    intro tombstone hmem creation hcreation
    rw [command?_eq_none, houtcomes]
    refine forall_mem_append.mpr ⟨command?_eq_none.mp
      (h.unrepeated tombstone hmem creation hcreation), forall_mem_singleton.mpr ?_⟩
    rintro ⟨hscope, hrequest⟩
    obtain ⟨-, -, hburied, -⟩ | ⟨id, hsession, -⟩ := hrow.fits
    · rw [hrequest, h.buried_none hmem hcreation] at hburied
      cases hburied
    · rw [hscope] at hsession
      cases hsession
  oneTombstone := htombstones ▸ h.oneTombstone
  deletion := htombstones ▸ h.deletion

/-- The creation of a session is the command that its tombstone keeps. -/
theorem creationCommand?_eq {row : CommandRow}
    (hrow : row ∈ db.outcomes) (hscope : row.scope = .daemon) {id : Uuid}
    (hid : row.sessionId = some id) :
    db.creationCommand? id = some (row.requestId, row.record) := by
  have hmethod : row.record.method = "session.create" := by
    obtain ⟨-, hmethod⟩ | ⟨_, hsession, -⟩ := h.inScope row hrow
    · exact hmethod
    · rw [hscope] at hsession
      cases hsession
  cases hfind : db.outcomes.find? (fun other =>
      other.sessionId = some id ∧ other.record.method = "session.create") with
  | none =>
    exact absurd (decide_eq_true ⟨hid, hmethod⟩) (find?_eq_none.mp hfind row hrow)
  | some found =>
    have hfound := find?_some hfind
    rw [decide_eq_true_eq] at hfound
    have hmem := mem_of_find?_eq_some hfind
    have hdaemon : found.scope = .daemon := by
      obtain ⟨hdaemon, -⟩ | ⟨_, -, -, hnot⟩ := h.inScope found hmem
      · exact hdaemon
      · exact absurd hfound.2 hnot
    rw [creationCommand?, hfind, h.oneCreation row hrow found hmem hscope hdaemon id hid hfound.1]
    rfl

/-- What a tombstone keeps as the creation is the command of the daemon's scope. -/
theorem mem_of_creationCommand? {id : Uuid}
    {creation : Uuid × StoredCommandRecord} (hcreation : db.creationCommand? id = some creation) :
    ∃ row ∈ db.outcomes, row.scope = .daemon ∧ row.sessionId = some id ∧
      row.requestId = creation.1 := by
  obtain ⟨row, hfind, hrow⟩ := Option.map_eq_some_iff.mp hcreation
  have hmatch := find?_some hfind
  rw [decide_eq_true_eq] at hmatch
  refine ⟨row, mem_of_find?_eq_some hfind, ?_, hmatch.1, congrArg Prod.fst hrow⟩
  obtain ⟨hdaemon, -⟩ | ⟨_, -, -, hnot⟩ := h.inScope row (mem_of_find?_eq_some hfind)
  · exact hdaemon
  · exact absurd hmatch.2 hnot

omit h

theorem tombstone_of_mem_purged {journal : DeletionRow}
    (hmem : tombstone ∈ (db.purged codec journal).tombstones) :
    tombstone ∈ db.tombstones ∨
      tombstone = journal.tombstone codec (db.creationCommand? journal.sessionId) :=
  (mem_append.mp hmem).imp (fun hold => (mem_filter.mp hold).1) mem_singleton.mp

/-- A purge moves the creation to the tombstone. -/
theorem of_purged (h : db.RecordsKept codec) (htables : db.WellFormed) {journal : DeletionRow} :
    (db.purged codec journal).RecordsKept codec where
  inScope row hrow := h.inScope row (mem_filter.mp hrow).1
  existing := by
    intro row hrow id hid
    obtain ⟨hmem, hkept⟩ := mem_filter.mp hrow
    refine hasSession_purged.mpr ⟨h.existing row hmem id hid, fun hsame => ?_⟩
    exact of_decide_eq_true hkept (hsame ▸ hid)
  oneCreation row hrow other hother :=
    h.oneCreation row (mem_filter.mp hrow).1 other (mem_filter.mp hother).1
  unrepeated := by
    intro tombstone hmem creation hcreation
    refine command?_eq_none.mpr fun row hrow hkey => ?_
    obtain ⟨hold, hkept⟩ := mem_filter.mp hrow
    rcases tombstone_of_mem_purged hmem with hmem | rfl
    · exact command?_eq_none.mp (h.unrepeated tombstone hmem creation hcreation) row hold hkey
    -- the row of the creation is one of those that have been removed
    obtain ⟨found, hfound, hscope, hid, hrequest⟩ := h.mem_of_creationCommand? hcreation
    have hsame := inj_on_of_nodup_map htables.outcomes hold hfound
      (Prod.ext (hkey.1.trans hscope.symm) (hkey.2.trans hrequest.symm))
    exact of_decide_eq_true hkept (hsame ▸ hid)
  oneTombstone := by
    -- no tombstone that stays has the session or the creation of the new one
    refine unique_append ?_ (fun tombstone hmem other hother => h.oneTombstone tombstone
      (mem_filter.mp hmem).1 other (mem_filter.mp hother).1) ?_
    · exact fun hsame => hsame.imp Eq.symm fun ⟨creation, hcreation, again, hagain, hrequest⟩ =>
        ⟨again, hagain, creation, hcreation, hrequest.symm⟩
    rintro tombstone hmem (hid | ⟨creation, hcreation, again, hagain, hrequest⟩)
    · exact (of_decide_eq_true (mem_filter.mp hmem).2).1 hid
    · obtain ⟨row, hrow, hscope, -, hrow'⟩ := h.mem_of_creationCommand? hagain
      exact command?_eq_none.mp (h.unrepeated tombstone (mem_filter.mp hmem).1 creation
        hcreation) row hrow ⟨hscope, hrow'.trans hrequest.symm⟩
  deletion := by
    intro tombstone hmem
    rcases tombstone_of_mem_purged hmem with hmem | rfl
    · exact h.deletion tombstone hmem
    · rfl

theorem empty (codec : Codec) : RecordsKept .empty codec where
  inScope := forall_mem_nil _
  existing := forall_mem_nil _
  oneCreation := forall_mem_nil _
  unrepeated := forall_mem_nil _
  oneTombstone := forall_mem_nil _
  deletion := forall_mem_nil _

end RecordsKept

end Database

/-! ## Every write -/

/-- No outcome is recorded under a request that a tombstone answers. -/
def Operation.Unburied (db : Database) : Operation → Prop
  | .recordCommandOutcome _ requestId sessionId _ _ _ => db.buried? sessionId requestId = none
  | _ => True

instance (db : Database) (op : Operation) : Decidable (op.Unburied db) := by
  induction op using Operation.casesOn with
  | recordCommandOutcome scope requestId sessionId method parameters outcome =>
    exact inferInstanceAs (Decidable (db.buried? sessionId requestId = none))
  | _ => exact .isTrue trivial

/-- What a write does to the records. -/
inductive Database.RecordChange (codec : Codec) (db db' : Database) : Prop where
  | same (houtcomes : db'.outcomes = db.outcomes) (htombstones : db'.tombstones = db.tombstones)
      (hsessions : ∀ id, db.HasSession id → db'.HasSession id)
  | added (row : CommandRow) (hrow : db.NewRecord row)
      (houtcomes : db'.outcomes = db.outcomes ++ [row])
      (htombstones : db'.tombstones = db.tombstones)
      (hsessions : ∀ id, db.HasSession id → db'.HasSession id)
      (hexists : ∀ id, row.sessionId = some id → db'.HasSession id)
  | removed (journal : DeletionRow)
      (hjournal : db.deletion? journal.sessionId = some journal)
      (hdb : db' = db.purged codec journal)

section

variable {codec : Codec} {op : Operation} {s s' : Store}

theorem Change.recordChange (hids : op.ProperIds s.database) (hunburied : op.Unburied s.database)
    (hchange : Change codec op s s') : s.database.RecordChange codec s'.database := by
  cases hchange with
  | append | spend | journalDeletion => exact .same rfl rfl (by simp)
  | @commit id requestId _ _ _ record _ hsession _ hrecord hnew =>
    refine .added (.ofSession id requestId record)
      ⟨hnew, .inr ⟨id, rfl, rfl, hrecord.method_ne, hsession⟩⟩ rfl rfl (by simp) ?_
    rintro _ ⟨⟩
    simpa using hsession
  | @recordOutcome requestId sessionId method parameters outcome hop hfits hnew =>
    subst hop
    cases sessionId with
    | none =>
      have hmethod : method = "session.create" := by simpa [scopeFits] using hfits
      exact .added
        ⟨.daemon, requestId, none, ⟨method, codec.canonicalHash parameters, codec.print outcome⟩⟩
        ⟨hnew, .inl ⟨rfl, hmethod, hunburied, nofun⟩⟩ rfl rfl (fun _ h => h) nofun
    | some id =>
      refine .added _ ⟨hnew, .inr ⟨id, rfl, rfl, scopeFits_some hfits, hids⟩⟩ rfl rfl
        (fun _ h => h) ?_
      rintro _ ⟨⟩
      exact hids
  | @recordPort _ sessionId record _ hfits hsession hnew hburied =>
    refine .added _ ⟨hnew, ?_⟩ rfl rfl (fun _ h => h) hsession
    cases sessionId with
    | none =>
      have hmethod : record.method = "session.create" := by simpa [scopeFits] using hfits
      exact .inl ⟨rfl, hmethod, hburied, nofun⟩
    | some id => exact .inr ⟨id, rfl, rfl, scopeFits_some hfits, hsession id rfl⟩
  | @commitCreation input _ _ _ _ hsession _ _ hnew hburied =>
    refine .added ⟨.daemon, input.requestId, some input.sessionId, _⟩
      ⟨hnew, .inl ⟨rfl, rfl, hburied, ?_⟩⟩ rfl rfl
      (fun other hother => hasSession_created.mpr (.inl hother)) ?_
    · rintro _ ⟨⟩
      exact hsession
    · rintro _ ⟨⟩
      exact hasSession_created.mpr (.inr rfl)
  | @purge journal hop hjournal => exact .removed journal hjournal rfl
  | @commitExport journal record event _ _ _ _ hsession _ hmethod hevent _ _ hnew =>
      have hnot : record.method ≠ "session.create" := by
        rw [hmethod]
        decide
      rw [← hevent] at hsession hnew
      refine .added (.ofSession event.sessionId journal.requestId record)
        ⟨hnew, .inr ⟨event.sessionId, rfl, rfl, hnot, hsession⟩⟩ rfl rfl (by simp) ?_
      rintro _ ⟨⟩
      simpa using hsession
  | _ => exact .same rfl rfl fun _ h => h

/-- Only a purge changes the tombstones. -/
theorem Operation.Unburied.change (h : op.Unburied s.database) (hchange : Change codec op s s') :
    op.Unburied s'.database := by
  cases op with
  | recordCommandOutcome =>
    have htombstones : s'.database.tombstones = s.database.tombstones := by
      obtain hkeeps | ⟨_, hdeletes, -⟩ := keepsRows_or_purge hchange
      · exact hkeeps.tombstones
      · obtain hrequests | hresume := hdeletes
        · cases hrequests
        · cases hresume
    show buried? _ _ _ = none
    unfold buried?
    rw [htombstones]
    exact h
  | _ => trivial

theorem Database.RecordsKept.change (h : s.database.RecordsKept codec)
    (htables : s.database.WellFormed) (hids : op.ProperIds s.database)
    (hunburied : op.Unburied s.database) (hchange : Change codec op s s') :
    s'.database.RecordsKept codec := by
  cases hchange.recordChange hids hunburied with
  | same houtcomes htombstones hsessions => exact h.of_same houtcomes htombstones hsessions
  | added _ hrow houtcomes htombstones hsessions hexists =>
    exact h.of_recorded hrow houtcomes htombstones hsessions hexists
  | removed _ _ hdb =>
    rw [hdb]
    exact h.of_purged htables

/-! ## Keys -/

/-- A session that is not being deleted has its key. -/
def Keyed (s : Store) : Prop :=
  ∀ id, s.database.HasSession id → s.database.deletion? id = none → (s.keys id).isSome

theorem EventLog.keyed (h : EventLog s) : Keyed s := by
  intro id hid hdeletion
  obtain ⟨key, hkey, -⟩ := h.sealedBy id hid hdeletion
  exact Option.isSome_of_eq_some hkey

end

/-! ## Records that stay -/

/-- No deletion gets the identifier of an earlier one. -/
def Database.FreshDeletions (db db' : Database) : Prop :=
  ∀ tombstone ∈ db.tombstones, ∀ other ∈ db'.tombstones,
    other.deletionId = tombstone.deletionId → other.sessionId = tombstone.sessionId

instance (db db' : Database) : Decidable (db.FreshDeletions db') :=
  inferInstanceAs (Decidable (∀ tombstone ∈ db.tombstones, ∀ other ∈ db'.tombstones, _ → _))

namespace Database

variable {codec : Codec} {db db' : Database}

/-- A tombstone is only replaced when its identifiers are used again. -/
theorem RecordChange.mem_tombstones (hchange : db.RecordChange codec db')
    (hgone : ∀ tombstone ∈ db.tombstones, ¬ db.HasSession tombstone.sessionId)
    (hdeleting : ∀ journal ∈ db.deletions, db.HasSession journal.sessionId)
    (hfresh : db.FreshDeletions db') {tombstone : TombstoneRow} (hmem : tombstone ∈ db.tombstones) :
    tombstone ∈ db'.tombstones := by
  cases hchange with
  | same _ htombstones | added _ _ _ htombstones => exact htombstones ▸ hmem
  | removed journal hjournal hdb =>
    have hsession := hdeleting journal (mem_of_find?_eq_some hjournal)
    have hne : tombstone.sessionId ≠ journal.sessionId := fun hsame =>
      hgone tombstone hmem (hsame ▸ hsession)
    rw [hdb] at hfresh ⊢
    refine mem_append_left _ (mem_filter.mpr ⟨hmem, decide_eq_true ⟨hne, ?_⟩⟩)
    intro hsame
    exact hne (hfresh tombstone hmem _ (mem_append_right _ (mem_singleton_self _)) hsame.symm).symm

end Database

/-- What holds of sessions, keys and records at every crash point. -/
structure RequestInvariant (codec : Codec) (s : Store) : Prop where
  deletions : DeletionInvariant s
  records : s.database.RecordsKept codec
  keyed : Keyed s

namespace RequestInvariant

variable {codec : Codec} {s s' : Store} {sessionId : Option Uuid} {requestId : Uuid}
  {record : StoredCommandRecord}

theorem new (codec : Codec) (files : FileSystem) : RequestInvariant codec (.new files) where
  deletions := .new files
  records := .empty codec
  keyed := (EventLog.new files).keyed

variable (h : RequestInvariant codec s)
include h

theorem change {op : Operation} (hids : op.ProperIds s.database)
    (hunburied : op.Unburied s.database) (hchange : Change codec op s s') :
    RequestInvariant codec s' where
  deletions := h.deletions.change hchange hids
  records := h.records.change h.deletions.tables hids hunburied hchange
  keyed := (h.deletions.log.change hchange).keyed

theorem gone : ∀ tombstone ∈ s.database.tombstones, ¬ s.database.HasSession tombstone.sessionId :=
  fun tombstone hmem => (h.deletions.buried tombstone hmem).2.1

/-- A tombstone answers alone. -/
theorem recorded?_of_buried (hburied : s.database.buried? sessionId requestId = some record) :
    s.database.recorded? sessionId requestId = some record := by
  rw [recorded?, h.records.command?_eq_none_of_buried h.gone hburied, hburied]
  rfl

variable (hchange : s.database.RecordChange codec s'.database)
include hchange

theorem tombstone?_change (hfresh : s.database.FreshDeletions s'.database) {id : Uuid}
    (hid : (s.database.tombstone? id).isSome) :
    (s'.database.tombstone? id).isSome := by
  obtain ⟨tombstone, hmem, hsession⟩ := tombstone?_isSome.mp hid
  exact tombstone?_isSome.mpr
    ⟨tombstone, hchange.mem_tombstones h.gone h.deletions.deleting hfresh hmem, hsession⟩

variable (h' : RequestInvariant codec s')
include h'

/-- What a tombstone answers stays. -/
theorem buried_change (hfresh : s.database.FreshDeletions s'.database)
    (hburied : s.database.buried? sessionId requestId = some record) :
    s'.database.buried? sessionId requestId = some record := by
  have hkept : ∀ tombstone ∈ s.database.tombstones, tombstone ∈ s'.database.tombstones :=
    fun tombstone hmem => hchange.mem_tombstones h.gone h.deletions.deleting hfresh hmem
  cases sessionId with
  | none =>
    obtain ⟨tombstone, hmem, hcreation⟩ := exists_of_buried_none hburied
    exact h'.records.buried_none (hkept tombstone hmem) hcreation
  | some id =>
    obtain ⟨tombstone, hmem, rfl, rfl, rfl⟩ := exists_of_buried_some hburied
    exact h'.records.buried_some (hkept tombstone hmem)

/-- A row of the command table stays, unless a purge moves a creation to the tombstone. -/
theorem command?_change
    (hcommand : s.database.command? (commandScope sessionId) requestId = some record) :
    s'.database.recorded? sessionId requestId = some record ∨
      ∃ id, sessionId = some id ∧ s.database.tombstone? id = none ∧
        (s'.database.tombstone? id).isSome := by
  obtain ⟨row, hfind, hrecord⟩ := Option.map_eq_some_iff.mp hcommand
  have hmem := mem_of_find?_eq_some hfind
  have hkey := find?_some hfind
  rw [decide_eq_true_eq] at hkey
  cases hchange with
  | same houtcomes =>
    refine .inl ?_
    rw [recorded?, command?, houtcomes, hfind]
    exact congrArg some hrecord
  | added _ _ houtcomes =>
    refine .inl ?_
    rw [recorded?, command?, houtcomes, find?_append, hfind]
    exact congrArg some hrecord
  | removed journal _ hdb =>
    by_cases hid : row.sessionId = some journal.sessionId
    · cases sessionId with
      | none =>
        have hcreation := h.records.creationCommand?_eq hmem hkey.1 hid
        rw [hkey.2, hrecord] at hcreation
        refine .inl (h'.recorded?_of_buried ?_)
        refine @Database.RecordsKept.buried_none _ codec
          (journal.tombstone codec (s.database.creationCommand? journal.sessionId))
          h'.records ?_ _ _ hcreation
        rw [hdb]
        exact mem_append_right _ (mem_singleton_self _)
      | some id =>
        have hsame : id = journal.sessionId := by
          obtain ⟨hdaemon, -⟩ | ⟨other, hscope, hother, -⟩ := h.records.inScope row hmem
          · cases hdaemon.symm.trans hkey.1
          · cases hscope.symm.trans hkey.1
            exact Option.some.inj (hother.symm.trans hid)
        subst hsame
        refine .inr ⟨journal.sessionId, rfl, ?_, ?_⟩
        · cases htombstone : s.database.tombstone? journal.sessionId with
          | none => rfl
          | some tombstone =>
            have hgone := h.gone tombstone (mem_of_find?_eq_some htombstone)
            rw [sessionId_of_tombstone? htombstone] at hgone
            exact absurd (h.records.existing row hmem _ hid) hgone
        · rw [hdb, tombstone?_purged]
          rfl
    · refine .inl ?_
      rw [hdb, recorded?, command?]
      show ((find? _ (s.database.outcomes.filter _)).map _).or _ = _
      rw [find?_filter_of_find? hfind (decide_eq_true hid)]
      exact congrArg some hrecord

end RequestInvariant

/-! ## Every run -/

section

variable (codec : Codec) (exporter : Exporter)

/-- Identifiers are proper, `record_command_outcome` gets no request that a tombstone answers, and
no deletion reuses an identifier. -/
def KeepsRequests (s : Store) (action : Action) : Prop :=
  ProperIds s action ∧ action.operation.Unburied s.database ∧
    ∀ write ∈ action.writes codec exporter s, write.1.database.FreshDeletions write.2.database

instance (s : Store) (action : Action) : Decidable (KeepsRequests codec exporter s action) :=
  inferInstanceAs (Decidable (_ ∧ _ ∧ _))

variable {codec exporter} {start s : Store}

/-- Every write of an allowed action keeps the invariant. -/
theorem KeepsRequests.writes {action : Action} (hallowed : KeepsRequests codec exporter s action)
    (h : RequestInvariant codec s) :
    ∀ write ∈ action.writes codec exporter s, RequestInvariant codec write.1 ∧
      RequestInvariant codec write.2 ∧ (write.2 = write.1 ∨
        write.1.database.RecordChange codec write.2.database) := by
  have hchanges := @operation_changes codec exporter action.operation s
  have hinvariant := (wpVia_invariant
    (I := fun t => RequestInvariant codec t ∧ action.operation.ProperIds t.database ∧
      action.operation.Unburied t.database)
    (fun _ _ ht hchange => ⟨ht.1.change ht.2.1 ht.2.2 hchange, ht.2.1.change hchange,
      ht.2.2.change hchange⟩)
    hchanges ⟨h, hallowed.1, hallowed.2.1⟩ action.faults).2
  intro write hwrite
  obtain ⟨hbefore, hafter⟩ := hinvariant write hwrite
  refine ⟨hbefore.1, hafter.1, ?_⟩
  exact ((wpVia_run hchanges action.faults).2 write hwrite).imp id
    fun hchange => hchange.recordChange hbefore.2.1 hbefore.2.2

/-- What the records of an invariant state keep in every write holds in every later state. -/
theorem KeepsRequests.invariant {K : Store → Prop}
    (hkeep : ∀ t t', RequestInvariant codec t → RequestInvariant codec t' →
      t.database.RecordChange codec t'.database → t.database.FreshDeletions t'.database →
      K t → K t')
    (hinvariant : RequestInvariant codec start) (hstart : K start)
    (hreach : Reaches (step codec exporter) (KeepsRequests codec exporter) start s) :
    RequestInvariant codec s ∧ K s := by
  refine hreach.invariant (I := fun t => RequestInvariant codec t ∧ K t) ⟨hinvariant, hstart⟩ ?_
  rintro t action _ ⟨ht, hK⟩ hallowed ⟨⟩
  have hwrites := hallowed.writes ht
  refine (writes_invariant (I := fun t => RequestInvariant codec t ∧ K t) ?_ ⟨ht, hK⟩).1
  intro write hwrite hbefore
  obtain ⟨-, hafter, hsame | hchange⟩ := hwrites write hwrite
  · rw [hsame]
    exact hbefore
  · exact ⟨hafter, hkeep _ _ hbefore.1 hafter hchange (hallowed.2.2 write hwrite) hbefore.2⟩

/-- A record is found later, unless the session of its scope has been deleted since. -/
theorem recorded?_reaches {sessionId : Option Uuid} {requestId : Uuid}
    {record : StoredCommandRecord} (hinvariant : RequestInvariant codec start)
    (hrecorded : start.database.recorded? sessionId requestId = some record)
    (hreach : Reaches (step codec exporter) (KeepsRequests codec exporter) start s)
    (hkept : ∀ id, sessionId = some id → start.database.tombstone? id = none →
      s.database.tombstone? id = none) :
    RequestInvariant codec s ∧ s.database.recorded? sessionId requestId = some record := by
  let Kept (t : Store) : Prop :=
    (∀ id, (start.database.tombstone? id).isSome = true →
        (t.database.tombstone? id).isSome = true) ∧
      (t.database.recorded? sessionId requestId = some record ∨
        ∃ id, sessionId = some id ∧ start.database.tombstone? id = none ∧
          (t.database.tombstone? id).isSome = true)
  have hkeep : ∀ t t', RequestInvariant codec t → RequestInvariant codec t' →
      t.database.RecordChange codec t'.database → t.database.FreshDeletions t'.database →
      Kept t → Kept t' := by
    rintro t t' ht ht' hchange hfresh ⟨hkeeps, hfound⟩
    refine ⟨fun id hid => ht.tombstone?_change hchange hfresh (hkeeps id hid), ?_⟩
    obtain hfound | ⟨id, hid, hnone, hsome⟩ := hfound
    · obtain hcommand | ⟨-, hburied⟩ := Option.or_eq_some_iff.mp hfound
      on_goal 2 =>
        exact .inl (ht'.recorded?_of_buried (ht.buried_change hchange ht' hfresh hburied))
      obtain hfound' | ⟨id, hid, hnone, hsome⟩ := ht.command?_change hchange ht' hcommand
      · exact .inl hfound'
      refine .inr ⟨id, hid, ?_, hsome⟩
      refine Option.not_isSome_iff_eq_none.mp fun hearlier => ?_
      have hstill := hkeeps id hearlier
      rw [hnone] at hstill
      cases hstill
    · exact .inr ⟨id, hid, hnone, ht.tombstone?_change hchange hfresh hsome⟩
  obtain ⟨hs, -, hfound⟩ := KeepsRequests.invariant hkeep hinvariant
    ⟨fun _ h => h, .inl hrecorded⟩ hreach
  refine ⟨hs, hfound.resolve_right ?_⟩
  rintro ⟨id, hid, hnone, hsome⟩
  rw [hkept id hid hnone] at hsome
  cases hsome

end

end Workbench.Sqlite
