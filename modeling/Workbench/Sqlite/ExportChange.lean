import Workbench.Sqlite.Change

/-!
# Sqlite: the single writes of exports, and of all operations

Calls on files come between what others do to files.  What the protocol relies on from one
call to the next is about its staging file, which others leave alone, and its row in the
journal.  `changes_invariant` turns a condition that every listed write keeps into one of
every state and every crash point of every run.
-/

namespace Workbench.Sqlite

open Workbench.Core Library Storage Program List Database

/-! ## Files -/

section

variable {codec : Codec} {op : Operation} {exporter : Exporter}

/-- Only the file system differs. -/
def OnlyFiles (s s' : Store) : Prop := s' = { s with files := s'.files }

theorem OnlyFiles.refl (s : Store) : OnlyFiles s s := rfl

variable {s t : Store} {α : Type} {err : StorageError → Store → Prop} {path : Path}
  {journal : ExportJournal} {fingerprint : FileFingerprint}

theorem OnlyFiles.trans {s' s'' : Store} (first : OnlyFiles s s') (second : OnlyFiles s' s'') :
    OnlyFiles s s'' := by
  rw [OnlyFiles] at first second ⊢
  rw [second, first]

variable {fault : StorageError} {call : FileSystem → Except StorageError (α × FileSystem)}
  {ok : α → Store → Prop} {id : FileId} {command : ExportCommand} {draw : ExportDraw}

/-- A call on files comes after what others did, and its own effect is one more write. -/
theorem fileCall_rule (herr : ∀ e, err e { s with files := s.files.interfere })
    (hok : ∀ a files, call s.files.interfere = .ok (a, files) →
      (files = s.files.interfere ∨
        Change codec op { s with files := s.files.interfere } { s with files }) ∧
        ok a { s with files }) : wpVia (Change codec op) (fileCall fault call) ok err s := by
  unfold fileCall
  rw [wpVia_bind, wpVia_update]
  refine ⟨.inr .interfere, ?_⟩
  rw [wpVia_invoke]
  refine ⟨herr _, ?_⟩
  cases hcall : call s.files.interfere with
  | error e => exact herr e
  | ok pair =>
    obtain ⟨hchange, hpost⟩ := hok pair.1 pair.2 hcall
    refine ⟨?_, hpost⟩
    rcases hchange with hsame | hchange
    · exact .inl (by rw [hsame])
    · exact .inr hchange

/-- A call that only looks at the files. -/
theorem readFiles_rule (hcall : ∀ fs a files, call fs = .ok (a, files) → files = fs)
    (herr : ∀ e, err e { s with files := s.files.interfere })
    (hok : ∀ a, call s.files.interfere = .ok (a, s.files.interfere) →
      ok a { s with files := s.files.interfere }) :
    wpVia (Change codec op) (fileCall fault call) ok err s := by
  refine fileCall_rule herr ?_
  intro a files hresult
  obtain rfl := hcall _ a files hresult
  exact ⟨.inl rfl, hok a hresult⟩

theorem fileMetadata_rule {rest : Option File → Op α}
    (herr : ∀ e, err e { s with files := s.files.interfere })
    (hok : wpVia (Change codec op) (rest (s.files.interfere.fileAt path)) ok err
      { s with files := s.files.interfere }) :
    wpVia (Change codec op) (fileMetadata path >>= rest) ok err s := by
  rw [wpVia_bind]
  refine readFiles_rule ?_ herr ?_
  · rintro fs a files ⟨⟩
    rfl
  · rintro a ⟨⟩
    exact hok

theorem syncAll_rule {rest : Unit → Op α} (herr : ∀ e, err e { s with files := s.files.interfere })
    (hok : wpVia (Change codec op) (rest ()) ok err { s with files := s.files.interfere }) :
    wpVia (Change codec op) (syncAll >>= rest) ok err s := by
  rw [wpVia_bind]
  refine readFiles_rule ?_ herr ?_
  · rintro fs a files ⟨⟩
    rfl
  · rintro a ⟨⟩
    exact hok

theorem fingerprintFile_rule {rest : FileFingerprint → Op α}
    (herr : ∀ e, err e { s with files := s.files.interfere })
    (hok : ∀ fingerprint, s.files.interfere.fingerprint codec.blake3 path = some fingerprint →
      wpVia (Change codec op) (rest fingerprint) ok err { s with files := s.files.interfere }) :
    wpVia (Change codec op) (fingerprintFile codec path >>= rest) ok err s := by
  rw [wpVia_bind]
  refine readFiles_rule ?_ herr ?_
  · intro fs a files hcall
    split at hcall
    · cases hcall
    · cases hcall
      rfl
  · intro fingerprint hcall
    split at hcall
    · cases hcall
    · next found hfound =>
      cases hcall
      exact hok fingerprint hfound

theorem validateFingerprint_rule {expected : FileFingerprint} {rest : Unit → Op α}
    (herr : ∀ e, err e { s with files := s.files.interfere })
    (hok : s.files.interfere.fingerprint codec.blake3 path = some expected →
      wpVia (Change codec op) (rest ()) ok err { s with files := s.files.interfere }) :
    wpVia (Change codec op) (validateFingerprint codec path expected >>= rest) ok err s := by
  rw [wpVia_bind]
  refine fingerprintFile_rule herr ?_
  intro actual hactual
  split
  · exact herr _
  · next hsame => exact hok (not_not.mp hsame ▸ hactual)

/-- Writing keeps the file a staging file and nothing else. -/
theorem writeAll_changes (text : String) (ht : OnlyFiles s t) (hstage : t.files.IsStage path id) :
    wpVia (Change codec op) (writeAll id text)
      (fun _ u => OnlyFiles s u ∧ u.files.IsStage path id) (fun _ => OnlyFiles s) t := by
  have hwriting := hstage.interfere
  refine fileCall_rule (fun _ => ht.trans rfl) ?_
  rintro _ files ⟨⟩
  refine ⟨.inr (@Change.writeStage _ _ { t with files := t.files.interfere } _ _ _ hwriting), ?_⟩
  exact ⟨ht.trans rfl, ⟨hwriting.isStaging, hwriting.idAt, hwriting.only⟩⟩

variable (hpath : path.isStaging)
include hpath

theorem removeFile_changes (s : Store) :
    wpVia (Change codec op) (removeFile path) (fun _ => OnlyFiles s) (fun _ => OnlyFiles s) s := by
  refine fileCall_rule (fun _ => rfl) ?_
  intro _ files hcall
  split at hcall
  · cases hcall
    exact ⟨.inr (@Change.removeStage _ _ { s with files := s.files.interfere } _ hpath), rfl⟩
  · cases hcall

theorem removePartialStage_changes (s : Store) :
    wpVia (Change codec op) (removePartialStage path) (fun _ => OnlyFiles s)
      (fun _ => OnlyFiles s) s := by
  refine fileMetadata_rule (fun _ => rfl) ?_
  split
  · rfl
  · split
    · exact removeFile_changes hpath _
    · rfl

theorem cleanupStage_changes (fingerprint : FileFingerprint)
    (s : Store) :
    wpVia (Change codec op) (cleanupStage codec path fingerprint) (fun _ => OnlyFiles s)
      (fun _ => OnlyFiles s) s := by
  refine fileMetadata_rule (fun _ => rfl) ?_
  split
  · rfl
  · refine validateFingerprint_rule (fun _ => rfl) ?_
    intro _
    exact removeFile_changes hpath _

theorem isStage_create {fs : FileSystem} (file : File) (hid : fs.isLinked id = false) :
    ((fs.write id file).link path id).IsStage path id := by
  refine ⟨hpath, ?_, ?_⟩
  · rw [FileSystem.idAt_link, if_pos rfl]
  intro other hother
  rw [FileSystem.idAt_link] at hother
  split at hother
  · next hsame => exact hsame
  · have hplain : fs.idAt other = some id := hother
    have hlinked := FileSystem.isLinked_of_idAt hplain
    rw [hid] at hlinked
    cases hlinked

theorem createPrivateFile_changes (id : FileId) (s : Store) :
    wpVia (Change codec op) (createPrivateFile path id)
      (fun _ u => OnlyFiles s u ∧ u.files.IsStage path id) (fun _ => OnlyFiles s) s := by
  refine fileCall_rule (fun _ => rfl) ?_
  intro _ files hcall
  obtain ⟨hfree, hcall⟩ := ok_of_guard hcall
  obtain ⟨hlinked, hcall⟩ := ok_of_guard hcall
  cases hcall
  have hid := Bool.eq_false_iff.mpr hlinked
  refine ⟨.inr (@Change.createStage _ _ { s with files := s.files.interfere } _ _ hpath
    (Option.not_isSome_iff_eq_none.mp hfree) hid), rfl, ?_⟩
  exact isStage_create hpath _ hid

theorem fillBundle_changes (id : Uuid) (recipients : List String) (draw : ExportDraw)
    (key : SecretKey) (metadata : Json × Json × (String × String))
    (rows : List EventRow) (s : Store) :
    wpVia (Change codec op)
      (fillBundle codec exporter id path recipients draw key metadata rows) (fun _ => OnlyFiles s)
      (fun _ => OnlyFiles s) s := by
  refine wpVia_seq (createPrivateFile_changes hpath draw.fileId s) ?_
  intro _ created hcreated
  refine wpVia_seq (writeAll_changes _ hcreated.1 hcreated.2) ?_
  intro _ first hfirst
  refine wpVia_seq (writeAll_changes _ hfirst.1 hfirst.2) ?_
  intro _ second hsecond
  refine wpVia_seq (writeAll_changes _ hsecond.1 hsecond.2) ?_
  intro _ third hthird
  refine wpVia_seq (wpVia_forEach
    (fun _ t => OnlyFiles s t ∧ t.files.IsStage path draw.fileId) ?_ _ third hthird) ?_
  · intro row _ t ht
    refine lift_rule (fun _ _ => ht.1) ?_
    intro event _
    exact writeAll_changes _ ht.1 ht.2
  · intro _ filled hfilled
    rw [← wpVia_bind_pure]
    exact syncAll_rule (fun _ => hfilled.1.trans rfl) (hfilled.1.trans rfl)

theorem writeAgeBundle_changes (id : Uuid) (recipients : List String) (draw : ExportDraw)
    (s : Store) :
    wpVia (Change codec op) (writeAgeBundle codec exporter id path recipients draw)
      (fun _ => OnlyFiles s) (fun _ => OnlyFiles s) s := by
  refine lift_rule (fun _ _ => .refl s) ?_
  intro _ _
  refine sessionKey_rule (fun _ => .refl s) ?_
  intro key _
  rw [wpVia_bind]
  have hmetadata : wpVia (Change codec op) (exportMetadata exporter id key) (fun _ t => t = s)
      (fun _ t => t = s) s := by
    refine query_rule (fun _ => rfl) ?_
    split
    · rfl
    refine lift_rule (fun _ _ => rfl) ?_
    intro _ _
    refine lift_rule (fun _ _ => rfl) ?_
    intro _ _
    split <;> rfl
  refine wpVia_imp hmetadata ?_ (fun _ t ht => ht ▸ .refl s)
  rintro metadata t rfl
  refine query_rule (fun _ => .refl t) ?_
  rw [wpVia_catchError]
  refine wpVia_imp (fillBundle_changes hpath _ _ _ _ _ _ t) (fun _ _ h => h) ?_
  intro error u hu
  rw [wpVia_bind, wpVia_ignoringErrors]
  exact wpVia_imp (removeFile_changes hpath u) (fun _ _ h => hu.trans h) (fun _ _ h => hu.trans h)

omit hpath

/-! ### The journal of an export -/

/-- A row of the table is what a loaded journal says. -/
structure ExportRow.Holds (row : ExportRow) (journal : ExportJournal) : Prop where
  exportId : row.exportId = journal.exportId
  sessionId : row.sessionId = journal.sessionId
  requestId : row.requestId = journal.requestId
  parameterHash : row.parameterHash = journal.parameterHash
  state : row.state = journal.state
  payload : row.payload.plaintext = journal.payload
  fingerprint : row.fingerprint = journal.fingerprint

/-- The journal is in the table. -/
def Journaled (s : Store) (journal : ExportJournal) : Prop :=
  ∃ row ∈ s.database.exports, row.Holds journal

theorem Journaled.onlyFiles (h : Journaled s journal) (ht : OnlyFiles s t) :
    Journaled t journal := by
  rw [ht]
  exact h

theorem loadExportJournal_rule {T : Store → Store → Prop} {exportId : Uuid}
    {rest : ExportJournal → Op α} (herr : ∀ e, err e s)
    (hok : ∀ journal, journal.exportId = exportId → Journaled s journal →
      wpVia T (rest journal) ok err s) :
    wpVia T (loadExportJournal codec exporter exportId >>= rest) ok err s := by
  rw [wpVia_bind]
  refine query_rule herr ?_
  cases hfound : s.database.exports.find? (·.exportId = exportId) with
  | none => exact herr _
  | some row =>
    have hid : row.exportId = exportId := by
      have hrow := find?_some hfound
      exact of_decide_eq_true hrow
    refine sessionKey_rule herr ?_
    intro key _
    refine lift_rule (fun e _ => herr e) ?_
    intro payload hpayload
    refine lift_rule (fun e _ => herr e) ?_
    intro _ _
    split
    · exact herr _
    · refine hok _ rfl ⟨row, mem_of_find?_eq_some hfound, ?_⟩
      exact ⟨hid, rfl, rfl, rfl, rfl, EncryptedPayload.plaintext_of_decrypt hpayload, rfl⟩

theorem ensureNoPendingTarget_changes (outputPath : Path) (s : Store) :
    wpVia (Change codec op) (ensureNoPendingTarget codec exporter outputPath) (fun _ t => t = s)
      (fun _ t => t = s) s := by
  refine query_rule (fun _ => rfl) ?_
  refine wpVia_forEach (fun _ t => t = s) ?_ _ s rfl
  rintro exportId _ t rfl
  refine loadExportJournal_rule (fun _ => rfl) ?_
  intro journal _ _
  split <;> rfl

theorem loadOrCreateExportJournal_changes (hop : op = .executeExport command draw)
    (hnew : s.database.command? (.session command.sessionId) command.requestId = none) :
    wpVia (Change codec op)
      (loadOrCreateExportJournal codec exporter command (codec.canonicalHash command.parameters)
        draw.eventId)
      (fun journal t => Journaled t journal ∧ ((s.database.exports.map (·.exportId)).Nodup →
        journal.sessionId = command.sessionId ∧ journal.requestId = command.requestId ∧
        journal.parameterHash = codec.canonicalHash command.parameters)) (fun _ _ => True) s := by
  refine query_rule (fun _ => trivial) ?_
  split
  · next row hfind =>
    have hrow := find?_some hfind
    rw [decide_eq_true_eq] at hrow
    refine loadExportJournal_rule (fun _ => trivial) ?_
    intro journal hid hjournal
    split
    · trivial
    next hhash =>
    refine ⟨hjournal, fun hnodup => ?_⟩
    obtain ⟨other, hother, hholds⟩ := hjournal
    obtain rfl := inj_on_of_nodup_map hnodup hother (mem_of_find?_eq_some hfind)
      (hholds.exportId.trans hid)
    exact ⟨hholds.sessionId ▸ hrow.1, hholds.requestId ▸ hrow.2, not_not.mp hhash⟩
  · refine query_rule (fun _ => trivial) ?_
    cases hrow : s.database.session? command.sessionId with
    | none => trivial
    | some row =>
      refine query_rule (fun _ => trivial) ?_
      split
      · trivial
      next hdeletion =>
      obtain ⟨hstate, hdeletion⟩ := not_or.mp hdeletion
      rw [wpVia_bind]
      refine readFiles_rule ?_ (fun _ => trivial) ?_
      · intro fs a files hcall
        split at hcall
        · cases hcall
        · cases hcall
          rfl
      intro outputPath hcall
      have hpath : s.files.interfere.normalized command.outputPath = some outputPath := by
        split at hcall
        · cases hcall
        · next found hfound =>
          cases hcall
          exact hfound
      rw [wpVia_bind]
      refine fileMetadata_rule (fun _ => trivial) ?_
      split
      · rw [wpVia_pure, wpVia_bind]
        refine wpVia_imp (ensureNoPendingTarget_changes outputPath _) ?_ (fun _ _ _ => trivial)
        rintro _ t rfl
        refine lift_rule (fun _ _ => trivial) ?_
        intro _ _
        refine sessionKey_rule (fun _ => trivial) ?_
        intro key hkey
        rw [wpVia_bind]
        refine execute_rule (fun _ => trivial) ?_
        intro db hdb
        obtain ⟨hfree, rfl⟩ := insertExport_eq hdb
        refine ⟨?_, ?_⟩
        · have hnormalized : s.files.interfere.interfere.normalized command.outputPath
              = some outputPath := by
            rw [FileSystem.normalized_interfere]
            exact hpath
          exact @Change.journalExport _ _
            { s with files := s.files.interfere.interfere } _ _ _ _ _ hop hrow hstate
            (Option.not_isSome_iff_eq_none.mp hdeletion) hnew hnormalized hkey hfree
        · refine ⟨⟨_, mem_append_right _ (mem_singleton_self _), ?_⟩, ?_⟩
          · exact ⟨rfl, rfl, rfl, rfl, rfl, rfl, rfl⟩
          · exact fun _ => ⟨rfl, rfl, rfl⟩
      · trivial

/-- The journal with a state and a fingerprint. -/
def ExportJournal.advanced (journal : ExportJournal) (state : ExportState)
    (fingerprint : FileFingerprint) : ExportJournal :=
  { journal with state, fingerprint := some fingerprint }

theorem eq_of_filter_length_one {p : α → Bool} {items : List α}
    (hlength : (items.filter p).length = 1) {first second : α} (hfirst : first ∈ items)
    (hsecond : second ∈ items) (hp : p first) (hq : p second) : first = second := by
  obtain ⟨only, honly⟩ := length_eq_one_iff.mp hlength
  have hone : ∀ item ∈ items, p item = true → item = only := by
    intro item hitem hpitem
    have hmem : item ∈ items.filter p := mem_filter.mpr ⟨hitem, hpitem⟩
    rw [honly] at hmem
    exact mem_singleton.mp hmem
  rw [hone first hfirst hp, hone second hsecond hq]

variable (hjournal : Journaled s journal)
include hjournal

theorem updateExportState_changes {state : ExportState}
    (hstate : (state = .staged ∧ journal.state = .prepared) ∨
      (state = .published ∧ journal.state = .staged ∧ journal.fingerprint = some fingerprint)) :
    wpVia (Change codec op) (updateExportState journal.exportId state fingerprint)
      (fun _ t => Journaled t (journal.advanced state fingerprint)) (fun _ _ => True) s := by
  obtain ⟨row, hrow, hholds⟩ := hjournal
  refine execute_rule (fun _ => trivial) ?_
  intro db hdb
  obtain ⟨hguard, hdb⟩ := ok_of_check hdb
  cases hdb
  refine ⟨.updateExport ?_, ?_⟩
  · intro other hother hid
    obtain rfl := eq_of_filter_length_one hguard.2 hother hrow (decide_eq_true hid)
      (decide_eq_true hholds.exportId)
    rw [hholds.state, hholds.fingerprint]
    exact hstate
  · refine ⟨_, mem_map.mpr ⟨row, hrow, rfl⟩, ?_⟩
    rw [if_pos hholds.exportId]
    exact ⟨hholds.exportId, hholds.sessionId, hholds.requestId, hholds.parameterHash, rfl,
      hholds.payload, rfl⟩

/-! ### The protocol -/

theorem stageBundle_changes (hpath : path.isStaging) (hprepared : journal.state = .prepared)
    (draw : ExportDraw) :
    wpVia (Change codec op) (stageBundle codec exporter journal path draw)
      (fun fingerprint t => Journaled t (journal.advanced .staged fingerprint))
      (fun _ _ => True) s := by
  unfold stageBundle
  rw [wpVia_bind]
  refine wpVia_imp (removePartialStage_changes hpath s) ?_ (fun _ _ _ => trivial)
  intro _ removed hremoved
  rw [wpVia_bind]
  refine wpVia_imp (writeAgeBundle_changes hpath _ _ draw removed) ?_ (fun _ _ _ => trivial)
  intro _ written hwritten
  refine fingerprintFile_rule (fun _ => trivial) ?_
  intro fingerprint _
  refine syncAll_rule (fun _ => trivial) ?_
  rw [wpVia_bind]
  have hstill := hjournal.onlyFiles ((hremoved.trans hwritten).trans
    (rfl : OnlyFiles written { written with files := written.files.interfere.interfere }))
  exact wpVia_imp (updateExportState_changes hstill (.inl ⟨rfl, hprepared⟩)) (fun _ _ h => h)
    (fun _ _ h => h)

theorem hardLink_changes (hstaged : journal.state = .staged)
    (hrecorded : journal.fingerprint = some fingerprint) (ht : OnlyFiles s t)
    (hfingerprint : t.files.fingerprint codec.blake3
      (journal.payload.outputPath.staging journal.exportId) = some fingerprint) :
    wpVia (Change codec op)
      (hardLink (journal.payload.outputPath.staging journal.exportId) journal.payload.outputPath)
      (fun _ => OnlyFiles s) (fun _ => OnlyFiles s) t := by
  obtain ⟨row, hrow, hholds⟩ := hjournal.onlyFiles ht
  have hpath := Path.isStaging_staging journal.payload.outputPath journal.exportId
  refine fileCall_rule (fun _ => ht.trans rfl) ?_
  intro _ files hcall
  split at hcall
  · cases hcall
  next id hid =>
  obtain ⟨hfree, hcall⟩ := ok_of_guard hcall
  cases hcall
  refine ⟨.inr ?_, ht.trans rfl⟩
  have hsame : t.files.interfere.fingerprint codec.blake3
      (journal.payload.outputPath.staging journal.exportId) = some fingerprint := by
    rw [FileSystem.fingerprint_interfere hpath]
    exact hfingerprint
  rw [← hholds.payload, ← hholds.exportId] at hid hsame
  rw [← hholds.payload] at hfree ⊢
  exact @Change.publish _ _ { t with files := t.files.interfere } row fingerprint id hrow
    (hholds.state.trans hstaged) (hholds.fingerprint.trans hrecorded) hid hsame
    (Option.not_isSome_iff_eq_none.mp hfree)

theorem linkIfAbsent_changes (hstaged : journal.state = .staged)
    (hrecorded : journal.fingerprint = some fingerprint) (ht : OnlyFiles s t)
    (hfingerprint : t.files.fingerprint codec.blake3
      (journal.payload.outputPath.staging journal.exportId) = some fingerprint) :
    wpVia (Change codec op) (linkIfAbsent (journal.payload.outputPath.staging journal.exportId)
        journal.payload.outputPath) (fun _ => OnlyFiles s) (fun _ => OnlyFiles s) t := by
  have hpath := Path.isStaging_staging journal.payload.outputPath journal.exportId
  refine fileMetadata_rule (fun _ => ht.trans rfl) ?_
  split
  · refine hardLink_changes hjournal hstaged hrecorded (ht.trans rfl) ?_
    rw [FileSystem.fingerprint_interfere hpath]
    exact hfingerprint
  · exact ht.trans rfl

theorem publishBundle_changes (hstaged : journal.state = .staged)
    (hrecorded : journal.fingerprint = some fingerprint) :
    wpVia (Change codec op)
      (publishBundle codec journal (journal.payload.outputPath.staging journal.exportId)
        fingerprint) (fun _ _ => True) (fun _ _ => True) s := by
  unfold publishBundle publishStaged
  rw [wpVia_bind]
  refine validateFingerprint_rule (fun _ => trivial) ?_
  intro hvalid
  rw [wpVia_bind]
  refine wpVia_imp (linkIfAbsent_changes hjournal hstaged hrecorded rfl hvalid) ?_
    (fun _ _ _ => trivial)
  intro _ t ht
  rw [← wpVia_bind]
  refine validateFingerprint_rule (fun _ => trivial) ?_
  intro _
  refine syncAll_rule (fun _ => trivial) ?_
  have hstill := hjournal.onlyFiles (ht.trans
    (rfl : OnlyFiles t { t with files := t.files.interfere.interfere }))
  exact wpVia_imp (updateExportState_changes hstill (.inr ⟨rfl, hstaged, hrecorded⟩))
    (fun _ _ _ => trivial) (fun _ _ _ => trivial)

omit hjournal

theorem commitExportCommand_changes (exportId requestId : Uuid) (parameterHash : String)
    (outcome : Json) (event : EventInput) (s : Store) :
    wpVia (Change codec op)
      (commitExportCommand codec exportId requestId parameterHash outcome event)
      (fun result t => result.IsRecorded codec event.sessionId requestId "session.export"
        parameterHash t) (fun _ => SameRecords s) s := by
  have hsame : SameRecords s s := ⟨rfl, rfl, rfl, rfl⟩
  unfold commitExportCommand
  split
  · exact hsame
  next hevent =>
  obtain ⟨hkind, hcausation⟩ := not_or.mp hevent
  refine lift_rule (fun _ _ => hsame) ?_
  intro _ _
  refine sessionKeyId_rule (fun _ => hsame) ?_
  intro row hrow
  refine sessionKey_rule (fun _ => hsame) ?_
  intro key hkey
  rw [wpVia_bind]
  refine transaction_rule (fun _ => hsame) ?_
  intro commit db hbody
  obtain ⟨journal, hjournal, rfl, hid, rfl, hstate, hexisting | hnew⟩ :=
    commitExport_eq hbody
  · obtain ⟨existing, hcommand, hmatches, rfl, rfl⟩ := hexisting
    have hmethod := of_decide_eq_true (Bool.and_eq_true_iff.mp hmatches).1
    refine ⟨.inr (.dropExport hjournal (hid ▸ hcommand) hmethod), ?_⟩
    have hdropped : SameRecords s
        { s with database := s.database.removeExport journal.exportId } :=
      ⟨rfl, rfl, rfl, rfl⟩
    exact lift_rule (fun _ _ => hdropped) (fun _ _ => trivial)
  · obtain ⟨hcommand, ⟨persisted, rfl⟩, rfl⟩ := hnew
    refine ⟨.inr (.commitExport hjournal hstate ?_ (hid ▸ hkey) rfl hid.symm (not_not.mp hkind)
      (not_not.mp hcausation) (hid ▸ hcommand)), ?_⟩
    · rw [hid]
      exact .of_session? hrow
    · exact command?_recorded_self hcommand

theorem completeExport_changes (hpath : path.isStaging) (journal : ExportJournal)
    (fingerprint : FileFingerprint) (s : Store) :
    wpVia (Change codec op) (completeExport codec journal path fingerprint)
      (fun result t => result.IsRecorded codec journal.sessionId journal.requestId
        "session.export" journal.parameterHash t) (fun _ _ => True) s := by
  refine validateFingerprint_rule (fun _ => trivial) ?_
  intro _
  rw [wpVia_bind]
  refine wpVia_imp (cleanupStage_changes hpath fingerprint _) ?_ (fun _ _ _ => trivial)
  intro _ cleaned _
  refine syncAll_rule (fun _ => trivial) ?_
  exact wpVia_imp (commitExportCommand_changes _ _ _ _ _ _) (fun _ _ h => h) (fun _ _ _ => trivial)

theorem advanceExport_changes (draw : ExportDraw) (hjournal : Journaled s journal) :
    wpVia (Change codec op) (advanceExport codec exporter journal draw)
      (fun result t => result.IsRecorded codec journal.sessionId journal.requestId
        "session.export" journal.parameterHash t) (fun _ _ => True) s := by
  unfold advanceExport
  rw [wpVia_bind]
  refine readFiles_rule ?_ (fun _ => trivial) ?_
  · intro fs a files hcall
    split at hcall
    · cases hcall
    · cases hcall
      rfl
  intro outputPath _
  split
  · trivial
  next hsame =>
  obtain rfl := not_not.mp hsame
  have hpath := Path.isStaging_staging journal.payload.outputPath journal.exportId
  have hstill := hjournal.onlyFiles (rfl : OnlyFiles s { s with files := s.files.interfere })
  split
  · next hprepared =>
    refine wpVia_seq (stageBundle_changes hstill hpath hprepared draw) ?_
    intro fingerprint staged hstaged
    have hpublish := @publishBundle_changes codec op staged (journal.advanced .staged fingerprint)
      fingerprint hstaged rfl rfl
    refine wpVia_seq hpublish ?_
    intro _ published _
    exact completeExport_changes hpath journal fingerprint published
  · trivial
  · next fingerprint hstaged hrecorded =>
    refine wpVia_seq (publishBundle_changes hstill hstaged hrecorded) ?_
    intro _ published _
    exact completeExport_changes hpath journal fingerprint published
  · next fingerprint _ _ => exact completeExport_changes hpath journal fingerprint _

theorem executeExport_changes (hop : op = .executeExport command draw) (s : Store) :
    wpVia (Change codec op) (executeExport codec exporter command draw)
      (fun result t => (s.database.exports.map (·.exportId)).Nodup →
        result.IsRecorded codec command.sessionId command.requestId "session.export"
          (codec.canonicalHash command.parameters) t) (fun _ _ => True) s := by
  refine lift_rule (fun _ _ => trivial) ?_
  intro _ _
  refine lookupPortCommand_rule (fun _ => trivial) ?_ ?_
  · intro existing _
    rw [← wpVia_bind_pure]
    refine lift_rule (fun _ _ => trivial) ?_
    intro result hresult _
    obtain ⟨-, hresult⟩ := ok_of_check hresult
    cases hread : codec.readOutcome existing.outcome with
    | error e => rw [hread] at hresult; cases hresult
    | ok told =>
      rw [hread] at hresult
      cases hresult
      trivial
  · intro hnew _
    refine wpVia_seq (loadOrCreateExportJournal_changes hop hnew) ?_
    rintro journal t ⟨hjournal, hnames⟩
    refine wpVia_imp (advanceExport_changes draw hjournal) ?_ (fun _ _ h => h)
    intro result u hrecorded hnodup
    obtain ⟨hsession, hrequest, hhash⟩ := hnames hnodup
    rw [← hsession, ← hrequest, ← hhash]
    exact hrecorded

theorem resumeExports_changes (draws : Nat → ExportDraw) (s : Store) :
    wpVia (Change codec op) (resumeExports codec exporter draws) (fun _ _ => True)
      (fun _ _ => True) s := by
  refine query_rule (fun _ => trivial) ?_
  rw [wpVia_bind]
  refine wpVia_imp (wpVia_collect (fun _ _ => True) ?_ _ s trivial) (fun _ _ _ => trivial)
    (fun _ _ h => h)
  intro pending _ t _
  refine loadExportJournal_rule (fun _ => trivial) ?_
  intro journal _ hjournal
  exact wpVia_imp (advanceExport_changes _ hjournal) (fun _ _ _ => trivial) (fun _ _ h => h)

end

/-! ## Operations -/

section

variable {codec : Codec} {exporter : Exporter}

theorem discarding_changes {α : Type} {op : Operation} {prog : Op α} {s : Store}
    {ok : α → Store → Prop} {err : StorageError → Store → Prop}
    (h : wpVia (Change codec op) prog ok err s) :
    wpVia (Change codec op) (discarding prog) (fun _ _ => True) (fun _ _ => True) s := by
  unfold discarding
  rw [wpVia_bind]
  exact wpVia_imp h (fun _ _ _ => trivial) (fun _ _ _ => trivial)

/-- Whatever an operation does to the store is one of the listed writes. -/
theorem operation_changes (op : Operation) (s : Store) :
    wpVia (Change codec op) (op.program codec exporter) (fun _ _ => True) (fun _ _ => True) s := by
  cases op with
  | createSession => exact discarding_changes (createSession_changes rfl s)
  | resumeSessionCreations => exact discarding_changes (resumeSessionCreations_changes s)
  | appendEvent => exact discarding_changes (appendEvent_changes (by rfl) s)
  | appendEvents => exact discarding_changes (appendEvents_changes (fun _ hevent => hevent) s)
  | replay id afterSequence => exact discarding_changes (replay_changes id afterSequence s)
  | recordCommandOutcome => exact discarding_changes (recordCommandOutcome_changes rfl s)
  | lookupCommandOutcome sessionId requestId method parameters =>
    exact discarding_changes (lookupCommandOutcome_changes sessionId requestId method parameters s)
  | lookupPortCommand sessionId requestId =>
    have hlookup : wpVia (Change codec (.lookupPortCommand sessionId requestId))
        (lookupPortCommand sessionId requestId) (fun _ _ => True) (fun _ _ => True) s := by
      rw [← wpVia_bind_pure]
      exact lookupPortCommand_rule (fun _ => trivial) (fun _ _ => trivial) (fun _ _ => trivial)
    exact discarding_changes hlookup
  | recordPortCommand =>
    exact wpVia_imp (recordPortCommand_changes rfl s) (fun _ _ _ => trivial) (fun _ _ _ => trivial)
  | commitPortCommand => exact discarding_changes (commitPortCommand_changes s)
  | commitCommandEvent => exact discarding_changes (commitCommandEvent_changes s)
  | commitCommandEvents =>
    refine discarding_changes (commitCommandEvents_changes (fun _ hevent => hevent) ?_ s)
    exact fun hmethod event hevent => ⟨⟨event, hevent, rfl⟩, rfl, rfl, hmethod⟩
  | recoverUncertainAttempts => exact discarding_changes (recoverUncertainAttempts_changes rfl s)
  | storeSessionSpend id spendUsdMicros =>
    exact wpVia_imp (storeSessionSpend_changes id spendUsdMicros s) (fun _ _ h => h)
      (fun _ _ _ => trivial)
  | requestDeletion =>
    exact discarding_changes (requestDeletion_changes (by trivial) _ _ _ _ _ _ s)
  | resumeDeletions => exact discarding_changes (resumeDeletions_changes (.inr rfl) s)
  | runRetention now retentionDays draws =>
    exact discarding_changes (runRetention_changes (by trivial) now retentionDays draws s)
  | executeExport => exact discarding_changes (executeExport_changes rfl s)
  | resumeExports draws => exact discarding_changes (resumeExports_changes draws s)

/-- What every write of an allowed action keeps holds at every crash point of every run. -/
theorem changes_invariant {allowed : Store → Action → Prop} {I : Operation → Store → Prop}
    {J : Store → Prop}
    (hstart : ∀ s action, J s → allowed s action → I action.operation s)
    (hkeep : ∀ op s s', I op s → Change codec op s s' → I op s')
    (hend : ∀ op s, I op s → J s) {start s : Store} (hinit : J start)
    (hreach : Reaches (step codec exporter) allowed start s) :
    J s ∧ ∀ action, allowed s action → ∀ write ∈ action.writes codec exporter s,
      J write.1 ∧ J write.2 ∧
        (write.2 = write.1 ∨ Change codec action.operation write.1 write.2) := by
  have hwrites : ∀ t action, J t → allowed t action →
      I action.operation ((action.operation.program codec exporter).run action.faults t).2 ∧
        ∀ write ∈ action.writes codec exporter t,
          I action.operation write.1 ∧ I action.operation write.2 := by
    intro t action ht hallowed
    exact wpVia_invariant (hkeep action.operation)
      (@operation_changes codec exporter action.operation t)
      (hstart t action ht hallowed) action.faults
  have hholds : J s := by
    refine hreach.invariant hinit ?_
    rintro t action _ ht hallowed ⟨⟩
    exact hend _ _ (hwrites t action ht hallowed).1
  refine ⟨hholds, ?_⟩
  intro action hallowed write hwrite
  have hboth := (hwrites s action hholds hallowed).2 write hwrite
  have hchange := (wpVia_run (@operation_changes codec exporter action.operation s)
    action.faults).2 write hwrite
  exact ⟨hend _ _ hboth.1, hend _ _ hboth.2, hchange⟩

end

end Workbench.Sqlite
