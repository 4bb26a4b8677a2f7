import Workbench.Sqlite.DeletionInvariant

/-!
# Sqlite: crash safety of deletion

Deletion and export guard each other through their journals.  At every crash point of
every run a session has one journal at most, a tombstone stands for a session of which
neither a key nor a row is left, rows go only after the key, and a deletion that was cut
off ends in the tombstone that it would have made at once.
-/

namespace Workbench.Sqlite

open Workbench.Core Library Storage Program List Database

/-! ## What deletion promises -/

/-- What holds of a state. -/
structure DeletionSafe (s : Store) : Prop where
  /-- No session has the journal of an export and that of a deletion. -/
  exclusive : ∀ id, ¬ (s.database.hasExport id ∧ (s.database.deletion? id).isSome)
  /-- Neither the key nor a row is left of a session that has a tombstone. -/
  buried : ∀ id, (s.database.tombstone? id).isSome →
    s.keys id = none ∧ s.database.Forgotten id

/-- What holds of a write. -/
structure DeletesInOrder (codec : Codec) (s s' : Store) : Prop where
  /-- The key goes before any row. -/
  keyFirst : ∀ id, s.database.LosesRows s'.database id → s.keys id = none
  /-- A journaled deletion stays as it is until it has made its tombstone. -/
  settled : ∀ id, (s.database.deletion? id).isSome →
    s'.database.pendingTombstone codec id = s.database.pendingTombstone codec id ∨
      s'.database.tombstone? id = s.database.pendingTombstone codec id

theorem DeletesInOrder.refl (codec : Codec) (s : Store) : DeletesInOrder codec s s := by
  refine ⟨?_, fun _ _ => .inl rfl⟩
  rintro id (⟨hsession, hgone⟩ | ⟨row, hrow, hgone⟩ | ⟨row, hrow, -, hgone⟩)
  · exact absurd hsession hgone
  · exact absurd hrow hgone
  · exact absurd hrow hgone

variable {s : Store}

theorem DeletionInvariant.hasSession (h : DeletionInvariant s) {id : Uuid}
    (hid : (s.database.deletion? id).isSome) : s.database.HasSession id := by
  obtain ⟨journal, hjournal⟩ := Option.isSome_iff_exists.mp hid
  rw [← sessionId_of_deletion? hjournal]
  exact h.deleting journal (mem_of_find?_eq_some hjournal)

theorem DeletionInvariant.forgotten (h : DeletionInvariant s) {tombstone : TombstoneRow}
    (htombstone : tombstone ∈ s.database.tombstones) :
    s.database.Forgotten tombstone.sessionId := by
  obtain ⟨-, hsession, houtcomes⟩ := h.buried tombstone htombstone
  refine ⟨hsession, h.log.eventsOf_eq_nil hsession, houtcomes, ?_, ?_, ?_⟩
  · intro journal hjournal hsame
    exact (h.fresh journal hjournal).2 tombstone htombstone hsame.symm
  · rw [Bool.eq_false_iff]
    intro hexport
    obtain ⟨row, hrow, hsame⟩ := hasExport_eq_true.mp hexport
    exact hsession (hsame ▸ h.exporting row hrow)
  · rw [deletion?_eq_none]
    intro journal hjournal hsame
    exact hsession (hsame ▸ h.deleting journal hjournal)

theorem DeletionInvariant.safe (h : DeletionInvariant s) : DeletionSafe s where
  exclusive := by
    rintro id ⟨hexport, hdeletion⟩
    obtain ⟨row, hrow, rfl⟩ := hasExport_eq_true.mp hexport
    obtain ⟨journal, hjournal⟩ := Option.isSome_iff_exists.mp hdeletion
    exact h.exclusive row hrow journal (mem_of_find?_eq_some hjournal)
      (sessionId_of_deletion? hjournal).symm
  buried := by
    intro id hid
    obtain ⟨tombstone, htombstone, rfl⟩ := tombstone?_isSome.mp hid
    exact ⟨(h.buried tombstone htombstone).1, h.forgotten htombstone⟩

theorem Database.KeepsRows.not_losesRows {db db' : Database} (h : db.KeepsRows db') (id : Uuid) :
    ¬ db.LosesRows db' id := by
  rintro (⟨hsession, hgone⟩ | ⟨row, hrow, hgone⟩ | ⟨row, hrow, -, hgone⟩)
  · exact hgone (h.sessions id hsession)
  · obtain ⟨hmem, hid⟩ := mem_eventsOf.mp hrow
    exact hgone (mem_eventsOf.mpr ⟨h.events row hmem, hid⟩)
  · obtain ⟨added, houtcomes, -⟩ := h.outcomes
    rw [houtcomes] at hgone
    exact hgone (mem_append_left _ hrow)

theorem Database.sessionId_of_losesRows_purged {db : Database} {codec : Codec}
    {journal : DeletionRow} {id : Uuid} (h : db.LosesRows (db.purged codec journal) id) :
    id = journal.sessionId := by
  by_contra hne
  rcases h with ⟨hsession, hgone⟩ | ⟨row, hrow, hgone⟩ | ⟨row, hrow, hid, hgone⟩
  · exact hgone (hasSession_purged.mpr ⟨hsession, hne⟩)
  · rw [eventsOf_purged, if_neg hne] at hgone
    exact hgone hrow
  · refine hgone (mem_filter.mpr ⟨hrow, decide_eq_true ?_⟩)
    intro hsame
    exact hne (Option.some.inj (hid.symm.trans hsame))

theorem DeletionInvariant.deletesInOrder {codec : Codec} {op : Operation} {s' : Store}
    (h : DeletionInvariant s) (hchange : Change codec op s s') : DeletesInOrder codec s s' := by
  rcases keepsRows_or_purge hchange with hkeeps | ⟨journal, -, hjournal, -, hkey, rfl⟩
  · refine ⟨fun id hlost => absurd hlost (hkeeps.not_losesRows id), ?_⟩
    intro id hid
    obtain ⟨journal, hjournal⟩ := Option.isSome_iff_exists.mp hid
    exact .inl (hkeeps.pendingTombstone hjournal (h.hasSession hid))
  · refine ⟨?_, ?_⟩
    · intro id hlost
      rw [sessionId_of_losesRows_purged hlost]
      exact hkey
    intro id _
    by_cases hid : id = journal.sessionId
    · subst hid
      right
      rw [pendingTombstone_eq hjournal]
      exact tombstone?_purged s.database codec journal
    · exact .inl (pendingTombstone_purged_of_ne hid)

/-! ## Resumption -/

section

variable {codec : Codec} {s : Store} {id : Uuid}

theorem run_sessionKeyId {row : SessionRow} (hrow : s.database.session? id = some row) :
    (sessionKeyId id).run [] s = (.ok row.keyId, s) := by
  rw [sessionKeyId, run_bind_ok (run_query_nil _), hrow]
  exact run_pure _ _ _

theorem run_ensureNoPendingExport (hexport : s.database.hasExport id = false) :
    (ensureNoPendingExport id).run [] s = (.ok (), s) := by
  rw [ensureNoPendingExport, run_bind_ok (run_query_nil _), hexport]
  exact run_pure _ _ _

theorem run_finishDeletion {journal : DeletionRow}
    (hjournal : s.database.deletion? id = some journal)
    (hexport : s.database.hasExport id = false) :
    (finishDeletion codec id).run [] s
      = (.ok ⟨id, journal.deletionId, true⟩, s.finished codec journal) := by
  obtain rfl := sessionId_of_deletion? hjournal
  have hpurge : s.database.purge codec journal = .ok (s.database.purged codec journal) := by
    unfold purge deleteSession
    rw [show ({ s.database with
        outcomes := s.database.outcomes.filter (·.sessionId ≠ some journal.sessionId) } :
          Database).hasExport journal.sessionId = false from hexport]
    rfl
  unfold finishDeletion
  rw [run_bind_ok (run_ensureNoPendingExport hexport), run_bind_ok (run_query_nil _), hjournal]
  rw [run_bind_ok (run_destroySessionKey_nil _), run_bind_ok (run_execute hpurge)]
  rfl

/-- Finishing one deletion after the other, each makes the tombstone that it was to make. -/
theorem tombstone?_collect_finishDeletion (codec : Codec) (ids : List Uuid) (s : Store)
    (hnodup : ids.Nodup)
    (hdeletions : (s.database.deletions.map (·.deletionId)).Nodup)
    (hids : ∀ id ∈ ids, (s.database.deletion? id).isSome ∧ s.database.hasExport id = false) :
    let final := ((collect ids (finishDeletion codec)).run [] s).2.database
    (∀ id ∈ ids, final.tombstone? id = s.database.pendingTombstone codec id) ∧
      ∀ id ∉ ids, ∀ tombstone, s.database.tombstone? id = some tombstone →
        tombstone.deletionId ∉ s.database.deletions.map (·.deletionId) →
        final.tombstone? id = some tombstone := by
  induction ids generalizing s with
  | nil => exact ⟨forall_mem_nil _, fun _ _ _ hfound _ => hfound⟩
  | cons id rest ih =>
    obtain ⟨⟨hsome, hexport⟩, hrest⟩ := forall_mem_cons.mp hids
    obtain ⟨journal, hjournal⟩ := Option.isSome_iff_exists.mp hsome
    obtain rfl := sessionId_of_deletion? hjournal
    obtain ⟨hnew, hnodup⟩ := nodup_cons.mp hnodup
    have hne : ∀ id ∈ rest, id ≠ journal.sessionId := by
      rintro id hid rfl
      exact hnew hid
    -- the rest runs from the state that the first deletion leaves
    have hrun : ((collect (journal.sessionId :: rest) (finishDeletion codec)).run [] s).2
        = ((collect rest (finishDeletion codec)).run [] (s.finished codec journal)).2 := by
      show ((finishDeletion codec journal.sessionId >>= fun result =>
        collect rest (finishDeletion codec) >>= fun results => pure (result :: results)).run [] s).2
          = _
      rw [run_bind_nil, run_finishDeletion hjournal hexport]
      exact run_bind_pure_snd _ _ [] _
    have hsub : ((s.finished codec journal).database.deletions.map (·.deletionId)).Sublist
        (s.database.deletions.map (·.deletionId)) := filter_sublist.map _
    obtain ⟨hdone, hkept⟩ := ih (s.finished codec journal) hnodup (hdeletions.sublist hsub) (by
      intro id hid
      obtain ⟨hpending, hfree⟩ := hrest id hid
      refine ⟨?_, hfree⟩
      exact (congrArg Option.isSome (deletion?_purged_of_ne (hne id hid))).trans hpending)
    rw [hrun]
    refine ⟨?_, ?_⟩
    · intro id hid
      rcases mem_cons.mp hid with rfl | hmem
      · rw [pendingTombstone_eq hjournal]
        refine hkept journal.sessionId hnew _ (s.database.tombstone?_purged codec journal) ?_
        -- no other deletion has the identifier of this one
        intro hmem
        obtain ⟨other, hother, hsame⟩ := mem_map.mp hmem
        obtain ⟨hold, hkeep⟩ := mem_filter.mp hother
        have hequal := inj_on_of_nodup_map hdeletions hold (mem_of_find?_eq_some hjournal) hsame
        exact of_decide_eq_true hkeep (congrArg _ hequal)
      · rw [hdone id hmem]
        exact pendingTombstone_purged_of_ne (hne id hmem)
    · intro id hid tombstone hfound hfree
      have hother : id ≠ journal.sessionId := fun hsame => hid (hsame ▸ mem_cons_self)
      refine hkept id (fun hmem => hid (mem_cons_of_mem _ hmem)) tombstone ?_ ?_
      · refine tombstone?_purged_of_ne hother hfound ?_
        intro hsame
        exact hfree (hsame ▸ mem_map_of_mem (mem_of_find?_eq_some hjournal))
      · intro hmem
        exact hfree (hsub.subset hmem)

/-- Resuming without faults makes the tombstone of every journaled deletion. -/
theorem DeletionInvariant.tombstone?_resumeDeletions (h : DeletionInvariant s)
    (hid : (s.database.deletion? id).isSome) :
    ((resumeDeletions codec).run [] s).2.database.tombstone? id
      = s.database.pendingTombstone codec id := by
  have hperm := perm_insertionSort (· ≤ ·) (s.database.deletions.map (·.sessionId))
  have hjournals : ∀ other ∈ (s.database.deletions.map (·.sessionId)).insertionSort (· ≤ ·),
      (s.database.deletion? other).isSome = true ∧ s.database.hasExport other = false := by
    intro other hother
    obtain ⟨journal, hjournal, rfl⟩ := mem_map.mp (hperm.mem_iff.mp hother)
    refine ⟨?_, ?_⟩
    · rw [deletion?, find?_isSome]
      exact ⟨journal, hjournal, decide_eq_true rfl⟩
    · rw [Bool.eq_false_iff]
      intro hexport
      obtain ⟨row, hrow, hsame⟩ := hasExport_eq_true.mp hexport
      exact h.exclusive row hrow journal hjournal hsame
  have hfinal := (tombstone?_collect_finishDeletion codec _ s
    (hperm.nodup_iff.mpr h.tables.deletions) h.tables.deletionIds hjournals).1
  refine hfinal id (hperm.mem_iff.mpr ?_)
  obtain ⟨journal, hjournal⟩ := Option.isSome_iff_exists.mp hid
  rw [← sessionId_of_deletion? hjournal]
  exact mem_map_of_mem (mem_of_find?_eq_some hjournal)

/-- Proper actions that are taken while the deletion of a session is journaled. -/
def Awaiting (id : Uuid) (s : Store) (action : Action) : Prop :=
  ProperIds s action ∧ (s.database.deletion? id).isSome

/-- The deletion of a session still leads to this tombstone, or it has just been finished. -/
def StillPending (codec : Codec) (id : Uuid) (pending : Option TombstoneRow) (op : Operation)
    (s : Store) : Prop :=
  ((s.database.deletion? id).isSome ∧ s.database.pendingTombstone codec id = pending) ∨
    (¬ s.database.HasSession id ∧ op.Deletes)

theorem DeletionInvariant.stillPending {pending : Option TombstoneRow} {op : Operation}
    {s' : Store} (h : DeletionInvariant s) (hpending : StillPending codec id pending op s)
    (hchange : Change codec op s s') : StillPending codec id pending op s' := by
  rcases hpending with ⟨hsome, rfl⟩ | ⟨hgone, hdeletes⟩
  · rcases keepsRows_or_purge hchange with hkeeps | ⟨purged, hdeletes, -, -, -, rfl⟩
    · obtain ⟨journal, hjournal⟩ := Option.isSome_iff_exists.mp hsome
      exact .inl ⟨Option.isSome_of_eq_some (hkeeps.deletion? hjournal),
        hkeeps.pendingTombstone hjournal (h.hasSession hsome)⟩
    · by_cases hsame : id = purged.sessionId
      · exact .inr ⟨fun hsession => (hasSession_purged.mp hsession).2 hsame, hdeletes⟩
      · exact .inl ⟨(congrArg Option.isSome (deletion?_purged_of_ne hsame)).trans hsome,
          pendingTombstone_purged_of_ne hsame⟩
  · refine .inr ⟨?_, hdeletes⟩
    intro hsession
    rcases hasSession_change hchange hsession with hold | ⟨_, _, _, rfl, -⟩
    · exact hgone hold
    · rcases hdeletes with hrequests | hresumes
      · cases hrequests
      · cases hresumes

/-- What a journaled deletion leads to does not change as long as it is journaled. -/
theorem DeletionInvariant.pendingTombstone_reaches {exporter : Exporter} {later : Store}
    (h : DeletionInvariant s) (hreach : Reaches (step codec exporter) (Awaiting id) s later)
    (hid : (later.database.deletion? id).isSome) :
    DeletionInvariant later ∧
      later.database.pendingTombstone codec id = s.database.pendingTombstone codec id := by
  obtain ⟨⟨hinvariant, hpending⟩, -⟩ := changes_invariant
    (J := fun t => DeletionInvariant t ∧ ((t.database.deletion? id).isSome = true →
      t.database.pendingTombstone codec id = s.database.pendingTombstone codec id))
    (I := fun op t => DeletionInvariant t ∧ op.ProperIds t.database ∧
      StillPending codec id (s.database.pendingTombstone codec id) op t)
    (fun _ _ ht hallowed => ⟨ht.1, hallowed.1, .inl ⟨hallowed.2, ht.2 hallowed.2⟩⟩)
    (fun _ _ _ ht hchange => ⟨ht.1.change hchange ht.2.1, ht.2.1.change hchange,
      ht.1.stillPending ht.2.2 hchange⟩)
    (by
      rintro op t ⟨hinvariant, -, hpending⟩
      refine ⟨hinvariant, ?_⟩
      intro hsome
      rcases hpending with ⟨-, hpending⟩ | ⟨hgone, -⟩
      · exact hpending
      · exact absurd (hinvariant.hasSession hsome) hgone)
    ⟨h, fun _ => rfl⟩ hreach
  exact ⟨hinvariant, hpending hid⟩

/-- A request that passes every check is carried out at once. -/
theorem run_requestDeletion {deletionId requestId eventId : Uuid} {occurredAt : Time}
    {actor : String} {row : SessionRow} {key : SecretKey} {db : Database}
    (htombstone : s.database.tombstone? id = none) (hexport : s.database.hasExport id = false)
    (hrow : s.database.session? id = some row) (hdeletable : isDeletable row.state)
    (hdeletion : s.database.deletion? id = none) (hkey : s.keys id = some key)
    (hjournal : s.database.journalDeletion ⟨id, deletionId, requestId⟩
      (deletionEvent id deletionId requestId eventId occurredAt actor) row.keyId key = .ok db) :
    ((requestDeletion codec id deletionId requestId occurredAt actor eventId).run [] s).2
      = Store.finished codec { s with database := db } ⟨id, deletionId, requestId⟩ := by
  obtain ⟨-, hdb⟩ := journalDeletion_eq hjournal
  have hfound : db.deletion? id = some ⟨id, deletionId, requestId⟩ := by
    rw [hdb]
    exact @deletion?_deleting _ ⟨id, deletionId, requestId⟩ _ _ _ hdeletion
  have hfree : db.hasExport id = false := by
    rw [hdb]
    exact hexport
  unfold requestDeletion
  rw [run_bind_ok (run_query_nil _), htombstone]
  rw [run_bind_ok (run_ensureNoPendingExport hexport), run_bind_ok (run_query_nil _), hrow]
  dsimp only
  rw [hdeletable, if_neg Bool.true_eq_false.mp, run_bind_ok (run_query_nil _), hdeletion]
  rw [run_bind_ok (run_sessionKeyId hrow), run_bind_ok (run_sessionKey hkey)]
  rw [run_bind_ok (run_execute hjournal), run_finishDeletion hfound hfree]

theorem finishDeletion_purges {P : Store → Prop}
    (h : ∀ s', s'.database = s.database ∨ s'.database.deletion? id = none → P s') :
    wpVia (fun _ _ => True) (finishDeletion codec id) (fun _ => P) (fun _ => P) s := by
  refine finishDeletion_rule (fun _ => h _ (.inl rfl)) ?_
  rintro journal _ rfl _
  exact ⟨trivial, fun _ => h _ (.inl rfl), trivial, h _ (.inr deletion?_purged_self)⟩

/-- A journaled deletion, under whatever faults, ends in its tombstone without faults. -/
theorem requestDeletion_resumable (hnone : s.database.deletion? id = none)
    (deletionId requestId : Uuid) (occurredAt : Time) (actor : String) (eventId : Uuid)
    (faults : List Bool) :
    let request := requestDeletion codec id deletionId requestId occurredAt actor eventId
    ((request.run faults s).2.database.deletion? id).isSome = true →
      (request.run [] s).2.database.tombstone? id
        = (request.run faults s).2.database.pendingTombstone codec id := by
  intro request
  refine wpVia_run_final (T := fun _ _ => True) (P := fun s' =>
    (s'.database.deletion? id).isSome = true →
      (request.run [] s).2.database.tombstone? id = s'.database.pendingTombstone codec id)
    (requestDeletion_rule ?_ ?_ ?_ ?_) faults
  · intro _ hsome
    rw [hnone] at hsome
    cases hsome
  · intro _ _ _ hsome
    rw [hnone] at hsome
    cases hsome
  · intro journal hjournal
    rw [hnone] at hjournal
    cases hjournal
  intro row key db htombstone hexport hrow hdeletable _ hkey hjournal
  refine ⟨trivial, finishDeletion_purges ?_⟩
  rintro s' (hdb | hgone) hsome
  · rw [run_requestDeletion htombstone hexport hrow hdeletable hnone hkey hjournal]
    obtain ⟨-, hdeleting⟩ := journalDeletion_eq hjournal
    have hfound : s'.database.deletion? id = some ⟨id, deletionId, requestId⟩ := by
      rw [hdb, hdeleting]
      exact @deletion?_deleting _ ⟨id, deletionId, requestId⟩ _ _ _ hnone
    rw [pendingTombstone_eq hfound, hdb]
    exact tombstone?_purged db codec ⟨id, deletionId, requestId⟩
  · rw [hgone] at hsome
    cases hsome

end

/-! ## Runs -/

theorem run_discarding {α : Type} (prog : Op α) (faults : List Bool) (s : Store) :
    ((discarding prog).run faults s).2 = (prog.run faults s).2 :=
  run_bind_pure_snd prog (fun _ => ()) faults s

/-- Crash-safe deletion: at every crash point of every run no session has two journals, a
tombstone stands for a session without key and rows, and rows go only after the key.
Resuming a deletion that was cut off, after whatever was done in between, makes the tombstone
that the request would have made at once. -/
theorem deletion_crash_safe (codec : Codec) (exporter : Exporter) (files : FileSystem) {s : Store}
    (hreach : Reaches (step codec exporter) ProperIds (.new files) s) :
    DeletionSafe s ∧
      (∀ action, ProperIds s action → ∀ write ∈ action.writes codec exporter s,
        DeletionSafe write.1 ∧ DeletionSafe write.2 ∧ DeletesInOrder codec write.1 write.2) ∧
      (∀ id, (s.database.deletion? id).isSome →
        ∀ later, Reaches (step codec exporter) (Awaiting id) s later →
          (later.database.deletion? id).isSome →
          ∀ resumed, step codec exporter later ⟨.resumeDeletions, []⟩ = some resumed →
            resumed.database.tombstone? id = s.database.pendingTombstone codec id) ∧
      ∀ id deletionId requestId occurredAt actor eventId, s.database.deletion? id = none →
        let request := Operation.requestDeletion id deletionId requestId occurredAt actor eventId
        ∀ faults cut, step codec exporter s ⟨request, faults⟩ = some cut →
          (cut.database.deletion? id).isSome = true →
          ∀ finished, step codec exporter s ⟨request, []⟩ = some finished →
            finished.database.tombstone? id = cut.database.pendingTombstone codec id := by
  obtain ⟨hinvariant, hwrites⟩ := changes_invariant
    (I := fun op t => DeletionInvariant t ∧ op.ProperIds t.database)
    (fun _ _ h hallowed => ⟨h, hallowed⟩)
    (fun _ _ _ h hchange => ⟨h.1.change hchange h.2, h.2.change hchange⟩) (fun _ _ h => h.1)
    (.new files) hreach
  refine ⟨hinvariant.safe, ?_, ?_, ?_⟩
  · intro action hallowed write hwrite
    obtain ⟨hbefore, hafter, hchange⟩ := hwrites action hallowed write hwrite
    refine ⟨hbefore.safe, hafter.safe, ?_⟩
    rcases hchange with hsame | hchange
    · rw [hsame]
      exact .refl codec write.1
    · exact hbefore.deletesInOrder hchange
  · rintro id _ later hlater hid _ ⟨⟩
    obtain ⟨hlaterInvariant, hpending⟩ := hinvariant.pendingTombstone_reaches hlater hid
    rw [← hpending, Operation.program, run_discarding]
    exact hlaterInvariant.tombstone?_resumeDeletions hid
  · rintro id deletionId requestId occurredAt actor eventId hnone request faults _ ⟨⟩ hid _ ⟨⟩
    simp only [request, Operation.program, run_discarding] at hid ⊢
    exact requestDeletion_resumable hnone deletionId requestId occurredAt actor eventId faults hid

/-- A deletion that is cut off after its journal has been written is finished by recovery. -/
theorem interrupted_deletion_resumed : ∃ s, (s.database.deletion? 1).isSome ∧
    DeletionSafe s ∧ ∀ resumed,
      step plainCodec plainExporter s ⟨.resumeDeletions, []⟩ = some resumed →
        resumed.database.tombstone? 1 = s.database.pendingTombstone plainCodec 1 := by
  have hrun : ∃ s, Reaches (step plainCodec plainExporter) ProperIds (.new emptyFiles) s ∧
      (s.database.deletion? 1).isSome = true :=
    exists_reaches_of_execute
      [⟨.createSession (plainCreation 1 2) 3 4, []⟩,
        ⟨.appendEvent ⟨5, 1, 0, "session_completed", none, none, none, .null⟩, []⟩,
        ⟨.requestDeletion 1 6 7 0 "user" 8,
          [false, false, false, false, false, false, false, true]⟩]
      ⟨_, rfl, by decide +kernel⟩
  obtain ⟨s, hreach, hid⟩ := hrun
  obtain ⟨hsafe, -, hresumed, -⟩ :=
    deletion_crash_safe plainCodec plainExporter emptyFiles hreach
  exact ⟨s, hid, hsafe, hresumed 1 hid s .start hid⟩

end Workbench.Sqlite
