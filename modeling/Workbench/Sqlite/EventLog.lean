import Workbench.Sqlite.Tables

/-!
# Sqlite: the event log

In every run of the storage the events of a session are numbered from one without a gap,
a write adds rows at the end or removes the session, and replaying from a cursor returns
what comes after it.  An operation that appends or commits and fails has changed nothing.
-/

namespace Workbench.Sqlite

open Workbench.Core Library Storage Program List Database

/-! ## Events as they are read back -/

/-- The metadata that the payload of a row must be sealed with. -/
def EventRow.data (row : EventRow) : AssociatedData where
  schemaVersion := 1
  sessionId := row.sessionId
  objectId := toString row.eventId
  sequence := row.sequence
  kind := row.kind

/-- The event that a row holds. -/
def EventRow.event (row : EventRow) : PersistedEvent where
  eventId := row.eventId
  sessionId := row.sessionId
  sequence := row.sequence
  occurredAt := row.occurredAt
  kind := row.kind
  causationRequestId := row.causationRequestId
  attemptId := row.attemptId
  effectClass := row.effectClass
  payload := row.payload.plaintext

variable {row : EventRow} {key : SecretKey} {α : Type} {db : Database} {id : Uuid} {s s' : Store}
  {codec : Codec} {cursor : Nat}

variable {ε β : Type} {f : α → Except ε β} {g : α → β} {items : List α} {keyId : KeyId}
  {inputs : List EventInput} {eventId : Uuid} {op : Operation} {prog : Op α}
  {T : Store → Store → Prop} {ok : Store → α → Store → Prop}

theorem mapM_ok_of_forall (h : ∀ item ∈ items, f item = .ok (g item)) :
    items.mapM f = .ok (items.map g) := by
  induction items with
  | nil => rfl
  | cons item rest ih =>
    obtain ⟨hitem, hrest⟩ := forall_mem_cons.mp h
    rw [mapM_cons, hitem, ih hrest]
    rfl

theorem eq_map_of_mapM_ok {results : List β}
    (hf : ∀ item ∈ items, ∀ result, f item = .ok result → result = g item)
    (h : items.mapM f = .ok results) : results = items.map g := by
  induction items generalizing results with
  | nil =>
    cases h
    rfl
  | cons item rest ih =>
    obtain ⟨hitem, hrest⟩ := forall_mem_cons.mp hf
    rw [mapM_cons] at h
    cases hfirst : f item with
    | error e => rw [hfirst] at h; cases h
    | ok first =>
      cases hothers : rest.mapM f with
      | error e => rw [hfirst, hothers] at h; cases h
      | ok others =>
        rw [hfirst, hothers] at h
        cases h
        rw [map_cons, hitem first hfirst, ih hrest hothers]

/-! ## Numbered logs -/

/-- The events of every session are numbered from one without a gap, in row order. -/
def Database.Gapless (db : Database) : Prop :=
  ∀ id, (db.eventsOf id).map (·.sequence) = range' 1 (db.eventsOf id).length

theorem Database.lastSequence_eq (h : db.Gapless) (id : Uuid) :
    db.lastSequence id = (db.eventsOf id).length := by
  rw [lastSequence, h id]
  have hmax : ∀ start count, (range' (start + 1) count).foldr max 0
      = if count = 0 then 0 else start + count := by
    intro start count
    induction count generalizing start with
    | zero => rfl
    | succ count ih =>
      rw [range'_succ, foldr_cons, ih (start + 1)]
      split <;> simp only [Nat.add_eq_zero_iff] <;> split <;> omega
  have hall := hmax 0 (db.eventsOf id).length
  rw [hall]
  split <;> omega

/-- In a gapless log, what comes after a cursor is what is left when it is passed. -/
theorem Database.eventsAfter_eq (h : db.Gapless) (id : Uuid) (cursor : Nat) :
    db.eventsAfter id cursor = (db.eventsOf id).filter (cursor < ·.sequence) := by
  refine Pairwise.insertionSort_eq (Pairwise.filter _ ?_)
  have hsorted : ((db.eventsOf id).map (·.sequence)).Pairwise (· ≤ ·) := by
    rw [h id]
    exact (pairwise_lt_range' 1).imp Nat.le_of_lt
  exact pairwise_map.mp hsorted

theorem Database.sequences_eventsAfter (h : db.Gapless) (id : Uuid) (cursor : Nat) :
    ((db.eventsAfter id cursor).map (·.sequence))
      = range' (cursor + 1) ((db.eventsOf id).length - cursor) := by
  rw [eventsAfter_eq h]
  have hfilter : ((db.eventsOf id).filter (cursor < ·.sequence)).map (·.sequence)
      = ((db.eventsOf id).map (·.sequence)).filter (cursor < ·) := by
    rw [filter_map]
    rfl
  rw [hfilter, h id]
  generalize (db.eventsOf id).length = count
  -- the numbers up to the cursor are dropped, those above it are kept
  by_cases hle : cursor ≤ count
  · obtain ⟨rest, rfl⟩ := Nat.exists_eq_add_of_le hle
    rw [← range'_append_1, filter_append]
    have hlow : (range' 1 cursor).filter (cursor < ·) = [] := by
      refine filter_eq_nil_iff.mpr fun n hn => ?_
      have hbound := mem_range'_1.mp hn
      simp only [decide_eq_true_eq]
      omega
    have hhigh : (range' (1 + cursor) rest).filter (cursor < ·)
        = range' (1 + cursor) rest := by
      refine filter_eq_self.mpr fun n hn => ?_
      have hbound := mem_range'_1.mp hn
      simp only [decide_eq_true_eq]
      omega
    rw [hlow, hhigh, nil_append, Nat.add_comm 1 cursor, Nat.add_sub_cancel_left]
  · have hnone : (range' 1 count).filter (cursor < ·) = [] := by
      refine filter_eq_nil_iff.mpr fun n hn => ?_
      have hbound := mem_range'_1.mp hn
      simp only [decide_eq_true_eq]
      omega
    rw [hnone, Nat.sub_eq_zero_of_le (by omega)]
    rfl

/-! ## The invariant -/

/-- A gapless log of existing sessions, sealed with the session's key unless it is being deleted. -/
structure EventLog (s : Store) : Prop where
  gapless : s.database.Gapless
  owned : ∀ row ∈ s.database.events, s.database.HasSession row.sessionId
  bound : ∀ row ∈ s.database.events, row.payload.associated = row.data
  sealedBy : ∀ id, s.database.HasSession id → s.database.deletion? id = none →
    ∃ key, s.keys id = some key ∧ ∀ row ∈ s.database.eventsOf id, row.payload.key = key

theorem Database.mem_eventsOf : row ∈ db.eventsOf id ↔ row ∈ db.events ∧ row.sessionId = id := by
  rw [eventsOf, mem_filter, decide_eq_true_eq]

theorem EventLog.eventsOf_eq_nil (h : EventLog s) (hsession : ¬ s.database.HasSession id) :
    s.database.eventsOf id = [] := by
  refine eq_nil_iff_forall_not_mem.mpr fun row hrow => ?_
  obtain ⟨hmem, rfl⟩ := mem_eventsOf.mp hrow
  exact hsession (h.owned row hmem)

/-- Nothing that the invariant speaks of has changed. -/
theorem EventLog.of_same (h : EventLog s) (hevents : s'.database.events = s.database.events)
    (hsessions : ∀ id, s'.database.HasSession id ↔ s.database.HasSession id)
    (hdeletions : s'.database.deletions = s.database.deletions) (hkeys : s'.keys = s.keys) :
    EventLog s' := by
  have hof : ∀ id, s'.database.eventsOf id = s.database.eventsOf id := by
    intro id
    rw [eventsOf, eventsOf, hevents]
  refine ⟨?_, ?_, ?_, ?_⟩
  · intro id
    rw [hof]
    exact h.gapless id
  · intro row hrow
    rw [hevents] at hrow
    exact (hsessions _).mpr (h.owned row hrow)
  · intro row hrow
    rw [hevents] at hrow
    exact h.bound row hrow
  · intro id hsession hdeletion
    rw [deletion?, hdeletions] at hdeletion
    rw [hof, hkeys]
    exact h.sealedBy id ((hsessions id).mp hsession) hdeletion

/-- A batch was appended under the key of its session; deletions may have been journaled. -/
theorem EventLog.of_appended (h : EventLog s) (hinputs : ∀ input ∈ inputs, input.sessionId = id)
    (hsession : s.database.HasSession id) (hkey : s.keys id = some key)
    (hevents : s'.database.events = (s.database.appended id keyId key inputs).events)
    (hsessions : ∀ id, s'.database.HasSession id ↔ s.database.HasSession id)
    (hdeletions : ∀ id, s'.database.deletion? id = none → s.database.deletion? id = none)
    (hkeys : s'.keys = s.keys) : EventLog s' := by
  have hof : ∀ other, s'.database.eventsOf other
      = (s.database.appended id keyId key inputs).eventsOf other := by
    intro other
    rw [eventsOf, eventsOf, hevents]
  have hmem : ∀ row ∈ s'.database.events, row ∈ s.database.events ∨
      ∃ input ∈ inputs, ∃ sequence, row = input.row sequence keyId key := by
    intro row hrow
    rw [hevents] at hrow
    rcases mem_append.mp hrow with hold | hnew
    · exact .inl hold
    · exact .inr (EventInput.mem_rows hnew)
  refine ⟨?_, ?_, ?_, ?_⟩
  · intro other
    rw [hof]
    by_cases hother : other = id
    · subst hother
      rw [eventsOf_appended_self _ keyId key hinputs, map_append,
        h.gapless other, EventInput.sequences_rows, lastSequence_eq h.gapless,
        length_append, EventInput.length_rows, ← range'_append_1, Nat.add_comm 1]
    · rw [eventsOf_appended_of_ne _ keyId key hinputs hother]
      exact h.gapless other
  · intro row hrow
    rw [hsessions]
    rcases hmem row hrow with hold | ⟨input, hinput, sequence, rfl⟩
    · exact h.owned row hold
    · have hid : (input.row sequence keyId key).sessionId = id := hinputs input hinput
      rw [hid]
      exact hsession
  · intro row hrow
    rcases hmem row hrow with hold | ⟨input, hinput, sequence, rfl⟩
    · exact h.bound row hold
    · rfl
  · intro other hother hdeletion
    obtain ⟨otherKey, hotherKey, hsealed⟩ :=
      h.sealedBy other ((hsessions other).mp hother) (hdeletions other hdeletion)
    refine ⟨otherKey, hkeys ▸ hotherKey, ?_⟩
    intro row hrow
    rw [hof] at hrow
    by_cases hsame : other = id
    · subst hsame
      rw [eventsOf_appended_self _ keyId key hinputs] at hrow
      rcases mem_append.mp hrow with hold | hnew
      · exact hsealed row hold
      · obtain ⟨input, -, sequence, rfl⟩ := EventInput.mem_rows hnew
        exact Option.some.inj (hkey.symm.trans hotherKey)
    · rw [eventsOf_appended_of_ne _ keyId key hinputs hsame] at hrow
      exact hsealed row hrow

theorem EventLog.of_created (h : EventLog s) {input : CreateSession}
    (hsession : ¬ s.database.HasSession input.sessionId)
    (hkey : s.keys input.sessionId = some key) :
    EventLog { s with database := s.database.created codec input eventId key } := by
  have hnone := h.eventsOf_eq_nil hsession
  have hself : (s.database.created codec input eventId key).eventsOf input.sessionId
      = [(input.createdEvent eventId).row 1 (.session input.sessionId) key] := by
    show (s.database.events ++ [_]).filter _ = _
    rw [filter_append]
    show s.database.eventsOf input.sessionId ++ _ = _
    rw [hnone, nil_append, filter_cons_of_pos (by exact decide_eq_true rfl)]
    rfl
  have hother : ∀ id, id ≠ input.sessionId →
      (s.database.created codec input eventId key).eventsOf id = s.database.eventsOf id := by
    intro id hne
    show (s.database.events ++ [_]).filter _ = _
    rw [filter_append, filter_cons_of_neg, filter_nil, append_nil]
    · rfl
    · rw [decide_eq_true_eq]
      exact fun heq => hne heq.symm
  refine ⟨?_, ?_, ?_, ?_⟩
  · intro id
    by_cases hid : id = input.sessionId
    · subst hid
      rw [hself]
      rfl
    · rw [hother id hid]
      exact h.gapless id
  · intro row hrow
    rw [hasSession_created]
    rcases mem_append.mp hrow with hold | hnew
    · exact .inl (h.owned row hold)
    · rw [mem_singleton.mp hnew]
      exact .inr rfl
  · refine forall_mem_append.mpr ⟨h.bound, forall_mem_singleton.mpr ?_⟩
    rfl
  · intro id hid hdeletion
    by_cases hsame : id = input.sessionId
    · subst hsame
      refine ⟨key, hkey, ?_⟩
      rw [hself]
      refine forall_mem_singleton.mpr ?_
      rfl
    · rw [hother id hsame]
      rcases hasSession_created.mp hid with hold | hnew
      · exact h.sealedBy id hold hdeletion
      · exact absurd hnew hsame

theorem EventLog.of_purged (h : EventLog s) (codec : Codec) (journal : DeletionRow) :
    EventLog { s with database := s.database.purged codec journal } := by
  refine ⟨?_, ?_, ?_, ?_⟩
  · intro id
    rw [eventsOf_purged]
    split
    · rfl
    · exact h.gapless id
  · intro row hrow
    obtain ⟨hmem, hne⟩ := mem_filter.mp hrow
    exact hasSession_purged.mpr ⟨h.owned row hmem, of_decide_eq_true hne⟩
  · intro row hrow
    exact h.bound row (mem_filter.mp hrow).1
  · intro id hid hdeletion
    obtain ⟨hsession, hne⟩ := hasSession_purged.mp hid
    rw [eventsOf_purged, if_neg hne]
    refine h.sealedBy id hsession ?_
    -- only the journal of the purged session is gone
    refine find?_eq_none.mpr fun row hrow => ?_
    rw [decide_eq_true_eq]
    intro hrowId
    have hkept : row ∈ s.database.deletions.filter (·.sessionId ≠ journal.sessionId) :=
      mem_filter.mpr ⟨hrow, decide_eq_true (hrowId ▸ hne)⟩
    exact find?_eq_none.mp hdeletion row hkept (decide_eq_true hrowId)

theorem EventLog.new (files : FileSystem) : EventLog (.new files) := by
  refine ⟨fun _ => rfl, forall_mem_nil _, forall_mem_nil _, ?_⟩
  intro id hsession
  cases hsession

theorem sessionId_deletionEvents {deletionId requestId : Uuid} {occurredAt : Time}
    {actor : String} :
    ∀ input ∈ [deletionEvent id deletionId requestId eventId occurredAt actor],
      input.sessionId = id := by
  refine forall_mem_singleton.mpr ?_
  rfl

theorem EventLog.change (h : EventLog s) (hchange : Change codec op s s') : EventLog s' := by
  have hkeys := keys_change hchange
  cases hchange with
  | append hinputs hsession hkey | commit hinputs hsession hkey =>
    exact h.of_appended (fun input hinput => (hinputs input hinput).2) hsession hkey rfl
      (by simp) (fun _ hnone => hnone) rfl
  | recordOutcome | recordPort | journalCreation | markCreation | closeCreation
  | journalExport | updateExport => exact h.of_same rfl (fun _ => Iff.rfl) rfl rfl
  | spend => exact h.of_same rfl (by simp) rfl rfl
  | createKey | destroyOrphan | destroyKey =>
    refine ⟨h.gapless, h.owned, h.bound, ?_⟩
    intro id hid hdeletion
    obtain ⟨key, hsome, hsealed⟩ := h.sealedBy id hid hdeletion
    refine ⟨key, ?_, hsealed⟩
    rcases hkeys id with hsame | ⟨hnone, -⟩ | ⟨-, hgone⟩
    · exact hsame.trans hsome
    · cases hnone.symm.trans hsome
    · exact absurd hdeletion (hgone hid)
  | commitCreation _ hsession hkey => exact h.of_created hsession hkey
  | journalDeletion _ hsession hkey =>
    exact h.of_appended sessionId_deletionEvents hsession hkey rfl (by simp)
      (fun _ hnone => (Option.or_eq_none_iff.mp (find?_append.symm.trans hnone)).1) rfl
  | @purge journal => exact h.of_purged codec journal
  | @commitExport _ _ event _ _ _ _ hsession hkey _ hevent =>
    rw [← hevent] at hsession hkey
    have hinputs : ∀ input ∈ [event], input.sessionId = event.sessionId := by
      intro input hinput
      rw [mem_singleton.mp hinput]
    exact h.of_appended hinputs hsession hkey rfl (by simp) (fun _ hnone => hnone) rfl
  | dropExport | interfere | removeStage | createStage | writeStage | publish =>
    exact h.of_same rfl (fun _ => Iff.rfl) rfl rfl

/-- At every crash point of every run, a session that exists and whose deletion is not journaled
has its key, and the next write leaves it that key. -/
theorem session_keys_kept {exporter : Exporter} (files : FileSystem)
    (hreach : Reaches (step codec exporter) anyAction (.new files) s) (action : Action) :
    ∀ write ∈ action.writes codec exporter s, ∀ id, write.1.database.HasSession id →
      write.1.database.deletion? id = none →
      ∃ key, write.1.keys id = some key ∧ write.2.keys id = some key := by
  intro write hwrite id hsession hdeletion
  obtain ⟨hlog, -, hchange⟩ := (changes_invariant (J := EventLog) (I := fun _ => EventLog)
    (fun _ _ h _ => h) (fun _ _ _ h hchange => h.change hchange) (fun _ _ h => h) (.new files)
    hreach).2 action trivial write hwrite
  obtain ⟨key, hkey, -⟩ := hlog.sealedBy id hsession hdeletion
  refine ⟨key, hkey, ?_⟩
  rcases hchange with hsame | hchange
  · rw [hsame, hkey]
  · rcases keys_change hchange id with hsame | ⟨hnone, -⟩ | ⟨-, hgone⟩
    · exact hsame.trans hkey
    · cases hnone.symm.trans hkey
    · exact absurd hdeletion (hgone hsession)

/-- Of two sessions one is deleted, up to a crash behind the destruction of its key. -/
theorem other_key_kept :
    let deletion : Action := ⟨.requestDeletion 2 9 10 0 "user" 11, replicate 10 false ++ [true]⟩
    ∃ s, Reaches (step plainCodec plainExporter) anyAction (.new emptyFiles) s ∧
      ∃ write ∈ deletion.writes plainCodec plainExporter s,
        (write.1.keys 2).isSome ∧ write.2.keys 2 = none ∧
        ∃ key, write.1.keys 1 = some key ∧ write.2.keys 1 = some key := by
  intro deletion
  obtain ⟨s, hreach, write, hwrite, hdestroyed, hsession, hdeletion⟩ :=
    @exists_reaches_of_execute _ _ (step plainCodec plainExporter) anyAction _ (.new emptyFiles)
      [⟨.createSession (plainCreation 1 3) 4 5, []⟩, ⟨.createSession (plainCreation 2 6) 7 8, []⟩,
        ⟨.appendEvent ⟨12, 2, 0, "session_completed", none, none, none, .null⟩, []⟩]
      (fun s => ∃ write ∈ deletion.writes plainCodec plainExporter s,
        ((write.1.keys 2).isSome ∧ write.2.keys 2 = none) ∧ write.1.database.HasSession 1 ∧
          write.1.database.deletion? 1 = none)
      (by decide +kernel)
  exact ⟨s, hreach, write, hwrite, hdestroyed.1, hdestroyed.2,
    session_keys_kept emptyFiles hreach deletion write hwrite 1 hsession hdeletion⟩

theorem Database.eventsOf_prefix_appended {other : Uuid}
    (hinputs : ∀ input ∈ inputs, input.sessionId = id) :
    db.eventsOf other <+: (db.appended id keyId key inputs).eventsOf other := by
  by_cases hother : other = id
  · subst hother
    rw [eventsOf_appended_self db keyId key hinputs]
    exact prefix_append _ _
  · rw [eventsOf_appended_of_ne db keyId key hinputs hother]

/-- A write adds rows at the end of a session's log or removes the session. -/
theorem eventsOf_change (hchange : Change codec op s s') (id : Uuid) :
    s.database.eventsOf id <+: s'.database.eventsOf id ∨ ¬ s'.database.HasSession id := by
  cases hchange with
  | append hinputs | commit hinputs =>
    exact .inl (eventsOf_prefix_appended fun input hinput => (hinputs input hinput).2)
  | journalDeletion => exact .inl (eventsOf_prefix_appended sessionId_deletionEvents)
  | commitExport =>
    refine .inl (eventsOf_prefix_appended ?_)
    intro input hinput
    rw [mem_singleton.mp hinput]
  | commitCreation =>
    refine .inl ?_
    show s.database.events.filter _ <+: (s.database.events ++ [_]).filter _
    rw [filter_append]
    exact prefix_append _ _
  | @purge journal =>
    by_cases hid : id = journal.sessionId
    · exact .inr fun hsession => (hasSession_purged.mp hsession).2 hid
    · refine .inl ?_
      rw [eventsOf_purged, if_neg hid]
  | _ => exact .inl prefix_rfl

/-! ## Replay -/

namespace Database

/-- The session has a row and is not being deleted. -/
def Live (db : Database) (id : Uuid) : Prop := db.HasSession id ∧ db.deletion? id = none

instance (db : Database) (id : Uuid) : Decidable (db.Live id) :=
  inferInstanceAs (Decidable (_ ∧ _))

/-- The events of a session whose sequence is greater than a cursor. -/
def eventsBeyond (db : Database) (id : Uuid) (cursor : Nat) : List PersistedEvent :=
  ((db.eventsOf id).filter (cursor < ·.sequence)).map (·.event)

theorem mem_eventsOf_of_mem_eventsAfter (h : row ∈ db.eventsAfter id cursor) :
    row ∈ db.eventsOf id := by
  rw [eventsAfter, mem_insertionSort] at h
  exact (mem_filter.mp h).1

end Database

/-- Whatever replay returns is what comes after the cursor. -/
theorem replay_ok (h : s.database.Gapless) {faults : List Bool} {events : List PersistedEvent}
    (hrun : ((replay id cursor).run faults s).1 = .ok events) :
    events = s.database.eventsBeyond id cursor := by
  have hspec : wpVia (fun _ _ => True) (replay id cursor)
      (fun events _ => events = s.database.eventsBeyond id cursor) (fun _ _ => True) s := by
    unfold replay
    split
    · trivial
    refine sessionKey_rule (fun _ => trivial) ?_
    intro key _
    refine query_rule (fun _ => trivial) ?_
    rw [← wpVia_bind_pure]
    refine lift_rule (fun _ _ => trivial) ?_
    intro results hrows
    rw [wpVia_pure, eq_map_of_mapM_ok ?_ hrows, eventsAfter_eq h, eventsBeyond]
    intro row hrow event hevent
    obtain ⟨-, rfl⟩ := mem_eventsOf.mp (mem_eventsOf_of_mem_eventsAfter hrow)
    unfold EventRow.decrypt at hevent
    split at hevent
    · cases hevent
    · next payload hpayload =>
      cases hevent
      rw [EventRow.event, EncryptedPayload.plaintext_of_decrypt hpayload]
  exact (wpVia_run hspec faults).1.of_ok hrun

/-- The log of a live session can be replayed from every cursor in range. -/
theorem replay_live (h : EventLog s) (hlive : s.database.Live id) (hcursor : cursor ≤ maxInteger) :
    (replay id cursor).run [] s = (.ok (s.database.eventsBeyond id cursor), s) := by
  obtain ⟨key, hkey, hsealed⟩ := h.sealedBy id hlive.1 hlive.2
  have hdecrypt : (s.database.eventsAfter id cursor).mapM (·.decrypt key id)
      = .ok ((s.database.eventsAfter id cursor).map (·.event)) := by
    refine mapM_ok_of_forall fun row hrow => ?_
    have hmem := mem_eventsOf_of_mem_eventsAfter hrow
    obtain ⟨hevent, rfl⟩ := mem_eventsOf.mp hmem
    unfold EventRow.decrypt EncryptedPayload.decrypt
    rw [if_pos ⟨hsealed row hmem, h.bound row hevent⟩]
    rfl
  rw [replay, if_neg (Nat.not_lt.mpr hcursor), run_bind_ok (run_sessionKey hkey)]
  rw [run_bind_ok (run_query_nil _), hdecrypt, run_lift, eventsAfter_eq h.gapless, eventsBeyond]

theorem replay_out_of_range (hcursor : maxInteger < cursor) (faults : List Bool) (s : Store) :
    (replay id cursor).run faults s
      = (.error (.invalidInput "cursor exceeds SQLite range"), s) := by
  rw [replay, if_pos hcursor]
  cases faults <;> rfl

/-! ## Failures -/

/-- A run that fails has left events, sessions and outcomes as they were. -/
def FailsClean {α : Type} (prog : Op α) : Prop :=
  ∀ s faults e, (prog.run faults s).1 = .error e →
    (prog.run faults s).2.database.events = s.database.events ∧
      (prog.run faults s).2.database.sessions = s.database.sessions ∧
      (prog.run faults s).2.database.outcomes = s.database.outcomes

theorem failsClean_of_same (h : ∀ s, wpVia T prog (ok s) (fun _ s' => s' = s) s) :
    FailsClean prog := by
  intro s faults e hrun
  rw [(wpVia_run (h s) faults).1.of_error hrun]
  exact ⟨rfl, rfl, rfl⟩

theorem failsClean_of_sameRecords (h : ∀ s, wpVia T prog (ok s) (fun _ => SameRecords s) s) :
    FailsClean prog := by
  intro s faults e hrun
  have hsame := (wpVia_run (h s) faults).1.of_error hrun
  exact ⟨hsame.2.2.2, hsame.2.2.1, hsame.1⟩

/-- Everything that appends events or commits a command fails clean. -/
structure CommitsFailClean (codec : Codec) : Prop where
  appendEvent : ∀ input, FailsClean (appendEvent input)
  appendEvents : ∀ events, FailsClean (appendEvents events)
  createSession : ∀ input eventId draw, FailsClean (createSession codec input eventId draw)
  recordCommandOutcome : ∀ scope requestId sessionId method parameters outcome,
    FailsClean (recordCommandOutcome codec scope requestId sessionId method parameters outcome)
  recordPortCommand : ∀ sessionId requestId record,
    FailsClean (recordPortCommand sessionId requestId record)
  commitPortCommand : ∀ requestId record input,
    FailsClean (commitPortCommand requestId record input)
  commitCommandEvent : ∀ requestId method parameters outcome event,
    FailsClean (commitCommandEvent codec requestId method parameters outcome event)
  commitCommandEvents : ∀ requestId method parameters outcome events,
    FailsClean (commitCommandEvents codec requestId method parameters outcome events)
  commitExportCommand : ∀ exportId requestId parameterHash outcome event,
    FailsClean (commitExportCommand codec exportId requestId parameterHash outcome event)

theorem commitsFailClean (codec : Codec) : CommitsFailClean codec where
  appendEvent input := by
    have hinput : (Operation.appendEvent input).Appends input := rfl
    exact failsClean_of_same fun s => @appendEvent_changes codec _ _ hinput s
  appendEvents events := by
    have hevents : ∀ event ∈ events, (Operation.appendEvents events).Appends event :=
      fun _ hevent => hevent
    exact failsClean_of_same fun s => @appendEvents_changes codec _ _ hevents s
  createSession input eventId draw :=
    failsClean_of_sameRecords fun s => createSession_changes rfl s
  recordCommandOutcome scope requestId sessionId method parameters outcome :=
    failsClean_of_same fun s => recordCommandOutcome_changes rfl s
  recordPortCommand sessionId requestId record :=
    failsClean_of_same fun s => @recordPortCommand_changes codec _ _ _ _ rfl s
  commitPortCommand requestId record input :=
    failsClean_of_same fun s => @commitPortCommand_changes codec _ _ _ s
  commitCommandEvent requestId method parameters outcome event :=
    failsClean_of_same fun s => commitCommandEvent_changes s
  commitCommandEvents requestId method parameters outcome events := by
    have hevents : ∀ event ∈ events,
        (Operation.commitCommandEvents requestId method parameters outcome events).Appends event :=
      fun _ hevent => hevent
    refine failsClean_of_same fun s => commitCommandEvents_changes hevents ?_ s
    intro hmethod event hevent
    exact ⟨⟨event, hevent, rfl⟩, rfl, rfl, hmethod⟩
  commitExportCommand exportId requestId parameterHash outcome event :=
    failsClean_of_sameRecords fun s =>
      @commitExportCommand_changes codec .resumeDeletions exportId requestId parameterHash outcome
        event s

/-! ## Runs -/

/-- A session that has been created and has recorded two events is live. -/
theorem exists_live : ∃ s, Reaches (step plainCodec plainExporter) anyAction (.new emptyFiles) s ∧
    decide (s.database.Live 1 ∧ (s.database.eventsOf 1).length = 3) :=
  exists_reaches_of_execute
    [⟨.createSession (plainCreation 1 2) 3 4, []⟩,
     ⟨.appendEvents [uncertainEvent 0 5 1 7, uncertainEvent 0 6 1 8], []⟩]
    ⟨_, rfl, by decide +kernel⟩

end Workbench.Sqlite
