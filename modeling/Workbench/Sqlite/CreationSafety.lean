import Workbench.Sqlite.EventLog

/-!
# Sqlite: crash safety of session creation

Creation spans the database and the key store.  As long as no deletion is requested, at
every crash point of every run each session row has its key, each key has a session row or
a creation journal, one creation request makes at most one session, and the key of a
session never changes.
-/

namespace Workbench.Sqlite

open Workbench.Core Library Storage Program List Database

/-! ## Keys and their owners -/

/-- Every key belongs to a session or to a creation that is still journaled. -/
def KeysOwned (s : Store) : Prop :=
  ∀ id, (s.keys id).isSome →
    s.database.HasSession id ∨ ∃ journal ∈ s.database.creations, journal.sessionId = id

variable {s s' : Store} {codec : Codec} {op : Operation}

theorem KeysOwned.of_same (h : KeysOwned s) (hkeys : s'.keys = s.keys)
    (hsessions : ∀ id, s'.database.HasSession id ↔ s.database.HasSession id)
    (hcreations : s'.database.creations = s.database.creations) : KeysOwned s' := by
  intro id hkey
  rw [hkeys] at hkey
  rw [hcreations, hsessions]
  exact h id hkey

theorem KeysOwned.change (h : KeysOwned s) (hquiet : s.database.deletions = [])
    (hchange : Change codec op s s') : KeysOwned s' := by
  have hkeys := keys_change hchange
  cases hchange with
  | append | commit | spend | journalDeletion | commitExport => exact h.of_same rfl (by simp) rfl
  | journalCreation =>
    intro id hkey
    refine (h id hkey).imp (fun hsession => hsession) ?_
    rintro ⟨journal, hjournal, hid⟩
    exact ⟨journal, mem_append_left _ hjournal, hid⟩
  | createKey | destroyOrphan | destroyKey =>
    intro id hkey
    rcases hkeys id with hsame | ⟨-, hjournal⟩ | ⟨hnone, -⟩
    · exact h id (hsame ▸ hkey)
    · exact .inr hjournal
    · rw [hnone] at hkey
      cases hkey
  | @markCreation marked =>
    intro id hkey
    refine (h id hkey).imp (fun hsession => hsession) ?_
    rintro ⟨journal, hjournal, hid⟩
    refine ⟨_, mem_map.mpr ⟨journal, hjournal, rfl⟩, ?_⟩
    split
    · exact hid
    · exact hid
  | @commitCreation input =>
    intro id hkey
    by_cases hid : id = input.sessionId
    · exact .inl (hasSession_created.mpr (.inr hid))
    refine (h id hkey).imp (fun hsession => hasSession_created.mpr (.inl hsession)) ?_
    rintro ⟨journal, hjournal, rfl⟩
    refine ⟨journal, mem_filter.mpr ⟨hjournal, decide_eq_true ?_⟩, rfl⟩
    rintro ⟨hsame, -⟩
    exact hid hsame
  | @closeCreation closed hsettled =>
    intro id hkey
    rcases h id hkey with hsession | ⟨journal, hjournal, rfl⟩
    · exact .inl hsession
    by_cases hclosed : journal = closed
    · subst hclosed
      refine hsettled.imp (fun hsession => hsession) fun hnone => ?_
      rw [show s.keys journal.sessionId = none from hnone] at hkey
      cases hkey
    · have hkept : (!decide (journal = closed)) := by
        rw [decide_eq_false hclosed]
        rfl
      exact .inr ⟨journal, mem_filter.mpr ⟨hjournal, hkept⟩, rfl⟩
  | purge _ hjournal =>
    rw [deletion?, hquiet] at hjournal
    cases hjournal
  | recordOutcome | recordPort | journalExport | updateExport | dropExport | interfere
  | removeStage | createStage | writeStage | publish => exact h

/-! ## The request that made a session -/

namespace Database

/-- The first event of a session names the request that created it. -/
def CreatedBy (db : Database) (requestId id : Uuid) : Prop :=
  ∃ row ∈ db.eventsOf id, row.sequence = 1 ∧ row.causationRequestId = some requestId

/-- Each session has a first event, and its request is recorded for that session. -/
structure CreationsRecorded (db : Database) : Prop where
  started : ∀ id, db.HasSession id → db.eventsOf id ≠ []
  recorded : ∀ row ∈ db.events, row.sequence = 1 → ∃ outcome ∈ db.outcomes,
    outcome.scope = .daemon ∧ row.causationRequestId = some outcome.requestId ∧
      outcome.sessionId = some row.sessionId

variable {db : Database}

theorem CreationsRecorded.of_appended {db' : Database} (h : db.CreationsRecorded)
    (hgapless : db.Gapless) {id : Uuid} {keyId : KeyId} {key : SecretKey} {inputs : List EventInput}
    (hinputs : ∀ input ∈ inputs, input.sessionId = id) (hsession : db.HasSession id)
    (hevents : db'.events = (db.appended id keyId key inputs).events)
    (hsessions : ∀ id, db'.HasSession id ↔ db.HasSession id)
    (houtcomes : ∀ row ∈ db.outcomes, row ∈ db'.outcomes) : db'.CreationsRecorded := by
  refine ⟨?_, ?_⟩
  · intro other hother
    have hprefix : db.eventsOf other <+: db'.eventsOf other := by
      rw [show db'.eventsOf other = (db.appended id keyId key inputs).eventsOf other by
        rw [eventsOf, eventsOf, hevents]]
      exact eventsOf_prefix_appended hinputs
    intro hnil
    rw [hnil] at hprefix
    exact h.started other ((hsessions other).mp hother) (prefix_nil.mp hprefix)
  · intro row hrow hfirst
    rw [hevents] at hrow
    rcases mem_append.mp hrow with hold | hnew
    · obtain ⟨outcome, houtcome, hfacts⟩ := h.recorded row hold hfirst
      exact ⟨outcome, houtcomes outcome houtcome, hfacts⟩
    -- the session already has a first event
    have hlast : 0 < db.lastSequence id := by
      rw [lastSequence_eq hgapless]
      exact length_pos_iff.mpr (h.started id hsession)
    have hsequence : row.sequence ∈ range' (db.lastSequence id + 1) inputs.length := by
      rw [← EventInput.sequences_rows keyId key]
      exact mem_map_of_mem hnew
    have hbound := mem_range'_1.mp hsequence
    omega

theorem CreationsRecorded.of_same {db' : Database} (h : db.CreationsRecorded)
    (hevents : db'.events = db.events) (hsessions : ∀ id, db'.HasSession id ↔ db.HasSession id)
    (houtcomes : ∀ row ∈ db.outcomes, row ∈ db'.outcomes) : db'.CreationsRecorded := by
  refine ⟨?_, ?_⟩
  · intro id hid
    rw [eventsOf, hevents]
    exact h.started id ((hsessions id).mp hid)
  · intro row hrow hfirst
    rw [hevents] at hrow
    obtain ⟨outcome, houtcome, hfacts⟩ := h.recorded row hrow hfirst
    exact ⟨outcome, houtcomes outcome houtcome, hfacts⟩

theorem CreationsRecorded.of_created (h : db.CreationsRecorded) (codec : Codec)
    (input : CreateSession) (eventId : Uuid) (key : SecretKey) :
    (db.created codec input eventId key).CreationsRecorded := by
  have hprefix : ∀ id, db.eventsOf id <+: (db.created codec input eventId key).eventsOf id := by
    intro id
    show db.events.filter _ <+: (db.events ++ [_]).filter _
    rw [filter_append]
    exact prefix_append _ _
  refine ⟨?_, ?_⟩
  · intro id hid
    rcases hasSession_created.mp hid with hold | rfl
    · intro hnil
      have hnone := hprefix id
      rw [hnil] at hnone
      exact h.started id hold (prefix_nil.mp hnone)
    · have hcreated : (input.createdEvent eventId).row 1 (.session input.sessionId) key
          ∈ (db.created codec input eventId key).eventsOf input.sessionId :=
        mem_eventsOf.mpr ⟨mem_append_right _ (mem_singleton_self _), rfl⟩
      exact ne_nil_of_mem hcreated
  · intro row hrow hfirst
    rcases mem_append.mp hrow with hold | hnew
    · obtain ⟨outcome, houtcome, hfacts⟩ := h.recorded row hold hfirst
      exact ⟨outcome, mem_append_left _ houtcome, hfacts⟩
    · rw [mem_singleton.mp hnew]
      exact ⟨_, mem_append_right _ (mem_singleton_self _), rfl, rfl, rfl⟩

theorem CreationsRecorded.change (h : s.database.CreationsRecorded) (hgapless : s.database.Gapless)
    (hquiet : s.database.deletions = []) (hchange : Change codec op s s') :
    s'.database.CreationsRecorded := by
  cases hchange with
  | append hinputs hsession =>
    exact h.of_appended hgapless (fun input hinput => (hinputs input hinput).2) hsession rfl
      (by simp) (fun _ hrow => hrow)
  | commit hinputs hsession =>
    exact h.of_appended hgapless (fun input hinput => (hinputs input hinput).2) hsession rfl
      (by simp) (fun _ hrow => mem_append_left _ hrow)
  | journalDeletion _ hsession =>
    exact h.of_appended hgapless sessionId_deletionEvents hsession rfl (by simp)
      (fun _ hrow => hrow)
  | @commitExport _ _ event _ _ _ _ hsession _ _ hevent =>
    rw [← hevent] at hsession
    have hinputs : ∀ input ∈ [event], input.sessionId = event.sessionId := by
      intro input hinput
      rw [mem_singleton.mp hinput]
    exact h.of_appended hgapless hinputs hsession rfl (by simp)
      (fun _ hrow => mem_append_left _ hrow)
  | @commitCreation input eventId draw key => exact h.of_created codec input eventId key
  | purge _ hjournal =>
    rw [deletion?, hquiet] at hjournal
    cases hjournal
  | spend =>
    exact h.of_same rfl (by simp) (fun _ hrow => hrow)
  | recordOutcome | recordPort =>
    exact h.of_same rfl (fun _ => Iff.rfl) (fun _ hrow => mem_append_left _ hrow)
  | _ => exact h.of_same rfl (fun _ => Iff.rfl) (fun _ hrow => hrow)

/-- One request creates one session. -/
theorem CreationsRecorded.unique (h : db.CreationsRecorded) (htables : db.WellFormed)
    {requestId first second : Uuid} (hfirst : db.CreatedBy requestId first)
    (hsecond : db.CreatedBy requestId second) : first = second := by
  obtain ⟨row, hrow, hsequence, hcausation⟩ := hfirst
  obtain ⟨other, hother, hotherSequence, hotherCausation⟩ := hsecond
  obtain ⟨hmem, rfl⟩ := mem_eventsOf.mp hrow
  obtain ⟨hotherMem, rfl⟩ := mem_eventsOf.mp hother
  obtain ⟨outcome, houtcome, hscope, hrequest, hsession⟩ := h.recorded row hmem hsequence
  obtain ⟨again, hagain, hagainScope, hagainRequest, hagainSession⟩ :=
    h.recorded other hotherMem hotherSequence
  -- both are the one outcome of the request in the daemon's scope
  have hkeys : (outcome.scope, outcome.requestId) = (again.scope, again.requestId) := by
    rw [hscope, hagainScope]
    rw [hcausation] at hrequest
    rw [hotherCausation] at hagainRequest
    rw [← Option.some.inj hrequest, ← Option.some.inj hagainRequest]
  have hsame := inj_on_of_nodup_map htables.outcomes houtcome hagain hkeys
  rw [hsame, hagainSession] at hsession
  exact (Option.some.inj hsession).symm

end Database

/-! ## Runs -/

instance (op : Operation) : Decidable op.RequestsDeletion := by
  cases op <;> unfold Operation.RequestsDeletion <;> infer_instance

/-- The action does not ask for a deletion. -/
def KeepsSessions (_ : Store) (action : Action) : Prop := ¬ action.operation.RequestsDeletion

instance (s : Store) (action : Action) : Decidable (KeepsSessions s action) :=
  inferInstanceAs (Decidable (¬ _))

/-- What holds at every crash point when no deletion is requested. -/
structure CreationInvariant (s : Store) : Prop where
  log : EventLog s
  tables : s.database.WellFormed
  quiet : s.database.deletions = []
  owned : KeysOwned s
  recorded : s.database.CreationsRecorded

theorem CreationInvariant.new (files : FileSystem) : CreationInvariant (.new files) where
  log := .new files
  tables := .empty
  quiet := rfl
  owned := by
    intro id hkey
    cases hkey
  recorded := by
    refine ⟨?_, forall_mem_nil _⟩
    intro id hid
    cases hid

variable (h : CreationInvariant s)
include h

theorem CreationInvariant.change (hop : ¬ op.RequestsDeletion) (hchange : Change codec op s s') :
    CreationInvariant s' where
  log := h.log.change hchange
  tables := h.tables.change hchange
  quiet := by
    cases hchange with
    | journalDeletion hrequests => exact absurd hrequests hop
    | purge _ hjournal =>
      rw [deletion?, h.quiet] at hjournal
      cases hjournal
    | _ => exact h.quiet
  owned := h.owned.change h.quiet hchange
  recorded := h.recorded.change h.log.gapless h.quiet hchange

theorem CreationInvariant.deletion?_eq_none (id : Uuid) : s.database.deletion? id = none := by
  rw [deletion?, h.quiet]
  rfl

theorem CreationInvariant.keyed {id : Uuid} (hid : s.database.HasSession id) :
    (s.keys id).isSome := by
  obtain ⟨key, hkey, -⟩ := h.log.sealedBy id hid (h.deletion?_eq_none id)
  rw [hkey]
  rfl

/-- No write touches the key of a session. -/
theorem CreationInvariant.keys_eq (hchange : Change codec op s s') {id : Uuid}
    (hid : s.database.HasSession id) : s'.keys id = s.keys id := by
  rcases keys_change hchange id with hsame | ⟨hnone, -⟩ | ⟨-, hgone⟩
  · exact hsame
  · have hsome := h.keyed hid
    rw [hnone] at hsome
    cases hsome
  · exact absurd (h.deletion?_eq_none id) (hgone hid)

/-- What crash-safe creation promises of a state. -/
structure CreationSafe (s : Store) : Prop where
  /-- No session row without its key. -/
  keyed : ∀ id, s.database.HasSession id → (s.keys id).isSome
  /-- No key without a session row or a creation journal. -/
  accounted : ∀ id, (s.keys id).isSome →
    s.database.HasSession id ∨ ∃ journal ∈ s.database.creations, journal.sessionId = id
  /-- No two sessions for one creation request. -/
  unique : ∀ requestId first second, s.database.CreatedBy requestId first →
    s.database.CreatedBy requestId second → first = second
  /-- Every session was created by some request. -/
  created : ∀ id, s.database.HasSession id → ∃ requestId, s.database.CreatedBy requestId id

theorem CreationInvariant.safe : CreationSafe s where
  keyed _ hid := h.keyed hid
  accounted := h.owned
  unique _ _ _ hfirst hsecond := h.recorded.unique h.tables hfirst hsecond
  created id hid := by
    -- the log starts with the event of sequence one
    have hsequences := h.log.gapless id
    cases hevents : s.database.eventsOf id with
    | nil => exact absurd hevents (h.recorded.started id hid)
    | cons row rest =>
      rw [hevents, map_cons, length_cons, range'_succ] at hsequences
      have hfirst := (cons.inj hsequences).1
      have hmem : row ∈ s.database.eventsOf id := by
        rw [hevents]
        exact mem_cons_self
      obtain ⟨outcome, -, -, hcausation, -⟩ :=
        h.recorded.recorded row (mem_eventsOf.mp hmem).1 hfirst
      exact ⟨outcome.requestId, row, hmem, hfirst, hcausation⟩

omit h

/-- Crash-safe creation: at every crash point of every run without deletion requests, each
session row has its key, each key has a session row or a creation journal, one creation
request has made at most one session, and no write destroys or changes the key of a session
that has a row. -/
theorem creation_crash_safe (codec : Codec) (exporter : Exporter) (files : FileSystem) {s : Store}
    (hreach : Reaches (step codec exporter) KeepsSessions (.new files) s) :
    CreationSafe s ∧ ∀ action, KeepsSessions s action →
      ∀ write ∈ action.writes codec exporter s,
        CreationSafe write.1 ∧ CreationSafe write.2 ∧
          ∀ id, write.1.database.HasSession id → write.2.keys id = write.1.keys id := by
  obtain ⟨hinvariant, hwrites⟩ := changes_invariant
    (I := fun op t => CreationInvariant t ∧ ¬ op.RequestsDeletion)
    (fun _ _ h hallowed => ⟨h, hallowed⟩)
    (fun _ _ _ h hchange => ⟨h.1.change h.2 hchange, h.2⟩) (fun _ _ h => h.1) (.new files) hreach
  refine ⟨hinvariant.safe, ?_⟩
  intro action hallowed write hwrite
  obtain ⟨hbefore, hafter, hchange⟩ := hwrites action hallowed write hwrite
  refine ⟨hbefore.safe, hafter.safe, ?_⟩
  intro id hid
  rcases hchange with hsame | hchange
  · rw [hsame]
  · exact hbefore.keys_eq hchange hid

/-- A creation that crashes after making the key is undone, and the retry succeeds. -/
theorem interrupted_creation_retried : ∃ s, s.database.HasSession 1 ∧ CreationSafe s := by
  have hrun : ∃ s, Reaches (step plainCodec plainExporter) KeepsSessions (.new emptyFiles) s ∧
      decide (s.database.HasSession 1) = true :=
    exists_reaches_of_execute
      [⟨.createSession (plainCreation 1 2) 3 4,
          [false, false, false, false, false, false, true, true, true, true, true]⟩,
        ⟨.resumeSessionCreations, []⟩, ⟨.createSession (plainCreation 1 2) 3 4, []⟩]
      ⟨_, rfl, by decide +kernel⟩
  obtain ⟨s, hreach, hsession⟩ := hrun
  exact ⟨s, of_decide_eq_true hsession,
    (creation_crash_safe plainCodec plainExporter emptyFiles hreach).1⟩

end Workbench.Sqlite
