import Workbench.Sqlite.DeletionSafety
import Workbench.Sqlite.Records

/-!
# Sqlite: repeated requests

A request whose outcome is recorded is answered from the record by every operation that
looks for it: with the outcome if method and parameters are the same, and with a conflict
if not.  The operations that look at the command table only (`record_command_outcome` and
the transactions of a command) do so until the session is deleted; the lookups, a creation,
an export and `request_deletion` itself go on doing so from the tombstone.
-/

namespace Workbench.Sqlite

open Workbench.Core Library Storage Program List Database Option Json

/-! ## Answers -/

/-- A record of a command with parameters of a unique hash and this outcome. -/
structure Codec.Stands (codec : Codec) (record : StoredCommandRecord) (parameters outcome : Json) :
    Prop where
  hash : record.parameterHash = codec.canonicalHash parameters
  text : codec.readOutcome record.outcome = .ok outcome
  unique : ∀ other, codec.canonicalHash other = codec.canonicalHash parameters →
    canonicalize other = canonicalize parameters

/-- Same method, and parameters that are equal up to the order of keys. -/
def StoredCommandRecord.Repeated (record : StoredCommandRecord) (recordedParameters : Json)
    (method : String) (parameters : Json) : Prop :=
  record.method = method ∧ canonicalize recordedParameters = canonicalize parameters

instance (record : StoredCommandRecord) (recordedParameters : Json) (method : String)
    (parameters : Json) : Decidable (record.Repeated recordedParameters method parameters) :=
  inferInstanceAs (Decidable (_ ∧ _))

/-- The answer to a request whose outcome is recorded. -/
def StoredCommandRecord.answer (record : StoredCommandRecord) (recordedParameters outcome : Json)
    (method : String) (parameters : Json) : Except StorageError Json :=
  if record.Repeated recordedParameters method parameters then .ok outcome
  else .error .requestConflict

/-- The answer where the hash of the parameters is given. -/
def StoredCommandRecord.confirm {α : Type} (record new : StoredCommandRecord) (answer : α) :
    Except StorageError α :=
  if record.method = new.method ∧ record.parameterHash = new.parameterHash then .ok answer
  else .error .requestConflict

/-- How a store answers a request whose outcome it has recorded; the store is not changed. -/
structure Answers (codec : Codec) (exporter : Exporter) (s : Store) (sessionId : Option Uuid)
    (requestId : Uuid) (record : StoredCommandRecord) (recorded outcome : Json) : Prop where
  lookupPortCommand : (lookupPortCommand sessionId requestId).run [] s = (.ok (some record), s)
  lookupCommandOutcome : ∀ method parameters, scopeFits sessionId method → method ≠ "" →
    method.utf8ByteSize ≤ 128 →
    (lookupCommandOutcome codec sessionId requestId method parameters).run [] s
      = ((record.answer recorded outcome method parameters).map some, s)
  recordPortCommand : ∀ new, new.validate = .ok () → scopeFits sessionId new.method →
    (recordPortCommand sessionId requestId new).run [] s = (record.confirm new (), s)
  createSession : sessionId = none → ∀ input eventId draw, input.requestId = requestId →
    (createSession codec input eventId draw).run [] s
      = ((record.answer recorded outcome "session.create" input.requestParameters).map .replay, s)
  executeExport : ∀ command draw, sessionId = some command.sessionId →
    command.requestId = requestId → validateExportCommand codec command = .ok () →
    (executeExport codec exporter command draw).run [] s
      = ((record.answer recorded outcome "session.export" command.parameters).map .replay, s)
  requestDeletion : ∀ id deletionId occurredAt actor eventId, sessionId = some id →
    s.database.buried? sessionId requestId = some record → ∃ deletion,
      (requestDeletion codec id deletionId requestId occurredAt actor eventId).run [] s
        = (.ok ⟨id, deletion, true⟩, s) ∧ outcome = deletionOutcome id deletion
  recordCommandOutcome : s.database.buried? sessionId requestId = none →
    ∀ method parameters again, scopeFits sessionId method →
    (recordCommandOutcome codec (commandScope sessionId) requestId sessionId method parameters
        again).run [] s
      = ((record.answer recorded outcome method parameters).map .replay, s)
  commitPortCommand : ∀ new input, sessionId = some input.sessionId →
    s.database.tombstone? input.sessionId = none → s.database.deletion? input.sessionId = none →
    new.validate = .ok () → new.method ≠ "session.create" →
    input.causationRequestId = some requestId →
    (commitPortCommand requestId new input).run [] s = (record.confirm new (.replayed record), s)
  commitCommandEvents : ∀ method parameters again first rest,
    sessionId = some first.sessionId → s.database.tombstone? first.sessionId = none →
    s.database.deletion? first.sessionId = none → method ≠ "session.create" →
    first.causationRequestId = some requestId →
    (∀ event ∈ first :: rest, event.sessionId = first.sessionId ∧
      event.causationRequestId.isSome) →
    StoredCommandRecord.validate
      ⟨method, codec.canonicalHash parameters, codec.print again⟩ = .ok () →
    (commitCommandEvents codec requestId method parameters again (first :: rest)).run [] s
      = ((record.answer recorded outcome method parameters).map .replay, s)
  commitCommandEvent : ∀ method parameters again event,
    sessionId = some event.sessionId → s.database.tombstone? event.sessionId = none →
    s.database.deletion? event.sessionId = none → method ≠ "session.create" →
    event.causationRequestId = some requestId →
    StoredCommandRecord.validate
      ⟨method, codec.canonicalHash parameters, codec.print again⟩ = .ok () →
    (commitCommandEvent codec requestId method parameters again event).run [] s
      = ((record.answer recorded outcome method parameters).map .replay, s)

/-! ## The lookups -/

section

variable {codec : Codec} {s : Store} {sessionId : Option Uuid} {requestId : Uuid}
  {record : StoredCommandRecord} {recorded outcome : Json} {method : String} {id : Uuid}

/-- What is asked about a recorded command is whether it is repeated. -/
theorem Codec.Stands.ite_matches {α : Sort _} (h : codec.Stands record recorded outcome)
    (parameters : Json) (yes no : α) :
    (if record.matches method (codec.canonicalHash parameters) then yes else no)
      = if record.Repeated recorded method parameters then yes else no := by
  refine if_congr ?_ rfl rfl
  rw [StoredCommandRecord.matches, ← Bool.decide_and, decide_eq_true_eq, h.hash]
  refine and_congr_right fun _ => ⟨fun hhash => ?_, fun hsame => ?_⟩
  · exact (h.unique parameters hhash.symm).symm
  · rw [Codec.canonicalHash, Codec.canonicalHash, hsame]

theorem ite_matches_confirm {α : Sort _} (record new : StoredCommandRecord) (yes no : α) :
    (if record.matches new.method new.parameterHash then yes else no)
      = if record.method = new.method ∧ record.parameterHash = new.parameterHash then yes
        else no := by
  simp only [StoredCommandRecord.matches, ← Bool.decide_and, decide_eq_true_eq]

theorem run_lookupPortCommand (sessionId : Option Uuid) (requestId : Uuid) (s : Store) :
    (lookupPortCommand sessionId requestId).run [] s
      = (.ok (s.database.recorded? sessionId requestId), s) := by
  rw [lookupPortCommand, run_bind_ok (run_query_nil _), recorded?]
  cases hcommand : s.database.command? (commandScope sessionId) requestId with
  | some record => rw [run_pure, some_or]
  | none => rw [run_query_nil, none_or]

/-! ## The command table -/

/-- A session that is neither deleted nor being deleted has its row and its key. -/
theorem RequestInvariant.exists_row (h : RequestInvariant codec s)
    (hcommand : s.database.command? (.session id) requestId = some record)
    (hdeletion : s.database.deletion? id = none) :
    ∃ row key, s.database.session? id = some row ∧ s.keys id = some key := by
  have hsession : s.database.HasSession id := by
    obtain ⟨row, hrow, hscope, -, -⟩ := exists_of_command? hcommand
    obtain ⟨hdaemon, -⟩ | ⟨_, hsession, hid, -⟩ := h.records.inScope row hrow
    · cases hdaemon.symm.trans hscope
    · cases hsession.symm.trans hscope
      exact h.records.existing row hrow id hid
  obtain ⟨row, hrow⟩ := isSome_iff_exists.mp hsession
  obtain ⟨key, hkey⟩ := isSome_iff_exists.mp (h.keyed id hsession hdeletion)
  exact ⟨row, key, hrow, hkey⟩

variable (hstands : codec.Stands record recorded outcome)
  (hfound : s.database.recorded? sessionId requestId = some record)

include hfound

/-- Without a tombstone, the record of a session's command is in the command table. -/
theorem command?_of_recorded? (hscope : sessionId = some id)
    (htombstone : s.database.tombstone? id = none) :
    s.database.command? (.session id) requestId = some record := by
  subst hscope
  have hburied : s.database.buried? (some id) requestId = none := by
    rw [buried?, map_eq_none_iff, find?_eq_none]
    rw [tombstone?, find?_eq_none] at htombstone
    intro tombstone hmem hmatch
    exact htombstone tombstone hmem (decide_eq_true (of_decide_eq_true hmatch).1)
  rw [recorded?, hburied, or_none] at hfound
  exact hfound

include hstands

theorem run_commitCommandEvents (h : RequestInvariant codec s) {parameters again : Json}
    {first : EventInput} {rest : List EventInput} (hscope : sessionId = some first.sessionId)
    (htombstone : s.database.tombstone? first.sessionId = none)
    (hdeletion : s.database.deletion? first.sessionId = none) (hmethod : method ≠ "session.create")
    (hcausation : first.causationRequestId = some requestId)
    (hevents : ∀ event ∈ first :: rest, event.sessionId = first.sessionId ∧
      event.causationRequestId.isSome)
    (hvalid : StoredCommandRecord.validate
      ⟨method, codec.canonicalHash parameters, codec.print again⟩ = .ok ()) :
    (commitCommandEvents codec requestId method parameters again (first :: rest)).run [] s
      = ((record.answer recorded outcome method parameters).map .replay, s) := by
  have hcommand := command?_of_recorded? hfound hscope htombstone
  obtain ⟨row, key, hrow, hkey⟩ := h.exists_row hcommand hdeletion
  have hproper : ¬ (method = "session.create" ∨ first.causationRequestId ≠ some requestId ∨
      (first :: rest).any (fun event => decide (event.sessionId ≠ first.sessionId ∨
        event.causationRequestId.isNone = true)) = true) := by
    rintro (hcreate | hother | hany)
    · exact hmethod hcreate
    · exact hother hcausation
    obtain ⟨event, hmem, hbad⟩ := any_eq_true.mp hany
    obtain ⟨hsession, hsome⟩ := hevents event hmem
    obtain hne | hnone := of_decide_eq_true hbad
    · exact hne hsession
    · rw [isNone_iff_eq_none.mp hnone] at hsome
      cases hsome
  unfold commitCommandEvents
  dsimp only
  rw [if_neg hproper, hvalid, run_bind_ok (run_lift _ _ _)]
  rw [run_bind_ok (run_sessionKeyId hrow), run_bind_ok (run_sessionKey hkey)]
  rw [run_transaction_nil, commandScope, hcommand]
  dsimp only
  rw [hstands.ite_matches, StoredCommandRecord.answer, hstands.text]
  by_cases hrepeated : record.Repeated recorded method parameters
  · rw [if_pos hrepeated, if_pos hrepeated]
    rfl
  · rw [if_neg hrepeated, if_neg hrepeated]
    rfl

/-! ## Deletion -/

omit hfound in
theorem run_repeated_requestDeletion (h : RequestInvariant codec s) (deletionId : Uuid)
    (occurredAt : Time) (actor : String) (eventId : Uuid) (hscope : sessionId = some id)
    (hburied : s.database.buried? sessionId requestId = some record) :
    ∃ deletion, (requestDeletion codec id deletionId requestId occurredAt actor eventId).run [] s
        = (.ok ⟨id, deletion, true⟩, s) ∧ outcome = deletionOutcome id deletion := by
  subst hscope
  obtain ⟨tombstone, hmem, rfl, rfl, hrecord⟩ := exists_of_buried_some hburied
  have hdeletion := h.records.deletion tombstone hmem
  have hfind : s.database.tombstone? tombstone.sessionId = some tombstone := by
    cases hfind : s.database.tombstone? tombstone.sessionId with
    | none =>
      have hsome := tombstone?_isSome.mpr ⟨tombstone, hmem, rfl⟩
      rw [hfind] at hsome
      cases hsome
    | some found =>
      rw [h.records.oneTombstone found (mem_of_find?_eq_some hfind) tombstone hmem
        (.inl (sessionId_of_tombstone? hfind))]
  refine ⟨tombstone.deletionId, ?_, ?_⟩
  · unfold requestDeletion
    rw [run_bind_ok (run_query_nil _), hfind]
    dsimp only
    rw [if_neg (by rw [hdeletion]; simp)]
    rfl
  · have htext := hstands.text
    rw [← hrecord, hdeletion, codec.readOutcome_print rfl] at htext
    exact (Except.ok.inj htext).symm

end

/-! ## What is reported is recorded -/

section

variable {codec : Codec} {exporter : Exporter} {s : Store} {sessionId : Option Uuid}
  {requestId : Uuid} {record : StoredCommandRecord}

/-- The operation tells its caller that it has recorded the command of the request. -/
def Operation.Reports (codec : Codec) (exporter : Exporter) (s : Store) (faults : List Bool) :
    Operation → Option Uuid → Uuid → StoredCommandRecord → Prop
  | .createSession input eventId draw, scope, request, record =>
    scope = none ∧ request = input.requestId ∧ ∃ told,
      ((Sqlite.createSession codec input eventId draw).run faults s).1 = .ok (.recorded told) ∧
      record = ⟨"session.create", codec.canonicalHash input.requestParameters, codec.print told⟩
  | .recordCommandOutcome table requestId sessionId method parameters outcome, scope, request,
      record =>
      scope = sessionId ∧ request = requestId ∧ ∃ told,
        ((Sqlite.recordCommandOutcome codec table requestId sessionId method parameters
          outcome).run faults s).1 = .ok (.recorded told) ∧
        record = ⟨method, codec.canonicalHash parameters, codec.print told⟩
  | .recordPortCommand sessionId requestId new, scope, request, record =>
    scope = sessionId ∧ request = requestId ∧
      s.database.recorded? sessionId requestId = none ∧
      ((Sqlite.recordPortCommand sessionId requestId new).run faults s).1 = .ok () ∧ record = new
  | .commitPortCommand requestId new input, scope, request, record =>
    scope = some input.sessionId ∧ request = requestId ∧ ∃ event,
      ((Sqlite.commitPortCommand requestId new input).run faults s).1 = .ok (.applied event) ∧
      record = new
  | .commitCommandEvent requestId method parameters outcome event, scope, request, record =>
    scope = some event.sessionId ∧ request = requestId ∧ ∃ persisted told,
      ((Sqlite.commitCommandEvent codec requestId method parameters outcome event).run
        faults s).1 = .ok (.recorded persisted told) ∧
      record = ⟨method, codec.canonicalHash parameters, codec.print told⟩
  | .commitCommandEvents requestId method parameters outcome events, scope, request, record =>
    ∃ first rest, events = first :: rest ∧ scope = some first.sessionId ∧ request = requestId ∧
      ∃ persisted told,
      ((Sqlite.commitCommandEvents codec requestId method parameters outcome events).run
        faults s).1 = .ok (.recorded persisted told) ∧
      record = ⟨method, codec.canonicalHash parameters, codec.print told⟩
  | .executeExport command draw, scope, request, record =>
    scope = some command.sessionId ∧ request = command.requestId ∧ ∃ persisted told,
      ((Sqlite.executeExport codec exporter command draw).run faults s).1
        = .ok (.recorded persisted told) ∧
      record = ⟨"session.export", codec.canonicalHash command.parameters, codec.print told⟩
  | .requestDeletion id deletionId requestId occurredAt actor eventId, scope, request, record =>
    scope = some id ∧ request = requestId ∧ ∃ summary,
      ((Sqlite.requestDeletion codec id deletionId requestId occurredAt actor eventId).run
        faults s).1 = .ok summary ∧
      record = ⟨"session.delete", codec.canonicalHash (deletionParameters id),
        codec.print (deletionOutcome id summary.deletionId)⟩
  | _, _, _, _ => False

theorem recorded?_of_command? {db : Database}
    (h : db.command? (commandScope sessionId) requestId = some record) :
    db.recorded? sessionId requestId = some record := by
  rw [recorded?, h, some_or]

theorem RequestInvariant.recorded?_of_reports (h : RequestInvariant codec s) {action : Action}
    (hallowed : KeepsRequests codec exporter s action)
    (hreports : action.operation.Reports codec exporter s action.faults sessionId requestId record)
    {s' : Store} (hstep : step codec exporter s action = some s') :
    s'.database.recorded? sessionId requestId = some record := by
  have hafter : RequestInvariant codec s' :=
    (KeepsRequests.invariant (K := fun _ => True) (fun _ _ _ _ _ _ h => h) h trivial
      (.next action .start hallowed hstep)).1
  have hends : ∀ {α : Type} {prog : Op α} {ok : α → Store → Prop}
    {err : StorageError → Store → Prop}
      {a : α}, wpVia (Change codec action.operation) prog ok err s →
      (prog.run action.faults s).1 = .ok a → ok a (prog.run action.faults s).2 :=
    fun hchanges hresult => (wpVia_run hchanges _).1.of_ok hresult
  obtain ⟨op, faults⟩ := action
  cases hstep
  cases op with simp only [Operation.program, run_discarding] at hafter ⊢
  | createSession =>
    obtain ⟨rfl, rfl, told, hresult, rfl⟩ := hreports
    exact recorded?_of_command? (hends (createSession_changes rfl s) hresult told rfl)
  | recordCommandOutcome =>
    obtain ⟨rfl, rfl, told, hresult, rfl⟩ := hreports
    exact recorded?_of_command? (hends (recordCommandOutcome_changes rfl s) hresult told rfl)
  | recordPortCommand =>
    obtain ⟨rfl, rfl, hnone, hresult, rfl⟩ := hreports
    obtain ⟨hcommand, hburied⟩ := or_eq_none_iff.mp hnone
    exact recorded?_of_command? (hends (recordPortCommand_changes rfl s) hresult hcommand hburied)
  | commitPortCommand =>
    obtain ⟨rfl, rfl, event, hresult, rfl⟩ := hreports
    exact recorded?_of_command? (hends (commitPortCommand_changes s) hresult event rfl)
  | commitCommandEvent =>
    obtain ⟨rfl, rfl, persisted, told, hresult, rfl⟩ := hreports
    exact recorded?_of_command? (hends (commitCommandEvent_changes s) hresult)
  | commitCommandEvents =>
    obtain ⟨first, rest, rfl, rfl, rfl, persisted, told, hresult, rfl⟩ := hreports
    refine recorded?_of_command?
      ((hends (commitCommandEvents_changes ?_ ?_ s) hresult).2 first mem_cons_self)
    · exact fun _ hevent => hevent
    · exact fun hmethod event hevent => ⟨⟨event, hevent, rfl⟩, rfl, rfl, hmethod⟩
  | executeExport =>
    obtain ⟨rfl, rfl, persisted, told, hresult, rfl⟩ := hreports
    exact recorded?_of_command? (hends (executeExport_changes rfl s) hresult
      h.deletions.tables.exportIds)
  | requestDeletion =>
    obtain ⟨rfl, rfl, summary, hresult, rfl⟩ := hreports
    obtain ⟨tombstone, hmem, rfl, rfl, hdeletion⟩ :=
      hends (requestDeletion_changes (by trivial) _ _ _ _ _ _ s) hresult
    refine hafter.recorded?_of_buried ?_
    rw [hafter.records.buried_some hmem, hafter.records.deletion tombstone hmem, hdeletion]
  | _ => cases hreports

end

/-! ## Every run -/

theorem RequestInvariant.answers {codec : Codec} {s : Store} (h : RequestInvariant codec s)
    (exporter : Exporter) {sessionId : Option Uuid} {requestId : Uuid}
    {record : StoredCommandRecord} {recorded outcome : Json}
    (hstands : codec.Stands record recorded outcome)
    (hfound : s.database.recorded? sessionId requestId = some record) :
    Answers codec exporter s sessionId requestId record recorded outcome where
  lookupPortCommand := by rw [run_lookupPortCommand, hfound]
  lookupCommandOutcome method parameters hfits hmethod hsize := by
    have hvalid : ¬ (scopeFits sessionId method = false ∨ method = "" ∨
        128 < method.utf8ByteSize) := by
      rw [hfits]
      simp only [Bool.true_eq_false, hmethod, false_or]
      omega
    rw [lookupCommandOutcome, if_neg hvalid, run_bind_ok (run_lookupPortCommand _ _ _), hfound]
    dsimp only
    rw [hstands.ite_matches, StoredCommandRecord.answer, hstands.text]
    split <;> rfl
  recordPortCommand new hvalid hfits := by
    unfold recordPortCommand
    rw [hvalid, run_bind_ok (run_lift _ _ _)]
    rw [if_neg (by simp [hfits]), run_bind_ok (run_lookupPortCommand _ _ _), hfound]
    dsimp only
    rw [ite_matches_confirm, StoredCommandRecord.confirm]
    split <;> rfl
  createSession hscope input eventId draw hrequest := by
    subst hscope hrequest
    rw [createSession, run_bind_ok (run_lookupPortCommand _ _ _), hfound]
    dsimp only
    rw [hstands.ite_matches, StoredCommandRecord.answer, hstands.text]
    split <;> rfl
  executeExport command draw hscope hrequest hvalid := by
    subst hscope hrequest
    rw [executeExport, hvalid, run_bind_ok (run_lift _ _ _)]
    rw [run_bind_ok (run_lookupPortCommand _ _ _), hfound]
    rw [run_lift, replayExportCommand, hstands.ite_matches, StoredCommandRecord.answer,
      hstands.text]
    split <;> rfl
  requestDeletion _ deletionId occurredAt actor eventId hscope hburied :=
    run_repeated_requestDeletion hstands h deletionId occurredAt actor eventId hscope hburied
  recordCommandOutcome hburied method parameters again hfits := by
    have hcommand : s.database.command? (commandScope sessionId) requestId = some record := by
      rw [recorded?, hburied, or_none] at hfound
      exact hfound
    rw [recordCommandOutcome, if_neg (by simp [hfits]), run_transaction_nil, hcommand]
    dsimp only
    rw [hstands.text, StoredCommandRecord.answer]
    simp only [bind, Except.bind, hstands.ite_matches]
    by_cases hrepeated : record.Repeated recorded method parameters
    · rw [if_pos hrepeated, if_pos hrepeated]
      rfl
    · rw [if_neg hrepeated, if_neg hrepeated]
      rfl
  commitPortCommand new input hscope htombstone hdeletion hvalid hmethod hcausation := by
    have hcommand := command?_of_recorded? hfound hscope htombstone
    obtain ⟨row, key, hrow, hkey⟩ := h.exists_row hcommand hdeletion
    unfold commitPortCommand
    rw [hvalid, run_bind_ok (run_lift _ _ _), if_neg (by simp [hmethod, hcausation])]
    rw [run_bind_ok (run_sessionKeyId hrow), run_bind_ok (run_sessionKey hkey)]
    rw [run_transaction_nil, commandScope, hcommand]
    dsimp only
    rw [ite_matches_confirm, StoredCommandRecord.confirm]
    by_cases hsame : record.method = new.method ∧ record.parameterHash = new.parameterHash
    · rw [if_pos hsame, if_pos hsame]
    · rw [if_neg hsame, if_neg hsame]
  commitCommandEvents _ _ _ _ _ hscope htombstone hdeletion hmethod hcausation hevents hvalid :=
    run_commitCommandEvents hstands hfound h hscope htombstone hdeletion hmethod hcausation hevents
      hvalid
  commitCommandEvent method parameters again event hscope htombstone hdeletion hmethod hcausation
      hvalid := by
    rw [commitCommandEvent, run_bind_nil, run_commitCommandEvents hstands hfound h hscope htombstone
      hdeletion hmethod hcausation (forall_mem_singleton.mpr ⟨rfl, by rw [hcausation]; rfl⟩)
      hvalid]
    cases record.answer recorded outcome method parameters <;> rfl

/-- Durable idempotency: what an operation has recorded is found in every later state of every run,
and every operation that looks for it answers with the recorded outcome, or with a conflict, and
changes nothing.  The command of a session loses its record with the session; creations and
deletions do not. -/
theorem requests_idempotent (codec : Codec) (exporter : Exporter) (files : FileSystem)
    {s : Store}
    (hreach : Reaches (step codec exporter) (KeepsRequests codec exporter) (.new files) s) :
    (∀ action sessionId requestId record, KeepsRequests codec exporter s action →
      action.operation.Reports codec exporter s action.faults sessionId requestId record →
      ∀ s', step codec exporter s action = some s' →
        s'.database.recorded? sessionId requestId = some record) ∧
    ∀ sessionId requestId record recorded outcome, codec.Stands record recorded outcome →
      s.database.recorded? sessionId requestId = some record →
      ∀ later, Reaches (step codec exporter) (KeepsRequests codec exporter) s later →
        (∀ id, sessionId = some id → s.database.tombstone? id = none →
          later.database.tombstone? id = none) →
        Answers codec exporter later sessionId requestId record recorded outcome := by
  have hinvariant : RequestInvariant codec s :=
    (KeepsRequests.invariant (K := fun _ => True) (fun _ _ _ _ _ _ h => h) (.new codec files)
      trivial hreach).1
  refine ⟨fun action sessionId requestId record hallowed hreports s' hstep => ?_,
    fun sessionId requestId record recorded outcome hstands hfound later hlater hkept => ?_⟩
  · exact hinvariant.recorded?_of_reports hallowed hreports hstep
  · obtain ⟨hafter, hstill⟩ := recorded?_reaches hinvariant hfound hlater hkept
    exact hafter.answers exporter hstands hstill

/-- A hash that tells one value from all others. -/
noncomputable def markingCodec (known : Json) : Codec :=
  { plainCodec with
    blake3 := fun text =>
      if text = toText ratioFormat (canonicalize known) then
        String.ofList (replicate 64 'a')
      else String.ofList (replicate 64 'b') }

theorem markingCodec_stands (known : Json) {outcome : Json} (hflat : outcome.isFlat)
    (method : String) :
    (markingCodec known).Stands
      ⟨method, (markingCodec known).canonicalHash known, (markingCodec known).print outcome⟩
      known outcome where
  hash := rfl
  text := Codec.readOutcome_print _ hflat
  unique other hhash := by
    unfold Codec.canonicalHash markingCodec plainCodec at hhash
    dsimp only at hhash
    rw [if_pos rfl] at hhash
    split at hhash
    · next htext => exact toText_injective ratioFormat htext
    · exact absurd hhash (by decide +kernel)

/-- The first session ends and is deleted. -/
def deletionActions : List Action :=
  [⟨.appendEvent ⟨5, 1, 0, "session_completed", none, none, none, .null⟩, []⟩,
    ⟨.requestDeletion 1 6 7 0 "user" 8, []⟩]

/-- The creation of a session is answered with its outcome after the session is deleted. -/
theorem buried_creation_answered : ∃ later, (later.database.tombstone? 1).isSome ∧
    ∃ record, Answers (markingCodec .null) plainExporter later none 2 record .null .null := by
  let codec := markingCodec .null
  let record : StoredCommandRecord :=
    ⟨"session.create", codec.canonicalHash .null, codec.print .null⟩
  obtain ⟨s, hreach, hfound, later, hlater, hdeleted⟩ :=
    @exists_reaches_of_execute _ _ (step codec plainExporter) (KeepsRequests codec plainExporter) _
      (.new emptyFiles) [⟨.createSession (plainCreation 1 2) 3 4, []⟩]
      (fun s => s.database.recorded? none 2 = some record ∧
        ∃ later ∈ Library.execute (step codec plainExporter) (KeepsRequests codec plainExporter)
          deletionActions s,
          (later.database.tombstone? 1).isSome = true)
      (by decide +kernel)
  refine ⟨later, hdeleted, record, ?_⟩
  exact (requests_idempotent codec plainExporter emptyFiles hreach).2 none 2 record .null .null
    (markingCodec_stands .null rfl "session.create") hfound later
    (reaches_of_execute _ .start hlater) nofun

/-- The record of a session's command goes with the session. -/
theorem command_forgotten_with_session :
    ∃ s, Reaches (step plainCodec plainExporter) (KeepsRequests plainCodec plainExporter)
        (.new emptyFiles) s ∧
      (s.database.recorded? (some 1) 9).isSome ∧
      ∃ later, Reaches (step plainCodec plainExporter) (KeepsRequests plainCodec plainExporter)
          s later ∧
        ((lookupCommandOutcome plainCodec (some 1) 9 "session.pause" .null).run [] later).1
          = .ok none := by
  obtain ⟨s, hreach, hfound, later, hlater, hnone⟩ :=
    @exists_reaches_of_execute _ _ (step plainCodec plainExporter)
      (KeepsRequests plainCodec plainExporter) _ (.new emptyFiles)
      [⟨.createSession (plainCreation 1 2) 3 4, []⟩,
        ⟨.recordCommandOutcome (.session 1) 9 (some 1) "session.pause" .null .null, []⟩]
      (fun s => (s.database.recorded? (some 1) 9).isSome = true ∧
        ∃ later ∈ Library.execute (step plainCodec plainExporter)
          (KeepsRequests plainCodec plainExporter)
          deletionActions s,
          ((lookupCommandOutcome plainCodec (some 1) 9 "session.pause" .null).run [] later).1
            = .ok none)
      (by decide +kernel)
  exact ⟨s, hreach, hfound, later, reaches_of_execute _ .start hlater, hnone⟩

/-! ## Parameters up to the order of their keys -/

/-- What stands under a key or at a position of a value. -/
def child (value : Json) : String ⊕ Nat → Option Json
  | .inl key => value.member key
  | .inr index => value.item index

/-- A value without its members or items. -/
def shape : Json → Json
  | .array _ => .array []
  | .object _ => .object []
  | leaf => leaf

/-- The same texts, forms of numbers and signs of zeros under all keys and positions. -/
def SameUpToKeyOrder (first second : Json) : Prop :=
  ∀ path : List (String ⊕ Nat),
    (path.foldlM child first).map shape = (path.foldlM child second).map shape

/-- A value without its members or items, and with both zeros as one. -/
def valueShape (value : Json) : Json :=
  match shape value with
  | .number (.float x) => .number (.float { value := x.value })
  | other => other

/-- Values that the JSON library finds equal, under all keys and positions. -/
def EqualUpToKeyOrder (first second : Json) : Prop :=
  ∀ path : List (String ⊕ Nat),
    (path.foldlM child first).map valueShape = (path.foldlM child second).map valueShape

theorem lookup_canonicalizeMembers (key : String) (members : List (String × Json)) :
    (canonicalizeMembers members).lookup key = (members.lookup key).map canonicalize := by
  induction members with
  | nil => rfl
  | cons entry rest ih =>
    rw [canonicalizeMembers, lookup_insertMember, lookup_cons_eq_ite, ih]
    split <;> rfl

theorem canonicalizeItems_eq_map (items : List Json) :
    canonicalizeItems items = items.map canonicalize := by
  induction items with
  | nil => rfl
  | cons value rest ih => rw [canonicalizeItems, ih, map_cons]

theorem child_canonicalize (value : Json) (step : String ⊕ Nat) :
    child (canonicalize value) step = (child value step).map canonicalize := by
  cases step with
  | inl key => cases value <;> first | rfl | exact lookup_canonicalizeMembers key _
  | inr index =>
    cases value with
    | array items => simp [child, item, canonicalize, canonicalizeItems_eq_map]
    | _ => rfl

/-- A canonical form has the same at the end of every path. -/
theorem sameUpToKeyOrder_canonicalize (value : Json) :
    SameUpToKeyOrder (canonicalize value) value := by
  intro path
  induction path generalizing value with
  | nil => cases value <;> rfl
  | cons step path ih =>
    rw [foldlM_cons, foldlM_cons, child_canonicalize]
    cases child value step with
    | none => rfl
    | some found => exact ih found

theorem sizeOf_child {value found : Json} {step : String ⊕ Nat}
    (h : child value step = some found) : sizeOf found < sizeOf value := by
  cases step with
  | inl key =>
    cases value with
    | object members =>
      have hlt := sizeOf_lt_of_mem (mem_of_lookup h)
      simp only [Prod.mk.sizeOf_spec, object.sizeOf_spec] at hlt ⊢
      omega
    | _ => cases h
  | inr index =>
    cases value with
    | array items =>
      have hlt := sizeOf_lt_of_mem (mem_of_getElem? h)
      simp only [array.sizeOf_spec]
      omega
    | _ => cases h

theorem ascending_canonicalizeMembers (members : List (String × Json)) :
    ascending (canonicalizeMembers members) := by
  induction members with
  | nil => rfl
  | cons _ _ ih => exact ascending_insertMember ih

theorem canonicalize_congr {first second : Json} (h : SameUpToKeyOrder first second) :
    canonicalize first = canonicalize second := by
  have hshape : shape first = shape second := some.inj (h [])
  have hchild : ∀ step,
      (child first step).map canonicalize = (child second step).map canonicalize := by
    intro step
    have hpath := fun path => h (step :: path)
    simp only [foldlM_cons] at hpath
    cases hfirst : child first step <;> cases hsecond : child second step <;>
      rw [hfirst, hsecond] at hpath
    · cases hpath []
    · cases hpath []
    · have hsize := sizeOf_child hfirst
      exact congrArg some (canonicalize_congr hpath)
  cases first with
  | array items =>
    cases second with
    | array others =>
      rw [canonicalize, canonicalize, canonicalizeItems_eq_map, canonicalizeItems_eq_map]
      refine congrArg _ (ext_getElem? fun index => ?_)
      rw [getElem?_map, getElem?_map]
      exact hchild (.inr index)
    | _ => cases hshape
  | object members =>
    cases second with
    | object others =>
      rw [canonicalize, canonicalize]
      refine congrArg _ (ascending_ext (ascending_canonicalizeMembers _)
        (ascending_canonicalizeMembers _) fun key => ?_)
      rw [lookup_canonicalizeMembers, lookup_canonicalizeMembers]
      exact hchild (.inl key)
    | _ => cases hshape
  | _ => cases second <;> first | exact hshape | cases hshape
termination_by sizeOf first

theorem canonicalize_eq_iff {first second : Json} :
    canonicalize first = canonicalize second ↔ SameUpToKeyOrder first second := by
  refine ⟨fun heq path => ?_, canonicalize_congr⟩
  rw [← sameUpToKeyOrder_canonicalize first path, heq, sameUpToKeyOrder_canonicalize second path]

/-- Canonical parameters: a canonical form is its own, two values have the same canonical form,
the same text of it and, where no two texts have the same hash, the same hash exactly when they
are the same up to the order of the keys. -/
theorem canonical_parameters (codec : Codec) (hblake : Function.Injective codec.blake3)
    (first second : Json) :
    canonicalize (canonicalize first) = canonicalize first ∧
      (canonicalize first = canonicalize second ↔ SameUpToKeyOrder first second) ∧
      (codec.print (canonicalize first) = codec.print (canonicalize second) ↔
        SameUpToKeyOrder first second) ∧
      (codec.canonicalHash first = codec.canonicalHash second ↔ SameUpToKeyOrder first second) := by
  refine ⟨canonicalize_congr (sameUpToKeyOrder_canonicalize first), canonicalize_eq_iff, ?_, ?_⟩
  · rw [codec.print_injective.eq_iff, canonicalize_eq_iff]
  · rw [Codec.canonicalHash, Codec.canonicalHash, hblake.eq_iff, codec.print_injective.eq_iff,
      canonicalize_eq_iff]

/-- A list of roles and a budget are the same parameters in either order. -/
theorem reordered_parameters_hash :
    ({ plainCodec with blake3 := id } : Codec).canonicalHash
        (.object [("roles", .array [.string "a", .null]), ("budget", .bool true)])
      = ({ plainCodec with blake3 := id } : Codec).canonicalHash
        (.object [("budget", .bool true), ("roles", .array [.string "a", .null])]) :=
  (canonical_parameters { plainCodec with blake3 := id } Function.injective_id _ _).2.2.2.mpr
    (canonicalize_eq_iff.mp (by decide +kernel))

/-- The two zeros are equal values with different texts and hashes. -/
theorem signed_zeros_hashed_apart :
    let codec : Codec := { plainCodec with blake3 := id }
    let zero : Json := .number (.float { value := 0 })
    let negative : Json := .number (.float { value := 0, negativeZero := true })
    EqualUpToKeyOrder zero negative ∧
      codec.print (canonicalize zero) ≠ codec.print (canonicalize negative) ∧
      codec.canonicalHash zero ≠ codec.canonicalHash negative := by
  refine ⟨fun path => ?_, ?_, ?_⟩
  · cases path with
    | nil => rfl
    | cons step path => cases step <;> rfl
  all_goals exact fun h => absurd (plainCodec.print_injective h) (by decide +kernel)

end Workbench.Sqlite
