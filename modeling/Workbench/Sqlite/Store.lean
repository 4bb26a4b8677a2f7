import Workbench.Sqlite.Files

/-!
# Sqlite: the durable state and its calls

The database, the session keys and the file system, and the calls that operations make
on them.  A transaction changes the database as a whole or not at all; each call can
fail without effect, and a crash is a run in which every call from some point on fails.
-/

namespace Workbench.Sqlite

open Library Storage Program

/-! ## Hashes of parameters -/

/-- The JSON library and the hash function.  A text is that of one value; only flat values are known
to be read back, others may be nested too deep or hold numbers that are read approximately. -/
structure Codec where
  print : Json → String
  parse : String → Option Json
  blake3 : String → String
  print_injective : Function.Injective print
  parse_print : ∀ value, value.isFlat → parse (print value) = some value

mutual

/-- The value with the keys of every object in order. -/
def canonicalize : Json → Json
  | .array items => .array (canonicalizeItems items)
  | .object members => .object (canonicalizeMembers members)
  | other => other
  termination_by structural value => value

def canonicalizeItems : List Json → List Json
  | [] => []
  | value :: rest => canonicalize value :: canonicalizeItems rest
  termination_by structural items => items

def canonicalizeMembers : List (String × Json) → List (String × Json)
  | [] => []
  | (key, value) :: rest => Json.insertMember key (canonicalize value) (canonicalizeMembers rest)
  termination_by structural members => members

end

namespace Codec

variable (codec : Codec)

/-- The hash of the canonical text. -/
def canonicalHash (value : Json) : String := codec.blake3 (codec.print (canonicalize value))

/-- Reads an outcome back from its text. -/
def readOutcome (text : String) : Except StorageError Json :=
  match codec.parse text with
  | none => .error .storageUnavailable
  | some value => .ok value

theorem readOutcome_print {value : Json} (h : value.isFlat) :
    codec.readOutcome (codec.print value) = .ok value := by
  rw [readOutcome, codec.parse_print value h]

end Codec

/-- 64 lowercase hexadecimal digits. -/
def isHash (text : String) : Bool :=
  text.utf8ByteSize == 64 &&
    text.toList.all fun c => c.isDigit || (decide ('a' ≤ c) && decide (c ≤ 'f'))

/-- `validate_port_command`. -/
def StoredCommandRecord.validate (record : StoredCommandRecord) : Except StorageError Unit :=
  if record.method = "" ∨ 128 < record.method.utf8ByteSize ∨ isHash record.parameterHash = false ∨
      65536 < record.outcome.utf8ByteSize then
    .error (.invalidInput "recorded command is outside durable limits")
  else .ok ()

/-! ## The state -/

/-- The database, the keys and the files. -/
structure Store where
  database : Database
  keys : SessionKeys
  files : FileSystem

/-- The keys as a part of the store. -/
def Store.keysPart : Part Store SessionKeys where
  get s := s.keys
  set s keys := { s with keys }
  get_set _ _ := rfl
  set_get _ := rfl
  set_set _ _ _ := rfl

/-! ## Calls -/

/-- An operation on the store. -/
abbrev Op (α : Type) := Program Store StorageError α

/-- One or more statements in a transaction. -/
def transaction {α : Type} (body : Database → Except StorageError (α × Database)) : Op α :=
  invoke .storageUnavailable fun s =>
    match body s.database with
    | .ok (a, database) => .ok (a, { s with database })
    | .error error => .error error

/-- Reads the database. -/
def query {α : Type} (read : Database → α) : Op α := transaction fun db => .ok (read db, db)

/-- A transaction without a result. -/
def execute (statement : Database → Except StorageError Database) : Op Unit :=
  transaction fun db => do
    let db ← statement db
    return ((), db)

def createSessionKey (sessionId : Uuid) (draw : SecretKey) : Op Unit :=
  on Store.keysPart (SessionKeys.create sessionId draw)

def sessionKey (sessionId : Uuid) : Op SecretKey := on Store.keysPart (SessionKeys.fetch sessionId)

def destroySessionKey (sessionId : Uuid) : Op Unit :=
  on Store.keysPart (SessionKeys.destroy sessionId)

/-- A call on the file system, after what others do there. -/
def fileCall {α : Type} (fault : StorageError)
    (op : FileSystem → Except StorageError (α × FileSystem)) : Op α := do
  update fun s => { s with files := s.files.interfere }
  invoke fault fun s =>
    match op s.files with
    | .ok (a, files) => .ok (a, { s with files })
    | .error error => .error error

/-! ## Rules -/

section

variable {T : Store → Store → Prop} {α β : Type} {ok : α → Store → Prop}
  {err : StorageError → Store → Prop} {s : Store} {rest : α → Op β} {ok' : β → Store → Prop}

theorem transaction_rule {body : Database → Except StorageError (α × Database)}
    (herr : ∀ e, err e s)
    (hok : ∀ a db, body s.database = .ok (a, db) →
      ({ s with database := db } = s ∨ T s { s with database := db }) ∧
        ok a { s with database := db }) :
    wpVia T (transaction body) ok err s := by
  rw [transaction, wpVia_invoke]
  refine ⟨herr _, ?_⟩
  cases hbody : body s.database with
  | error e => exact herr e
  | ok pair => exact hok pair.1 pair.2 hbody

theorem query_rule {read : Database → α} (herr : ∀ e, err e s)
    (hok : wpVia T (rest (read s.database)) ok' err s) :
    wpVia T (query read >>= rest) ok' err s := by
  rw [wpVia_bind]
  refine transaction_rule herr fun a db hbody => ?_
  cases hbody
  exact ⟨.inl rfl, hok⟩

variable {ok : Unit → Store → Prop}

theorem execute_rule {statement : Database → Except StorageError Database} (herr : ∀ e, err e s)
    (hok : ∀ db, statement s.database = .ok db →
      T s { s with database := db } ∧ ok () { s with database := db }) :
    wpVia T (execute statement) ok err s := by
  refine transaction_rule herr fun a db hbody => ?_
  cases hstatement : statement s.database with
  | error e => rw [hstatement] at hbody; cases hbody
  | ok changed =>
    rw [hstatement] at hbody
    cases hbody
    exact ⟨.inr (hok db hstatement).1, (hok db hstatement).2⟩

variable {id : Uuid}

theorem createSessionKey_rule {draw : SecretKey} (herr : ∀ e, err e s) (hok : s.keys id = none →
      T s { s with keys := Function.update s.keys id (some draw) } ∧
        ok () { s with keys := Function.update s.keys id (some draw) }) :
    wpVia T (createSessionKey id draw) ok err s := by
  rw [createSessionKey, SessionKeys.create, wpVia_on_invoke,
    show Store.keysPart.get s = s.keys from rfl]
  refine ⟨herr _, ?_⟩
  cases hkey : s.keys id with
  | some key => exact herr _
  | none => exact ⟨.inr (hok hkey).1, (hok hkey).2⟩

theorem sessionKey_rule {rest : SecretKey → Op β} (herr : ∀ e, err e s)
    (hok : ∀ key, s.keys id = some key → wpVia T (rest key) ok' err s) :
    wpVia T (sessionKey id >>= rest) ok' err s := by
  rw [wpVia_bind, sessionKey, SessionKeys.fetch, wpVia_on_invoke,
    show Store.keysPart.get s = s.keys from rfl]
  refine ⟨herr _, ?_⟩
  cases hkey : s.keys id with
  | none => exact herr _
  | some key => exact ⟨.inl rfl, hok key hkey⟩

theorem destroySessionKey_rule (herr : ∀ e, err e s)
    (hok : T s { s with keys := Function.update s.keys id none } ∧
      ok () { s with keys := Function.update s.keys id none }) :
    wpVia T (destroySessionKey id) ok err s := by
  rw [destroySessionKey, SessionKeys.destroy, wpVia_on_invoke]
  exact ⟨herr _, .inr hok.1, hok.2⟩

theorem lift_rule {result : Except StorageError α} (herr : ∀ e, result = .error e → err e s)
    (hok : ∀ a, result = .ok a → wpVia T (rest a) ok' err s) :
    wpVia T (lift result >>= rest) ok' err s := by
  cases result with
  | error e => exact herr e rfl
  | ok a => exact hok a rfl

end

/-! ## Runs without faults -/

section

variable {s : Store}

theorem run_transaction_nil {α : Type} (body : Database → Except StorageError (α × Database)) :
    (transaction body).run [] s
      = match body s.database with
        | .ok (a, database) => (.ok a, { s with database })
        | .error error => (.error error, s) := by
  simp only [transaction, invoke, run, perform]
  cases body s.database <;> rfl

@[simp] theorem run_query_nil {α : Type} (read : Database → α) :
    (query read).run [] s = (.ok (read s.database), s) := by
  rw [query, run_transaction_nil]

theorem run_execute {statement : Database → Except StorageError Database} {database : Database}
    (h : statement s.database = .ok database) :
    (execute statement).run [] s = (.ok (), { s with database }) := by
  rw [execute, run_transaction_nil, h]
  rfl

theorem run_sessionKey {id : Uuid} {key : SecretKey} (hkey : s.keys id = some key) :
    (sessionKey id).run [] s = (.ok key, s) := by
  simp only [sessionKey, SessionKeys.fetch, on, invoke, run, perform]
  rw [show Store.keysPart.get s = s.keys from rfl, hkey]
  rfl

@[simp] theorem run_destroySessionKey_nil (id : Uuid) :
    (destroySessionKey id).run [] s
      = (.ok (), { s with keys := Function.update s.keys id none }) := rfl

end

end Workbench.Sqlite
