import Workbench.Library.Transition
import Workbench.Storage.Crypto

/-!
# Storage: secret stores

The contract of a secret store, and the store of the platform.  It writes a secret and
the catalog of ids one after the other and undoes the first write when the second
fails, so a `put` that fails can still leave its secret behind.
`LawfulKeyStore` states what holds of a store however its single writes fail; the key
manager relies on nothing else.
-/

namespace Workbench.Storage

open Library Program Function

/-- The ids of one database's namespace. -/
inductive KeyId where
  | root
  | session (id : Uuid)
  deriving DecidableEq

/-- The id as it is authenticated with an envelope. -/
def KeyId.text : KeyId → String
  | root => "root/v1"
  | session id => "session/" ++ toString id ++ "/v1"

/-- The ids under the prefix of session keys. -/
def KeyId.isSession : KeyId → Bool
  | root => false
  | session _ => true

/-- A session key wrapped by the root key. -/
structure SessionKeyEnvelope where
  schemaVersion : Nat
  sessionId : Uuid
  keyId : KeyId
  rootKeyId : KeyId
  algorithm : String
  /-- The nonce and the wrapped key. -/
  wrapped : EncryptedPayload SecretKey

structure RootKeyRecord where
  schemaVersion : Nat
  current : SecretKey
  previous : Option SecretKey

/-- The bytes of one secret, by what they can be read as. -/
inductive Secret where
  | envelope (envelope : SessionKeyEnvelope)
  | rootRecord (record : RootKeyRecord)
  /-- A root key without a record around it. -/
  | rawKey (key : SecretKey)
  | unreadable

/-- A minimal secret store over the state `σ`. -/
structure KeyStore (σ : Type) where
  put : KeyId → Secret → Program σ StorageError Unit
  get : KeyId → Program σ StorageError (Option Secret)
  delete : KeyId → Program σ StorageError Unit
  /-- The ids under the prefix of session keys. -/
  list : Program σ StorageError (List KeyId)

/-! ## The contract -/

/-- What can be seen of a store: what `get` reads and what `list` reports. -/
structure SecretView where
  secret : KeyId → Option Secret
  listed : KeyId → Prop

namespace SecretView

/-- The secret is in the store and listed. -/
def Stored (before after : SecretView) (id : KeyId) (new : Secret) : Prop :=
  after.secret = update before.secret id (some new) ∧
    ∀ key, after.listed key ↔ before.listed key ∨ key = id

/-- The secret is neither in the store nor listed. -/
def Removed (before after : SecretView) (id : KeyId) : Prop :=
  after.secret = update before.secret id none ∧
    ∀ key, after.listed key ↔ before.listed key ∧ key ≠ id

/-- The change of one secret took place or not, and the list is as before. -/
def Interrupted (before after : SecretView) (id : KeyId) (change : Option Secret) : Prop :=
  (after.secret = before.secret ∨ after.secret = update before.secret id change) ∧
    ∀ key, after.listed key ↔ before.listed key

theorem Interrupted.refl (view : SecretView) (id : KeyId) (change : Option Secret) :
    Interrupted view view id change :=
  ⟨.inl rfl, fun _ => Iff.rfl⟩

end SecretView

open SecretView

/-- What a store guarantees when any of its single writes can fail. -/
structure LawfulKeyStore {σ : Type} (store : KeyStore σ) where
  view : σ → SecretView
  put_spec : ∀ s id new, wp (store.put id new) (fun _ s' => Stored (view s) (view s') id new)
    (fun _ s' => Interrupted (view s) (view s') id (some new)) s
  get_spec : ∀ s id, wp (store.get id)
    (fun found s' => s' = s ∧ found = (view s).secret id) (fun _ s' => s' = s) s
  /-- A read that meets no fault succeeds. -/
  get_run : ∀ s id, (store.get id).run [] s = (.ok ((view s).secret id), s)
  delete_spec : ∀ s id, wp (store.delete id) (fun _ s' => Removed (view s) (view s') id)
    (fun _ s' => Interrupted (view s) (view s') id none) s
  list_spec : ∀ s, wp store.list
    (fun ids s' => s' = s ∧ ∀ key, key ∈ ids ↔ (view s).listed key ∧ key.isSession)
    (fun _ s' => s' = s) s

/-! ## The store of the platform -/

/-- The secrets of one namespace and the record that catalogs their ids. -/
structure Keyring where
  secrets : KeyId → Option Secret
  catalog : Option (List KeyId)

namespace Keyring

/-- A missing catalog record reads as an empty catalog. -/
def cataloged (keyring : Keyring) : List KeyId := keyring.catalog.getD []

def setSecret (id : KeyId) (new : Secret) : Program Keyring StorageError Unit :=
  invoke .keyStoreUnavailable fun keyring =>
    .ok ((), { keyring with secrets := update keyring.secrets id (some new) })

def getSecret (id : KeyId) : Program Keyring StorageError (Option Secret) :=
  invoke .keyStoreUnavailable fun keyring => .ok (keyring.secrets id, keyring)

def deleteSecret (id : KeyId) : Program Keyring StorageError Unit :=
  invoke .keyStoreUnavailable fun keyring =>
    .ok ((), { keyring with secrets := update keyring.secrets id none })

def readCatalog : Program Keyring StorageError (List KeyId) :=
  invoke .keyStoreUnavailable fun keyring => .ok (keyring.cataloged, keyring)

def writeCatalog (ids : List KeyId) : Program Keyring StorageError Unit :=
  invoke .keyStoreUnavailable fun keyring => .ok ((), { keyring with catalog := some ids })

def deleteCatalog : Program Keyring StorageError Unit :=
  invoke .keyStoreUnavailable fun keyring => .ok ((), { keyring with catalog := none })

end Keyring

open Keyring

/-- Writes the secret, then its id into the catalog; if that fails, the first write is undone. -/
def catalogedPut (id : KeyId) (new : Secret) : Program Keyring StorageError Unit := do
  let previous ← getSecret id
  let catalog ← readCatalog
  setSecret id new
  catchError
    (fun error => do
      match previous with
      | some previous => setSecret id previous
      | none => deleteSecret id
      fail error)
    (writeCatalog (catalog.insert id))

/-- Deletes the secret, then its id from the catalog. -/
def catalogedDelete (id : KeyId) : Program Keyring StorageError Unit := do
  deleteSecret id
  let catalog ← readCatalog
  let rest := catalog.filter (· ≠ id)
  if rest.isEmpty then deleteCatalog else writeCatalog rest

def platformKeyStore : KeyStore Keyring where
  put := catalogedPut
  get := getSecret
  delete := catalogedDelete
  list := do
    let catalog ← readCatalog
    return catalog.filter KeyId.isSession

def Keyring.view (keyring : Keyring) : SecretView := ⟨keyring.secrets, (· ∈ keyring.cataloged)⟩

theorem catalogedPut_spec (keyring : Keyring) (id : KeyId) (new : Secret) :
    wp (catalogedPut id new) (fun _ keyring' => Stored keyring.view keyring'.view id new)
      (fun _ keyring' => Interrupted keyring.view keyring'.view id (some new)) keyring := by
  have hsame := Interrupted.refl keyring.view id (some new)
  simp only [catalogedPut, getSecret, readCatalog, setSecret, writeCatalog, wp_bind, wp_invoke,
    wp_catchError]
  refine ⟨hsame, hsame, hsame, ?_, rfl, fun key => ?_⟩
  · -- the catalog was not written: the rollback restores the secret, if it does not fail
    have hrestored : update (update keyring.secrets id (some new)) id
        (keyring.secrets id) = keyring.secrets := by
      rw [update_idem, update_eq_self]
    cases hprevious : keyring.secrets id with
    | some previous =>
      simp only [wp_bind, wp_invoke, wp_fail]
      exact ⟨⟨.inr rfl, fun _ => Iff.rfl⟩, .inl (hprevious ▸ hrestored), fun _ => Iff.rfl⟩
    | none =>
      simp only [deleteSecret, wp_bind, wp_invoke, wp_fail]
      exact ⟨⟨.inr rfl, fun _ => Iff.rfl⟩, .inl (hprevious ▸ hrestored), fun _ => Iff.rfl⟩
  · show key ∈ keyring.cataloged.insert id ↔ _
    rw [List.mem_insert_iff]
    exact or_comm

theorem catalogedDelete_spec (keyring : Keyring) (id : KeyId) :
    wp (catalogedDelete id) (fun _ keyring' => Removed keyring.view keyring'.view id)
      (fun _ keyring' => Interrupted keyring.view keyring'.view id none) keyring := by
  have hrest : ∀ key, key ∈ keyring.cataloged.filter (· ≠ id)
      ↔ key ∈ keyring.cataloged ∧ key ≠ id := by
    intro key
    simp
  simp only [catalogedDelete, deleteSecret, readCatalog, deleteCatalog, writeCatalog, wp_bind,
    wp_invoke, wp_ite]
  refine ⟨.refl _ _ _, ⟨.inr rfl, fun _ => Iff.rfl⟩, ?_⟩
  split
  · next hempty =>
    refine ⟨⟨.inr rfl, fun _ => Iff.rfl⟩, rfl, fun key => ?_⟩
    have hnil := List.isEmpty_iff.mp hempty
    exact Iff.trans (hnil ▸ Iff.rfl) (hrest key)
  · exact ⟨⟨.inr rfl, fun _ => Iff.rfl⟩, rfl, hrest⟩

def platformKeyStore_lawful : LawfulKeyStore platformKeyStore where
  view := Keyring.view
  put_spec := catalogedPut_spec
  get_spec keyring id := by
    show wp (getSecret id) _ _ keyring
    rw [getSecret, wp_invoke]
    exact ⟨rfl, rfl, rfl⟩
  get_run _ _ := rfl
  delete_spec := catalogedDelete_spec
  list_spec keyring := by
    rw [platformKeyStore, readCatalog, wp_bind, wp_invoke]
    exact ⟨rfl, rfl, fun key => List.mem_filter⟩

/-! ## Calls with a single failing operation -/

/-- The calls that change a store. -/
inductive KeyStoreCall where
  | put (id : KeyId) (new : Secret)
  | delete (id : KeyId)

/-- The store after a call, given which of its operations fail. -/
def Keyring.call (keyring : Keyring) : KeyStoreCall × List Bool → Option Keyring
  | (.put id new, faults) => some ((catalogedPut id new).run faults keyring).2
  | (.delete id, faults) => some ((catalogedDelete id).run faults keyring).2

/-- At most one operation of a call fails. -/
def SingleFault (_ : Keyring) (call : KeyStoreCall × List Bool) : Prop := call.2.count true ≤ 1

/-- Every stored secret is in the catalog. -/
def SecretView.Listed (view : SecretView) : Prop :=
  ∀ id, view.secret id ≠ none → view.listed id

/-- A `put` that fails leaves everything as it was. -/
theorem catalogedPut_singleFault (keyring : Keyring) (id : KeyId) (new : Secret)
    {faults : List Bool} (hsingle : faults.count true ≤ 1) :
    Ends (fun _ after => Stored keyring.view after.view id new) (fun _ after => after = keyring)
      ((catalogedPut id new).run faults keyring) := by
  have hspec := wp_run (catalogedPut_spec keyring id new) faults
  generalize hend : (catalogedPut id new).run faults keyring = final at hspec ⊢
  obtain ⟨_ | _, after⟩ := final
  · show after = keyring
    match faults with
    | [] | [false] | [false, false] | [false, false, false]
    | false :: false :: false :: false :: _ => cases hend
    | true :: _ | false :: true :: _ | false :: false :: true :: _ => cases hend; rfl
    | false :: false :: false :: true :: true :: _ => simp at hsingle
    | [false, false, false, true] | false :: false :: false :: true :: false :: _ =>
      -- the rollback meets no second fault
      simp only [catalogedPut, getSecret, readCatalog, setSecret, writeCatalog, deleteSecret,
        invoke, bind, andThen, catchError, run, perform, fail] at hend
      cases hprevious : keyring.secrets id <;> rw [hprevious] at hend <;> cases hend <;>
        simp [perform, ← hprevious]
  · exact hspec

theorem listed_call {keyring after : Keyring} {call : KeyStoreCall × List Bool}
    (hlisted : keyring.view.Listed) (hsingle : SingleFault keyring call)
    (hcall : keyring.call call = some after) : after.view.Listed := by
  obtain ⟨_ | _, faults⟩ := call <;> cases hcall
  · next id new =>
    have hput := catalogedPut_singleFault keyring id new hsingle
    generalize (catalogedPut id new).run faults keyring = final at hput ⊢
    obtain ⟨_ | _, after⟩ := final
    · exact hput ▸ hlisted
    · simp only [Ends, Stored, Listed, funext_iff, update_apply] at hput hlisted ⊢
      grind
  · next id =>
    have hdelete := wp_run (catalogedDelete_spec keyring id) faults
    generalize (catalogedDelete id).run faults keyring = final at hdelete ⊢
    obtain ⟨_ | _, after⟩ := final <;>
      simp only [Ends, Interrupted, Removed, Listed, funext_iff, update_apply]
        at hdelete hlisted ⊢ <;> grind

/-- However calls follow each other from a store without unlisted secrets, each with at most
one failing operation: every stored secret is listed, and a `put` stores and lists its secret
or changes nothing. -/
theorem catalog_all_or_nothing {start keyring : Keyring} (hstart : start.view.Listed)
    (hreach : Reaches Keyring.call SingleFault start keyring) :
    keyring.view.Listed ∧ ∀ id new faults, SingleFault keyring (.put id new, faults) →
      Ends (fun _ after => id ∈ after.cataloged ∧ after.secrets id = some new)
        (fun _ after => after = keyring) ((catalogedPut id new).run faults keyring) := by
  refine ⟨hreach.invariant (I := (·.view.Listed)) hstart fun _ _ _ => listed_call,
    fun id new faults hsingle => ?_⟩
  have hput := catalogedPut_singleFault keyring id new hsingle
  generalize (catalogedPut id new).run faults keyring = final at hput ⊢
  obtain ⟨_ | _, after⟩ := final
  · exact hput
  · exact ⟨(hput.2 id).mpr (.inr rfl), (congrFun hput.1 id).trans (update_self ..)⟩

/-- The catalog cannot be written, and the first `put` is undone. -/
theorem interrupted_put_undone :
    ∃ keyring, Reaches Keyring.call SingleFault ⟨fun _ => none, none⟩ keyring ∧
      keyring.view.Listed ∧
      Ends (fun _ after => .root ∈ after.cataloged ∧ after.secrets .root = some .unreadable)
        (fun _ after => after = keyring) ((catalogedPut .root .unreadable).run [] keyring) := by
  have hreach : Reaches Keyring.call SingleFault ⟨fun _ => none, none⟩ _ :=
    .next (.put .root .unreadable, [false, false, false, true]) .start (by simp [SingleFault]) rfl
  have h := catalog_all_or_nothing (by simp [Listed, Keyring.view]) hreach
  exact ⟨_, hreach, h.1, h.2 _ _ [] (by simp [SingleFault])⟩

/-! ## Deleted secrets -/

/-- A call that does not put the secret does not bring it back. -/
theorem gone_call {id : KeyId} {keyring after : Keyring} {call : KeyStoreCall × List Bool}
    (hgone : keyring.secrets id = none) (hother : ∀ new, call.1 ≠ .put id new)
    (hcall : keyring.call call = some after) : after.secrets id = none := by
  obtain ⟨_ | _, faults⟩ := call <;> cases hcall
  · next other new =>
    have hne : id ≠ other := fun heq => hother new (heq ▸ rfl)
    have hput := wp_run (catalogedPut_spec keyring other new) faults
    generalize (catalogedPut other new).run faults keyring = final at hput ⊢
    obtain ⟨_ | _, after⟩ := final <;>
      simp only [Ends, Stored, Interrupted, view, funext_iff, update_apply] at hput ⊢ <;> grind
  · next other =>
    have hdelete := wp_run (catalogedDelete_spec keyring other) faults
    generalize (catalogedDelete other).run faults keyring = final at hdelete ⊢
    obtain ⟨_ | _, after⟩ := final <;>
      simp only [Ends, Removed, Interrupted, view, funext_iff, update_apply] at hdelete ⊢ <;> grind

/-- A deleted secret is not back before it is put again, however calls follow and fail. -/
theorem deleted_secret_gone {id : KeyId} {faults : List Bool} {start keyring : Keyring}
    (hdeleted : ((catalogedDelete id).run faults start).1 = .ok ())
    (hreach : Reaches Keyring.call (fun _ call => ∀ new, call.1 ≠ .put id new)
      ((catalogedDelete id).run faults start).2 keyring) : keyring.secrets id = none := by
  refine hreach.invariant (I := (·.secrets id = none)) ?_ fun _ _ _ => gone_call
  have hremoved := (wp_run (catalogedDelete_spec start id) faults).of_ok hdeleted
  exact (congrFun hremoved.1 id).trans (update_self ..)

/-- The root key is deleted, and a `put` of another secret fails and is not undone. -/
theorem deleted_root_gone : ∃ keyring : Keyring,
    keyring.secrets (.session 1) = some .unreadable ∧ keyring.secrets .root = none :=
  ⟨_, rfl, @deleted_secret_gone .root [] ⟨fun _ => some (.rawKey 7), none⟩ _ rfl
    (.next (.put (.session 1) .unreadable, [false, false, false, true, true]) .start
      (by simp) rfl)⟩

end Workbench.Storage
