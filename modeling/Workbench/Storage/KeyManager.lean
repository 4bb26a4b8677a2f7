import Workbench.Storage.KeyStore

/-!
# Storage: the key manager

Creates, unwraps, rotates and destroys the data keys of sessions.  A session key is
kept in an envelope under the current root key; while a rotation is under way the
record of the root keys holds the previous one too, and a key unwraps under either.
Keys that are drawn at random are arguments.
-/

namespace Workbench.Storage

open Library Program

/-- The state of a key manager: that of its store, and the keys it has cached. -/
structure KeyManager (σ : Type) where
  store : σ
  cache : Uuid → Option SecretKey

namespace KeyManager

variable {σ : Type}

def storePart : Part (KeyManager σ) σ where
  get manager := manager.store
  set manager store := { manager with store }
  get_set _ _ := rfl
  set_get _ := rfl
  set_set _ _ _ := rfl

def remember (manager : KeyManager σ) (id : Uuid) (key : SecretKey) : KeyManager σ :=
  { manager with cache := Function.update manager.cache id (some key) }

def forget (manager : KeyManager σ) (id : Uuid) : KeyManager σ :=
  { manager with cache := Function.update manager.cache id none }

end KeyManager

open KeyManager

/-! ## Envelopes and root keys -/

def envelopeAad (sessionId : Uuid) (keyId rootKeyId : KeyId) : AssociatedData where
  schemaVersion := 1
  sessionId
  objectId := keyId.text
  sequence := 0
  kind := rootKeyId.text

def SessionKeyEnvelope.wrap (sessionId : Uuid) (rootKey sessionKey : SecretKey) :
    SessionKeyEnvelope where
  schemaVersion := 1
  sessionId
  keyId := .session sessionId
  rootKeyId := .root
  algorithm := "xchacha20-poly1305"
  wrapped := .encrypt rootKey sessionKey (envelopeAad sessionId (.session sessionId) .root)

/-- The same envelope with the key wrapped anew. -/
def SessionKeyEnvelope.rewrap (envelope : SessionKeyEnvelope) (rootKey sessionKey : SecretKey) :
    SessionKeyEnvelope :=
  { envelope with
    wrapped := .encrypt rootKey sessionKey (envelopeAad envelope.sessionId envelope.keyId .root) }

def validateEnvelope (envelope : SessionKeyEnvelope) (sessionId : Uuid) (keyId rootKeyId : KeyId) :
    Except StorageError Unit :=
  if envelope.schemaVersion ≠ 1 ∨ envelope.sessionId ≠ sessionId ∨ envelope.keyId ≠ keyId ∨
      envelope.rootKeyId ≠ rootKeyId ∨ envelope.algorithm ≠ "xchacha20-poly1305" then
    .error .authenticationFailed
  else .ok ()

def Secret.asEnvelope : Secret → Except StorageError SessionKeyEnvelope
  | envelope found => .ok found
  | _ => .error .storageUnavailable

/-- The current root key and, during a rotation, the previous one. -/
def Secret.rootKeys : Secret → Except StorageError (SecretKey × Option SecretKey)
  | rawKey key => .ok (key, none)
  | rootRecord record =>
    if record.schemaVersion ≠ 1 then .error .keyStoreUnavailable
    else .ok (record.current, record.previous)
  | _ => .error .keyStoreUnavailable

/-- Only a payload that does not authenticate is tried with the previous key. -/
def decryptWithRootCandidates (encrypted : EncryptedPayload SecretKey) (current : SecretKey)
    (previous : Option SecretKey) (associated : AssociatedData) : Except StorageError SecretKey :=
  match encrypted.decrypt current associated with
  | .ok plaintext => .ok plaintext
  | .error .authenticationFailed =>
    match previous with
    | none => .error .authenticationFailed
    | some key => encrypted.decrypt key associated
  | .error error => .error error

/-! ## Operations -/

section

variable {σ : Type} (store : KeyStore σ)

def writeRootRecord (current : SecretKey) (previous : Option SecretKey) :
    Program (KeyManager σ) StorageError Unit :=
  on storePart (store.put .root (.rootRecord ⟨1, current, previous⟩))

def rootKeys : Program (KeyManager σ) StorageError (SecretKey × Option SecretKey) := do
  match ← on storePart (store.get .root) with
  | none => fail .keyStoreUnavailable
  | some secret => lift secret.rootKeys

def loadOrCreateRootKeys (draw : SecretKey) :
    Program (KeyManager σ) StorageError (SecretKey × Option SecretKey) := do
  if (← on storePart (store.get .root)).isSome then rootKeys store
  else
    writeRootRecord store draw none
    return (draw, none)

def createSessionKey (sessionId : Uuid) (rootDraw draw : SecretKey) :
    Program (KeyManager σ) StorageError KeyId := do
  if (← on storePart (store.get (.session sessionId))).isSome then
    fail (.invalidInput "session key already exists")
  else
    let (rootKey, _) ← loadOrCreateRootKeys store rootDraw
    on storePart (store.put (.session sessionId) (.envelope (.wrap sessionId rootKey draw)))
    update (·.remember sessionId draw)
    return .session sessionId

def sessionKey (sessionId : Uuid) : Program (KeyManager σ) StorageError SecretKey := do
  match ← read (·.cache sessionId) with
  | some key => return key
  | none =>
    match ← on storePart (store.get (.session sessionId)) with
    | none => fail .keyStoreUnavailable
    | some secret =>
      let envelope ← lift secret.asEnvelope
      lift (validateEnvelope envelope sessionId (.session sessionId) .root)
      let (current, previous) ← rootKeys store
      let key ← lift (decryptWithRootCandidates envelope.wrapped current previous
        (envelopeAad sessionId (.session sessionId) .root))
      update (·.remember sessionId key)
      return key

/-- The cached key is forgotten whether or not the store fails. -/
def destroySessionKey (sessionId : Uuid) : Program (KeyManager σ) StorageError Unit := do
  catchError (fun error => do update (·.forget sessionId); fail error)
    (on storePart (store.delete (.session sessionId)))
  update (·.forget sessionId)

/-- Wraps one session key under the target root. -/
def rewrapSessionKey (targetRoot : SecretKey) (fallbackRoot : Option SecretKey) (keyId : KeyId) :
    Program (KeyManager σ) StorageError Unit := do
  match ← on storePart (store.get keyId) with
  | none => fail .keyStoreUnavailable
  | some secret =>
    let envelope ← lift secret.asEnvelope
    let plaintext ← lift (decryptWithRootCandidates envelope.wrapped targetRoot fallbackRoot
      (envelopeAad envelope.sessionId envelope.keyId .root))
    on storePart (store.put keyId (.envelope (envelope.rewrap targetRoot plaintext)))

def rewrapAllSessionKeys (targetRoot : SecretKey) (fallbackRoot : Option SecretKey) :
    Program (KeyManager σ) StorageError Unit := do
  let ids ← on storePart store.list
  forEach ids (rewrapSessionKey store targetRoot fallbackRoot)

/-- Finishes a rotation that was interrupted, then makes one. -/
def rotateRootKey (rootDraw newRoot : SecretKey) : Program (KeyManager σ) StorageError Unit := do
  let (oldRoot, previousRoot) ← loadOrCreateRootKeys store rootDraw
  if previousRoot.isSome then
    rewrapAllSessionKeys store oldRoot previousRoot
    writeRootRecord store oldRoot none
  writeRootRecord store newRoot (some oldRoot)
  rewrapAllSessionKeys store newRoot (some oldRoot)
  writeRootRecord store newRoot none

end

/-! ## Rules for the calls of a lawful store -/

section

variable {σ : Type} {store : KeyStore σ} (lawful : LawfulKeyStore store) {manager : KeyManager σ}
  {id : KeyId} {err : StorageError → KeyManager σ → Prop} {ok : Unit → KeyManager σ → Prop}

theorem put_rule {new : Secret}
    (hok : ∀ s, SecretView.Stored (lawful.view manager.store) (lawful.view s) id new →
      ok () { manager with store := s })
    (herr : ∀ e s, SecretView.Interrupted (lawful.view manager.store) (lawful.view s) id
    (some new) →
      err e { manager with store := s }) : wp (on storePart (store.put id new)) ok err manager := by
  rw [wp_on]
  exact wp_mono (fun _ s h => hok s h) (fun e s h => herr e s h) (lawful.put_spec _ id new)

theorem get_rule {ok : Option Secret → KeyManager σ → Prop}
    (hok : ok ((lawful.view manager.store).secret id) manager) (herr : ∀ e, err e manager) :
    wp (on storePart (store.get id)) ok err manager := by
  rw [wp_on]
  refine wp_mono ?_ ?_ (lawful.get_spec _ id)
  · rintro found s ⟨rfl, rfl⟩
    exact hok
  · rintro e s rfl
    exact herr e

end

end Workbench.Storage
