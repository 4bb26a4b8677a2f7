import Workbench.Library.Writes
import Workbench.Storage.Event

/-!
# Storage: authenticated encryption and session keys

The cipher is modelled by what it guarantees: a payload opens under the key and the
associated data it was sealed with, and under no others.  Nonces are drawn afresh for
every payload and are read by nothing but the cipher.
-/

namespace Workbench.Storage

/-- A key of 256 bits. -/
abbrev SecretKey := BitVec 256

/-- Metadata authenticated with one encrypted event or key envelope. -/
structure AssociatedData where
  schemaVersion : Nat
  sessionId : Uuid
  objectId : String
  sequence : Nat
  kind : String
  deriving DecidableEq

/-- The output of the cipher for one plaintext. -/
structure EncryptedPayload (α : Type) where
  key : SecretKey
  plaintext : α
  associated : AssociatedData

namespace EncryptedPayload

variable {α : Type}

def encrypt (key : SecretKey) (plaintext : α) (associated : AssociatedData) : EncryptedPayload α :=
  ⟨key, plaintext, associated⟩

def decrypt (payload : EncryptedPayload α) (key : SecretKey) (associated : AssociatedData) :
    Except StorageError α :=
  if payload.key = key ∧ payload.associated = associated then .ok payload.plaintext
  else .error .authenticationFailed

@[simp] theorem decrypt_encrypt (key : SecretKey) (plaintext : α) (associated : AssociatedData) :
    (encrypt key plaintext associated).decrypt key associated = .ok plaintext :=
  if_pos ⟨rfl, rfl⟩

/-- Nothing opens under another key. -/
theorem decrypt_of_key_ne {key other : SecretKey} (hne : key ≠ other) (plaintext : α)
    (associated opened : AssociatedData) :
    (encrypt key plaintext associated).decrypt other opened = .error .authenticationFailed :=
  if_neg fun hboth => hne hboth.1

theorem plaintext_of_decrypt {payload : EncryptedPayload α} {key : SecretKey}
    {associated : AssociatedData} {plaintext : α}
    (h : payload.decrypt key associated = .ok plaintext) : payload.plaintext = plaintext := by
  unfold decrypt at h
  split at h
  · cases h
    rfl
  · cases h

end EncryptedPayload

/-! ## Session keys as the database sees them

What is left of a key manager when its store's operations are atomic: a table of
session keys in which a key is created once, read and destroyed. -/

open Library Program

/-- The key in the envelope of each session. -/
abbrev SessionKeys := Uuid → Option SecretKey

def SessionKeys.create (sessionId : Uuid) (draw : SecretKey) :
    Program SessionKeys StorageError Unit :=
  invoke .keyStoreUnavailable fun keys =>
    if (keys sessionId).isSome then .error (.invalidInput "session key already exists")
    else .ok ((), Function.update keys sessionId (some draw))

def SessionKeys.fetch (sessionId : Uuid) : Program SessionKeys StorageError SecretKey :=
  invoke .keyStoreUnavailable fun keys =>
    match keys sessionId with
    | none => .error .keyStoreUnavailable
    | some key => .ok (key, keys)

def SessionKeys.destroy (sessionId : Uuid) : Program SessionKeys StorageError Unit :=
  invoke .keyStoreUnavailable fun keys => .ok ((), Function.update keys sessionId none)

end Workbench.Storage
