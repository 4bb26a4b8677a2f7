import Workbench.Storage.KeyManager

/-!
# Storage: session keys survive root rotations

A rotation rewraps the envelopes one by one between two root keys, and each of its
writes can fail or be the last one before a crash.  What holds after every write is
that each key that was created and not destroyed is listed and sits in an envelope
under a root key that the root record still holds.
-/

namespace Workbench.Storage

open Library Program KeyManager SecretView

/-! ## Runs of key operations -/

/-- An operation on the key manager, with the keys it draws. -/
inductive KeyOperation where
  | create (id : Uuid) (rootDraw draw : SecretKey)
  | read (id : Uuid)
  | destroy (id : Uuid)
  | rotate (rootDraw newRoot : SecretKey)
  /-- A new process: nothing is cached. -/
  | reopen

/-- A key manager and the keys that were created successfully and not destroyed since. -/
structure KeySystem (σ : Type) where
  manager : KeyManager σ
  live : Uuid → Option SecretKey

section

variable {σ : Type} {store : KeyStore σ} (lawful : LawfulKeyStore store)

/-- One operation under a list of faults; a destruction that misses the secret leaves the key. -/
def KeySystem.step (s : KeySystem σ) : KeyOperation × List Bool → Option (KeySystem σ)
  | (.create id rootDraw draw, faults) =>
    match (createSessionKey store id rootDraw draw).run faults s.manager with
    | (.ok _, manager) => some ⟨manager, Function.update s.live id (some draw)⟩
    | (.error _, manager) => some { s with manager }
  | (.read id, faults) => some { s with manager := ((sessionKey store id).run faults s.manager).2 }
  | (.destroy id, faults) =>
    let manager := ((destroySessionKey store id).run faults s.manager).2
    if ((lawful.view manager.store).secret (.session id)).isSome then some { s with manager }
    else some ⟨manager, Function.update s.live id none⟩
  | (.rotate rootDraw newRoot, faults) =>
    some { s with manager := ((rotateRootKey store rootDraw newRoot).run faults s.manager).2 }
  | (.reopen, _) => some { s with manager := { s.manager with cache := fun _ => none } }

/-- A store of any contents, with a manager that has just been opened. -/
def KeySystem.opened (contents : σ) : KeySystem σ := ⟨⟨contents, fun _ => none⟩, fun _ => none⟩

end

/-! ## Where the live keys are -/

/-- The root keys of the record, if it can be read. -/
def SecretView.rootKeys (view : SecretView) : Except StorageError (SecretKey × Option SecretKey) :=
  match view.secret .root with
  | none => .error .keyStoreUnavailable
  | some secret => secret.rootKeys

/-- The key is listed and wrapped under one of the roots. -/
def SecretView.Wrapped (view : SecretView) (roots : SecretKey → Prop) (id : Uuid)
    (key : SecretKey) : Prop :=
  view.listed (.session id) ∧
    ∃ root, roots root ∧ view.secret (.session id) = some (.envelope (.wrap id root key))

/-- Every live key is wrapped under one of the roots. -/
def SecretView.AllWrapped (view : SecretView) (live : Uuid → Option SecretKey)
    (roots : SecretKey → Prop) : Prop :=
  ∀ id key, live id = some key → view.Wrapped roots id key

def Candidate (current : SecretKey) (previous : Option SecretKey) (root : SecretKey) : Prop :=
  root = current ∨ previous = some root

/-- The root record can be read and holds the key. -/
def SecretView.HoldsRoot (view : SecretView) (root : SecretKey) : Prop :=
  ∃ current previous, view.rootKeys = .ok (current, previous) ∧ Candidate current previous root

/-- Every live key is wrapped under a root that the record holds. -/
def SecretView.Preserved (view : SecretView) (live : Uuid → Option SecretKey) : Prop :=
  view.AllWrapped live view.HoldsRoot

section

variable {view view' : SecretView} {live : Uuid → Option SecretKey} {roots : SecretKey → Prop}

theorem SecretView.AllWrapped.mono {more : SecretKey → Prop} (h : view.AllWrapped live roots)
    (hmore : ∀ root, roots root → more root) : view.AllWrapped live more := by
  intro id key hlive
  obtain ⟨hlisted, root, hroot, hsecret⟩ := h id key hlive
  exact ⟨hlisted, root, hmore root hroot, hsecret⟩

/-- Envelopes stay where they are as long as their secrets do. -/
theorem SecretView.AllWrapped.of_same (h : view.AllWrapped live roots)
    (hsecret : ∀ id, view'.secret (.session id) = view.secret (.session id))
    (hlisted : ∀ key, view.listed key → view'.listed key) : view'.AllWrapped live roots := by
  intro id key hlive
  obtain ⟨hin, root, hroot, hwrapped⟩ := h id key hlive
  exact ⟨hlisted _ hin, root, hroot, (hsecret id).trans hwrapped⟩

theorem SecretView.rootKeys_congr (h : view'.secret .root = view.secret .root) :
    view'.rootKeys = view.rootKeys := by
  rw [SecretView.rootKeys, SecretView.rootKeys, h]

variable {current : SecretKey} {previous : Option SecretKey}

theorem SecretView.HoldsRoot.of_rootKeys {root : SecretKey}
    (h : view.rootKeys = .ok (current, previous)) (hroot : Candidate current previous root) :
    view.HoldsRoot root :=
  ⟨current, previous, h, hroot⟩

theorem SecretView.Preserved.of_same (h : view.Preserved live)
    (hsecret : view'.secret = view.secret)
    (hlisted : ∀ key, view.listed key → view'.listed key) : view'.Preserved live := by
  refine (AllWrapped.of_same h (fun id => by rw [hsecret]) hlisted).mono ?_
  rintro root ⟨current, previous, hkeys, hcandidate⟩
  exact ⟨current, previous, (rootKeys_congr (by rw [hsecret])).trans hkeys, hcandidate⟩

end

theorem decryptWithRootCandidates_wrap {current root key : SecretKey}
    {previous : Option SecretKey} (id : Uuid) (hroot : Candidate current previous root) :
    decryptWithRootCandidates (SessionKeyEnvelope.wrap id root key).wrapped current previous
      (envelopeAad id (.session id) .root) = .ok key := by
  unfold decryptWithRootCandidates SessionKeyEnvelope.wrap
  by_cases heq : root = current
  · subst heq
    rw [EncryptedPayload.decrypt_encrypt]
  rw [EncryptedPayload.decrypt_of_key_ne heq]
  rcases hroot with hcurrent | hprevious
  · exact absurd hcurrent heq
  · rw [hprevious]
    exact EncryptedPayload.decrypt_encrypt root key _

theorem validateEnvelope_wrap (id : Uuid) (root key : SecretKey) :
    validateEnvelope (.wrap id root key) id (.session id) .root = .ok () := by
  simp [validateEnvelope, SessionKeyEnvelope.wrap]

/-! ## What each operation does to them -/

section

variable {σ : Type} {store : KeyStore σ} (lawful : LawfulKeyStore store)
  {manager : KeyManager σ} {cache live : Uuid → Option SecretKey}

/-- The cache is the given one and the live keys are preserved. -/
def Keeps (cache live : Uuid → Option SecretKey) (manager : KeyManager σ) : Prop :=
  manager.cache = cache ∧ (lawful.view manager.store).Preserved live

/-- The cache is this one, the root keys are readable and the live keys sit under some of them. -/
structure Rooted (cache live : Uuid → Option SecretKey) (roots : SecretKey → Prop)
    (keys : SecretKey × Option SecretKey) (manager : KeyManager σ) : Prop where
  cache : manager.cache = cache
  wrapped : (lawful.view manager.store).AllWrapped live roots
  rootKeys : (lawful.view manager.store).rootKeys = .ok keys

variable {lawful}

section

variable {roots : SecretKey → Prop} {keys : SecretKey × Option SecretKey}

theorem Rooted.holds (h : Rooted lawful cache live roots keys manager)
    (hroots : ∀ root, roots root → Candidate keys.1 keys.2 root) (root : SecretKey)
    (hroot : roots root) : (lawful.view manager.store).HoldsRoot root :=
  .of_rootKeys h.rootKeys (hroots root hroot)

theorem Rooted.keeps (h : Rooted lawful cache live roots keys manager)
    (hroots : ∀ root, roots root → Candidate keys.1 keys.2 root) :
    Keeps lawful cache live manager :=
  ⟨h.cache, h.wrapped.mono (h.holds hroots)⟩

end

variable {previous entry : Option SecretKey} {keyId : KeyId} {roots : SecretKey → Prop}

/-- The record is written while the live keys sit under roots that both records hold. -/
theorem writeRootRecord_spec {current : SecretKey}
    (hcache : manager.cache = cache) (hwrapped : (lawful.view manager.store).AllWrapped live roots)
    (hold : ∀ root, roots root → (lawful.view manager.store).HoldsRoot root)
    (hnew : ∀ root, roots root → Candidate current previous root) :
    wp (writeRootRecord store current previous)
      (fun _ => Rooted lawful cache live roots (current, previous))
      (fun _ => Keeps lawful cache live) manager := by
  have hrooted : ∀ s, (lawful.view s).secret
        = Function.update (lawful.view manager.store).secret .root
          (some (.rootRecord ⟨1, current, previous⟩)) →
      (∀ key, (lawful.view manager.store).listed key → (lawful.view s).listed key) →
      Rooted lawful cache live roots (current, previous) { manager with store := s } := by
    intro s hsecret hlisted
    refine ⟨hcache, hwrapped.of_same (fun id => ?_) hlisted, ?_⟩
    · rw [hsecret, Function.update_of_ne (by simp)]
    · rw [SecretView.rootKeys, hsecret, Function.update_self]
      rfl
  apply put_rule lawful
  · rintro s ⟨hsecret, hlisted⟩
    exact hrooted s hsecret fun key hkey => (hlisted key).mpr (.inl hkey)
  rintro e s ⟨hsecret, hlisted⟩
  have hkept := fun key hkey => (hlisted key).mpr hkey
  rcases hsecret with hsecret | hsecret
  · exact ⟨hcache, Preserved.of_same (hwrapped.mono hold) hsecret hkept⟩
  · exact (hrooted s hsecret hkept).keeps hnew

variable (lawful) in
theorem rootKeys_spec :
    wp (rootKeys store)
      (fun keys manager' => manager' = manager ∧ (lawful.view manager.store).rootKeys = .ok keys)
      (fun _ manager' => manager' = manager) manager := by
  rw [Workbench.Storage.rootKeys, wp_bind]
  apply get_rule lawful
  · cases hroot : (lawful.view manager.store).secret .root with
    | none => exact rfl
    | some secret =>
      have hkeys : (lawful.view manager.store).rootKeys = secret.rootKeys := by
        rw [SecretView.rootKeys, hroot]
      show wp (lift secret.rootKeys) _ _ manager
      cases hread : secret.rootKeys with
      | ok keys => exact ⟨rfl, hkeys.trans hread⟩
      | error e => exact rfl
  · exact fun _ => rfl

/-- The root keys that are loaded, or drawn when no key can be live. -/
theorem loadOrCreateRootKeys_spec (draw : SecretKey) (h : Keeps lawful cache live manager) :
    wp (loadOrCreateRootKeys store draw)
      (fun keys => Rooted lawful cache live (Candidate keys.1 keys.2) keys)
      (fun _ => Keeps lawful cache live) manager := by
  rw [loadOrCreateRootKeys, wp_bind]
  apply get_rule lawful
  · cases hroot : (lawful.view manager.store).secret .root with
    | some secret =>
      refine wp_mono ?_ ?_ (rootKeys_spec lawful)
      · rintro keys manager' ⟨rfl, hkeys⟩
        refine ⟨h.1, h.2.mono ?_, hkeys⟩
        rintro root ⟨current, previous, hread, hcandidate⟩
        cases hread.symm.trans hkeys
        exact hcandidate
      · rintro e manager' rfl
        exact h
    | none =>
      have hnone : ∀ root, (lawful.view manager.store).HoldsRoot root →
          Candidate draw none root := by
        rintro root ⟨current, previous, hread, _⟩
        rw [SecretView.rootKeys, hroot] at hread
        cases hread
      refine wp_seq (writeRootRecord_spec h.1 h.2 (fun _ hroot => hroot) hnone) ?_
      exact fun _ _ hwritten => { hwritten with wrapped := hwritten.wrapped.mono hnone }
  · exact fun _ => h

/-- What holds while envelopes are rewrapped: those not to come are under the target. -/
structure Rewrapping (view : SecretView) (live : Uuid → Option SecretKey) (target : SecretKey)
    (fallback : Option SecretKey) (rest : List KeyId) : Prop where
  rootKeys : view.rootKeys = .ok (target, fallback)
  wrapped : view.AllWrapped live (Candidate target fallback)
  done : ∀ id key, live id = some key → .session id ∉ rest → view.Wrapped (· = target) id key

variable {target : SecretKey} {fallback : Option SecretKey} {rest : List KeyId} {id : Uuid}

theorem Rewrapping.preserved {view : SecretView} (h : Rewrapping view live target fallback rest) :
    view.Preserved live :=
  h.wrapped.mono fun _ hroot => .of_rootKeys h.rootKeys hroot

/-- Replacing one envelope by the same key under the target keeps the condition. -/
theorem Rewrapping.put {view view' : SecretView} {plaintext : SecretKey}
    {envelope : SessionKeyEnvelope} (h : Rewrapping view live target fallback (keyId :: rest))
    (hcurrent : view.secret keyId = some (.envelope envelope)) (hsession : keyId.isSession)
    (hopened : decryptWithRootCandidates envelope.wrapped target fallback
      (envelopeAad envelope.sessionId envelope.keyId .root) = .ok plaintext)
    (hsecret : view'.secret
      = Function.update view.secret keyId (some (.envelope (envelope.rewrap target plaintext))))
    (hlisted : ∀ key, view.listed key → view'.listed key) :
    Rewrapping view' live target fallback rest := by
  have hroot : view'.rootKeys = view.rootKeys := by
    apply rootKeys_congr
    rw [hsecret, Function.update_of_ne]
    rintro rfl
    cases hsession
  have hwraps : ∀ (roots : SecretKey → Prop) id key, live id = some key → roots target →
      (.session id ≠ keyId → view.Wrapped roots id key) → view'.Wrapped roots id key := by
    intro roots id key hlive htarget hkept
    by_cases heq : .session id = keyId
    · obtain ⟨hin, root, hcandidate, hwrapped⟩ := h.wrapped id key hlive
      rw [heq, hcurrent] at hwrapped
      cases hwrapped
      -- the rewrapped key is the one that was created
      rw [show (SessionKeyEnvelope.wrap id root key).sessionId = id from rfl,
        show (SessionKeyEnvelope.wrap id root key).keyId = .session id from rfl,
        decryptWithRootCandidates_wrap id hcandidate] at hopened
      cases hopened
      refine ⟨hlisted _ hin, target, htarget, ?_⟩
      rw [hsecret, heq, Function.update_self]
      rfl
    · obtain ⟨hin, root, hroot, hwrapped⟩ := hkept heq
      refine ⟨hlisted _ hin, root, hroot, ?_⟩
      rw [hsecret, Function.update_of_ne heq, hwrapped]
  refine ⟨hroot.trans h.rootKeys, fun id key hlive => ?_, fun id key hlive hrest => ?_⟩
  · exact hwraps _ id key hlive (.inl rfl) fun _ => h.wrapped id key hlive
  · exact hwraps _ id key hlive rfl fun hne => h.done id key hlive (by simp [hne, hrest])

theorem rewrapSessionKey_spec (hsession : keyId.isSession) (hcache : manager.cache = cache)
    (h : Rewrapping (lawful.view manager.store) live target fallback (keyId :: rest)) :
    wp (rewrapSessionKey store target fallback keyId)
      (fun _ manager' => manager'.cache = cache ∧
        Rewrapping (lawful.view manager'.store) live target fallback rest)
      (fun _ => Keeps lawful cache live) manager := by
  have hfail : Keeps lawful cache live manager := ⟨hcache, h.preserved⟩
  rw [rewrapSessionKey, wp_bind]
  apply get_rule lawful
  · cases hcurrent : (lawful.view manager.store).secret keyId with
    | none => exact hfail
    | some secret =>
      cases secret with
      | envelope envelope =>
        show wp (lift (decryptWithRootCandidates envelope.wrapped target fallback
          (envelopeAad envelope.sessionId envelope.keyId .root)) >>= _) _ _ manager
        cases hopened : decryptWithRootCandidates envelope.wrapped target fallback
            (envelopeAad envelope.sessionId envelope.keyId .root) with
        | error e => exact hfail
        | ok =>
          apply put_rule lawful
          · rintro s ⟨hsecret, hlisted⟩
            exact ⟨hcache, h.put hcurrent hsession hopened hsecret
              fun key hkey => (hlisted key).mpr (.inl hkey)⟩
          rintro e s ⟨hsecret, hlisted⟩
          have hkept := fun key hkey => (hlisted key).mpr hkey
          refine ⟨hcache, ?_⟩
          rcases hsecret with hsecret | hsecret
          · exact h.preserved.of_same hsecret hkept
          · exact (h.put hcurrent hsession hopened hsecret hkept).preserved
      | rootRecord | rawKey | unreadable => exact hfail
  · exact fun _ => hfail

/-- A pass over all envelopes that ends well leaves every live key under the target. -/
theorem rewrapAllSessionKeys_spec (h : Rooted lawful cache live roots (target, fallback) manager)
    (hroots : ∀ root, roots root → Candidate target fallback root) :
    wp (rewrapAllSessionKeys store target fallback)
      (fun _ => Rooted lawful cache live (· = target) (target, fallback))
      (fun _ => Keeps lawful cache live) manager := by
  have hwrapped := h.wrapped.mono hroots
  rw [rewrapAllSessionKeys, wp_bind, wp_on]
  refine wp_mono ?_ ?_ (lawful.list_spec _)
  · rintro ids s ⟨rfl, hids⟩
    have hstart : Rewrapping (lawful.view manager.store) live target fallback ids := by
      refine ⟨h.rootKeys, hwrapped, fun id key hlive hnot => ?_⟩
      exact absurd ((hids _).mpr ⟨(hwrapped id key hlive).1, rfl⟩) hnot
    have hsessions : ∀ key ∈ ids, key.isSession := fun key hkey => ((hids key).mp hkey).2
    refine wp_mono ?_ (fun _ _ h => h)
      (wp_forEach (fun rest manager' => manager'.cache = cache ∧
          (∀ key ∈ rest, key.isSession = true) ∧
          Rewrapping (lawful.view manager'.store) live target fallback rest) ?_ ids manager
        ⟨h.cache, hsessions, hstart⟩)
    · rintro u manager' ⟨hcache, _, h⟩
      exact ⟨hcache, fun id key hlive => h.done id key hlive List.not_mem_nil, h.rootKeys⟩
    rintro keyId rest manager' ⟨hcache, hall, h⟩
    refine wp_mono ?_ (fun _ _ h => h)
      (rewrapSessionKey_spec (hall keyId List.mem_cons_self) hcache h)
    rintro u later ⟨hcache', h'⟩
    exact ⟨hcache', fun key hkey => hall key (List.mem_cons_of_mem _ hkey), h'⟩
  · rintro e s rfl
    exact h.keeps hroots

/-- From one root on: announce the new one, rewrap, drop the old one. -/
theorem changeRoot_spec {oldRoot newRoot : SecretKey}
    (h : Rooted lawful cache live (· = oldRoot) (oldRoot, previous) manager) :
    wp (do
        writeRootRecord store newRoot (some oldRoot)
        rewrapAllSessionKeys store newRoot (some oldRoot)
        writeRootRecord store newRoot none)
      (fun _ => Keeps lawful cache live) (fun _ => Keeps lawful cache live) manager := by
  have hprevious : ∀ root, root = oldRoot → Candidate newRoot (some oldRoot) root :=
    fun root hroot => .inr (hroot ▸ rfl)
  refine wp_seq (writeRootRecord_spec h.cache h.wrapped
    (h.holds fun _ hroot => .inl hroot) hprevious) fun _ announced hannounced => ?_
  refine wp_seq (rewrapAllSessionKeys_spec hannounced hprevious) fun _ rewrapped hrewrapped => ?_
  refine wp_mono ?_ (fun _ _ h => h) (writeRootRecord_spec hrewrapped.cache
    hrewrapped.wrapped (hrewrapped.holds fun _ hroot => .inl hroot) fun _ hroot => .inl hroot)
  exact fun _ _ hended => hended.keeps fun _ hroot => .inl hroot

/-- Every write of a rotation keeps the live keys under roots that the record holds. -/
theorem rotateRootKey_spec (rootDraw newRoot : SecretKey) (h : Keeps lawful cache live manager) :
    wp (rotateRootKey store rootDraw newRoot) (fun _ => Keeps lawful cache live)
      (fun _ => Keeps lawful cache live) manager := by
  refine wp_seq (loadOrCreateRootKeys_spec rootDraw h) ?_
  rintro ⟨oldRoot, previousRoot⟩ loaded hloaded
  cases previousRoot with
  | none =>
    refine changeRoot_spec { hloaded with wrapped := hloaded.wrapped.mono ?_ }
    rintro root (hroot | hroot)
    · exact hroot
    · cases hroot
  | some previous =>
    -- the interrupted rotation is finished first
    refine wp_seq (rewrapAllSessionKeys_spec hloaded fun _ hroot => hroot)
      fun _ rewrapped hrewrapped => ?_
    refine wp_seq (writeRootRecord_spec hrewrapped.cache hrewrapped.wrapped
      (hrewrapped.holds fun _ hroot => .inl hroot) fun _ hroot => .inl hroot) ?_
    exact fun _ _ hfinished => changeRoot_spec hfinished

/-- An envelope that is written where no live key sits leaves the live keys in place. -/
theorem preserved_of_session_write {view view' : SecretView} {change : Option Secret}
    (hpreserved : view.Preserved live) (hfree : live id = none)
    (hsecret : view'.secret = view.secret ∨
      view'.secret = Function.update view.secret (.session id) change)
    (hlisted : ∀ key, view.listed key → key ≠ .session id → view'.listed key) :
    view'.Preserved live := by
  have hroot : view'.rootKeys = view.rootKeys := by
    apply rootKeys_congr
    rcases hsecret with hsecret | hsecret
    · rw [hsecret]
    · rw [hsecret, Function.update_of_ne (by simp)]
  intro other key hlive
  have hne : KeyId.session other ≠ .session id := by
    intro heq
    cases heq
    rw [hfree] at hlive
    cases hlive
  obtain ⟨hin, root, ⟨c, p, hkeys, hcandidate⟩, hwrapped⟩ := hpreserved other key hlive
  refine ⟨hlisted _ hin hne, root, ⟨c, p, hroot.trans hkeys, hcandidate⟩, ?_⟩
  rcases hsecret with hsecret | hsecret
  · rw [hsecret, hwrapped]
  · rw [hsecret, Function.update_of_ne hne, hwrapped]

theorem createSessionKey_spec (id : Uuid) (rootDraw draw : SecretKey)
    (h : Keeps lawful cache live manager) :
    wp (createSessionKey store id rootDraw draw)
      (fun _ => Keeps lawful (Function.update cache id (some draw))
        (Function.update live id (some draw)))
      (fun _ => Keeps lawful cache live) manager := by
  rw [createSessionKey, wp_bind]
  apply get_rule lawful
  · cases hfound : (lawful.view manager.store).secret (.session id) with
    | some secret => exact h
    | none =>
      have hfree : live id = none := by
        cases hlive : live id with
        | none => rfl
        | some key =>
          obtain ⟨_, root, _, hwrapped⟩ := h.2 id key hlive
          rw [hfound] at hwrapped
          cases hwrapped
      refine wp_seq (loadOrCreateRootKeys_spec rootDraw h) ?_
      rintro ⟨rootKey, previous⟩ loaded hloaded
      have hpreserved := (hloaded.keeps fun _ hroot => hroot).2
      rw [wp_bind]
      apply put_rule lawful
      · rintro s ⟨hsecret, hlisted⟩
        rw [wp_bind, wp_update, wp_pure]
        refine ⟨hloaded.cache ▸ rfl, fun other key hlive => ?_⟩
        show (lawful.view s).Wrapped (lawful.view s).HoldsRoot other key
        by_cases heq : other = id
        · subst heq
          rw [Function.update_self] at hlive
          cases hlive
          have hrootKeys : (lawful.view s).rootKeys = .ok (rootKey, previous) := by
            rw [← hloaded.rootKeys]
            apply rootKeys_congr
            rw [hsecret, Function.update_of_ne (by simp)]
          refine ⟨(hlisted _).mpr (.inr rfl), rootKey, .of_rootKeys hrootKeys (.inl rfl), ?_⟩
          rw [hsecret, Function.update_self]
        · rw [Function.update_of_ne heq] at hlive
          exact preserved_of_session_write hpreserved hfree (.inr hsecret)
            (fun key hkey _ => (hlisted key).mpr (.inl hkey)) other key hlive
      · rintro e s ⟨hsecret, hlisted⟩
        exact ⟨hloaded.cache, preserved_of_session_write hpreserved hfree hsecret
          fun key hkey _ => (hlisted key).mpr hkey⟩
  · exact fun _ => h

/-- The cached keys of live sessions are the live ones. -/
def CacheAgrees (cache : Uuid → Option SecretKey) (live : Uuid → Option SecretKey) : Prop :=
  ∀ id key cached, live id = some key → cache id = some cached → cached = key

variable {cache live : Uuid → Option SecretKey}

theorem CacheAgrees.update (h : CacheAgrees cache live) {key : Option SecretKey}
    (hid : ∀ created cached, key = some created → entry = some cached → cached = created) :
    CacheAgrees (Function.update cache id entry) (Function.update live id key) := by
  intro other created cached hlive hcached
  by_cases heq : other = id
  · subst heq
    rw [Function.update_self] at hlive hcached
    exact hid created cached hlive hcached
  · rw [Function.update_of_ne heq] at hlive hcached
    exact h other created cached hlive hcached

/-- A change of the cache only. -/
theorem CacheAgrees.set (h : CacheAgrees cache live)
    (hid : ∀ created cached, live id = some created → entry = some cached → cached = created) :
    CacheAgrees (Function.update cache id entry) live := by
  have hupdate : CacheAgrees (Function.update cache id entry)
      (Function.update live id (live id)) := h.update hid
  rwa [Function.update_eq_self] at hupdate

/-- A session key that is read is the one that was created. -/
theorem sessionKey_spec (id : Uuid) (hpreserved : (lawful.view manager.store).Preserved live)
    (hcache : CacheAgrees manager.cache live) :
    wp (sessionKey store id)
      (fun key manager' => manager'.store = manager.store ∧ CacheAgrees manager'.cache live ∧
        ∀ created, live id = some created → key = created)
      (fun _ manager' => manager' = manager) manager := by
  rw [sessionKey, wp_bind, wp_read]
  cases hcached : manager.cache id with
  | some cached => exact ⟨rfl, hcache, fun created hlive => hcache id created cached hlive hcached⟩
  | none =>
    rw [wp_bind]
    apply get_rule lawful
    · cases hfound : (lawful.view manager.store).secret (.session id) with
      | none => exact rfl
      | some secret =>
        cases secret with
        | envelope envelope =>
          show wp (lift (validateEnvelope envelope id (.session id) .root) >>= fun _ => _)
            _ _ manager
          rw [wp_bind]
          cases hvalid : validateEnvelope envelope id (.session id) .root with
          | error e => exact rfl
          | ok u =>
            refine wp_seq (rootKeys_spec lawful) ?_
            rintro ⟨current, previous⟩ manager' ⟨rfl, hkeys⟩
            rw [wp_bind]
            cases hopened : decryptWithRootCandidates envelope.wrapped current previous
                (envelopeAad id (.session id) .root) with
            | error e => exact rfl
            | ok key =>
              have hcreated : ∀ created, live id = some created → key = created := by
                intro created hlive
                obtain ⟨_, root, ⟨c, p, hread, hcandidate⟩, hwrapped⟩ :=
                  hpreserved id created hlive
                cases hread.symm.trans hkeys
                rw [hfound] at hwrapped
                cases hwrapped
                rw [decryptWithRootCandidates_wrap id hcandidate] at hopened
                cases hopened
                rfl
              rw [wp_lift_ok, wp_bind, wp_update, wp_pure]
              refine ⟨rfl, hcache.set ?_, hcreated⟩
              rintro created cached hlive ⟨⟩
              exact hcreated created hlive
        | rootRecord | rawKey | unreadable => exact rfl
    · exact fun _ => rfl

theorem destroySessionKey_spec (id : Uuid) {Q : KeyManager σ → Prop}
    (hremoved : ∀ s, Removed (lawful.view manager.store) (lawful.view s) (.session id) →
      Q ({ manager with store := s }.forget id))
    (hinterrupted : ∀ s, Interrupted (lawful.view manager.store) (lawful.view s)
    (.session id) none →
      Q ({ manager with store := s }.forget id)) :
    wp (destroySessionKey store id) (fun _ => Q) (fun _ => Q) manager := by
  rw [destroySessionKey, wp_bind, wp_catchError, wp_on]
  refine wp_mono ?_ ?_ (lawful.delete_spec _ (.session id))
  · intro _ s h
    rw [wp_update]
    exact hremoved s h
  · intro e s h
    rw [wp_bind, wp_update, wp_fail]
    exact hinterrupted s h

end

/-! ## Whole runs -/

section

variable {σ : Type} {store : KeyStore σ} (lawful : LawfulKeyStore store)

/-- Every live key is in the store, and nothing else is cached for it. -/
structure KeysKept (s : KeySystem σ) : Prop where
  preserved : (lawful.view s.manager.store).Preserved s.live
  cache : CacheAgrees s.manager.cache s.live

variable {lawful}

theorem preserved_forget {view : SecretView} {live : Uuid → Option SecretKey}
    (h : view.Preserved live) (id : Uuid) : view.Preserved (Function.update live id none) := by
  intro other key hlive
  by_cases heq : other = id
  · subst heq
    rw [Function.update_self] at hlive
    cases hlive
  · rw [Function.update_of_ne heq] at hlive
    exact h other key hlive

variable {s : KeySystem σ}

theorem destroy_keeps (h : KeysKept lawful s) (id : Uuid) (manager : KeyManager σ)
    (hcache : manager.cache = Function.update s.manager.cache id none)
    (hview : Removed (lawful.view s.manager.store) (lawful.view manager.store) (.session id) ∨
      Interrupted (lawful.view s.manager.store) (lawful.view manager.store) (.session id) none) :
    if ((lawful.view manager.store).secret (.session id)).isSome then
      KeysKept lawful { s with manager }
    else KeysKept lawful ⟨manager, Function.update s.live id none⟩ := by
  split
  · next hsome =>
    -- a secret that is still there was not touched
    refine ⟨?_, hcache ▸ h.cache.set fun _ _ _ hnone => nomatch hnone⟩
    rcases hview with ⟨hsecret, _⟩ | ⟨hsecret | hsecret, hlisted⟩
    · rw [hsecret, Function.update_self] at hsome
      cases hsome
    · exact h.preserved.of_same hsecret fun key hkey => (hlisted key).mpr hkey
    · rw [hsecret, Function.update_self] at hsome
      cases hsome
  · refine ⟨?_, hcache ▸ h.cache.update fun _ _ hnone _ => nomatch hnone⟩
    have hforgotten := preserved_forget h.preserved id
    have hfree : Function.update s.live id none id = none := Function.update_self ..
    rcases hview with ⟨hsecret, hlisted⟩ | ⟨hsecret, hlisted⟩
    · exact preserved_of_session_write hforgotten hfree (.inr hsecret)
        fun key hkey hne => (hlisted key).mpr ⟨hkey, hne⟩
    · exact preserved_of_session_write hforgotten hfree hsecret
        fun key hkey _ => (hlisted key).mpr hkey

/-- One operation keeps the live keys, wherever it fails. -/
theorem step_keeps {s' : KeySystem σ} {action : KeyOperation × List Bool} (h : KeysKept lawful s)
    (hstep : s.step lawful action = some s') : KeysKept lawful s' := by
  obtain ⟨operation, faults⟩ := action
  cases operation with
  | create id rootDraw draw =>
    have hends := wp_run (createSessionKey_spec id rootDraw draw ⟨rfl, h.preserved⟩) faults
    simp only [KeySystem.step] at hstep
    split at hstep
    · next result manager hrun =>
      rw [hrun] at hends
      cases hstep
      refine ⟨hends.2, ?_⟩
      rw [hends.1]
      refine h.cache.update ?_
      rintro created cached ⟨⟩ ⟨⟩
      rfl
    · next e manager hrun =>
      rw [hrun] at hends
      cases hstep
      exact ⟨hends.2, hends.1 ▸ h.cache⟩
  | read id =>
    cases hstep
    refine wp_run_final (P := fun manager => KeysKept lawful { s with manager }) ?_ faults
    refine wp_mono ?_ ?_ (sessionKey_spec id h.preserved h.cache)
    · rintro key manager ⟨hstore, hcache, _⟩
      exact ⟨hstore ▸ h.preserved, hcache⟩
    · rintro e manager rfl
      exact h
  | destroy id =>
    have hkeeps := wp_run_final (P := fun manager =>
      if ((lawful.view manager.store).secret (.session id)).isSome = true then
        KeysKept lawful { s with manager }
      else KeysKept lawful ⟨manager, Function.update s.live id none⟩)
      (destroySessionKey_spec id
        (fun store hremoved => destroy_keeps h id _ rfl (.inl hremoved))
        (fun store hinterrupted => destroy_keeps h id _ rfl (.inr hinterrupted))) faults
    simp only [KeySystem.step] at hstep
    split at hstep
    · next hsome =>
      cases hstep
      rwa [if_pos hsome] at hkeeps
    · next hnone =>
      cases hstep
      rwa [if_neg hnone] at hkeeps
  | rotate rootDraw newRoot =>
    cases hstep
    refine wp_run_final (P := fun manager => KeysKept lawful { s with manager }) ?_ faults
    have hkeeps : ∀ manager, Keeps lawful s.manager.cache s.live manager →
        KeysKept lawful { s with manager } := fun manager hkept => ⟨hkept.2, hkept.1 ▸ h.cache⟩
    exact wp_mono (fun _ => hkeeps) (fun _ => hkeeps)
      (rotateRootKey_spec rootDraw newRoot ⟨rfl, h.preserved⟩)
  | reopen =>
    cases hstep
    exact ⟨h.preserved, fun _ _ _ _ hcached => nomatch hcached⟩

/-- A live key unwraps when no call fails. -/
theorem sessionKey_run (h : KeysKept lawful s) {id : Uuid} {key : SecretKey}
    (hlive : s.live id = some key) : ((sessionKey store id).run [] s.manager).1 = .ok key := by
  obtain ⟨_, root, ⟨current, previous, hkeys, hcandidate⟩, hwrapped⟩ := h.preserved id key hlive
  have hget : ∀ keyId, (on storePart (store.get keyId)).run [] s.manager
      = (.ok ((lawful.view s.manager.store).secret keyId), s.manager) := by
    intro keyId
    rw [run_on, show storePart.get s.manager = s.manager.store from rfl, lawful.get_run]
    rfl
  have hroot : (rootKeys store).run [] s.manager = (.ok (current, previous), s.manager) := by
    rw [Workbench.Storage.rootKeys, run_bind_nil, hget]
    rw [SecretView.rootKeys] at hkeys
    cases hfound : (lawful.view s.manager.store).secret .root with
    | none => rw [hfound] at hkeys; cases hkeys
    | some secret =>
      rw [hfound] at hkeys
      exact congrArg (·, s.manager) hkeys
  rw [sessionKey, run_bind_nil, run_read]
  cases hcached : s.manager.cache id with
  | some cached =>
    show Except.ok cached = _
    rw [h.cache id key cached hlive hcached]
  | none =>
    simp only [run_bind_nil, hget, hwrapped, Secret.asEnvelope, run_lift, validateEnvelope_wrap,
      hroot, decryptWithRootCandidates_wrap id hcandidate, run_update, run_pure]

end

/-- In every run of creations, destructions, reads and rotations, whichever of their writes fail, a
key that was created and not destroyed unwraps to its value: a read without a failure returns it,
and no read returns anything else for it. -/
theorem live_keys_unwrap {contents : Keyring} {s : KeySystem Keyring}
    (hreach : Reaches (KeySystem.step platformKeyStore_lawful) anyAction
      (KeySystem.opened contents) s) {id : Uuid} {key : SecretKey}
    (hlive : s.live id = some key) :
    ((sessionKey platformKeyStore id).run [] s.manager).1 = .ok key ∧
    ∀ faults read, ((sessionKey platformKeyStore id).run faults s.manager).1 = .ok read →
      read = key := by
  have hkept : KeysKept platformKeyStore_lawful s := by
    refine hreach.invariant ?_ fun s action s' h _ hstep => step_keeps h hstep
    exact ⟨fun _ _ hnone => (nomatch hnone), fun _ _ _ hnone => (nomatch hnone)⟩
  refine ⟨sessionKey_run hkept hlive, fun faults read hread => ?_⟩
  have hends := wp_run (sessionKey_spec id hkept.preserved hkept.cache) faults
  cases hrun : (sessionKey platformKeyStore id).run faults s.manager with
  | mk =>
    rw [hrun] at hends hread
    cases hread
    exact hends.2.2 key hlive

/-- A rotation cut off after it has rewrapped a key leaves it readable by the next process. -/
theorem interrupted_rotation_keeps_key :
    ∃ s, Reaches (KeySystem.step platformKeyStore_lawful) anyAction
        (KeySystem.opened ⟨fun _ => none, none⟩) s ∧ s.live 1 = some 7 ∧
      ((sessionKey platformKeyStore 1).run [] s.manager).1 = .ok 7 :=
  exists_reaches_and
    [(.create 1 10 7, []), (.rotate 0 20, List.replicate 11 false ++ List.replicate 4 true),
      (.reopen, [])] ⟨_, rfl, rfl⟩ fun _ hreach hlive => (live_keys_unwrap hreach hlive).1

end Workbench.Storage
