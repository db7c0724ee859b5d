import Data360.AuthSessionRegistry.Steps

/-!
# The credentials of the registry

* `CredentialStep` lists what one call can do to the credential of one
  identifier, and `exec_credential` says that the list is complete.
* `StoreStep` lists the outcomes of `StoreCredential`.
* `absent_credential_exec` and `unexpired_credential_exec` are what the runs
  need: an identifier has no credential until one is stored under it, and keeps
  an unexpired one until it is removed.
-/

namespace Data360

open Lib Lib.ByteString

/-! ## One call -/

/-- The reading with which a call drops expired credentials. -/
def Call.purgeTime : Call → Option UInt64
  | .storeCredential _ _ _ _ nowLocked _ => some nowLocked
  | .resolveCredential _ now => some now
  | _ => none

/-- What one call can do to the credential of one identifier. -/
inductive CredentialStep (call : Call) (outcome : Except RegistryError Reply) (id : Bytes) :
    Option Credential → Option Credential → Prop
  /-- Nothing happens. -/
  | same (entry : Option Credential) (old : outcome ≠ .ok (.credentialId id)) :
      CredentialStep call outcome id entry entry
  /-- The credential has expired and is dropped. -/
  | purged (credential : Credential) (now : UInt64) (reading : call.purgeTime = some now)
      (expired : credential.expiresAtMs ≤ now) (old : outcome ≠ .ok (.credentialId id)) :
      CredentialStep call outcome id (some credential) none
  /-- `RemoveCredential`. -/
  | removed (entry : Option Credential) (call_eq : call = .removeCredential id)
      (old : outcome ≠ .ok (.credentialId id)) : CredentialStep call outcome id entry none
  /-- `StoreCredential` draws this identifier, which was free or has just
  become free. -/
  | stored (entry : Option Credential) (instanceUrl accessToken : Bytes)
      (expiresAtMs now nowLocked : UInt64) (fill : Nat → Entropy) (nonempty : id ≠ [])
      (call_eq : call = .storeCredential instanceUrl accessToken expiresAtMs now nowLocked fill)
      (outcome_eq : outcome = .ok (.credentialId id))
      (free : ∀ credential, entry = some credential → credential.expiresAtMs ≤ nowLocked) :
      CredentialStep call outcome id entry (some ⟨instanceUrl, accessToken, expiresAtMs⟩)

/-- No operation on a session answers a credential. -/
theorem effect_outcome_ne (c : SessionCall) (s : AuthSession) (id : Bytes) :
    (c.effect s).outcome ≠ .ok (.credentialId id) := by
  have mapped {α : Type} (outcome : Except RegistryError α) (f : α → Reply)
      (hf : ∀ a, f a ≠ .credentialId id) : outcome.map f ≠ .ok (.credentialId id) := by
    cases outcome with
    | error e => exact fun h => by cases h
    | ok a => exact fun h => hf a (Except.ok.inj h)
  cases c <;> simp only [SessionCall.effect, SessionEffect.map] <;>
    exact mapped _ _ fun _ h => by cases h

/-- `Create` leaves every credential alone. -/
theorem Registry.create_credentials (registry : Registry) (request : AuthStartRequest)
    (now : UInt64) (fill : Nat → Entropy) :
    (registry.create request now fill).registry.credentials = registry.credentials := by
  have hstep := Registry.create_step registry request now fill
  generalize registry.create request now fill = effect at hstep
  cases hstep <;> rfl

/-- A call on a session that is not there answers nothing. -/
theorem exec_onSession_lost {registry : Registry} {authId : Bytes}
    (h : registry.sessions[authId]? = none) (c : SessionCall) :
    ∃ outcome, exec (.onSession authId c) registry = { registry, outcome } ∧
      (outcome = .ok .done ∨ outcome = authSessionError .authSessionNotFound) := by
  cases c with
  | stopCallback =>
      exact ⟨.ok .done, by simp only [exec, Registry.stopCallback, h]; rfl, .inl rfl⟩
  | _ =>
      exact ⟨authSessionError .authSessionNotFound,
        by simp only [exec, Registry.onSession, h], .inr rfl⟩

/-- A session call leaves every credential alone. -/
theorem onSession_credentials (authId : Bytes) (c : SessionCall) (registry : Registry) :
    (exec (.onSession authId c) registry).registry.credentials = registry.credentials := by
  cases hs : registry.sessions[authId]? with
  | none =>
      obtain ⟨outcome, hexec, -⟩ := exec_onSession_none hs c
      rw [hexec]
  | some s => rw [exec_onSession_some hs]

/-- `StoreCredential` drops what has expired, and may store under a free
identifier. -/
theorem store_credential (registry : Registry) (instanceUrl accessToken : Bytes)
    (expiresAtMs now nowLocked : UInt64) (fill : Nat → Entropy) (id : Bytes) :
    CredentialStep (.storeCredential instanceUrl accessToken expiresAtMs now nowLocked fill)
      ((registry.storeCredential instanceUrl accessToken expiresAtMs now nowLocked fill).map
        Reply.credentialId).outcome id registry.credentials[id]?
      (registry.storeCredential instanceUrl accessToken expiresAtMs now nowLocked
        fill).registry.credentials[id]? := by
  set call : Call := .storeCredential instanceUrl accessToken expiresAtMs now nowLocked fill
  unfold Registry.storeCredential
  split
  · exact .same _ fun h => by cases h
  set purged : Registry := { registry with
    credentials := registry.credentials.filter fun _ credential =>
      !decide (credential.expiresAtMs ≤ nowLocked) } with hpurged
  have hentry : purged.credentials[id]?
      = registry.credentials[id]?.filter fun credential =>
          !decide (credential.expiresAtMs ≤ nowLocked) := by
    rw [hpurged, Std.TreeMap.getElem?_filter']
  have hpurge (outcome : Except RegistryError Reply) (old : outcome ≠ .ok (.credentialId id)) :
      CredentialStep call outcome id registry.credentials[id]? purged.credentials[id]? := by
    rw [hentry]
    cases hfound : registry.credentials[id]? with
    | none => exact .same none old
    | some credential =>
        by_cases hexpired : credential.expiresAtMs ≤ nowLocked
        · rw [Option.filter_some, if_neg (by simp [hexpired])]
          exact .purged credential nowLocked rfl hexpired old
        · rw [Option.filter_some, if_pos (by simpa using hexpired)]
          exact .same _ old
  dsimp only
  split
  · exact hpurge _ fun h => by cases h
  rcases Registry.drawId_cases purged.taken fill 16 0 with
    ⟨n, -, -, -, hdraw⟩ | hdraw | ⟨newId, hne, hfree, hdraw⟩
  · rw [hdraw]
    exact hpurge _ fun h => by cases h
  · rw [hdraw]
    exact hpurge _ fun h => by cases h
  · rw [hdraw]
    have hstored : CredentialStep call (.ok (.credentialId newId)) id registry.credentials[id]?
        (purged.credentials.insert newId ⟨instanceUrl, accessToken, expiresAtMs⟩)[id]? := by
      by_cases hid : newId = id
      · subst hid
        rw [Std.TreeMap.getElem?_insert_self]
        refine .stored _ instanceUrl accessToken expiresAtMs now nowLocked fill hne rfl rfl
          fun credential hcredential => ?_
        have hgone : purged.credentials[newId]? = none := by
          simp only [Registry.taken, Bool.or_eq_false_iff] at hfree
          exact Std.TreeMap.getElem?_eq_none
            (by simp [Std.TreeMap.mem_iff_contains, hfree.2])
        rw [hentry, hcredential, Option.filter_some] at hgone
        by_contra hlive
        rw [if_pos (by simpa using hlive)] at hgone
        cases hgone
      · rw [getElem?_insert_ne _ _ hid]
        refine hpurge _ fun h => hid ?_
        cases h
        rfl
    cases newId with
    | nil => exact absurd rfl hne
    | cons c rest => exact hstored

/-- `CredentialStep` says everything that a call can do to a credential. -/
theorem exec_credential (call : Call) (registry : Registry) (id : Bytes) :
    CredentialStep call (exec call registry).outcome id registry.credentials[id]?
      (exec call registry).registry.credentials[id]? := by
  have mapped {α : Type} {effect : Effect α} {f : α → Reply} (hf : ∀ a, f a ≠ .credentialId id) :
      (effect.map f).outcome ≠ .ok (.credentialId id) := by
    obtain ⟨registry, stops, outcome⟩ := effect
    cases outcome with
    | error e => exact fun h => by cases h
    | ok a => exact fun h => hf a (Except.ok.inj h)
  cases call with
  | create request now fill =>
      simp only [exec, Effect.map, Registry.create_credentials]
      exact .same _ (mapped fun _ h => by cases h)
  | createWithTtl expectedState pkceVerifier ttlMs callbackOwner now nowInside fill =>
      have hcredentials : (registry.createWithTtl expectedState pkceVerifier ttlMs callbackOwner now
          nowInside fill).registry.credentials = registry.credentials := by
        unfold Registry.createWithTtl
        split
        · rfl
        · exact Registry.create_credentials ..
      simp only [exec, Effect.map, hcredentials]
      exact .same _ (mapped fun _ h => by cases h)
  | onSession authId c =>
      rw [onSession_credentials]
      refine .same _ fun h => ?_
      cases hs : registry.sessions[authId]? with
      | none =>
          obtain ⟨outcome, hexec, houtcome⟩ := exec_onSession_lost hs c
          rw [hexec] at h
          rcases houtcome with rfl | rfl <;> cases h
      | some s =>
          rw [exec_onSession_some hs] at h
          exact effect_outcome_ne c s id h
  | storeCredential instanceUrl accessToken expiresAtMs now nowLocked fill =>
      exact store_credential registry instanceUrl accessToken expiresAtMs now nowLocked fill id
  | resolveCredential credentialId now =>
      simp only [exec, Effect.map, Registry.resolveCredential]
      split
      · exact .same _ fun h => by cases h
      · rename_i found hfound
        split
        · rename_i hexpired
          by_cases hid : credentialId = id
          · subst hid
            rw [hfound, Std.TreeMap.getElem?_erase_self]
            exact .purged found now rfl hexpired fun h => by cases h
          · rw [getElem?_erase_ne _ hid]
            exact .same _ fun h => by cases h
        · exact .same _ fun h => by cases h
  | removeCredential credentialId =>
      simp only [exec, Effect.map, Registry.removeCredential]
      by_cases hid : credentialId = id
      · subst hid
        rw [Std.TreeMap.getElem?_erase_self]
        exact .removed _ rfl fun h => by cases h
      · rw [getElem?_erase_ne _ hid]
        exact .same _ fun h => by cases h

/-! ## StoreCredential -/

namespace Registry

/-- The registry without the credentials that have expired. -/
def purge (registry : Registry) (now : UInt64) : Registry :=
  { registry with
    credentials := registry.credentials.filter fun _ credential =>
      !decide (credential.expiresAtMs ≤ now) }

/-- All the identifiers that `StoreCredential` draws are taken. -/
def Collides (registry : Registry) (fill : Nat → Entropy) : Prop :=
  ∀ i < 16, ∃ buffer, fill i = some buffer ∧ registry.taken (generateOpaqueId buffer) = true

/-- Everything that `StoreCredential` can do. -/
inductive StoreStep (registry : Registry) (instanceUrl accessToken : Bytes)
    (expiresAtMs now nowLocked : UInt64) (fill : Nat → Entropy) : Effect Bytes → Prop
  | rejected (refused : instanceUrl = [] ∨ accessToken = [] ∨ expiresAtMs ≤ now) :
      StoreStep registry instanceUrl accessToken expiresAtMs now nowLocked fill
        { registry, outcome := authSessionError .reauthRequired }
  | full (crowded : 16 ≤ (registry.purge nowLocked).credentials.size ∨
        (registry.purge nowLocked).Collides fill) :
      StoreStep registry instanceUrl accessToken expiresAtMs now nowLocked fill
        { registry := registry.purge nowLocked
          outcome := authSessionError .authSessionLimitReached }
  | entropy (i : Nat) (drawn : i < 16) (throws : fill i = none) :
      StoreStep registry instanceUrl accessToken expiresAtMs now nowLocked fill
        { registry := registry.purge nowLocked, outcome := .error .entropy }
  | stored (id : Bytes) (free : (registry.purge nowLocked).taken id = false)
      (room : (registry.purge nowLocked).credentials.size < 16) :
      StoreStep registry instanceUrl accessToken expiresAtMs now nowLocked fill
        { registry := { registry.purge nowLocked with
            credentials := (registry.purge nowLocked).credentials.insert id
              { instanceUrl, accessToken, expiresAtMs } }
          outcome := .ok id }

theorem store_step (registry : Registry) (instanceUrl accessToken : Bytes)
    (expiresAtMs now nowLocked : UInt64) (fill : Nat → Entropy) :
    StoreStep registry instanceUrl accessToken expiresAtMs now nowLocked fill
      (registry.storeCredential instanceUrl accessToken expiresAtMs now nowLocked fill) := by
  unfold storeCredential
  split
  · rename_i hrefused
    exact .rejected hrefused
  change StoreStep registry instanceUrl accessToken expiresAtMs now nowLocked fill
    (if 16 ≤ (registry.purge nowLocked).credentials.size then _ else _)
  split
  · rename_i hfull
    exact .full (.inl hfull)
  rename_i hroom
  rcases hdraw : drawId (registry.purge nowLocked).taken fill 16 0 with error | id
  · obtain ⟨rfl, i, hlt, hfill⟩ := fill_of_drawId hdraw
    simp only [purge] at hdraw
    simp only [hdraw]
    exact .entropy i hlt hfill
  · rcases drawId_cases (registry.purge nowLocked).taken fill 16 0 with
      ⟨i, -, -, -, hcase⟩ | hcase | ⟨newId, hne, hfree, hcase⟩
    · rw [hdraw] at hcase
      cases hcase
    · have hcollides : (registry.purge nowLocked).Collides fill := fun i hlt =>
        taken_of_drawId hcase (Nat.zero_le i) (by omega)
      simp only [purge] at hcase
      simp only [hcase]
      exact .full (.inr hcollides)
    · simp only [purge] at hcase
      simp only [hcase]
      cases newId with
      | nil => exact absurd rfl hne
      | cons c rest => exact .stored _ hfree (Nat.not_le.mp hroom)

end Registry

/-! ## Runs -/

variable {call : Call} {registry : Registry} {id : Bytes} {credential : Credential}

/-- A call that answers a new identifier has stored a credential under it. -/
theorem stores_exec (h : (exec call registry).outcome = .ok (.credentialId id)) :
    ∃ instanceUrl accessToken expiresAtMs now nowLocked fill,
      call = .storeCredential instanceUrl accessToken expiresAtMs now nowLocked fill ∧ id ≠ [] ∧
        (exec call registry).registry.credentials[id]?
          = some ⟨instanceUrl, accessToken, expiresAtMs⟩ ∧
        ∀ old, registry.credentials[id]? = some old → old.expiresAtMs ≤ nowLocked := by
  have hstep := exec_credential call registry id
  generalize registry.credentials[id]? = entry at hstep ⊢
  generalize (exec call registry).registry.credentials[id]? = entry' at hstep ⊢
  cases hstep with
  | same _ old => exact absurd h old
  | purged _ now reading expired old => exact absurd h old
  | removed _ call_eq old => exact absurd h old
  | stored _ instanceUrl accessToken expiresAtMs now nowLocked fill nonempty call_eq _ free =>
      exact ⟨instanceUrl, accessToken, expiresAtMs, now, nowLocked, fill, call_eq, nonempty, rfl,
        free⟩

/-- An identifier gets a credential only by `StoreCredential`. -/
theorem absent_credential_exec (absent : registry.credentials[id]? = none)
    (old : (exec call registry).outcome ≠ .ok (.credentialId id)) :
    (exec call registry).registry.credentials[id]? = none := by
  have hstep := exec_credential call registry id
  rw [absent] at hstep
  generalize (exec call registry).registry.credentials[id]? = entry at hstep
  cases hstep with
  | same _ _ => rfl
  | removed _ _ _ => rfl
  | stored _ _ _ _ _ _ _ _ _ outcome_eq _ => exact absurd outcome_eq old

/-- A call keeps a credential that has not expired, unless it removes it. -/
theorem unexpired_credential_exec (found : registry.credentials[id]? = some credential)
    (kept : call ≠ .removeCredential id)
    (live : ∀ now, call.purgeTime = some now → now < credential.expiresAtMs) :
    (exec call registry).registry.credentials[id]? = some credential := by
  have hstep := exec_credential call registry id
  rw [found] at hstep
  generalize (exec call registry).registry.credentials[id]? = entry at hstep
  cases hstep with
  | same _ _ => rfl
  | purged _ now reading expired _ => exact absurd expired (UInt64.not_le.mpr (live now reading))
  | removed _ call_eq _ => exact absurd call_eq kept
  | stored _ _ _ _ _ nowLocked _ _ call_eq _ free =>
      subst call_eq
      exact absurd (free credential rfl) (UInt64.not_le.mpr (live nowLocked rfl))

end Data360
