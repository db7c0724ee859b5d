import Data360.AuthSessionRegistry.Transitions
import Data360.Lib.Collect
import Data360.Lib.Runs

/-!
# What one registry operation can do

`Call` is an operation with its arguments and with everything it reads from
outside, and `exec` runs it.  A run of the registry is a list of calls, in
the order in which they took the mutex (`registryMachine`).

* `CreateStep` lists the outcomes of `Create`.
* `EntryStep` lists what one call can do to the entry of one identifier,
  whichever session the call is addressed to, and `exec_entry` says that the
  list is complete.
-/

namespace Data360

open Lib Lib.ByteString

/-! ## Calls -/

/-- An operation of the registry. -/
inductive Call where
  | create (request : AuthStartRequest) (now : UInt64) (fill : Nat → Entropy)
  | createWithTtl (expectedState pkceVerifier : Bytes) (ttlMs : UInt64)
      (callbackOwner : Option AuthCallbackOwner) (now nowInside : UInt64)
      (fill : Nat → Entropy)
  | onSession (authId : Bytes) (call : SessionCall)
  | storeCredential (instanceUrl accessToken : Bytes) (expiresAtMs now nowLocked : UInt64)
      (fill : Nat → Entropy)
  | resolveCredential (credentialId : Bytes) (now : UInt64)
  | removeCredential (credentialId : Bytes)

def Effect.map {α β : Type} (f : α → β) (effect : Effect α) : Effect β :=
  { effect with outcome := effect.outcome.map f }

/-- Run one operation. -/
def exec (call : Call) (registry : Registry) : Effect Reply :=
  match call with
  | .create request now fill => (registry.create request now fill).map .authId
  | .createWithTtl expectedState pkceVerifier ttlMs callbackOwner now nowInside fill =>
      (registry.createWithTtl expectedState pkceVerifier ttlMs callbackOwner now nowInside
        fill).map .authId
  | .onSession authId .stopCallback => (registry.stopCallback authId).map fun _ => .done
  | .onSession authId call => registry.onSession authId call.effect
  | .storeCredential instanceUrl accessToken expiresAtMs now nowLocked fill =>
      (registry.storeCredential instanceUrl accessToken expiresAtMs now nowLocked fill).map
        .credentialId
  | .resolveCredential credentialId now =>
      (registry.resolveCredential credentialId now).map .credentials
  | .removeCredential credentialId => (registry.removeCredential credentialId).map fun _ => .done

/-- The registry as a machine: the calls in the order in which they take the
mutex. -/
def registryMachine : Machine Registry Call (Except RegistryError Reply) where
  step call registry := ((exec call registry).outcome, (exec call registry).registry)

/-- One call of a run. -/
abbrev RegistryEvent := Event Registry Call (Except RegistryError Reply)

/-- The request with which a call may create a session. -/
def Call.request : Call → Option AuthStartRequest
  | .create request _ _ => some request
  | .createWithTtl expectedState pkceVerifier ttlMs callbackOwner now _ _ =>
      some (Registry.ttlRequest expectedState pkceVerifier (now + ttlMs) callbackOwner)
  | _ => none

/-- The call creates the session `id` from the request. -/
def Call.Creates (call : Call) (outcome : Except RegistryError Reply) (id : Bytes)
    (request : AuthStartRequest) : Prop :=
  call.request = some request ∧ outcome = .ok (.authId id)

/-- The reading with which a call sweeps overdue sessions. -/
def Call.sweepTime : Call → Option UInt64
  | .create _ now _ => some now
  | .createWithTtl _ _ _ _ _ nowInside _ => some nowInside
  | _ => none

/-! ## Create -/

namespace Registry

/-- The outcomes of the drawing loop. -/
theorem drawId_cases (taken : Bytes → Bool) (fill : Nat → Entropy) (attempts attempt : Nat) :
    (∃ n, attempt ≤ n ∧ n < attempt + attempts ∧ fill n = none ∧
        drawId taken fill attempts attempt = .error .entropy) ∨
      drawId taken fill attempts attempt = .ok [] ∨
      ∃ id, id ≠ [] ∧ taken id = false ∧ drawId taken fill attempts attempt = .ok id := by
  induction attempts generalizing attempt with
  | zero => exact .inr (.inl rfl)
  | succ attempts ih =>
      rw [drawId]
      cases hfill : fill attempt with
      | none => exact .inl ⟨attempt, le_rfl, by omega, hfill, rfl⟩
      | some buffer =>
          by_cases htaken : taken (generateOpaqueId buffer) = true
          · simp only [htaken, if_true]
            rcases ih (attempt + 1) with ⟨n, hle, hlt, hn, heq⟩ | hrest
            · exact .inl ⟨n, by omega, by omega, hn, heq⟩
            · exact .inr hrest
          · simp only [htaken, if_false, Bool.false_eq_true]
            exact .inr (.inr ⟨_, generateOpaqueId_ne_nil buffer, by simpa using htaken, rfl⟩)

/-- The drawing loop gives up after drawing taken identifiers only. -/
theorem taken_of_drawId {taken : Bytes → Bool} {fill : Nat → Entropy} {attempts attempt : Nat}
    (h : drawId taken fill attempts attempt = .ok []) {i : Nat} (hle : attempt ≤ i)
    (hlt : i < attempt + attempts) :
    ∃ buffer, fill i = some buffer ∧ taken (generateOpaqueId buffer) = true := by
  induction attempts generalizing attempt with
  | zero => omega
  | succ attempts ih =>
      rw [drawId] at h
      cases hfill : fill attempt with
      | none => simp [hfill] at h
      | some buffer =>
          simp only [hfill] at h
          split at h
          · rename_i htaken
            by_cases hi : i = attempt
            · exact ⟨buffer, hi ▸ hfill, htaken⟩
            · exact ih h (by omega) (by omega)
          · exact absurd (Except.ok.inj h) (generateOpaqueId_ne_nil buffer)

/-- The drawing loop throws only what `Fill` throws. -/
theorem fill_of_drawId {taken : Bytes → Bool} {fill : Nat → Entropy} {attempts : Nat}
    {error : RegistryError} (h : drawId taken fill attempts 0 = .error error) :
    error = .entropy ∧ ∃ i < attempts, fill i = none := by
  rcases drawId_cases taken fill attempts 0 with ⟨i, -, hlt, hfill, hdraw⟩ | hdraw |
    ⟨id, -, -, hdraw⟩
  · rw [hdraw] at h
    cases h
    exact ⟨rfl, i, by omega, hfill⟩
  · rw [hdraw] at h
    cases h
  · rw [hdraw] at h
    cases h

/-- A free identifier has no session. -/
theorem getElem?_of_free {registry : Registry} {id : Bytes} (free : registry.taken id = false) :
    registry.sessions[id]? = none := by
  simp only [taken, Bool.or_eq_false_iff] at free
  exact Std.TreeMap.getElem?_eq_none (by simp [Std.TreeMap.mem_iff_contains, free.1])

/-- A request that `Create` does not reject at once. -/
def Admits (request : AuthStartRequest) (now : UInt64) : Prop :=
  request.expectedState ≠ [] ∧ request.pkceVerifier ≠ [] ∧
    now < request.expiresAtMonotonicMs

instance (request : AuthStartRequest) (now : UInt64) : Decidable (Admits request now) :=
  inferInstanceAs (Decidable (_ ∧ _ ∧ _))

/-- `Create` gets as far as drawing an identifier, and `Fill` throws. -/
def DrawThrows (registry : Registry) (now : UInt64) (fill : Nat → Entropy) : Prop :=
  (registry.prune now).activeCount < 4 ∧
    drawId (registry.prune now).taken fill 16 0 = .error .entropy

instance (registry : Registry) (now : UInt64) (fill : Nat → Entropy) :
    Decidable (DrawThrows registry now fill) :=
  inferInstanceAs (Decidable (_ ∧ _))

/-- Everything that `Create` can do. -/
inductive CreateStep (registry : Registry) (request : AuthStartRequest) (now : UInt64)
    (fill : Nat → Entropy) : Effect Bytes → Prop
  | rejected (fault : AuthFault) (refused : ¬ Admits request now) :
      CreateStep registry request now fill { registry, outcome := authSessionError fault }
  | full (admitted : Admits request now) (calm : ¬ DrawThrows registry now fill) :
      CreateStep registry request now fill {
        registry := registry.prune now
        stops := registry.sweptOwners now
        outcome := authSessionError .authSessionLimitReached }
  /-- `Fill` throws: the owners of the sweep are not stopped. -/
  | entropy (admitted : Admits request now) (throws : DrawThrows registry now fill) :
      CreateStep registry request now fill {
        registry := registry.prune now
        outcome := .error .entropy }
  | created (id : Bytes) (nonempty : id ≠ []) (free : (registry.prune now).taken id = false)
      (room : (registry.prune now).activeCount < 4) (admitted : Admits request now)
      (calm : ¬ DrawThrows registry now fill) :
      CreateStep registry request now fill {
        registry := { registry.prune now with
          sessions := (registry.prune now).sessions.insert id (AuthSession.ofRequest request) }
        stops := registry.sweptOwners now
        outcome := .ok id }

theorem create_step (registry : Registry) (request : AuthStartRequest) (now : UInt64)
    (fill : Nat → Entropy) :
    CreateStep registry request now fill (registry.create request now fill) := by
  unfold create
  split
  · rename_i hempty
    refine .rejected _ fun hadmits => ?_
    rcases hempty with h | h | h
    · exact hadmits.1 h
    · exact hadmits.2.1 h
    · have hlt := hadmits.2.2
      rw [h] at hlt
      exact absurd hlt UInt64.not_lt_zero
  rename_i hargs
  obtain ⟨hstate, hrest⟩ := not_or.mp hargs
  obtain ⟨hverifier, -⟩ := not_or.mp hrest
  split
  · rename_i hle
    exact .rejected _ fun hadmits => UInt64.not_le.mpr hadmits.2.2 hle
  rename_i hlt
  have hadmits : Admits request now := ⟨hstate, hverifier, UInt64.not_le.mp hlt⟩
  simp only
  split
  · rename_i hfull
    exact .full hadmits fun h => absurd h.1 (by omega)
  rename_i hroom
  rcases drawId_cases (registry.prune now).taken fill 16 0 with
    ⟨n, -, -, hn, heq⟩ | heq | ⟨id, hne, hfree, heq⟩
  · rw [heq]
    exact .entropy hadmits ⟨by omega, heq⟩
  · have calm : ¬ DrawThrows registry now fill := by
      rintro ⟨-, hthrows⟩
      rw [heq] at hthrows
      cases hthrows
    rw [heq]
    exact .full hadmits calm
  · have calm : ¬ DrawThrows registry now fill := by
      rintro ⟨-, hthrows⟩
      rw [heq] at hthrows
      cases hthrows
    rw [heq]
    cases id with
    | nil => exact absurd rfl hne
    | cons c rest => exact .created _ hne hfree (by omega) hadmits calm

/-- Eviction leaves an entry alone or removes a terminal one. -/
theorem evict_getElem? (fuel : Nat) (sessions : StringMap AuthSession) (id : Bytes) :
    (evict fuel sessions)[id]? = sessions[id]? ∨
      (evict fuel sessions)[id]? = none ∧
        ∃ s, sessions[id]? = some s ∧ terminal s.status = true := by
  induction fuel generalizing sessions with
  | zero => exact .inl rfl
  | succ fuel ih =>
      rw [evict]
      split
      · split
        · exact .inl rfl
        · rename_i old hold
          have hterm := List.find?_some hold
          have hget := (Std.TreeMap.mem_toList_iff_getElem?_eq_some).mp
            (List.mem_of_find?_eq_some hold)
          by_cases hid : old.1 = id
          · subst hid
            have hgone : (sessions.erase old.1)[old.1]? = none := by simp
            have hnone : (evict fuel (sessions.erase old.1))[old.1]? = none := by
              rcases ih (sessions.erase old.1) with h | ⟨h, -⟩
              · rw [h, hgone]
              · exact h
            exact .inr ⟨hnone, old.2, hget, hterm⟩
          · rw [← getElem?_erase_ne sessions hid]
            exact ih (sessions.erase old.1)
      · exact .inl rfl

/-- The sweep and the eviction: an entry is swept, or it is gone and was
terminal after the sweep. -/
theorem prune_getElem? (registry : Registry) (now : UInt64) (id : Bytes) :
    (registry.prune now).sessions[id]?
        = registry.sessions[id]?.map (fun s => (expireLocked s now none true).1) ∨
      (registry.prune now).sessions[id]? = none ∧
        ∃ s, registry.sessions[id]? = some s ∧
          terminal (expireLocked s now none true).1.status = true := by
  have hswept : (registry.sweep now).sessions[id]?
      = registry.sessions[id]?.map (fun s => (expireLocked s now none true).1) := by
    rw [sweep, Std.TreeMap.getElem?_map]
  have hevict := evict_getElem? (registry.sweep now).sessions.size
    (registry.sweep now).sessions id
  rw [prune]
  rcases hevict with h | ⟨h, s', hs', hterm⟩
  · exact .inl (by rw [h, hswept])
  · rw [hswept, Option.map_eq_some_iff] at hs'
    obtain ⟨s, hs, rfl⟩ := hs'
    exact .inr ⟨h, s, hs, hterm⟩

/-- Storing a credential leaves every session alone. -/
theorem storeCredential_sessions (registry : Registry) (instanceUrl accessToken : Bytes)
    (expiresAtMs now nowLocked : UInt64) (fill : Nat → Entropy) :
    (registry.storeCredential instanceUrl accessToken expiresAtMs now nowLocked
        fill).registry.sessions = registry.sessions ∧
      (registry.storeCredential instanceUrl accessToken expiresAtMs now nowLocked
        fill).stops = [] := by
  unfold storeCredential
  split
  · exact ⟨rfl, rfl⟩
  · dsimp only
    split
    · exact ⟨rfl, rfl⟩
    · split <;> exact ⟨rfl, rfl⟩

/-- Resolving a credential leaves every session alone. -/
theorem resolveCredential_sessions (registry : Registry) (credentialId : Bytes)
    (now : UInt64) :
    (registry.resolveCredential credentialId now).registry.sessions = registry.sessions ∧
      (registry.resolveCredential credentialId now).stops = [] := by
  unfold resolveCredential
  split
  · exact ⟨rfl, rfl⟩
  · split <;> exact ⟨rfl, rfl⟩

end Registry

/-! ## One entry of the registry -/

/-- A call on a session that is not there changes nothing. -/
theorem exec_onSession_none {registry : Registry} {authId : Bytes}
    (h : registry.sessions[authId]? = none) (call : SessionCall) :
    ∃ outcome, exec (.onSession authId call) registry = { registry, outcome } ∧
      call.advances outcome = false := by
  cases call with
  | stopCallback => exact ⟨_, by simp only [exec, Registry.stopCallback, h]; rfl, rfl⟩
  | _ => exact ⟨_, by simp only [exec, Registry.onSession, h]; rfl, rfl⟩

/-- A call on a session that is there has its effect on it. -/
theorem exec_onSession_some {registry : Registry} {authId : Bytes} {s : AuthSession}
    (h : registry.sessions[authId]? = some s) (call : SessionCall) :
    exec (.onSession authId call) registry
      = { registry := { registry with
            sessions := registry.sessions.insert authId (call.effect s).session }
          stops := (call.effect s).stops
          outcome := (call.effect s).outcome } := by
  cases call with
  | stopCallback =>
      simp only [exec, Registry.stopCallback, Registry.onSession, h]
      rfl
  | _ => simp only [exec, Registry.onSession, h]

/-- What one call can do to the entry of one identifier. -/
inductive EntryStep (call : Call) (outcome : Except RegistryError Reply) (id : Bytes) :
    Option AuthSession → Option AuthSession → Prop
  /-- The entry stays as it was. -/
  | same (entry : Option AuthSession)
      (quiet : ∀ c, call = .onSession id c → c.advances outcome = false)
      (old : ∀ request, ¬ call.Creates outcome id request) : EntryStep call outcome id entry entry
  /-- The call is addressed to the session. -/
  | moved (c : SessionCall) (s s' : AuthSession) (addressed : call = .onSession id c)
      (move : SessionMove c s s' outcome) : EntryStep call outcome id (some s) (some s')
  /-- A `Create` finds the session overdue. -/
  | expired (now : UInt64) (s : AuthSession) (sweep : call.sweepTime = some now)
      (overdue : s.Overdue now) (old : ∀ request, ¬ call.Creates outcome id request) :
      EntryStep call outcome id (some s)
        (some (s.ended .expired (some .sessionExpired) none))
  /-- A `Create` evicts the session: it was terminal, or has just expired. -/
  | evicted (now : UInt64) (s : AuthSession) (sweep : call.sweepTime = some now)
      (isOver : terminal s.status = true ∨ s.Overdue now)
      (old : ∀ request, ¬ call.Creates outcome id request) :
      EntryStep call outcome id (some s) none
  /-- A `Create` makes a session of this identifier, which was free or has
  just become free by eviction. -/
  | created (now : UInt64) (request : AuthStartRequest) (entry : Option AuthSession)
      (sweep : call.sweepTime = some now) (creates : call.Creates outcome id request)
      (free : ∀ s, entry = some s → terminal s.status = true ∨ s.Overdue now) :
      EntryStep call outcome id entry (some (AuthSession.ofRequest request))

theorem Call.not_onSession_of_sweepTime {call : Call} {now : UInt64}
    (h : call.sweepTime = some now) (id : Bytes) (c : SessionCall) :
    call ≠ .onSession id c := by
  rintro rfl
  simp [Call.sweepTime] at h

/-- A session is terminal after the sweep when it was terminal before or was
overdue. -/
theorem terminal_swept {s : AuthSession} {now : UInt64}
    (h : terminal (expireLocked s now none true).1.status = true) :
    terminal s.status = true ∨ s.Overdue now := by
  rw [expireLocked_eq] at h
  by_cases hover : s.Overdue now
  · exact .inr hover
  · rw [if_neg hover] at h
    exact .inl h

/-- The sweep and the eviction, as a step of one entry. -/
private theorem prune_entry {call : Call} {outcome : Except RegistryError Reply} {id : Bytes}
    {now : UInt64} (registry : Registry) (hsweep : call.sweepTime = some now)
    (old : ∀ request, ¬ call.Creates outcome id request) :
    EntryStep call outcome id registry.sessions[id]? (registry.prune now).sessions[id]? := by
  have quiet : ∀ c, call = .onSession id c → c.advances outcome = false :=
    fun c hc => absurd hc (Call.not_onSession_of_sweepTime hsweep id c)
  rcases Registry.prune_getElem? registry now id with h | ⟨h, s, hs, hterm⟩
  · rw [h]
    cases hs : registry.sessions[id]? with
    | none => exact .same none quiet old
    | some s =>
        rw [Option.map_some, expireLocked_eq]
        by_cases hover : s.Overdue now
        · simp only [hover, if_true]
          exact .expired now s hsweep hover old
        · simp only [hover, if_false]
          exact .same _ quiet old
  · rw [h, hs]
    exact .evicted now s hsweep (terminal_swept hterm) old

private theorem create_entry {call : Call} {now : UInt64} {request : AuthStartRequest}
    (registry : Registry) (fill : Nat → Entropy) (hsweep : call.sweepTime = some now)
    (hrequest : call.request = some request) (id : Bytes) :
    EntryStep call (((registry.create request now fill).map Reply.authId).outcome) id
      registry.sessions[id]? (registry.create request now fill).registry.sessions[id]? := by
  have hstep := Registry.create_step registry request now fill
  generalize registry.create request now fill = effect at hstep
  cases hstep with
  | rejected fault refused =>
      exact .same _ (fun c hc => absurd hc (Call.not_onSession_of_sweepTime hsweep id c))
        (fun _ h => by cases h.2)
  | full admitted calm => exact prune_entry registry hsweep fun _ h => by cases h.2
  | entropy admitted throws => exact prune_entry registry hsweep fun _ h => by cases h.2
  | created newId nonempty free room admitted calm =>
      by_cases hid : newId = id
      · subst hid
        simp only [Std.TreeMap.getElem?_insert_self]
        refine .created now request _ hsweep ⟨hrequest, rfl⟩ fun s hs => ?_
        have hfree := Registry.getElem?_of_free free
        rcases Registry.prune_getElem? registry now newId with h | ⟨-, t, ht, hterm⟩
        · rw [h, hs] at hfree
          simp at hfree
        · rw [ht] at hs
          obtain rfl := Option.some.inj hs
          exact terminal_swept hterm
      · rw [getElem?_insert_ne _ _ hid]
        refine prune_entry registry hsweep fun _ h => hid ?_
        simpa [Effect.map, Except.map] using h.2

/-- `EntryStep` says everything that a call can do to an entry. -/
theorem exec_entry (call : Call) (registry : Registry) (id : Bytes) :
    EntryStep call (exec call registry).outcome id registry.sessions[id]?
      (exec call registry).registry.sessions[id]? := by
  cases call with
  | create request now fill => exact create_entry registry fill rfl rfl id
  | createWithTtl expectedState pkceVerifier ttlMs callbackOwner now nowInside fill =>
      simp only [exec, Registry.createWithTtl]
      split
      · exact .same _ (fun c hc => by cases hc) (fun _ h => by cases h.2)
      · exact create_entry registry fill rfl rfl id
  | onSession authId call =>
      have old (outcome) (request) : ¬ (Call.onSession authId call).Creates outcome id request :=
        fun h => by cases h.1
      cases hs : registry.sessions[authId]? with
      | none =>
          obtain ⟨outcome, hexec, hquiet⟩ := exec_onSession_none hs call
          rw [hexec]
          exact .same _ (fun c hc => by cases hc; exact hquiet) (old _)
      | some s =>
          rw [exec_onSession_some hs]
          by_cases hid : authId = id
          · subst hid
            rw [hs, Std.TreeMap.getElem?_insert_self]
            exact .moved call s _ rfl (effect_move call s)
          · rw [getElem?_insert_ne _ _ hid]
            exact .same _ (fun c hc => by cases hc; exact absurd rfl hid) (old _)
  | storeCredential instanceUrl accessToken expiresAtMs now nowLocked fill =>
      simp only [exec, Effect.map, (Registry.storeCredential_sessions ..).1]
      exact .same _ (fun c hc => by cases hc) (fun _ h => by cases h.1)
  | resolveCredential credentialId now =>
      simp only [exec, Effect.map, (Registry.resolveCredential_sessions ..).1]
      exact .same _ (fun c hc => by cases hc) (fun _ h => by cases h.1)
  | removeCredential credentialId =>
      exact .same _ (fun c hc => by cases hc) (fun _ h => by cases h.1)

end Data360
