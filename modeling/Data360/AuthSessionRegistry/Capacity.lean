import Data360.AuthSessionRegistry.Credentials
import Data360.Lib.Collect

/-!
# How large the registry gets

The registry holds at most 4 active sessions, 32 sessions and 16 credentials,
and no identifier names two things, whatever the random source does.

* `Registry.Bounded` is the invariant.  The bound on the sessions rests on the
  one on the active sessions: an eviction stops at 31 sessions or when all
  sessions are active, and more than 4 never are (`evict_size`).
* `bounded_onSession`, `bounded_create`, `bounded_store` and `bounded_exec` are
  the step lemmas.
* `registry_capacity` is the invariant of every run, with the cases in which
  `Create` refuses and what a `Create` that throws leaves behind.
-/

namespace Data360

open Lib Lib.ByteString

/-- A session that is still active, as the registry counts it. -/
def AuthSession.active (s : AuthSession) : Bool := isActive s.status

namespace Registry

/-! ## The invariant -/

theorem activeCount_eq (registry : Registry) :
    registry.activeCount = countValues AuthSession.active registry.sessions := rfl

/-- The bounds, and that a session and a credential never share their
identifier. -/
structure Bounded (registry : Registry) : Prop where
  active : registry.activeCount ≤ 4
  sessions : registry.sessions.size ≤ 32
  credentials : registry.credentials.size ≤ 16
  disjoint : ∀ id : Bytes, registry.sessions[id]? = none ∨ registry.credentials[id]? = none

/-- The identifiers of a bounded registry are distinct. -/
theorem Bounded.nodup {registry : Registry} (h : registry.Bounded) :
    (registry.sessions.keys ++ registry.credentials.keys).Nodup := by
  refine List.nodup_append.mpr ⟨Std.TreeMap.nodup_keys, Std.TreeMap.nodup_keys, ?_⟩
  intro id hsession id' hcredential heq
  subst heq
  rw [Std.TreeMap.mem_keys, Std.TreeMap.mem_iff_isSome_getElem?] at hsession hcredential
  rcases h.disjoint id with hnone | hnone
  · rw [hnone] at hsession
    cases hsession
  · rw [hnone] at hcredential
    cases hcredential

/-- A free identifier names nothing. -/
theorem free_names {registry : Registry} {id : Bytes} (free : registry.taken id = false) :
    registry.sessions[id]? = none ∧ registry.credentials[id]? = none := by
  refine ⟨getElem?_of_free free, ?_⟩
  simp only [taken, Bool.or_eq_false_iff] at free
  exact Std.TreeMap.getElem?_eq_none (by simp [Std.TreeMap.mem_iff_contains, free.2])

/-! ## One session -/

variable {registry : Registry}

/-- No operation makes a session active. -/
theorem active_of_move {call : SessionCall} {s s' : AuthSession}
    {outcome : Except RegistryError Reply} (move : SessionMove call s s' outcome)
    (h : s'.active = true) : s.active = true := by
  cases move with
  | stay owner _ quiet => exact h
  | ended status fault owner _ active closed _ _ _ _ =>
      simp [AuthSession.active, isActive, closed] at h
  | received _ _ _ pending _ _ => simp [AuthSession.active, isActive, terminal, pending]
  | begun _ _ ready _ => simp [AuthSession.active, isActive, terminal, ready]

/-- An operation on one session keeps the bounds. -/
theorem bounded_onSession (h : registry.Bounded) (authId : Bytes) (call : SessionCall) :
    (exec (.onSession authId call) registry).registry.Bounded := by
  cases hfound : registry.sessions[authId]? with
  | none =>
      obtain ⟨outcome, hexec, -⟩ := exec_onSession_none hfound call
      rw [hexec]
      exact h
  | some s =>
      rw [exec_onSession_some hfound]
      refine ⟨?_, ?_, h.credentials, fun id => ?_⟩
      · have hactive := h.active
        rw [activeCount_eq, countValues_of_getElem? _ hfound] at hactive
        rw [activeCount_eq, countValues_insert]
        have hmove := active_of_move (effect_move call s)
        split <;> rename_i hs'
        · rw [if_pos (hmove hs')] at hactive
          omega
        · omega
      · show (registry.sessions.insert _ _).size ≤ 32
        rw [size_insert_of_some hfound]
        exact h.sessions
      · by_cases hid : authId = id
        · subst hid
          exact .inr ((h.disjoint authId).resolve_left (by simp [hfound]))
        · refine (h.disjoint id).imp_left fun hnone => ?_
          show (registry.sessions.insert _ _)[id]? = none
          rw [getElem?_insert_ne _ _ hid]
          exact hnone

/-! ## Eviction -/

/-- The sweep makes no session active. -/
theorem sweep_active (registry : Registry) (now : UInt64) :
    (registry.sweep now).activeCount ≤ registry.activeCount := by
  have hexpires (s : AuthSession) (hactive : (expireLocked s now none true).1.active = true) :
      s.active = true := by
    rw [expireLocked_eq] at hactive
    split at hactive
    · simp [AuthSession.active, isActive, terminal] at hactive
    · exact hactive
  exact countValues_map_le registry.sessions _ fun _ => hexpires

/-- The eviction keeps the active sessions. -/
theorem evict_active (fuel : Nat) (sessions : StringMap AuthSession) :
    countValues AuthSession.active (evict fuel sessions)
      = countValues AuthSession.active sessions := by
  induction fuel generalizing sessions with
  | zero => rfl
  | succ fuel ih =>
      rw [evict]
      split
      · split
        · rfl
        · rename_i old hold
          have hterm := List.find?_some hold
          have hget := Std.TreeMap.mem_toList_iff_getElem?_eq_some.mp
            (List.mem_of_find?_eq_some hold)
          rw [ih, countValues_of_getElem? _ hget,
            if_neg (by simp [AuthSession.active, isActive, hterm])]
          rfl
      · rfl

/-- The eviction makes room for one more session, unless all are active. -/
theorem evict_size {fuel : Nat} {sessions : StringMap AuthSession} (h : sessions.size ≤ fuel) :
    (evict fuel sessions).size < 32 ∨
      countValues AuthSession.active (evict fuel sessions) = (evict fuel sessions).size := by
  induction fuel generalizing sessions with
  | zero =>
      rw [evict]
      omega
  | succ fuel ih =>
      rw [evict]
      split
      · split
        · rename_i hnone
          refine .inr (countValues_eq_size fun entry hentry => ?_)
          have hactive := List.find?_eq_none.mp hnone entry hentry
          simpa [AuthSession.active, isActive] using hactive
        · rename_i old hold
          apply ih
          have hget := Std.TreeMap.mem_toList_iff_getElem?_eq_some.mp
            (List.mem_of_find?_eq_some hold)
          rw [size_erase_of_some hget]
          omega
      · omega

theorem prune_active (registry : Registry) (now : UInt64) :
    (registry.prune now).activeCount = (registry.sweep now).activeCount :=
  evict_active _ _

/-- After the eviction there is room, or nothing but active sessions. -/
theorem prune_size (registry : Registry) (now : UInt64) :
    (registry.prune now).sessions.size < 32 ∨
      (registry.prune now).activeCount = (registry.prune now).sessions.size :=
  evict_size (Nat.le_refl _)

/-- What the sweep and the eviction leave of a bounded registry has room for
one more session. -/
theorem bounded_prune (h : registry.Bounded) (now : UInt64) :
    (registry.prune now).Bounded ∧ (registry.prune now).sessions.size < 32 := by
  have hactive : (registry.prune now).activeCount ≤ 4 := by
    rw [prune_active]
    exact Nat.le_trans (sweep_active registry now) h.active
  have hsize : (registry.prune now).sessions.size < 32 := by
    have := prune_size registry now
    omega
  refine ⟨⟨hactive, Nat.le_of_lt hsize, h.credentials, fun id => ?_⟩, hsize⟩
  rcases h.disjoint id with hnone | hnone
  · refine .inl ?_
    rcases prune_getElem? registry now id with hswept | ⟨hgone, -⟩
    · rw [hswept, hnone]
      rfl
    · exact hgone
  · exact .inr hnone

/-! ## The operations -/

/-- `Create` keeps the bounds. -/
theorem bounded_create (h : registry.Bounded) (request : AuthStartRequest) (now : UInt64)
    (fill : Nat → Entropy) : (registry.create request now fill).registry.Bounded := by
  have hstep := create_step registry request now fill
  obtain ⟨hprune, hroom⟩ := bounded_prune h now
  generalize registry.create request now fill = effect at hstep
  cases hstep with
  | rejected fault refused => exact h
  | full admitted calm => exact hprune
  | entropy admitted throws => exact hprune
  | created newId nonempty free room admitted calm =>
      obtain ⟨hsession, hcredential⟩ := free_names free
      refine ⟨?_, ?_, hprune.credentials, fun id => ?_⟩
      · rw [activeCount_eq] at room
        rw [activeCount_eq, countValues_insert, countValues_erase_of_none _ hsession]
        split <;> omega
      · show ((registry.prune now).sessions.insert _ _).size ≤ 32
        rw [size_insert_of_none hsession]
        omega
      · by_cases hid : newId = id
        · exact .inr (hid ▸ hcredential)
        · refine (hprune.disjoint id).imp_left fun hnone => ?_
          show ((registry.prune now).sessions.insert _ _)[id]? = none
          rw [getElem?_insert_ne _ _ hid]
          exact hnone

/-- Dropping credentials keeps the bounds. -/
theorem Bounded.drop (h : registry.Bounded) {credentials : StringMap Credential}
    (hsize : credentials.size ≤ registry.credentials.size)
    (hsub : ∀ id : Bytes, registry.credentials[id]? = none → credentials[id]? = none) :
    ({ registry with credentials } : Registry).Bounded :=
  ⟨h.active, h.sessions, Nat.le_trans hsize h.credentials,
    fun id => (h.disjoint id).imp_right (hsub id)⟩

theorem bounded_purge (h : registry.Bounded) (now : UInt64) : (registry.purge now).Bounded := by
  refine h.drop Std.TreeMap.size_filter_le_size fun id hnone => ?_
  rw [Std.TreeMap.getElem?_filter', hnone]
  rfl

theorem bounded_erase (h : registry.Bounded) (id : Bytes) :
    ({ registry with credentials := registry.credentials.erase id } : Registry).Bounded := by
  refine h.drop Std.TreeMap.size_erase_le fun other hnone => ?_
  rw [Std.TreeMap.getElem?_erase]
  split
  · rfl
  · exact hnone

/-- `StoreCredential` keeps the bounds. -/
theorem bounded_store (h : registry.Bounded) (instanceUrl accessToken : Bytes)
    (expiresAtMs now nowLocked : UInt64) (fill : Nat → Entropy) :
    (registry.storeCredential instanceUrl accessToken expiresAtMs now nowLocked
      fill).registry.Bounded := by
  have hstep := store_step registry instanceUrl accessToken expiresAtMs now nowLocked fill
  have hpurge := bounded_purge h nowLocked
  generalize registry.storeCredential instanceUrl accessToken expiresAtMs now nowLocked fill
    = effect at hstep
  cases hstep with
  | rejected refused => exact h
  | full crowded => exact hpurge
  | entropy i drawn throws => exact hpurge
  | stored newId free room =>
      obtain ⟨hsession, hcredential⟩ := free_names free
      refine ⟨hpurge.active, hpurge.sessions, ?_, fun id => ?_⟩
      · show ((registry.purge nowLocked).credentials.insert _ _).size ≤ 16
        rw [size_insert_of_none hcredential]
        omega
      · by_cases hid : newId = id
        · exact .inl (hid ▸ hsession)
        · refine (hpurge.disjoint id).imp_right fun hnone => ?_
          show ((registry.purge nowLocked).credentials.insert _ _)[id]? = none
          rw [getElem?_insert_ne _ _ hid]
          exact hnone

/-- Every call keeps the bounds. -/
theorem bounded_exec (call : Call) (registry : Registry) (h : registry.Bounded) :
    (exec call registry).registry.Bounded := by
  cases call with
  | create request now fill => exact bounded_create h request now fill
  | createWithTtl expectedState pkceVerifier ttlMs callbackOwner now nowInside fill =>
      simp only [exec, Effect.map, createWithTtl]
      split
      · exact h
      · exact bounded_create h _ nowInside fill
  | onSession authId call => exact bounded_onSession h authId call
  | storeCredential instanceUrl accessToken expiresAtMs now nowLocked fill =>
      exact bounded_store h instanceUrl accessToken expiresAtMs now nowLocked fill
  | resolveCredential credentialId now =>
      simp only [exec, Effect.map, resolveCredential]
      split
      · exact h
      · split
        · exact bounded_erase h credentialId
        · exact h
  | removeCredential credentialId => exact bounded_erase h credentialId

theorem bounded_run (calls : List Call) : (registryMachine.run {} calls).Bounded :=
  registryMachine.run_keeps (fun registry call h => bounded_exec call registry h)
    ⟨by decide, by decide, by decide, fun _ => .inl Std.TreeMap.getElem?_emptyc⟩ calls

/-! ## A Create that throws -/

/-- `Create` refuses a good request for want of room only when four sessions
are active after the sweep, or when all the identifiers it drew were taken. -/
def RefusesWhenFull (registry : Registry) : Prop :=
  ∀ request now fill, Admits request now →
    (registry.create request now fill).outcome = authSessionError .authSessionLimitReached →
      (registry.sweep now).activeCount = 4 ∨ (registry.prune now).Collides fill

/-- A `Create` that throws adds no session, and leaves those alone that were
active and not overdue. -/
def ThrowsHarmlessly (registry : Registry) : Prop :=
  ∀ call now error, call.sweepTime = some now → (exec call registry).outcome = .error error →
    (∀ id : Bytes, registry.sessions[id]? = none →
      (exec call registry).registry.sessions[id]? = none) ∧
    ∀ (id : Bytes) (s : AuthSession), registry.sessions[id]? = some s →
      isActive s.status = true → ¬ s.Overdue now →
        (exec call registry).registry.sessions[id]? = some s

theorem refusesWhenFull (h : registry.Bounded) : registry.RefusesWhenFull := by
  intro request now fill hadmits houtcome
  obtain ⟨hstate, hverifier, htime⟩ := hadmits
  have hexpiry : request.expiresAtMonotonicMs ≠ 0 := fun hzero =>
    UInt64.not_lt_zero (hzero ▸ htime)
  rw [create, if_neg (by simp [hstate, hverifier, hexpiry]), if_neg (UInt64.not_le.mpr htime)]
    at houtcome
  dsimp only at houtcome
  split at houtcome
  · rename_i hfull
    have hactive := (bounded_prune h now).1.active
    rw [prune_active] at hfull hactive
    exact .inl (Nat.le_antisymm hactive hfull)
  · rcases hdraw : drawId (registry.prune now).taken fill 16 0 with error | id
    · simp only [hdraw] at houtcome
      obtain ⟨rfl, -⟩ := fill_of_drawId hdraw
      cases houtcome
    · rcases id with _ | ⟨c, rest⟩
      · exact .inr fun i hlt => taken_of_drawId hdraw (Nat.zero_le i) (by omega)
      · simp only [hdraw] at houtcome
        cases houtcome

theorem throwsHarmlessly (registry : Registry) : registry.ThrowsHarmlessly := by
  intro call now error hsweep hthrows
  have hnew {id : Bytes} {request : AuthStartRequest}
      (creates : call.Creates (exec call registry).outcome id request) : False := by
    have houtcome := creates.2
    rw [hthrows] at houtcome
    cases houtcome
  refine ⟨fun id hnone => ?_, fun id s hfound hactive hoverdue => ?_⟩
  · have hentry := exec_entry call registry id
    rw [hnone] at hentry
    generalize (exec call registry).registry.sessions[id]? = entry at hentry ⊢
    cases hentry with
    | same _ _ _ => rfl
    | created _ _ _ _ creates _ => exact (hnew creates).elim
  · have hgone {now' : UInt64} (sweep : call.sweepTime = some now')
        (isOver : terminal s.status = true ∨ s.Overdue now') : False := by
      rw [hsweep] at sweep
      cases sweep
      refine isOver.elim (fun hterm => ?_) hoverdue
      simp [isActive, hterm] at hactive
    have hentry := exec_entry call registry id
    rw [hfound] at hentry
    generalize (exec call registry).registry.sessions[id]? = entry at hentry ⊢
    cases hentry with
    | same _ _ _ => rfl
    | moved c _ _ addressed _ =>
        exact absurd addressed (Call.not_onSession_of_sweepTime hsweep id c)
    | expired now' _ sweep overdue _ => exact (hgone sweep (.inr overdue)).elim
    | evicted now' _ sweep isOver _ => exact (hgone sweep isOver).elim
    | created now' _ _ _ creates _ => exact (hnew creates).elim

end Registry

open Registry in
/-- In every state of every run, whatever the clock and the random source do,
the registry keeps its bounds and its identifiers are distinct; `Create`
refuses a good request only for want of room or of a free identifier, and
leaves the active sessions alone when it throws. -/
theorem registry_capacity (calls : List Call) :
    let registry := registryMachine.run {} calls
    (registry.activeCount ≤ 4 ∧ registry.sessions.size ≤ 32 ∧ registry.credentials.size ≤ 16 ∧
      (registry.sessions.keys ++ registry.credentials.keys).Nodup) ∧
      registry.RefusesWhenFull ∧ registry.ThrowsHarmlessly :=
  have hbounded := bounded_run calls
  ⟨⟨hbounded.active, hbounded.sessions, hbounded.credentials, hbounded.nodup⟩,
    refusesWhenFull hbounded, throwsHarmlessly _⟩

end Data360
