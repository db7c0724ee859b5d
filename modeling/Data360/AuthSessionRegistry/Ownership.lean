import Data360.AuthSessionRegistry.Steps
import Data360.Lib.Collect

/-!
# Where the callback owners go

Every callback owner that a successful `Create` was given is in one place at
a time: in its session, in the hands of an operation that is about to stop
it, stopped, or dropped.

* `held` and `Call.dropped` name the two places that no list of the run
  records, and `exec_owners` is the balance of one call.
* `OwnerWorld` is the registry with the operations that still have to call
  `StopAndJoin`: a call leaves its owners in `joining`, and a `join` moves one
  of them to `stopped`, at any later time.
* `balance_run` is the balance of a run, and it has no condition.
* `Call.Leaks` is what makes a `Create` drop owners, and
  `owners_conserved_iff` says that owners are conserved in a run exactly when
  no call of it leaks.
-/

namespace Data360

open Lib Lib.ByteString
open scoped List

namespace Registry

/-! ## The owners in the registry -/

/-- The owners that the sessions hold. -/
def held (registry : Registry) : List AuthCallbackOwner :=
  collect (fun s => s.callbackOwner.toList) registry.sessions

/-- The owners in the sessions that the eviction of `Create` destroys. -/
def evictedOwners : Nat → StringMap AuthSession → List AuthCallbackOwner
  | 0, _ => []
  | fuel + 1, sessions =>
      if 32 ≤ sessions.size then
        match sessions.toList.find? fun entry => terminal entry.2.status with
        | none => []
        | some old =>
            old.2.callbackOwner.toList ++ evictedOwners fuel (sessions.erase old.1)
      else []

/-- The owners that `Create` drops: those of the sessions that it evicts, and
those of its sweep when `Fill` throws. -/
def createDropped (registry : Registry) (request : AuthStartRequest) (now : UInt64)
    (fill : Nat → Entropy) : List AuthCallbackOwner :=
  if Admits request now then
    evictedOwners (registry.sweep now).sessions.size (registry.sweep now).sessions
      ++ (if DrawThrows registry now fill then registry.sweptOwners now else [])
  else []

private theorem evict_owners (fuel : Nat) (sessions : StringMap AuthSession) :
    collect (fun s => s.callbackOwner.toList) (evict fuel sessions)
        ++ evictedOwners fuel sessions
      ~ collect (fun s => s.callbackOwner.toList) sessions := by
  induction fuel generalizing sessions with
  | zero => simp [evict, evictedOwners]
  | succ fuel ih =>
      rw [evict, evictedOwners]
      by_cases hsize : 32 ≤ sessions.size
      · simp only [hsize, if_true]
        cases hold : sessions.toList.find? fun entry => terminal entry.2.status with
        | none => simp
        | some old =>
            have hget := Std.TreeMap.mem_toList_iff_getElem?_eq_some.mp
              (List.mem_of_find?_eq_some hold)
            have hrest := ih (sessions.erase old.1)
            have hall := collect_of_getElem? (fun s : AuthSession => s.callbackOwner.toList) hget
            rw [List.perm_iff_count] at hrest hall ⊢
            intro owner
            have hrest := hrest owner
            have hall := hall owner
            simp only [List.count_append] at hrest hall ⊢
            omega
      · simp [hsize]

/-- The sweep takes owners out of the sessions, and the eviction destroys
some. -/
theorem prune_owners (registry : Registry) (now : UInt64) :
    (registry.prune now).held ++ registry.sweptOwners now
        ++ evictedOwners (registry.sweep now).sessions.size (registry.sweep now).sessions
      ~ registry.held := by
  have hevict := evict_owners (registry.sweep now).sessions.size (registry.sweep now).sessions
  have hsweep : (registry.sweep now).held ++ registry.sweptOwners now ~ registry.held := by
    rw [sweptOwners, List.filterMap_eq_flatMap_toList]
    exact collect_map_split (fun s : AuthSession => s.callbackOwner.toList) registry.sessions
      (fun _ s => (expireLocked s now none true).1)
      (fun s => (expireLocked s now none true).2.toList) fun _ s => expireLocked_owner now s
  rw [List.perm_iff_count] at hevict hsweep ⊢
  intro owner
  have hevict := hevict owner
  have hsweep := hsweep owner
  simp only [held, prune, List.count_append] at hevict hsweep ⊢
  omega

/-- The balance of `Create`. -/
theorem create_owners (registry : Registry) (request : AuthStartRequest) (now : UInt64)
    (fill : Nat → Entropy) :
    (registry.create request now fill).registry.held
        ++ (registry.create request now fill).stops
        ++ registry.createDropped request now fill
      ~ registry.held ++ (match (registry.create request now fill).outcome with
          | .ok _ => request.callbackOwner.toList
          | .error _ => []) := by
  have hprune := registry.prune_owners now
  have hstep := create_step registry request now fill
  unfold createDropped
  generalize registry.create request now fill = effect at hstep
  cases hstep with
  | rejected fault refused => simp [refused, authSessionError]
  | full admitted calm =>
      simpa [admitted, calm, authSessionError] using hprune
  | entropy admitted throws =>
      simp only [admitted, throws, if_true, List.append_nil]
      refine List.Perm.trans ?_ hprune
      rw [List.append_assoc]
      exact List.perm_append_comm.append_left _
  | created id nonempty free room admitted calm =>
      have hinsert := collect_insert_fresh (fun s : AuthSession => s.callbackOwner.toList)
        (AuthSession.ofRequest request) (getElem?_of_free free)
      simp only [admitted, calm, if_true, if_false, List.append_nil]
      rw [List.perm_iff_count] at hprune hinsert ⊢
      intro owner
      have hprune := hprune owner
      have hinsert := hinsert owner
      simp only [held, AuthSession.ofRequest, List.count_append] at hprune hinsert ⊢
      omega

end Registry

/-! ## The balance of one call -/

/-- The owners that a call drops. -/
def Call.dropped (call : Call) (registry : Registry) : List AuthCallbackOwner :=
  match call with
  | .create request now fill => registry.createDropped request now fill
  | .createWithTtl expectedState pkceVerifier ttlMs callbackOwner now nowInside fill =>
      if ttlMs = 0 ∨ ttlMs > 0xffffffffffffffff - now then []
      else
        registry.createDropped
          (Registry.ttlRequest expectedState pkceVerifier (now + ttlMs) callbackOwner)
          nowInside fill
  | _ => []

/-- The owner that a successful `Create` was given, with the identifier of its
session. -/
def Call.given (call : Call) (outcome : Except RegistryError Reply) :
    List (Bytes × AuthCallbackOwner) :=
  match call.request, outcome with
  | some request, .ok (.authId id) => request.callbackOwner.toList.map fun owner => (id, owner)
  | _, _ => []

private theorem given_create {call : Call} {request : AuthStartRequest}
    (h : call.request = some request) (effect : Effect Bytes) :
    (call.given (effect.map Reply.authId).outcome).map Prod.snd
      = match effect.outcome with
        | .ok _ => request.callbackOwner.toList
        | .error _ => [] := by
  unfold Call.given
  rw [h]
  cases hout : effect.outcome with
  | ok id => simp [Effect.map, Except.map, hout, Function.comp_def]
  | error e => simp [Effect.map, Except.map, hout]

/-- The balance of a call: what the sessions held before, and the owner of a
new session, is held, stopped or dropped after it. -/
theorem exec_owners (call : Call) (registry : Registry) :
    (exec call registry).registry.held ++ (exec call registry).stops ++ call.dropped registry
      ~ registry.held ++ (call.given (exec call registry).outcome).map Prod.snd := by
  cases call with
  | create request now fill =>
      rw [exec, given_create rfl]
      exact registry.create_owners request now fill
  | createWithTtl expectedState pkceVerifier ttlMs callbackOwner now nowInside fill =>
      rw [exec, given_create rfl]
      simp only [Call.dropped, Registry.createWithTtl]
      split
      · simp [Effect.map, authSessionError]
      · exact registry.create_owners _ nowInside fill
  | onSession authId call =>
      simp only [Call.dropped, Call.given, Call.request, List.map_nil, List.append_nil]
      cases hs : registry.sessions[authId]? with
      | none =>
          obtain ⟨outcome, hexec, -⟩ := exec_onSession_none hs call
          simp [hexec]
      | some s =>
          rw [exec_onSession_some hs]
          exact collect_insert_exchange (fun s : AuthSession => s.callbackOwner.toList) hs
            (effect_owner call s)
  | storeCredential instanceUrl accessToken expiresAtMs now nowLocked fill =>
      have h := registry.storeCredential_sessions instanceUrl accessToken expiresAtMs now
        nowLocked fill
      simp [exec, Effect.map, Registry.held, Call.dropped, Call.given, Call.request, h.1, h.2]
  | resolveCredential credentialId now =>
      have h := registry.resolveCredential_sessions credentialId now
      simp [exec, Effect.map, Registry.held, Call.dropped, Call.given, Call.request, h.1, h.2]
  | removeCredential credentialId =>
      simp [exec, Effect.map, Registry.removeCredential, Registry.held, Call.dropped, Call.given,
        Call.request]

/-! ## The balance of a run -/

/-- The registry, and what has become of the owners that were given to it. -/
structure OwnerWorld where
  registry : Registry := {}
  /-- The owners of the successful `Create` calls, with their sessions. -/
  given : List (Bytes × AuthCallbackOwner) := []
  /-- The owners that an operation has taken out and will stop. -/
  joining : List AuthCallbackOwner := []
  /-- The owners on which `StopAndJoin` has returned. -/
  stopped : List AuthCallbackOwner := []
  /-- The owners that were dropped. -/
  dropped : List AuthCallbackOwner := []

/-- A step of a run: an operation enters its critical section, or an
operation comes back from a `StopAndJoin`. -/
inductive OwnerAction where
  | call (call : Call)
  | join (owner : AuthCallbackOwner)

/-- The run of the registry with its owners. -/
def ownerMachine : Machine OwnerWorld OwnerAction Unit where
  step action world :=
    match action with
    | .call call =>
        let effect := exec call world.registry
        ((), {
          registry := effect.registry
          given := world.given ++ call.given effect.outcome
          joining := world.joining ++ effect.stops
          stopped := world.stopped
          dropped := world.dropped ++ call.dropped world.registry })
    | .join owner =>
        if owner ∈ world.joining then
          ((), { world with
            joining := world.joining.erase owner
            stopped := world.stopped ++ [owner] })
        else ((), world)

/-- The invariant of a run: every owner is in one place, and a session holds
only the owner that it was given. -/
structure Balanced (world : OwnerWorld) : Prop where
  balance : world.given.map Prod.snd
    ~ world.registry.held ++ world.joining ++ world.stopped ++ world.dropped
  own : ∀ id s owner, world.registry.sessions[id]? = some s → s.callbackOwner = some owner →
    (id, owner) ∈ world.given

/-- A call leaves the owner of its session alone or takes it out. -/
theorem effect_callbackOwner {call : SessionCall} {s : AuthSession} {owner : AuthCallbackOwner}
    (h : (call.effect s).session.callbackOwner = some owner) :
    s.callbackOwner = some owner := by
  have howner := effect_owner call s
  rw [h] at howner
  cases hs : s.callbackOwner with
  | none => simp [hs] at howner
  | some other =>
      simp only [hs, Option.toList_some, List.cons_append, List.nil_append,
        List.cons.injEq] at howner
      rw [howner.1]

/-- A session keeps its own owner or none. -/
private theorem exec_own {call : Call} {registry : Registry}
    {given : List (Bytes × AuthCallbackOwner)}
    (own : ∀ id s owner, registry.sessions[id]? = some s → s.callbackOwner = some owner →
      (id, owner) ∈ given) (id : Bytes) (s' : AuthSession) (owner : AuthCallbackOwner)
    (hs' : (exec call registry).registry.sessions[id]? = some s')
    (howner : s'.callbackOwner = some owner) :
    (id, owner) ∈ given ++ call.given (exec call registry).outcome := by
  have hentry := exec_entry call registry id
  generalize hbefore : registry.sessions[id]? = entry at hentry
  generalize hafter : (exec call registry).registry.sessions[id]? = entry' at hentry
  have hafter' : entry' = some s' := hafter.symm.trans hs'
  cases hentry with
  | same _ quiet old =>
      exact List.mem_append_left _ (own id s' owner (hbefore.trans hafter') howner)
  | moved c s t addressed move =>
      subst addressed
      rw [exec_onSession_some hbefore, Std.TreeMap.getElem?_insert_self] at hs'
      obtain rfl := Option.some.inj hs'
      exact List.mem_append_left _ (own id s owner hbefore (effect_callbackOwner howner))
  | expired now s sweep overdue old =>
      obtain rfl := Option.some.inj hafter'
      cases howner
  | evicted now s sweep isOver old => cases hafter'
  | created now request _ sweep creates free =>
      obtain rfl := Option.some.inj hafter'
      refine List.mem_append_right _ ?_
      have howner : request.callbackOwner = some owner := howner
      simp [Call.given, creates.1, creates.2, howner]

theorem balanced_step (world : OwnerWorld) (action : OwnerAction) (h : Balanced world) :
    Balanced (ownerMachine.step action world).2 := by
  cases action with
  | call call =>
      refine ⟨?_, exec_own h.own⟩
      have hexec := exec_owners call world.registry
      have hworld := h.balance
      rw [List.perm_iff_count] at hexec hworld ⊢
      intro owner
      have hexec := hexec owner
      have hworld := hworld owner
      simp only [ownerMachine, List.map_append, List.count_append] at hexec hworld ⊢
      omega
  | join owner =>
      simp only [ownerMachine]
      split
      · rename_i hmem
        refine ⟨?_, h.own⟩
        have hworld := h.balance
        have herase := List.perm_cons_erase hmem
        rw [List.perm_iff_count] at herase hworld ⊢
        intro other
        have hworld := hworld other
        have herase := herase other
        simp only [List.count_append, List.count_cons, List.count_nil] at hworld herase ⊢
        omega
      · exact h

/-- The balance of a run: every owner given to a successful `Create` is held,
about to be stopped, stopped or dropped. -/
theorem balance_run (actions : List OwnerAction) : Balanced (ownerMachine.run {} actions) := by
  refine ownerMachine.run_keeps balanced_step ⟨?_, ?_⟩ actions
  · simp [Registry.held, collect]
  · intro id s owner hs
    simp at hs

/-! ## Conservation -/

/-- Owners are conserved: each owner that was given to a successful `Create`
is held by its own session and no operation stops it, or no session holds it
any more and it is stopped once. -/
def Conserved (world : OwnerWorld) : Prop :=
  ∀ id owner, (id, owner) ∈ world.given →
    (∃ s, world.registry.sessions[id]? = some s ∧ s.callbackOwner = some owner) ∧
        (world.joining ++ world.stopped).count owner = 0 ∨
      owner ∉ world.registry.held ∧ (world.joining ++ world.stopped).count owner = 1

theorem mem_held {registry : Registry} {owner : AuthCallbackOwner} :
    owner ∈ registry.held ↔
      ∃ (id : Bytes) (s : AuthSession),
        registry.sessions[id]? = some s ∧ s.callbackOwner = some owner := by
  simp only [Registry.held, collect, List.mem_flatMap, Option.mem_toList]
  constructor
  · rintro ⟨⟨id, s⟩, hmem, howner⟩
    exact ⟨id, s, Std.TreeMap.mem_toList_iff_getElem?_eq_some.mp hmem, howner⟩
  · rintro ⟨id, s, hget, howner⟩
    exact ⟨(id, s), Std.TreeMap.mem_toList_iff_getElem?_eq_some.mpr hget, howner⟩

/-- With one owner per session, owners are conserved exactly when none was
dropped. -/
theorem conserved_iff_dropped {world : OwnerWorld} (h : Balanced world)
    (distinct : (world.given.map Prod.snd).Nodup) : Conserved world ↔ world.dropped = [] := by
  have hcount (owner : AuthCallbackOwner) (hmem : owner ∈ world.given.map Prod.snd) :
      world.registry.held.count owner + (world.joining ++ world.stopped).count owner
        + world.dropped.count owner = 1 := by
    have hbalance := (List.perm_iff_count.mp h.balance) owner
    rw [List.count_eq_one_of_mem distinct hmem] at hbalance
    simp only [List.count_append] at hbalance ⊢
    omega
  constructor
  · intro hconserved
    refine List.eq_nil_iff_forall_not_mem.mpr fun owner hdropped => ?_
    have hmem : owner ∈ world.given.map Prod.snd :=
      h.balance.mem_iff.mpr (List.mem_append_right _ hdropped)
    obtain ⟨⟨id, _⟩, hgiven, rfl⟩ := List.mem_map.mp hmem
    have hone := hcount _ hmem
    have hpos := List.count_pos_iff.mpr hdropped
    rcases hconserved id _ hgiven with ⟨⟨s, hs, howner⟩, -⟩ | ⟨-, hstopped⟩
    · have := List.count_pos_iff.mpr (mem_held.mpr ⟨id, s, hs, howner⟩)
      simp only at this hone hpos
      omega
    · simp only at hstopped hone hpos
      omega
  · intro hdropped id owner hgiven
    have hone := hcount owner (List.mem_map.mpr ⟨(id, owner), hgiven, rfl⟩)
    rw [hdropped, List.count_nil, Nat.add_zero] at hone
    by_cases hheld : owner ∈ world.registry.held
    · obtain ⟨id', s, hs, howner⟩ := mem_held.mp hheld
      -- The holder is the owner's own session: each owner was given once.
      have hid : (id', owner) = (id, owner) :=
        List.inj_on_of_nodup_map distinct (h.own id' s owner hs howner) hgiven rfl
      obtain rfl := (Prod.mk.inj hid).1
      have hpos := List.count_pos_iff.mpr hheld
      exact .inl ⟨⟨s, hs, howner⟩, by omega⟩
    · have hzero := List.count_eq_zero.mpr hheld
      exact .inr ⟨hheld, by omega⟩

/-! ## The calls that leak -/

namespace Registry

/-- The eviction of `Create` destroys a session that still holds its owner. -/
def EvictsHolder (registry : Registry) (now : UInt64) : Prop :=
  ∃ (id : Bytes) (s : AuthSession), (registry.sweep now).sessions[id]? = some s ∧
    s.callbackOwner ≠ none ∧ (registry.prune now).sessions[id]? = none

/-- A `Create` that is not rejected leaks when it evicts a session with its
owner, or when `Fill` throws after the sweep has taken an owner out of an
overdue session. -/
def CreateLeaks (registry : Registry) (request : AuthStartRequest) (now : UInt64)
    (fill : Nat → Entropy) : Prop :=
  Admits request now ∧
    (registry.EvictsHolder now ∨ DrawThrows registry now fill ∧ registry.sweptOwners now ≠ [])

private theorem mem_evictedOwners {fuel : Nat} {sessions : StringMap AuthSession}
    {owner : AuthCallbackOwner} :
    owner ∈ evictedOwners fuel sessions ↔
      ∃ (id : Bytes) (s : AuthSession), sessions[id]? = some s ∧ s.callbackOwner = some owner ∧
        (evict fuel sessions)[id]? = none := by
  induction fuel generalizing sessions with
  | zero =>
      simp only [evictedOwners, evict, List.not_mem_nil, false_iff, not_exists, not_and]
      intro id s hs _
      simp [hs]
  | succ fuel ih =>
      rw [evict, evictedOwners]
      have hstays : ¬ ∃ (id : Bytes) (s : AuthSession), sessions[id]? = some s ∧
          s.callbackOwner = some owner ∧ sessions[id]? = none := by
        rintro ⟨id, s, hs, -, hnone⟩
        rw [hs] at hnone
        cases hnone
      by_cases hsize : 32 ≤ sessions.size
      · simp only [hsize, if_true]
        cases hold : sessions.toList.find? fun entry => terminal entry.2.status with
        | none => simpa using hstays
        | some old =>
            have hget := Std.TreeMap.mem_toList_iff_getElem?_eq_some.mp
              (List.mem_of_find?_eq_some hold)
            simp only [List.mem_append, ih, Option.mem_toList]
            constructor
            · rintro (howner | ⟨id, s, hs, howner, hnone⟩)
              · refine ⟨old.1, old.2, hget, howner, ?_⟩
                rcases evict_getElem? fuel (sessions.erase old.1) old.1 with h | ⟨h, -⟩
                · rw [h, Std.TreeMap.getElem?_erase_self]
                · exact h
              · rw [Std.TreeMap.getElem?_erase] at hs
                split at hs
                · cases hs
                · exact ⟨id, s, hs, howner, hnone⟩
            · rintro ⟨id, s, hs, howner, hnone⟩
              by_cases hid : compare old.1 id = .eq
              · obtain rfl := Std.LawfulEqCmp.compare_eq_iff_eq.mp hid
                rw [hget] at hs
                obtain rfl := Option.some.inj hs
                exact .inl howner
              · exact .inr ⟨id, s, by rw [Std.TreeMap.getElem?_erase, if_neg hid, hs], howner,
                  hnone⟩
      · simpa [hsize] using hstays

theorem evictedOwners_ne_nil_iff (registry : Registry) (now : UInt64) :
    evictedOwners (registry.sweep now).sessions.size (registry.sweep now).sessions ≠ [] ↔
      registry.EvictsHolder now := by
  constructor
  · intro hne
    obtain ⟨owner, howner⟩ := List.exists_mem_of_ne_nil _ hne
    obtain ⟨id, s, hs, hsome, hnone⟩ := mem_evictedOwners.mp howner
    exact ⟨id, s, hs, by simp [hsome], hnone⟩
  · rintro ⟨id, s, hs, hne, hnone⟩
    obtain ⟨owner, howner⟩ := Option.ne_none_iff_exists'.mp hne
    exact List.ne_nil_of_mem (mem_evictedOwners.mpr ⟨id, s, hs, howner, hnone⟩)

theorem createDropped_ne_nil_iff (registry : Registry) (request : AuthStartRequest)
    (now : UInt64) (fill : Nat → Entropy) :
    registry.createDropped request now fill ≠ [] ↔ registry.CreateLeaks request now fill := by
  unfold createDropped CreateLeaks
  rw [← evictedOwners_ne_nil_iff]
  by_cases hadmits : Admits request now
  · by_cases hthrows : DrawThrows registry now fill <;> simp [hadmits, hthrows, or_iff_not_imp_left]
  · simp [hadmits]

end Registry

/-- The calls that drop owners. -/
def Call.Leaks (call : Call) (registry : Registry) : Prop :=
  match call with
  | .create request now fill => registry.CreateLeaks request now fill
  | .createWithTtl expectedState pkceVerifier ttlMs callbackOwner now nowInside fill =>
      ttlMs ≠ 0 ∧ ttlMs ≤ 0xffffffffffffffff - now ∧
        registry.CreateLeaks
          (Registry.ttlRequest expectedState pkceVerifier (now + ttlMs) callbackOwner)
          nowInside fill
  | _ => False

theorem dropped_eq_nil_iff (call : Call) (registry : Registry) :
    call.dropped registry = [] ↔ ¬ call.Leaks registry := by
  cases call with
  | create request now fill =>
      simp only [Call.dropped, Call.Leaks]
      rw [← registry.createDropped_ne_nil_iff]
      exact not_not.symm
  | createWithTtl expectedState pkceVerifier ttlMs callbackOwner now nowInside fill =>
      simp only [Call.dropped, Call.Leaks]
      rw [← registry.createDropped_ne_nil_iff]
      split
      · rename_i h
        rcases h with h | h
        · simp [h]
        · simp [UInt64.not_le.mpr h]
      · rename_i h
        obtain ⟨hzero, hle⟩ := not_or.mp h
        simp [hzero, UInt64.not_lt.mp hle]
  | _ => simp [Call.dropped, Call.Leaks]

/-! ## Runs -/

/-- The owners given early in a run are given in the whole run. -/
private theorem given_grows {past actions : List OwnerAction} (h : past <+: actions) :
    (ownerMachine.run {} past).given <+: (ownerMachine.run {} actions).given := by
  obtain ⟨rest, rfl⟩ := h
  rw [ownerMachine.run_append]
  refine ownerMachine.run_keeps (I := fun world => (ownerMachine.run {} past).given <+: world.given)
    ?_ (List.prefix_refl _) rest
  intro world action hpre
  cases action with
  | call call => exact hpre.trans (List.prefix_append _ _)
  | join owner =>
      simp only [ownerMachine]
      split <;> exact hpre

/-- Nothing has been dropped exactly as long as no call has leaked. -/
private theorem dropped_eq_nil_of_calls {actions past : List OwnerAction} (hpast : past <+: actions)
    (calm : ∀ earlier call, earlier ++ [.call call] <+: actions →
      ¬ call.Leaks (ownerMachine.run {} earlier).registry) :
    (ownerMachine.run {} past).dropped = [] := by
  induction past using List.reverseRecOn with
  | nil => rfl
  | append_singleton earlier action ih =>
      have hearlier := ih ((List.prefix_append _ _).trans hpast)
      rw [ownerMachine.run_concat]
      cases action with
      | call call =>
          simp only [ownerMachine, List.append_eq_nil_iff]
          exact ⟨hearlier, (dropped_eq_nil_iff call _).mpr (calm earlier call hpast)⟩
      | join owner =>
          simp only [ownerMachine]
          split <;> exact hearlier

/-- In a run with one owner per session, owners are conserved at every moment
exactly when no call of the run leaks.  Between operations `joining` is
empty. -/
theorem owners_conserved_iff (actions : List OwnerAction)
    (distinct : ((ownerMachine.run {} actions).given.map Prod.snd).Nodup) :
    (∀ past, past <+: actions → Conserved (ownerMachine.run {} past)) ↔
      ∀ past call, past ++ [.call call] <+: actions →
        ¬ call.Leaks (ownerMachine.run {} past).registry := by
  have hiff (past : List OwnerAction) (hpast : past <+: actions) :
      Conserved (ownerMachine.run {} past) ↔ (ownerMachine.run {} past).dropped = [] :=
    conserved_iff_dropped (balance_run past)
      (distinct.sublist ((given_grows hpast).sublist.map Prod.snd))
  constructor
  · intro hall past call hpast
    have hdropped := (hiff _ hpast).mp (hall _ hpast)
    rw [ownerMachine.run_concat] at hdropped
    simp only [ownerMachine, List.append_eq_nil_iff] at hdropped
    exact (dropped_eq_nil_iff call _).mp hdropped.2
  · intro calm past hpast
    exact (hiff past hpast).mpr (dropped_eq_nil_of_calls hpast calm)

/-- A request with a callback owner. -/
def ownedRequest (owner : AuthCallbackOwner) (expiresAtMs : UInt64) : AuthStartRequest where
  expectedState := ascii "state"
  pkceVerifier := ascii "verifier"
  expiresAtMonotonicMs := expiresAtMs
  callbackOwner := some owner

/-- Sixteen equal bytes from every `Fill`. -/
def fillWith (byte : UInt8) : Nat → Entropy := fun _ => some (Vector.replicate 16 byte)

/-- A session, and the `Snapshot` after its time that stops its owner. -/
def expiryRun : List OwnerAction := [
  .call (.create (ownedRequest 1 100) 10 (fillWith 0)),
  .call (.onSession (generateOpaqueId (Vector.replicate 16 0)) (.snapshot 200)),
  .join 1]

theorem owners_conserved_expiry :
    (∀ past, past <+: expiryRun → Conserved (ownerMachine.run {} past)) ↔
      ∀ past call, past ++ [.call call] <+: expiryRun →
        ¬ call.Leaks (ownerMachine.run {} past).registry :=
  owners_conserved_iff expiryRun (by decide +kernel)

/-- A `Create` that finds a session overdue and whose `Fill` then throws. -/
def entropyRun : List OwnerAction := [
  .call (.create (ownedRequest 1 100) 10 (fillWith 0)),
  .call (.create (ownedRequest 2 300) 200 fun _ => none)]

/-- Thirty-two sessions that fail on the callback worker, and one more
`Create`, which evicts the first of them. -/
def evictionRun : List OwnerAction :=
  (List.range 32).flatMap (fun n => [
    .call (.create (ownedRequest n 100) 10 (fillWith (UInt8.ofNat n))),
    .call (.onSession (generateOpaqueId (Vector.replicate 16 (UInt8.ofNat n)))
      (.receiveCallback (ascii "other") (ascii "code") 20))])
  ++ [.call (.create (ownedRequest 32 100) 30 (fillWith 32))]

/-- The run ends between operations, with distinct owners, and has lost one. -/
def LosesOwner (actions : List OwnerAction) : Prop :=
  ((ownerMachine.run {} actions).given.map Prod.snd).Nodup ∧
    (ownerMachine.run {} actions).joining = [] ∧
    ¬ Conserved (ownerMachine.run {} actions)

private theorem losesOwner_of_dropped {actions : List OwnerAction}
    (h : ((ownerMachine.run {} actions).given.map Prod.snd).Nodup ∧
      (ownerMachine.run {} actions).joining = [] ∧
      (ownerMachine.run {} actions).dropped ≠ []) : LosesOwner actions :=
  ⟨h.1, h.2.1, fun hconserved =>
    h.2.2 ((conserved_iff_dropped (balance_run actions) h.1).mp hconserved)⟩

theorem owners_lost : LosesOwner entropyRun ∧ LosesOwner evictionRun :=
  ⟨losesOwner_of_dropped (by decide +kernel), losesOwner_of_dropped (by decide +kernel)⟩

end Data360
