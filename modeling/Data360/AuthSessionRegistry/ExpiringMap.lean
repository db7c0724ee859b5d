import Data360.AuthSessionRegistry.Capacity
import Data360.AuthSessionRegistry.History
import Data360.Lib.Expiring

/-!
# The credentials as a map that expires

The registry drops an expired credential when it happens to pass by: in
`StoreCredential` all of them, in `ResolveCredential` the one that was asked for.
Seen through `ResolveCredential`, it is a map whose entries end at their time.

* `change` is what an event means for one identifier.
* `lazyStep_exec` says that every call is a step of the lazily pruned map, and
  `stands_run` that its entries stand for what was stored last.
* `credentials_refine` is the result: what `ResolveCredential` answers, what
  every other call leaves alone, and when `StoreCredential` fails.
-/

namespace Data360

open Lib Lib.ByteString

/-! ## The map -/

/-- The event stores the credential under the identifier. -/
def StoresUnder (id : Bytes) (c : Credential) (e : RegistryEvent) : Prop :=
  (∃ now nowLocked fill, e.input
      = .storeCredential c.instanceUrl c.accessToken c.expiresAtMs now nowLocked fill) ∧
    e.output = .ok (.credentialId id)

/-- The event stores a credential under the identifier, or removes it. -/
def Rewrites (id : Bytes) (e : RegistryEvent) : Prop :=
  (∃ c, StoresUnder id c e) ∨ e.input = .removeCredential id

/-- The credential is the last one that was stored under the identifier, and it
was not removed since. -/
def StoredLast (id : Bytes) (events : List RegistryEvent) (c : Credential) : Prop :=
  ∃ before e after, events = before ++ e :: after ∧ StoresUnder id c e ∧
    ∀ other ∈ after, ¬ Rewrites id other

/-- What an event means for an identifier. -/
def change (id : Bytes) (e : RegistryEvent) : Change Credential :=
  match e.input, e.output with
  | .storeCredential instanceUrl accessToken expiresAtMs _ _ _, .ok (.credentialId stored) =>
      if stored = id then .put ⟨instanceUrl, accessToken, expiresAtMs⟩ else .keep
  | .removeCredential removed, _ => if removed = id then .drop else .keep
  | _, _ => .keep

variable {id : Bytes} {e : RegistryEvent} {c : Credential}

theorem change_eq_put_iff : change id e = .put c ↔ StoresUnder id c e := by
  obtain ⟨before, call, outcome⟩ := e
  cases call with
  | storeCredential instanceUrl accessToken expiresAtMs now nowLocked fill =>
      rcases outcome with error | reply
      · simp [change, StoresUnder]
      · cases reply with
        | credentialId stored =>
            obtain ⟨url, token, expiry⟩ := c
            by_cases hid : stored = id
            · simp [change, StoresUnder, hid]
            · simp [change, StoresUnder, hid]
        | _ => simp [change, StoresUnder]
  | removeCredential removed =>
      by_cases hid : removed = id <;> simp [change, StoresUnder, hid]
  | _ => simp [change, StoresUnder]

theorem change_eq_drop_iff : change id e = .drop ↔ e.input = .removeCredential id := by
  obtain ⟨before, call, outcome⟩ := e
  cases call with
  | storeCredential instanceUrl accessToken expiresAtMs now nowLocked fill =>
      rcases outcome with error | reply
      · simp [change]
      · cases reply with
        | credentialId stored => by_cases hid : stored = id <;> simp [change, hid]
        | _ => simp [change]
  | removeCredential removed => by_cases hid : removed = id <;> simp [change, hid]
  | _ => simp [change]

theorem change_eq_keep_iff : change id e = .keep ↔ ¬ Rewrites id e := by
  rw [Rewrites, ← change_eq_drop_iff]
  simp only [← change_eq_put_iff]
  cases change id e <;> simp

/-- The last one that was stored is the entry of the map that drops nothing. -/
theorem storedLast_iff {events : List RegistryEvent} :
    StoredLast id events c ↔ latest (events.map (change id)) = some c := by
  rw [latest_eq_some_iff]
  constructor
  · rintro ⟨before, e, after, rfl, hstores, hafter⟩
    refine ⟨before.map (change id), after.map (change id), ?_, fun change hchange => ?_⟩
    · rw [List.map_append, List.map_cons, change_eq_put_iff.mpr hstores]
    · obtain ⟨other, hother, rfl⟩ := List.mem_map.mp hchange
      exact change_eq_keep_iff.mpr (hafter other hother)
  · rintro ⟨before, after, heq, hafter⟩
    obtain ⟨events₁, events₂, rfl, rfl, hrest⟩ := List.map_eq_append_iff.mp heq
    obtain ⟨e, events₃, rfl, hput, rfl⟩ := List.map_eq_cons_iff.mp hrest
    exact ⟨events₁, e, events₃, rfl, change_eq_put_iff.mp hput, fun other hother =>
      change_eq_keep_iff.mp (hafter _ (List.mem_map_of_mem hother))⟩

/-! ## One call -/

/-- A call is a step of the lazily pruned map. -/
theorem lazyStep_exec (call : Call) (registry : Registry) (id : Bytes) :
    LazyStep Credential.expiresAtMs call.purgeTime (change id (registryMachine.event registry call))
      registry.credentials[id]? (exec call registry).registry.credentials[id]? := by
  by_cases hremoves : call = .removeCredential id
  · subst hremoves
    have hdrop : change id (registryMachine.event registry (.removeCredential id)) = .drop :=
      change_eq_drop_iff.mpr rfl
    have hgone : (exec (.removeCredential id) registry).registry.credentials[id]? = none :=
      Std.TreeMap.getElem?_erase_self
    rw [hdrop, hgone]
    exact .applied .drop _
  · have hkeep (old : (exec call registry).outcome ≠ .ok (.credentialId id)) :
        change id (registryMachine.event registry call) = .keep :=
      change_eq_keep_iff.mpr fun h => h.elim (fun ⟨_, hstores⟩ => old hstores.2) hremoves
    have hstep := exec_credential call registry id
    generalize registry.credentials[id]? = entry at hstep ⊢
    generalize (exec call registry).registry.credentials[id]? = entry' at hstep ⊢
    cases hstep with
    | same _ old =>
        rw [hkeep old]
        exact .applied .keep _
    | purged credential now reading expired old =>
        rw [hkeep old, reading]
        exact .dropped credential now rfl expired
    | removed _ call_eq _ => exact absurd call_eq hremoves
    | stored _ instanceUrl accessToken expiresAtMs now nowLocked fill _ call_eq outcome_eq _ =>
        have hput : change id (registryMachine.event registry call)
            = .put ⟨instanceUrl, accessToken, expiresAtMs⟩ :=
          change_eq_put_iff.mpr ⟨⟨now, nowLocked, fill, call_eq⟩, outcome_eq⟩
        rw [hput]
        exact .applied (.put _) _

/-- What `ResolveCredential` answers, given what a lookup finds. -/
def resolved : Option Credential → Except RegistryError QueryCredentials
  | none => authSessionError .reauthRequired
  | some c => .ok ⟨c.instanceUrl, c.accessToken⟩

theorem resolve_outcome (registry : Registry) (id : Bytes) (now : UInt64) :
    (registry.resolveCredential id now).outcome
      = resolved (lookup Credential.expiresAtMs registry.credentials[id]? now) := by
  unfold Registry.resolveCredential
  split
  · rename_i hnone
    rw [hnone]
    rfl
  · rename_i c hfound
    rw [hfound, lookup, Option.filter_some]
    split
    · rename_i hexpired
      rw [if_neg (by simpa using hexpired)]
      rfl
    · rename_i hlive
      rw [if_pos (by simpa using hlive)]
      rfl

/-! ## Runs -/

/-- From the latest reading on, the credential of an identifier stands for the
last one that was stored under it. -/
theorem stands_run (calls : List Call) (id : Bytes) {t : UInt64}
    (later : ∀ e ∈ registryMachine.trace {} calls, ∀ now, e.input.purgeTime = some now → now ≤ t) :
    Stands Credential.expiresAtMs (registryMachine.run {} calls).credentials[id]?
      (latest ((registryMachine.trace {} calls).map (change id))) t := by
  induction calls using List.reverseRec with
  | nil =>
      have hnone : (registryMachine.run {} []).credentials[id]? = none :=
        Std.TreeMap.getElem?_emptyc
      rw [hnone]
      exact stands_none
  | append_singleton calls call ih =>
      rw [registryMachine.trace_concat] at later ⊢
      rw [registryMachine.run_concat, List.map_append, List.map_singleton, latest_concat]
      have hbefore := ih fun e he => later e (List.mem_append_left _ he)
      exact hbefore.step (lazyStep_exec call _ id)
        (later _ (List.mem_append_right _ (List.mem_singleton_self _)))

/-- The clock does not go back from one call to a later one. -/
def Forward (calls : List Call) : Prop := (calls.filterMap Call.purgeTime).Pairwise (· ≤ ·)

instance (calls : List Call) : Decidable (Forward calls) :=
  inferInstanceAs (Decidable (List.Pairwise _ _))

/-- `ResolveCredential` answers the last credential that was stored, as long as
it has not expired, and throws otherwise. -/
structure ResolvesLast (id : Bytes) (past : List RegistryEvent) (now : UInt64)
    (outcome : Except RegistryError Reply) : Prop where
  live : ∀ c, StoredLast id past c → now < c.expiresAtMs →
    outcome = .ok (.credentials ⟨c.instanceUrl, c.accessToken⟩)
  dead : (∀ c, StoredLast id past c → ¬ now < c.expiresAtMs) →
    outcome = authSessionError .reauthRequired

/-- The errors of `StoreCredential` for an input that it does not reject: there
are sixteen unexpired credentials, all identifiers it drew were taken, or `Fill`
threw. -/
def StoreFails (registry : Registry) (nowLocked : UInt64) (fill : Nat → Entropy)
    (error : RegistryError) : Prop :=
  error = .fault .authSessionLimitReached ∧
      (countValues (fun c : Credential => decide (nowLocked < c.expiresAtMs)) registry.credentials
          = 16 ∨ (registry.purge nowLocked).Collides fill) ∨
    error = .entropy ∧ ∃ i < 16, fill i = none

theorem resolvesLast_of_stands {registry : Registry} {past : List RegistryEvent} {now : UInt64}
    (h : Stands Credential.expiresAtMs registry.credentials[id]?
      (latest (past.map (change id))) now) :
    ResolvesLast id past now (exec (.resolveCredential id now) registry).outcome := by
  have houtcome : (exec (.resolveCredential id now) registry).outcome
      = (resolved (lookup Credential.expiresAtMs (latest (past.map (change id))) now)).map
          .credentials := by
    rw [← h.lookup_eq, ← resolve_outcome]
    rfl
  rw [houtcome]
  constructor
  · intro c hstored hlive
    rw [storedLast_iff.mp hstored, lookup, Option.filter_some, if_pos (by simpa using hlive)]
    rfl
  · intro hdead
    cases hlatest : latest (past.map (change id)) with
    | none => rfl
    | some c =>
        rw [lookup, Option.filter_some,
          if_neg (by simpa using hdead c (storedLast_iff.mpr hlatest))]
        rfl

/-- The size of what a purge leaves. -/
theorem purge_size (registry : Registry) (now : UInt64) :
    (registry.purge now).credentials.size
      = countValues (fun c : Credential => decide (now < c.expiresAtMs)) registry.credentials := by
  rw [← Std.TreeMap.length_toList, Registry.purge, Std.TreeMap.toList_filter, countValues,
    List.countP_eq_length_filter]
  congr 1
  refine List.filter_congr fun entry _ => ?_
  rw [← decide_not, decide_eq_decide]
  exact UInt64.not_le

theorem storeFails_of_error {registry : Registry} (h : registry.Bounded)
    {instanceUrl accessToken : Bytes} {expiresAtMs now nowLocked : UInt64} {fill : Nat → Entropy}
    {error : RegistryError} (url : instanceUrl ≠ []) (token : accessToken ≠ [])
    (inTime : now < expiresAtMs)
    (fails : (registry.storeCredential instanceUrl accessToken expiresAtMs now nowLocked
      fill).outcome = .error error) : StoreFails registry nowLocked fill error := by
  have hstep := Registry.store_step registry instanceUrl accessToken expiresAtMs now nowLocked fill
  generalize registry.storeCredential instanceUrl accessToken expiresAtMs now nowLocked fill
    = effect at hstep fails
  cases hstep with
  | rejected refused =>
      rcases refused with h | h | h
      · exact absurd h url
      · exact absurd h token
      · exact absurd h (UInt64.not_le.mpr inTime)
  | full crowded =>
      cases fails
      have hfew := (Registry.bounded_purge h nowLocked).credentials
      rw [purge_size] at crowded hfew
      exact .inl ⟨rfl, crowded.imp_left fun hfull => Nat.le_antisymm hfew hfull⟩
  | entropy i drawn throws =>
      cases fails
      exact .inr ⟨rfl, i, drawn, throws⟩
  | stored newId free room => cases fails

/-- What holds of an event after the events `past`. -/
structure RefinesMap (past : List RegistryEvent) (e : RegistryEvent) : Prop where
  /-- `ResolveCredential` answers as the map does. -/
  resolves : ∀ id now, e.input = .resolveCredential id now → ResolvesLast id past now e.output
  /-- A call that neither stores under an identifier nor removes it does not
  change what it resolves to from then on. -/
  keeps : ∀ id, ¬ Rewrites id e → ∀ t, (∀ now, e.input.purgeTime = some now → now ≤ t) →
    ((exec e.input e.before).registry.resolveCredential id t).outcome
      = (e.before.resolveCredential id t).outcome
  /-- `StoreCredential` fails on a good input only for want of room, of a free
  identifier or of entropy. -/
  fails : ∀ instanceUrl accessToken expiresAtMs now nowLocked fill error,
    e.input = .storeCredential instanceUrl accessToken expiresAtMs now nowLocked fill →
      instanceUrl ≠ [] → accessToken ≠ [] → now < expiresAtMs → e.output = .error error →
        StoreFails e.before nowLocked fill error

theorem resolve_of_unwritten {call : Call} {registry : Registry} {id : Bytes}
    (unwritten : ¬ Rewrites id (registryMachine.event registry call)) {t : UInt64}
    (later : ∀ now, call.purgeTime = some now → now ≤ t) :
    ((exec call registry).registry.resolveCredential id t).outcome
      = (registry.resolveCredential id t).outcome := by
  have hstep := lazyStep_exec call registry id
  rw [change_eq_keep_iff.mpr unwritten] at hstep
  have hself :
      Stands Credential.expiresAtMs registry.credentials[id]? registry.credentials[id]? t :=
    ⟨fun _ h => h, fun _ h _ => h⟩
  rw [resolve_outcome, resolve_outcome, (hself.step hstep later).lookup_eq]
  rfl

/-- With a clock that does not go back, the credentials are a map whose entries
expire. -/
theorem credentials_refine {calls : List Call} (forward : Forward calls)
    {past rest : List RegistryEvent} {e : RegistryEvent}
    (split : registryMachine.trace {} calls = past ++ e :: rest) : RefinesMap past e := by
  obtain ⟨first, call, second, rfl, rfl, rfl⟩ := registryMachine.trace_eq_append_cons split
  refine ⟨fun id now hcall => ?_, fun id unwritten t later => resolve_of_unwritten unwritten later,
    ?_⟩
  · obtain rfl : call = .resolveCredential id now := hcall
    refine resolvesLast_of_stands (stands_run first id fun e he reading hreading => ?_)
    rw [Forward, List.filterMap_append, List.pairwise_append] at forward
    refine forward.2.2 reading ?_ now (by simp [Call.purgeTime])
    exact List.mem_filterMap.mpr ⟨e.input, registryMachine.input_mem_of_mem_trace he, hreading⟩
  · intro instanceUrl accessToken expiresAtMs now nowLocked fill error hcall url token inTime hfails
    obtain rfl : call = .storeCredential instanceUrl accessToken expiresAtMs now nowLocked fill :=
      hcall
    refine storeFails_of_error (Registry.bounded_run first) url token inTime ?_
    rcases houtcome : ((registryMachine.run {} first).storeCredential instanceUrl accessToken
      expiresAtMs now nowLocked fill).outcome with error' | id
    · have hmapped : (exec (.storeCredential instanceUrl accessToken expiresAtMs now nowLocked fill)
          (registryMachine.run {} first)).outcome = .error error' := by
        simp only [exec, Effect.map, houtcome]
        rfl
      rw [← Except.error.inj (hmapped.symm.trans hfails)]
    · have hmapped : (exec (.storeCredential instanceUrl accessToken expiresAtMs now nowLocked fill)
          (registryMachine.run {} first)).outcome = .ok (.credentialId id) := by
        simp only [exec, Effect.map, houtcome]
        rfl
      cases hmapped.symm.trans hfails

/-- A credential that is resolved once in time and once too late. -/
def credentialCalls : List Call := [
  .storeCredential (ascii "https://t.c360a.salesforce.com") (ascii "token") 100 10 10
    fun _ => some (Vector.replicate 16 0),
  .resolveCredential loginId 20,
  .resolveCredential loginId 100]

theorem credentials_refine_sample :
    RefinesMap (registryMachine.trace {} (credentialCalls.take 2))
      (registryMachine.event (registryMachine.run {} (credentialCalls.take 2))
        (.resolveCredential loginId 100)) :=
  @credentials_refine credentialCalls (by decide) _ [] _ rfl

end Data360
