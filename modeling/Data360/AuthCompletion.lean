import Data360.AuthFunctions
import Data360.AuthSessionRegistry.Credentials

/-!
# What a completion leaves behind

A completion updates three stores one after the other: the credentials of the
registry, the catalog, and the status of the session.  It has no lock around
them, only compensation in two nested handlers.

* `Spared` is the grammar of a history in which this program takes back only
  what it has stored itself, and `Holds` and `TakenBack` say where its
  credential is.
* `wp_steps` and `wp_handler` are the specifications of the `try` block and of
  its handler in these terms.
* `completion_all_or_nothing_iff` says that a completion leaves all or nothing
  behind, unless the session was replaced before it was won.
-/

namespace Data360

open Lib Lib.ByteString Lib.Prog

/-! ## Events -/

/-- What happened, with who did it. -/
abbrev History := List (Caller × RegistryEvent)

/-- The event stores a credential under this identifier. -/
def Stores (x : Bytes) (e : RegistryEvent) : Prop := e.output = .ok (.credentialId x)

/-- The session is being completed under this secret name. -/
def CompletingAs (id name : Bytes) (registry : Registry) : Prop :=
  ∃ s, registry.sessions[id]? = some s ∧ s.status = .completing ∧ s.secretName = name

/-- The event takes session `id` from completing to authorized, and this is its
secret name. -/
def Authorizes (id name : Bytes) (e : RegistryEvent) : Prop :=
  CompletingAs id name e.before ∧
    ∃ t, (exec e.input e.before).registry.sessions[id]? = some t ∧ t.status = .authorized

/-- This program removes only what it has stored before. -/
inductive Spared : History → Prop
  | nil : Spared []
  | other {since : History} (e : RegistryEvent) (h : Spared since) :
      Spared (since ++ [(.other, e)])
  | self {since : History} (e : RegistryEvent) (h : Spared since)
      (answered : e.output = (exec e.input e.before).outcome)
      (own : ∀ x, e.input = .removeCredential x → ∃ e', (.self, e') ∈ since ∧ Stores x e') :
      Spared (since ++ [(.self, e)])

/-- This program has stored nothing. -/
def StoresNothing (since : History) : Prop :=
  ∀ e x, (.self, e) ∈ since → ¬ Stores x e

/-- This program has stored one credential, with the event `e`. -/
def StoresOnce (e : RegistryEvent) (since : History) : Prop :=
  ∃ before after, since = before ++ (.self, e) :: after ∧
    StoresNothing before ∧ StoresNothing after

/-- After it has stored a credential under `x`, this program has removed it.
What is there now, another caller has stored since. -/
def TakenBack (x : Bytes) (e : RegistryEvent) (since : History) (registry : Registry) : Prop :=
  ∃ before between removal after,
    since = before ++ (.self, e) :: (between ++ (.self, removal) :: after) ∧
      removal.input = .removeCredential x ∧
      (registry.credentials[x]? = none ∨ ∃ e', (.other, e') ∈ after ∧ Stores x e')

/-- No event is `FinishAuthorized` on `id`. -/
def Unauthorized (id : Bytes) (since : History) : Prop :=
  ∀ entry ∈ since, entry.2.input ≠ .onSession id .finishAuthorized

/-! ## Histories that grow -/

variable {env : CompletionEnv} {id name : Bytes} {w : CompletionWorld} {since : History}

/-- What one call of this program adds to the history. -/
def CompletionWorld.news (w : CompletionWorld) (env : CompletionEnv) (call : Call) : History :=
  (registryMachine.trace w.registry (env.others w.turn)).map (Prod.mk Caller.other)
    ++ [(.self, registryMachine.event (w.met env) call)]

theorem history_after (call : Call) :
    (w.after env call).history = w.history ++ w.news env call := rfl

theorem mem_news {call : Call} {entry : Caller × RegistryEvent}
    (h : entry ∈ w.news env call) :
    (entry.1 = .other ∧ entry.2.input ∈ env.others w.turn) ∨
      entry = (.self, registryMachine.event (w.met env) call) := by
  rcases List.mem_append.mp h with h | h
  · obtain ⟨e, he, rfl⟩ := List.mem_map.mp h
    exact .inl ⟨rfl, registryMachine.input_mem_of_mem_trace he⟩
  · exact .inr (List.mem_singleton.mp h)

theorem Spared.others (h : Spared since) (events : List RegistryEvent) :
    Spared (since ++ events.map (Prod.mk Caller.other)) := by
  induction events using List.reverseRec with
  | nil => simpa using h
  | append_singleton events e ih =>
      rw [List.map_append, ← List.append_assoc]
      exact .other e ih

/-- A call that removes nothing, or what this program has stored. -/
theorem Spared.news (h : Spared since) (call : Call)
    (own : ∀ x, call = .removeCredential x → ∃ e', (.self, e') ∈ since ∧ Stores x e') :
    Spared (since ++ w.news env call) := by
  rw [CompletionWorld.news, ← List.append_assoc]
  refine .self _ (h.others _) rfl fun x hx => ?_
  obtain ⟨e', he', hstores⟩ := own x hx
  exact ⟨e', List.mem_append_left _ he', hstores⟩

/-- A credential that has not expired survives the calls of this program, unless
this program has stored it. -/
theorem Spared.keeps (h : Spared since) {before after : History} {e : RegistryEvent}
    (hsplit : since = before ++ (.self, e) :: after) {x : Bytes} {credential : Credential}
    (found : e.before.credentials[x]? = some credential)
    (live : ∀ now, e.input.purgeTime = some now → now < credential.expiresAtMs) :
    (exec e.input e.before).registry.credentials[x]? = some credential ∨
      ∃ e', (.self, e') ∈ before ∧ Stores x e' := by
  induction h generalizing after with
  | nil => simp at hsplit
  | other e' _ ih =>
      rcases concat_eq_append_cons hsplit with ⟨-, -, hlast⟩ | ⟨rest, -, hrest⟩
      · cases hlast
      · exact ih hrest
  | self e' _ _ own ih =>
      rcases concat_eq_append_cons hsplit with ⟨-, rfl, hlast⟩ | ⟨rest, -, hrest⟩
      · cases hlast
        by_cases hremove : e.input = .removeCredential x
        · exact .inr (own x hremove)
        · exact .inl (unexpired_credential_exec found hremove live)
      · exact ih hrest

/-- The events of this program carry the answers of the registry. -/
theorem Spared.answered (h : Spared since) {e : RegistryEvent} (he : (.self, e) ∈ since) :
    e.output = (exec e.input e.before).outcome := by
  induction h with
  | nil => simp at he
  | other e' _ ih => exact ih (by simpa using he)
  | self e' _ answered _ ih =>
      rcases List.mem_append.mp he with hold | hnew
      · exact ih hold
      · cases List.mem_singleton.mp hnew
        exact answered

theorem StoresNothing.append {more : History} (h : StoresNothing since)
    (hmore : StoresNothing more) : StoresNothing (since ++ more) := by
  intro e x he
  rcases List.mem_append.mp he with he | he
  · exact h e x he
  · exact hmore e x he

/-- A call that answers no credential stores nothing. -/
theorem storesNothing_news {call : Call}
    (old : ∀ x, (exec call (w.met env)).outcome ≠ .ok (.credentialId x)) :
    StoresNothing (w.news env call) := by
  intro e x he hstores
  rcases mem_news he with ⟨hself, -⟩ | heq
  · cases hself
  · cases heq
    exact old x hstores

/-! ## The phases of a completion -/

/-- The history since `past`: nothing has been committed, nobody has
authorized the session, and this program has spared what others stored. -/
structure Underway (id : Bytes) (past : History) (done : List (Bytes × Bytes))
    (since : History) (w : CompletionWorld) : Prop where
  history : w.history = past ++ since
  commits : w.commits = done
  spared : Spared since
  unauthorized : Unauthorized id since

/-- The event stores this capability under `x`, as it is. -/
def StoresCapability (capability : Data360Capability) (x : Bytes) (e : RegistryEvent) : Prop :=
  Stores x e ∧
    (∃ now nowLocked fill, e.input = .storeCredential capability.tenantUrl capability.accessToken
      capability.expiresAtMonotonicMs now nowLocked fill) ∧
    (exec e.input e.before).registry.credentials[x]? = some ⟨capability.tenantUrl,
      capability.accessToken, capability.expiresAtMonotonicMs⟩

variable {past : History} {done : List (Bytes × Bytes)} {capability : Data360Capability}
  {x : Bytes}

/-- This program has stored nothing. -/
def HoldsNothing (id : Bytes) (past : History) (done : List (Bytes × Bytes))
    (w : CompletionWorld) : Prop :=
  ∃ since, Underway id past done since w ∧ StoresNothing since

/-- This program has stored the capability under `x`. -/
def Holds (id : Bytes) (past : History) (done : List (Bytes × Bytes))
    (capability : Data360Capability) (x : Bytes) (w : CompletionWorld) : Prop :=
  ∃ since e, Underway id past done since w ∧ StoresOnce e since ∧ StoresCapability capability x e

/-- This program has stored nothing, or has taken it back. -/
def Cleared (id : Bytes) (past : History) (done : List (Bytes × Bytes))
    (w : CompletionWorld) : Prop :=
  ∃ since, Underway id past done since w ∧
    (StoresNothing since ∨
      ∃ e x, StoresOnce e since ∧ Stores x e ∧ TakenBack x e since w.registry)

/-- This program has stored the capability under `x` and committed it under
`secretName`; the session waits for `FinishAuthorized`. -/
def Installed (id name secretName : Bytes) (past : History) (done : List (Bytes × Bytes))
    (capability : Data360Capability) (x : Bytes) (w : CompletionWorld) : Prop :=
  CompletingAs id name w.registry ∧ w.commits = done ++ [(secretName, x)] ∧
    ∃ since e, w.history = past ++ since ∧ Unauthorized id since ∧ (.self, e) ∈ since ∧
      StoresCapability capability x e

/-- The same after `FinishAuthorized`. -/
def Finished (id name secretName : Bytes) (past : History) (done : List (Bytes × Bytes))
    (capability : Data360Capability) (x : Bytes) (w : CompletionWorld) : Prop :=
  w.commits = done ++ [(secretName, x)] ∧
    ∃ before finish after e, w.history = past ++ (before ++ (.self, finish) :: after) ∧
      Unauthorized id before ∧ Unauthorized id after ∧ Authorizes id name finish ∧
      (.self, e) ∈ before ∧ StoresCapability capability x e

/-! ## One call -/

/-- A session that is being completed keeps its secret name until it is
finished. -/
theorem completingAs_exec {registry : Registry} {call : Call} (h : CompletingAs id name registry)
    (hcall : ¬ call.Finishes id) : CompletingAs id name (exec call registry).registry := by
  obtain ⟨s, found, completing, rfl⟩ := h
  obtain ⟨t, ht, hsame | ⟨rfl, -⟩ | ⟨fault, rfl, -⟩⟩ := completing_exec call found completing
  · rw [hsame] at ht
    exact ⟨_, ht, completing, rfl⟩
  · exact absurd (.inl rfl) hcall
  · exact absurd (.inr ⟨fault, rfl⟩) hcall

/-- `BeginCompletion` hands out the secret name of the session. -/
theorem completingAs_of_begun {registry : Registry} {now : UInt64}
    {material : AuthCompletionMaterial}
    (h : (exec (.onSession id (.beginCompletion now)) registry).outcome = .ok
      (.material material)) :
    CompletingAs id material.secretName
      (exec (.onSession id (.beginCompletion now)) registry).registry := by
  cases hs : registry.sessions[id]? with
  | none =>
      obtain ⟨outcome, hexec, houtcome⟩ := exec_onSession_lost hs (.beginCompletion now)
      rw [hexec] at h
      rcases houtcome with rfl | rfl <;> cases h
  | some s =>
      rw [exec_onSession_some hs] at h ⊢
      have hmove := effect_move (.beginCompletion now) s
      generalize (SessionCall.effect (.beginCompletion now) s).session = s' at hmove
      rw [show (SessionCall.effect (.beginCompletion now) s).outcome = _ from h] at hmove
      cases hmove with
      | stay owner _ quiet => cases quiet
      | ended status fault owner _ active closed authorized completing cause quiet => cases quiet
      | begun now' call_eq ready inTime =>
          exact ⟨_, Std.TreeMap.getElem?_insert_self, rfl, rfl⟩

theorem completingAs_met (alone : Alone env id) (h : CompletingAs id name w.registry) :
    CompletingAs id name (w.met env) :=
  (registryMachine.run_keeps_unless (B := fun e => e.input.Finishes id)
    (fun _ _ ht hcall => completingAs_exec ht hcall) h fun _ he =>
      alone w.turn _ (registryMachine.input_mem_of_mem_trace he)).1

/-- Only `FinishAuthorized` authorizes a session that is being completed. -/
theorem input_of_authorizes {e : RegistryEvent} (h : Authorizes id name e) :
    e.input = .onSession id .finishAuthorized := by
  obtain ⟨⟨s, found, completing, -⟩, t, ht, hauth⟩ := h
  obtain ⟨t', ht', hsame | ⟨hinput, -⟩ | ⟨fault, -, hfailed, -⟩⟩ :=
    completing_exec e.input found completing
  · obtain rfl := Option.some.inj (ht.symm.trans ht')
    rw [hsame] at hauth
    cases completing.symm.trans hauth
  · exact hinput
  · obtain rfl := Option.some.inj (ht.symm.trans ht')
    cases hfailed.symm.trans hauth

theorem not_authorizes {n : Bytes} (h : Unauthorized id since) {entry : Caller × RegistryEvent}
    (hentry : entry ∈ since) : ¬ Authorizes id n entry.2 :=
  fun hauth => h entry hentry (input_of_authorizes hauth)

theorem Unauthorized.append {more : History} (h : Unauthorized id since)
    (hmore : Unauthorized id more) : Unauthorized id (since ++ more) := by
  intro entry hentry
  rcases List.mem_append.mp hentry with hentry | hentry
  · exact h entry hentry
  · exact hmore entry hentry

theorem unauthorized_news (alone : Alone env id) {call : Call}
    (hcall : call ≠ .onSession id .finishAuthorized) : Unauthorized id (w.news env call) := by
  intro entry hentry
  rcases mem_news hentry with ⟨-, hother⟩ | rfl
  · exact fun hinput => alone w.turn _ hother (.inl hinput)
  · exact hcall

/-- One more call, which does not authorize the session and removes nothing but
what this program has stored. -/
theorem Underway.after (alone : Alone env id) (h : Underway id past done since w) (call : Call)
    (hcall : call ≠ .onSession id .finishAuthorized)
    (own : ∀ x, call = .removeCredential x → ∃ e, (.self, e) ∈ since ∧ Stores x e) :
    Underway id past done (since ++ w.news env call) (w.after env call) where
  history := by rw [history_after, h.history, List.append_assoc]
  commits := h.commits
  spared := h.spared.news call own
  unauthorized := h.unauthorized.append (unauthorized_news alone hcall)

theorem StoresOnce.append {e : RegistryEvent} {more : History} (h : StoresOnce e since)
    (hmore : StoresNothing more) : StoresOnce e (since ++ more) := by
  obtain ⟨before, after, rfl, hbefore, hafter⟩ := h
  exact ⟨before, after ++ more, by simp, hbefore, hafter.append hmore⟩

theorem StoresOnce.mem {e : RegistryEvent} (h : StoresOnce e since) : (.self, e) ∈ since := by
  obtain ⟨before, after, rfl, -, -⟩ := h
  simp

/-- The only credential that was stored is that of the event. -/
theorem StoresOnce.eq {e e' : RegistryEvent} {y : Bytes} (h : StoresOnce e since)
    (he' : (.self, e') ∈ since) (hstores : Stores y e') : e' = e := by
  obtain ⟨before, after, rfl, hbefore, hafter⟩ := h
  rcases List.mem_append.mp he' with hold | hnew
  · exact absurd hstores (hbefore e' y hold)
  · rcases List.mem_cons.mp hnew with heq | hnew
    · exact congrArg Prod.snd heq
    · exact absurd hstores (hafter e' y hnew)

theorem remove_outcome (registry : Registry) (x y : Bytes) :
    (exec (.removeCredential x) registry).outcome ≠ .ok (.credentialId y) := fun h => by cases h

theorem onSession_outcome (c : SessionCall) (registry : Registry) (x : Bytes) :
    (exec (.onSession id c) registry).outcome ≠ .ok (.credentialId x) := fun h => by
  obtain ⟨_, _, _, _, _, _, hcall, -⟩ := stores_exec h
  cases hcall

/-- Taking its own credential back keeps it in its hands. -/
theorem Holds.remove (alone : Alone env id) (h : Holds id past done capability x w) :
    Holds id past done capability x (w.after env (.removeCredential x)) := by
  obtain ⟨since, e, hunder, honce, hstores⟩ := h
  refine ⟨_, e, hunder.after alone _ (fun h => by cases h) fun y hy => ?_,
    honce.append (storesNothing_news (remove_outcome _ x)), hstores⟩
  obtain rfl : x = y := by cases hy; rfl
  exact ⟨e, honce.mem, hstores.1⟩

/-- What it has taken back is gone. -/
theorem Holds.takenBack (alone : Alone env id) (h : Holds id past done capability x w) :
    Cleared id past done (w.after env (.removeCredential x)) := by
  obtain ⟨since, e, hunder, honce, hstores⟩ := h
  have hnews := @storesNothing_news env w _ (remove_outcome (w.met env) x)
  refine ⟨_, hunder.after alone _ (fun h => by cases h) fun y hy => ?_,
    .inr ⟨e, x, honce.append hnews, hstores.1, ?_⟩⟩
  · obtain rfl : x = y := by cases hy; rfl
    exact ⟨e, honce.mem, hstores.1⟩
  · obtain ⟨before, after, rfl, -, -⟩ := honce
    refine ⟨before, after ++ (registryMachine.trace w.registry (env.others w.turn)).map
      (Prod.mk Caller.other), registryMachine.event (w.met env) (.removeCredential x), [],
      by simp [CompletionWorld.news], rfl, .inl ?_⟩
    exact Std.TreeMap.getElem?_erase_self

/-- An absent credential stays absent through a run, or one of its calls stores
it. -/
theorem absent_credential_run {registry : Registry} (calls : List Call)
    (absent : registry.credentials[x]? = none) :
    (registryMachine.run registry calls).credentials[x]? = none ∨
      ∃ e ∈ registryMachine.trace registry calls, Stores x e := by
  by_cases hstored : ∃ e ∈ registryMachine.trace registry calls, Stores x e
  · exact .inr hstored
  · exact .inl (registryMachine.run_keeps_unless (B := Stores x)
      (I := fun t => t.credentials[x]? = none) (fun _ _ ht hold => absent_credential_exec ht hold)
      absent fun e he hs => hstored ⟨e, he, hs⟩).1

/-- A credential that was taken back stays so in the calls of this program. -/
theorem TakenBack.after {e : RegistryEvent} (h : TakenBack x e since w.registry) {call : Call}
    (old : (exec call (w.met env)).outcome ≠ .ok (.credentialId x)) :
    TakenBack x e (since ++ w.news env call) (w.after env call).registry := by
  obtain ⟨before, between, removal, after, rfl, hremoval, hgone⟩ := h
  refine ⟨before, between, removal, after ++ w.news env call, by simp, hremoval, ?_⟩
  rcases hgone with habsent | ⟨e', he', hstores⟩
  · rcases absent_credential_run (env.others w.turn) habsent with habsent | ⟨e', he', hstores⟩
    · exact .inl (absent_credential_exec habsent old)
    · exact .inr ⟨e', List.mem_append_right _
        (List.mem_append_left _ (List.mem_map.mpr ⟨e', he', rfl⟩)), hstores⟩
  · exact .inr ⟨e', List.mem_append_left _ he', hstores⟩

/-- What is cleared stays cleared in the calls on the session, except
`FinishAuthorized`. -/
theorem Cleared.after (alone : Alone env id) (h : Cleared id past done w) {c : SessionCall}
    (hcall : c ≠ .finishAuthorized) : Cleared id past done (w.after env (.onSession id c)) := by
  obtain ⟨since, hunder, hclear⟩ := h
  have hnews := @storesNothing_news env w _ (@onSession_outcome id c (w.met env))
  refine ⟨_, hunder.after alone _ (fun h => hcall (by cases h; rfl)) (fun _ h => by cases h), ?_⟩
  rcases hclear with hnothing | ⟨e, x, honce, hstores, hback⟩
  · exact .inl (hnothing.append hnews)
  · exact .inr ⟨e, x, honce.append hnews, hstores, hback.after (onSession_outcome c _ x)⟩

/-! ## The try block -/

section Steps

variable {E : CompletionError → CompletionWorld → Prop}

/-- This program has won the session and stored nothing. -/
def Won (id name : Bytes) (past : History) (done : List (Bytes × Bytes)) (w : CompletionWorld) :
    Prop :=
  HoldsNothing id past done w ∧ w.credentialId = [] ∧ CompletingAs id name w.registry

/-- It has stored the capability, and remembers under which identifier. -/
def Stored (id name : Bytes) (past : History) (done : List (Bytes × Bytes))
    (capability : Data360Capability) (x : Bytes) (w : CompletionWorld) : Prop :=
  Holds id past done capability x w ∧ w.credentialId = x ∧ CompletingAs id name w.registry

theorem completingAs_after (alone : Alone env id) (h : CompletingAs id name w.registry)
    {call : Call} (hcall : ¬ call.Finishes id) :
    CompletingAs id name (w.after env call).registry :=
  completingAs_exec (completingAs_met alone h) hcall

theorem wp_storeCredential (alone : Alone env id) (h : Won id name past done w)
    (capability : Data360Capability) :
    wp (storeCredential env capability)
      (fun x w' => x ≠ [] ∧ Stored id name past done capability x { w' with credentialId := x })
      (fun _ => Won id name past done) (fun _ => False) w := by
  obtain ⟨⟨since, hunder, hnothing⟩, hnone, hcompleting⟩ := h
  set call : Call := .storeCredential capability.tenantUrl capability.accessToken
    capability.expiresAtMonotonicMs (env.now w.turn) (env.nowLocked w.turn) env.fill with hcall
  have hafter : Underway id past done (since ++ w.news env call) (w.after env call) :=
    hunder.after alone call (fun h => by cases hcall.symm.trans h) fun _ h => by
      cases hcall.symm.trans h
  have hkept : CompletingAs id name (w.after env call).registry :=
    completingAs_after alone hcompleting fun h => by
      rcases h with h | ⟨_, h⟩ <;> cases hcall.symm.trans h
  have hfailed (old : ∀ x, (exec call (w.met env)).outcome ≠ .ok (.credentialId x)) :
      Won id name past done (w.after env call) :=
    ⟨⟨_, hafter, hnothing.append (storesNothing_news old)⟩, hnone, hkept⟩
  rw [storeCredential, wp_bind]
  refine wp_perform (fun reply hreply => ?_) fun e he => ?_
  · cases reply with
    | credentialId x =>
        obtain ⟨_, _, _, _, _, _, hcall', hne, hcredential, -⟩ := stores_exec hreply
        cases hcall'
        refine ⟨hne, ⟨_, registryMachine.event (w.met env) call, ⟨hafter.history, hafter.commits,
          hafter.spared, hafter.unauthorized⟩, ?_, hreply, ⟨_, _, _, rfl⟩, hcredential⟩, rfl,
          hkept⟩
        refine ⟨since ++ (registryMachine.trace w.registry (env.others w.turn)).map
          (Prod.mk Caller.other), [], by simp [CompletionWorld.news], ?_, fun _ _ h => by simp at h⟩
        refine hnothing.append fun e' y he' => ?_
        obtain ⟨_, _, heq⟩ := List.mem_map.mp he'
        cases heq
    | authId | snapshot | status | material | credentials | done =>
        exact hfailed fun x hx => by cases hreply.symm.trans hx
  · exact hfailed fun x hx => by cases he.symm.trans hx

/-- Taking the credential back in the installation. -/
theorem wp_removeCredential (alone : Alone env id)
    (h : Stored id name past done capability x w) :
    wp (removeCredential env x) (fun _ => Stored id name past done capability x) E
      (fun _ => False) w := by
  obtain ⟨hholds, hid, hcompleting⟩ := h
  rw [removeCredential, wp_bind]
  refine wp_perform (fun _ _ => ⟨hholds.remove alone, hid, ?_⟩) fun e he => by cases he
  exact completingAs_after alone hcompleting fun h => by rcases h with h | ⟨_, h⟩ <;> cases h

theorem wp_replaceCatalogSecret (alone : Alone env id)
    (h : Stored id name past done capability x w) (secretName : Bytes) :
    wp (replaceCatalogSecret env secretName x)
      (fun _ => Installed id name secretName past done capability x)
      (fun _ => Stored id name past done capability x) (fun _ => False) w := by
  have hback (condition : Prop) [Decidable condition] (e : CompletionError) :
      wp (if condition then removeCredential env x else pure ())
        (fun _ => Stored id name past done capability x)
        (fun _ => Stored id name past done capability x) (fun _ => False) w :=
    (wp_ite ..).mpr ⟨fun _ => wp_removeCredential alone h, fun _ => h⟩
  rw [replaceCatalogSecret, wp_bind, wp_onRaise]
  refine wp_answer (fun old => ?_) fun e => hback _ e
  rw [wp_onRaise, wp_bind]
  refine wp_answer (fun old => ?_) fun e => hback _ e
  rw [wp_bind, wp_update, wp_pure]
  obtain ⟨⟨since, e, hunder, honce, hstores⟩, -, hcompleting⟩ := h
  exact ⟨hcompleting, congrArg (· ++ [(secretName, x)]) hunder.commits, since, e, hunder.history,
    hunder.unauthorized, honce.mem, hstores⟩

/-- Retiring the displaced credential. -/
theorem Installed.after (alone : Alone env id) {secretName : Bytes}
    (h : Installed id name secretName past done capability x w) (old : Bytes) :
    Installed id name secretName past done capability x
      (w.after env (.removeCredential old)) := by
  obtain ⟨hcompleting, hcommits, since, e, hhistory, hunauthorized, he, hstores⟩ := h
  refine ⟨completingAs_after alone hcompleting fun h => (by rcases h with h | ⟨_, h⟩ <;> cases h),
    hcommits, since ++ w.news env (.removeCredential old), e, ?_,
    hunauthorized.append (unauthorized_news alone fun h => by cases h),
    List.mem_append_left _ he, hstores⟩
  rw [history_after, hhistory, List.append_assoc]

theorem wp_install (alone : Alone env id) (h : Stored id name past done capability x w)
    (secretName : Bytes) :
    wp (installTemporarySessionSecret env secretName x)
      (fun _ => Installed id name secretName past done capability x)
      (fun _ => Stored id name past done capability x) (fun _ => False) w := by
  rw [installTemporarySessionSecret, wp_bind]
  refine wp_mono (wp_replaceCatalogSecret alone h secretName) (fun old w' hinstalled => ?_)
    (fun _ _ h => h) fun _ h => h
  refine (wp_ite ..).mpr ⟨fun _ => ?_, fun _ => hinstalled⟩
  rw [removeCredential, wp_bind]
  exact wp_perform (fun _ _ => hinstalled.after alone old) fun e he => by cases he

/-- `FinishAuthorized` cannot fail once the catalog is committed. -/
theorem Installed.finish (alone : Alone env id) {secretName : Bytes}
    (h : Installed id name secretName past done capability x w) :
    (exec (.onSession id .finishAuthorized) (w.met env)).outcome = .ok .done ∧
      Finished id name secretName past done capability x
        (w.after env (.onSession id .finishAuthorized)) := by
  obtain ⟨hcompleting, hcommits, since, e, hhistory, hunauthorized, he, hstores⟩ := h
  have hmet := completingAs_met alone hcompleting
  obtain ⟨s, found, completing, hname⟩ := hmet
  have hactive : terminal s.status = false := by rw [completing]; rfl
  have hexec : (exec (.onSession id .finishAuthorized) (w.met env)).outcome = .ok .done ∧
      (exec (.onSession id .finishAuthorized) (w.met env)).registry.sessions[id]?
        = some (s.ended .authorized none none) := by
    rw [exec_onSession_some found]
    simp [SessionCall.effect, SessionEffect.map, AuthSession.finishAuthorized, AuthSession.finish,
      completing, terminalLocked_of_active hactive, Except.map]
  refine ⟨hexec.1, hcommits, since ++ (registryMachine.trace w.registry (env.others w.turn)).map
    (Prod.mk Caller.other), registryMachine.event (w.met env) (.onSession id .finishAuthorized), [],
    e, ?_, ?_, fun _ h => by simp at h, ⟨⟨s, found, completing, hname⟩, _, hexec.2, rfl⟩,
    List.mem_append_left _ he, hstores⟩
  · rw [history_after, hhistory, CompletionWorld.news]
    simp
  · refine hunauthorized.append fun entry hentry => ?_
    obtain ⟨e', he', rfl⟩ := List.mem_map.mp hentry
    exact fun hinput =>
      alone w.turn _ (registryMachine.input_mem_of_mem_trace he') (.inl hinput)

/-- The `try` block leaves everything behind, or throws before it has
committed anything. -/
theorem wp_steps (alone : Alone env id) (h : Won id name past done w) (secretName : Bytes)
    (material : AuthCompletionMaterial) :
    wp (completionSteps env id secretName material)
      (fun _ w' => ∃ capability x, env.exchange material = .ok capability ∧
        Finished id name secretName past done capability x w')
      (fun _ w' => Won id name past done w' ∨
        ∃ capability x, x ≠ [] ∧ Stored id name past done capability x w')
      (fun _ => False) w := by
  rw [completionSteps, wp_bind]
  cases hexchange : env.exchange material with
  | error e => exact .inl h
  | ok capability =>
  rw [wp_of_ret (show answer (.ok capability) w = (.ret capability, w) from rfl), wp_bind]
  refine wp_mono (wp_storeCredential alone h capability) (fun x w₁ hstore => ?_)
    (fun _ _ h => .inl h) fun _ h => h
  obtain ⟨hne, hstored⟩ := hstore
  rw [wp_bind, wp_update, wp_bind]
  refine wp_mono (wp_install alone hstored secretName) (fun _ w₂ hinstalled => ?_)
    (fun _ _ h => .inr ⟨capability, x, hne, h⟩) fun _ h => h
  obtain ⟨houtcome, hfinished⟩ := hinstalled.finish alone
  rw [wp_bind]
  refine wp_perform (fun _ _ => ⟨capability, x, rfl, hfinished⟩) fun e he => ?_
  cases houtcome.symm.trans he

end Steps

/-! ## The handler -/

/-- The handler takes the credential back before it does anything else. -/
theorem wp_takeBack (alone : Alone env id) {E : CompletionError → CompletionWorld → Prop}
    (h : Won id name past done w ∨
      ∃ capability x, x ≠ [] ∧ Stored id name past done capability x w) :
    wp (takeCredentialBack env) (fun _ => Cleared id past done) E (fun _ => False) w := by
  simp only [takeCredentialBack, wp_bind, wp_read, wp_ite, wp_pure]
  rcases h with ⟨⟨since, hunder, hnothing⟩, hnone, -⟩ | ⟨capability, x, hne, hholds, rfl, -⟩
  · exact ⟨fun hsome => absurd hnone hsome, fun _ => ⟨since, hunder, .inl hnothing⟩⟩
  · refine ⟨fun _ => ?_, fun hnone => absurd hne hnone⟩
    rw [removeCredential, wp_bind]
    exact wp_perform (fun _ _ => hholds.takenBack alone) fun e he => by cases he

theorem keeps_cleared_perform (alone : Alone env id) {c : UInt64 → UInt64 → SessionCall}
    (hcall : ∀ now nowLocked, c now nowLocked ≠ .finishAuthorized) :
    Keeps (Cleared id past done)
      (perform env fun now nowLocked => .onSession id (c now nowLocked)) :=
  fun _ h => wp_perform (fun _ _ => h.after alone (hcall _ _)) fun _ _ => h.after alone (hcall _ _)

theorem keeps_cleared_finishFailed (alone : Alone env id) (fault : AuthFault) :
    Keeps (Cleared id past done) (finishFailed env id fault) :=
  keeps_catchAll
    (keeps_bind (keeps_cleared_perform alone fun _ _ h => by cases h) fun _ => keeps_pure _)
    fun _ => keeps_pure _

theorem keeps_cleared_snapshotOf (alone : Alone env id) :
    Keeps (Cleared id past done) (snapshotOf env id) :=
  keeps_bind (keeps_cleared_perform alone fun _ _ h => by cases h)
    fun reply => by cases reply <;> first | exact keeps_pure _ | exact keeps_raise _

/-- The handler leaves nothing behind. -/
theorem wp_handler (alone : Alone env id) (owns : w.ownsCompletion = true)
    (h : Won id name past done w ∨
      ∃ capability x, x ≠ [] ∧ Stored id name past done capability x w)
    (failure : CompletionError) :
    wp (completionFailed env id failure) (fun _ => Cleared id past done)
      (fun _ => Cleared id past done) (fun _ => False) w := by
  have hflag : Keeps (Cleared id past done) (isInterrupted env) := by
    rintro w' ⟨since, hunder, hclear⟩
    exact ⟨since, ⟨hunder.history, hunder.commits, hunder.spared, hunder.unauthorized⟩, hclear⟩
  have hfail (fault : AuthFault) : Keeps (Cleared id past done) (finishFailed env id fault) :=
    keeps_cleared_finishFailed alone fault
  have hrest : Keeps (Cleared id past done) (do
      failIfInterrupted env id
      recordAuthCompletionFailure (isInterrupted env) (finishFailed env id) failure) := by
    refine keeps_bind (keeps_bind hflag fun _ => keeps_ite _ (hfail _) (keeps_pure ())) fun _ => ?_
    refine keeps_bind hflag fun _ => keeps_ite _ (keeps_raise _) ?_
    cases failure <;> exact hfail _
  have htotal : Total (do
      failIfInterrupted env id
      recordAuthCompletionFailure (isInterrupted env) (finishFailed env id) failure) := by
    have hread : Total (isInterrupted env) := fun _ => trivial
    refine total_bind (total_bind hread fun _ =>
      total_ite _ (total_finishFailed _) (total_pure ())) fun _ => ?_
    refine total_bind hread fun _ => total_ite _ (total_raise _) ?_
    cases failure <;> exact total_finishFailed _
  simp only [completionFailed, wp_bind (read _), wp_read, owns, if_true]
  rw [wp_bind]
  exact wp_mono (wp_takeBack alone (E := fun _ _ => False) h)
    (fun _ _ hcleared => hrest.total htotal hcleared) (fun _ _ h => h.elim) fun _ h => h

/-! ## All or nothing -/

/-- This program has left nothing behind: it has committed nothing, its calls
keep every unexpired credential that it has not stored itself, and what it has
stored was free before and has been taken back. -/
structure LeavesNothing (done : List (Bytes × Bytes)) (since : History) (w : CompletionWorld) :
    Prop where
  uncommitted : w.commits = done
  spared : ∀ before e after, since = before ++ (.self, e) :: after → ∀ x credential,
    e.before.credentials[x]? = some credential →
    (∀ now, e.input.purgeTime = some now → now < credential.expiresAtMs) →
    (exec e.input e.before).registry.credentials[x]? = some credential ∨
      ∃ e', (.self, e') ∈ before ∧ Stores x e'
  free : ∀ e x, (.self, e) ∈ since → Stores x e → ∀ credential now,
    e.before.credentials[x]? = some credential → e.input.purgeTime = some now →
    credential.expiresAtMs ≤ now
  takenBack : ∀ e x, (.self, e) ∈ since → Stores x e → TakenBack x e since w.registry

/-- A completion of session `id` is all or nothing.  When an event authorizes
the session, the capability was stored as it was exchanged, and its identifier
is committed under the secret name of the session. -/
structure AllOrNothing (env : CompletionEnv) (id : Bytes) (material : AuthCompletionMaterial)
    (done : List (Bytes × Bytes)) (since : History) (w : CompletionWorld) : Prop where
  all : ∀ entry ∈ since, ∀ name, Authorizes id name entry.2 →
    ∃ capability x e, env.exchange material = .ok capability ∧ (.self, e) ∈ since ∧
      StoresCapability capability x e ∧ w.commits = done ++ [(name, x)]
  nothing : (∀ entry ∈ since, ∀ name, ¬ Authorizes id name entry.2) → LeavesNothing done since w

/-- What is cleared is nothing. -/
theorem Cleared.leavesNothing (h : Cleared id past done w) (hsince : w.history = past ++ since) :
    LeavesNothing done since w ∧ Unauthorized id since := by
  obtain ⟨since', hunder, hclear⟩ := h
  obtain rfl : since = since' := List.append_cancel_left (hsince.symm.trans hunder.history)
  refine ⟨⟨hunder.commits, ?_, ?_, ?_⟩, hunder.unauthorized⟩
  · intro before e after hsplit x credential found live
    exact hunder.spared.keeps hsplit found live
  · intro e x he hstores credential now found reading
    obtain ⟨_, _, _, _, nowLocked, _, hcall, -, -, hold⟩ :=
      stores_exec ((hunder.spared.answered he).symm.trans hstores)
    rw [hcall] at reading
    obtain rfl := Option.some.inj reading
    exact hold credential found
  · intro e x he hstores
    rcases hclear with hnothing | ⟨e', y, honce, hstores', hback⟩
    · exact absurd hstores (hnothing e x he)
    · obtain rfl := honce.eq he hstores
      obtain rfl : x = y := by cases hstores.symm.trans hstores'; rfl
      exact hback

/-- What a program that has won the session starts from. -/
theorem won_of_wins {registry : Registry} {secretName : Bytes}
    {material : AuthCompletionMaterial} (wins : Wins env id { registry } secretName material w) :
    Won id material.secretName w.history w.commits w ∧ w.ownsCompletion = true := by
  obtain ⟨-, snapshot, w₁, w₂, hsnapshot, -, -, hbegin, rfl⟩ := wins
  have hstable : Stable env fun w => w.credentialId = [] := fun _ _ h => h
  have hfirst : w₁.credentialId = [] :=
    (wp_iff.mp (@keeps_snapshotOf _ id _ hstable.calm _
      (show CompletionWorld.credentialId { registry, emitted := true } = [] from rfl))).1 _ _
      hsnapshot
  have hsecond : w₂.credentialId = [] :=
    (wp_iff.mp (@keeps_beginCompletion _ id _ hstable.calm _ hfirst)).1 _ _ hbegin
  have hcompleting : CompletingAs id material.secretName w₂.registry := by
    have hwp : wp (beginCompletion env id)
        (fun material w' => CompletingAs id material.secretName w'.registry) (fun _ _ => True)
        (fun _ => False) w₁ := by
      rw [beginCompletion, wp_bind]
      refine wp_perform (fun reply hreply => ?_) fun _ _ => trivial
      cases reply with
      | material material => exact completingAs_of_begun hreply
      | authId | credentialId | snapshot | status | credentials | done => trivial
    exact (wp_iff.mp hwp).1 _ _ hbegin
  exact ⟨⟨⟨[], ⟨(List.append_nil _).symm, rfl, .nil, fun _ h => by simp at h⟩,
    fun _ _ h => by simp at h⟩, hsecond, hcompleting⟩, rfl⟩

/-- What is finished stays so in the calls on the session, except another
`FinishAuthorized`. -/
theorem Finished.after (alone : Alone env id) {secretName : Bytes}
    (h : Finished id name secretName past done capability x w) {c : SessionCall}
    (hcall : c ≠ .finishAuthorized) :
    Finished id name secretName past done capability x (w.after env (.onSession id c)) := by
  obtain ⟨hcommits, before, finish, after, e, hhistory, hbefore, hafter, hauthorizes,
    he, hstores⟩ :=
    h
  refine ⟨hcommits, before, finish, after ++ w.news env (.onSession id c), e, ?_, hbefore,
    hafter.append (unauthorized_news alone fun h => hcall (by cases h; rfl)), hauthorizes, he,
    hstores⟩
  rw [history_after, hhistory]
  simp

theorem keeps_finished_snapshotOf (alone : Alone env id) {secretName : Bytes} :
    Keeps (Finished id name secretName past done capability x) (snapshotOf env id) :=
  keeps_bind
    (fun _ h => wp_perform (fun _ _ => h.after alone fun h => by cases h)
      fun _ _ => h.after alone fun h => by cases h)
    fun reply => by cases reply <;> first | exact keeps_pure _ | exact keeps_raise _

/-- The secret name under which the session was authorized decides whether
everything is there. -/
theorem Finished.allOrNothing_iff {secretName : Bytes} {material : AuthCompletionMaterial}
    (h : Finished id name secretName past done capability x w)
    (exchanged : env.exchange material = .ok capability) (hsince : w.history = past ++ since) :
    AllOrNothing env id material done since w ↔ secretName = name := by
  obtain ⟨hcommits, before, finish, after, e, hhistory, hbefore, hafter, hauthorizes, he,
    hstores⟩ := h
  obtain rfl := List.append_cancel_left (hsince.symm.trans hhistory)
  have hmem : ((.self, finish) : Caller × RegistryEvent)
      ∈ before ++ (.self, finish) :: after := by simp
  constructor
  · intro h
    obtain ⟨_, y, _, -, -, -, hcommitted⟩ := h.all _ hmem name hauthorizes
    have hentry := List.append_cancel_left (hcommits.symm.trans hcommitted)
    exact (Prod.mk.inj (List.singleton_inj.mp hentry)).1
  · rintro rfl
    refine ⟨fun entry hentry n hn => ?_, fun h => absurd hauthorizes (h _ hmem _)⟩
    have hfinish : entry = (.self, finish) := by
      rcases List.mem_append.mp hentry with hentry | hentry
      · exact absurd hn (not_authorizes hbefore hentry)
      · rcases List.mem_cons.mp hentry with heq | hentry
        · exact heq
        · exact absurd hn (not_authorizes hafter hentry)
    subst hfinish
    have hname : n = secretName := by
      obtain ⟨⟨s, found, -, rfl⟩, -⟩ := hn
      obtain ⟨⟨s', found', -, rfl⟩, -⟩ := hauthorizes
      obtain rfl := Option.some.inj (found.symm.trans found')
      rfl
    subst hname
    exact ⟨capability, x, e, exchanged, List.mem_append_left _ he, hstores, hcommits⟩

/-- A program that has won the session and succeeds ends in `Finished`. -/
theorem finished_of_wins {registry : Registry} {secretName : Bytes}
    {material : AuthCompletionMaterial} (alone : Alone env id)
    (wins : Wins env id { registry } secretName material w) {w₁ : CompletionWorld}
    (hrun : completionSteps env id secretName material w = (.ret (), w₁)) :
    ∃ capability x, env.exchange material = .ok capability ∧
      Finished id material.secretName secretName w.history w.commits capability x
        (authCompleteExecute env id { registry }).2 := by
  obtain ⟨capability, x, hexchange, hfinished⟩ :=
    (wp_iff.mp (wp_steps alone (won_of_wins wins).1 secretName material)).1 _ _ hrun
  refine ⟨capability, x, hexchange, wp_final.mp ((wp_of_wins wins).mpr ?_)⟩
  rw [wp_bind, wp_catchAll, wp_of_ret hrun]
  exact wp_bind_of_keeps (keeps_finished_snapshotOf alone) total_snapshotOf hfinished
    (fun _ _ h => h) fun _ _ h => h

/-- What was added to a list is what is left of it without the old entries. -/
theorem eq_append_drop {α : Type} {before since after : List α} (h : after = before ++ since) :
    after = before ++ after.drop before.length := by
  rw [h, List.drop_left]

/-- A completion that succeeds leaves all behind if it has used the secret name
of the session that it won. -/
theorem allOrNothing_iff_of_returns {registry : Registry} {secretName : Bytes}
    {material : AuthCompletionMaterial} (alone : Alone env id)
    (wins : Wins env id { registry } secretName material w) {w₁ : CompletionWorld}
    (hrun : completionSteps env id secretName material w = (.ret (), w₁)) :
    AllOrNothing env id material w.commits
        ((authCompleteExecute env id { registry }).2.history.drop w.history.length)
        (authCompleteExecute env id { registry }).2 ↔
      secretName = material.secretName := by
  obtain ⟨capability, x, hexchange, hend⟩ := finished_of_wins alone wins hrun
  have hhistory : ∃ since, (authCompleteExecute env id { registry }).2.history
      = w.history ++ since := by
    obtain ⟨-, _, _, _, _, h, -⟩ := hend
    exact ⟨_, h⟩
  obtain ⟨since, hsince⟩ := hhistory
  exact hend.allOrNothing_iff hexchange (eq_append_drop hsince)

/-- A completion that has won the session leaves all or nothing behind, unless
it succeeds and the session that `Snapshot` saw had another secret name. -/
theorem completion_all_or_nothing_iff (env : CompletionEnv) (id : Bytes) (registry : Registry)
    (secretName : Bytes) (material : AuthCompletionMaterial) (w : CompletionWorld)
    (alone : Alone env id) (wins : Wins env id { registry } secretName material w) :
    AllOrNothing env id material w.commits
        ((authCompleteExecute env id { registry }).2.history.drop w.history.length)
        (authCompleteExecute env id { registry }).2 ↔
      secretName = material.secretName ∨ StepThrows env id secretName material w := by
  obtain ⟨hwon, howns⟩ := won_of_wins wins
  have hsteps := wp_and (wp_steps alone hwon secretName material)
    (@owns_completionSteps env id secretName material w howns)
  obtain ⟨hret, hraise, hcut⟩ := wp_iff.mp hsteps
  rcases hrun : completionSteps env id secretName material w with ⟨outcome, w₁⟩
  cases outcome with
  | ret value =>
      have hsucceeds : ¬ StepThrows env id secretName material w := fun ⟨e, w', hthrow⟩ => by
        cases hrun.symm.trans hthrow
      rw [allOrNothing_iff_of_returns alone wins hrun, or_iff_left hsucceeds]
  | raise e =>
      have hphase := (hraise _ _ hrun).1
      have howns₁ := (hraise _ _ hrun).2
      have hend : Cleared id w.history w.commits (authCompleteExecute env id { registry }).2 := by
        refine wp_final.mp ((wp_of_wins wins).mpr ?_)
        rw [wp_bind, wp_catchAll, wp_of_raise hrun]
        refine wp_mono (wp_handler alone howns₁ hphase e) (fun _ w₂ hcleared => ?_) (fun _ _ h => h)
          fun _ h => h.elim
        exact wp_bind_of_keeps (keeps_cleared_snapshotOf alone) total_snapshotOf hcleared
          (fun _ _ h => h) fun _ _ h => h
      have hgrown : ∃ since, (authCompleteExecute env id { registry }).2.history
          = w.history ++ since := hend.imp fun _ h => h.1.history
      obtain ⟨since, hsince⟩ := hgrown
      obtain ⟨hnothing, hunauthorized⟩ := hend.leavesNothing (eq_append_drop hsince)
      refine iff_of_true ⟨fun entry hentry name hauth => ?_, fun _ => hnothing⟩
        (.inr ⟨e, w₁, hrun⟩)
      exact absurd hauth (not_authorizes hunauthorized hentry)
  | cut => exact (hcut _ hrun).1.elim

theorem completion_all_or_nothing_quiet : ∃ material w,
    Wins quietEnv loginId { registry := answeredLogin.registry } [] material w ∧
      (AllOrNothing quietEnv loginId material w.commits
          ((authCompleteExecute quietEnv loginId
            { registry := answeredLogin.registry }).2.history.drop w.history.length)
          (authCompleteExecute quietEnv loginId { registry := answeredLogin.registry }).2 ↔
        [] = material.secretName ∨ StepThrows quietEnv loginId [] material w) := by
  have wins : Wins quietEnv loginId { registry := answeredLogin.registry } [] _ _ :=
    ⟨rfl, _, _, _, rfl, rfl, rfl, rfl, rfl⟩
  exact ⟨_, _, wins, completion_all_or_nothing_iff quietEnv loginId _ _ _ _
    (fun _ _ h => by cases h) wins⟩

/-- A login for this secret, until reading 100. -/
def namedRequest (secretName : Bytes) : AuthStartRequest :=
  { loginRequest with secretName }

/-- The identifier that sixteen equal bytes give. -/
def idOf (byte : UInt8) : Bytes := generateOpaqueId (Vector.replicate 16 byte)

/-- The login `first` is cancelled and evicted by later ones, the last of which
draws its identifier again for the secret `second`. -/
def replacedLogin : List Call :=
  [.onSession loginId .cancel]
  ++ (List.range 31).flatMap (fun n => [
    .create loginRequest 25 fun _ => some (Vector.replicate 16 (UInt8.ofNat (n + 1))),
    .onSession (idOf (UInt8.ofNat (n + 1))) .cancel])
  ++ [.create (namedRequest (ascii "second")) 25 fun _ => some (Vector.replicate 16 0),
    .onSession loginId (.receiveCallback (ascii "state") (ascii "code") 25)]

/-- The login is replaced between the `Snapshot` and the `BeginCompletion`. -/
def replacedEnv : CompletionEnv :=
  { quietEnv with
    others := fun n => if n = 1 then replacedLogin else []
    fill := fun _ => some (Vector.replicate 16 200) }

/-- The registry with the answered login for the secret `first`. -/
def firstLogin : Registry := registryMachine.run {} [
  .create (namedRequest (ascii "first")) 10 fun _ => some (Vector.replicate 16 0),
  .onSession loginId (.receiveCallback (ascii "state") (ascii "code") 20)]

/-- What `BeginCompletion` hands out. -/
def secondMaterial : AuthCompletionMaterial :=
  ⟨ascii "code", ascii "verifier", [], [], ascii "second"⟩

/-- The world after the `Snapshot`, and the one in which the session is won. -/
def seenLogin : CompletionWorld :=
  (snapshotOf replacedEnv loginId { registry := firstLogin, emitted := true }).2

def wonLogin : CompletionWorld :=
  { (beginCompletion replacedEnv loginId seenLogin).2 with ownsCompletion := true }

private theorem replaced_wins :
    Wins replacedEnv loginId { registry := firstLogin }
      (ascii "first") secondMaterial wonLogin := by
  have hsnapshot : snapshotOf replacedEnv loginId { registry := firstLogin, emitted := true }
      = (.ret ⟨.callbackReceived, ascii "first", 0, none⟩, seenLogin) :=
    run_eq_of_fst (by decide +kernel)
  have hbegin : beginCompletion replacedEnv loginId seenLogin
      = (.ret secondMaterial, (beginCompletion replacedEnv loginId seenLogin).2) :=
    run_eq_of_fst (by decide +kernel)
  exact ⟨rfl, _, seenLogin, _, hsnapshot, rfl, rfl, hbegin, rfl⟩

private theorem replaced_succeeds :
    (completionSteps replacedEnv loginId (ascii "first") secondMaterial wonLogin).1 = .ret () := by
  decide +kernel

private theorem replaced_alone : Alone replacedEnv loginId := by
  -- No call of the others has the shape of a finisher, whatever its identifier.
  have harmless (x : Bytes) (c : SessionCall) (hc : c ≠ .finishAuthorized)
      (hc' : ∀ fault, c ≠ .finishFailed fault) : ¬ (Call.onSession x c).Finishes loginId := by
    rintro (h | ⟨fault, h⟩)
    · exact hc (Call.onSession.inj h).2
    · exact hc' fault (Call.onSession.inj h).2
  have create (request : AuthStartRequest) (now : UInt64) (fill : Nat → Entropy) :
      ¬ (Call.create request now fill).Finishes loginId := by
    rintro (h | ⟨fault, h⟩) <;> cases h
  intro n call hcall
  simp only [replacedEnv] at hcall
  split at hcall
  · simp only [replacedLogin, List.mem_append, List.mem_flatMap, List.mem_cons,
      List.not_mem_nil, or_false] at hcall
    rcases hcall with (rfl | ⟨m, -, rfl | rfl⟩) | rfl | rfl
    · exact harmless _ _ (fun h => by cases h) fun _ h => by cases h
    · exact create _ _ _
    · exact harmless _ _ (fun h => by cases h) fun _ h => by cases h
    · exact create _ _ _
    · exact harmless _ _ (fun h => by cases h) fun _ h => by cases h
  · simp at hcall

/-- The completion authorizes the login for `second` and commits its credential
under `first`. -/
theorem completion_under_other_name :
    (authCompleteExecute replacedEnv loginId { registry := firstLogin }).2.commits
        = [(ascii "first", idOf 200)] ∧
      ((authCompleteExecute replacedEnv loginId
          { registry := firstLogin }).2.registry.sessions[loginId]?.map fun s =>
            (s.status, s.secretName)) = some (.authorized, ascii "second") ∧
      Wins replacedEnv loginId { registry := firstLogin } (ascii "first") secondMaterial wonLogin ∧
      ¬ AllOrNothing replacedEnv loginId secondMaterial wonLogin.commits
        ((authCompleteExecute replacedEnv loginId
          { registry := firstLogin }).2.history.drop wonLogin.history.length)
        (authCompleteExecute replacedEnv loginId { registry := firstLogin }).2 := by
  have hend : ((authCompleteExecute replacedEnv loginId { registry := firstLogin }).2.commits,
      (authCompleteExecute replacedEnv loginId
        { registry := firstLogin }).2.registry.sessions[loginId]?.map fun s =>
          (s.status, s.secretName))
      = ([(ascii "first", idOf 200)], some (.authorized, ascii "second")) := by decide +kernel
  obtain ⟨hcommits, hsession⟩ := Prod.mk.inj hend
  refine ⟨hcommits, hsession, replaced_wins, fun h => ?_⟩
  have hnames := (allOrNothing_iff_of_returns replaced_alone replaced_wins
    (run_eq_of_fst replaced_succeeds)).mp h
  exact absurd hnames (by decide)

end Data360
