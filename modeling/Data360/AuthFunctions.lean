import Data360.AuthSessionRegistry.Completion
import Data360.Lib.Prog

/-!
# Completing a login

`AuthCompleteExecute` of `src/auth_functions.cpp`, with the installation of
the secret from `src/session_credentials.cpp`.

The program runs on the shared registry while other callers use it:
`CompletionEnv.others` are their calls before each call of this one, and
`perform` is one call in that company.  The token exchange, the catalog and
the interruption flag answer as the environment says.

* `wp_perform` is the specification of one call, and `InFlight`, `Settled` are
  the two phases it moves between.
* `wp_completionSteps` and `wp_completionFailed` are the specifications of the
  `try` block and of its handler.
* `completion_settles_iff` says when a won completion leaves the session
  authorized or failed.
* `completion_exclusive` says that the completion which won the session is the
  only one to decide it.
-/

namespace Data360

open Lib Lib.ByteString Lib.Prog

/-! ## Errors and rows -/

/-- What travels up `AuthCompleteExecute`: an `AuthFaultException`, DuckDB's
`InterruptException`, or anything else. -/
inductive CompletionError where
  | fault (fault : AuthFault)
  | interrupt
  | other
  deriving DecidableEq, Repr

/-- An `AuthSessionError` is an `AuthFaultException`. -/
def CompletionError.ofRegistry : RegistryError → CompletionError
  | .fault f => .fault f
  | .entropy => .other

/-- `Data360Capability`. -/
structure Data360Capability where
  tenantUrl : Bytes
  accessToken : Bytes
  expiresAtMonotonicMs : UInt64

/-- `AuthStatusRow`. -/
structure AuthStatusRow where
  authId : Bytes
  status : String
  expiresAtUtcMicros : Int64
  errorCode : String := ""
  message : String := ""

/-- `ProjectAuthStatus`. -/
def projectAuthStatus (authId : Bytes) (snapshot : AuthSessionSnapshot) : AuthStatusRow :=
  let row : AuthStatusRow := {
    authId, status := authStatusName snapshot.status
    expiresAtUtcMicros := snapshot.expiresAtUtcMicros }
  match snapshot.fault with
  | none => row
  | some fault =>
      { row with errorCode := (getSafeFault fault).code, message := (getSafeFault fault).message }

/-- The row that `AuthCompleteExecute` emits; `none` is a NULL. -/
structure AuthCompleteRow where
  status : String
  secretName : Option Bytes
  expiresAtUtcMicros : Int64
  errorCode : Option String
  message : Option String
  deriving DecidableEq

def emitComplete (authId : Bytes) (snapshot : AuthSessionSnapshot) : AuthCompleteRow :=
  let row := projectAuthStatus authId snapshot
  { status := row.status
    secretName := if snapshot.secretName = [] then none else some snapshot.secretName
    expiresAtUtcMicros := snapshot.expiresAtUtcMicros
    errorCode := if row.errorCode = "" then none else some row.errorCode
    message := if row.message = "" then none else some row.message }

/-! ## The program and its company -/

/-- What `AuthCompleteExecute` meets. -/
structure CompletionEnv where
  /-- The calls of other callers before the `n`-th call of this one. -/
  others : Nat → List Call
  /-- The clock reading of the `n`-th call, and the second one if it takes
  two. -/
  now : Nat → UInt64
  nowLocked : Nat → UInt64
  fill : Nat → Entropy
  /-- `SalesforceOAuthProvider::Exchange`. -/
  exchange : AuthCompletionMaterial → Except CompletionError Data360Capability
  /-- The `session_id` of the temporary secret of this name, empty if there is
  none; or what the lookup throws. -/
  lookupSecret : Bytes → Except CompletionError Bytes
  /-- What `RegisterSecret` and `Commit` throw. -/
  replaceSecret : Option CompletionError
  /-- The value of `context.IsInterrupted()` at its `n`-th reading. -/
  interrupted : Nat → Bool

/-- Who made a call on the registry: this program, or another caller. -/
inductive Caller where
  | self
  | other
  deriving DecidableEq, Repr

/-- The registry, the locals of `AuthCompleteExecute`, and what has happened. -/
structure CompletionWorld where
  registry : Registry
  emitted : Bool := false
  credentialId : Bytes := []
  ownsCompletion : Bool := false
  /-- The number of its own calls, and of its readings of the flag. -/
  turn : Nat := 0
  reads : Nat := 0
  /-- Its own calls. -/
  calls : List Call := []
  /-- Every call on the registry. -/
  events : List RegistryEvent := []
  /-- The same with the callers. -/
  history : List (Caller × RegistryEvent) := []
  /-- The entries that it has committed to the catalog: a secret name and the
  `session_id` of the secret. -/
  commits : List (Bytes × Bytes) := []

/-- The registry when the next call of this program takes the mutex. -/
def CompletionWorld.met (w : CompletionWorld) (env : CompletionEnv) : Registry :=
  registryMachine.run w.registry (env.others w.turn)

/-- The world after the next call. -/
def CompletionWorld.after (w : CompletionWorld) (env : CompletionEnv) (call : Call) :
    CompletionWorld :=
  { w with
    registry := (exec call (w.met env)).registry
    turn := w.turn + 1
    calls := w.calls ++ [call]
    events := w.events ++ (registryMachine.trace w.registry (env.others w.turn)
      ++ [registryMachine.event (w.met env) call])
    history := w.history ++ ((registryMachine.trace w.registry (env.others w.turn)).map
      (Prod.mk Caller.other) ++ [(.self, registryMachine.event (w.met env) call)]) }

/-- A program on the shared registry. -/
abbrev Completion := Prog CompletionWorld CompletionError

variable (env : CompletionEnv)

/-- One call on the registry, among those of the others. -/
def perform (call : UInt64 → UInt64 → Call) : Completion Reply := fun w =>
  let call := call (env.now w.turn) (env.nowLocked w.turn)
  match (exec call (w.met env)).outcome with
  | .ok reply => (.ret reply, w.after env call)
  | .error e => (.raise (.ofRegistry e), w.after env call)

/-- Pass on what something outside the registry answers. -/
def answer {α : Type} : Except CompletionError α → Completion α
  | .ok a => pure a
  | .error e => raise e

/-- `context.IsInterrupted()`. -/
def isInterrupted : Completion Bool := fun w =>
  (.ret (env.interrupted w.reads), { w with reads := w.reads + 1 })

/-- `registry.Snapshot(id)`. -/
def snapshotOf (id : Bytes) : Completion AuthSessionSnapshot := do
  match ← perform env fun now _ => .onSession id (.snapshot now) with
  | .snapshot snapshot => pure snapshot
  | _ => raise .other

/-- `registry.BeginCompletion(id)`. -/
def beginCompletion (id : Bytes) : Completion AuthCompletionMaterial := do
  match ← perform env fun now _ => .onSession id (.beginCompletion now) with
  | .material material => pure material
  | _ => raise .other

/-- `registry.StoreCredential(...)`. -/
def storeCredential (capability : Data360Capability) : Completion Bytes := do
  match ← perform env fun now nowLocked =>
      .storeCredential capability.tenantUrl capability.accessToken
        capability.expiresAtMonotonicMs now nowLocked env.fill with
  | .credentialId id => pure id
  | _ => raise .other

/-- `registry.RemoveCredential(id)`. -/
def removeCredential (id : Bytes) : Completion Unit := do
  let _ ← perform env fun _ _ => .removeCredential id

/-- The transaction of `InstallTemporarySessionSecret`: it answers the
credential that it displaced.  A commit that does not throw installs the entry.
A throw takes the new credential back, unless the lookup had found that very
one. -/
def replaceCatalogSecret (secretName credentialId : Bytes) : Completion Bytes := do
  let oldCredentialId ← onRaise (answer (env.lookupSecret secretName))
    (if credentialId ≠ [] then removeCredential env credentialId else pure ())
  onRaise
    (do
      let oldCredentialId ← answer (match env.replaceSecret with
        | none => .ok oldCredentialId
        | some e => .error e)
      update fun w => { w with commits := w.commits ++ [(secretName, credentialId)] }
      pure oldCredentialId)
    (if credentialId ≠ oldCredentialId then removeCredential env credentialId else pure ())

/-- `InstallTemporarySessionSecret`. -/
def installTemporarySessionSecret (secretName credentialId : Bytes) : Completion Unit := do
  let oldCredentialId ← replaceCatalogSecret env secretName credentialId
  if oldCredentialId ≠ [] ∧ oldCredentialId ≠ credentialId then
    removeCredential env oldCredentialId
  else pure ()

/-- The `try` block of `AuthCompleteExecute` once it owns the completion. -/
def completionSteps (id secretName : Bytes) (material : AuthCompletionMaterial) :
    Completion Unit := do
  let capability ← answer (env.exchange material)
  let credentialId ← storeCredential env capability
  update fun w => { w with credentialId }
  installTemporarySessionSecret env secretName credentialId
  let _ ← perform env fun _ _ => .onSession id .finishAuthorized

/-- `RecordAuthCompletionFailure`. -/
def recordAuthCompletionFailure (isInterrupted : Completion Bool)
    (record : AuthFault → Completion Unit) (failure : CompletionError) : Completion Unit := do
  if ← isInterrupted then raise .interrupt
  else
    match failure with
    | .fault f => record f
    | _ => record .tokenExchangeFailed

/-- `try { registry.FinishFailed(id, fault); } catch (...) {}` -/
def finishFailed (id : Bytes) (fault : AuthFault) : Completion Unit :=
  catchAll (do let _ ← perform env fun _ _ => .onSession id (.finishFailed fault))
    fun _ => pure ()

/-- `if (!credential_id.empty()) registry.RemoveCredential(credential_id);` -/
def takeCredentialBack : Completion Unit := do
  let credentialId ← read (·.credentialId)
  if credentialId ≠ [] then removeCredential env credentialId else pure ()

/-- `if (context.IsInterrupted())` finish the session as failed. -/
def failIfInterrupted (id : Bytes) : Completion Unit := do
  if ← isInterrupted env then finishFailed env id .tokenExchangeFailed else pure ()

/-- The handler of `AuthCompleteExecute`.  It reads the flag, and
`RecordAuthCompletionFailure` reads it again. -/
def completionFailed (id : Bytes) (failure : CompletionError) : Completion Unit := do
  if ← read (·.ownsCompletion) then
    takeCredentialBack env
    failIfInterrupted env id
    recordAuthCompletionFailure (isInterrupted env) (finishFailed env id) failure
  else pure ()

/-- `AuthCompleteExecute`. -/
def authCompleteExecute (id : Bytes) : Completion (Option AuthCompleteRow) := do
  if ← read (·.emitted) then pure none
  else
    update fun w => { w with emitted := true }
    let snapshot ← snapshotOf env id
    if snapshot.status = .callbackReceived then
      catchAll
        (do
          let material ← beginCompletion env id
          update fun w => { w with ownsCompletion := true }
          completionSteps env id snapshot.secretName material)
        (completionFailed env id)
      let snapshot ← snapshotOf env id
      pure (some (emitComplete id snapshot))
    else pure (some (emitComplete id snapshot))

/-! ## The phases of a won completion -/

section Phases

variable {env} {id : Bytes} {past : List RegistryEvent} {reads : Nat} {w : CompletionWorld}

/-- This program owns the session, which is completing and has been since the
events `past`; the flag has been read `reads` times. -/
def InFlight (id : Bytes) (past : List RegistryEvent) (reads : Nat) (w : CompletionWorld) :
    Prop :=
  Completing id w.registry ∧ w.ownsCompletion = true ∧ w.reads = reads ∧
    ∃ since, w.events = past ++ since ∧ ∀ e ∈ since, Completing id e.before

/-- The session is authorized or failed, or was when a `Create` took it out,
after the events `past`. -/
def Settled (id : Bytes) (past : List RegistryEvent) (w : CompletionWorld) : Prop :=
  ∃ since, w.events = past ++ since ∧
    (Decided id w.registry ∨ ∃ e ∈ since, Decided id e.before ∧ Replaces id e)

/-- No other caller finishes the completion of `id`: only a completion that has
won a session finishes it (`loser_finishes_nothing`), and only one wins
(`begins_once`). -/
def Alone (env : CompletionEnv) (id : Bytes) : Prop :=
  ∀ n, ∀ call ∈ env.others n, ¬ call.Finishes id

/-- A completing session cannot also be decided. -/
theorem not_settled_of_inFlight (h : InFlight id past reads w) : ¬ Settled id past w := by
  obtain ⟨⟨s, hs, hcompleting⟩, -, -, since, hevents, hbefore⟩ := h
  have absurd_of {registry : Registry} (hc : Completing id registry)
      (hd : Decided id registry) : False := by
    obtain ⟨t, ht, ht'⟩ := hc
    obtain ⟨u, hu, hu'⟩ := hd
    obtain rfl := Option.some.inj (ht.symm.trans hu)
    rcases hu' with hu' | hu' <;> rw [ht'] at hu' <;> cases hu'
  rintro ⟨since', hevents', hdecided | ⟨e, he, hdecided, -⟩⟩
  · exact absurd_of ⟨s, hs, hcompleting⟩ hdecided
  · obtain rfl := List.append_cancel_left (hevents.symm.trans hevents')
    exact absurd_of (hbefore e he) hdecided

/-- A call that finishes nothing leaves the session in flight. -/
theorem inFlight_after (alone : Alone env id) (h : InFlight id past reads w) {call : Call}
    (hcall : ¬ call.Finishes id) : InFlight id past reads (w.after env call) := by
  obtain ⟨hcompleting, howns, hreads, since, hevents, hbefore⟩ := h
  obtain ⟨hmet, htrace⟩ := completing_run (env.others w.turn) hcompleting (alone w.turn)
  have hone := completing_run [call] hmet (by simpa using hcall)
  refine ⟨hone.1, howns, hreads, since ++ (registryMachine.trace w.registry (env.others w.turn)
    ++ [registryMachine.event (w.met env) call]), ?_, ?_⟩
  · rw [CompletionWorld.after, hevents, List.append_assoc]
  · intro e he
    rcases List.mem_append.mp he with he | he
    · exact hbefore e he
    rcases List.mem_append.mp he with he | he
    · exact htrace e he
    · rw [List.mem_singleton.mp he]
      exact hmet

/-- A call that finishes the session in flight succeeds and settles it. -/
theorem settled_after_finish (alone : Alone env id) (h : InFlight id past reads w) (call : Call)
    (hcall : call.Finishes id) :
    (exec call (w.met env)).outcome = .ok .done ∧ Settled id past (w.after env call) := by
  obtain ⟨hcompleting, -, -, since, hevents, -⟩ := h
  obtain ⟨hmet, -⟩ := completing_run (env.others w.turn) hcompleting (alone w.turn)
  obtain ⟨houtcome, hdecided⟩ := finish_exec hmet hcall
  refine ⟨houtcome, since ++ (registryMachine.trace w.registry (env.others w.turn)
    ++ [registryMachine.event (w.met env) call]), ?_, .inl hdecided⟩
  rw [CompletionWorld.after, hevents, List.append_assoc]

/-- A settled session stays settled, whatever is called. -/
theorem settled_after (h : Settled id past w) (call : Call) :
    Settled id past (w.after env call) := by
  obtain ⟨since, hevents, hsettled⟩ := h
  refine ⟨since ++ (registryMachine.trace w.registry (env.others w.turn)
    ++ [registryMachine.event (w.met env) call]), ?_, ?_⟩
  · rw [CompletionWorld.after, hevents, List.append_assoc]
  rcases hsettled with hdecided | ⟨e, he, hout⟩
  · have hrun := decided_run (env.others w.turn ++ [call]) hdecided
    rw [registryMachine.run_append, registryMachine.trace_append] at hrun
    rcases hrun with hrun | ⟨e, he, hout⟩
    · exact .inl hrun
    · exact .inr ⟨e, List.mem_append_right _ he, hout⟩
  · exact .inr ⟨e, List.mem_append_left _ he, hout⟩

/-! ## Specifications -/

theorem wp_perform {Q : Reply → CompletionWorld → Prop}
    {E : CompletionError → CompletionWorld → Prop} {C : CompletionWorld → Prop}
    {call : UInt64 → UInt64 → Call}
    (hok : ∀ reply, (exec (call (env.now w.turn) (env.nowLocked w.turn)) (w.met env)).outcome
      = .ok reply → Q reply (w.after env (call (env.now w.turn) (env.nowLocked w.turn))))
    (herror : ∀ e, (exec (call (env.now w.turn) (env.nowLocked w.turn)) (w.met env)).outcome
      = .error e →
        E (.ofRegistry e) (w.after env (call (env.now w.turn) (env.nowLocked w.turn)))) :
    wp (perform env call) Q E C w := by
  unfold wp perform
  dsimp only
  cases houtcome : (exec (call (env.now w.turn) (env.nowLocked w.turn)) (w.met env)).outcome with
  | ok reply => exact hok reply houtcome
  | error e => exact herror e houtcome

theorem wp_answer {α : Type} {Q : α → CompletionWorld → Prop}
    {E : CompletionError → CompletionWorld → Prop} {C : CompletionWorld → Prop}
    {outcome : Except CompletionError α}
    (hok : ∀ a, Q a w) (herror : ∀ e, E e w) : wp (answer outcome) Q E C w := by
  cases outcome with
  | ok a => exact hok a
  | error e => exact herror e

@[simp] theorem wp_isInterrupted {Q : Bool → CompletionWorld → Prop}
    {E : CompletionError → CompletionWorld → Prop} {C : CompletionWorld → Prop} :
    wp (isInterrupted env) Q E C w ↔
      Q (env.interrupted w.reads) { w with reads := w.reads + 1 } := Iff.rfl

/-- `I` survives every call of this program that finishes nothing, with what
the others call before it. -/
def Calm (env : CompletionEnv) (id : Bytes) (I : CompletionWorld → Prop) : Prop :=
  ∀ w call, ¬ call.Finishes id → I w → I (w.after env call)

/-- `I` survives every call. -/
def Stable (env : CompletionEnv) (I : CompletionWorld → Prop) : Prop :=
  ∀ w call, I w → I (w.after env call)

theorem calm_inFlight (alone : Alone env id) : Calm env id (InFlight id past reads) :=
  fun _ _ hcall h => inFlight_after alone h hcall

theorem stable_settled : Stable env (Settled id past) :=
  fun _ call h => settled_after h call

variable {I : CompletionWorld → Prop}

theorem Stable.calm (stable : Stable env I) : Calm env id I := fun w call _ => stable w call

theorem keeps_perform_of_calm (calm : Calm env id I) {call : UInt64 → UInt64 → Call}
    (hcall : ∀ now nowLocked, ¬ (call now nowLocked).Finishes id) : Keeps I (perform env call) :=
  fun _ h => wp_perform (fun _ _ => calm _ _ (hcall _ _) h) (fun _ _ => calm _ _ (hcall _ _) h)

theorem keeps_perform_of_stable (stable : Stable env I) (call : UInt64 → UInt64 → Call) :
    Keeps I (perform env call) :=
  fun _ h => wp_perform (fun _ _ => stable _ _ h) (fun _ _ => stable _ _ h)

theorem keeps_answer {α : Type} (outcome : Except CompletionError α) : Keeps I (answer outcome) :=
  fun _ h => wp_answer (fun _ => h) (fun _ => h)

theorem total_perform (call : UInt64 → UInt64 → Call) : Total (perform env call) := fun _ =>
  wp_perform (fun _ _ => trivial) fun _ _ => trivial

theorem total_answer {α : Type} (outcome : Except CompletionError α) : Total (answer outcome) :=
  fun _ => wp_answer (fun _ => trivial) fun _ => trivial

theorem total_removeCredential (credentialId : Bytes) :
    Total (removeCredential env credentialId) :=
  total_bind (total_perform _) fun _ => total_pure _

theorem keeps_removeCredential (calm : Calm env id I) (credentialId : Bytes) :
    Keeps I (removeCredential env credentialId) :=
  keeps_bind (keeps_perform_of_calm calm fun _ _ h => by rcases h with h | ⟨_, h⟩ <;> cases h)
    fun _ => keeps_pure _

theorem keeps_storeCredential (calm : Calm env id I) (capability : Data360Capability) :
    Keeps I (storeCredential env capability) :=
  keeps_bind (keeps_perform_of_calm calm fun _ _ h => by rcases h with h | ⟨_, h⟩ <;> cases h)
    fun reply => by cases reply <;> first | exact keeps_pure _ | exact keeps_raise _

theorem total_storeCredential (capability : Data360Capability) :
    Total (storeCredential env capability) :=
  total_bind (total_perform _)
    fun reply => by cases reply <;> first | exact total_pure _ | exact total_raise _

/-- The installation of the secret touches the credentials and the catalog
only. -/
theorem keeps_install (calm : Calm env id I)
    (commit : ∀ w commits, I w → I { w with commits }) (secretName credentialId : Bytes) :
    Keeps I (installTemporarySessionSecret env secretName credentialId) := by
  have hremove (c : Bytes) (condition : Prop) [Decidable condition] :
      Keeps I (if condition then removeCredential env c else pure ()) :=
    keeps_ite condition (keeps_removeCredential calm c) (keeps_pure ())
  have hreplace (outcome : Except CompletionError Bytes) (c : Bytes) (condition : Prop)
      [Decidable condition] :
      Keeps I (onRaise
        (do
          let oldCredentialId ← answer outcome
          update fun w => { w with commits := w.commits ++ [(secretName, credentialId)] }
          pure oldCredentialId)
        (if condition then removeCredential env c else pure ())) :=
    keeps_onRaise
      (keeps_bind (keeps_answer _) fun _ =>
        keeps_bind (keeps_update fun w h => commit w _ h) fun _ => keeps_pure _)
      (hremove _ _)
  exact keeps_bind
    (keeps_bind (keeps_onRaise (keeps_answer _) (hremove _ _)) fun _ => hreplace _ _ _)
    fun _ => hremove _ _

theorem total_install (secretName credentialId : Bytes) :
    Total (installTemporarySessionSecret env secretName credentialId) := by
  have hremove (c : Bytes) (condition : Prop) [Decidable condition] :
      Total (if condition then removeCredential env c else pure ()) :=
    total_ite condition (total_removeCredential c) (total_pure ())
  exact total_bind
    (total_bind (total_onRaise (total_answer _) (hremove _ _)) fun _ =>
      total_onRaise
        (total_bind (total_answer _) fun _ =>
          total_bind (total_update _) fun _ => total_pure _)
        (hremove _ _))
    fun _ => hremove _ _

/-- The `try` block settles the session, or throws with the session in
flight. -/
theorem wp_completionSteps (alone : Alone env id) (h : InFlight id past reads w)
    (secretName : Bytes) (material : AuthCompletionMaterial) :
    wp (completionSteps env id secretName material) (fun _ => Settled id past)
      (fun _ => InFlight id past reads) (fun _ => False) w := by
  rw [completionSteps, wp_bind]
  refine wp_answer (fun capability => ?_) fun _ => h
  refine wp_bind_of_keeps (keeps_storeCredential (calm_inFlight alone) capability)
    (total_storeCredential _) h
    (fun credentialId w₁ h₁ => ?_) fun _ _ h => h
  rw [wp_bind, wp_update]
  refine wp_bind_of_keeps
    (keeps_install (calm_inFlight alone) (fun _ _ h => h) secretName credentialId)
    (total_install _ _) h₁ (fun _ w₂ h₂ => ?_) fun _ _ h => h
  have hfinish := settled_after_finish alone h₂ (.onSession id .finishAuthorized) (.inl rfl)
  rw [wp_bind]
  refine wp_perform (fun _ _ => hfinish.2) fun e he => ?_
  rw [hfinish.1] at he
  cases he

/-- `FinishFailed` on a session in flight settles it. -/
theorem wp_finishFailed (alone : Alone env id) (h : InFlight id past reads w)
    (fault : AuthFault) {E : CompletionError → CompletionWorld → Prop} :
    wp (finishFailed env id fault) (fun _ => Settled id past) E (fun _ => False) w := by
  simp only [finishFailed, wp_catchAll, wp_bind]
  have hfinish := settled_after_finish alone h (.onSession id (.finishFailed fault))
    (.inr ⟨fault, rfl⟩)
  refine wp_perform (fun _ _ => hfinish.2) fun e he => ?_
  rw [hfinish.1] at he
  cases he

theorem keeps_finishFailed (stable : Stable env I) (fault : AuthFault) :
    Keeps I (finishFailed env id fault) :=
  keeps_catchAll (keeps_bind (keeps_perform_of_stable stable _) fun _ => keeps_pure _)
    fun _ => keeps_pure _

theorem total_finishFailed (fault : AuthFault) : Total (finishFailed env id fault) :=
  total_catchAll (total_bind (total_perform _) fun _ => total_pure _) fun _ => total_pure _

/-- Taking the credential back does not throw. -/
theorem wp_takeCredentialBack (alone : Alone env id) (h : InFlight id past reads w)
    {E : CompletionError → CompletionWorld → Prop} :
    wp (takeCredentialBack env) (fun _ => InFlight id past reads) E (fun _ => False) w := by
  simp only [takeCredentialBack, wp_bind, wp_read, wp_ite, wp_pure, removeCredential]
  refine ⟨fun _ => wp_perform (fun _ _ => ?_) fun e he => ?_, fun _ => h⟩
  · exact inFlight_after alone h fun hf => by rcases hf with hf | ⟨_, hf⟩ <;> cases hf
  · cases he

/-- `RecordAuthCompletionFailure` calls `FinishFailed`, whatever the failure
is, when it finds the flag down. -/
theorem wp_recordAuthCompletionFailure {Q : Unit → CompletionWorld → Prop}
    {E : CompletionError → CompletionWorld → Prop} {C : CompletionWorld → Prop}
    (failure : CompletionError)
    (hup : env.interrupted w.reads = true → E .interrupt { w with reads := w.reads + 1 })
    (hdown : env.interrupted w.reads = false → ∀ fault,
      wp (finishFailed env id fault) Q E C { w with reads := w.reads + 1 }) :
    wp (recordAuthCompletionFailure (isInterrupted env) (finishFailed env id) failure) Q E C w := by
  simp only [recordAuthCompletionFailure, wp_bind, wp_isInterrupted, wp_ite, wp_raise]
  refine ⟨hup, fun hflag => ?_⟩
  have hflag : env.interrupted w.reads = false := by simpa using hflag
  cases failure with
  | fault fault => exact hdown hflag fault
  | interrupt => exact hdown hflag _
  | other => exact hdown hflag _

/-- The handler of a completion that owns the session settles it, unless the
flag is raised between its two readings. -/
theorem wp_completionFailed (alone : Alone env id) (h : InFlight id past reads w)
    (failure : CompletionError) :
    let left (w' : CompletionWorld) : Prop :=
      if env.interrupted reads = false ∧ env.interrupted (reads + 1) = true
      then InFlight id past (reads + 2) w' else Settled id past w'
    wp (completionFailed env id failure) (fun _ => left) (fun _ => left) (fun _ => False) w := by
  intro left
  simp only [completionFailed, wp_bind, wp_read, h.2.1, if_true]
  refine wp_mono (wp_takeCredentialBack alone h (E := fun _ _ => False)) (fun _ w₁ h₁ => ?_)
    (fun _ _ h => h.elim) fun _ h => h
  simp only [failIfInterrupted, wp_bind, wp_isInterrupted, wp_ite, wp_pure, h₁.2.2.1]
  refine ⟨fun hfirst => ?_, fun hfirst => ?_⟩
  · -- The flag is up at the first reading: the session is settled here.
    have hleft : left = Settled id past := by
      funext w'
      simp only [left, hfirst, Bool.true_eq_false, false_and, if_false]
    rw [hleft]
    have h₂ : InFlight id past (reads + 1) { w₁ with reads := reads + 1 } :=
      ⟨h₁.1, h₁.2.1, rfl, h₁.2.2.2⟩
    refine wp_mono (wp_finishFailed alone h₂ _ (E := fun _ _ => False)) (fun _ w₂ hw₂ => ?_)
      (fun _ _ h => h.elim) fun _ h => h
    exact wp_recordAuthCompletionFailure failure (fun _ => hw₂)
      fun _ fault => (keeps_finishFailed stable_settled fault).total (total_finishFailed fault) hw₂
  · have hfirst : env.interrupted reads = false := by simpa using hfirst
    have h₂ : InFlight id past (reads + 2) { w₁ with reads := reads + 1 + 1 } :=
      ⟨h₁.1, h₁.2.1, rfl, h₁.2.2.2⟩
    refine wp_recordAuthCompletionFailure failure (fun hsecond => ?_) fun hsecond fault => ?_
    · have hleft : left = InFlight id past (reads + 2) := by
        funext w'
        simp only [left, hfirst, show env.interrupted (reads + 1) = true from hsecond, and_self,
          if_true]
      rw [hleft]
      exact h₂
    · have hleft : left = Settled id past := by
        funext w'
        simp only [left, show env.interrupted (reads + 1) = false from hsecond,
          Bool.false_eq_true, and_false, if_false]
      rw [hleft]
      exact wp_finishFailed alone h₂ fault

theorem keeps_snapshotOf (calm : Calm env id I) : Keeps I (snapshotOf env id) :=
  keeps_bind (keeps_perform_of_calm calm fun _ _ h => by rcases h with h | ⟨_, h⟩ <;> cases h)
    fun reply => by cases reply <;> first | exact keeps_pure _ | exact keeps_raise _

theorem total_snapshotOf : Total (snapshotOf env id) :=
  total_bind (total_perform _)
    fun reply => by cases reply <;> first | exact total_pure _ | exact total_raise _

end Phases

/-! ## Won completions -/

/-- The run of `AuthCompleteExecute` from `start` wins `BeginCompletion` and
stands at the exchange in `w`. -/
def Wins (env : CompletionEnv) (id : Bytes) (start : CompletionWorld) (secretName : Bytes)
    (material : AuthCompletionMaterial) (w : CompletionWorld) : Prop :=
  start.emitted = false ∧ ∃ snapshot w₁ w₂,
    snapshotOf env id { start with emitted := true } = (.ret snapshot, w₁) ∧
      snapshot.status = .callbackReceived ∧ snapshot.secretName = secretName ∧
      beginCompletion env id w₁ = (.ret material, w₂) ∧
      w = { w₂ with ownsCompletion := true }

/-- A step of the `try` block throws: the exchange, the storing of the
credential or the installation of the secret. -/
def StepThrows (env : CompletionEnv) (id secretName : Bytes) (material : AuthCompletionMaterial)
    (w : CompletionWorld) : Prop :=
  ∃ e w', completionSteps env id secretName material w = (.raise e, w')

variable {env} {id secretName : Bytes} {material : AuthCompletionMaterial}
  {start w : CompletionWorld}

/-- A program that has won the session has it in flight. -/
theorem inFlight_of_wins (wins : Wins env id start secretName material w) :
    InFlight id w.events w.reads w := by
  obtain ⟨-, -, w₁, w₂, -, -, -, hbegin, rfl⟩ := wins
  have hwp : wp (beginCompletion env id) (fun _ w' => Completing id w'.registry)
      (fun _ _ => True) (fun _ => False) w₁ := by
    rw [beginCompletion, wp_bind]
    refine wp_perform (fun reply hreply => ?_) fun _ _ => trivial
    cases reply with
    | material material =>
        have hbegins : Begins id (registryMachine.event (w₁.met env)
            (.onSession id (.beginCompletion (env.now w₁.turn)))) := ⟨_, material, rfl, hreply⟩
        obtain ⟨-, -, -, hcompleting⟩ := begins_exec hbegins
        exact hcompleting
    | _ => trivial
  have hcompleting : Completing id w₂.registry := (wp_iff.mp hwp).1 _ _ hbegin
  exact ⟨hcompleting, rfl, rfl, [], by simp, by simp⟩

/-- What is left of `AuthCompleteExecute` for a program that has won. -/
theorem wp_of_wins (wins : Wins env id start secretName material w)
    {Q : Option AuthCompleteRow → CompletionWorld → Prop}
    {E : CompletionError → CompletionWorld → Prop} {C : CompletionWorld → Prop} :
    wp (authCompleteExecute env id) Q E C start ↔
      wp (do
        catchAll (completionSteps env id secretName material) (completionFailed env id)
        let snapshot ← snapshotOf env id
        pure (some (emitComplete id snapshot))) Q E C w := by
  obtain ⟨hemitted, snapshot, w₁, w₂, hsnapshot, hready, rfl, hbegin, rfl⟩ := wins
  simp only [authCompleteExecute, wp_bind, wp_read, hemitted, Bool.false_eq_true, if_false,
    wp_update, wp_of_ret hsnapshot, hready, if_true, wp_catchAll, wp_of_ret hbegin]

/-- A won completion leaves the session authorized or failed, unless a step of
it throws while the flag is down at the first reading of the handler and up at
the second. -/
theorem completion_settles_iff (env : CompletionEnv) (id secretName : Bytes)
    (material : AuthCompletionMaterial) (start w : CompletionWorld) (alone : Alone env id)
    (wins : Wins env id start secretName material w) :
    Settled id w.events (authCompleteExecute env id start).2 ↔
      ¬ (StepThrows env id secretName material w ∧
        env.interrupted w.reads = false ∧ env.interrupted (w.reads + 1) = true) := by
  have hflight := inFlight_of_wins wins
  have hsteps := wp_completionSteps alone hflight secretName material
  by_cases hbad : StepThrows env id secretName material w ∧
      env.interrupted w.reads = false ∧ env.interrupted (w.reads + 1) = true
  · refine iff_of_false ?_ (not_not.mpr hbad)
    obtain ⟨⟨e, w', hthrow⟩, hfirst, hsecond⟩ := hbad
    have hfailed := wp_completionFailed alone ((wp_iff.mp hsteps).2.1 e w' hthrow) e
    simp only [hfirst, hsecond, and_self, if_true] at hfailed
    have hend : InFlight id w.events (w.reads + 2) (authCompleteExecute env id start).2 := by
      refine wp_final.mp ((wp_of_wins wins).mpr ?_)
      rw [wp_bind, wp_catchAll, wp_of_raise hthrow]
      refine wp_mono hfailed (fun _ w₁ h₁ => ?_) (fun _ _ h => h) fun _ h => h.elim
      exact wp_bind_of_keeps (keeps_snapshotOf (calm_inFlight alone)) total_snapshotOf h₁
        (fun _ _ h => h) fun _ _ h => h
    exact not_settled_of_inFlight hend
  · refine iff_of_true (wp_final.mp ((wp_of_wins wins).mpr ?_)) hbad
    have hrest {w₁ : CompletionWorld} (h₁ : Settled id w.events w₁) :
        wp (do
          let snapshot ← snapshotOf env id
          pure (some (emitComplete id snapshot))) (fun _ => Settled id w.events)
          (fun _ => Settled id w.events) (Settled id w.events) w₁ :=
      wp_bind_of_keeps (keeps_snapshotOf stable_settled.calm) total_snapshotOf h₁
        (fun _ _ h => h) fun _ _ h => h
    rw [wp_bind, wp_catchAll]
    obtain ⟨hret, hraise, hcut⟩ := wp_iff.mp hsteps
    refine wp_iff.mpr ⟨fun _ w₁ h => hrest (hret _ _ h), fun e w₁ h => ?_,
      fun w₁ h => (hcut w₁ h).elim⟩
    have hfailed := wp_completionFailed alone (hraise e w₁ h) e
    have hflags : ¬ (env.interrupted w.reads = false ∧ env.interrupted (w.reads + 1) = true) :=
      fun hflags => hbad ⟨⟨e, w₁, h⟩, hflags⟩
    simp only [hflags, if_false] at hfailed
    exact wp_mono hfailed (fun _ _ h => hrest h) (fun _ _ h => h) fun _ h => h.elim

/-- The registry after a login whose callback has arrived. -/
def answeredLogin : CompletionWorld where
  registry := registryMachine.run {} (loginCalls.take 2)

/-- Nobody else calls, and every step succeeds. -/
def quietEnv : CompletionEnv where
  others _ := []
  now _ := 30
  nowLocked _ := 30
  fill _ := some (Vector.replicate 16 1)
  exchange _ := .ok ⟨ascii "https://t.c360a.salesforce.com", ascii "token", 90⟩
  lookupSecret _ := .ok []
  replaceSecret := none
  interrupted _ := false

theorem completion_settles_quiet : ∃ secretName material w,
    Wins quietEnv loginId answeredLogin secretName material w ∧
      (Settled loginId w.events (authCompleteExecute quietEnv loginId answeredLogin).2 ↔
        ¬ (StepThrows quietEnv loginId secretName material w ∧
          quietEnv.interrupted w.reads = false ∧
          quietEnv.interrupted (w.reads + 1) = true)) := by
  have wins : Wins quietEnv loginId answeredLogin _ _ _ :=
    ⟨rfl, _, _, _, rfl, rfl, rfl, rfl, rfl⟩
  exact ⟨_, _, _, wins,
    completion_settles_iff quietEnv loginId _ _ answeredLogin _ (fun _ _ h => by cases h) wins⟩

/-- The exchange fails, and the query is interrupted between the two readings
of the flag in the handler. -/
def interruptedEnv : CompletionEnv :=
  { quietEnv with
    exchange := fun _ => .error (.fault .networkUnavailable)
    interrupted := fun n => decide (1 ≤ n) }

/-- `AuthCompleteExecute` wins the session, throws, and leaves it completing. -/
theorem completion_left_hanging :
    (∀ m n, m ≤ n → interruptedEnv.interrupted m = true → interruptedEnv.interrupted n = true) ∧
      (authCompleteExecute interruptedEnv loginId answeredLogin).1 = .raise .interrupt ∧
      (authCompleteExecute interruptedEnv loginId answeredLogin).2.ownsCompletion = true ∧
      ((authCompleteExecute interruptedEnv loginId answeredLogin).2.registry.sessions[loginId]?.map
        AuthSession.status) = some .completing := by
  refine ⟨fun m n hle hm => ?_, by decide +kernel, by decide +kernel, by decide +kernel⟩
  simp only [interruptedEnv, decide_eq_true_eq] at hm ⊢
  exact le_trans hm hle

/-! ## Lost completions -/

theorem keeps_beginCompletion {I : CompletionWorld → Prop} (calm : Calm env id I) :
    Keeps I (beginCompletion env id) :=
  keeps_bind (keeps_perform_of_calm calm fun _ _ h => by rcases h with h | ⟨_, h⟩ <;> cases h)
    fun reply => by cases reply <;> first | exact keeps_pure _ | exact keeps_raise _

/-- A program that owns the completion goes on owning it. -/
theorem stable_owns : Stable env fun w => w.ownsCompletion = true := fun _ _ h => h

theorem calm_owns : Calm env id fun w => w.ownsCompletion = true := stable_owns.calm

theorem owns_completionSteps :
    Keeps (fun w => w.ownsCompletion = true) (completionSteps env id secretName material) := by
  have hcalm : Calm env id fun w => w.ownsCompletion = true := calm_owns
  exact keeps_bind (keeps_answer _) fun _ =>
    keeps_bind (keeps_storeCredential hcalm _) fun _ =>
      keeps_bind (keeps_update fun _ h => h) fun _ =>
        keeps_bind (keeps_install hcalm (fun _ _ h => h) _ _) fun _ =>
          keeps_bind (keeps_perform_of_stable stable_owns _) fun _ => keeps_pure _

theorem owns_completionFailed (failure : CompletionError) :
    Keeps (fun w => w.ownsCompletion = true) (completionFailed env id failure) := by
  have hcalm : Calm env id fun w => w.ownsCompletion = true := calm_owns
  have hflag : Keeps (fun w : CompletionWorld => w.ownsCompletion = true) (isInterrupted env) :=
    fun _ h => h
  have hfail (fault : AuthFault) :
      Keeps (fun w => w.ownsCompletion = true) (finishFailed env id fault) :=
    keeps_finishFailed stable_owns fault
  refine keeps_bind (keeps_read _) fun owns => keeps_ite _ ?_ (keeps_pure ())
  refine keeps_bind (keeps_bind (keeps_read _) fun _ => keeps_ite _
    (keeps_removeCredential hcalm _) (keeps_pure ())) fun _ => ?_
  refine keeps_bind (keeps_bind hflag fun _ => keeps_ite _ (hfail _) (keeps_pure ())) fun _ => ?_
  refine keeps_bind hflag fun _ => keeps_ite _ (keeps_raise _) ?_
  cases failure <;> exact hfail _

/-- This program owns the completion, or has not called a finisher of it. -/
def Quiet (id : Bytes) (w : CompletionWorld) : Prop :=
  w.ownsCompletion = true ∨ ∀ call ∈ w.calls, ¬ call.Finishes id

theorem calm_quiet : Calm env id (Quiet id) := by
  rintro w call hcall (howns | hquiet)
  · exact .inl howns
  · refine .inr fun other hother => ?_
    rcases List.mem_append.mp hother with hold | hnew
    · exact hquiet other hold
    · rw [List.mem_singleton.mp hnew]
      exact hcall

/-- Only a completion that has won the session calls its finishers. -/
theorem quiet_authCompleteExecute : Keeps (Quiet id) (authCompleteExecute env id) := by
  have hsnapshot : Keeps (Quiet id) (snapshotOf env id) := keeps_snapshotOf calm_quiet
  have htry (secretName : Bytes) : Keeps (Quiet id) (do
      let material ← beginCompletion env id
      update fun w => { w with ownsCompletion := true }
      completionSteps env id secretName material) := by
    refine keeps_bind (keeps_beginCompletion calm_quiet) fun material w _ => ?_
    rw [wp_bind, wp_update]
    exact wp_mono (owns_completionSteps _ rfl) (fun _ _ => .inl) (fun _ _ => .inl) fun _ => .inl
  have hhandler (failure : CompletionError) :
      Keeps (Quiet id) (completionFailed env id failure) := by
    intro w hw
    by_cases howns : w.ownsCompletion = true
    · exact wp_mono (owns_completionFailed failure w howns) (fun _ _ => .inl) (fun _ _ => .inl)
        fun _ => .inl
    · simp only [completionFailed, wp_bind, wp_read, wp_ite, wp_pure]
      exact ⟨fun h => absurd h howns, fun _ => hw⟩
  refine keeps_bind (keeps_read _) fun emitted => keeps_ite _ (keeps_pure _) ?_
  refine keeps_bind (keeps_update fun _ h => h) fun _ => ?_
  refine keeps_bind hsnapshot fun snapshot => keeps_ite _ ?_ (keeps_pure _)
  exact keeps_bind (keeps_catchAll (htry _) hhandler) fun _ =>
    keeps_bind hsnapshot fun _ => keeps_pure _

/-- A completion that has not won the session does not finish it. -/
theorem loser_finishes_nothing (fresh : start.calls = [])
    (lost : (authCompleteExecute env id start).2.ownsCompletion = false) :
    ∀ call ∈ (authCompleteExecute env id start).2.calls, ¬ call.Finishes id := by
  have hquiet : Quiet id start := .inr (by simp [fresh])
  rcases wp_final.mp (quiet_authCompleteExecute start hquiet) with howns | hcalls
  · rw [lost] at howns
    cases howns
  · exact hcalls

/-! ## The winner decides -/

/-- What holds of the session `id` from the state `registry` on. -/
structure CompletionExclusive (id : Bytes) (registry : Registry) : Prop where
  /-- A terminal session keeps its status and its fault while it exists. -/
  terminal_final : ∀ calls s s', registry.sessions[id]? = some s → terminal s.status = true →
    (∀ e ∈ registryMachine.trace registry calls, ∀ request, ¬ Creates id request e) →
    (registryMachine.run registry calls).sessions[id]? = some s' →
    s'.status = s.status ∧ s'.fault = s.fault
  /-- A completing session leaves this status through its own finishers only,
  and no call takes it out of the registry. -/
  completing_owned : ∀ call s, registry.sessions[id]? = some s → s.status = .completing →
    ∃ t, (exec call registry).registry.sessions[id]? = some t ∧
      (t = { s with callbackOwner := t.callbackOwner } ∨
        call = .onSession id .finishAuthorized ∧ t.status = .authorized ∧ t.fault = none ∨
        ∃ fault, call = .onSession id (.finishFailed fault) ∧ t.status = .failed ∧
          t.fault = some fault)
  /-- A call on another session changes nothing here. -/
  addressed : ∀ call other c, call = .onSession other c → other ≠ id →
    (exec call registry).registry.sessions[id]? = registry.sessions[id]?
  /-- A call on no session changes nothing here either, except that `Create`
  expires an overdue session and takes out a terminal one. -/
  unaddressed : ∀ call s, (∀ c, call ≠ .onSession id c) → registry.sessions[id]? = some s →
    (exec call registry).registry.sessions[id]? = some s ∨
      ∃ now, call.sweepTime = some now ∧
        (s.Overdue now ∧ (exec call registry).registry.sessions[id]?
            = some (s.ended .expired (some .sessionExpired) none) ∨
          (terminal s.status = true ∨ s.Overdue now) ∧
            Replaces id (registryMachine.event registry call))
  /-- No second `BeginCompletion` of one session succeeds. -/
  at_most_one : ∀ calls before e after,
    registryMachine.trace registry calls = before ++ e :: after → Begins id e →
    (∀ other ∈ after, ∀ request, ¬ Creates id request other) → ∀ other ∈ after, ¬ Begins id other
  /-- One of the completions that race for an answered session wins. -/
  one_wins : ∀ expiresAtMs calls now, Ready id expiresAtMs registry →
    (∀ call ∈ calls, call.Spares id expiresAtMs) →
    .onSession id (.beginCompletion now) ∈ calls →
    ∃ e ∈ registryMachine.trace registry calls, Begins id e
  /-- A completion that has not won does not finish the session. -/
  loser_silent : ∀ env (start : CompletionWorld), start.registry = registry → start.calls = [] →
    (authCompleteExecute env id start).2.ownsCompletion = false →
    ∀ call ∈ (authCompleteExecute env id start).2.calls, ¬ call.Finishes id

/-- Whatever the state of the registry, one completion of a session wins, and
only it decides the outcome. -/
theorem completion_exclusive (id : Bytes) (registry : Registry) :
    CompletionExclusive id registry where
  terminal_final calls _ _ found isOver kept still := terminal_run calls found isOver kept still
  completing_owned call _ found completing := completing_exec call found completing
  addressed _ _ _ haddressed hne := addressed_exec haddressed hne
  unaddressed _ _ hunaddressed found := unaddressed_exec hunaddressed found
  at_most_one _ _ _ _ htrace hbegins kept := begins_once htrace hbegins kept
  one_wins _ _ _ ready spares race := begins_exists ready spares race
  loser_silent _ _ _ fresh lost := loser_finishes_nothing fresh lost

/-- Two completions of the answered login, and what the first one calls when it is done. -/
def racingCalls : List Call :=
  [.onSession loginId (.beginCompletion 30), .onSession loginId (.beginCompletion 31),
    .onSession loginId .finishAuthorized]

/-- The registry after the first `made` of these calls. -/
def racingLogin (made : Nat) : Registry :=
  registryMachine.run answeredLogin.registry (racingCalls.take made)

/-- The registry after one call more. -/
def racingThen (made : Nat) (call : Call) : Registry :=
  (exec call (racingLogin made)).registry

/-- One of the two completions wins, and none after it.  A completion that comes in between
makes no call that finishes the session, and a cancel leaves it completing; a late failure
leaves it authorized. -/
theorem completion_exclusive_race :
    (∃ before e after, registryMachine.trace answeredLogin.registry racingCalls
        = before ++ e :: after ∧
      Begins loginId e ∧ ∀ other ∈ after, ¬ Begins loginId other) ∧
    (∀ call ∈ (authCompleteExecute quietEnv loginId { registry := racingLogin 1 }).2.calls,
      ¬ call.Finishes loginId) ∧
    (∃ t, (racingThen 1 (.onSession loginId .cancel)).sessions[loginId]? = some t ∧
      t.status = .completing) ∧
    ∀ t, (racingThen 3 (.onSession loginId (.finishFailed .tokenExchangeFailed))).sessions[loginId]?
      = some t → t.status = .authorized := by
  have hready : (answeredLogin.registry.sessions[loginId]?).map (fun s => (s.status, s.expiresAtMs))
      = some (.callbackReceived, 100) := by decide +kernel
  have hcompleting : ((racingLogin 1).sessions[loginId]?).map (·.status) = some .completing := by
    decide +kernel
  have hover : ((racingLogin 3).sessions[loginId]?).map (·.status) = some .authorized := by
    decide +kernel
  obtain ⟨answered, hanswered, hanswer⟩ := Option.map_eq_some_iff.mp hready
  obtain ⟨won, hwon, hstatus⟩ := Option.map_eq_some_iff.mp hcompleting
  obtain ⟨done, hdone, hauthorized⟩ := Option.map_eq_some_iff.mp hover
  have ready : Ready loginId 100 answeredLogin.registry :=
    ⟨answered, hanswered, congrArg Prod.fst hanswer, congrArg Prod.snd hanswer⟩
  have spares : ∀ call ∈ racingCalls, call.Spares loginId 100 := by
    simp [racingCalls, Call.Spares, Call.sweepTime, SessionCall.reading]
  have onSession : ∀ call ∈ racingCalls, ∀ request, call.request ≠ some request := by
    simp [racingCalls, Call.request]
  refine ⟨?_, ?_, ?_, ?_⟩
  · have one := (completion_exclusive loginId answeredLogin.registry).one_wins
    obtain ⟨e, he, hbegins⟩ := one 100 racingCalls 30 ready spares List.mem_cons_self
    obtain ⟨before, after, htrace⟩ := List.append_of_mem he
    have once := (completion_exclusive loginId answeredLogin.registry).at_most_one
    refine ⟨before, e, after, htrace, hbegins, once racingCalls before e after htrace hbegins ?_⟩
    intro other hother request hcreates
    have hmem : other ∈ registryMachine.trace answeredLogin.registry racingCalls :=
      htrace ▸ List.mem_append_right _ (List.mem_cons_of_mem _ hother)
    exact onSession _ (registryMachine.input_mem_of_mem_trace hmem) request hcreates.1
  · have silent := (completion_exclusive loginId (racingLogin 1)).loser_silent
    exact silent quietEnv _ rfl rfl (by decide +kernel)
  · have owned := (completion_exclusive loginId (racingLogin 1)).completing_owned
    obtain ⟨t, ht, hkept | ⟨hcall, -⟩ | ⟨fault, hcall, -⟩⟩ :=
      owned (.onSession loginId .cancel) won hwon hstatus
    · exact ⟨t, ht, by rw [hkept]; exact hstatus⟩
    · cases hcall
    · cases hcall
  · intro t ht
    have final := (completion_exclusive loginId (racingLogin 3)).terminal_final
    refine ((final [.onSession loginId (.finishFailed .tokenExchangeFailed)] done t hdone
      (by rw [hauthorized]; rfl) ?_ ht).1).trans hauthorized
    intro e he request hcreates
    have hinput := registryMachine.input_mem_of_mem_trace he
    rw [List.mem_singleton] at hinput
    rw [Creates, hinput] at hcreates
    cases hcreates.1

end Data360
