import Data360.AuthSessionRegistry.Completion
import Data360.Lib.Prog

/-!
# The callback worker

`ProcessAuthCallback` of `src/auth_functions.cpp`, which runs on the thread of
the callback owner.  It waits for the browser and tells the registry what came.

The listener answers as the environment says: a result, or one of the
exceptions that the handlers tell apart.  Other callers use the registry
before each call of the worker, as in `AuthCompleteExecute`.

* `delivers_iff` says which results the registry accepts.
* `WorkerSpares` says that the worker stops no owner and leaves the owner in
  the session for somebody else, and `worker_spares_iff` says when.
-/

namespace Data360

open Lib Lib.ByteString Lib.Prog

/-! ## The listener -/

/-- `CallbackStatus`. -/
inductive CallbackStatus where
  | codeReceived
  | accessDenied
  deriving DecidableEq, Repr

/-- What travels up `ProcessAuthCallback`: a `CallbackCancelled`, a
`CallbackProtocolError`, or anything else. -/
inductive CallbackError where
  | cancelled
  | protocolError
  | other
  deriving DecidableEq, Repr

/-- `CallbackResult`, as far as the worker reads it. -/
structure CallbackResult where
  status : CallbackStatus
  state : Bytes
  code : Bytes := []
  codeTaken : Bool := false

/-- `CallbackResult::TakeCode`. -/
def CallbackResult.takeCode (result : CallbackResult) : Except CallbackError Bytes :=
  if result.status ≠ .codeReceived ∨ result.codeTaken ∨ result.code = [] then
    .error .protocolError
  else .ok result.code

/-! ## The worker -/

/-- What `ProcessAuthCallback` meets. -/
structure CallbackEnv where
  /-- `listener.WaitForCallback(timeout_ms, cancelled)`. -/
  waitForCallback : Except CallbackError CallbackResult
  /-- The calls of other callers before the `n`-th call of the worker. -/
  others : Nat → List Call
  /-- The clock reading of the `n`-th call. -/
  now : Nat → UInt64

/-- The registry, and the calls that the worker has made on it. -/
structure WorkerWorld where
  registry : Registry
  turn : Nat := 0
  made : List RegistryEvent := []

/-- The registry when the next call of the worker takes the mutex. -/
def WorkerWorld.met (w : WorkerWorld) (env : CallbackEnv) : Registry :=
  registryMachine.run w.registry (env.others w.turn)

/-- The world after the next call. -/
def WorkerWorld.after (w : WorkerWorld) (env : CallbackEnv) (call : Call) : WorkerWorld where
  registry := (exec call (w.met env)).registry
  turn := w.turn + 1
  made := w.made ++ [registryMachine.event (w.met env) call]

/-- A program of the worker. -/
abbrev Worker := Prog WorkerWorld CallbackError

variable (env : CallbackEnv)

/-- One call on the session `id`.  An `AuthSessionError` is none of the two
callback exceptions. -/
def callRegistry (id : Bytes) (call : UInt64 → SessionCall) : Worker Unit := fun w =>
  let call : Call := .onSession id (call (env.now w.turn))
  match (exec call (w.met env)).outcome with
  | .ok _ => (.ret (), w.after env call)
  | .error _ => (.raise .other, w.after env call)

/-- Pass on what the listener answers. -/
def fromListener {α : Type} : Except CallbackError α → Worker α
  | .ok a => pure a
  | .error e => raise e

/-- The call with which the worker tells the registry what came. -/
def deliver (id : Bytes) (result : CallbackResult) : Worker Unit :=
  if result.status = .accessDenied then
    callRegistry env id fun now => .receiveDenied result.state now
  else do
    let code ← fromListener result.takeCode
    callRegistry env id fun now => .receiveCallback result.state code now

/-- `try { registry.Fail(auth_id, CALLBACK_PROTOCOL_ERROR); } catch (...) {}` -/
def reportFailure (id : Bytes) : Worker Unit :=
  catchAll (callRegistry env id fun _ => .fail .callbackProtocolError) fun _ => pure ()

/-- `ProcessAuthCallback`. -/
def processAuthCallback (id : Bytes) : Worker Unit :=
  catchAll
    (do
      let result ← fromListener env.waitForCallback
      deliver env id result)
    fun
      | .cancelled => pure ()
      | .protocolError => reportFailure env id
      | .other => reportFailure env id

/-! ## What the registry does for the worker -/

section Registry

variable {registry : Registry} {id : Bytes}

/-- The call that hands the result to the registry, if there is one. -/
def CallbackResult.delivery (result : CallbackResult) (now : UInt64) : Option SessionCall :=
  match result.status, result.takeCode with
  | .accessDenied, _ => some (.receiveDenied result.state now)
  | .codeReceived, .ok code => some (.receiveCallback result.state code now)
  | .codeReceived, .error _ => none

/-- The session waits for a callback with this state, and has time left. -/
def Awaits (id state : Bytes) (now : UInt64) (registry : Registry) : Prop :=
  ∃ s, registry.sessions[id]? = some s ∧ s.status = .pendingUserAction ∧
    now < s.expiresAtMs ∧ s.expectedState = state

/-- The session can still be failed, and holds its owner. -/
def HoldsOwner (id : Bytes) (registry : Registry) : Prop :=
  ∃ s, registry.sessions[id]? = some s ∧
    (s.status = .pendingUserAction ∨ s.status = .callbackReceived) ∧ s.callbackOwner ≠ none

private theorem inTime_of_pending {s : AuthSession} {now : UInt64} (h : ¬ s.Overdue now)
    (pending : s.status = .pendingUserAction) : now < s.expiresAtMs :=
  UInt64.not_le.mp fun hle => h ⟨by rw [pending]; decide, by rw [pending]; rfl, hle⟩

private theorem constantTimeEquals_eq (left right : Bytes) :
    constantTimeEquals left right = decide (left = right) :=
  Bool.eq_iff_iff.mpr ((constantTimeEquals_iff left right).trans (decide_eq_true_iff).symm)

/-- `ReceiveDenied` accepts what comes in time with the right state, and stops
no owner. -/
theorem receiveDenied_effect (state : Bytes) (now : UInt64) (s : AuthSession) :
    (s.receiveDenied state now).stops = [] ∧
      ((∃ reply, (s.receiveDenied state now).outcome = .ok reply) ↔
        s.status = .pendingUserAction ∧ now < s.expiresAtMs ∧ s.expectedState = state) := by
  unfold AuthSession.receiveDenied
  rw [expireLocked_eq]
  by_cases h : s.Overdue now
  · have hlate : ¬ now < s.expiresAtMs := UInt64.not_lt.mpr h.2.2
    simp [h, hlate, authSessionError]
  by_cases pending : s.status = .pendingUserAction
  · have hlt : now < s.expiresAtMs := inTime_of_pending h pending
    by_cases hstate : s.expectedState = state <;>
      simp [h, pending, hlt, hstate, constantTimeEquals_eq, authSessionError]
  · simp [h, pending, authSessionError]

/-- So does `ReceiveCallback` with a code. -/
theorem receiveCallback_effect (state : Bytes) {code : Bytes} (nonempty : code ≠ [])
    (now : UInt64) (s : AuthSession) :
    (s.receiveCallback state code now).stops = [] ∧
      ((∃ reply, (s.receiveCallback state code now).outcome = .ok reply) ↔
        s.status = .pendingUserAction ∧ now < s.expiresAtMs ∧ s.expectedState = state) := by
  unfold AuthSession.receiveCallback
  rw [expireLocked_eq]
  by_cases h : s.Overdue now
  · have hlate : ¬ now < s.expiresAtMs := UInt64.not_lt.mpr h.2.2
    simp [h, hlate, authSessionError]
  by_cases pending : s.status = .pendingUserAction
  · have hlt : now < s.expiresAtMs := inTime_of_pending h pending
    have hactive : terminal s.status = false := by rw [pending]; rfl
    by_cases hstate : s.expectedState = state
    · simp [h, pending, hlt, hstate, constantTimeEquals_eq, nonempty]
    · simp [h, pending, hlt, hstate, constantTimeEquals_eq, nonempty, authSessionError,
        terminalLocked_of_active hactive]
  · simp [h, pending, authSessionError]

/-- What a delivery does to its session. -/
theorem delivery_effect {result : CallbackResult} {now : UInt64} {call : SessionCall}
    (h : result.delivery now = some call) (s : AuthSession) :
    (call.effect s).stops = [] ∧
      ((∃ reply, (call.effect s).outcome = .ok reply) ↔
        s.status = .pendingUserAction ∧ now < s.expiresAtMs ∧ s.expectedState = result.state) := by
  have mapped {α : Type} (outcome : Except RegistryError α) :
      (∃ reply, outcome.map (fun _ => Reply.done) = .ok reply) ↔ ∃ a, outcome = .ok a := by
    cases outcome <;> simp [Except.map]
  unfold CallbackResult.delivery at h
  split at h
  · obtain rfl := Option.some.inj h
    obtain ⟨hstops, houtcome⟩ := receiveDenied_effect result.state now s
    exact ⟨hstops, (mapped _).trans houtcome⟩
  · rename_i code _ hcode
    obtain rfl := Option.some.inj h
    have nonempty : code ≠ [] := by
      unfold CallbackResult.takeCode at hcode
      split at hcode
      · cases hcode
      · rename_i hfresh
        obtain rfl := Except.ok.inj hcode
        exact fun hempty => hfresh (.inr (.inr hempty))
    obtain ⟨hstops, houtcome⟩ := receiveCallback_effect result.state nonempty now s
    exact ⟨hstops, (mapped _).trans houtcome⟩
  · cases h

/-- What the registry does with a delivery. -/
theorem delivery_exec {result : CallbackResult} {now : UInt64} {call : SessionCall}
    (h : result.delivery now = some call) (registry : Registry) (id : Bytes) :
    (exec (.onSession id call) registry).stops = [] ∧
      ((∃ reply, (exec (.onSession id call) registry).outcome = .ok reply) ↔
        Awaits id result.state now registry) := by
  cases hs : registry.sessions[id]? with
  | none =>
      have hlost : (exec (.onSession id call) registry).stops = [] ∧
          (exec (.onSession id call) registry).outcome
            = authSessionError .authSessionNotFound := by
        unfold CallbackResult.delivery at h
        split at h <;> cases h <;> simp only [exec, Registry.onSession, hs, and_self]
      simp [hlost.1, hlost.2, authSessionError, Awaits, hs]
  | some s =>
      rw [exec_onSession_some hs]
      obtain ⟨hstops, houtcome⟩ := delivery_effect h s
      refine ⟨hstops, houtcome.trans ?_⟩
      simp [Awaits, hs]

/-- `Fail` stops the owner of a session that can still be failed. -/
theorem fail_stops_iff (fault : AuthFault) (registry : Registry) (id : Bytes) :
    (exec (.onSession id (.fail fault)) registry).stops = [] ↔ ¬ HoldsOwner id registry := by
  cases hs : registry.sessions[id]? with
  | none => simp [exec, Registry.onSession, hs, HoldsOwner]
  | some s =>
      rw [exec_onSession_some hs]
      simp only [HoldsOwner, hs, Option.some.injEq, exists_eq_left', SessionCall.effect,
        SessionEffect.map, AuthSession.fail, AuthSession.interrupt]
      cases hstatus : s.status <;>
        simp [terminalLocked, hstatus, terminal]

end Registry

/-! ## The calls of the worker -/

section Calls

variable {env} {id : Bytes} {w : WorkerWorld}

/-- The world after the worker has called `Fail`. -/
def WorkerWorld.failed (w : WorkerWorld) (env : CallbackEnv) (id : Bytes) : WorkerWorld :=
  w.after env (.onSession id (.fail .callbackProtocolError))

theorem reportFailure_run : reportFailure env id w = (.ret (), w.failed env id) := by
  unfold reportFailure catchAll callRegistry
  dsimp only
  cases (exec (.onSession id (.fail .callbackProtocolError)) (w.met env)).outcome <;> rfl

/-- Without a delivery the result had no code to take. -/
theorem deliver_run_none {result : CallbackResult} (h : result.delivery (env.now w.turn) = none) :
    deliver env id result w = (.raise .protocolError, w) := by
  unfold CallbackResult.delivery at h
  split at h
  · cases h
  · cases h
  · rename_i e hstatus hcode
    have he : e = .protocolError := by
      unfold CallbackResult.takeCode at hcode
      split at hcode <;> cases hcode
      rfl
    unfold deliver
    rw [if_neg (by simp [hstatus]), hcode, he]
    rfl

/-- A call is made, and then the worker goes on or throws. -/
theorem callRegistry_run (made : UInt64 → SessionCall) {call : SessionCall}
    (hcall : made (env.now w.turn) = call) :
    (∃ reply, (exec (.onSession id call) (w.met env)).outcome = .ok reply) ∧
        callRegistry env id made w = (.ret (), w.after env (.onSession id call)) ∨
      ¬ (∃ reply, (exec (.onSession id call) (w.met env)).outcome = .ok reply) ∧
        callRegistry env id made w = (.raise .other, w.after env (.onSession id call)) := by
  subst hcall
  unfold callRegistry
  dsimp only
  cases (exec (.onSession id (made (env.now w.turn))) (w.met env)).outcome <;> simp

/-- A delivery is one call, which the registry accepts or refuses. -/
theorem deliver_run_some {result : CallbackResult} {call : SessionCall}
    (h : result.delivery (env.now w.turn) = some call) :
    Awaits id result.state (env.now w.turn) (w.met env) ∧
        deliver env id result w = (.ret (), w.after env (.onSession id call)) ∨
      ¬ Awaits id result.state (env.now w.turn) (w.met env) ∧
        deliver env id result w = (.raise .other, w.after env (.onSession id call)) := by
  rw [← (delivery_exec h (w.met env) id).2]
  unfold CallbackResult.delivery at h
  split at h
  · rename_i hstatus
    unfold deliver
    rw [if_pos hstatus]
    exact callRegistry_run _ (Option.some.inj h)
  · rename_i code hstatus hcode
    unfold deliver
    rw [if_neg (by simp [hstatus]), hcode]
    exact callRegistry_run _ (Option.some.inj h)
  · cases h

/-- The worker calls `Fail` on a session that can still be failed and holds
its owner: the listener has failed, or the registry has refused what it
delivered. -/
def FailsOnOwner (env : CallbackEnv) (id : Bytes) (registry : Registry) : Prop :=
  let start : WorkerWorld := { registry }
  match env.waitForCallback with
  | .error .cancelled => False
  | .error _ => HoldsOwner id (start.met env)
  | .ok result =>
      match result.delivery (env.now 0) with
      | none => HoldsOwner id (start.met env)
      | some call =>
          ¬ Awaits id result.state (env.now 0) (start.met env) ∧
            HoldsOwner id ((start.after env (.onSession id call)).met env)

/-- The calls of one worker that starts when the registry is this one. -/
def workerCalls (env : CallbackEnv) (id : Bytes) (registry : Registry) : List RegistryEvent :=
  (processAuthCallback env id { registry }).2.made

/-- What the worker may do: nothing, one call of either kind, or a delivery and
then `Fail`. -/
theorem workerCalls_cases (env : CallbackEnv) (id : Bytes) (registry : Registry) :
    (workerCalls env id registry = [] ∧ ¬ FailsOnOwner env id registry) ∨
      (∃ met, workerCalls env id registry
            = [registryMachine.event met (.onSession id (.fail .callbackProtocolError))] ∧
          (FailsOnOwner env id registry ↔ HoldsOwner id met)) ∨
      ∃ (result : CallbackResult) (call : SessionCall) (met : Registry),
        result.delivery (env.now 0) = some call ∧
        (workerCalls env id registry = [registryMachine.event met (.onSession id call)] ∧
            ¬ FailsOnOwner env id registry ∨
          ∃ met', workerCalls env id registry
              = [registryMachine.event met (.onSession id call),
                registryMachine.event met' (.onSession id (.fail .callbackProtocolError))] ∧
            (FailsOnOwner env id registry ↔ HoldsOwner id met')) := by
  unfold workerCalls processAuthCallback FailsOnOwner
  cases hwait : env.waitForCallback with
  | error e =>
      cases e with
      | cancelled => exact .inl ⟨rfl, not_false⟩
      | protocolError => exact .inr (.inl ⟨_, congrArg (·.2.made) reportFailure_run, Iff.rfl⟩)
      | other => exact .inr (.inl ⟨_, congrArg (·.2.made) reportFailure_run, Iff.rfl⟩)
  | ok result =>
      have hfirst {outcome : Outcome CallbackError Unit} {w' : WorkerWorld}
          (hrun : deliver env id result { registry } = (outcome, w')) :
          (do
            let result ← fromListener (Except.ok result)
            deliver env id result : Worker Unit) { registry } = (outcome, w') := hrun
      cases hcall : result.delivery (env.now 0) with
      | none =>
          refine .inr (.inl ⟨_, ?_, by simp only [hcall]; exact Iff.rfl⟩)
          rw [catchAll, hfirst (deliver_run_none hcall)]
          exact congrArg (·.2.made) reportFailure_run
      | some call =>
          refine .inr (.inr ⟨result, call, WorkerWorld.met { registry } env, hcall, ?_⟩)
          simp only [hcall]
          rcases @deliver_run_some env id { registry } _ _ hcall with
            ⟨hawaits, hrun⟩ | ⟨hrefused, hrun⟩
          · refine .inl ⟨?_, fun h => h.1 hawaits⟩
            rw [catchAll, hfirst hrun]
            rfl
          · refine .inr ⟨_, ?_, and_iff_right hrefused⟩
            rw [catchAll, hfirst hrun]
            exact congrArg (·.2.made) reportFailure_run

end Calls

/-! ## The owner of the session -/

/-- The call takes the owner out of a session that is over. -/
def SessionCall.reaps : SessionCall → Bool
  | .snapshot _ | .status _ | .stopCallback => true
  | _ => false

/-- The call takes the owner out of session `id` when it is over. -/
def Call.Reaps (call : Call) (id : Bytes) : Prop :=
  ∃ c : SessionCall, call = .onSession id c ∧ c.reaps = true

/-- A session that is over keeps its owner in every other call. -/
theorem terminal_effect_stops {c : SessionCall} (waits : c.reaps = false) {s : AuthSession}
    (isOver : terminal s.status = true) : (c.effect s).stops = [] := by
  have calm (now : UInt64) : ¬ s.Overdue now := fun h =>
    Bool.noConfusion (isOver.symm.trans h.2.1)
  have hcompleting : s.status ≠ .completing := fun h => by simp [h, terminal] at isOver
  have hpending : s.status ≠ .pendingUserAction := fun h => by simp [h, terminal] at isOver
  have hready : s.status ≠ .callbackReceived := fun h => by simp [h, terminal] at isOver
  cases c with
  | snapshot now => cases waits
  | status now => cases waits
  | stopCallback => cases waits
  | receiveCallback state code now =>
      simp [SessionCall.effect, SessionEffect.map, AuthSession.receiveCallback, expireLocked_eq,
        calm, hpending]
  | receiveDenied state now =>
      simp [SessionCall.effect, SessionEffect.map, AuthSession.receiveDenied, expireLocked_eq,
        calm, hpending]
  | beginCompletion now =>
      simp [SessionCall.effect, SessionEffect.map, AuthSession.beginCompletion, expireLocked_eq,
        calm, hready]
  | finishAuthorized =>
      simp [SessionCall.effect, SessionEffect.map, AuthSession.finishAuthorized,
        AuthSession.finish, hcompleting]
  | finishFailed fault =>
      simp [SessionCall.effect, SessionEffect.map, AuthSession.finishFailed, AuthSession.finish,
        hcompleting]
  | fail fault =>
      simp [SessionCall.effect, SessionEffect.map, AuthSession.fail, AuthSession.interrupt,
        hcompleting, terminalLocked_of_terminal isOver]
  | cancel =>
      simp [SessionCall.effect, SessionEffect.map, AuthSession.cancel, AuthSession.interrupt,
        hcompleting, terminalLocked_of_terminal isOver]

/-- A call that stops no owner leaves the owner where it is. -/
theorem owner_of_unstopped {c : SessionCall} {s : AuthSession} (h : (c.effect s).stops = []) :
    (c.effect s).session.callbackOwner = s.callbackOwner := by
  have howner := effect_owner c s
  rw [h, List.append_nil] at howner
  have hinjective := congrArg List.head? howner
  rwa [Option.head?_toList, Option.head?_toList] at hinjective

/-- The session `id` is over, and `owner` is in it. -/
def Retains (id : Bytes) (owner : Option AuthCallbackOwner) (registry : Registry) : Prop :=
  ∃ s, registry.sessions[id]? = some s ∧ terminal s.status = true ∧ s.callbackOwner = owner

/-- An owner stays in a session that is over until a call reaps it, or a
`Create` takes the session out. -/
theorem retains_exec {id : Bytes} {owner : Option AuthCallbackOwner} {registry : Registry}
    (call : Call) (h : Retains id owner registry) (waits : ¬ call.Reaps id)
    (stays : ¬ Replaces id (registryMachine.event registry call)) :
    Retains id owner (exec call registry).registry := by
  obtain ⟨s, found, isOver, rfl⟩ := h
  by_cases haddressed : ∃ c, call = .onSession id c
  · obtain ⟨c, rfl⟩ := haddressed
    obtain ⟨t, ht, hstatus, -⟩ := (terminal_exec _ found isOver).resolve_right stays
    have hc : c.reaps = false := by simpa using fun hc => waits ⟨c, rfl, hc⟩
    refine ⟨t, ht, by rw [hstatus]; exact isOver, ?_⟩
    rw [exec_onSession_some found] at ht
    rw [← Option.some.inj (Std.TreeMap.getElem?_insert_self.symm.trans ht)]
    exact owner_of_unstopped (terminal_effect_stops hc isOver)
  · rcases unaddressed_exec (not_exists.mp haddressed) found with
      hsame | ⟨now, -, ⟨hover, -⟩ | ⟨-, hout⟩⟩
    · exact ⟨s, hsame, isOver, rfl⟩
    · exact absurd (isOver.symm.trans hover.2.1) (by decide)
    · exact absurd hout stays

/-- The same over a run. -/
theorem retains_run {id : Bytes} {owner : Option AuthCallbackOwner} {registry : Registry}
    (later : List Call) (h : Retains id owner registry) (waits : ∀ call ∈ later, ¬ call.Reaps id) :
    Retains id owner (registryMachine.run registry later) ∨
      ∃ e ∈ registryMachine.trace registry later, Replaces id e := by
  by_cases hout : ∃ e ∈ registryMachine.trace registry later, Replaces id e
  · exact .inr hout
  · refine .inl (registryMachine.run_keeps_unless
      (B := fun e => e.input.Reaps id ∨ Replaces id e)
      (fun t call ht hcalm => retains_exec call ht (fun hr => hcalm (.inl hr))
        fun hr => hcalm (.inr hr)) h fun e he => ?_).1
    rintro (hr | hr)
    · exact waits _ (registryMachine.input_mem_of_mem_trace he) hr
    · exact hout ⟨e, he, hr⟩

/-- The worker does not stop itself: none of its calls stops the owner of the
session.  A session that is over after such a call has kept its owner, and
keeps it until somebody else reaps it or a `Create` takes the session out. -/
structure WorkerSpares (id : Bytes) (calls : List RegistryEvent) : Prop where
  unstopped : ∀ e ∈ calls, (exec e.input e.before).stops = []
  retained : ∀ e ∈ calls, ∀ s, e.before.sessions[id]? = some s →
    ∃ s', (exec e.input e.before).registry.sessions[id]? = some s' ∧
      s'.callbackOwner = s.callbackOwner
  waits : ∀ e ∈ calls, ∀ owner, Retains id owner (exec e.input e.before).registry →
    ∀ later : List Call, (∀ call ∈ later, ¬ call.Reaps id) →
      Retains id owner (registryMachine.run (exec e.input e.before).registry later) ∨
        ∃ e' ∈ registryMachine.trace (exec e.input e.before).registry later, Replaces id e'

/-- Calls on the session that stop nobody spare the worker. -/
theorem workerSpares_of_unstopped {id : Bytes} {calls : List RegistryEvent}
    (addressed : ∀ e ∈ calls, ∃ c, e.input = .onSession id c)
    (unstopped : ∀ e ∈ calls, (exec e.input e.before).stops = []) : WorkerSpares id calls where
  unstopped := unstopped
  retained e he s found := by
    obtain ⟨c, hc⟩ := addressed e he
    have hstops := unstopped e he
    rw [hc, exec_onSession_some found] at hstops ⊢
    exact ⟨_, Std.TreeMap.getElem?_insert_self, owner_of_unstopped hstops⟩
  waits _ _ _ h later := retains_run later h

/-- Whatever the listener does, the worker spares its owner unless it calls
`Fail` on a session that can still be failed and holds its owner. -/
theorem worker_spares_iff (env : CallbackEnv) (id : Bytes) (registry : Registry) :
    WorkerSpares id (workerCalls env id registry) ↔ ¬ FailsOnOwner env id registry := by
  have spares (calls : List RegistryEvent)
      (addressed : ∀ e ∈ calls, ∃ c, e.input = .onSession id c) :
      WorkerSpares id calls ↔ ∀ e ∈ calls, (exec e.input e.before).stops = [] :=
    ⟨(·.unstopped), workerSpares_of_unstopped addressed⟩
  rcases workerCalls_cases env id registry with
    ⟨hcalls, hspares⟩ | ⟨met, hcalls, hfails⟩ |
      ⟨result, call, met, hcall, ⟨hcalls, hspares⟩ | ⟨met', hcalls, hfails⟩⟩
  · rw [hcalls, spares [] (by simp)]
    exact iff_of_true (by simp) hspares
  · rw [hcalls, spares _ (by simp [Machine.event]), hfails,
      ← fail_stops_iff .callbackProtocolError]
    simp [Machine.event]
  · rw [hcalls, spares _ (by simp [Machine.event])]
    refine iff_of_true ?_ hspares
    simpa [Machine.event] using (delivery_exec hcall met id).1
  · rw [hcalls, spares _ (by simp [Machine.event]), hfails,
      ← fail_stops_iff .callbackProtocolError]
    simp [Machine.event, (delivery_exec hcall met id).1]

/-- A browser sends what is not a callback to the login of owner 7. -/
def malformedEnv : CallbackEnv where
  waitForCallback := .error .protocolError
  others _ := []
  now _ := 20

/-- The registry with this login, which may take until reading 100. -/
def ownedLogin : Registry :=
  registryMachine.run {}
    [.create { loginRequest with callbackOwner := some 7 } 10 fun _ => some (Vector.replicate 16 0)]

/-- The worker calls `StopAndJoin` on its own owner, and the failed session has
lost it. -/
theorem worker_stops_itself :
    (workerCalls malformedEnv loginId ownedLogin).map
        (fun e => ((exec e.input e.before).stops,
          (exec e.input e.before).registry.sessions[loginId]?.map fun s =>
            (s.status, s.callbackOwner)))
      = [([7], some (.failed, none))] ∧
      ¬ WorkerSpares loginId (workerCalls malformedEnv loginId ownedLogin) := by
  have hcalls : (workerCalls malformedEnv loginId ownedLogin).map
      (fun e => ((exec e.input e.before).stops,
        (exec e.input e.before).registry.sessions[loginId]?.map fun s =>
          (s.status, s.callbackOwner)))
      = [([7], some (.failed, none))] := by decide +kernel
  refine ⟨hcalls, fun h => ?_⟩
  have hstops : (workerCalls malformedEnv loginId ownedLogin).map
      (fun e => (exec e.input e.before).stops) = [[7]] := by decide +kernel
  obtain ⟨e, he, hseven⟩ := List.mem_map.mp (hstops ▸ List.mem_singleton_self [7])
  rw [h.unstopped e he] at hseven
  cases hseven

end Data360
