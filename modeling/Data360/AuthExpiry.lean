import Data360.AuthCallback

/-!
# Expiry of a login

A session that nobody completes has until `expires_at_ms`.  The operations
that look at a session afterwards expire it, each at the head of its own
critical section; `Fail`, which the callback worker calls when its listener
times out, has no such test.

A run is a list of calls with the clock reading at each of them, also of those
that take no reading.

* `touched_expires` says what a call does to an overdue session.
* `unanswered_run` carries through a run that a login nobody answers is
  pending or expired.
* `expiry_dominates_iff` says that expiry decides in a run exactly when no call
  of it fails an overdue session.
-/

namespace Data360

open Lib Lib.ByteString

/-! ## Calls and the clock -/

/-- The reading that a call takes when it looks at sessions. -/
def Call.reading : Call → Option UInt64
  | .onSession _ call => call.reading
  | call => call.sweepTime

/-- A call, made when the clock shows `now`. -/
structure TimedCall where
  call : Call
  now : UInt64
  reads : ∀ reading, call.reading = some reading → reading = now

/-- The registry as a machine of timed calls. -/
def timedMachine : Machine Registry TimedCall (Except RegistryError Reply) where
  step timed := registryMachine.step timed.call

/-- One call of a timed run. -/
abbrev TimedEvent := Event Registry TimedCall (Except RegistryError Reply)

/-- The registry after the event. -/
def TimedEvent.after (e : TimedEvent) : Registry := (exec e.input.call e.before).registry

/-- The operations that find out what has become of a login: `Snapshot` and
`Status`, `ReceiveCallback`, `ReceiveDenied`, `BeginCompletion`, and `Fail`. -/
def SessionCall.touches : SessionCall → Bool
  | .snapshot _ | .status _ | .receiveCallback .. | .receiveDenied .. | .beginCompletion _
  | .fail _ => true
  | .finishAuthorized | .finishFailed _ | .cancel | .stopCallback => false

/-- The request with which a `Create` gets as far as its sweep. -/
def Call.Sweeps : Call → Prop
  | .create request now _ => Registry.Admits request now
  | .createWithTtl expectedState pkceVerifier ttlMs callbackOwner now nowInside _ =>
      ¬ (ttlMs = 0 ∨ ttlMs > 0xffffffffffffffff - now) ∧
        Registry.Admits (Registry.ttlRequest expectedState pkceVerifier (now + ttlMs) callbackOwner)
          nowInside
  | _ => False

/-- The call gets to the session `id`. -/
def Call.Touches (call : Call) (id : Bytes) : Prop :=
  (∃ c : SessionCall, call = .onSession id c ∧ c.touches = true) ∨ call.Sweeps

/-- The session `id` has expired. -/
def Expired (id : Bytes) (registry : Registry) : Prop :=
  ∃ s, registry.sessions[id]? = some s ∧ s.status = .expired ∧ s.fault = some .sessionExpired

/-- The event leaves the session expired; a `Create` whose sweep has expired it
may also take it out. -/
def LeavesExpired (id : Bytes) (e : TimedEvent) : Prop :=
  Expired id e.after ∨
    e.input.call.Sweeps ∧ Expired id (e.before.sweep e.input.now) ∧
      Replaces id (registryMachine.event e.before e.input.call)

/-- The event is a `Fail` on an overdue session. -/
def FailsOverdue (e : TimedEvent) : Prop :=
  ∃ id fault s, e.input.call = .onSession id (.fail fault) ∧
    e.before.sessions[id]? = some s ∧ s.Overdue e.input.now

/-! ## One call -/

variable {id : Bytes} {s : AuthSession} {e : TimedEvent}

/-- A call that looks at the clock expires an overdue session. -/
theorem overdue_effect {c : SessionCall} {now : UInt64} (reading : c.reading = some now)
    (overdue : s.Overdue now) :
    (c.effect s).session.status = .expired ∧
      (c.effect s).session.fault = some .sessionExpired := by
  cases c with
  | snapshot t =>
      obtain rfl := Option.some.inj reading
      simp [SessionCall.effect, SessionEffect.map, AuthSession.snapshot_session, overdue,
        AuthSession.ended]
  | status t =>
      obtain rfl := Option.some.inj reading
      simp [SessionCall.effect, SessionEffect.map, AuthSession.snapshot_session, overdue,
        AuthSession.ended]
  | receiveCallback state code t =>
      obtain rfl := Option.some.inj reading
      simp [SessionCall.effect, SessionEffect.map, AuthSession.receiveCallback, expireLocked_eq,
        overdue, AuthSession.ended]
  | receiveDenied state t =>
      obtain rfl := Option.some.inj reading
      simp [SessionCall.effect, SessionEffect.map, AuthSession.receiveDenied, expireLocked_eq,
        overdue, AuthSession.ended]
  | beginCompletion t =>
      obtain rfl := Option.some.inj reading
      simp [SessionCall.effect, SessionEffect.map, AuthSession.beginCompletion, expireLocked_eq,
        overdue, AuthSession.ended]
  | finishAuthorized | finishFailed | fail | cancel | stopCallback => cases reading

/-- `Fail` fails it. -/
theorem fail_overdue_effect (fault : AuthFault) {now : UInt64} (overdue : s.Overdue now) :
    ((SessionCall.fail fault).effect s).session.status = .failed := by
  simp [SessionCall.effect, SessionEffect.map, AuthSession.fail, AuthSession.interrupt,
    overdue.1, terminalLocked_of_active overdue.2.1]

/-- A `Create` that gets as far as its sweep expires an overdue session. -/
theorem sweep_expires {registry : Registry} {now : UInt64} (found : registry.sessions[id]? = some s)
    (overdue : s.Overdue now) : Expired id (registry.sweep now) := by
  refine ⟨s.ended .expired (some .sessionExpired) none, ?_, rfl, rfl⟩
  rw [Registry.sweep, Std.TreeMap.getElem?_map, found, Option.map_some, expireLocked_eq,
    if_pos overdue, if_pos rfl]

/-- After the sweep the session is expired, evicted or replaced. -/
theorem create_expires {registry : Registry} {request : AuthStartRequest} {now : UInt64}
    {fill : Nat → Entropy} (admitted : Registry.Admits request now)
    (found : registry.sessions[id]? = some s) (overdue : s.Overdue now) :
    Expired id (registry.create request now fill).registry ∨
      (registry.create request now fill).registry.sessions[id]? = none ∨
      (registry.create request now fill).outcome = .ok id := by
  have hpruned : Expired id (registry.prune now) ∨ (registry.prune now).sessions[id]? = none := by
    rcases Registry.prune_getElem? registry now id with hentry | ⟨hgone, -⟩
    · refine .inl ⟨s.ended .expired (some .sessionExpired) none, ?_, rfl, rfl⟩
      rw [hentry, found, Option.map_some, expireLocked_eq, if_pos overdue, if_pos rfl]
    · exact .inr hgone
  have hstep := Registry.create_step registry request now fill
  generalize registry.create request now fill = effect at hstep
  cases hstep with
  | rejected fault refused => exact absurd admitted refused
  | full _ calm => exact hpruned.imp_right .inl
  | entropy _ throws => exact hpruned.imp_right .inl
  | created newId nonempty free room _ calm =>
      by_cases hid : newId = id
      · subst hid
        exact .inr (.inr rfl)
      · simp only [Expired, getElem?_insert_ne _ _ hid]
        exact hpruned.imp_right .inl

/-- A call that sweeps runs `Create`. -/
theorem Call.Sweeps.exec_eq {call : Call} (h : call.Sweeps) :
    ∃ request now fill, call.sweepTime = some now ∧ call.reading = some now ∧
      call.request = some request ∧ Registry.Admits request now ∧
      ∀ registry, exec call registry = (registry.create request now fill).map .authId := by
  cases call with
  | create request now fill => exact ⟨request, now, fill, rfl, rfl, rfl, h, fun _ => rfl⟩
  | createWithTtl expectedState pkceVerifier ttlMs callbackOwner now nowInside fill =>
      refine ⟨_, nowInside, fill, rfl, rfl, rfl, h.2, fun registry => ?_⟩
      simp only [exec, Registry.createWithTtl, if_neg h.1]
  | onSession | storeCredential | resolveCredential | removeCredential => exact h.elim

/-- Of the calls that get to an overdue session, `Fail` is the one that does not
leave it expired. -/
theorem touched_expires (found : e.before.sessions[id]? = some s) (overdue : s.Overdue e.input.now)
    (touches : e.input.call.Touches id) :
    LeavesExpired id e ↔ ∀ fault, e.input.call ≠ .onSession id (.fail fault) := by
  obtain ⟨before, ⟨call, now, reads⟩, output⟩ := e
  dsimp only at found overdue touches ⊢
  rcases touches with ⟨c, rfl, hc⟩ | hsweeps
  · have hafter : (exec (.onSession id c) before).registry.sessions[id]?
        = some (c.effect s).session := by
      rw [exec_onSession_some found]
      exact Std.TreeMap.getElem?_insert_self
    have hexpired : LeavesExpired id ⟨before, ⟨.onSession id c, now, reads⟩, output⟩ ↔
        (c.effect s).session.status = .expired ∧
          (c.effect s).session.fault = some .sessionExpired := by
      simp [LeavesExpired, Expired, TimedEvent.after, hafter, Call.Sweeps]
    rw [hexpired]
    cases hreading : c.reading with
    | some t =>
        obtain rfl := reads t hreading
        refine iff_of_true (overdue_effect hreading overdue) fun fault h => ?_
        cases h
        cases hreading
    | none =>
        cases c with
        | fail fault =>
            refine iff_of_false (fun h => ?_) fun h => h fault rfl
            rw [fail_overdue_effect fault overdue] at h
            cases h.1
        | snapshot | status | receiveCallback | receiveDenied | beginCompletion => cases hreading
        | finishAuthorized | finishFailed | cancel | stopCallback => cases hc
  · obtain ⟨request, t, fill, hsweep, hreading, hrequest, hadmits, hexec⟩ := hsweeps.exec_eq
    obtain rfl := reads t hreading
    refine iff_of_true ?_ fun fault h => by rw [h] at hsweeps; exact hsweeps
    have hreplaces (h : (exec call before).registry.sessions[id]? = none ∨
        (before.create request t fill).outcome = .ok id) :
        Replaces id (registryMachine.event before call) := by
      refine ⟨Option.isSome_iff_exists.mpr ⟨t, hsweep⟩, h.imp_right fun h =>
        ⟨request, hrequest, ?_⟩⟩
      simp only [registryMachine, Machine.event, hexec, Effect.map, h]
      rfl
    rcases @create_expires _ _ _ _ _ fill hadmits found overdue with h | h | h
    · refine .inl ?_
      rw [TimedEvent.after, hexec]
      exact h
    · refine .inr ⟨hsweeps, sweep_expires found overdue, hreplaces (.inl ?_)⟩
      rw [hexec]
      exact h
    · exact .inr ⟨hsweeps, sweep_expires found overdue, hreplaces (.inr h)⟩

/-! ## A login that nobody answers -/

/-- Nobody answers the login through this call: it is no callback and no
`Cancel`, and a `Fail` comes when the time is over, because the listener waits
for the whole time of the login and starts after it. -/
def Unanswered (id : Bytes) (expiresAtMs : UInt64) (e : TimedEvent) : Prop :=
  ∀ c, e.input.call = .onSession id c →
    match c with
    | .receiveCallback .. | .receiveDenied .. | .cancel => False
    | .fail _ => expiresAtMs ≤ e.input.now
    | _ => True

/-- The session, if it is there, is pending or has expired. -/
def Unfinished (id : Bytes) (expiresAtMs : UInt64) (registry : Registry) : Prop :=
  ∀ s, registry.sessions[id]? = some s →
    s.status = .pendingUserAction ∧ s.expiresAtMs = expiresAtMs ∨
      s.status = .expired ∧ s.fault = some .sessionExpired

/-- A new session is pending. -/
theorem created_entry {registry : Registry} {call : Call} {request : AuthStartRequest}
    (creates : Creates id request (registryMachine.event registry call)) :
    (exec call registry).registry.sessions[id]? = some (AuthSession.ofRequest request) := by
  have hentry := exec_entry call registry id
  generalize registry.sessions[id]? = entry at hentry
  generalize (exec call registry).registry.sessions[id]? = entry' at hentry ⊢
  cases hentry with
  | same _ quiet old => exact absurd creates (old request)
  | moved c t t' addressed move =>
      have hrequest := creates.1
      simp only [Machine.event, addressed] at hrequest
      cases hrequest
  | expired now t sweep overdue old => exact absurd creates (old request)
  | evicted now t sweep isOver old => exact absurd creates (old request)
  | created now request' _ sweep creates' free =>
      obtain rfl := Option.some.inj (creates'.1.symm.trans creates.1)
      rfl

/-- What a pending session becomes through a call that does not answer it. -/
theorem unanswered_effect {c : SessionCall} (pending : s.status = .pendingUserAction)
    (quiet : match c with
      | .receiveCallback .. | .receiveDenied .. | .cancel | .fail _ => False
      | _ => True)
    (calm : ∀ now, c.reading = some now → ¬ s.Overdue now) :
    (c.effect s).session.status = .pendingUserAction ∧
      (c.effect s).session.expiresAtMs = s.expiresAtMs := by
  cases c with
  | snapshot now =>
      simp [SessionCall.effect, SessionEffect.map, AuthSession.snapshot_session, calm now rfl,
        pending, terminal]
  | status now =>
      simp [SessionCall.effect, SessionEffect.map, AuthSession.snapshot_session, calm now rfl,
        pending, terminal]
  | beginCompletion now =>
      simp [SessionCall.effect, SessionEffect.map, AuthSession.beginCompletion, expireLocked_eq,
        calm now rfl, pending]
  | finishAuthorized =>
      simp [SessionCall.effect, SessionEffect.map, AuthSession.finishAuthorized,
        AuthSession.finish, pending]
  | finishFailed fault =>
      simp [SessionCall.effect, SessionEffect.map, AuthSession.finishFailed, AuthSession.finish,
        pending]
  | stopCallback => exact ⟨pending, rfl⟩
  | receiveCallback | receiveDenied | cancel | fail => exact quiet.elim

/-- A call that does not answer the login leaves it pending, or it expires. -/
theorem unfinished_step {expiresAtMs : UInt64} (h : Unfinished id expiresAtMs e.before)
    (old : ∀ request, ¬ Creates id request (registryMachine.event e.before e.input.call))
    (quiet : Unanswered id expiresAtMs e) (calm : ¬ FailsOverdue e) :
    Unfinished id expiresAtMs e.after := by
  obtain ⟨before, ⟨call, now, reads⟩, output⟩ := e
  intro s' hs'
  replace hs' : (exec call before).registry.sessions[id]? = some s' := hs'
  cases found : before.sessions[id]? with
  | none =>
      rw [absent_exec found old] at hs'
      cases hs'
  | some s =>
  have out (hout : Replaces id (registryMachine.event before call)) : False := by
    rcases hout.2 with hgone | ⟨request, hcreates⟩
    · cases hgone.symm.trans hs'
    · exact old request hcreates
  rcases h s found with ⟨pending, expires⟩ | ⟨hexpired, hfault⟩
  · by_cases haddressed : ∃ c, call = .onSession id c
    · obtain ⟨c, rfl⟩ := haddressed
      have heffect : (c.effect s).session = s' := by
        rw [exec_onSession_some found] at hs'
        exact Option.some.inj (Std.TreeMap.getElem?_insert_self.symm.trans hs')
      subst heffect
      by_cases hover : ∃ t, c.reading = some t ∧ s.Overdue t
      · obtain ⟨t, hreading, hover⟩ := hover
        exact .inr (overdue_effect hreading hover)
      · have hcalm (t : UInt64) (hreading : c.reading = some t) (ht : s.Overdue t) : False :=
          hover ⟨t, hreading, ht⟩
        have hquiet := quiet c rfl
        cases c with
        | receiveCallback | receiveDenied | cancel => exact hquiet.elim
        | fail fault =>
            refine absurd ⟨id, fault, s, rfl, found, ?_⟩ calm
            refine ⟨by rw [pending]; decide, by rw [pending]; rfl, ?_⟩
            rw [expires]
            exact hquiet
        | snapshot | status | beginCompletion | finishAuthorized | finishFailed | stopCallback =>
            obtain ⟨hstatus, hexpires⟩ := unanswered_effect pending trivial hcalm
            exact .inl ⟨hstatus, hexpires.trans expires⟩
    · rcases unaddressed_exec (not_exists.mp haddressed) found with
        hsame | ⟨t, -, ⟨-, hentry⟩ | ⟨-, hout⟩⟩
      · obtain rfl := Option.some.inj (hsame.symm.trans hs')
        exact .inl ⟨pending, expires⟩
      · obtain rfl := Option.some.inj (hentry.symm.trans hs')
        exact .inr ⟨rfl, rfl⟩
      · exact (out hout).elim
  · rcases terminal_exec call found (by rw [hexpired]; rfl) with
      ⟨t, ht, hstatus, hfault'⟩ | hout
    · obtain rfl := Option.some.inj (ht.symm.trans hs')
      exact .inr ⟨hstatus.trans hexpired, hfault'.trans hfault⟩
    · exact (out hout).elim

/-- The same over a run. -/
theorem unanswered_run {expiresAtMs : UInt64} {registry : Registry}
    (start : Unfinished id expiresAtMs registry) (calls : List TimedCall)
    (quiet : ∀ e ∈ timedMachine.trace registry calls, Unanswered id expiresAtMs e ∧
      (∀ request, ¬ Creates id request (registryMachine.event e.before e.input.call)) ∧
      ¬ FailsOverdue e) :
    Unfinished id expiresAtMs (timedMachine.run registry calls) := by
  refine (timedMachine.run_keeps_unless
    (B := fun e => ¬ (Unanswered id expiresAtMs e ∧
      (∀ request, ¬ Creates id request (registryMachine.event e.before e.input.call)) ∧
      ¬ FailsOverdue e)) ?_ start fun e he => not_not.mpr (quiet e he)).1
  intro t timed ht hquiet
  obtain ⟨hanswer, hold, hcalm⟩ := not_not.mp hquiet
  exact unfinished_step (e := timedMachine.event t timed) ht hold hanswer hcalm

/-! ## Expiry decides -/

/-- What expiry means for a run from the empty registry. -/
structure ExpiryDominates (calls : List TimedCall) : Prop where
  /-- A call that gets to a pending or answered session whose time is over
  leaves it expired. -/
  touched : ∀ e ∈ timedMachine.trace {} calls, ∀ id s, e.before.sessions[id]? = some s →
    s.Overdue e.input.now → e.input.call.Touches id → LeavesExpired id e
  /-- A login that nobody answers or cancels ends expired or not at all. -/
  unanswered : ∀ past create since id request, calls = past ++ create :: since →
    Creates id request (registryMachine.event (timedMachine.run {} past) create.call) →
    (∀ e ∈ timedMachine.trace (timedMachine.run {} (past ++ [create])) since,
      Unanswered id request.expiresAtMonotonicMs e ∧
        ∀ other, ¬ Creates id other (registryMachine.event e.before e.input.call)) →
    ∀ s, (timedMachine.run {} calls).sessions[id]? = some s → terminal s.status = true →
      s.status = .expired ∧ s.fault = some .sessionExpired

/-- Expiry decides all through a run if and only if no call of it fails an
overdue session. -/
theorem expiry_dominates_iff (calls : List TimedCall) :
    ExpiryDominates calls ↔ ∀ e ∈ timedMachine.trace {} calls, ¬ FailsOverdue e := by
  constructor
  · rintro h e he ⟨id, fault, s, hcall, found, overdue⟩
    have touches : e.input.call.Touches id := .inl ⟨_, hcall, rfl⟩
    exact (touched_expires found overdue touches).mp
      (h.touched e he id s found overdue touches) fault hcall
  · intro calm
    refine ⟨fun e he id s found overdue touches => ?_, ?_⟩
    · exact (touched_expires found overdue touches).mpr fun fault hcall =>
        calm e he ⟨id, fault, s, hcall, found, overdue⟩
    · intro past create since id request hsplit hcreates hquiet s hs isOver
      have hcalls : calls = (past ++ [create]) ++ since := by simp [hsplit]
      have hstart : Unfinished id request.expiresAtMonotonicMs
          (timedMachine.run {} (past ++ [create])) := by
        intro t ht
        rw [timedMachine.run_concat] at ht
        obtain rfl := Option.some.inj ((created_entry hcreates).symm.trans ht)
        exact .inl ⟨rfl, rfl⟩
      have hrun := unanswered_run hstart since fun e he =>
        ⟨(hquiet e he).1, (hquiet e he).2, calm e (by
          rw [hcalls, timedMachine.trace_append]
          exact List.mem_append_right _ he)⟩
      rw [hcalls, timedMachine.run_append] at hs
      rcases hrun s hs with ⟨pending, -⟩ | hexpired
      · rw [pending] at isOver
        cases isOver
      · exact hexpired

/-- A login until reading 100, whose listener times out at 110. -/
def timedOutLogin : List TimedCall := [
  ⟨.create { loginRequest with callbackOwner := some 7 } 10 fun _ => some (Vector.replicate 16 0),
    10, fun _ h => (Option.some.inj h).symm⟩,
  ⟨.onSession loginId (.fail .callbackProtocolError), 110, fun _ h => by cases h⟩]

/-- The worker of this login, which waits in vain. -/
def timedOutEnv : CallbackEnv where
  waitForCallback := .error .protocolError
  others _ := []
  now _ := 110

/-- Nobody answers the login, the worker fails it after its time, and it ends
as a protocol error. -/
theorem timed_out_login_fails :
    (workerCalls timedOutEnv loginId (timedMachine.run {} (timedOutLogin.take 1))).map
        (·.input) = (timedOutLogin.drop 1).map (·.call) ∧
      ((timedMachine.run {} timedOutLogin).sessions[loginId]?.map fun s => (s.status, s.fault))
        = some (.failed, some .callbackProtocolError) ∧
      ¬ ExpiryDominates timedOutLogin := by
  have hend : ((timedMachine.run {} timedOutLogin).sessions[loginId]?.map fun s =>
      (s.status, s.fault)) = some (.failed, some .callbackProtocolError) := by decide +kernel
  refine ⟨rfl, hend, fun h => ?_⟩
  obtain ⟨s, found, hs⟩ := Option.map_eq_some_iff.mp hend
  obtain ⟨hstatus, -⟩ := Prod.mk.inj hs
  have hcreates : Creates loginId { loginRequest with callbackOwner := some 7 }
      (registryMachine.event {} (.create { loginRequest with callbackOwner := some 7 } 10
        fun _ => some (Vector.replicate 16 0))) :=
    ⟨rfl, by decide +kernel⟩
  have hquiet : ∀ e ∈ timedMachine.trace (timedMachine.run {} (timedOutLogin.take 1))
      (timedOutLogin.drop 1),
      Unanswered loginId 100 e ∧
        ∀ other, ¬ Creates loginId other (registryMachine.event e.before e.input.call) := by
    intro e he
    obtain rfl := List.mem_singleton.mp he
    refine ⟨fun c hc => ?_, fun other hother => by cases hother.1⟩
    cases hc
    decide
  obtain ⟨hexpired, -⟩ := h.unanswered [] _ _ loginId _ rfl hcreates hquiet s found
    (by rw [hstatus]; rfl)
  rw [hstatus] at hexpired
  cases hexpired

end Data360
