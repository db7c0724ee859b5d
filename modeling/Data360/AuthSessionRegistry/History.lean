import Data360.AuthSessionRegistry.Steps

/-!
# The history of an authorized session

A session is authorized only after one callback with the right state and one
completion that got the code of that callback.

* `Creates`, `Receives` and `Begins` name the events of a run that matter to
  a session.
* `SessionHistory` is the invariant: what the events since the creation of a
  session say about its status.  `history_move` is its step for a call on the
  session, and `recorded_run` carries it through every run.
* `authorized_history` reads the invariant at an authorized session.
-/

namespace Data360

open Lib Lib.ByteString

/-! ## The events of a session -/

/-- The event is the creation of session `id` from `request`. -/
def Creates (id : Bytes) (request : AuthStartRequest) (e : RegistryEvent) : Prop :=
  e.input.Creates e.output id request

/-- The event is a successful `ReceiveCallback` on session `id`. -/
def Receives (id : Bytes) (e : RegistryEvent) : Prop :=
  ∃ state authorizationCode now,
    e.input = .onSession id (.receiveCallback state authorizationCode now) ∧
      e.output = .ok .done

/-- The event is a successful `BeginCompletion` on session `id`. -/
def Begins (id : Bytes) (e : RegistryEvent) : Prop :=
  ∃ now material,
    e.input = .onSession id (.beginCompletion now) ∧ e.output = .ok (.material material)

/-- A successful `ReceiveCallback` that found the session pending, in time,
with the state of the request and a code. -/
def AcceptsCallback (id : Bytes) (request : AuthStartRequest) (code : Bytes)
    (e : RegistryEvent) : Prop :=
  ∃ now session,
    e.input = .onSession id (.receiveCallback request.expectedState code now) ∧
      e.output = .ok .done ∧ code ≠ [] ∧
      e.before.sessions[id]? = some session ∧ session.status = .pendingUserAction ∧
      session.expiresAtMs = request.expiresAtMonotonicMs ∧ now < session.expiresAtMs

/-- A successful `BeginCompletion` that found the session in time and returned
the code and the verifier of the request. -/
def HandsOver (id : Bytes) (request : AuthStartRequest) (code : Bytes)
    (e : RegistryEvent) : Prop :=
  ∃ now session material,
    e.input = .onSession id (.beginCompletion now) ∧
      e.output = .ok (.material material) ∧
      material.authorizationCode = code ∧ material.pkceVerifier = request.pkceVerifier ∧
      e.before.sessions[id]? = some session ∧
      session.expiresAtMs = request.expiresAtMonotonicMs ∧ now < session.expiresAtMs

theorem AcceptsCallback.receives {id : Bytes} {request : AuthStartRequest} {code : Bytes}
    {e : RegistryEvent} (h : AcceptsCallback id request code e) : Receives id e := by
  obtain ⟨now, -, hinput, houtput, -⟩ := h
  exact ⟨_, _, now, hinput, houtput⟩

theorem HandsOver.begins {id : Bytes} {request : AuthStartRequest} {code : Bytes}
    {e : RegistryEvent} (h : HandsOver id request code e) : Begins id e := by
  obtain ⟨now, -, material, hinput, houtput, -⟩ := h
  exact ⟨now, material, hinput, houtput⟩

/-- Neither a callback nor a completion got through. -/
def Untouched (id : Bytes) (events : List RegistryEvent) : Prop :=
  ∀ e ∈ events, ¬ Receives id e ∧ ¬ Begins id e

/-- One callback got through, with this code. -/
def Answered (id : Bytes) (request : AuthStartRequest) (code : Bytes)
    (events : List RegistryEvent) : Prop :=
  ∃ early callback between, events = early ++ callback :: between ∧
    AcceptsCallback id request code callback ∧ Untouched id early ∧ Untouched id between

/-- One callback got through, and after it one completion took its code. -/
def Completed (id : Bytes) (request : AuthStartRequest) (events : List RegistryEvent) : Prop :=
  ∃ code first completion late, events = first ++ completion :: late ∧
    Answered id request code first ∧ HandsOver id request code completion ∧ Untouched id late

/-! ## One more event -/

variable {id : Bytes} {request : AuthStartRequest} {code : Bytes}
  {events : List RegistryEvent} {e : RegistryEvent}

theorem untouched_of_quiet
    (quiet : ∀ c, e.input = .onSession id c → c.advances e.output = false) :
    ¬ Receives id e ∧ ¬ Begins id e := by
  refine ⟨?_, ?_⟩
  · rintro ⟨state, code, now, hinput, houtput⟩
    have := quiet _ hinput
    rw [houtput] at this
    simp [SessionCall.advances] at this
  · rintro ⟨now, material, hinput, houtput⟩
    have := quiet _ hinput
    rw [houtput] at this
    simp [SessionCall.advances] at this

theorem untouched_nil (id : Bytes) : Untouched id [] := by
  simp [Untouched]

theorem Untouched.concat (h : Untouched id events) (he : ¬ Receives id e ∧ ¬ Begins id e) :
    Untouched id (events ++ [e]) := by
  intro other hother
  rcases List.mem_append.mp hother with hold | hnew
  · exact h other hold
  · rw [List.mem_singleton.mp hnew]
    exact he

theorem Answered.concat (h : Answered id request code events)
    (he : ¬ Receives id e ∧ ¬ Begins id e) : Answered id request code (events ++ [e]) := by
  obtain ⟨early, callback, between, rfl, haccept, hearly, hbetween⟩ := h
  exact ⟨early, callback, between ++ [e], by simp, haccept, hearly, hbetween.concat he⟩

theorem Completed.concat (h : Completed id request events)
    (he : ¬ Receives id e ∧ ¬ Begins id e) : Completed id request (events ++ [e]) := by
  obtain ⟨code, first, completion, late, rfl, hfirst, hcompletion, hlate⟩ := h
  exact ⟨code, first, completion, late ++ [e], by simp, hfirst, hcompletion, hlate.concat he⟩

/-! ## The invariant -/

/-- What the events since the creation of a session say about it. -/
structure SessionHistory (id : Bytes) (request : AuthStartRequest)
    (events : List RegistryEvent) (s : AuthSession) : Prop where
  expires : s.expiresAtMs = request.expiresAtMonotonicMs
  pending : s.status = .pendingUserAction →
    s.expectedState = request.expectedState ∧ s.pkceVerifier = request.pkceVerifier ∧
      Untouched id events
  received : s.status = .callbackReceived →
    s.pkceVerifier = request.pkceVerifier ∧ Answered id request s.authorizationCode events
  completed : s.status = .completing ∨ s.status = .authorized → Completed id request events

/-- A new session has no events yet. -/
theorem history_created (id : Bytes) (request : AuthStartRequest) :
    SessionHistory id request [] (AuthSession.ofRequest request) where
  expires := rfl
  pending _ := ⟨rfl, rfl, untouched_nil id⟩
  received h := by cases h
  completed h := by rcases h with h | h <;> cases h

/-- An event that does not advance the session keeps the history, also when
the owner of the session is released. -/
theorem SessionHistory.stay {s : AuthSession} (h : SessionHistory id request events s)
    (he : ¬ Receives id e ∧ ¬ Begins id e) (owner : Option AuthCallbackOwner) :
    SessionHistory id request (events ++ [e]) { s with callbackOwner := owner } where
  expires := h.expires
  pending hs := ⟨(h.pending hs).1, (h.pending hs).2.1, (h.pending hs).2.2.concat he⟩
  received hs := ⟨(h.received hs).1, (h.received hs).2.concat he⟩
  completed hs := (h.completed hs).concat he

/-- A session that ends has a completion behind it if it ends authorized. -/
theorem SessionHistory.ended {s : AuthSession} (h : SessionHistory id request events s)
    (he : ¬ Receives id e ∧ ¬ Begins id e) {status : AuthSessionStatus}
    (fault : Option AuthFault) (owner : Option AuthCallbackOwner)
    (closed : terminal status = true)
    (authorized : status = .authorized → s.status = .completing) :
    SessionHistory id request (events ++ [e]) (s.ended status fault owner) where
  expires := h.expires
  pending hs := by
    rw [ended_status] at hs
    rw [hs] at closed
    cases closed
  received hs := by
    rw [ended_status] at hs
    rw [hs] at closed
    cases closed
  completed hs := by
    rw [ended_status] at hs
    rcases hs with hs | hs
    · rw [hs] at closed
      cases closed
    · exact (h.completed (.inl (authorized hs))).concat he

/-- A call on the session keeps its history. -/
theorem history_move {c : SessionCall} {s s' : AuthSession}
    (h : SessionHistory id request events s) (addressed : e.input = .onSession id c)
    (found : e.before.sessions[id]? = some s) (move : SessionMove c s s' e.output) :
    SessionHistory id request (events ++ [e]) s' := by
  have quiet (hq : c.advances e.output = false) : ¬ Receives id e ∧ ¬ Begins id e := by
    refine untouched_of_quiet fun c' hc' => ?_
    rw [addressed] at hc'
    cases hc'
    exact hq
  generalize houtput : e.output = outcome at move quiet
  cases move with
  | stay owner _ hquiet => exact h.stay (quiet hquiet) owner
  | ended status fault owner _ active closed authorized completing cause hquiet =>
      exact h.ended (quiet hquiet) fault owner closed authorized
  | received authorizationCode now call_eq hpending nonempty inTime =>
      obtain ⟨hstate, hverifier, huntouched⟩ := h.pending hpending
      subst call_eq
      rw [hstate] at addressed
      refine ⟨h.expires, fun hs => (by cases hs), fun _ => ⟨hverifier, ?_⟩, fun hs => ?_⟩
      · exact ⟨events, e, [], rfl,
          ⟨now, s, addressed, houtput, nonempty, found, hpending, h.expires, inTime⟩,
          huntouched, untouched_nil id⟩
      · rcases hs with hs | hs <;> cases hs
  | begun now call_eq ready inTime =>
      obtain ⟨hverifier, hanswered⟩ := h.received ready
      subst call_eq
      refine ⟨h.expires, fun hs => (by cases hs), fun hs => (by cases hs), fun _ => ?_⟩
      exact ⟨s.authorizationCode, events, e, [], rfl, hanswered,
        ⟨now, s, _, addressed, houtput, rfl, hverifier, found, h.expires, inTime⟩,
        untouched_nil id⟩

/-- Every session of the registry has its creation in the trace, and its
history since then. -/
def Recorded (trace : List RegistryEvent) (registry : Registry) : Prop :=
  ∀ id s, registry.sessions[id]? = some s →
    ∃ request past creation events, trace = past ++ creation :: events ∧
      Creates id request creation ∧ (∀ e ∈ events, ∀ r, ¬ Creates id r e) ∧
      SessionHistory id request events s

/-- One more call keeps every session recorded. -/
theorem recorded_step {past : List RegistryEvent} {registry : Registry}
    (h : Recorded past registry) (call : Call) :
    Recorded (past ++ [registryMachine.event registry call])
      (registryMachine.step call registry).2 := by
  intro id s' hs'
  set e := registryMachine.event registry call with he
  -- An old session: its history grows by `e`.
  have grow {s : AuthSession} (hs : registry.sessions[id]? = some s)
      (old : ∀ r, ¬ Creates id r e)
      (hnext : ∀ {request events}, SessionHistory id request events s →
        SessionHistory id request (events ++ [e]) s') :
      ∃ request earlier creation events,
        past ++ [e] = earlier ++ creation :: events ∧ Creates id request creation ∧
          (∀ e ∈ events, ∀ r, ¬ Creates id r e) ∧ SessionHistory id request events s' := by
    obtain ⟨request, earlier, creation, events, rfl, hcreates, hsince, hhistory⟩ := h id s hs
    refine ⟨request, earlier, creation, events ++ [e], by simp, hcreates, ?_, hnext hhistory⟩
    intro other hother
    rcases List.mem_append.mp hother with hold | hnew
    · exact hsince other hold
    · rw [List.mem_singleton.mp hnew]
      exact old
  have hentry := exec_entry call registry id
  generalize hbefore : registry.sessions[id]? = entry at hentry
  generalize hafter : (exec call registry).registry.sessions[id]? = entry' at hentry
  have hafter' : entry' = some s' := hafter.symm.trans hs'
  cases hentry with
  | same _ quiet old =>
      rw [hafter'] at hbefore
      exact grow hbefore old fun hh => hh.stay (untouched_of_quiet quiet) s'.callbackOwner
  | moved c s t addressed move =>
      obtain rfl := Option.some.inj hafter'
      refine grow hbefore (fun r hr => ?_) fun hh => history_move hh addressed hbefore move
      have := hr.1
      rw [show e.input = call from rfl, addressed] at this
      cases this
  | expired now s sweep overdue old =>
      obtain rfl := Option.some.inj hafter'
      refine grow hbefore old fun hh => ?_
      exact hh.ended
        (untouched_of_quiet fun c hc =>
          absurd hc (Call.not_onSession_of_sweepTime sweep id c)) _ _ rfl (fun hst => by cases hst)
  | evicted now s sweep isOver old => cases hafter'
  | created now request _ sweep creates free =>
      obtain rfl := Option.some.inj hafter'
      exact ⟨request, past, e, [], rfl, creates, by simp, history_created id request⟩

/-- Every session of every run is recorded. -/
theorem recorded_run (calls : List Call) :
    Recorded (registryMachine.trace {} calls) (registryMachine.run {} calls) := by
  have start : Recorded [] {} := fun id s hs => by simp at hs
  exact registryMachine.history_induction (P := Recorded) start
    (fun past registry call h => recorded_step h call) calls

/-! ## Authorized sessions -/

/-- Since its last creation, session `id` has exactly one successful
`ReceiveCallback`, made while it was pending, in time, with the state given to
`Create` and a code, and after it exactly one successful `BeginCompletion`,
made in time, which returned that code and the verifier given to `Create`. -/
def LoginHistory (id : Bytes) (trace : List RegistryEvent) : Prop :=
  ∃ request code past creation early callback between completion late,
    trace = past ++ creation :: (early ++ callback :: (between ++ completion :: late)) ∧
      Creates id request creation ∧
      (∀ e ∈ early ++ callback :: (between ++ completion :: late), ∀ r, ¬ Creates id r e) ∧
      AcceptsCallback id request code callback ∧
      (∀ e ∈ early ++ (between ++ completion :: late), ¬ Receives id e) ∧
      HandsOver id request code completion ∧
      (∀ e ∈ early ++ callback :: (between ++ late), ¬ Begins id e)

/-- Every authorized session of every run has a login behind it. -/
theorem authorized_history (calls : List Call) (id : Bytes) (session : AuthSession)
    (found : (registryMachine.run {} calls).sessions[id]? = some session)
    (authorized : session.status = .authorized) :
    LoginHistory id (registryMachine.trace {} calls) := by
  obtain ⟨request, past, creation, events, htrace, hcreates, hsince, hhistory⟩ :=
    recorded_run calls id session found
  obtain ⟨code, first, completion, late, rfl, ⟨early, callback, between, rfl, haccepts, hearly,
    hbetween⟩, hhands, hlate⟩ := hhistory.completed (.inr authorized)
  refine ⟨request, code, past, creation, early, callback, between, completion, late, ?_, hcreates,
    ?_, haccepts, ?_, hhands, ?_⟩
  · simpa using htrace
  · simpa using hsince
  · intro e he
    rcases List.mem_append.mp he with he | he
    · exact (hearly e he).1
    rcases List.mem_append.mp he with he | he
    · exact (hbetween e he).1
    rcases List.mem_cons.mp he with rfl | he
    · rintro ⟨_, _, _, hinput, -⟩
      obtain ⟨_, _, hinput', -⟩ := hhands.begins
      rw [hinput'] at hinput
      cases hinput
    · exact (hlate e he).1
  · intro e he
    rcases List.mem_append.mp he with he | he
    · exact (hearly e he).2
    rcases List.mem_cons.mp he with rfl | he
    · rintro ⟨_, _, hinput, -⟩
      obtain ⟨_, _, _, hinput', -⟩ := haccepts.receives
      rw [hinput'] at hinput
      cases hinput
    rcases List.mem_append.mp he with he | he
    · exact (hbetween e he).2
    · exact (hlate e he).2

/-- A request for a login that may take until reading 100. -/
def loginRequest : AuthStartRequest where
  expectedState := ascii "state"
  pkceVerifier := ascii "verifier"
  expiresAtMonotonicMs := 100

/-- The identifier that 16 zero bytes give. -/
def loginId : Bytes := generateOpaqueId (Vector.replicate 16 0)

/-- A login: create, callback, completion. -/
def loginCalls : List Call := [
  .create loginRequest 10 fun _ => some (Vector.replicate 16 0),
  .onSession loginId (.receiveCallback (ascii "state") (ascii "code") 20),
  .onSession loginId (.beginCompletion 30),
  .onSession loginId .finishAuthorized]

theorem authorized_history_login : LoginHistory loginId (registryMachine.trace {} loginCalls) :=
  authorized_history loginCalls loginId
    ((AuthSession.ofRequest loginRequest).ended .authorized none none) (by decide +kernel) rfl

end Data360
