import Data360.AuthSessionRegistry.History

/-!
# What a session holds in each status

A session holds the state it expects, a code and a verifier only while its
login still needs them, and a fault only when the login went wrong.

* `AuthSession.Coherent` says which field is filled in which status.
* `coherent_terminalLocked` and `coherent_expireLocked` are the two functions
  through which every operation ends a session, and `coherent_effect` is the
  step lemma of an operation.
* `sessions_coherent` is the same for every session of every run.
-/

namespace Data360

open Lib Lib.ByteString

/-! ## Coherence -/

/-- The fault that belongs to a status. -/
def FaultFits (status : AuthSessionStatus) (fault : Option AuthFault) : Prop :=
  (fault.isSome ↔ status = .failed ∨ status = .expired ∨ status = .accessDenied) ∧
    (status = .expired → fault = some .sessionExpired) ∧
    (status = .accessDenied → fault = some .userDenied)

instance (status : AuthSessionStatus) (fault : Option AuthFault) :
    Decidable (FaultFits status fault) :=
  inferInstanceAs (Decidable (_ ∧ _ ∧ _))

/-- Each field is filled in the statuses that need it, and in no other. -/
structure AuthSession.Coherent (s : AuthSession) : Prop where
  expectedState : s.expectedState ≠ [] ↔ s.status = .pendingUserAction
  authorizationCode : s.authorizationCode ≠ [] ↔ s.status = .callbackReceived
  pkceVerifier : s.pkceVerifier ≠ [] ↔
    s.status = .pendingUserAction ∨ s.status = .callbackReceived
  fault : FaultFits s.status s.fault

/-- A session without one-time secrets. -/
def AuthSession.Wiped (s : AuthSession) : Prop :=
  s.expectedState = [] ∧ s.authorizationCode = [] ∧ s.pkceVerifier = []

variable {s : AuthSession}

/-- A session that the user and the callback are done with is wiped. -/
theorem AuthSession.Coherent.wiped (h : s.Coherent)
    (done : terminal s.status = true ∨ s.status = .completing) : s.Wiped := by
  have hpending : s.status ≠ .pendingUserAction := by
    rintro heq
    rw [heq] at done
    simp [terminal] at done
  have hreceived : s.status ≠ .callbackReceived := by
    rintro heq
    rw [heq] at done
    simp [terminal] at done
  refine ⟨not_not.mp fun hne => hpending (h.expectedState.mp hne),
    not_not.mp fun hne => hreceived (h.authorizationCode.mp hne),
    not_not.mp fun hne => ?_⟩
  exact (h.pkceVerifier.mp hne).elim hpending hreceived

/-- Coherence does not look at the callback owner. -/
theorem AuthSession.Coherent.owner (h : s.Coherent) (owner : Option AuthCallbackOwner) :
    ({ s with callbackOwner := owner } : AuthSession).Coherent :=
  ⟨h.expectedState, h.authorizationCode, h.pkceVerifier, h.fault⟩

/-! ## Ending a session -/

theorem coherent_ended {status : AuthSessionStatus} {fault : Option AuthFault}
    (closed : terminal status = true) (fits : FaultFits status fault)
    (owner : Option AuthCallbackOwner) : (s.ended status fault owner).Coherent := by
  constructor
  · show ([] : Bytes) ≠ [] ↔ status = .pendingUserAction
    cases status <;> simp_all [terminal]
  · show ([] : Bytes) ≠ [] ↔ status = .callbackReceived
    cases status <;> simp_all [terminal]
  · show ([] : Bytes) ≠ [] ↔ status = .pendingUserAction ∨ status = .callbackReceived
    cases status <;> simp_all [terminal]
  · exact fits

theorem coherent_terminalLocked (h : s.Coherent) (status : AuthSessionStatus)
    (fault : Option AuthFault) (closed : terminal status = true) (fits : FaultFits status fault)
    (owner : Option AuthCallbackOwner) (releaseOwner : Bool) :
    (terminalLocked s status fault owner releaseOwner).1.Coherent := by
  cases hactive : terminal s.status with
  | true =>
      rw [terminalLocked_of_terminal hactive]
      exact h
  | false =>
      rw [terminalLocked_of_active hactive]
      split
      · exact coherent_ended closed fits _
      · exact coherent_ended closed fits _

theorem coherent_expireLocked (h : s.Coherent) (now : UInt64)
    (owner : Option AuthCallbackOwner) (releaseOwner : Bool) :
    (expireLocked s now owner releaseOwner).1.Coherent := by
  unfold expireLocked
  split
  · exact coherent_terminalLocked h _ _ rfl (by decide) owner releaseOwner
  · exact h

/-! ## One operation -/

private theorem coherent_snapshot (h : s.Coherent) (now : UInt64) :
    (s.snapshot now).session.Coherent := by
  rw [AuthSession.snapshot_session]
  split
  · exact coherent_ended rfl (by decide) _
  · split
    · exact h.owner none
    · exact h

private theorem coherent_receiveCallback (h : s.Coherent) (state authorizationCode : Bytes)
    (now : UInt64) : (s.receiveCallback state authorizationCode now).session.Coherent := by
  unfold AuthSession.receiveCallback
  have hexpired := coherent_expireLocked h now none false
  generalize expireLocked s now none false = expired at hexpired ⊢
  obtain ⟨t, owner⟩ := expired
  dsimp only at hexpired ⊢
  split
  · exact hexpired
  · rename_i hready
    obtain ⟨hpending, hcode⟩ := not_or.mp hready
    split
    · exact coherent_terminalLocked hexpired .failed (some .stateMismatch) rfl
        (by decide) owner false
    · -- The code comes, the state goes, and the verifier stays for the exchange.
      have hverifier : t.pkceVerifier ≠ [] :=
        hexpired.pkceVerifier.mpr (.inl (not_not.mp hpending))
      have hfault := hexpired.fault
      rw [not_not.mp hpending] at hfault
      exact ⟨by simp, by simpa using hcode, by simpa using hverifier, by
        simpa [FaultFits] using hfault⟩

private theorem coherent_receiveDenied (h : s.Coherent) (state : Bytes) (now : UInt64) :
    (s.receiveDenied state now).session.Coherent := by
  unfold AuthSession.receiveDenied
  have hexpired := coherent_expireLocked h now none false
  generalize expireLocked s now none false = expired at hexpired ⊢
  obtain ⟨t, owner⟩ := expired
  dsimp only at hexpired ⊢
  split
  · exact hexpired
  · split
    · exact coherent_terminalLocked hexpired .failed (some .stateMismatch) rfl
        (by decide) none false
    · exact coherent_terminalLocked hexpired .accessDenied (some .userDenied) rfl (by decide) none
        false

private theorem coherent_beginCompletion (h : s.Coherent) (now : UInt64) :
    (s.beginCompletion now).session.Coherent := by
  unfold AuthSession.beginCompletion
  have hexpired := coherent_expireLocked h now none true
  generalize expireLocked s now none true = expired at hexpired ⊢
  obtain ⟨t, owner⟩ := expired
  dsimp only at hexpired ⊢
  split
  · exact hexpired
  · rename_i hready
    have hreceived : t.status = .callbackReceived := not_not.mp hready
    have hfault := hexpired.fault
    rw [hreceived] at hfault
    have hstate : t.expectedState = [] := by
      by_contra hne
      have hpending := hexpired.expectedState.mp hne
      rw [hreceived] at hpending
      cases hpending
    exact ⟨by simp [hstate], by simp, by simp, by simpa [FaultFits] using hfault⟩

private theorem coherent_finish (h : s.Coherent) {status : AuthSessionStatus}
    {fault : Option AuthFault} (closed : terminal status = true) (fits : FaultFits status fault) :
    (s.finish status fault).session.Coherent := by
  unfold AuthSession.finish
  split
  · exact h
  · exact coherent_terminalLocked h _ _ closed fits none true

private theorem coherent_interrupt (h : s.Coherent) {status : AuthSessionStatus}
    {fault : Option AuthFault} (closed : terminal status = true) (fits : FaultFits status fault) :
    (s.interrupt status fault).session.Coherent := by
  unfold AuthSession.interrupt
  split
  · exact h
  · exact coherent_terminalLocked h _ _ closed fits none true

/-- A failure carries its fault, whichever it is. -/
theorem faultFits_failed (fault : AuthFault) : FaultFits .failed (some fault) := by
  simp [FaultFits]

/-- Every operation on a session keeps it coherent. -/
theorem coherent_effect (c : SessionCall) (h : s.Coherent) : (c.effect s).session.Coherent := by
  cases c with
  | snapshot now => exact coherent_snapshot h now
  | status now => exact coherent_snapshot h now
  | receiveCallback state authorizationCode now =>
      exact coherent_receiveCallback h state authorizationCode now
  | receiveDenied state now => exact coherent_receiveDenied h state now
  | beginCompletion now => exact coherent_beginCompletion h now
  | finishAuthorized => exact coherent_finish h rfl (by decide)
  | finishFailed fault => exact coherent_finish h rfl (faultFits_failed fault)
  | fail fault => exact coherent_interrupt h rfl (faultFits_failed fault)
  | cancel => exact coherent_interrupt h rfl (by decide)
  | stopCallback => exact h.owner none

/-! ## Runs -/

/-- A session that `Create` makes is coherent. -/
theorem coherent_ofRequest {request : AuthStartRequest} (state : request.expectedState ≠ [])
    (verifier : request.pkceVerifier ≠ []) : (AuthSession.ofRequest request).Coherent :=
  ⟨iff_of_true state rfl, iff_of_false (fun h => h rfl) (fun h => by cases h),
    iff_of_true verifier (.inl rfl), (by decide : FaultFits .pendingUserAction none)⟩

private theorem admits_of_create {registry : Registry} {request : AuthStartRequest} {now : UInt64}
    {fill : Nat → Entropy} {id : Bytes}
    (h : (registry.create request now fill).outcome = .ok id) : Registry.Admits request now := by
  have hstep := Registry.create_step registry request now fill
  generalize registry.create request now fill = effect at h hstep
  cases hstep with
  | rejected fault refused => cases h
  | full admitted calm => cases h
  | entropy admitted throws => cases h
  | created newId nonempty free room admitted calm => exact admitted

/-- A call that creates a session has checked its request. -/
theorem admits_of_creates {call : Call} {registry : Registry} {id : Bytes}
    {request : AuthStartRequest} (h : call.Creates (exec call registry).outcome id request) :
    ∃ now, Registry.Admits request now := by
  obtain ⟨hrequest, houtcome⟩ := h
  have unmapped {outcome : Except RegistryError Bytes}
      (h : outcome.map Reply.authId = .ok (.authId id)) : outcome = .ok id := by
    cases outcome with
    | error e => cases h
    | ok id' => rw [Reply.authId.inj (Except.ok.inj h)]
  cases call with
  | create request' now fill =>
      obtain rfl := Option.some.inj hrequest
      exact ⟨now, admits_of_create (unmapped houtcome)⟩
  | createWithTtl expectedState pkceVerifier ttlMs callbackOwner now nowInside fill =>
      obtain rfl := Option.some.inj hrequest
      have hcreated := unmapped houtcome
      unfold Registry.createWithTtl at hcreated
      split at hcreated
      · cases hcreated
      · exact ⟨nowInside, admits_of_create hcreated⟩
  | _ => cases hrequest

/-- All sessions of the registry are coherent. -/
def Registry.Coherent (registry : Registry) : Prop :=
  ∀ (id : Bytes) (s : AuthSession), registry.sessions[id]? = some s → s.Coherent

/-- One call keeps all sessions coherent. -/
theorem coherent_exec (call : Call) (registry : Registry) (h : registry.Coherent) :
    (exec call registry).registry.Coherent := by
  intro id s' found
  have hstep := exec_entry call registry id
  rw [found] at hstep
  generalize hentry : registry.sessions[id]? = entry at hstep
  cases hstep with
  | same _ _ _ => exact h id s' hentry
  | moved c s _ addressed move =>
      subst addressed
      rw [exec_onSession_some hentry, Std.TreeMap.getElem?_insert_self] at found
      obtain rfl := Option.some.inj found
      exact coherent_effect c (h id s hentry)
  | expired now s sweep overdue old => exact coherent_ended rfl (by decide) _
  | created now request entry sweep creates free =>
      obtain ⟨now, hstate, hverifier, -⟩ := admits_of_creates creates
      exact coherent_ofRequest hstate hverifier

theorem coherent_run (calls : List Call) : (registryMachine.run {} calls).Coherent :=
  registryMachine.run_keeps (fun registry call h => coherent_exec call registry h)
    (fun id s found => by simp at found) calls

/-- In every state of every run, each session holds a state while it waits for
its callback, a code between the callback and the completion, a verifier until
the completion, and a fault after it went wrong; a session that is being
completed or is over holds no secret. -/
theorem sessions_coherent (calls : List Call) (id : Bytes)
    (found : (registryMachine.run {} calls).sessions[id]? = some s) :
    s.Coherent ∧ (terminal s.status = true ∨ s.status = .completing → s.Wiped) :=
  have hcoherent := coherent_run calls id s found
  ⟨hcoherent, hcoherent.wiped⟩

theorem sessions_coherent_login :
    (((AuthSession.ofRequest loginRequest).ended .authorized none none).Coherent ∧
      (terminal .authorized = true ∨ AuthSessionStatus.authorized = .completing →
        ((AuthSession.ofRequest loginRequest).ended .authorized none none).Wiped)) :=
  sessions_coherent loginCalls loginId (by decide +kernel)

end Data360
