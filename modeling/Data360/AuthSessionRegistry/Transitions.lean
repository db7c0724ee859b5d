import Data360.AuthSessionRegistry.Model

/-!
# The transitions of one session

`SessionCall` is an operation that is addressed to one session, and
`SessionCall.effect` is what it does to the session that it finds.

* `SessionMove` lists what a call can do to its session, and `effect_move`
  says that the list is complete.
* `effect_owner` says where the callback owner of the session goes.

Every invariant of a session is read off these two.
-/

namespace Data360

open Lib.ByteString

/-! ## Calls -/

/-- An operation that is addressed to one session. -/
inductive SessionCall where
  | snapshot (now : UInt64)
  | status (now : UInt64)
  | receiveCallback (state authorizationCode : Bytes) (now : UInt64)
  | receiveDenied (state : Bytes) (now : UInt64)
  | beginCompletion (now : UInt64)
  | finishAuthorized
  | finishFailed (fault : AuthFault)
  | fail (fault : AuthFault)
  | cancel
  | stopCallback

/-- What an operation returns. -/
inductive Reply where
  | authId (id : Bytes)
  | credentialId (id : Bytes)
  | snapshot (snapshot : AuthSessionSnapshot)
  | status (status : AuthSessionStatus)
  | material (material : AuthCompletionMaterial)
  | credentials (credentials : QueryCredentials)
  | done
  deriving DecidableEq, Repr

def SessionEffect.map {α β : Type} (f : α → β) (effect : SessionEffect α) : SessionEffect β :=
  { effect with outcome := effect.outcome.map f }

/-- What a call does to the session that it found. -/
def SessionCall.effect : SessionCall → AuthSession → SessionEffect Reply
  | .snapshot now, session => (session.snapshot now).map .snapshot
  | .status now, session => (session.snapshot now).map fun snapshot => .status snapshot.status
  | .receiveCallback state authorizationCode now, session =>
      (session.receiveCallback state authorizationCode now).map fun _ => .done
  | .receiveDenied state now, session => (session.receiveDenied state now).map fun _ => .done
  | .beginCompletion now, session => (session.beginCompletion now).map .material
  | .finishAuthorized, session => session.finishAuthorized.map fun _ => .done
  | .finishFailed fault, session => (session.finishFailed fault).map fun _ => .done
  | .fail fault, session => (session.fail fault).map fun _ => .done
  | .cancel, session => session.cancel.map fun _ => .done
  | .stopCallback, session => session.stopCallback.map fun _ => .done

/-- The call is a successful `ReceiveCallback` or a successful
`BeginCompletion`. -/
def SessionCall.advances : SessionCall → Except RegistryError Reply → Bool
  | .receiveCallback .., .ok _ => true
  | .beginCompletion _, .ok _ => true
  | _, _ => false

/-- The clock reading that a call takes. -/
def SessionCall.reading : SessionCall → Option UInt64
  | .snapshot now | .status now | .receiveCallback _ _ now | .receiveDenied _ now
  | .beginCompletion now => some now
  | _ => none

/-! ## The transitions of one session -/

/-- A session after `TerminalLocked` ended it. -/
def AuthSession.ended (session : AuthSession) (status : AuthSessionStatus)
    (fault : Option AuthFault) (owner : Option AuthCallbackOwner) : AuthSession :=
  { session with
    status, fault, callbackOwner := owner
    expectedState := [], pkceVerifier := [], authorizationCode := [] }

theorem terminalLocked_of_terminal {session : AuthSession} (h : terminal session.status)
    (status : AuthSessionStatus) (fault : Option AuthFault) (owner : Option AuthCallbackOwner)
    (releaseOwner : Bool) :
    terminalLocked session status fault owner releaseOwner = (session, owner) := by
  rw [terminalLocked, if_pos h]

/-- `TerminalLocked` on an active session ends it, and hands the owner over
or leaves it where it is. -/
theorem terminalLocked_of_active {session : AuthSession} (h : terminal session.status = false)
    (status : AuthSessionStatus) (fault : Option AuthFault) (owner : Option AuthCallbackOwner)
    (releaseOwner : Bool) :
    terminalLocked session status fault owner releaseOwner
      = if releaseOwner then (session.ended status fault none, session.callbackOwner)
        else (session.ended status fault session.callbackOwner, owner) := by
  rw [terminalLocked, if_neg (by simp [h])]
  cases releaseOwner <;> rfl

/-- A session that `ExpireLocked` expires at this reading. -/
def AuthSession.Overdue (session : AuthSession) (now : UInt64) : Prop :=
  session.status ≠ .completing ∧ terminal session.status = false ∧ session.expiresAtMs ≤ now

instance (session : AuthSession) (now : UInt64) : Decidable (session.Overdue now) :=
  inferInstanceAs (Decidable (_ ∧ _ ∧ _))

/-- `ExpireLocked` leaves a session alone or expires it. -/
theorem expireLocked_eq (session : AuthSession) (now : UInt64)
    (owner : Option AuthCallbackOwner) (releaseOwner : Bool) :
    expireLocked session now owner releaseOwner
      = if session.Overdue now then
          if releaseOwner then
            (session.ended .expired (some .sessionExpired) none, session.callbackOwner)
          else
            (session.ended .expired (some .sessionExpired) session.callbackOwner, owner)
        else (session, owner) := by
  by_cases h : session.Overdue now
  · rw [expireLocked, if_pos ⟨h.1, by simp [isActive, h.2.1], h.2.2⟩, if_pos h,
      terminalLocked_of_active h.2.1]
  · rw [expireLocked, if_neg, if_neg h]
    rintro ⟨hne, hactive, hle⟩
    exact h ⟨hne, by simpa [isActive] using hactive, hle⟩

/-- What one call can do to the session `s` that it is addressed to. -/
inductive SessionMove (call : SessionCall) (s : AuthSession) :
    AuthSession → Except RegistryError Reply → Prop
  /-- Nothing happens, except that the owner may be released. -/
  | stay (owner : Option AuthCallbackOwner) (outcome : Except RegistryError Reply)
      (quiet : call.advances outcome = false) :
      SessionMove call s { s with callbackOwner := owner } outcome
  /-- The session ends.  Only a completing session is authorized, and only
  `FinishAuthorized` and `FinishFailed` end a completing session.  One whose
  callback has arrived ends by expiry, `Cancel` or `Fail`. -/
  | ended (status : AuthSessionStatus) (fault : Option AuthFault)
      (owner : Option AuthCallbackOwner) (outcome : Except RegistryError Reply)
      (active : terminal s.status = false) (closed : terminal status = true)
      (authorized : status = .authorized → s.status = .completing)
      (completing : s.status = .completing →
        call = .finishAuthorized ∧ status = .authorized ∧ fault = none ∨
          ∃ f, call = .finishFailed f ∧ status = .failed ∧ fault = some f)
      (cause : (∃ now, call.reading = some now ∧ s.Overdue now) ∨
        s.status = .pendingUserAction ∨ s.status = .completing ∨
        call = .cancel ∨ ∃ f, call = .fail f)
      (quiet : call.advances outcome = false) :
      SessionMove call s (s.ended status fault owner) outcome
  /-- `ReceiveCallback` accepts the code. -/
  | received (authorizationCode : Bytes) (now : UInt64)
      (call_eq : call = .receiveCallback s.expectedState authorizationCode now)
      (pending : s.status = .pendingUserAction) (nonempty : authorizationCode ≠ [])
      (inTime : now < s.expiresAtMs) :
      SessionMove call s
        { s with authorizationCode, expectedState := [], status := .callbackReceived }
        (.ok .done)
  /-- `BeginCompletion` hands the code and the verifier out. -/
  | begun (now : UInt64) (call_eq : call = .beginCompletion now)
      (ready : s.status = .callbackReceived) (inTime : now < s.expiresAtMs) :
      SessionMove call s
        { s with status := .completing, authorizationCode := [], pkceVerifier := [] }
        (.ok (.material {
          authorizationCode := s.authorizationCode
          pkceVerifier := s.pkceVerifier
          loginOrigin := s.loginOrigin
          clientId := s.clientId
          secretName := s.secretName }))

variable {call : SessionCall} {s : AuthSession}

theorem SessionMove.refl {outcome : Except RegistryError Reply}
    (quiet : call.advances outcome = false) : SessionMove call s s outcome :=
  .stay s.callbackOwner outcome quiet

/-- Expiry is a move of every call that does not advance the session. -/
theorem SessionMove.expired {now : UInt64} {outcome : Except RegistryError Reply}
    (reading : call.reading = some now) (h : s.Overdue now) (quiet : call.advances outcome = false)
    (owner : Option AuthCallbackOwner) :
    SessionMove call s (s.ended .expired (some .sessionExpired) owner) outcome :=
  .ended .expired _ owner outcome h.2.1 rfl (fun he => by simp at he)
    (fun hc => absurd hc h.1) (.inl ⟨now, reading, h⟩) quiet

/-- A pending or answered session can end in any way that is not
authorization. -/
theorem SessionMove.close {status : AuthSessionStatus} {fault : Option AuthFault}
    {owner : Option AuthCallbackOwner} {outcome : Except RegistryError Reply}
    (hne : s.status ≠ .completing) (active : terminal s.status = false)
    (closed : terminal status = true) (hauth : status ≠ .authorized)
    (cause : s.status = .pendingUserAction ∨ call = .cancel ∨ ∃ f, call = .fail f)
    (quiet : call.advances outcome = false) :
    SessionMove call s (s.ended status fault owner) outcome :=
  .ended status fault owner outcome active closed (fun he => absurd he hauth)
    (fun hc => absurd hc hne) (.inr (cause.imp_right .inr)) quiet

@[simp] theorem ended_status (status : AuthSessionStatus) (fault : Option AuthFault)
    (owner : Option AuthCallbackOwner) : (s.ended status fault owner).status = status := rfl

@[simp] theorem ended_callbackOwner (status : AuthSessionStatus) (fault : Option AuthFault)
    (owner : Option AuthCallbackOwner) :
    (s.ended status fault owner).callbackOwner = owner := rfl

/-- `Snapshot` expires an overdue session; it takes the owner out of a
session that is terminal already. -/
theorem AuthSession.snapshot_session (now : UInt64) (s : AuthSession) :
    (s.snapshot now).session
      = if s.Overdue now then s.ended .expired (some .sessionExpired) none
        else if terminal s.status then { s with callbackOwner := none } else s := by
  unfold AuthSession.snapshot
  rw [expireLocked_eq]
  by_cases h : s.Overdue now
  · rcases howner : s.callbackOwner with _ | owner
    · simp [h, terminal, AuthSession.ended]
    · simp [h, terminal]
  · by_cases hterm : terminal s.status = true <;> simp [h, hterm]

private theorem snapshot_move {now : UInt64} (reading : call.reading = some now)
    (outcome : Except RegistryError Reply) (quiet : call.advances outcome = false) :
    SessionMove call s (s.snapshot now).session outcome := by
  rw [AuthSession.snapshot_session]
  split
  · rename_i h
    exact .expired reading h quiet none
  · split
    · exact .stay none outcome quiet
    · exact .refl quiet

private theorem receiveCallback_move (state authorizationCode : Bytes) (now : UInt64) :
    SessionMove (.receiveCallback state authorizationCode now) s
      ((SessionCall.receiveCallback state authorizationCode now).effect s).session
      ((SessionCall.receiveCallback state authorizationCode now).effect s).outcome := by
  simp only [SessionCall.effect, SessionEffect.map, AuthSession.receiveCallback]
  rw [expireLocked_eq]
  by_cases h : s.Overdue now
  · simp only [h, if_true, Bool.false_eq_true, if_false, ended_status, ne_eq, reduceCtorEq,
      not_false_eq_true, true_or]
    exact .expired rfl h rfl s.callbackOwner
  · simp only [h, if_false]
    by_cases hready : s.status ≠ .pendingUserAction ∨ authorizationCode = []
    · rw [if_pos hready]
      exact .refl rfl
    · rw [if_neg hready]
      obtain ⟨hpending, hcode⟩ := not_or.mp hready
      have hpending : s.status = .pendingUserAction := not_not.mp hpending
      have hactive : terminal s.status = false := by rw [hpending]; rfl
      by_cases hstate : constantTimeEquals s.expectedState state
      · rw [if_neg (by simp [hstate])]
        obtain rfl := (constantTimeEquals_iff _ _).mp hstate
        have hlt : now < s.expiresAtMs := by
          refine UInt64.not_le.mp fun hle => h ⟨?_, hactive, hle⟩
          rw [hpending]
          decide
        exact .received authorizationCode now rfl hpending hcode hlt
      · rw [if_pos (by simp [hstate]), terminalLocked_of_active hactive]
        exact .close (by rw [hpending]; decide) hactive rfl (by decide) (.inl hpending) rfl

private theorem receiveDenied_move (state : Bytes) (now : UInt64) :
    SessionMove (.receiveDenied state now) s
      ((SessionCall.receiveDenied state now).effect s).session
      ((SessionCall.receiveDenied state now).effect s).outcome := by
  simp only [SessionCall.effect, SessionEffect.map, AuthSession.receiveDenied]
  rw [expireLocked_eq]
  by_cases h : s.Overdue now
  · simp only [h, if_true, Bool.false_eq_true, if_false, ended_status, ne_eq, reduceCtorEq,
      not_false_eq_true]
    exact .expired rfl h rfl s.callbackOwner
  · simp only [h, if_false]
    by_cases hpending : s.status = .pendingUserAction
    · have hactive : terminal s.status = false := by rw [hpending]; rfl
      have hne : s.status ≠ .completing := by rw [hpending]; decide
      rw [if_neg (not_not.mpr hpending), terminalLocked_of_active hactive,
        terminalLocked_of_active hactive]
      split
      · exact .close hne hactive rfl (by decide) (.inl hpending) rfl
      · exact .close hne hactive rfl (by decide) (.inl hpending) rfl
    · rw [if_pos hpending]
      exact .refl rfl

private theorem beginCompletion_move (now : UInt64) :
    SessionMove (.beginCompletion now) s
      ((SessionCall.beginCompletion now).effect s).session
      ((SessionCall.beginCompletion now).effect s).outcome := by
  simp only [SessionCall.effect, SessionEffect.map, AuthSession.beginCompletion]
  rw [expireLocked_eq]
  by_cases h : s.Overdue now
  · simp only [h, if_true, ended_status, ne_eq, reduceCtorEq, not_false_eq_true]
    exact .expired rfl h rfl none
  · simp only [h, if_false]
    by_cases hready : s.status = .callbackReceived
    · rw [if_neg (not_not.mpr hready)]
      have hlt : now < s.expiresAtMs := by
        refine UInt64.not_le.mp fun hle => h ⟨?_, ?_, hle⟩ <;> rw [hready]
        · decide
        · rfl
      exact .begun now rfl hready hlt
    · rw [if_pos hready]
      exact .refl rfl

/-- The two finishers end a completing session and refuse every other one. -/
private theorem finish_move (status : AuthSessionStatus) (fault : Option AuthFault)
    (closed : terminal status = true)
    (finishes : call = .finishAuthorized ∧ status = .authorized ∧ fault = none ∨
      ∃ f, call = .finishFailed f ∧ status = .failed ∧ fault = some f) :
    SessionMove call s ((s.finish status fault).map fun _ => Reply.done).session
      ((s.finish status fault).map fun _ => Reply.done).outcome := by
  have quiet (outcome) : call.advances outcome = false := by
    rcases finishes with ⟨rfl, -⟩ | ⟨f, rfl, -⟩ <;> rfl
  simp only [SessionEffect.map, AuthSession.finish]
  by_cases hcompleting : s.status = .completing
  · have hactive : terminal s.status = false := by rw [hcompleting]; rfl
    rw [if_neg (not_not.mpr hcompleting), terminalLocked_of_active hactive]
    exact .ended status fault none _ hactive closed (fun _ => hcompleting)
      (fun _ => finishes) (.inr (.inr (.inl hcompleting))) (quiet _)
  · rw [if_pos hcompleting]
    exact .refl (quiet _)

/-- `Fail` and `Cancel` end a session that is neither completing nor over. -/
private theorem interrupt_move (status : AuthSessionStatus) (fault : Option AuthFault)
    (closed : terminal status = true) (hauth : status ≠ .authorized)
    (cause : call = .cancel ∨ ∃ f, call = .fail f)
    (quiet : ∀ outcome, call.advances outcome = false) :
    SessionMove call s ((s.interrupt status fault).map fun _ => Reply.done).session
      ((s.interrupt status fault).map fun _ => Reply.done).outcome := by
  simp only [SessionEffect.map, AuthSession.interrupt]
  by_cases hcompleting : s.status = .completing
  · rw [if_pos hcompleting]
    exact .refl (quiet _)
  · rw [if_neg hcompleting]
    by_cases hterm : terminal s.status = true
    · rw [terminalLocked_of_terminal hterm]
      exact .refl (quiet _)
    · have hactive : terminal s.status = false := by simpa using hterm
      rw [terminalLocked_of_active hactive]
      exact .close hcompleting hactive closed hauth (.inr cause) (quiet _)

/-- `SessionMove` says everything that a call can do to its session. -/
theorem effect_move (call : SessionCall) (s : AuthSession) :
    SessionMove call s (call.effect s).session (call.effect s).outcome := by
  cases call with
  | snapshot now => exact snapshot_move rfl _ rfl
  | status now => exact snapshot_move rfl _ rfl
  | receiveCallback state authorizationCode now =>
      exact receiveCallback_move state authorizationCode now
  | receiveDenied state now => exact receiveDenied_move state now
  | beginCompletion now => exact beginCompletion_move now
  | finishAuthorized => exact finish_move .authorized none rfl (.inl ⟨rfl, rfl, rfl⟩)
  | finishFailed fault => exact finish_move .failed (some fault) rfl (.inr ⟨fault, rfl, rfl, rfl⟩)
  | fail fault =>
      exact interrupt_move .failed (some fault) rfl (by decide) (.inr ⟨fault, rfl⟩) fun _ => rfl
  | cancel => exact interrupt_move .cancelled none rfl (by decide) (.inl rfl) fun _ => rfl
  | stopCallback => exact .stay none _ rfl

/-! ## The owner of the session -/

theorem expireLocked_owner (now : UInt64) (s : AuthSession) :
    (expireLocked s now none true).1.callbackOwner.toList
        ++ (expireLocked s now none true).2.toList
      = s.callbackOwner.toList := by
  rw [expireLocked_eq]
  by_cases h : s.Overdue now <;> simp [h]

private theorem snapshot_owner (now : UInt64) (s : AuthSession) :
    (s.snapshot now).session.callbackOwner.toList ++ (s.snapshot now).stops
      = s.callbackOwner.toList := by
  unfold AuthSession.snapshot
  rw [expireLocked_eq]
  by_cases h : s.Overdue now
  · cases s.callbackOwner <;> simp [h, terminal]
  · by_cases hterm : terminal s.status = true <;> simp [h, hterm]

/-- A transition that keeps the owner in the session stops nobody. -/
private theorem terminalLocked_kept (status : AuthSessionStatus) (fault : Option AuthFault)
    (s : AuthSession) :
    (terminalLocked s status fault none false).1.callbackOwner = s.callbackOwner ∧
      (terminalLocked s status fault none false).2 = none := by
  unfold terminalLocked
  split <;> simp

private theorem receiveCallback_owner (state authorizationCode : Bytes) (now : UInt64)
    (s : AuthSession) :
    (s.receiveCallback state authorizationCode now).session.callbackOwner.toList
        ++ (s.receiveCallback state authorizationCode now).stops
      = s.callbackOwner.toList := by
  have hkept (t : AuthSession) := terminalLocked_kept .failed (some .stateMismatch) t
  unfold AuthSession.receiveCallback
  rw [expireLocked_eq]
  by_cases h : s.Overdue now
  · simp [h]
  · simp only [h, if_false]
    split
    · simp
    · split
      · simp [(hkept s).1, (hkept s).2]
      · simp

private theorem receiveDenied_owner (state : Bytes) (now : UInt64) (s : AuthSession) :
    (s.receiveDenied state now).session.callbackOwner.toList ++ (s.receiveDenied state now).stops
      = s.callbackOwner.toList := by
  have hkept (status fault) (t : AuthSession) := terminalLocked_kept status fault t
  unfold AuthSession.receiveDenied
  rw [expireLocked_eq]
  by_cases h : s.Overdue now
  · simp [h]
  · simp only [h, if_false]
    split
    · simp
    · split <;> simp [(hkept _ _ s).1]

private theorem beginCompletion_owner (now : UInt64) (s : AuthSession) :
    (s.beginCompletion now).session.callbackOwner.toList ++ (s.beginCompletion now).stops
      = s.callbackOwner.toList := by
  unfold AuthSession.beginCompletion
  rw [expireLocked_eq]
  by_cases h : s.Overdue now
  · simp [h]
  · simp only [h, if_false]
    split <;> simp

private theorem terminalLocked_owner (status : AuthSessionStatus) (fault : Option AuthFault)
    (s : AuthSession) :
    (terminalLocked s status fault none true).1.callbackOwner.toList
        ++ (terminalLocked s status fault none true).2.toList
      = s.callbackOwner.toList := by
  unfold terminalLocked
  split <;> simp

private theorem finish_owner (status : AuthSessionStatus) (fault : Option AuthFault)
    (s : AuthSession) :
    (s.finish status fault).session.callbackOwner.toList ++ (s.finish status fault).stops
      = s.callbackOwner.toList := by
  unfold AuthSession.finish
  split
  · simp
  · exact terminalLocked_owner status fault s

private theorem interrupt_owner (status : AuthSessionStatus) (fault : Option AuthFault)
    (s : AuthSession) :
    (s.interrupt status fault).session.callbackOwner.toList ++ (s.interrupt status fault).stops
      = s.callbackOwner.toList := by
  unfold AuthSession.interrupt
  split
  · simp
  · exact terminalLocked_owner status fault s

/-- The owner stays in the session or is stopped, never both and never
neither. -/
theorem effect_owner (call : SessionCall) (s : AuthSession) :
    (call.effect s).session.callbackOwner.toList ++ (call.effect s).stops
      = s.callbackOwner.toList := by
  cases call with
  | snapshot now => exact snapshot_owner now s
  | status now => exact snapshot_owner now s
  | receiveCallback state authorizationCode now =>
      exact receiveCallback_owner state authorizationCode now s
  | receiveDenied state now => exact receiveDenied_owner state now s
  | beginCompletion now => exact beginCompletion_owner now s
  | finishAuthorized => exact finish_owner _ _ s
  | finishFailed fault => exact finish_owner _ _ s
  | fail fault => exact interrupt_owner _ _ s
  | cancel => exact interrupt_owner _ _ s
  | stopCallback => rfl

end Data360
