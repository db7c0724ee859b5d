import Data360.ErrorCodes
import Data360.OAuthPkce
import Data360.QueryApi.Model

/-!
# The session registry

`src/auth_session_registry.cpp`.  The registry is one object behind one
mutex: every operation does all its work on the two maps in a single
critical section and calls `StopAndJoin` on the callback owners it took out
of them after it has let the mutex go.  An operation is therefore a function
from the registry to an `Effect`: the registry it leaves behind, the owners
it stops, and what it returns or throws.

What an operation reads from outside is an argument of it: the clock
readings in the order in which they are taken, and what each call of
`RandomSource::Fill` does.

The operations on one session are written on the session (`SessionEffect`)
and lifted with `Registry.onSession`, which is `FindLocked`.

A moved-from `std::string` is the empty string here, and a moved-from
`std::shared_ptr` is null.  A callback owner is its identity.
-/

namespace Data360

open Lib.ByteString

/-! ## The data -/

/-- `AuthSessionStatus`. -/
inductive AuthSessionStatus where
  | pendingUserAction
  | callbackReceived
  | completing
  | authorized
  | accessDenied
  | expired
  | cancelled
  | failed
  deriving DecidableEq, Repr

/-- The identity of an `AuthCallbackOwner` object. -/
abbrev AuthCallbackOwner := Nat

/-- `AuthStartRequest`. -/
structure AuthStartRequest where
  loginOrigin : Bytes := []
  clientId : Bytes := []
  secretName : Bytes := []
  expectedState : Bytes := []
  pkceVerifier : Bytes := []
  expiresAtMonotonicMs : UInt64 := 0
  expiresAtUtcMicros : Int64 := 0
  callbackOwner : Option AuthCallbackOwner := none
  deriving DecidableEq, Repr

/-- `AuthSessionSnapshot`. -/
structure AuthSessionSnapshot where
  status : AuthSessionStatus
  secretName : Bytes
  expiresAtUtcMicros : Int64
  fault : Option AuthFault
  deriving DecidableEq, Repr

/-- `AuthCompletionMaterial`. -/
structure AuthCompletionMaterial where
  authorizationCode : Bytes
  pkceVerifier : Bytes
  loginOrigin : Bytes
  clientId : Bytes
  secretName : Bytes
  deriving DecidableEq, Repr

/-- `AuthSessionRegistry::Session`. -/
structure AuthSession where
  status : AuthSessionStatus := .pendingUserAction
  expectedState : Bytes := []
  pkceVerifier : Bytes := []
  authorizationCode : Bytes := []
  loginOrigin : Bytes := []
  clientId : Bytes := []
  secretName : Bytes := []
  expiresAtMs : UInt64 := 0
  expiresAtUtcMicros : Int64 := 0
  fault : Option AuthFault := none
  callbackOwner : Option AuthCallbackOwner := none
  deriving DecidableEq, Repr

/-- `AuthSessionRegistry::Credential`. -/
structure Credential where
  instanceUrl : Bytes
  accessToken : Bytes
  expiresAtMs : UInt64
  deriving DecidableEq, Repr

/-- `AuthSessionRegistry`: the two maps. -/
structure Registry where
  sessions : StringMap AuthSession := ∅
  credentials : StringMap Credential := ∅

/-- What a registry operation throws: an `AuthSessionError`, or what
`RandomSource::Fill` threw. -/
inductive RegistryError where
  | fault (fault : AuthFault)
  | entropy
  deriving DecidableEq, Repr

/-- What an operation does: the registry it leaves, the owners on which it
calls `StopAndJoin`, and its result. -/
structure Effect (α : Type) where
  registry : Registry
  stops : List AuthCallbackOwner := []
  outcome : Except RegistryError α

/-- What an operation does to the session that it found. -/
structure SessionEffect (α : Type) where
  session : AuthSession
  stops : List AuthCallbackOwner := []
  outcome : Except RegistryError α

/-- `throw AuthSessionError(fault);` -/
def authSessionError {α : Type} (fault : AuthFault) : Except RegistryError α :=
  .error (.fault fault)

/-! ## Transitions of one session -/

/-- `Terminal`. -/
def terminal : AuthSessionStatus → Bool
  | .authorized | .accessDenied | .expired | .cancelled | .failed => true
  | .pendingUserAction | .callbackReceived | .completing => false

/-- `AuthSessionRegistry::IsActive`. -/
def isActive (status : AuthSessionStatus) : Bool := !terminal status

/-- `AuthSessionRegistry::TerminalLocked`.  `owner` is the reference through
which a released owner reaches the caller. -/
def terminalLocked (session : AuthSession) (status : AuthSessionStatus)
    (fault : Option AuthFault) (owner : Option AuthCallbackOwner) (releaseOwner : Bool) :
    AuthSession × Option AuthCallbackOwner :=
  if terminal session.status then (session, owner)
  else
    let session := { session with
      status, fault, expectedState := [], pkceVerifier := [], authorizationCode := [] }
    if releaseOwner then
      ({ session with callbackOwner := none }, session.callbackOwner)
    else (session, owner)

/-- `AuthSessionRegistry::ExpireLocked`. -/
def expireLocked (session : AuthSession) (now : UInt64) (owner : Option AuthCallbackOwner)
    (releaseOwner : Bool) : AuthSession × Option AuthCallbackOwner :=
  -- A completing session belongs to the completion path, even when it is overdue.
  if session.status ≠ .completing ∧ isActive session.status ∧ session.expiresAtMs ≤ now then
    terminalLocked session .expired (some .sessionExpired) owner releaseOwner
  else (session, owner)

/-- The critical section of `Snapshot`. -/
def AuthSession.snapshot (now : UInt64) (session : AuthSession) :
    SessionEffect AuthSessionSnapshot :=
  let (session, owner) := expireLocked session now none true
  -- A terminal session gives up an owner that a worker left in it.
  let (session, owner) :=
    if terminal session.status ∧ owner.isNone then
      ({ session with callbackOwner := none }, session.callbackOwner)
    else (session, owner)
  { session
    stops := owner.toList
    outcome := .ok {
      status := session.status
      secretName := session.secretName
      expiresAtUtcMicros := session.expiresAtUtcMicros
      fault := session.fault } }

/-- The critical section of `ReceiveCallback`. -/
def AuthSession.receiveCallback (state authorizationCode : Bytes) (now : UInt64)
    (session : AuthSession) : SessionEffect Unit :=
  -- The callback worker calls this, so the owner stays in the session.
  let (session, expiredOwner) := expireLocked session now none false
  if session.status ≠ .pendingUserAction ∨ authorizationCode = [] then
    { session, stops := expiredOwner.toList, outcome := authSessionError .callbackProtocolError }
  else if !constantTimeEquals session.expectedState state then
    let (session, expiredOwner) :=
      terminalLocked session .failed (some .stateMismatch) expiredOwner false
    { session, stops := expiredOwner.toList, outcome := authSessionError .stateMismatch }
  else
    { session := { session with
        authorizationCode, expectedState := [], status := .callbackReceived }
      stops := expiredOwner.toList
      outcome := .ok () }

/-- The critical section of `ReceiveDenied`. -/
def AuthSession.receiveDenied (state : Bytes) (now : UInt64) (session : AuthSession) :
    SessionEffect Unit :=
  let (session, _) := expireLocked session now none false
  if session.status ≠ .pendingUserAction then
    { session, outcome := authSessionError .callbackProtocolError }
  else if !constantTimeEquals session.expectedState state then
    { session := (terminalLocked session .failed (some .stateMismatch) none false).1
      outcome := authSessionError .stateMismatch }
  else
    { session := (terminalLocked session .accessDenied (some .userDenied) none false).1
      outcome := .ok () }

/-- The critical section of `BeginCompletion`. -/
def AuthSession.beginCompletion (now : UInt64) (session : AuthSession) :
    SessionEffect AuthCompletionMaterial :=
  let (session, owner) := expireLocked session now none true
  if session.status ≠ .callbackReceived then
    { session, stops := owner.toList, outcome := authSessionError .callbackProtocolError }
  else
    { session := { session with
        status := .completing, authorizationCode := [], pkceVerifier := [] }
      outcome := .ok {
        authorizationCode := session.authorizationCode
        pkceVerifier := session.pkceVerifier
        loginOrigin := session.loginOrigin
        clientId := session.clientId
        secretName := session.secretName } }

/-- The critical section that `FinishAuthorized` and `FinishFailed` share:
only a completing session can be finished. -/
def AuthSession.finish (status : AuthSessionStatus) (fault : Option AuthFault)
    (session : AuthSession) : SessionEffect Unit :=
  if session.status ≠ .completing then
    { session, outcome := authSessionError .callbackProtocolError }
  else
    let (session, owner) := terminalLocked session status fault none true
    { session, stops := owner.toList, outcome := .ok () }

/-- The critical section that `Fail` and `Cancel` share: a completing session
is left alone. -/
def AuthSession.interrupt (status : AuthSessionStatus) (fault : Option AuthFault)
    (session : AuthSession) : SessionEffect Unit :=
  if session.status = .completing then { session, outcome := .ok () }
  else
    let (session, owner) := terminalLocked session status fault none true
    { session, stops := owner.toList, outcome := .ok () }

/-- The critical section of `FinishAuthorized`. -/
def AuthSession.finishAuthorized : AuthSession → SessionEffect Unit :=
  AuthSession.finish .authorized none

/-- The critical section of `FinishFailed`. -/
def AuthSession.finishFailed (fault : AuthFault) : AuthSession → SessionEffect Unit :=
  AuthSession.finish .failed (some fault)

/-- The critical section of `Fail`. -/
def AuthSession.fail (fault : AuthFault) : AuthSession → SessionEffect Unit :=
  AuthSession.interrupt .failed (some fault)

/-- The critical section of `Cancel`. -/
def AuthSession.cancel : AuthSession → SessionEffect Unit :=
  AuthSession.interrupt .cancelled none

/-- The critical section of `StopCallback`. -/
def AuthSession.stopCallback (session : AuthSession) : SessionEffect Unit :=
  { session := { session with callbackOwner := none }
    stops := session.callbackOwner.toList
    outcome := .ok () }

/-- The session that `Create` builds from a request. -/
def AuthSession.ofRequest (request : AuthStartRequest) : AuthSession where
  expectedState := request.expectedState
  pkceVerifier := request.pkceVerifier
  loginOrigin := request.loginOrigin
  clientId := request.clientId
  secretName := request.secretName
  expiresAtMs := request.expiresAtMonotonicMs
  expiresAtUtcMicros := request.expiresAtUtcMicros
  callbackOwner := request.callbackOwner

namespace Registry

/-! ## Operations on one session -/

/-- `FindLocked`, and the change of the session it finds. -/
def onSession {α : Type} (registry : Registry) (authId : Bytes)
    (f : AuthSession → SessionEffect α) : Effect α :=
  match registry.sessions[authId]? with
  | none => { registry, outcome := authSessionError .authSessionNotFound }
  | some session =>
      let effect := f session
      { registry := { registry with
          sessions := registry.sessions.insert authId effect.session }
        stops := effect.stops
        outcome := effect.outcome }

/-- `StopCallback` looks for the session itself and is silent when there is
none. -/
def stopCallback (registry : Registry) (authId : Bytes) : Effect Unit :=
  match registry.sessions[authId]? with
  | none => { registry, outcome := .ok () }
  | some _ => registry.onSession authId AuthSession.stopCallback

/-! ## Create -/

/-- The loop that draws an identifier: at most `attempts` draws, the first
one that is free wins.  The empty string says that none was free. -/
def drawId (taken : Bytes → Bool) (fill : Nat → Entropy) :
    Nat → Nat → Except RegistryError Bytes
  | 0, _ => .ok []
  | attempts + 1, attempt =>
      match fill attempt with
      | none => .error .entropy
      | some buffer =>
          let id := generateOpaqueId buffer
          if taken id then drawId taken fill attempts (attempt + 1) else .ok id

/-- `!sessions.count(id) && !credentials.count(id)`, negated. -/
def taken (registry : Registry) (id : Bytes) : Bool :=
  registry.sessions.contains id || registry.credentials.contains id

/-- The sweep of `Create` over all sessions. -/
def sweep (registry : Registry) (now : UInt64) : Registry :=
  { registry with
    sessions := registry.sessions.map fun _ session => (expireLocked session now none true).1 }

/-- The owners that the sweep of `Create` collects. -/
def sweptOwners (registry : Registry) (now : UInt64) : List AuthCallbackOwner :=
  registry.sessions.toList.filterMap fun entry => (expireLocked entry.2 now none true).2

/-- `while (sessions.size() >= 32)` erase the first terminal session.  Each
iteration erases one, so the size is fuel enough. -/
def evict : Nat → StringMap AuthSession → StringMap AuthSession
  | 0, sessions => sessions
  | fuel + 1, sessions =>
      if 32 ≤ sessions.size then
        match sessions.toList.find? fun entry => terminal entry.2.status with
        | none => sessions
        | some old => evict fuel (sessions.erase old.1)
      else sessions

/-- The sessions that `Create` goes on with after the sweep and the eviction. -/
def prune (registry : Registry) (now : UInt64) : Registry :=
  let swept := registry.sweep now
  { swept with sessions := evict swept.sessions.size swept.sessions }

/-- The number of active sessions. -/
def activeCount (registry : Registry) : Nat :=
  registry.sessions.toList.countP fun entry => isActive entry.2.status

/-- `Create(AuthStartRequest)`. -/
def create (registry : Registry) (request : AuthStartRequest) (now : UInt64)
    (fill : Nat → Entropy) : Effect Bytes :=
  if request.expectedState = [] ∨ request.pkceVerifier = [] ∨
      request.expiresAtMonotonicMs = 0 then
    { registry, outcome := authSessionError .callbackProtocolError }
  else if request.expiresAtMonotonicMs ≤ now then
    { registry, outcome := authSessionError .sessionExpired }
  else
    let expiredOwners := registry.sweptOwners now
    let registry := registry.prune now
    if 4 ≤ registry.activeCount then
      { registry, stops := expiredOwners, outcome := authSessionError .authSessionLimitReached }
    else
      match drawId registry.taken fill 16 0 with
      -- What `Fill` throws leaves `Create` past every `StopOwners`.
      | .error error => { registry, outcome := .error error }
      | .ok [] =>
          { registry, stops := expiredOwners,
            outcome := authSessionError .authSessionLimitReached }
      | .ok id =>
          { registry := { registry with
              sessions := registry.sessions.insert id (AuthSession.ofRequest request) }
            stops := expiredOwners
            outcome := .ok id }

/-- The request that the compatibility entry point builds. -/
def ttlRequest (expectedState pkceVerifier : Bytes) (expiresAtMs : UInt64)
    (callbackOwner : Option AuthCallbackOwner) : AuthStartRequest :=
  { expectedState, pkceVerifier, expiresAtMonotonicMs := expiresAtMs, callbackOwner }

/-- `Create(expected_state, pkce_verifier, ttl_ms, callback_owner)`.  It reads
the clock once itself and once more inside `Create`. -/
def createWithTtl (registry : Registry) (expectedState pkceVerifier : Bytes) (ttlMs : UInt64)
    (callbackOwner : Option AuthCallbackOwner) (now nowInside : UInt64)
    (fill : Nat → Entropy) : Effect Bytes :=
  if ttlMs = 0 ∨ ttlMs > 0xffffffffffffffff - now then
    { registry, outcome := authSessionError .sessionExpired }
  else
    registry.create (ttlRequest expectedState pkceVerifier (now + ttlMs) callbackOwner)
      nowInside fill

/-! ## Credentials -/

/-- `StoreCredential`.  The first reading is taken before the lock, the second
one under it. -/
def storeCredential (registry : Registry) (instanceUrl accessToken : Bytes)
    (expiresAtMs now nowLocked : UInt64) (fill : Nat → Entropy) : Effect Bytes :=
  if instanceUrl = [] ∨ accessToken = [] ∨ expiresAtMs ≤ now then
    { registry, outcome := authSessionError .reauthRequired }
  else
    let registry := { registry with
      credentials := registry.credentials.filter fun _ credential =>
        !decide (credential.expiresAtMs ≤ nowLocked) }
    if 16 ≤ registry.credentials.size then
      { registry, outcome := authSessionError .authSessionLimitReached }
    else
      match drawId registry.taken fill 16 0 with
      | .error error => { registry, outcome := .error error }
      | .ok [] => { registry, outcome := authSessionError .authSessionLimitReached }
      | .ok id =>
          { registry := { registry with
              credentials := registry.credentials.insert id
                { instanceUrl, accessToken, expiresAtMs } }
            outcome := .ok id }

/-- `ResolveCredential`. -/
def resolveCredential (registry : Registry) (credentialId : Bytes) (now : UInt64) :
    Effect QueryCredentials :=
  match registry.credentials[credentialId]? with
  | none => { registry, outcome := authSessionError .reauthRequired }
  | some found =>
      if found.expiresAtMs ≤ now then
        { registry := { registry with credentials := registry.credentials.erase credentialId }
          outcome := authSessionError .reauthRequired }
      else
        { registry, outcome := .ok ⟨found.instanceUrl, found.accessToken⟩ }

/-- `RemoveCredential`. -/
def removeCredential (registry : Registry) (credentialId : Bytes) : Effect Unit :=
  { registry := { registry with credentials := registry.credentials.erase credentialId }
    outcome := .ok () }

end Registry

/-- `AuthStatusName`.  A completing session shows as one whose callback has
arrived. -/
def authStatusName : AuthSessionStatus → String
  | .pendingUserAction => "PENDING_USER_ACTION"
  | .callbackReceived => "CALLBACK_RECEIVED"
  | .completing => "CALLBACK_RECEIVED"
  | .authorized => "AUTHORIZED"
  | .accessDenied => "ACCESS_DENIED"
  | .expired => "EXPIRED"
  | .cancelled => "CANCELLED"
  | .failed => "FAILED"

end Data360
