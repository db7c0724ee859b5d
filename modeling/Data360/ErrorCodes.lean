import Mathlib.Logic.Basic

/-!
# The stable authentication faults

`src/error_codes.cpp`.  Every fault has one row in the table of safe faults:
a code, a symbol and a message that name no provider data.
-/

namespace Data360

/-- `AuthFault`. -/
inductive AuthFault where
  | invalidLoginOrigin
  | invalidClientId
  | callbackPortUnavailable
  | callbackProtocolError
  | stateMismatch
  | userDenied
  | sessionExpired
  | networkUnavailable
  | tlsFailure
  | tokenExchangeFailed
  | data360ExchangeFailed
  | orgPolicyDenied
  | secretNameInvalid
  | persistenceForbidden
  | authSessionNotFound
  | authSessionLimitReached
  | reauthRequired
  | unsupportedPlatform
  deriving DecidableEq, Repr

/-- `SafeFault`: one row of the table. -/
structure SafeFault where
  fault : AuthFault
  code : String
  symbol : String
  message : String
  deriving DecidableEq, Repr

/-- `SAFE_FAULTS`. -/
def safeFaults : List SafeFault := [
  ⟨.invalidLoginOrigin, "D360-AUTH-001", "INVALID_LOGIN_ORIGIN",
    "The login origin is invalid"⟩,
  ⟨.invalidClientId, "D360-AUTH-002", "INVALID_CLIENT_ID",
    "The OAuth client identifier is invalid"⟩,
  ⟨.callbackPortUnavailable, "D360-AUTH-003", "CALLBACK_PORT_UNAVAILABLE",
    "The local callback port is unavailable"⟩,
  ⟨.callbackProtocolError, "D360-AUTH-004", "CALLBACK_PROTOCOL_ERROR",
    "The OAuth callback was invalid"⟩,
  ⟨.stateMismatch, "D360-AUTH-005", "STATE_MISMATCH",
    "The OAuth callback state did not match"⟩,
  ⟨.userDenied, "D360-AUTH-006", "USER_DENIED", "Authorization was denied"⟩,
  ⟨.sessionExpired, "D360-AUTH-007", "SESSION_EXPIRED",
    "The authorization session expired"⟩,
  ⟨.networkUnavailable, "D360-AUTH-008", "NETWORK_UNAVAILABLE",
    "The authorization service is unavailable"⟩,
  ⟨.tlsFailure, "D360-AUTH-009", "TLS_FAILURE",
    "A secure connection could not be established"⟩,
  ⟨.tokenExchangeFailed, "D360-AUTH-010", "TOKEN_EXCHANGE_FAILED",
    "The OAuth token exchange failed"⟩,
  ⟨.data360ExchangeFailed, "D360-AUTH-011", "DATA360_EXCHANGE_FAILED",
    "The Data 360 token exchange failed"⟩,
  ⟨.orgPolicyDenied, "D360-AUTH-012", "ORG_POLICY_DENIED",
    "Organization policy denied authorization"⟩,
  ⟨.secretNameInvalid, "D360-AUTH-013", "SECRET_NAME_INVALID",
    "The secret name is invalid"⟩,
  ⟨.persistenceForbidden, "D360-AUTH-014", "PERSISTENCE_FORBIDDEN",
    "Data 360 OAuth session secrets are temporary"⟩,
  ⟨.authSessionNotFound, "D360-AUTH-015", "AUTH_SESSION_NOT_FOUND",
    "The authorization session was not found"⟩,
  ⟨.authSessionLimitReached, "D360-AUTH-016", "AUTH_SESSION_LIMIT_REACHED",
    "The authorization session limit was reached"⟩,
  ⟨.reauthRequired, "D360-AUTH-017", "REAUTH_REQUIRED", "Authorization is required"⟩,
  ⟨.unsupportedPlatform, "D360-AUTH-018", "UNSUPPORTED_PLATFORM",
    "Interactive authorization is unsupported on this platform"⟩]

/-- The row that `GetSafeFault` falls back to, `SAFE_FAULTS[3]`. -/
def fallbackFault : SafeFault :=
  ⟨.callbackProtocolError, "D360-AUTH-004", "CALLBACK_PROTOCOL_ERROR",
    "The OAuth callback was invalid"⟩

/-- `GetSafeFault`. -/
def getSafeFault (fault : AuthFault) : SafeFault :=
  (safeFaults.find? fun entry => entry.fault = fault).getD fallbackFault

/-- `FormatSafeFault`. -/
def formatSafeFault (fault : AuthFault) : String :=
  let safe := getSafeFault fault
  safe.code ++ " " ++ safe.symbol ++ ": " ++ safe.message

/-- The table has a row of its own for every fault, so the fallback is never
used. -/
theorem getSafeFault_fault (fault : AuthFault) : (getSafeFault fault).fault = fault := by
  cases fault <;> rfl

/-- No two faults share a code. -/
theorem safeFaults_code_nodup : (safeFaults.map SafeFault.code).Nodup := by
  decide

end Data360
