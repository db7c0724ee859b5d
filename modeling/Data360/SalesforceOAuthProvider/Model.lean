import Data360.AuthFunctions
import Data360.OAuthPkce.AuthorizationUrl
import Data360.OAuthPkce.TokenResponse

/-!
# The token exchange

`SalesforceOAuthProvider` of `src/salesforce_oauth_provider.cpp`.  A login with
an authorization code is two requests: the code and its verifier go to the login
origin for a Salesforce token, and that token goes to the origin that came with
it for a Data 360 token.

The transport, the runtime hooks and the clock are behind interfaces, so they may
do anything: `ExchangeEnv` gives the answer to each interaction as a function of
everything that happened before it, and an answer may be a throw.  Every
interaction is an `ExchangeEvent` of the log.

The secrets are wiped on every way out in the source; the strings of the model
have no storage to wipe.
-/

namespace Data360

open Lib Lib.ByteString Lib.Prog

deriving instance DecidableEq for Data360Capability

/-- `Data360Capability`, with the expiry that is shown to the user. -/
structure ExchangedCapability extends Data360Capability where
  expiresAtUtcMicros : Int64
  deriving DecidableEq

/-- `MAX_JSON_BYTES`. -/
def maxJsonBytes : Nat := 64 * 1024

/-- `MAX_TOKEN_BYTES`. -/
def maxTokenBytes : Nat := 16 * 1024

/-- `MAX_URL_BYTES`. -/
def maxUrlBytes : Nat := 2048

/-- `MAX_EXPIRY_SECONDS`. -/
def maxExpirySeconds : UInt64 := 86400 * 365

/-- `OAuthExchangeOptions`, without the clock. -/
structure OAuthExchangeOptions where
  requestTimeoutMs : UInt64 := 30000
  maxResponseBytes : UInt64 := 65536
  defaultTtlSeconds : UInt64 := 900
  expirySkewSeconds : UInt64 := 30
  deriving DecidableEq, Repr

/-- The options that the constructor of `SalesforceOAuthProvider` accepts. -/
def OAuthExchangeOptions.Valid (options : OAuthExchangeOptions) : Prop :=
  ¬ (options.requestTimeoutMs = 0 ∨ options.maxResponseBytes = 0 ∨
    options.maxResponseBytes.toNat > maxJsonBytes ∨ options.defaultTtlSeconds = 0 ∨
    options.defaultTtlSeconds > maxExpirySeconds)

instance (options : OAuthExchangeOptions) : Decidable options.Valid :=
  inferInstanceAs (Decidable (¬ _))

theorem OAuthExchangeOptions.valid_default : OAuthExchangeOptions.Valid {} := by decide

/-- `SalesforceOAuthProvider`. -/
structure SalesforceOAuthProvider where
  options : OAuthExchangeOptions := {}
  valid : options.Valid := by decide

/-- `Data360Response`. -/
structure Data360Response where
  token : Bytes
  tenantUrl : Bytes
  ttlSeconds : UInt64
  deriving DecidableEq, Repr

namespace SalesforceOAuthProvider

/-! ## The forms -/

/-- One character of `FormEncode`. -/
def formEncodeCharacter (character : UInt8) : Bytes :=
  let hex := ascii "0123456789ABCDEF"
  if (65 ≤ character ∧ character ≤ 90) ∨ (97 ≤ character ∧ character ≤ 122) ∨
      (48 ≤ character ∧ character ≤ 57) ∨ character = 45 ∨ character = 95 ∨ character = 46 ∨
      character = 126 then [character]
  else [37, hex.getD (character >>> 4).toNat 0, hex.getD (character &&& 0x0f).toNat 0]

/-- `FormEncode`. -/
def formEncode (value : Bytes) : Bytes := value.flatMap formEncodeCharacter

/-- The headers of both requests. -/
def formHeaders : StringMap Bytes :=
  ((∅ : StringMap Bytes).insert (ascii "Accept") (ascii "application/json")).insert
    (ascii "Content-Type") (ascii "application/x-www-form-urlencoded")

/-- The request with which the code and the verifier leave. -/
def oauthRequest (options : OAuthExchangeOptions) (origin clientId : Bytes)
    (material : AuthCompletionMaterial) : HttpRequest where
  method := ascii "POST"
  url := origin ++ ascii "/services/oauth2/token"
  headers := formHeaders
  body := ascii "grant_type=authorization_code&client_id=" ++ formEncode clientId ++
    ascii "&redirect_uri=" ++ formEncode fixedOAuthCallbackUrl ++
    ascii "&code=" ++ formEncode material.authorizationCode ++
    ascii "&code_verifier=" ++ formEncode material.pkceVerifier
  timeoutMs := options.requestTimeoutMs
  maxResponseBytes := options.maxResponseBytes

/-- The request with which the Salesforce token leaves. -/
def data360Request (options : OAuthExchangeOptions) (salesforce : OAuthTokenResponse) :
    HttpRequest where
  method := ascii "POST"
  url := salesforce.instanceUrl ++ ascii "/services/a360/token"
  headers := formHeaders
  body := ascii "grant_type=" ++ formEncode (ascii "urn:salesforce:grant-type:external:cdp") ++
    ascii "&subject_token=" ++ formEncode salesforce.accessToken ++
    ascii "&subject_token_type=" ++ formEncode
      (ascii "urn:ietf:params:oauth:token-type:access_token")
  timeoutMs := options.requestTimeoutMs
  maxResponseBytes := options.maxResponseBytes

/-! ## The Data 360 response -/

/-- `JsonString`. -/
def jsonString (members : List (Bytes × Json.Value)) (name : Bytes) (maximum : Nat) :
    Except AuthFault Bytes :=
  match members.lookup name with
  | some (.string text) =>
      if text.length = 0 ∨ text.length > maximum then .error .data360ExchangeFailed else .ok text
  | _ => .error .data360ExchangeFailed

/-- The members of a Data 360 response, once their names are checked. -/
def readData360Response (members : List (Bytes × Json.Value)) (defaultTtlSeconds : UInt64) :
    Except AuthFault Data360Response := do
  let token ← jsonString members (ascii "access_token") maxTokenBytes
  let tenantUrl ← jsonString members (ascii "instance_url") maxUrlBytes
  if (members.lookup (ascii "token_type")).isSome then
    let tokenType ← jsonString members (ascii "token_type") 16
    if tokenType ≠ ascii "Bearer" then .error .data360ExchangeFailed else pure ()
  match members.lookup (ascii "expires_in") with
  | none => pure { token, tenantUrl, ttlSeconds := defaultTtlSeconds }
  | some expiresIn =>
      match expiresIn.uint with
      | none => .error .data360ExchangeFailed
      | some ttlSeconds =>
          if ttlSeconds = 0 ∨ ttlSeconds > maxExpirySeconds then .error .data360ExchangeFailed
          else pure { token, tenantUrl, ttlSeconds }

/-- `ParseData360Response`. -/
def parseData360Response (readJson : JsonReader) (body : Bytes) (defaultTtlSeconds : UInt64) :
    Except AuthFault Data360Response :=
  if body = [] ∨ body.length > maxJsonBytes then .error .data360ExchangeFailed
  else
    match readJson body with
    | some (.object members) =>
        if (members.any fun member => member.1.length > 128) ∨ ¬ (members.map Prod.fst).Nodup then
          .error .data360ExchangeFailed
        else readData360Response members defaultTtlSeconds
    | _ => .error .data360ExchangeFailed

/-! ## The program and its surroundings -/

/-- What `transport.Send` does: it answers, throws an `AuthFaultException`, throws
a `std::exception` with a text, or throws anything else. -/
inductive SendAnswer where
  | response (response : HttpResponse)
  | fault (fault : AuthFault)
  | exception (detail : String)
  | other

/-- What the exchange is told. -/
inductive ExchangeAnswer where
  | send (answer : SendAnswer)
  | isCancelled (answer : Except CompletionError Bool)
  | nowMs (answer : Except CompletionError UInt64)
  | utcNowMicros (answer : Except CompletionError Int64)

/-- One interaction of the exchange: what it sent, if it sent something, and what
it was told. -/
structure ExchangeEvent where
  request : Option HttpRequest := none
  answer : ExchangeAnswer

/-- The transport, the runtime hooks and the clock.  Each answer may depend on
everything that happened before. -/
structure ExchangeEnv where
  send : List ExchangeEvent → HttpRequest → SendAnswer
  isCancelled : List ExchangeEvent → Except CompletionError Bool
  nowMs : List ExchangeEvent → Except CompletionError UInt64
  utcNowMicros : List ExchangeEvent → Except CompletionError Int64

/-- A program of the provider, over the log. -/
abbrev Exchange := Prog (List ExchangeEvent) CompletionError

/-- How an answer of a hook ends the interaction. -/
def outcomeOf {α : Type} : Except CompletionError α → Outcome CompletionError α
  | .ok a => .ret a
  | .error e => .raise e

variable (env : ExchangeEnv) (readJson : JsonReader)

/-- `runtime.IsCancelled()`. -/
def isCancelled : Exchange Bool := fun log =>
  (outcomeOf (env.isCancelled log), log ++ [{ answer := .isCancelled (env.isCancelled log) }])

/-- `runtime.NowMs()`. -/
def nowMs : Exchange UInt64 := fun log =>
  (outcomeOf (env.nowMs log), log ++ [{ answer := .nowMs (env.nowMs log) }])

/-- `options.utc_now_micros()`, or the system's clock. -/
def utcNowMicros : Exchange Int64 := fun log =>
  (outcomeOf (env.utcNowMicros log), log ++ [{ answer := .utcNowMicros (env.utcNowMicros log) }])

/-- The fault of a request that did not get through. -/
def exchangeFault (data360Exchange : Bool) : AuthFault :=
  if data360Exchange then .data360ExchangeFailed else .tokenExchangeFailed

/-- `SendSanitized`, of what the transport did. -/
def sanitize (data360Exchange : Bool) : SendAnswer → Outcome CompletionError HttpResponse
  | .response response => .ret response
  | .fault fault => .raise (.fault fault)
  | .exception detail =>
      if detail = "D360-AUTH-008 NETWORK_UNAVAILABLE" then .raise (.fault .networkUnavailable)
      else if detail = "D360-AUTH-009 TLS_FAILURE" then .raise (.fault .tlsFailure)
      else .raise (.fault (exchangeFault data360Exchange))
  | .other => .raise (.fault (exchangeFault data360Exchange))

/-- `SendSanitized`. -/
def sendSanitized (request : HttpRequest) (data360Exchange : Bool) :
    Exchange HttpResponse := fun log =>
  (sanitize data360Exchange (env.send log request),
    log ++ [{ request := some request, answer := .send (env.send log request) }])

/-- `CheckStatus`. -/
def checkStatus (status : Int) (data360Exchange : Bool) : Exchange Unit := do
  if 200 ≤ status ∧ status < 300 then pure ()
  else
    raiseIf (data360Exchange = true ∧ status = 403) (.fault .orgPolicyDenied)
    raise (.fault (exchangeFault data360Exchange))

/-- Pass on what a function answers, with a fault for its error. -/
def orFault {ε α : Type} (fault : ε → AuthFault) : Except ε α → Exchange α
  | .ok a => pure a
  | .error e => raise (.fault (fault e))

/-- `if (runtime.IsCancelled()) throw …;` -/
def checkCancelled : Exchange Unit := do
  let flag ← isCancelled env
  raiseIf (flag = true) (.fault .data360ExchangeFailed)

/-- The checks of the client id. -/
def checkClientId (clientId : Bytes) : Exchange Unit := do
  raiseIf (clientId = [] ∨ clientId.length > 1024) (.fault .invalidClientId)
  raiseIf (clientId.any (fun c => c < 0x20 || c = 0x7f) = true) (.fault .invalidClientId)

/-- What the exchange makes of the first response. -/
def acceptToken (response : HttpResponse) : Exchange OAuthTokenResponse := do
  checkStatus response.status false
  let salesforce ← orFault (fun _ => .tokenExchangeFailed)
    (parseOAuthTokenResponse readJson response.body)
  raiseIf (¬ validDnsOrigin salesforce.instanceUrl (ascii ".salesforce.com"))
    (.fault .tokenExchangeFailed)
  pure salesforce

/-- What the exchange makes of the second response. -/
def acceptData360 (options : OAuthExchangeOptions) (response : HttpResponse) :
    Exchange Data360Response := do
  checkStatus response.status true
  checkCancelled env
  orFault id (parseData360Response readJson response.body options.defaultTtlSeconds)

/-- The tenant URL of a Data 360 response, with its scheme. -/
def tenantOrigin (tenantUrl : Bytes) : Exchange Bytes := do
  if ¬ (ascii "https://").isPrefixOf tenantUrl then
    let candidate := ascii "https://" ++ tenantUrl
    raiseIf (¬ validDnsOrigin candidate (ascii ".c360a.salesforce.com"))
      (.fault .data360ExchangeFailed)
    pure candidate
  else pure tenantUrl

/-- The capability of a Data 360 response. -/
def grant (options : OAuthExchangeOptions) (parsed : Data360Response) :
    Exchange ExchangedCapability := do
  let tenantUrl ← tenantOrigin parsed.tenantUrl
  raiseIf (¬ validDnsOrigin tenantUrl (ascii ".c360a.salesforce.com") ∨
    parsed.ttlSeconds ≤ options.expirySkewSeconds) (.fault .data360ExchangeFailed)
  let effectiveSeconds := parsed.ttlSeconds - options.expirySkewSeconds
  let now ← nowMs env
  raiseIf (effectiveSeconds > 0xffffffffffffffff / 1000 ∨
    now > 0xffffffffffffffff - effectiveSeconds * 1000) (.fault .data360ExchangeFailed)
  let nowUtc ← utcNowMicros env
  raiseIf (nowUtc < 0 ∨ effectiveSeconds > (Int64.maxValue - nowUtc).toUInt64 / 1000000)
    (.fault .data360ExchangeFailed)
  pure {
    tenantUrl, accessToken := parsed.token
    expiresAtMonotonicMs := now + effectiveSeconds * 1000
    expiresAtUtcMicros := nowUtc + (effectiveSeconds * 1000000).toInt64 }

/-- `Exchange`, behind the first request. -/
def exchangeToken (options : OAuthExchangeOptions) (salesforce : OAuthTokenResponse) :
    Exchange ExchangedCapability := do
  checkCancelled env
  let response ← sendSanitized env (data360Request options salesforce) true
  let parsed ← acceptData360 env readJson options response
  grant env options parsed

/-- `Exchange`. -/
def exchange (provider : SalesforceOAuthProvider) (loginOrigin clientId : Bytes)
    (material : AuthCompletionMaterial) : Exchange ExchangedCapability := do
  let origin ← orFault (fun _ => .invalidLoginOrigin) (validateSalesforceLoginOrigin loginOrigin)
  checkClientId clientId
  checkCancelled env
  let response ← sendSanitized env (oauthRequest provider.options origin clientId material) false
  let salesforce ← acceptToken readJson response
  exchangeToken env readJson provider.options salesforce

/-- `Exchange`, with the login origin and the client id of the material. -/
def exchangeMaterial (provider : SalesforceOAuthProvider) (material : AuthCompletionMaterial) :
    Exchange ExchangedCapability :=
  exchange env readJson provider material.loginOrigin material.clientId material

end SalesforceOAuthProvider

end Data360
