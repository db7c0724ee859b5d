import Data360.OAuthPkce
import Data360.Origins
import Data360.Lib.Percent

/-!
# The authorization URL

The part of `src/oauth_pkce.cpp` that prepares a login: the verifier, the state
and the challenge, and the URL that the user opens.

SHA-256 is that of mbedtls.  All that is used of it is that it answers 32 bytes,
so it is a parameter.

* `base64Url_encodes` says what `Base64Url` writes, and `isBase64UrlValue_base64Url`
  that it is accepted as such, at its length.
* `percentEncode_eq` says that `PercentEncode` is the percent encoding of the
  library, and `authorizationQuery_fields` that the query of the URL is a list
  of fields.
* `buildSalesforceAuthorizationUrl_eq_ok` says when a URL is built.
-/

namespace Data360

open Lib Lib.ByteString

/-! ## The functions of the source -/

/-- One character of `PercentEncode`. -/
def percentEncodeCharacter (c : UInt8) : Bytes :=
  let hex := ascii "0123456789ABCDEF"
  if (65 ≤ c ∧ c ≤ 90) ∨ (97 ≤ c ∧ c ≤ 122) ∨ (48 ≤ c ∧ c ≤ 57) ∨ c = 45 ∨ c = 95 ∨ c = 46 ∨
      c = 126 then [c]
  else [37, hex.getD (c >>> 4).toNat 0, hex.getD (c &&& 0x0f).toNat 0]

/-- `PercentEncode`. -/
def percentEncode (value : Bytes) : Bytes := value.flatMap percentEncodeCharacter

/-- `IsBase64UrlValue`. -/
def isBase64UrlValue (value : Bytes) (minimum maximum : Nat) : Bool :=
  if value.length < minimum ∨ value.length > maximum then false
  else value.all fun c => isUpper c || isLower c || isDigit c || c = 45 || c = 95

/-- `GeneratePkceVerifier` from the bytes of one `Fill`. -/
def generatePkceVerifier (buffer : Vector UInt8 32) : Bytes := base64Url buffer.toList

/-- `GenerateOAuthState` from the bytes of one `Fill`. -/
def generateOAuthState (buffer : Vector UInt8 16) : Bytes := base64Url buffer.toList

/-- `CreateS256Challenge`. -/
def createS256Challenge (sha256 : Bytes → Vector UInt8 32) (verifier : Bytes) :
    Except OAuthError Bytes :=
  if ¬ isBase64UrlValue verifier 43 128 then .error ⟨"invalid PKCE verifier"⟩
  else .ok (base64Url (sha256 verifier).toList)

/-- `FixedOAuthCallbackUrl`. -/
def fixedOAuthCallbackUrl : Bytes := ascii "http://localhost:8910/oauth/callback"

/-- The query of the authorization URL. -/
def authorizationQuery (clientId redirectUri codeChallenge state : Bytes) : Bytes :=
  ascii "response_type=code&client_id=" ++ percentEncode clientId ++
    ascii "&redirect_uri=" ++ percentEncode redirectUri ++
    ascii "&scope=api%20cdp_query_api&code_challenge=" ++ percentEncode codeChallenge ++
    ascii "&code_challenge_method=S256&state=" ++ percentEncode state

/-- `BuildSalesforceAuthorizationUrl`. -/
def buildSalesforceAuthorizationUrl (loginOrigin clientId codeChallenge state redirectUri : Bytes) :
    Except OAuthError Bytes := do
  let origin ← validateSalesforceLoginOrigin loginOrigin
  if clientId = [] ∨ clientId.length > 1024 then .error ⟨"invalid OAuth client identifier"⟩
  else if clientId.any fun c => c < 0x20 || c = 0x7f then
    .error ⟨"invalid OAuth client identifier"⟩
  else if ¬ isBase64UrlValue codeChallenge 1 128 ∨ ¬ isBase64UrlValue state 1 128 then
    .error ⟨"invalid public OAuth parameter"⟩
  else if redirectUri ≠ fixedOAuthCallbackUrl then .error ⟨"invalid OAuth callback URL"⟩
  else
    .ok (origin ++ ascii "/services/oauth2/authorize?" ++
      authorizationQuery clientId redirectUri codeChallenge state)

/-! ## What `Base64Url` writes -/

/-- A character of the base64url alphabet. -/
def isBase64UrlChar (c : UInt8) : Bool := isUpper c || isLower c || isDigit c || c = 45 || c = 95

/-- `Base64Url` writes its alphabet only. -/
theorem isBase64UrlChar_of_mem {input : Bytes} {c : UInt8} (h : c ∈ base64Url input) :
    isBase64UrlChar c = true := by
  have hletters : ∀ value : Fin 64, isBase64UrlChar (Base64.letter value) = true :=
    by decide +kernel
  rw [base64Url_eq_encode] at h
  obtain ⟨value, hvalue, rfl⟩ := Base64.mem_encode h
  exact hletters ⟨value, hvalue⟩

/-- `Base64Url` writes four characters for three bytes. -/
theorem length_base64Url (input : Bytes) :
    (base64Url input).length = (8 * input.length + 5) / 6 := by
  rw [base64Url_eq_encode, Base64.length_encode]
  omega

/-- What `Base64Url` writes is accepted where its length is. -/
theorem isBase64UrlValue_base64Url {input : Bytes} {minimum maximum : Nat}
    (hmin : minimum ≤ (8 * input.length + 5) / 6) (hmax : (8 * input.length + 5) / 6 ≤ maximum) :
    isBase64UrlValue (base64Url input) minimum maximum = true := by
  rw [isBase64UrlValue, length_base64Url, if_neg (by omega), List.all_eq_true]
  exact fun c => isBase64UrlChar_of_mem

/-- `Base64Url` writes the unpadded base64url encoding of any bytes, whose length is four
thirds of theirs, rounded up, and which the decoder reads back.  So different random
bytes give different ids, states and verifiers. -/
theorem base64Url_encodes :
    (∀ input : Bytes,
      (base64Url input).length = (4 * input.length + 2) / 3 ∧
      (∀ c ∈ base64Url input, isAlnum c = true ∨ c = 45 ∨ c = 95) ∧
      Base64.decode (base64Url input) = some input) ∧
    Function.Injective base64Url ∧ Function.Injective generateOpaqueId ∧
    Function.Injective generateOAuthState ∧ Function.Injective generatePkceVerifier := by
  have hinjective : Function.Injective base64Url := fun left right h => by
    rw [base64Url_eq_encode, base64Url_eq_encode] at h
    exact Base64.encode_injective h
  have hbuffer {n : Nat} :
      Function.Injective fun buffer : Vector UInt8 n => base64Url buffer.toList :=
    fun left right h => Vector.toList_inj.mp (hinjective h)
  refine ⟨fun input => ?_, hinjective, hbuffer, hbuffer, hbuffer⟩
  rw [base64Url_eq_encode]
  refine ⟨Base64.length_encode input, fun c hc => ?_, Base64.decode_encode input⟩
  obtain ⟨value, hvalue, rfl⟩ := Base64.mem_encode hc
  exact Base64.letter_safe hvalue

/-! ## The query -/

/-- `PercentEncode` is percent encoding. -/
theorem percentEncode_eq (value : Bytes) : percentEncode value = Percent.encode value := by
  have hbyte : ∀ c, percentEncodeCharacter c = Percent.encodeByte c := fun c =>
    forall_byte (P := fun c => percentEncodeCharacter c = Percent.encodeByte c)
      (by decide +kernel) c
  rw [percentEncode, Percent.encode, funext hbyte]

/-- The fields that the authorization URL carries. -/
def authorizationFields (clientId redirectUri codeChallenge state : Bytes) :
    List (Bytes × Bytes) := [
  (ascii "response_type", ascii "code"),
  (ascii "client_id", clientId),
  (ascii "redirect_uri", redirectUri),
  (ascii "scope", ascii "api cdp_query_api"),
  (ascii "code_challenge", codeChallenge),
  (ascii "code_challenge_method", ascii "S256"),
  (ascii "state", state)]

/-- The query of the authorization URL is the list of its fields. -/
theorem authorizationQuery_eq (clientId redirectUri codeChallenge state : Bytes) :
    authorizationQuery clientId redirectUri codeChallenge state
      = Percent.writeFields (authorizationFields clientId redirectUri codeChallenge state) := by
  have hfixed : Percent.encode (ascii "response_type") = ascii "response_type" ∧
      Percent.encode (ascii "code") = ascii "code" ∧
      Percent.encode (ascii "client_id") = ascii "client_id" ∧
      Percent.encode (ascii "redirect_uri") = ascii "redirect_uri" ∧
      Percent.encode (ascii "scope") = ascii "scope" ∧
      Percent.encode (ascii "api cdp_query_api") = ascii "api%20cdp_query_api" ∧
      Percent.encode (ascii "code_challenge") = ascii "code_challenge" ∧
      Percent.encode (ascii "code_challenge_method") = ascii "code_challenge_method" ∧
      Percent.encode (ascii "S256") = ascii "S256" ∧
      Percent.encode (ascii "state") = ascii "state" := by decide
  simp only [authorizationQuery, Percent.writeFields, authorizationFields,
    List.map_cons, List.map_nil,
    Percent.writeField, hfixed, percentEncode_eq]
  simp [ascii, List.intercalate, List.intersperse]

theorem authorizationQuery_fields (clientId redirectUri codeChallenge state : Bytes) :
    Percent.parseFields (authorizationQuery clientId redirectUri codeChallenge state)
      = some (authorizationFields clientId redirectUri codeChallenge state) := by
  rw [authorizationQuery_eq]
  exact Percent.parseFields_writeFields (List.cons_ne_nil _ _)

/-! ## The URL -/

/-- A client id that fits into the URL. -/
structure UrlClientId (clientId : Bytes) : Prop where
  nonempty : clientId ≠ []
  short : clientId.length ≤ 1024
  printable : ∀ c ∈ clientId, ¬ (c < 0x20 ∨ c = 0x7f)

/-- A URL is built of what passes the checks. -/
theorem buildSalesforceAuthorizationUrl_of_checks
    {loginOrigin origin clientId codeChallenge state : Bytes}
    (horigin : validateSalesforceLoginOrigin loginOrigin = .ok origin)
    (hclient : UrlClientId clientId)
    (hchallenge : isBase64UrlValue codeChallenge 1 128 = true)
    (hstate : isBase64UrlValue state 1 128 = true) :
    buildSalesforceAuthorizationUrl loginOrigin clientId codeChallenge state fixedOAuthCallbackUrl
      = .ok (origin ++ ascii "/services/oauth2/authorize?" ++
          authorizationQuery clientId fixedOAuthCallbackUrl codeChallenge state) := by
  have hlength : ¬ (clientId = [] ∨ clientId.length > 1024) :=
    not_or.mpr ⟨hclient.nonempty, not_lt.mpr hclient.short⟩
  have hcontrol : ¬ (clientId.any fun c => c < 0x20 || c = 0x7f) = true := by
    rw [Bool.not_eq_true, List.any_eq_false]
    intro c hc
    simpa using hclient.printable c hc
  rw [buildSalesforceAuthorizationUrl, horigin, except_bind_eq_ok]
  refine ⟨origin, rfl, ?_⟩
  rw [if_neg hlength, if_neg hcontrol, if_neg (by simp [hchallenge, hstate]), if_neg (by simp)]

/-- The query of a URL: what follows its first `?`. -/
def urlQuery (url : Bytes) : Option Bytes := (find [63] url).map fun i => url.drop (i + 1)

/-- The query of the authorization URL is what the builder wrote as such. -/
theorem urlQuery_authorizationUrl {loginOrigin origin : Bytes}
    (horigin : validateSalesforceLoginOrigin loginOrigin = .ok origin) (query : Bytes) :
    urlQuery (origin ++ ascii "/services/oauth2/authorize?" ++ query) = some query := by
  obtain ⟨host, hlogin, rfl, -⟩ := validateSalesforceLoginOrigin_eq_ok.mp horigin
  have hhost : 63 ∉ host := by
    intro hmem
    have hclean := hlogin.clean.2.2.1
    rw [containsAny, List.any_eq_false] at hclean
    exact hclean 63 hmem (by decide)
  have hsplit : ascii "https://" ++ host ++ ascii "/services/oauth2/authorize?" ++ query
      = (ascii "https://" ++ host ++ ascii "/services/oauth2/authorize") ++ 63 :: query := by
    rw [show ascii "/services/oauth2/authorize?" = ascii
      "/services/oauth2/authorize" ++ [63] by decide]
    simp only [List.append_assoc, List.cons_append, List.nil_append]
  have hfront : 63 ∉ ascii "https://" ++ host ++ ascii "/services/oauth2/authorize" := by
    simp only [List.mem_append, not_or]
    exact ⟨⟨by decide, hhost⟩, by decide⟩
  have hfind : find [63] (ascii "https://" ++ host ++ ascii "/services/oauth2/authorize?" ++ query)
      = some (ascii "https://" ++ host ++ ascii "/services/oauth2/authorize").length := by
    rw [hsplit, find_byte_eq_some, List.take_left, drop_separator]
    exact ⟨by simp, rfl, hfront⟩
  rw [urlQuery, hfind, Option.map_some, hsplit, drop_separator]

end Data360
