import Data360.LoopbackListener.Decode
import Data360.SalesforceOAuthProvider.Rules

/-!
# The forms that an exchange sends

`FormEncode` of `src/salesforce_oauth_provider.cpp` and `PercentEncode` of
`src/oauth_pkce.cpp` are both the percent encoding of the library, and the
`PercentDecode` of the listener reads it back within its limits.

* `percentDecode_percentEncode` says what the listener makes of an encoded string.
* `oauthRequest_fields` and `data360Request_fields` say that the two bodies of an
  exchange read as the intended fields, whatever the values hold.
-/

namespace Data360

open Lib Lib.ByteString

/-! ## One value -/

/-- A string that the listener takes as a callback value. -/
structure CallbackText (value : Bytes) : Prop where
  short : value.length ≤ maxCallbackValueBytes
  printable : ∀ c ∈ value, Printable c

/-- An encoded string holds no `+` and no control byte. -/
theorem bare_of_mem_encode {value : Bytes} {c : UInt8} (h : c ∈ Percent.encode value) :
    c ≠ 43 ∧ Printable c := by
  have hbyte := forall_byte
    (P := fun c => Percent.unreserved c = true ∨ c = 37 → c ≠ 43 ∧ ¬ (c < 0x20 ∨ c = 0x7f))
    (by decide +kernel) c
  exact hbyte (Percent.mem_encode h)

/-- The listener reads back what is encoded, if it takes such a value at all. -/
theorem percentDecode_percentEncode {value text : Bytes} :
    percentDecode (percentEncode value) = .ok text ↔ CallbackText value ∧ text = value := by
  rw [percentDecode_eq_ok, percentEncode_eq]
  constructor
  · rintro ⟨hdecoded, -, hprintable, hshort⟩
    rw [Percent.decode_encode] at hdecoded
    obtain rfl := Option.some.inj hdecoded
    exact ⟨⟨hshort, hprintable⟩, rfl⟩
  · rintro ⟨⟨hshort, hprintable⟩, rfl⟩
    exact ⟨Percent.decode_encode text, fun c => bare_of_mem_encode, hprintable, hshort⟩

namespace SalesforceOAuthProvider

/-- `FormEncode` is percent encoding. -/
theorem formEncode_eq (value : Bytes) : formEncode value = Percent.encode value := by
  have hbyte : ∀ c, formEncodeCharacter c = Percent.encodeByte c := fun c =>
    forall_byte (P := fun c => formEncodeCharacter c = Percent.encodeByte c) (by decide +kernel) c
  rw [formEncode, Percent.encode, funext hbyte]

/-! ## The two bodies -/

/-- What the login request says. -/
def loginFields (clientId : Bytes) (material : AuthCompletionMaterial) : List (Bytes × Bytes) := [
  (ascii "grant_type", ascii "authorization_code"),
  (ascii "client_id", clientId),
  (ascii "redirect_uri", fixedOAuthCallbackUrl),
  (ascii "code", material.authorizationCode),
  (ascii "code_verifier", material.pkceVerifier)]

/-- What the request for the Data 360 token says. -/
def tokenFields (salesforceToken : Bytes) : List (Bytes × Bytes) := [
  (ascii "grant_type", ascii "urn:salesforce:grant-type:external:cdp"),
  (ascii "subject_token", salesforceToken),
  (ascii "subject_token_type", ascii "urn:ietf:params:oauth:token-type:access_token")]

/-- The names of the fields are their own encodings. -/
theorem encode_names :
    Percent.encode (ascii "grant_type") = ascii "grant_type" ∧
      Percent.encode (ascii "client_id") = ascii "client_id" ∧
      Percent.encode (ascii "redirect_uri") = ascii "redirect_uri" ∧
      Percent.encode (ascii "code") = ascii "code" ∧
      Percent.encode (ascii "code_verifier") = ascii "code_verifier" ∧
      Percent.encode (ascii "subject_token") = ascii "subject_token" ∧
      Percent.encode (ascii "subject_token_type") = ascii "subject_token_type" ∧
      Percent.encode (ascii "authorization_code") = ascii "authorization_code" := by decide

/-- The body of the login request. -/
theorem oauthRequest_fields (options : OAuthExchangeOptions) (origin clientId : Bytes)
    (material : AuthCompletionMaterial) :
    Percent.parseFields (oauthRequest options origin clientId material).body
      = some (loginFields clientId material) := by
  have hbody : (oauthRequest options origin clientId material).body
      = Percent.writeFields (loginFields clientId material) := by
    simp only [oauthRequest, Percent.writeFields, loginFields, List.map_cons, List.map_nil,
      Percent.writeField, encode_names, formEncode_eq]
    simp [ascii, List.intercalate, List.intersperse]
  rw [hbody]
  exact Percent.parseFields_writeFields (List.cons_ne_nil _ _)

/-- The body of the request for the Data 360 token. -/
theorem data360Request_fields (options : OAuthExchangeOptions) (salesforce : OAuthTokenResponse) :
    Percent.parseFields (data360Request options salesforce).body
      = some (tokenFields salesforce.accessToken) := by
  have hbody : (data360Request options salesforce).body
      = Percent.writeFields (tokenFields salesforce.accessToken) := by
    simp only [data360Request, Percent.writeFields, tokenFields, List.map_cons, List.map_nil,
      Percent.writeField, encode_names, formEncode_eq]
    simp [ascii, List.intercalate, List.intersperse]
  rw [hbody]
  exact Percent.parseFields_writeFields (List.cons_ne_nil _ _)

/-- The bodies of the requests of a log read as the intended fields: the first one of the
code and the verifier, the second one of the token with which the first was answered. -/
structure FormsRead (readJson : JsonReader) (clientId : Bytes) (material : AuthCompletionMaterial)
    (log : List ExchangeEvent) : Prop where
  login : ∀ request, (requests log)[0]? = some request →
    Percent.parseFields request.body = some (loginFields clientId material)
  token : ∀ request, (requests log)[1]? = some request →
    ∃ login response salesforce, (requests log)[0]? = some login ∧
      { request := some login, answer := .send (.response response) } ∈ log ∧
      parseOAuthTokenResponse readJson response.body = .ok salesforce ∧
      Percent.parseFields request.body = some (tokenFields salesforce.accessToken)

theorem Sends.formsRead {readJson : JsonReader} {options : OAuthExchangeOptions}
    {loginOrigin clientId : Bytes} {material : AuthCompletionMaterial} {log : List ExchangeEvent}
    (h : Sends readJson options loginOrigin clientId material log) :
    FormsRead readJson clientId material log := by
  cases h with
  | nothing hlog => exact ⟨by simp [hlog], by simp [hlog]⟩
  | @login _ origin horigin hlog =>
      refine ⟨fun request hrequest => ?_, by simp [hlog]⟩
      rw [hlog] at hrequest
      obtain rfl := Option.some.inj hrequest
      exact oauthRequest_fields options origin clientId material
  | @token before after origin response salesforce answer horigin hredeemed hbefore hafter =>
      have hrequests :=
        requests_token hbefore hafter (oauthRequest options origin clientId material)
        (data360Request options salesforce) (.response response) answer (.isCancelled (.ok false))
      refine ⟨fun request hrequest => ?_, fun request hrequest => ?_⟩
      · rw [hrequests] at hrequest
        obtain rfl := Option.some.inj hrequest
        exact oauthRequest_fields options origin clientId material
      · rw [hrequests] at hrequest ⊢
        obtain rfl := Option.some.inj hrequest
        refine ⟨_, response, salesforce, rfl, ?_, hredeemed.parsed,
          data360Request_fields options salesforce⟩
        simp

end SalesforceOAuthProvider

open SalesforceOAuthProvider in
/-- The encoders agree, the listener reads back what it takes and refuses the rest, and the
forms of every run of the exchange read as the intended fields. -/
theorem forms_read_back :
    (∀ value, formEncode value = percentEncode value) ∧
      (∀ value, CallbackText value → percentDecode (percentEncode value) = .ok value) ∧
      (∀ value, ¬ CallbackText value → ∃ e, percentDecode (percentEncode value) = .error e) ∧
      ∀ (env : ExchangeEnv) (readJson : JsonReader) (provider : SalesforceOAuthProvider)
        (loginOrigin clientId : Bytes) (material : AuthCompletionMaterial),
        FormsRead readJson clientId material
          (exchange env readJson provider loginOrigin clientId material []).2 := by
  refine ⟨fun value => ?_, fun value htext => ?_, fun value hother => ?_, ?_⟩
  · rw [formEncode_eq, percentEncode_eq]
  · exact percentDecode_percentEncode.mpr ⟨htext, rfl⟩
  · cases hdecoded : percentDecode (percentEncode value) with
    | ok text => exact (hother (percentDecode_percentEncode.mp hdecoded).1).elim
    | error e => exact ⟨e, rfl⟩
  · intro env readJson provider loginOrigin clientId material
    exact (exchange_sends env readJson provider loginOrigin clientId material).formsRead

open SalesforceOAuthProvider in
/-- A code with a delimiter is read back and one with a line break refused, and both forms of a
login read as they are meant. -/
theorem forms_read_back_sample :
    formEncode (ascii "c&d") = percentEncode (ascii "c&d") ∧
      percentDecode (percentEncode (ascii "c&d")) = .ok (ascii "c&d") ∧
      (∃ e, percentDecode (percentEncode (ascii "c\nd")) = .error e) ∧
      (requests (sampleLogin (ascii "token")).2).length = 2 ∧
      FormsRead Json.parse (ascii "client") sampleMaterial (sampleLogin (ascii "token")).2 := by
  obtain ⟨hsame, htaken, hrefused, hforms⟩ := forms_read_back
  refine ⟨hsame _, htaken _ ⟨by decide, ?_⟩, hrefused _ fun h => ?_, by decide +kernel,
    hforms _ _ _ _ _ _⟩
  · have hprintable : ∀ c ∈ ascii "c&d", ¬ (c < 0x20 ∨ c = 0x7f) := by decide +kernel
    exact hprintable
  · have hbreak : (10 : UInt8) ∈ ascii "c\nd" := by decide +kernel
    exact h.printable 10 hbreak (by decide)

end Data360
