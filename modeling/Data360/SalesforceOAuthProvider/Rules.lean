import Data360.SalesforceOAuthProvider.Model

/-!
# What an exchange sends

Rules for the interactions of the exchange, and two facts about every run of it
that the results about its requests rest on.

* `exchange_sends` says what a run sends: nothing, the login request, or the
  login request and then the request for the Data 360 token.
* `exchange_grants` says which capability a run returns.
-/

namespace Data360.SalesforceOAuthProvider

open Lib Lib.ByteString Lib.Prog

/-- The requests of a log, in the order in which they were sent. -/
def requests (log : List ExchangeEvent) : List HttpRequest := log.filterMap (·.request)

@[simp] theorem requests_append (before after : List ExchangeEvent) :
    requests (before ++ after) = requests before ++ requests after := List.filterMap_append

@[simp] theorem requests_hook (answer : ExchangeAnswer) : requests [{ answer }] = [] := rfl

@[simp] theorem requests_send (request : HttpRequest) (answer : ExchangeAnswer) :
    requests [{ request := some request, answer }] = [request] := rfl

variable {env : ExchangeEnv} {readJson : JsonReader}

/-! ## The interactions -/

section Rules

variable {α : Type} {E : CompletionError → List ExchangeEvent → Prop}
  {C : List ExchangeEvent → Prop} {log : List ExchangeEvent}

theorem wp_isCancelled {Q : Bool → List ExchangeEvent → Prop} :
    wp (isCancelled env) Q E C log ↔
      (∀ flag, env.isCancelled log = .ok flag →
        Q flag (log ++ [{ answer := .isCancelled (.ok flag) }])) ∧
      ∀ e, env.isCancelled log = .error e →
      E e (log ++ [{ answer := .isCancelled (.error e) }]) := by
  unfold wp isCancelled
  cases env.isCancelled log <;> simp [outcomeOf]

theorem wp_nowMs {Q : UInt64 → List ExchangeEvent → Prop} :
    wp (nowMs env) Q E C log ↔
      (∀ now, env.nowMs log = .ok now → Q now (log ++ [{ answer := .nowMs (.ok now) }])) ∧
      ∀ e, env.nowMs log = .error e → E e (log ++ [{ answer := .nowMs (.error e) }]) := by
  unfold wp nowMs
  cases env.nowMs log <;> simp [outcomeOf]

theorem wp_utcNowMicros {Q : Int64 → List ExchangeEvent → Prop} :
    wp (utcNowMicros env) Q E C log ↔
      (∀ now, env.utcNowMicros log = .ok now →
        Q now (log ++ [{ answer := .utcNowMicros (.ok now) }])) ∧
      ∀ e, env.utcNowMicros log = .error e →
        E e (log ++ [{ answer := .utcNowMicros (.error e) }]) := by
  unfold wp utcNowMicros
  cases env.utcNowMicros log <;> simp [outcomeOf]

theorem wp_orFault {ε : Type} {Q : α → List ExchangeEvent → Prop} {fault : ε → AuthFault}
    {answer : Except ε α} :
    wp (orFault fault answer) Q E C log ↔
      (∀ a, answer = .ok a → Q a log) ∧ ∀ e, answer = .error e → E (.fault (fault e)) log := by
  cases answer <;> simp [orFault]

/-- The program asks whether it is cancelled. -/
theorem wp_checkCancelled_iff {Q : Unit → List ExchangeEvent → Prop} :
    wp (checkCancelled env) Q E C log ↔
      (env.isCancelled log = .ok false → Q () (log ++ [{ answer := .isCancelled (.ok false) }])) ∧
      (env.isCancelled log = .ok true →
        E (.fault .data360ExchangeFailed) (log ++ [{ answer := .isCancelled (.ok true) }])) ∧
      ∀ e, env.isCancelled log = .error e →
      E e (log ++ [{ answer := .isCancelled (.error e) }]) := by
  simp only [checkCancelled, wp_bind, wp_isCancelled, wp_raiseIf]
  cases env.isCancelled log with
  | error e => simp
  | ok flag => cases flag <;> simp

theorem wp_checkCancelled {Q : Unit → List ExchangeEvent → Prop}
    (hQ : Q () (log ++ [{ answer := .isCancelled (.ok false) }]))
    (hE : ∀ e answer, E e (log ++ [{ answer := .isCancelled answer }])) :
    wp (checkCancelled env) Q E C log :=
  wp_checkCancelled_iff.mpr ⟨fun _ => hQ, fun _ => hE _ _, fun e _ => hE e _⟩

/-- The fault of a transport that throws an exception with a text. -/
def exceptionFault (data360Exchange : Bool) (detail : String) : AuthFault :=
  if detail = "D360-AUTH-008 NETWORK_UNAVAILABLE" then .networkUnavailable
  else if detail = "D360-AUTH-009 TLS_FAILURE" then .tlsFailure
  else exchangeFault data360Exchange

/-- The program sends a request. -/
theorem wp_sendSanitized_iff {Q : HttpResponse → List ExchangeEvent → Prop} {request : HttpRequest}
    {data360Exchange : Bool} :
    wp (sendSanitized env request data360Exchange) Q E C log ↔
      match env.send log request with
      | .response response =>
          Q response (log ++ [{ request := some request, answer := .send (.response response) }])
      | .fault fault =>
          E (.fault fault) (log ++ [{ request := some request, answer := .send (.fault fault) }])
      | .exception detail => E (.fault (exceptionFault data360Exchange detail))
          (log ++ [{ request := some request, answer := .send (.exception detail) }])
      | .other => E (.fault (exchangeFault data360Exchange))
          (log ++ [{ request := some request, answer := .send .other }]) := by
  unfold wp sendSanitized
  cases env.send log request with
  | response response => exact Iff.rfl
  | fault fault => exact Iff.rfl
  | exception detail =>
      simp only [sanitize, exceptionFault]
      split_ifs <;> exact Iff.rfl
  | other => exact Iff.rfl

theorem wp_sendSanitized {Q : HttpResponse → List ExchangeEvent → Prop} {request : HttpRequest}
    {data360Exchange : Bool}
    (hQ : ∀ response, Q response
      (log ++ [{ request := some request, answer := .send (.response response) }]))
    (hE : ∀ e answer, E e (log ++ [{ request := some request, answer := .send answer }])) :
    wp (sendSanitized env request data360Exchange) Q E C log := by
  rw [wp_sendSanitized_iff]
  cases env.send log request with
  | response response => exact hQ response
  | fault fault => exact hE _ _
  | exception detail => exact hE _ _
  | other => exact hE _ _

/-- The fault of a status that is not a success. -/
def statusFault (data360Exchange : Bool) (status : Int) : AuthFault :=
  if data360Exchange = true ∧ status = 403 then .orgPolicyDenied else exchangeFault data360Exchange

theorem wp_checkStatus_iff {Q : Unit → List ExchangeEvent → Prop} {status : Int}
    {data360Exchange : Bool} :
    wp (checkStatus status data360Exchange) Q E C log ↔
      (200 ≤ status ∧ status < 300 → Q () log) ∧
      (¬ (200 ≤ status ∧ status < 300) → E (.fault (statusFault data360Exchange status)) log) := by
  simp only [checkStatus, wp_ite, wp_pure, wp_bind, wp_raiseIf, wp_raise, statusFault]
  by_cases hdenied : data360Exchange = true ∧ status = 403
  · simp [hdenied]
  · simp [hdenied]

theorem wp_checkStatus {Q : Unit → List ExchangeEvent → Prop} {status : Int}
    {data360Exchange : Bool}
    (hQ : 200 ≤ status ∧ status < 300 → Q () log) (hE : ∀ e, E e log) :
    wp (checkStatus status data360Exchange) Q E C log :=
  wp_checkStatus_iff.mpr ⟨hQ, fun _ => hE _⟩

/-- The first response is one that the exchange goes on with. -/
structure Redeemed (readJson : JsonReader) (response : HttpResponse)
    (salesforce : OAuthTokenResponse) :
    Prop where
  success : 200 ≤ response.status ∧ response.status < 300
  parsed : parseOAuthTokenResponse readJson response.body = .ok salesforce
  trusted : validDnsOrigin salesforce.instanceUrl (ascii ".salesforce.com") = true

theorem wp_acceptToken_iff {Q : OAuthTokenResponse → List ExchangeEvent → Prop}
    {response : HttpResponse} :
    wp (acceptToken readJson response) Q E C log ↔
      (∀ salesforce, Redeemed readJson response salesforce → Q salesforce log) ∧
      ((¬ ∃ salesforce, Redeemed readJson response salesforce) →
        E (.fault .tokenExchangeFailed) log) := by
  unfold acceptToken
  simp only [wp_bind, wp_checkStatus_iff, wp_orFault, wp_raiseIf, wp_pure, not_not]
  constructor
  · rintro ⟨hsuccess, hfailure⟩
    refine ⟨fun salesforce h => ((hsuccess h.success).1 salesforce h.parsed).2 h.trusted,
      fun hnot => ?_⟩
    by_cases hstatus : 200 ≤ response.status ∧ response.status < 300
    · cases hparsed : parseOAuthTokenResponse readJson response.body with
      | error e => exact (hsuccess hstatus).2 e hparsed
      | ok salesforce =>
          exact ((hsuccess hstatus).1 salesforce hparsed).1 fun htrusted =>
            hnot ⟨salesforce, hstatus, hparsed, htrusted⟩
    · exact hfailure hstatus
  · rintro ⟨hsuccess, hfailure⟩
    refine ⟨fun hstatus => ⟨fun salesforce hparsed => ⟨fun huntrusted => ?_, fun htrusted => ?_⟩,
      fun e herror => ?_⟩,
      fun hstatus => ?_⟩
    · apply hfailure
      rintro ⟨other, h⟩
      cases hparsed.symm.trans h.parsed
      exact huntrusted h.trusted
    · exact hsuccess salesforce ⟨hstatus, hparsed, htrusted⟩
    · apply hfailure
      rintro ⟨other, h⟩
      cases herror.symm.trans h.parsed
    · apply hfailure
      rintro ⟨_, h⟩
      exact hstatus h.success

theorem wp_acceptToken {Q : OAuthTokenResponse → List ExchangeEvent → Prop}
    {response : HttpResponse}
    (hQ : ∀ salesforce, Redeemed readJson response salesforce → Q salesforce log)
    (hE : ∀ e, E e log) :
    wp (acceptToken readJson response) Q E C log :=
  wp_acceptToken_iff.mpr ⟨hQ, fun _ => hE _⟩

end Rules

/-! ## What a run sends -/

/-- Since `base`, the program has asked, but sent nothing. -/
def OnlyAsks (base log : List ExchangeEvent) : Prop :=
  ∃ after, requests after = [] ∧ log = base ++ after

theorem OnlyAsks.refl (base : List ExchangeEvent) : OnlyAsks base base :=
  ⟨[], rfl, (List.append_nil base).symm⟩

theorem OnlyAsks.ask {base log : List ExchangeEvent} (h : OnlyAsks base log)
    (answer : ExchangeAnswer) :
    OnlyAsks base (log ++ [{ answer := answer }]) := by
  obtain ⟨after, hafter, rfl⟩ := h
  refine ⟨after ++ [{ answer := answer }], ?_, List.append_assoc ..⟩
  rw [requests_append, hafter, requests_hook, List.append_nil]

/-- Behind the second response, a run only asks. -/
theorem keeps_onlyAsks (base : List ExchangeEvent) (options : OAuthExchangeOptions)
    (response : HttpResponse) :
    Keeps (OnlyAsks base) (do
      let parsed ← acceptData360 env readJson options response
      grant env options parsed) := by
  refine keeps_bind (fun log hlog => ?_) fun parsed => ?_
  · unfold acceptData360
    refine (wp_bind _ _).mpr (wp_checkStatus (fun _ => ?_) fun _ => hlog)
    refine (wp_bind _ _).mpr (wp_checkCancelled ?_ fun _ _ => hlog.ask _)
    exact wp_orFault.mpr ⟨fun _ _ => hlog.ask _, fun _ _ => hlog.ask _⟩
  · refine keeps_bind (keeps_ite _ (keeps_bind (keeps_raiseIf _ _) fun _ => keeps_pure _)
      (keeps_pure _)) fun tenantUrl => keeps_bind (keeps_raiseIf _ _) fun _ => ?_
    refine keeps_bind (fun log hlog => ?_) fun now => keeps_bind (keeps_raiseIf _ _) fun _ => ?_
    · exact wp_nowMs.mpr ⟨fun _ _ => hlog.ask _, fun _ _ => hlog.ask _⟩
    refine keeps_bind (fun log hlog => ?_) fun nowUtc => keeps_bind (keeps_raiseIf _ _) fun _ =>
      keeps_pure _
    exact wp_utcNowMicros.mpr ⟨fun _ _ => hlog.ask _, fun _ _ => hlog.ask _⟩

/-- What a run has sent: nothing, the login request, or the login request and,
once that was redeemed and the program was not cancelled, the request for the
Data 360 token. -/
inductive Sends (readJson : JsonReader) (options : OAuthExchangeOptions)
    (loginOrigin clientId : Bytes)
    (material : AuthCompletionMaterial) : List ExchangeEvent → Prop
  | nothing {log : List ExchangeEvent} (hlog : requests log = []) :
      Sends readJson options loginOrigin clientId material log
  | login {log : List ExchangeEvent} {origin : Bytes}
      (horigin : validateSalesforceLoginOrigin loginOrigin = .ok origin)
      (hlog : requests log = [oauthRequest options origin clientId material]) :
      Sends readJson options loginOrigin clientId material log
  | token {before after : List ExchangeEvent} {origin : Bytes} {response : HttpResponse}
      {salesforce : OAuthTokenResponse} {answer : SendAnswer}
      (horigin : validateSalesforceLoginOrigin loginOrigin = .ok origin)
      (hredeemed : Redeemed readJson response salesforce)
      (hbefore : requests before = []) (hafter : requests after = []) :
      Sends readJson options loginOrigin clientId material (before ++ [
        { request := some (oauthRequest options origin clientId material)
          answer := .send (.response response) },
        { answer := .isCancelled (.ok false) },
        { request := some (data360Request options salesforce), answer := .send answer }] ++ after)

/-- The requests of a log that holds two. -/
theorem requests_token {before after : List ExchangeEvent} (hbefore : requests before = [])
    (hafter : requests after = []) (login request : HttpRequest) (response answer : SendAnswer)
    (asked : ExchangeAnswer) :
    requests (before ++ [{ request := some login, answer := .send response }, { answer := asked },
      { request := some request, answer := .send answer }] ++ after) = [login, request] := by
  rw [requests_append, requests_append, hbefore, hafter]
  rfl

/-- What a run sends. -/
theorem exchange_sends (env : ExchangeEnv) (readJson : JsonReader)
    (provider : SalesforceOAuthProvider)
    (loginOrigin clientId : Bytes) (material : AuthCompletionMaterial) :
    Sends readJson provider.options loginOrigin clientId material
      (exchange env readJson provider loginOrigin clientId material []).2 := by
  refine wp_final.mp ?_
  unfold exchange
  refine (wp_bind _ _).mpr (wp_orFault.mpr ⟨fun origin horigin => ?_, fun _ _ => .nothing rfl⟩)
  simp only [wp_bind, checkClientId, wp_raiseIf]
  refine ⟨fun _ => .nothing rfl, fun _ => ⟨fun _ => .nothing rfl, fun _ => ?_⟩⟩
  refine wp_checkCancelled (wp_sendSanitized (fun response => ?_) fun _ _ => .login horigin rfl)
    fun _ _ => .nothing rfl
  refine wp_acceptToken (fun salesforce hredeemed => ?_) fun _ => .login horigin rfl
  unfold exchangeToken
  refine (wp_bind _ _).mpr (wp_checkCancelled ?_ fun _ _ => .login horigin rfl)
  have hsent (answer : SendAnswer) {log : List ExchangeEvent}
      (hlog : OnlyAsks ([{ answer := .isCancelled (.ok false) }] ++ [
        { request := some (oauthRequest provider.options origin clientId material)
          answer := .send (.response response) },
        { answer := .isCancelled (.ok false) },
        { request := some (data360Request provider.options salesforce), answer := .send answer }])
          log) :
      Sends readJson provider.options loginOrigin clientId material log := by
    obtain ⟨after, hafter, rfl⟩ := hlog
    exact .token horigin hredeemed rfl hafter
  refine (wp_bind _ _).mpr
    (wp_sendSanitized (fun answer => ?_) fun _ answer => hsent answer (.refl _))
  exact wp_mono (keeps_onlyAsks _ _ answer _ (.refl _)) (fun _ _ => hsent _) (fun _ _ => hsent _)
    fun _ => hsent _

/-! ## What a run returns -/

/-- The responses that the requests of a log got. -/
def responses (log : List ExchangeEvent) : List HttpResponse :=
  log.filterMap fun event =>
    match event.request, event.answer with
    | some _, .send (.response response) => some response
    | _, _ => none

theorem responses_eq_nil {log : List ExchangeEvent} (h : requests log = []) :
    responses log = [] := by
  rw [requests, List.filterMap_eq_nil_iff] at h
  rw [responses, List.filterMap_eq_nil_iff]
  intro event hevent
  rw [h event hevent]

/-- The capability is what the second response says. -/
structure Grants (readJson : JsonReader) (options : OAuthExchangeOptions)
    (capability : ExchangedCapability) (response : HttpResponse) : Prop where
  parsed : ∃ ttlSeconds tenantUrl, parseData360Response readJson response.body
    options.defaultTtlSeconds = .ok { token := capability.accessToken, tenantUrl, ttlSeconds }
  tenant : validDnsOrigin capability.tenantUrl (ascii ".c360a.salesforce.com") = true

theorem wp_acceptData360_parsed (options : OAuthExchangeOptions) (response : HttpResponse)
    {base log : List ExchangeEvent} (h : OnlyAsks base log) :
    wp (acceptData360 env readJson options response)
      (fun parsed log' => OnlyAsks base log' ∧
        parseData360Response readJson response.body options.defaultTtlSeconds = .ok parsed)
      (fun _ _ => True) (fun _ => True) log := by
  unfold acceptData360
  refine (wp_bind _ _).mpr (wp_checkStatus (fun _ => ?_) fun _ => trivial)
  refine (wp_bind _ _).mpr (wp_checkCancelled ?_ fun _ _ => trivial)
  exact wp_orFault.mpr ⟨fun _ hparsed => ⟨h.ask _, hparsed⟩, fun _ _ => trivial⟩

theorem wp_grant (options : OAuthExchangeOptions) (parsed : Data360Response)
    {base log : List ExchangeEvent} (h : OnlyAsks base log) :
    wp (grant env options parsed)
      (fun capability log' => OnlyAsks base log' ∧ capability.accessToken = parsed.token ∧
        validDnsOrigin capability.tenantUrl (ascii ".c360a.salesforce.com") = true)
      (fun _ _ => True) (fun _ => True) log := by
  have htenant : wp (tenantOrigin parsed.tenantUrl) (fun _ log' => log' = log) (fun _ _ => True)
      (fun _ => True) log := by
    unfold tenantOrigin
    simp only [wp_ite, wp_bind, wp_raiseIf, wp_pure]
    exact ⟨fun _ => ⟨fun _ => trivial, fun _ => trivial⟩, fun _ => trivial⟩
  unfold grant
  simp only [wp_bind, wp_raiseIf, wp_pure]
  refine wp_mono htenant ?_ (fun _ _ _ => trivial) fun _ _ => trivial
  rintro tenantUrl _ rfl
  refine ⟨fun _ => trivial, fun hvalid => ?_⟩
  have htrusted := not_not.mp (not_or.mp hvalid).1
  refine wp_nowMs.mpr ⟨fun now _ => ⟨fun _ => trivial, fun _ => ?_⟩, fun _ _ => trivial⟩
  exact wp_utcNowMicros.mpr ⟨fun nowUtc _ => ⟨fun _ => trivial, fun _ =>
    ⟨(h.ask _).ask _, trivial, htrusted⟩⟩, fun _ _ => trivial⟩

/-- A run that returns a capability was answered twice, and grants what the second response
says. -/
theorem exchange_grants {provider : SalesforceOAuthProvider} {loginOrigin clientId : Bytes}
    {material : AuthCompletionMaterial} {capability : ExchangedCapability}
    (h : (exchange env readJson provider loginOrigin clientId material []).1 = .ret capability) :
    ∃ first second,
      responses
        (exchange env readJson provider loginOrigin clientId material []).2 = [first, second] ∧
      Grants readJson provider.options capability second := by
  let Granted (capability : ExchangedCapability) (log : List ExchangeEvent) : Prop :=
    ∃ first second,
    responses log = [first, second] ∧ Grants readJson provider.options capability second
  have hwp : wp (exchange env readJson provider loginOrigin clientId material) Granted
      (fun _ _ => True) (fun _ => True) [] := by
    unfold exchange
    refine (wp_bind _ _).mpr (wp_orFault.mpr ⟨fun origin horigin => ?_, fun _ _ => trivial⟩)
    simp only [wp_bind, checkClientId, wp_raiseIf]
    refine ⟨fun _ => trivial, fun _ => ⟨fun _ => trivial, fun _ => ?_⟩⟩
    refine wp_checkCancelled (wp_sendSanitized (fun first => ?_) fun _ _ => trivial)
      fun _ _ => trivial
    refine wp_acceptToken (fun salesforce _ => ?_) fun _ => trivial
    unfold exchangeToken
    refine (wp_bind _ _).mpr (wp_checkCancelled ?_ fun _ _ => trivial)
    refine (wp_bind _ _).mpr (wp_sendSanitized (fun second => ?_) fun _ _ => trivial)
    refine (wp_bind _ _).mpr (wp_mono (wp_acceptData360_parsed provider.options second (.refl _)) ?_
      (fun _ _ _ => trivial) fun _ _ => trivial)
    rintro parsed log ⟨hasks, hparsed⟩
    refine wp_mono (wp_grant provider.options parsed hasks) ?_ (fun _ _ _ => trivial)
      fun _ _ => trivial
    rintro granted _ ⟨⟨after, hafter, rfl⟩, htoken, htenant⟩
    refine ⟨first, second, ?_,
      ⟨parsed.ttlSeconds, parsed.tenantUrl, by rw [htoken, hparsed]⟩, htenant⟩
    rw [responses, List.filterMap_append, ← responses, ← responses, responses_eq_nil hafter]
    rfl
  exact (wp_iff.mp hwp).1 capability _ (run_eq_of_fst h)

/-! ## A login -/

/-- A response that holds a JSON document. -/
def documentResponse (document : Json.Value) : HttpResponse where
  status := 200
  body := Json.write document

/-- A document that grants a token. -/
def tokenDocument (token instanceUrl : Bytes) : Json.Value :=
  .object [(ascii "access_token", .string token), (ascii "instance_url", .string instanceUrl)]

/-- The surroundings of a login: the first request is answered with a Salesforce token, and the
second one with a document. -/
def loginEnv (salesforceToken : Bytes) (document : Json.Value) : ExchangeEnv where
  send log _ := .response <| documentResponse <|
    if log.length = 1 then tokenDocument salesforceToken (ascii "https://t.my.salesforce.com")
    else document
  isCancelled _ := .ok false
  nowMs _ := .ok 0
  utcNowMicros _ := .ok 0

def sampleMaterial : AuthCompletionMaterial where
  authorizationCode := ascii "code"
  pkceVerifier := ascii "verifier"
  loginOrigin := ascii "https://login.salesforce.com"
  clientId := ascii "client"
  secretName := ascii "prod"

/-- The login, in which the second server grants the token `token`. -/
def sampleLogin (token : Bytes) :
    Outcome CompletionError ExchangedCapability × List ExchangeEvent :=
  exchangeMaterial (loginEnv (ascii "salesforce-token")
    (tokenDocument token (ascii "https://t.c360a.salesforce.com"))) Json.parse
    { valid := OAuthExchangeOptions.valid_default } sampleMaterial []

end Data360.SalesforceOAuthProvider
