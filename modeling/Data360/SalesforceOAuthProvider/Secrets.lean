import Data360.SalesforceOAuthProvider.Expiry
import Data360.Lib.Twin

/-!
# What an exchange tells whom

Where the requests of the exchange go, and what they depend on.

* `Sends.confined` says where the requests of a run go and when the second one
  is sent.
* `exchange_hides_login` compares two runs with other codes and verifiers, and
  `exchange_hides_token` two runs that were answered with other Salesforce tokens:
  as long as the rest of what they are told is the same, they end in the same way
  and their requests differ in one body.

Both comparisons are walks through the two runs in step.  `Alike` is what their
logs have in common on the way.
-/

namespace Data360.SalesforceOAuthProvider

open Lib Lib.ByteString Lib.Prog

/-! ## Two logs side by side -/

/-- The requests, without the body of the one at position `n`. -/
def hideBody (n : Nat) (requests : List HttpRequest) : List HttpRequest :=
  requests.mapIdx fun i request => if i = n then { request with body := [] } else request

/-- Two logs of `asked` interactions and `sent` requests that are the same up to the
body of request `n`. -/
structure Alike (n sent asked : Nat) (s t : List ExchangeEvent) : Prop where
  left : s.length = asked
  right : t.length = asked
  count : (requests s).length = sent
  same : hideBody n (requests s) = hideBody n (requests t)

/-- Two runs end with the same value and the same requests, up to one body. -/
def EndsAlike (n : Nat) {α : Type} (a : α) (s : List ExchangeEvent) (b : α)
    (t : List ExchangeEvent) :
    Prop :=
  a = b ∧ hideBody n (requests s) = hideBody n (requests t)

theorem length_hideBody (n : Nat) (list : List HttpRequest) :
    (hideBody n list).length = list.length :=
  List.length_mapIdx

variable {n sent asked : Nat} {s t : List ExchangeEvent}

theorem Alike.nil (n : Nat) : Alike n 0 0 [] [] := ⟨rfl, rfl, rfl, rfl⟩

theorem Alike.ends {α : Type} (h : Alike n sent asked s t) (a : α) : EndsAlike n a s a t :=
  ⟨rfl, h.same⟩

/-- Both programs ask. -/
theorem Alike.ask (h : Alike n sent asked s t) (answer answer' : ExchangeAnswer) :
    Alike n sent (asked + 1) (s ++ [{ answer := answer }]) (t ++ [{ answer := answer' }]) where
  left := by rw [List.length_append, h.left, List.length_singleton]
  right := by rw [List.length_append, h.right, List.length_singleton]
  count := by simpa using h.count
  same := by simpa using h.same

/-- Both programs send, and at most the body of request `n` differs. -/
theorem Alike.send (h : Alike n sent asked s t) {request request' : HttpRequest}
    (hrequest : (if sent = n then { request with body := [] } else request)
      = if sent = n then { request' with body := [] } else request')
    (answer answer' : ExchangeAnswer) :
    Alike n (sent + 1) (asked + 1) (s ++ [{ request := some request, answer := answer }])
      (t ++ [{ request := some request', answer := answer' }]) where
  left := by rw [List.length_append, h.left, List.length_singleton]
  right := by rw [List.length_append, h.right, List.length_singleton]
  count := by simpa using h.count
  same := by
    have hcount : (requests t).length = sent := by
      rw [← length_hideBody n, ← h.same, length_hideBody, h.count]
    have hsame := h.same
    unfold hideBody at hsame ⊢
    rw [requests_append, requests_append, List.mapIdx_append, List.mapIdx_append, hsame]
    simpa [h.count, hcount] using hrequest

/-! ## The programs side by side -/

variable (env env' : ExchangeEnv) (readJson : JsonReader)

theorem stateless_orFault {ε α : Type} (fault : ε → AuthFault) (answer : Except ε α) :
    Stateless (orFault fault answer) := by
  cases answer
  · exact stateless_raise _
  · exact stateless_pure _

theorem stateless_checkClientId (clientId : Bytes) : Stateless (checkClientId clientId) :=
  stateless_bind (stateless_raiseIf _ _) fun _ => stateless_raiseIf _ _

theorem stateless_checkStatus (status : Int) (data360Exchange : Bool) :
    Stateless (checkStatus status data360Exchange) :=
  stateless_ite _ (stateless_pure _)
    (stateless_bind (stateless_raiseIf _ _) fun _ => stateless_raise _)

theorem stateless_acceptToken (response : HttpResponse) :
    Stateless (acceptToken readJson response) :=
  stateless_bind (stateless_checkStatus _ _) fun _ =>
    stateless_bind (stateless_orFault _ _) fun _ =>
      stateless_bind (stateless_raiseIf _ _) fun _ => stateless_pure _

theorem stateless_tenantOrigin (tenantUrl : Bytes) : Stateless (tenantOrigin tenantUrl) :=
  stateless_ite _ (stateless_bind (stateless_raiseIf _ _) fun _ => stateless_pure _)
    (stateless_pure _)

theorem appends_checkCancelled : Appends (checkCancelled env) :=
  appends_bind (appends_of_event fun _ => ⟨_, rfl⟩) fun _ => appends_of_stateless
    (stateless_raiseIf _ _)

theorem appends_sendSanitized (request : HttpRequest) (data360Exchange : Bool) :
    Appends (sendSanitized env request data360Exchange) := appends_of_event fun _ => ⟨_, rfl⟩

theorem appends_acceptData360 (options : OAuthExchangeOptions) (response : HttpResponse) :
    Appends (acceptData360 env readJson options response) :=
  appends_bind (appends_of_stateless (stateless_checkStatus _ _)) fun _ =>
    appends_bind (appends_checkCancelled env) fun _ => appends_of_stateless (stateless_orFault _ _)

theorem appends_grant (options : OAuthExchangeOptions) (parsed : Data360Response) :
    Appends (grant env options parsed) :=
  appends_bind (appends_of_stateless (stateless_tenantOrigin _)) fun _ =>
    appends_bind (appends_of_stateless (stateless_raiseIf _ _)) fun _ =>
      appends_bind (appends_of_event fun _ => ⟨_, rfl⟩) fun _ =>
        appends_bind (appends_of_stateless (stateless_raiseIf _ _)) fun _ =>
          appends_bind (appends_of_event fun _ => ⟨_, rfl⟩) fun _ =>
            appends_of_stateless (stateless_bind (stateless_raiseIf _ _) fun _ => stateless_pure _)

theorem appends_exchangeToken (options : OAuthExchangeOptions) (salesforce : OAuthTokenResponse) :
    Appends (exchangeToken env readJson options salesforce) :=
  appends_bind (appends_checkCancelled env) fun _ =>
    appends_bind (appends_sendSanitized env _ _) fun _ =>
    appends_bind (appends_acceptData360 env readJson _ _) fun _ => appends_grant env _ _

section Steps

variable {R : Nat → ExchangeEvent → ExchangeEvent → Prop} {n sent asked : Nat}
  {s t : List ExchangeEvent}

/-- Both programs ask the same and are told the same. -/
theorem twin_ask {α : Type} {ask ask' : Exchange α} {wrap : Except CompletionError α →
    ExchangeAnswer}
    {answer answer' : Except CompletionError α} (hwrap : Function.Injective wrap)
    (hask : ask s = (outcomeOf answer, s ++ [{ answer := wrap answer }]))
    (hask' : ask' t = (outcomeOf answer', t ++ [{ answer := wrap answer' }]))
    (hR : ∀ e e', R asked e e' → e.answer = e'.answer) (h : Alike n sent asked s t) :
    twin (Parted R) ask ask' (fun a s' b t' => a = b ∧ Alike n sent (asked + 1) s' t') (EndsAlike n)
      s t := by
  refine twin_event (h.left.trans h.right.symm) (congrArg Prod.snd hask) (congrArg Prod.snd hask')
    fun hmatch => .inr ?_
  rw [h.left] at hmatch
  obtain rfl := hwrap (hR _ _ hmatch)
  rw [hask, hask']
  cases answer with
  | ok a => exact ⟨rfl, h.ask _ _⟩
  | error e => exact (h.ask _ _).ends e

theorem twin_checkCancelled (hR : ∀ e e', R asked e e' → e.answer = e'.answer)
    (h : Alike n sent asked s t) :
    twin (Parted R) (checkCancelled env) (checkCancelled env')
      (fun _ s' _ t' => Alike n sent (asked + 1) s' t') (EndsAlike n) s t := by
  have hinj : Function.Injective ExchangeAnswer.isCancelled :=
    fun _ _ => ExchangeAnswer.isCancelled.inj
  refine twin_bind_of_appends (fun _ => appends_of_stateless (stateless_raiseIf _ _))
    (fun _ => appends_of_stateless (stateless_raiseIf _ _))
    (twin_mono (twin_ask hinj rfl rfl hR h) ?_ fun _ _ _ _ => id)
  rintro flag s' _ t' ⟨rfl, hlogs⟩
  exact twin_raiseIf Iff.rfl (fun _ => hlogs.ends _) fun _ => hlogs

theorem sanitize_ne_cut (data360Exchange : Bool) (answer : SendAnswer) :
    sanitize data360Exchange answer ≠ .cut := by
  cases answer with
  | response | fault | other => simp [sanitize]
  | exception detail =>
      simp only [sanitize]
      split_ifs
      all_goals simp

/-- Both programs send, and are answered the same. -/
theorem twin_sendSanitized {request request' : HttpRequest} {data360Exchange : Bool}
    (hR : ∀ e e', R asked e e' → e.answer = e'.answer) (h : Alike n sent asked s t)
    (hrequest : (if sent = n then { request with body := [] } else request)
      = if sent = n then { request' with body := [] } else request') :
    twin (Parted R) (sendSanitized env request data360Exchange)
      (sendSanitized env' request' data360Exchange)
      (fun response s' response' t' => response = response' ∧ Alike n (sent + 1) (asked + 1) s' t')
      (EndsAlike n) s t := by
  refine twin_event (h.left.trans h.right.symm) rfl rfl fun hmatch => .inr ?_
  rw [h.left] at hmatch
  have hanswer : env.send s request = env'.send t request' :=
    ExchangeAnswer.send.inj (hR _ _ hmatch)
  have hlogs := h.send hrequest (.send (env.send s request)) (.send (env'.send t request'))
  rw [hanswer] at hlogs
  unfold sendSanitized
  rw [hanswer]
  cases hsanitized : sanitize data360Exchange (env'.send t request') with
  | ret response => exact ⟨rfl, hlogs⟩
  | raise e => exact hlogs.ends e
  | cut => exact (sanitize_ne_cut _ _ hsanitized).elim

/-- Behind the second response, both runs go the same way. -/
theorem twin_acceptData360 (options : OAuthExchangeOptions) (response : HttpResponse)
    (hR : ∀ e e', R asked e e' → e.answer = e'.answer) (h : Alike n sent asked s t) :
    twin (Parted R) (acceptData360 env readJson options response)
      (acceptData360 env' readJson options response)
      (fun parsed s' parsed' t' => parsed = parsed' ∧ Alike n sent (asked + 1) s' t') (EndsAlike n)
      s t := by
  refine twin_bind_stateless (stateless_checkStatus _ _) (fun _ => ?_) fun e => h.ends e
  refine twin_bind_of_appends (fun _ => appends_of_stateless (stateless_orFault _ _))
    (fun _ => appends_of_stateless (stateless_orFault _ _))
    (twin_mono (twin_checkCancelled env env' hR h) ?_ fun _ _ _ _ => id)
  intro _ s' _ t' hlogs
  cases parseData360Response readJson response.body options.defaultTtlSeconds with
  | ok parsed => exact twin_pure ⟨rfl, hlogs⟩
  | error e => exact twin_raise (hlogs.ends _)

theorem twin_grant (options : OAuthExchangeOptions) (parsed : Data360Response)
    (hR : ∀ i, asked ≤ i → ∀ e e', R i e e' → e.answer = e'.answer) (h : Alike n sent asked s t) :
    twin (Parted R) (grant env options parsed) (grant env' options parsed)
      (EndsAlike n) (EndsAlike n)
      s t := by
  have hmonotonic : Function.Injective ExchangeAnswer.nowMs := fun _ _ => ExchangeAnswer.nowMs.inj
  have hutc : Function.Injective ExchangeAnswer.utcNowMicros := fun _ _ =>
    ExchangeAnswer.utcNowMicros.inj
  refine twin_bind_stateless (stateless_tenantOrigin _) (fun tenantUrl => ?_) fun e => h.ends e
  refine twin_bind_stateless (stateless_raiseIf _ _) (fun _ => ?_) fun e => h.ends e
  have hask (env : ExchangeEnv) : Appends (utcNowMicros env) := appends_of_event fun _ => ⟨_, rfl⟩
  refine twin_bind_of_appends
    (fun _ => appends_bind (appends_of_stateless (stateless_raiseIf _ _)) fun _ =>
      appends_bind (hask env) fun _ => appends_of_stateless
        (stateless_bind (stateless_raiseIf _ _) fun _ => stateless_pure _))
    (fun _ => appends_bind (appends_of_stateless (stateless_raiseIf _ _)) fun _ =>
      appends_bind (hask env') fun _ => appends_of_stateless
        (stateless_bind (stateless_raiseIf _ _) fun _ => stateless_pure _))
    (twin_mono (twin_ask hmonotonic rfl rfl (hR _ le_rfl) h) ?_ fun _ _ _ _ => id)
  rintro now s' _ t' ⟨rfl, hlogs⟩
  refine twin_bind_stateless (stateless_raiseIf _ _) (fun _ => ?_) fun e => hlogs.ends e
  refine twin_bind_of_appends
    (fun _ => appends_of_stateless
      (stateless_bind (stateless_raiseIf _ _) fun _ => stateless_pure _))
    (fun _ => appends_of_stateless
      (stateless_bind (stateless_raiseIf _ _) fun _ => stateless_pure _))
    (twin_mono (twin_ask hutc rfl rfl (hR _ (Nat.le_succ _)) hlogs) ?_ fun _ _ _ _ => id)
  rintro nowUtc s'' _ t'' ⟨rfl, hlogs⟩
  refine twin_bind_stateless (stateless_raiseIf _ _) (fun _ => ?_) fun e => hlogs.ends e
  exact twin_pure (hlogs.ends _)

/-- The second halves of two runs. -/
theorem twin_exchangeToken
    (options : OAuthExchangeOptions) {salesforce salesforce' : OAuthTokenResponse}
    (hrequest : (if sent = n then { data360Request options salesforce with body := [] }
        else data360Request options salesforce)
      = if sent = n then { data360Request options salesforce' with body := [] }
        else data360Request options salesforce')
    (hR : ∀ i, asked ≤ i → ∀ e e', R i e e' → e.answer = e'.answer) (h : Alike n sent asked s t) :
    twin (Parted R) (exchangeToken env readJson options salesforce)
      (exchangeToken env' readJson options salesforce') (EndsAlike n) (EndsAlike n) s t := by
  have hrest (env : ExchangeEnv) (response : HttpResponse) : Appends (do
      let parsed ← acceptData360 env readJson options response
      grant env options parsed) :=
    appends_bind (appends_acceptData360 env readJson _ _) fun _ => appends_grant env _ _
  refine twin_bind_of_appends
    (fun _ => appends_bind (appends_sendSanitized env _ _) fun _ => hrest env _)
    (fun _ => appends_bind (appends_sendSanitized env' _ _) fun _ => hrest env' _)
    (twin_mono (twin_checkCancelled env env' (hR _ le_rfl) h) ?_ fun _ _ _ _ => id)
  intro _ s' _ t' hlogs
  refine twin_bind_of_appends (fun _ => hrest env _) (fun _ => hrest env' _)
    (twin_mono (twin_sendSanitized env env' (hR _ (by omega)) hlogs hrequest) ?_ fun _ _ _ _ => id)
  rintro response s' _ t' ⟨rfl, hlogs⟩
  refine twin_bind_of_appends (fun _ => appends_grant env _ _) (fun _ => appends_grant env' _ _)
    (twin_mono (twin_acceptData360 env env' readJson options response (hR _ (by omega)) hlogs) ?_
      fun _ _ _ _ => id)
  rintro parsed s' _ t' ⟨rfl, hlogs⟩
  exact twin_grant env env' options parsed (fun i hi => hR i (by omega)) hlogs

end Steps

/-! ## Other codes and verifiers -/

/-- Wherever both runs were told something, they were told the same. -/
def SameAnswers (s t : List ExchangeEvent) : Prop :=
  ∀ (i : Nat) (e e' : ExchangeEvent), s[i]? = some e → t[i]? = some e' → e.answer = e'.answer

/-- What is left of a run once it has the first response. -/
def redeem (provider : SalesforceOAuthProvider) (response : HttpResponse) :
    Exchange ExchangedCapability := do
  let salesforce ← acceptToken readJson response
  exchangeToken env readJson provider.options salesforce

theorem appends_redeem (provider : SalesforceOAuthProvider) (response : HttpResponse) :
    Appends (redeem env readJson provider response) :=
  appends_bind (appends_of_stateless (stateless_acceptToken readJson _)) fun _ =>
    appends_exchangeToken env readJson _ _

/-- The first halves of two runs. -/
theorem twin_exchange {R : Nat → ExchangeEvent → ExchangeEvent → Prop} {n : Nat}
    (provider : SalesforceOAuthProvider) (loginOrigin clientId : Bytes)
    (material material' : AuthCompletionMaterial)
    (hR : ∀ e e' : ExchangeEvent, R 0 e e' → e.answer = e'.answer)
    (h : ∀ origin s t, Alike n 0 1 s t → twin (Parted R)
      (do
        let response ← sendSanitized env
          (oauthRequest provider.options origin clientId material) false
        redeem env readJson provider response)
      (do
        let response ← sendSanitized env'
          (oauthRequest provider.options origin clientId material') false
        redeem env' readJson provider response) (EndsAlike n) (EndsAlike n) s t) :
    twin (Parted R) (exchange env readJson provider loginOrigin clientId material)
      (exchange env' readJson provider loginOrigin clientId material') (EndsAlike n) (EndsAlike n)
      [] [] := by
  have hrest (env : ExchangeEnv) (request : HttpRequest) : Appends (do
      let response ← sendSanitized env request false
      redeem env readJson provider response) :=
    appends_bind (appends_sendSanitized env _ _) fun _ => appends_redeem env readJson provider _
  refine twin_bind_stateless (stateless_orFault _ _) (fun origin => ?_) fun e =>
    (Alike.nil n).ends e
  refine twin_bind_stateless (stateless_checkClientId _) (fun _ => ?_) fun e => (Alike.nil n).ends e
  refine twin_bind_of_appends (fun _ => hrest env _) (fun _ => hrest env' _)
    (twin_mono (twin_checkCancelled env env' hR (.nil n)) ?_ fun _ _ _ _ => id)
  exact fun _ s _ t hlogs => h origin s t hlogs

/-- Two runs end alike if they do not part. -/
theorem endsAlike_of_twin {R : Nat → ExchangeEvent → ExchangeEvent → Prop} {n : Nat}
    {prog prog' : Exchange ExchangedCapability} {s t : List ExchangeEvent}
    (h : twin (Parted R) prog prog' (EndsAlike n) (EndsAlike n) s t)
    (hd : ¬ Parted R (prog s).2 (prog' t).2) :
    (prog s).1 = (prog' t).1 ∧
      hideBody n (requests (prog s).2) = hideBody n (requests (prog' t).2) := by
  rcases twin_ends h hd with ⟨a, b, hs, ht, rfl, hsame⟩ | ⟨e, e', hs, ht, rfl, hsame⟩
  · exact ⟨hs.trans ht.symm, hsame⟩
  · exact ⟨hs.trans ht.symm, hsame⟩

/-- Runs with other codes and verifiers that are told the same end in the same way, and
their requests are the same up to the body of the first one. -/
theorem exchange_hides_login (provider : SalesforceOAuthProvider) (loginOrigin clientId : Bytes)
    (material material' : AuthCompletionMaterial)
    (hsame : SameAnswers (exchange env readJson provider loginOrigin clientId material []).2
      (exchange env' readJson provider loginOrigin clientId material' []).2) :
    (exchange env readJson provider loginOrigin clientId material []).1
        = (exchange env' readJson provider loginOrigin clientId material' []).1 ∧
      hideBody 0 (requests (exchange env readJson provider loginOrigin clientId material []).2)
        = hideBody 0
          (requests (exchange env' readJson provider loginOrigin clientId material' []).2) := by
  refine endsAlike_of_twin (twin_exchange env env' readJson provider loginOrigin clientId _ _
    (R := fun _ e e' => e.answer = e'.answer) (fun _ _ => id) fun origin s t hlogs => ?_)
    (not_parted hsame)
  refine twin_bind_of_appends (fun _ => appends_redeem env readJson provider _)
    (fun _ => appends_redeem env' readJson provider _)
    (twin_mono (twin_sendSanitized env env' (fun _ _ => id) hlogs rfl) ?_ fun _ _ _ _ => id)
  rintro response s _ t ⟨rfl, hlogs⟩
  refine twin_bind_stateless (stateless_acceptToken _ _) (fun salesforce => ?_)
    fun e => hlogs.ends e
  exact twin_exchangeToken env env' readJson provider.options rfl (fun _ _ _ _ => id) hlogs

/-! ## Other Salesforce tokens -/

/-- Two answers to the login request: responses with one status that hold the same but
for the access token. -/
def DifferInToken (answer answer' : ExchangeAnswer) : Prop :=
  ∃ response response' salesforce accessToken,
    answer = .send (.response response) ∧ answer' = .send (.response response') ∧
      response.status = response'.status ∧
      parseOAuthTokenResponse readJson response.body = .ok salesforce ∧
      parseOAuthTokenResponse readJson response'.body = .ok { salesforce with accessToken }

/-- The answers to the login request, which is the second interaction, differ in the
Salesforce token; wherever else both runs were told something, they were told the
same. -/
def OtherToken (s t : List ExchangeEvent) : Prop :=
  ∀ (i : Nat) (e e' : ExchangeEvent), s[i]? = some e → t[i]? = some e' →
    if i = 1 then DifferInToken readJson e.answer e'.answer else e.answer = e'.answer

/-- Both programs accept responses that differ in the token. -/
theorem twin_acceptToken {R : Nat → ExchangeEvent → ExchangeEvent → Prop} {n sent asked : Nat}
    {s t : List ExchangeEvent} {response response' : HttpResponse} {salesforce : OAuthTokenResponse}
    {accessToken : Bytes} (hstatus : response.status = response'.status)
    (hparsed : parseOAuthTokenResponse readJson response.body = .ok salesforce)
    (hparsed' : parseOAuthTokenResponse readJson response'.body = .ok
      { salesforce with accessToken })
    (h : Alike n sent asked s t) :
    twin (Parted R) (acceptToken readJson response) (acceptToken readJson response')
      (fun left s' right t' => left = salesforce ∧ right = { salesforce with accessToken } ∧
        Alike n sent asked s' t') (EndsAlike n) s t := by
  unfold acceptToken
  rw [hstatus, hparsed, hparsed']
  refine twin_bind_stateless (stateless_checkStatus _ _) (fun _ => ?_) fun e => h.ends e
  refine twin_bind_of_appends
    (fun _ => appends_of_stateless
      (stateless_bind (stateless_raiseIf _ _) fun _ => stateless_pure _))
    (fun _ => appends_of_stateless
      (stateless_bind (stateless_raiseIf _ _) fun _ => stateless_pure _))
    (twin_pure ?_)
  exact twin_bind_of_appends (fun _ => appends_of_stateless (stateless_pure _))
    (fun _ => appends_of_stateless (stateless_pure _))
    (twin_raiseIf Iff.rfl (fun _ => h.ends _) fun _ => twin_pure ⟨rfl, rfl, h⟩)

/-- Runs that were answered with other Salesforce tokens, and else told the same, end in
the same way, and their requests are the same up to the body of the second one. -/
theorem exchange_hides_token (provider : SalesforceOAuthProvider) (loginOrigin clientId : Bytes)
    (material : AuthCompletionMaterial)
    (hother : OtherToken readJson
      (exchange env readJson provider loginOrigin clientId material []).2
      (exchange env' readJson provider loginOrigin clientId material []).2) :
    (exchange env readJson provider loginOrigin clientId material []).1
        = (exchange env' readJson provider loginOrigin clientId material []).1 ∧
      hideBody 1 (requests (exchange env readJson provider loginOrigin clientId material []).2)
        = hideBody 1
          (requests (exchange env' readJson provider loginOrigin clientId material []).2) := by
  refine endsAlike_of_twin (twin_exchange env env' readJson provider loginOrigin clientId _ _
    (R := fun i e e' => if i = 1 then DifferInToken readJson e.answer e'.answer
      else e.answer = e'.answer) (fun _ _ => id) fun origin s t hlogs => ?_) (not_parted hother)
  refine twin_bind_of_appends (fun _ => appends_redeem env readJson provider _)
    (fun _ => appends_redeem env' readJson provider _) ?_
  let login := oauthRequest provider.options origin clientId material
  have hsend : Alike 1 1 2 (s ++ [{ request := some login, answer := .send (env.send s login) }])
      (t ++ [{ request := some login, answer := .send (env'.send t login) }]) := hlogs.send rfl _ _
  refine twin_event (hlogs.left.trans hlogs.right.symm) rfl rfl fun hmatch => .inr ?_
  rw [hlogs.left] at hmatch
  obtain ⟨response, response', salesforce, accessToken, hanswer, hanswer', hstatus,
    hparsed, hparsed'⟩ :=
    hmatch
  unfold sendSanitized
  rw [ExchangeAnswer.send.inj hanswer, ExchangeAnswer.send.inj hanswer'] at hsend ⊢
  refine twin_bind_of_appends (fun _ => appends_exchangeToken env readJson _ _)
    (fun _ => appends_exchangeToken env' readJson _ _)
    (twin_mono (twin_acceptToken readJson hstatus hparsed hparsed' hsend) ?_ fun _ _ _ _ => id)
  rintro _ s' _ t' ⟨rfl, rfl, hlogs⟩
  refine twin_exchangeToken env env' readJson provider.options rfl
    (fun i hi e e' hmatch => ?_) hlogs
  rwa [if_neg (by omega)] at hmatch

/-! ## Where the requests go -/

/-- An `https` origin of a host below `.salesforce.com`. -/
def SalesforceOrigin (url : Bytes) : Prop :=
  ∃ host, url = ascii "https://" ++ host ∧ host.length ≤ 253 ∧
    OriginHost (ascii ".salesforce.com") host

/-- The requests of a log go where they may, and the second one is sent only behind an
accepted answer to the first. -/
structure Confined (loginOrigin : Bytes) (log : List ExchangeEvent) : Prop where
  atMostTwo : (requests log).length ≤ 2
  posts : ∀ request ∈ requests log,
    request.method = ascii "POST" ∧ request.followRedirects = false
  first : ∀ request, (requests log)[0]? = some request →
    ∃ origin, validateSalesforceLoginOrigin loginOrigin = .ok origin ∧
      request.url = origin ++ ascii "/services/oauth2/token"
  second : ∀ request, (requests log)[1]? = some request →
    ∃ before login response answer after, requests before = [] ∧
      log = before ++ [
        { request := some login, answer := .send (.response response) },
        { answer := .isCancelled (.ok false) },
        { request := some request, answer := .send answer }] ++ after ∧
      (200 ≤ response.status ∧ response.status < 300) ∧
      ∃ salesforce, parseOAuthTokenResponse readJson response.body = .ok salesforce ∧
        SalesforceOrigin salesforce.instanceUrl ∧
        request.url = salesforce.instanceUrl ++ ascii "/services/a360/token"

theorem salesforceOrigin_of_valid {url : Bytes}
    (h : validDnsOrigin url (ascii ".salesforce.com") = true) : SalesforceOrigin url := by
  have hsuffix : DomainSuffix (ascii ".salesforce.com") :=
    ⟨⟨ascii "salesforce.com", by decide, hostLabels_of_check _ (by decide)⟩⟩
  exact (validDnsOrigin_iff hsuffix url).mp h

variable {readJson} in
/-- What a run sends is confined. -/
theorem Sends.confined {options : OAuthExchangeOptions} {loginOrigin clientId : Bytes}
    {material : AuthCompletionMaterial} {log : List ExchangeEvent}
    (h : Sends readJson options loginOrigin clientId material log) :
    Confined readJson loginOrigin log := by
  cases h with
  | nothing hlog => exact ⟨by simp [hlog], by simp [hlog], by simp [hlog], by simp [hlog]⟩
  | @login _ origin horigin hlog =>
      refine ⟨by simp [hlog], by simp [hlog, oauthRequest], fun request hrequest => ?_,
        by simp [hlog]⟩
      rw [hlog] at hrequest
      obtain rfl := Option.some.inj hrequest
      exact ⟨origin, horigin, rfl⟩
  | @token before after origin response salesforce answer horigin hredeemed hbefore hafter =>
      have hrequests :=
        requests_token hbefore hafter (oauthRequest options origin clientId material)
        (data360Request options salesforce) (.response response) answer (.isCancelled (.ok false))
      refine ⟨?_, ?_, fun request hrequest => ?_, fun request hrequest => ?_⟩
      · rw [hrequests]
        exact le_rfl
      · rw [hrequests]
        simp [oauthRequest, data360Request]
      · rw [hrequests] at hrequest
        obtain rfl := Option.some.inj hrequest
        exact ⟨origin, horigin, rfl⟩
      · rw [hrequests] at hrequest
        obtain rfl := Option.some.inj hrequest
        exact ⟨before, _, response, answer, after, hbefore, rfl, hredeemed.success, salesforce,
          hredeemed.parsed, salesforceOrigin_of_valid hredeemed.trusted, rfl⟩

/-- Exchange confines its secrets: its requests go where they may, the code and the
verifier show in the first body only, and the Salesforce token in the second one. -/
theorem exchange_keeps_secrets (env : ExchangeEnv) (readJson : JsonReader)
    (provider : SalesforceOAuthProvider) (loginOrigin clientId : Bytes)
    (material : AuthCompletionMaterial) :
    let run := exchange env readJson provider loginOrigin clientId material []
    Confined readJson loginOrigin run.2 ∧
      (∀ (env' : ExchangeEnv) (material' : AuthCompletionMaterial),
        let run' := exchange env' readJson provider loginOrigin clientId material' []
        SameAnswers run.2 run'.2 →
          run.1 = run'.1 ∧ hideBody 0 (requests run.2) = hideBody 0 (requests run'.2)) ∧
      ∀ env' : ExchangeEnv,
        let run' := exchange env' readJson provider loginOrigin clientId material []
        OtherToken readJson run.2 run'.2 →
          run.1 = run'.1 ∧ hideBody 1 (requests run.2) = hideBody 1 (requests run'.2) :=
  ⟨(exchange_sends env readJson provider loginOrigin clientId material).confined,
    fun env' material' => exchange_hides_login env env' readJson provider loginOrigin
      clientId material
      material',
    fun env' => exchange_hides_token env env' readJson provider loginOrigin clientId material⟩

/-- The same login with another code and another verifier. -/
def otherMaterial : AuthCompletionMaterial :=
  { sampleMaterial with
    authorizationCode := ascii "other-code"
    pkceVerifier := ascii "other-verifier" }

/-- The login with this Salesforce token in between. -/
def loginWith (salesforceToken : Bytes) (material : AuthCompletionMaterial) :
    Outcome CompletionError ExchangedCapability × List ExchangeEvent :=
  exchangeMaterial (loginEnv salesforceToken
    (tokenDocument (ascii "token") (ascii "https://t.c360a.salesforce.com"))) Json.parse
    { valid := OAuthExchangeOptions.valid_default } material []

/-- The log of a login that is granted. -/
theorem log_of_granted {salesforceToken : Bytes} {material : AuthCompletionMaterial}
    {capability : ExchangedCapability}
    (h : (loginWith salesforceToken material).1 = .ret capability) :
    ∃ login request, (loginWith salesforceToken material).2
      = answeredLog login request
        (documentResponse (tokenDocument salesforceToken (ascii "https://t.my.salesforce.com")))
        (documentResponse (tokenDocument (ascii "token") (ascii "https://t.c360a.salesforce.com")))
        ++ [{ answer := .nowMs (.ok 0) }] ++ [{ answer := .utcNowMicros (.ok 0) }] := by
  obtain ⟨log, parsed, now, nowUtc, happroved, hnow, hutc, hlog⟩ := approved_of_ret h
  obtain ⟨origin, first, salesforce, second, -, -, -, -, rfl⟩ := happroved.answered
  have hfirst := happroved.told.sent [_] rfl
  have hsecond := happroved.told.sent [_, _, _] rfl
  cases hfirst
  cases hsecond
  cases hnow
  cases hutc
  exact ⟨_, _, hlog⟩

theorem answer_of_getElem? {log : List ExchangeEvent} {i : Nat} {e : ExchangeEvent}
    (h : log[i]? = some e) : (log.map (·.answer))[i]? = some e.answer := by
  rw [List.getElem?_map, h]
  rfl

/-- A login with another code, and one with another Salesforce token, that are granted the
same. -/
theorem exchange_keeps_secrets_sample :
    Confined Json.parse (ascii "https://login.salesforce.com")
        (loginWith (ascii "salesforce-token") sampleMaterial).2 ∧
      ((loginWith (ascii "salesforce-token") sampleMaterial).1
          = (loginWith (ascii "salesforce-token") otherMaterial).1 ∧
        hideBody 0 (requests (loginWith (ascii "salesforce-token") sampleMaterial).2)
          = hideBody 0 (requests (loginWith (ascii "salesforce-token") otherMaterial).2)) ∧
      (loginWith (ascii "salesforce-token") sampleMaterial).1
          = (loginWith (ascii "renewed") sampleMaterial).1 ∧
        hideBody 1 (requests (loginWith (ascii "salesforce-token") sampleMaterial).2)
          = hideBody 1 (requests (loginWith (ascii "renewed") sampleMaterial).2) := by
  let granted : ExchangedCapability :=
    ⟨⟨ascii "https://t.c360a.salesforce.com", ascii "token", 870000⟩, 870000000⟩
  have hrun : (loginWith (ascii "salesforce-token") sampleMaterial).1 = .ret granted := by
    decide +kernel
  have hother : (loginWith (ascii "salesforce-token") otherMaterial).1 = .ret granted := by
    decide +kernel
  have hrenewed : (loginWith (ascii "renewed") sampleMaterial).1 = .ret granted := by
    decide +kernel
  obtain ⟨login, request, hlog⟩ := log_of_granted hrun
  obtain ⟨login', request', hlog'⟩ := log_of_granted hother
  obtain ⟨login'', request'', hlog''⟩ := log_of_granted hrenewed
  have hsame : SameAnswers (loginWith (ascii "salesforce-token") sampleMaterial).2
      (loginWith (ascii "salesforce-token") otherMaterial).2 := by
    intro i e e' he he'
    rw [hlog] at he
    rw [hlog'] at he'
    have hanswer := answer_of_getElem? he
    have hanswer' := answer_of_getElem? he'
    exact Option.some.inj (hanswer.symm.trans hanswer')
  have hdiffers : OtherToken Json.parse (loginWith (ascii "salesforce-token") sampleMaterial).2
      (loginWith (ascii "renewed") sampleMaterial).2 := by
    intro i e e' he he'
    rw [hlog] at he
    rw [hlog''] at he'
    rcases i with _ | _ | i
    · cases he
      cases he'
      rw [if_neg (by decide)]
    · cases he
      cases he'
      rw [if_pos rfl]
      exact ⟨_, _, ⟨ascii "salesforce-token", ascii "https://t.my.salesforce.com", 0⟩,
        ascii "renewed", rfl, rfl, rfl, by decide +kernel, by decide +kernel⟩
    · rw [if_neg (by omega)]
      have hanswer := answer_of_getElem? he
      have hanswer' := answer_of_getElem? he'
      exact Option.some.inj (hanswer.symm.trans hanswer')
  obtain ⟨hconfined, hlogin, htoken⟩ := exchange_keeps_secrets
    (loginEnv (ascii "salesforce-token")
      (tokenDocument (ascii "token") (ascii "https://t.c360a.salesforce.com"))) Json.parse {}
    sampleMaterial.loginOrigin sampleMaterial.clientId sampleMaterial
  exact ⟨hconfined, hlogin _ otherMaterial hsame, htoken _ hdiffers⟩

end Data360.SalesforceOAuthProvider
