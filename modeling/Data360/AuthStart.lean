import Data360.AuthExpiry
import Data360.OAuthPkce.AuthorizationUrl

/-!
# Starting a login

`AuthStartExecute` of `src/auth_functions.cpp`: it checks its arguments, binds
the listener, draws the secrets, creates the session, starts the callback
worker, and hands the authorization URL to the user.

The program runs on the shared registry while other callers use it:
`StartEnv.others` are their calls before each call of this one.  The listener,
the worker's thread and the random source answer as the environment says.

* `urlClientId_of_validate` and `challenge_of_verifier` say that what is made
  before the session passes the checks behind it.
* `started_login_handed_out` says that a login whose worker runs reaches the
  user, with the state that the session expects.
-/

namespace Data360

open Lib Lib.ByteString Lib.Prog

/-! ## The arguments -/

/-- `ValidateAuthClientId`. -/
def validateAuthClientId (value : Bytes) : Except AuthFault Unit :=
  if value = [] ∨ value.length > 512 then .error .invalidClientId
  else if value.all fun c => isAlnum c || c = 46 || c = 95 || c = 45 then .ok ()
  else .error .invalidClientId

/-- `ValidateAuthSecretName`. -/
def validateAuthSecretName (value : Bytes) : Except AuthFault Unit :=
  if value = [] ∨ value.length > 128 ∨
      ¬ (isUpper (value.getD 0 0) ∨ isLower (value.getD 0 0) ∨ value.getD 0 0 = 95) then
    .error .secretNameInvalid
  else if value.all fun c => isAlnum c || c = 95 then .ok ()
  else .error .secretNameInvalid

/-- `AuthStartBindData`. -/
structure AuthStartBindData where
  loginOrigin : Bytes
  clientId : Bytes
  secretName : Bytes

/-- The row that `AuthStartExecute` emits. -/
structure AuthStartRow where
  authId : Bytes
  authorizationUrl : Bytes
  expiresAtUtcMicros : Int64
  callbackUrl : Bytes
  status : String

/-! ## The program and its company -/

/-- What travels up `AuthStartExecute`: DuckDB's `InvalidInputException`, an
`AuthFaultException`, an `OAuthError`, or what the random source or the thread
threw. -/
inductive AuthStartError where
  | invalidInput (message : String)
  | fault (fault : AuthFault)
  | oauth (error : OAuthError)
  | other
  deriving DecidableEq, Repr

def AuthStartError.ofRegistry : RegistryError → AuthStartError
  | .fault f => .fault f
  | .entropy => .other

/-- `AUTH_TTL_MS`. -/
def authTtlMs : UInt64 := 600000

/-- What `AuthStartExecute` meets. -/
structure StartEnv where
  /-- The calls of other callers before the `n`-th call of this one. -/
  others : Nat → List Call
  /-- The clock reading of the `n`-th call. -/
  now : Nat → UInt64
  /-- The draws of `Create`. -/
  fill : Nat → Entropy
  /-- The listener, as the callback owner, when its port could be bound. -/
  bindListener : Option AuthCallbackOwner
  /-- What `Fill` does for the verifier and for the state. -/
  verifierBytes : Option (Vector UInt8 32)
  stateBytes : Option (Vector UInt8 16)
  sha256 : Bytes → Vector UInt8 32
  /-- The clock readings from which the expiry is computed. -/
  steadyNowMs : UInt64
  utcNowMicros : Int64
  /-- The worker's thread could be started. -/
  startWorker : Bool

/-- The registry, the local flag, and the calls made on the registry. -/
structure StartWorld where
  registry : Registry
  emitted : Bool := false
  turn : Nat := 0
  made : List RegistryEvent := []

/-- The registry when the next call of this program takes the mutex. -/
def StartWorld.met (w : StartWorld) (env : StartEnv) : Registry :=
  registryMachine.run w.registry (env.others w.turn)

/-- The world after the next call. -/
def StartWorld.after (w : StartWorld) (env : StartEnv) (call : Call) : StartWorld :=
  { w with
    registry := (exec call (w.met env)).registry
    turn := w.turn + 1
    made := w.made ++ [registryMachine.event (w.met env) call] }

/-- A program on the shared registry. -/
abbrev AuthStart := Prog StartWorld AuthStartError

namespace AuthStart

variable (env : StartEnv)

/-- One call on the registry, among those of the others. -/
def perform (call : UInt64 → Call) : AuthStart Reply := fun w =>
  let call := call (env.now w.turn)
  match (exec call (w.met env)).outcome with
  | .ok reply => (.ret reply, w.after env call)
  | .error e => (.raise (.ofRegistry e), w.after env call)

/-- `registry.Create(request)`. -/
def create (request : AuthStartRequest) : AuthStart Bytes := do
  match ← perform env fun now => .create request now env.fill with
  | .authId id => pure id
  | _ => raise .other

/-- `registry.Cancel(auth_id)`. -/
def cancel (id : Bytes) : AuthStart Unit := do
  let _ ← perform env fun _ => .onSession id .cancel

/-- Pass on what a function answers, with its error as one of this program. -/
def answer {ε α : Type} (toError : ε → AuthStartError) : Except ε α → AuthStart α
  | .ok a => pure a
  | .error e => raise (toError e)

/-- What something outside answers; without an answer it has thrown. -/
def fromOutside {α : Type} (error : AuthStartError) : Option α → AuthStart α
  | some a => pure a
  | none => raise error

/-- An `InvalidInputException` with the text of a fault. -/
def invalidInput (fault : AuthFault) : AuthStartError := .invalidInput (formatSafeFault fault)

/-- The request of the session. -/
def startRequest (origin oauthState verifier : Bytes) (owner : AuthCallbackOwner)
    (bind : AuthStartBindData) : AuthStartRequest where
  loginOrigin := origin
  clientId := bind.clientId
  secretName := bind.secretName
  expectedState := oauthState
  pkceVerifier := verifier
  expiresAtMonotonicMs := env.steadyNowMs + authTtlMs
  expiresAtUtcMicros := env.utcNowMicros + authTtlMs.toInt64 * 1000
  callbackOwner := some owner

/-- `AuthStartExecute`. -/
def authStartExecute (bind : AuthStartBindData) : AuthStart (Option AuthStartRow) := do
  if ← read (·.emitted) then pure none
  else
    update fun w => { w with emitted := true }
    let origin ← answer (fun _ => invalidInput .invalidLoginOrigin)
      (validateSalesforceLoginOrigin bind.loginOrigin)
    answer .fault (validateAuthClientId bind.clientId)
    answer .fault (validateAuthSecretName bind.secretName)
    let owner ← fromOutside (invalidInput .callbackPortUnavailable) env.bindListener
    let verifierBytes ← fromOutside .other env.verifierBytes
    let verifier := generatePkceVerifier verifierBytes
    let stateBytes ← fromOutside .other env.stateBytes
    let oauthState := generateOAuthState stateBytes
    let challenge ← answer .oauth (createS256Challenge env.sha256 verifier)
    let request := startRequest env origin oauthState verifier owner bind
    let authId ← create env request
    onRaise (raiseIf (env.startWorker = false) .other) (cancel env authId)
    let url ← answer .oauth
      (buildSalesforceAuthorizationUrl origin bind.clientId challenge oauthState
      fixedOAuthCallbackUrl)
    pure (some {
      authId, authorizationUrl := url
      expiresAtUtcMicros := request.expiresAtUtcMicros
      callbackUrl := fixedOAuthCallbackUrl
      status := "PENDING_USER_ACTION" })

/-! ## What is made before the session -/

/-- A client id of a login fits into the URL. -/
theorem urlClientId_of_validate {clientId : Bytes} (h : validateAuthClientId clientId = .ok ()) :
    UrlClientId clientId := by
  unfold validateAuthClientId at h
  split at h
  · cases h
  rename_i hlength
  obtain ⟨hne, hshort⟩ := not_or.mp hlength
  split at h
  · rename_i hall
    refine ⟨hne, by omega, fun c hc => ?_⟩
    exact forall_byte (P := fun c => (isAlnum c || c = 46 || c = 95 || c = 45) = true →
      ¬ (c < 0x20 ∨ c = 0x7f)) (by decide +kernel) c (List.all_eq_true.mp hall c hc)
  · cases h

/-- Every verifier has a challenge. -/
theorem challenge_of_verifier (sha256 : Bytes → Vector UInt8 32) (buffer : Vector UInt8 32) :
    createS256Challenge sha256 (generatePkceVerifier buffer)
      = .ok (base64Url (sha256 (generatePkceVerifier buffer)).toList) := by
  have hverifier : isBase64UrlValue (generatePkceVerifier buffer) 43 128 = true :=
    isBase64UrlValue_base64Url (by simp) (by simp)
  rw [createS256Challenge, if_neg (by simp [hverifier])]

/-- Every login has an authorization URL. -/
theorem authorizationUrl_of_login {loginOrigin origin clientId : Bytes}
    (horigin : validateSalesforceLoginOrigin loginOrigin = .ok origin)
    (hclient : validateAuthClientId clientId = .ok ()) (digest : Vector UInt8 32)
    (buffer : Vector UInt8 16) :
    buildSalesforceAuthorizationUrl origin clientId (base64Url digest.toList)
        (generateOAuthState buffer) fixedOAuthCallbackUrl
      = .ok (origin ++ ascii "/services/oauth2/authorize?" ++ authorizationQuery clientId
          fixedOAuthCallbackUrl (base64Url digest.toList) (generateOAuthState buffer)) := by
  have hagain : validateSalesforceLoginOrigin origin = .ok origin := by
    obtain ⟨host, hlogin, rfl, -⟩ := validateSalesforceLoginOrigin_eq_ok.mp horigin
    exact validateSalesforceLoginOrigin_eq_ok.mpr ⟨host, hlogin, rfl, .inl rfl⟩
  exact buildSalesforceAuthorizationUrl_of_checks hagain (urlClientId_of_validate hclient)
    (isBase64UrlValue_base64Url (by simp) (by simp))
    (isBase64UrlValue_base64Url (by simp) (by simp))

/-! ## The run -/

section Run

variable {env} {w : StartWorld} {Q : Reply → StartWorld → Prop}
  {E : AuthStartError → StartWorld → Prop} {C : StartWorld → Prop}

theorem wp_perform {call : UInt64 → Call}
    (hok : ∀ reply, (exec (call (env.now w.turn)) (w.met env)).outcome = .ok reply →
      Q reply (w.after env (call (env.now w.turn))))
    (herror : ∀ e, (exec (call (env.now w.turn)) (w.met env)).outcome = .error e →
      E (.ofRegistry e) (w.after env (call (env.now w.turn)))) :
    wp (perform env call) Q E C w := by
  unfold wp perform
  dsimp only
  cases houtcome : (exec (call (env.now w.turn)) (w.met env)).outcome with
  | ok reply => exact hok reply houtcome
  | error e => exact herror e houtcome

theorem wp_answer {ε α : Type} {toError : ε → AuthStartError} {outcome : Except ε α}
    {Q : α → StartWorld → Prop} (hok : ∀ a, outcome = .ok a → Q a w)
    (herror : ∀ e, outcome = .error e → E (toError e) w) : wp (answer toError outcome) Q E C w := by
  cases outcome with
  | ok a => exact hok a rfl
  | error e => exact herror e rfl

theorem wp_fromOutside {α : Type} {error : AuthStartError} {outcome : Option α}
    {Q : α → StartWorld → Prop} (hsome : ∀ a, outcome = some a → Q a w) (herror : E error w) :
    wp (fromOutside error outcome) Q E C w := by
  cases outcome with
  | some a => exact hsome a rfl
  | none => exact herror

/-- The event leaves the session that the request describes. -/
def StoresRequest (id : Bytes) (request : AuthStartRequest) (e : RegistryEvent) : Prop :=
  (exec e.input e.before).registry.sessions[id]? = some (AuthSession.ofRequest request)

/-- The session `id` has been created from the request since `w`, and no other. -/
def Created (w : StartWorld) (id : Bytes) (request : AuthStartRequest) (w' : StartWorld) : Prop :=
  ∃ new, w'.made = w.made ++ new ∧ ∀ e ∈ new, ∀ id' request', Creates id' request' e →
    id' = id ∧ request' = request ∧ StoresRequest id request e

/-- No session has been created since `w`. -/
def NoneCreated (w w' : StartWorld) : Prop :=
  ∃ new, w'.made = w.made ++ new ∧ ∀ e ∈ new, ∀ id request, ¬ Creates id request e

theorem noneCreated_of_made {w' : StartWorld} (h : w'.made = w.made) : NoneCreated w w' :=
  ⟨[], by rw [h, List.append_nil], by simp⟩

/-- `Create` creates the session of its request, or it throws. -/
theorem wp_create {request : AuthStartRequest} {w₀ : StartWorld} (hmade : w.made = w₀.made) :
    wp (create env request) (fun id => Created w₀ id request) (fun _ => NoneCreated w₀)
      (fun _ => False) w := by
  rw [create, wp_bind]
  refine wp_perform (fun reply hreply => ?_) fun e he => ?_
  · obtain ⟨id, rfl⟩ : ∃ id, reply = .authId id := by
      obtain ⟨id, -, hid⟩ := except_map_eq_ok.mp hreply
      exact ⟨id, hid.symm⟩
    refine ⟨[_], by rw [← hmade]; rfl, fun e he id' request' hcreates => ?_⟩
    obtain rfl := List.mem_singleton.mp he
    obtain rfl := Option.some.inj hcreates.1
    have hid : id' = id := by simpa using hcreates.2.symm.trans hreply
    subst hid
    exact ⟨rfl, rfl, created_entry hcreates⟩
  · refine ⟨[_], by rw [← hmade]; rfl, fun event hevent id' request' hcreates => ?_⟩
    obtain rfl := List.mem_singleton.mp hevent
    have hsame := hcreates.2.symm.trans he
    cases hsame

/-- `Cancel` creates no session. -/
theorem keeps_cancel {id : Bytes} {request : AuthStartRequest} {w₀ : StartWorld} (authId : Bytes) :
    Keeps (Created w₀ id request) (cancel env authId) := by
  have hstep (w : StartWorld) (h : Created w₀ id request w) :
      Created w₀ id request (w.after env (.onSession authId .cancel)) := by
    obtain ⟨new, hmade, hnew⟩ := h
    refine ⟨new ++ [registryMachine.event (w.met env) (.onSession authId .cancel)], ?_, ?_⟩
    · rw [StartWorld.after, hmade, List.append_assoc]
    · intro e he id' request' hcreates
      rcases List.mem_append.mp he with he | he
      · exact hnew e he id' request' hcreates
      · obtain rfl := List.mem_singleton.mp he
        cases hcreates.1
  intro w h
  rw [cancel, wp_bind]
  exact wp_perform (fun _ _ => hstep w h) fun _ _ => hstep w h

theorem total_cancel (authId : Bytes) : Total (cancel env authId) :=
  total_bind (fun _ => wp_perform (fun _ _ => trivial) fun _ _ => trivial) fun _ => total_pure _

end Run

/-- The authorization URL carries the login of the session. -/
structure CarriesLogin (sha256 : Bytes → Vector UInt8 32) (clientId : Bytes) (session : AuthSession)
    (url : Bytes) : Prop where
  query : ∃ query, urlQuery url = some query ∧
    Percent.parseFields query = some (authorizationFields clientId fixedOAuthCallbackUrl
      (base64Url (sha256 session.pkceVerifier).toList) session.expectedState)

/-- What `AuthStartExecute` answers when it has created a session. -/
def HandedOut (env : StartEnv) (bind : AuthStartBindData) (w : StartWorld)
    (answer : Option AuthStartRow) (w' : StartWorld) : Prop :=
  NoneCreated w w' ∨ ∃ row request, answer = some row ∧ Created w row.authId request w' ∧
    CarriesLogin env.sha256 bind.clientId (AuthSession.ofRequest request) row.authorizationUrl

/-- A run hands out the session that it creates, unless the worker could not be
started. -/
theorem wp_authStartExecute (bind : AuthStartBindData) (w : StartWorld) :
    wp (authStartExecute env bind) (HandedOut env bind w)
      (fun _ w' => NoneCreated w w' ∨
        env.startWorker = false ∧ ∃ id request, Created w id request w') (fun _ => False) w := by
  have hquiet {w' : StartWorld} (h : w'.made = w.made) : NoneCreated w w' ∨
      env.startWorker = false ∧ ∃ id request, Created w id request w' :=
    .inl (noneCreated_of_made h)
  rw [authStartExecute, wp_bind, wp_read, wp_ite]
  refine ⟨fun _ => .inl (noneCreated_of_made rfl), fun _ => ?_⟩
  rw [wp_bind, wp_update, wp_bind]
  refine wp_answer (fun origin horigin => ?_) fun _ _ => hquiet rfl
  rw [wp_bind]
  refine wp_answer (fun _ hclient => ?_) fun _ _ => hquiet rfl
  rw [wp_bind]
  refine wp_answer (fun _ _ => ?_) fun _ _ => hquiet rfl
  rw [wp_bind]
  refine wp_fromOutside (fun owner _ => ?_) (hquiet rfl)
  rw [wp_bind]
  refine wp_fromOutside (fun verifierBytes _ => ?_) (hquiet rfl)
  rw [wp_bind]
  refine wp_fromOutside (fun stateBytes _ => ?_) (hquiet rfl)
  rw [wp_bind, challenge_of_verifier]
  refine wp_answer (fun challenge hchallenge => ?_) fun _ _ => hquiet rfl
  obtain rfl := Except.ok.inj hchallenge
  rw [wp_bind]
  refine wp_mono (wp_create rfl) (fun authId w₁ hcreated => ?_) (fun _ _ h => .inl h) fun _ h => h
  rw [wp_bind, wp_onRaise, wp_raiseIf]
  refine ⟨fun hworker => ?_, fun _ => ?_⟩
  · exact wp_mono ((keeps_cancel authId).total (total_cancel authId) hcreated)
      (fun _ _ h => .inr ⟨hworker, authId, _, h⟩) (fun _ _ h => .inr ⟨hworker, authId, _, h⟩)
      fun _ h => h
  · rw [wp_bind, authorizationUrl_of_login horigin hclient]
    refine wp_answer (fun url hurl => ?_) fun e he => by cases he
    obtain rfl := Except.ok.inj hurl
    rw [wp_pure]
    refine .inr ⟨_, _, rfl, hcreated, ⟨_, ?_, authorizationQuery_fields _ _ _ _⟩⟩
    exact urlQuery_authorizationUrl horigin _

end AuthStart

open AuthStart

/-- A started login is handed to the user: what is drawn for it passes every
check, and a run that creates a session and starts its worker answers with a URL
that carries the login of that session. -/
theorem started_login_handed_out :
    (∀ (sha256 : Bytes → Vector UInt8 32) (loginOrigin origin clientId : Bytes)
        (verifierBytes : Vector UInt8 32) (stateBytes : Vector UInt8 16),
      validateSalesforceLoginOrigin loginOrigin = .ok origin →
      validateAuthClientId clientId = .ok () →
      ∃ challenge url,
        createS256Challenge sha256 (generatePkceVerifier verifierBytes) = .ok challenge ∧
        buildSalesforceAuthorizationUrl origin clientId challenge (generateOAuthState stateBytes)
          fixedOAuthCallbackUrl = .ok url) ∧
    ∀ (env : StartEnv) (bind : AuthStartBindData) (w : StartWorld),
      ∃ new, (authStartExecute env bind w).2.made = w.made ++ new ∧
        ∀ e ∈ new, ∀ id request, Creates id request e → env.startWorker = true →
          ∃ row session, (authStartExecute env bind w).1 = .ret (some row) ∧ row.authId = id ∧
            (exec e.input e.before).registry.sessions[id]? = some session ∧
            CarriesLogin env.sha256 bind.clientId session row.authorizationUrl := by
  refine ⟨fun sha256 loginOrigin origin clientId verifierBytes stateBytes horigin hclient =>
    ⟨_, _, challenge_of_verifier sha256 verifierBytes,
      authorizationUrl_of_login horigin hclient _ stateBytes⟩, fun env bind w => ?_⟩
  have hrun := wp_authStartExecute env bind w
  obtain ⟨hret, hraise, hcut⟩ := wp_iff.mp hrun
  have hnone {w' : StartWorld} {outcome : Outcome AuthStartError (Option AuthStartRow)}
      (h : NoneCreated w w') :
      ∃ new, w'.made = w.made ++ new ∧ ∀ e ∈ new, ∀ id request, Creates id request e →
        env.startWorker = true → ∃ row session, outcome = .ret (some row) ∧ row.authId = id ∧
          (exec e.input e.before).registry.sessions[id]? = some session ∧
          CarriesLogin env.sha256 bind.clientId session row.authorizationUrl := by
    obtain ⟨new, hmade, hnew⟩ := h
    exact ⟨new, hmade, fun e he id request hcreates => (hnew e he id request hcreates).elim⟩
  rcases hend : authStartExecute env bind w with ⟨outcome, w'⟩
  cases outcome with
  | ret answer =>
      rcases hret answer w' hend with hquiet | ⟨row, request, rfl, ⟨new, hmade, hnew⟩, hcarries⟩
      · exact hnone hquiet
      · refine ⟨new, hmade, fun e he id request' hcreates _ => ?_⟩
        obtain ⟨rfl, rfl, hstored⟩ := hnew e he id request' hcreates
        exact ⟨row, _, rfl, rfl, hstored, hcarries⟩
  | raise error =>
      rcases hraise error w' hend with hquiet | ⟨hworker, id, request, new, hmade, -⟩
      · exact hnone hquiet
      · refine ⟨new, hmade, fun e _ id request _ hstarts => ?_⟩
        rw [hworker] at hstarts
        cases hstarts
  | cut => exact (hcut w' hend).elim

/-- A start that succeeds, without anybody else. -/
def sampleStart : StartEnv where
  others _ := []
  now _ := 10
  fill _ := some (Vector.replicate 16 0)
  bindListener := some 7
  verifierBytes := some (Vector.replicate 32 1)
  stateBytes := some (Vector.replicate 16 2)
  sha256 _ := Vector.replicate 32 3
  steadyNowMs := 10
  utcNowMicros := 0
  startWorker := true

/-- The arguments of this start. -/
def sampleStartBind : AuthStartBindData :=
  ⟨ascii "https://login.salesforce.com", ascii "client", ascii "secret"⟩

/-- The start draws a session, and answers with the URL of its login. -/
theorem started_login_handed_out_sample :
    (∃ challenge url,
      createS256Challenge sampleStart.sha256 (generatePkceVerifier (Vector.replicate 32 1))
        = .ok challenge ∧
      buildSalesforceAuthorizationUrl (ascii "https://login.salesforce.com") (ascii "client")
        challenge (generateOAuthState (Vector.replicate 16 2)) fixedOAuthCallbackUrl = .ok url) ∧
    ∃ row session,
      (authStartExecute sampleStart sampleStartBind { registry := {} }).1 = .ret (some row) ∧
      row.authId = ascii "AAAAAAAAAAAAAAAAAAAAAA" ∧
      CarriesLogin sampleStart.sha256 (ascii "client") session row.authorizationUrl := by
  obtain ⟨hdrawn, hstarts⟩ := started_login_handed_out
  refine ⟨hdrawn _ (ascii "https://login.salesforce.com") _ _ _ _ (by decide +kernel)
    (by decide +kernel), ?_⟩
  obtain ⟨new, hmade, hnew⟩ := hstarts sampleStart sampleStartBind { registry := {} }
  have houtputs : (authStartExecute sampleStart sampleStartBind { registry := {} }).2.made.map
      (fun e => (e.output, e.input.request.isSome))
        = [(.ok (.authId (ascii "AAAAAAAAAAAAAAAAAAAAAA")), true)] := by decide +kernel
  rw [hmade, List.nil_append, List.map_eq_singleton_iff] at houtputs
  obtain ⟨e, rfl, hpair⟩ := houtputs
  obtain ⟨houtput, hrequest⟩ := Prod.mk.inj hpair
  obtain ⟨request, hrequest⟩ := Option.isSome_iff_exists.mp hrequest
  obtain ⟨row, session, hrow, hid, -, hcarries⟩ :=
    hnew e (List.mem_singleton_self e) _ request ⟨hrequest, houtput⟩ rfl
  exact ⟨row, session, hrow, hid, hcarries⟩

end Data360
