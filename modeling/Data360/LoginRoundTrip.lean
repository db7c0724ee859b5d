import Data360.AuthStart
import Data360.LoopbackListener.Redirect
import Data360.SalesforceOAuthProvider.Secrets

/-!
# A login goes round

From `AuthStartExecute` to the request for a token.  The URL brings a state and a challenge to
the provider, the browser brings the state and a code back to the listener, the worker hands
them to the registry, and `AuthCompleteExecute` sends the code with the verifier of the
challenge.  Between these steps other callers use the registry.

* `Call.Leaves` says which calls leave a login alone, and `isSession_run` what that means.
* `wp_started` says what a start leaves in the registry and in the URL.
* `worker_receives` and `completion_wins` are the steps of the worker and of the completion.
* `exchange_asks` is the request that leaves.
* `login_round_trip` puts them together.
-/

namespace Data360

open Lib Lib.ByteString Lib.Prog

/-! ## Calls that leave a login alone -/

/-- The call answers a login, or takes the answer. -/
def SessionCall.answers : SessionCall → Bool
  | .receiveCallback .. | .receiveDenied .. | .beginCompletion _ => true
  | _ => false

/-- A call in time that neither ends, answers nor completes the login `id`. -/
structure Call.Leaves (call : Call) (id : Bytes) (expiresAtMs : UInt64) : Prop where
  spares : call.Spares id expiresAtMs
  quiet : ∀ c, call = .onSession id c → c.answers = false

/-- The session waits for its callback or for its completion. -/
def AuthSession.Waits (s : AuthSession) : Prop :=
  s.status = .pendingUserAction ∨ s.status = .callbackReceived

/-- The session `id` is `s`, but for its owner. -/
def IsSession (id : Bytes) (s : AuthSession) (registry : Registry) : Prop :=
  ∃ owner, registry.sessions[id]? = some { s with callbackOwner := owner }

section Registry

variable {id : Bytes} {s : AuthSession} {registry : Registry} {now : UInt64}

theorem not_overdue_of_lt (h : now < s.expiresAtMs) : ¬ s.Overdue now := fun hover =>
  UInt64.not_lt.mpr hover.2.2 h

theorem AuthSession.Waits.active (h : s.Waits) : terminal s.status = false := by
  rcases h with h | h
  · rw [h]
    rfl
  · rw [h]
    rfl

theorem AuthSession.Waits.not_completing (h : s.Waits) : s.status ≠ .completing := by
  rcases h with h | h
  · rw [h]
    decide
  · rw [h]
    decide

/-- A call on a waiting session that leaves it alone takes at most its owner. -/
theorem left_effect {c : SessionCall} (waits : s.Waits)
    (inTime : ∀ now, c.reading = some now → now < s.expiresAtMs) (hcancel : c ≠ .cancel)
    (hfail : ∀ f, c ≠ .fail f) (quiet : c.answers = false) :
    ∃ owner, (c.effect s).session = { s with callbackOwner := owner } := by
  have hactive := waits.active
  have hcompleting := waits.not_completing
  cases c with
  | snapshot now =>
      have hcalm := not_overdue_of_lt (inTime now rfl)
      exact ⟨s.callbackOwner, by
        simp [SessionCall.effect, SessionEffect.map, AuthSession.snapshot_session, hcalm, hactive]⟩
  | status now =>
      have hcalm := not_overdue_of_lt (inTime now rfl)
      exact ⟨s.callbackOwner, by
        simp [SessionCall.effect, SessionEffect.map, AuthSession.snapshot_session, hcalm, hactive]⟩
  | finishAuthorized =>
      exact ⟨s.callbackOwner, by
        simp [SessionCall.effect, SessionEffect.map, AuthSession.finishAuthorized,
          AuthSession.finish, hcompleting]⟩
  | finishFailed fault =>
      exact ⟨s.callbackOwner, by
        simp [SessionCall.effect, SessionEffect.map, AuthSession.finishFailed, AuthSession.finish,
          hcompleting]⟩
  | stopCallback => exact ⟨none, rfl⟩
  | cancel => exact absurd rfl hcancel
  | fail f => exact absurd rfl (hfail f)
  | receiveCallback | receiveDenied | beginCompletion => cases quiet

/-- A waiting session stays as it is when a call leaves it alone. -/
theorem isSession_exec {call : Call} (h : IsSession id s registry) (waits : s.Waits)
    (leaves : call.Leaves id s.expiresAtMs) : IsSession id s (exec call registry).registry := by
  obtain ⟨owner, found⟩ := h
  by_cases haddressed : ∃ c, call = .onSession id c
  · obtain ⟨c, rfl⟩ := haddressed
    obtain ⟨hreading, hcancel, hfail⟩ := leaves.spares.2 c rfl
    obtain ⟨other, hother⟩ := @left_effect { s with callbackOwner := owner } c waits hreading
      hcancel hfail (leaves.quiet c rfl)
    rw [exec_onSession_some found]
    exact ⟨other, Std.TreeMap.getElem?_insert_self.trans (congrArg some hother)⟩
  · have hcalm {now : UInt64} (sweep : call.sweepTime = some now) :
        ¬ AuthSession.Overdue { s with callbackOwner := owner } now :=
      not_overdue_of_lt (leaves.spares.1 now sweep)
    rcases unaddressed_exec (not_exists.mp haddressed) found with
      hsame | ⟨now, sweep, ⟨hover, -⟩ | ⟨hover | hover, -⟩⟩
    · exact ⟨owner, hsame⟩
    · exact absurd hover (hcalm sweep)
    · exact Bool.noConfusion (waits.active.symm.trans hover)
    · exact absurd hover (hcalm sweep)

/-- The same over a run. -/
theorem isSession_run {calls : List Call} (h : IsSession id s registry) (waits : s.Waits)
    (leaves : ∀ call ∈ calls, call.Leaves id s.expiresAtMs) :
    IsSession id s (registryMachine.run registry calls) := by
  induction calls generalizing registry with
  | nil => exact h
  | cons call rest ih =>
      obtain ⟨hfirst, hrest⟩ := List.forall_mem_cons.mp leaves
      exact ih (isSession_exec h waits hfirst) hrest

/-! ## The calls on the login -/

/-- The session once its callback has come. -/
def AuthSession.withCode (s : AuthSession) (code : Bytes) : AuthSession :=
  { s with authorizationCode := code, expectedState := [], status := .callbackReceived }

/-- `ReceiveCallback` in time, with the state of the session. -/
theorem receiveCallback_withCode {code : Bytes} (pending : s.status = .pendingUserAction)
    (inTime : now < s.expiresAtMs) (nonempty : code ≠ []) :
    ((SessionCall.receiveCallback s.expectedState code now).effect s).session
      = s.withCode code := by
  have hsame : constantTimeEquals s.expectedState s.expectedState = true :=
    (constantTimeEquals_iff _ _).mpr rfl
  simp [SessionCall.effect, SessionEffect.map, AuthSession.receiveCallback, expireLocked_eq,
    not_overdue_of_lt inTime, pending, nonempty, hsame, AuthSession.withCode]

/-- `Snapshot` of a waiting session. -/
theorem snapshot_outcome (waits : s.Waits) (inTime : now < s.expiresAtMs) :
    ((SessionCall.snapshot now).effect s).outcome
      = .ok (.snapshot ⟨s.status, s.secretName, s.expiresAtUtcMicros, s.fault⟩) := by
  simp [SessionCall.effect, SessionEffect.map, AuthSession.snapshot, expireLocked_eq,
    not_overdue_of_lt inTime, waits.active, Except.map]

/-- What `BeginCompletion` hands out. -/
def AuthSession.material (s : AuthSession) : AuthCompletionMaterial where
  authorizationCode := s.authorizationCode
  pkceVerifier := s.pkceVerifier
  loginOrigin := s.loginOrigin
  clientId := s.clientId
  secretName := s.secretName

theorem beginCompletion_outcome (ready : s.status = .callbackReceived)
    (inTime : now < s.expiresAtMs) :
    ((SessionCall.beginCompletion now).effect s).outcome = .ok (.material s.material) := by
  simp [SessionCall.effect, SessionEffect.map, AuthSession.beginCompletion, expireLocked_eq,
    not_overdue_of_lt inTime, ready, Except.map, AuthSession.material]

end Registry

/-! ## The worker and the completion -/

/-- The next call of a program is in time, and the others leave the login alone before it. -/
def LeftAlone (id : Bytes) (expiresAtMs : UInt64) (others : Nat → List Call) (now : Nat → UInt64)
    (turn : Nat) : Prop :=
  (∀ call ∈ others turn, call.Leaves id expiresAtMs) ∧ now turn < expiresAtMs

/-- The worker hands the code to the session that expects the state. -/
theorem worker_receives {env : CallbackEnv} {id code : Bytes} {s : AuthSession}
    {registry : Registry} (h : IsSession id s registry) (pending : s.status = .pendingUserAction)
    (alone : LeftAlone id s.expiresAtMs env.others env.now 0) (nonempty : code ≠ [])
    (hears : env.waitForCallback
      = .ok { status := .codeReceived, state := s.expectedState, code }) :
    (processAuthCallback env id { registry }).1 = .ret () ∧
      IsSession id (s.withCode code) (processAuthCallback env id { registry }).2.registry := by
  obtain ⟨leaves, inTime⟩ := alone
  obtain ⟨owner, found⟩ : IsSession id s (WorkerWorld.met { registry } env) :=
    isSession_run h (.inl pending) leaves
  have hdelivery : CallbackResult.delivery
      { status := .codeReceived, state := s.expectedState, code } (env.now 0)
        = some (.receiveCallback s.expectedState code (env.now 0)) := by
    simp [CallbackResult.delivery, CallbackResult.takeCode, nonempty]
  have hawaits : Awaits id s.expectedState (env.now 0) (WorkerWorld.met { registry } env) :=
    ⟨_, found, pending, inTime, rfl⟩
  rcases @deliver_run_some env id { registry } _ _ hdelivery with ⟨-, hrun⟩ | ⟨hrefused, -⟩
  · have hfirst : (do
        let result ← fromListener (Except.ok
          { status := .codeReceived, state := s.expectedState, code })
        deliver env id result : Worker Unit) { registry }
          = (.ret (), WorkerWorld.after { registry } env
            (.onSession id (.receiveCallback s.expectedState code (env.now 0)))) := hrun
    rw [processAuthCallback, hears, catchAll, hfirst]
    refine ⟨rfl, owner, ?_⟩
    show (exec _ (WorkerWorld.met { registry } env)).registry.sessions[id]? = _
    rw [exec_onSession_some found, Std.TreeMap.getElem?_insert_self]
    exact congrArg some (@receiveCallback_withCode { s with callbackOwner := owner } _ _ pending
      inTime nonempty)
  · exact absurd hawaits hrefused

section Completion

variable {env : CompletionEnv} {id : Bytes} {w : CompletionWorld}

/-- A call that the registry answers returns. -/
theorem perform_of_ok (w : CompletionWorld) (call : UInt64 → UInt64 → Call) {reply : Reply}
    (h : (exec (call (env.now w.turn) (env.nowLocked w.turn)) (w.met env)).outcome = .ok reply) :
    perform env call w
      = (.ret reply, w.after env (call (env.now w.turn) (env.nowLocked w.turn))) := by
  unfold perform
  simp only [h]

/-- `Snapshot` in time leaves a login alone. -/
theorem leaves_snapshot {now expiresAtMs : UInt64} (inTime : now < expiresAtMs) :
    (Call.onSession id (.snapshot now)).Leaves id expiresAtMs where
  spares := by
    refine ⟨fun now' h => (by cases h), fun c hc => ?_⟩
    cases hc
    exact ⟨fun now' h => Option.some.inj h ▸ inTime, by simp, by simp⟩
  quiet := by
    intro c hc
    cases hc
    rfl

/-- `AuthCompleteExecute` wins a session whose callback has come, and gets what the session
holds. -/
theorem completion_wins {s : AuthSession} (fresh : w.emitted = false)
    (h : IsSession id s w.registry) (ready : s.status = .callbackReceived)
    (first : LeftAlone id s.expiresAtMs env.others env.now w.turn)
    (second : LeftAlone id s.expiresAtMs env.others env.now (w.turn + 1)) :
    ∃ won, Wins env id w s.secretName s.material won := by
  obtain ⟨hleaves, hinTime⟩ := first
  obtain ⟨hleaves', hinTime'⟩ := second
  have waits : s.Waits := .inr ready
  let start : CompletionWorld := { w with emitted := true }
  -- `Snapshot` sees the callback, and leaves the session as it is
  have hmet : IsSession id s (start.met env) := isSession_run h waits hleaves
  obtain ⟨owner, found⟩ := hmet
  have hsnapshot : (exec (.onSession id (.snapshot (env.now w.turn))) (start.met env)).outcome
      = .ok (.snapshot ⟨s.status, s.secretName, s.expiresAtUtcMicros, s.fault⟩) := by
    rw [exec_onSession_some found]
    exact @snapshot_outcome { s with callbackOwner := owner } _ waits hinTime
  let later := start.after env (.onSession id (.snapshot (env.now w.turn)))
  have hlater : IsSession id s later.registry :=
    isSession_exec ⟨owner, found⟩ waits (leaves_snapshot hinTime)
  -- `BeginCompletion` takes the code and the verifier
  obtain ⟨owner', found'⟩ : IsSession id s (later.met env) := isSession_run hlater waits hleaves'
  have hmaterial :
      (exec (.onSession id (.beginCompletion (env.now (w.turn + 1)))) (later.met env)).outcome
        = .ok (.material s.material) := by
    rw [exec_onSession_some found']
    exact @beginCompletion_outcome { s with callbackOwner := owner' } _ ready hinTime'
  refine ⟨_, fresh, ⟨s.status, s.secretName, s.expiresAtUtcMicros, s.fault⟩, later,
    later.after env (.onSession id (.beginCompletion (env.now (w.turn + 1)))), ?_, ready, rfl, ?_,
    rfl⟩
  · exact bind_of_ret (perform_of_ok start (fun now _ => .onSession id (.snapshot now)) hsnapshot)
  · exact bind_of_ret
      (perform_of_ok later (fun now _ => .onSession id (.beginCompletion now)) hmaterial)

end Completion

/-! ## The request that leaves -/

open SalesforceOAuthProvider in
/-- An exchange that is not cancelled asks for a token first. -/
theorem exchange_asks (env : ExchangeEnv) (readJson : JsonReader)
    (provider : SalesforceOAuthProvider) {loginOrigin origin clientId : Bytes}
    (material : AuthCompletionMaterial)
    (horigin : validateSalesforceLoginOrigin loginOrigin = .ok origin)
    (hclient : UrlClientId clientId) (hgoes : env.isCancelled [] = .ok false) :
    (requests (exchange env readJson provider loginOrigin clientId material []).2)[0]?
      = some (oauthRequest provider.options origin clientId material) := by
  -- what comes behind the request leaves it the first
  have hgrows (answer : SendAnswer) {log : List ExchangeEvent}
      (hlog : [] ++ [{ answer := .isCancelled (.ok false) }] ++ [
        { request := some (oauthRequest provider.options origin clientId material)
          answer := .send answer }] <+: log) :
      (requests log)[0]? = some (oauthRequest provider.options origin clientId material) := by
    obtain ⟨rest, rfl⟩ := hlog
    rw [requests_append]
    rfl
  refine wp_final (I := fun log => (requests log)[0]?
    = some (oauthRequest provider.options origin clientId material)).mp ?_
  unfold exchange
  refine (wp_bind _ _).mpr (wp_orFault.mpr ⟨fun found hfound => ?_, fun e he => ?_⟩)
  · obtain rfl := Except.ok.inj (hfound.symm.trans horigin)
    simp only [wp_bind, checkClientId, wp_raiseIf]
    refine ⟨fun hlength => ?_, fun _ => ⟨fun hcontrol => ?_, fun _ => ?_⟩⟩
    · exact absurd hlength (not_or.mpr ⟨hclient.nonempty, not_lt.mpr hclient.short⟩)
    · obtain ⟨c, hc, hbyte⟩ := List.any_eq_true.mp hcontrol
      exact absurd (by simpa using hbyte) (hclient.printable c hc)
    · refine wp_checkCancelled_iff.mpr ⟨fun _ => ?_, fun hflag => ?_, fun e hthrown => ?_⟩
      · refine wp_sendSanitized (fun response => ?_) fun _ answer => hgrows answer List.prefix_rfl
        refine wp_acceptToken (fun salesforce _ => ?_) fun _ => hgrows _ List.prefix_rfl
        exact wp_mono (appends_exchangeToken env readJson _ _ _ _ List.prefix_rfl)
          (fun _ _ => hgrows _) (fun _ _ => hgrows _) fun _ => hgrows _
      · cases hgoes.symm.trans hflag
      · cases hgoes.symm.trans hthrown
  · cases horigin.symm.trans he

/-! ## The start -/

/-- What a start leaves behind: the session in the registry, and the URL in the row. -/
structure LoginStarted (env : StartEnv) (bind : AuthStartBindData)
    (origin oauthState verifier : Bytes) (row : AuthStartRow) (registry : Registry) : Prop where
  validated : validateSalesforceLoginOrigin bind.loginOrigin = .ok origin
  client : UrlClientId bind.clientId
  drawn : oauthState ≠ []
  stored : ∃ owner, registry.sessions[row.authId]?
    = some (.ofRequest (AuthStart.startRequest env origin oauthState verifier owner bind))
  url : row.authorizationUrl = origin ++ ascii "/services/oauth2/authorize?" ++
    authorizationQuery bind.clientId fixedOAuthCallbackUrl
      (base64Url (env.sha256 verifier).toList) oauthState

namespace AuthStart

variable {env : StartEnv}

/-- `Create` leaves the session of its request. -/
theorem wp_create_stored {request : AuthStartRequest} {w : StartWorld} :
    wp (create env request)
      (fun id w' => w'.registry.sessions[id]? = some (.ofRequest request)) (fun _ _ => True)
      (fun _ => False) w := by
  rw [create, wp_bind]
  refine wp_perform (fun reply hreply => ?_) fun _ _ => trivial
  obtain ⟨id, -, rfl⟩ := except_map_eq_ok.mp hreply
  exact created_entry ⟨rfl, hreply⟩

/-- A run that answers has started a login. -/
theorem wp_started (bind : AuthStartBindData) (w : StartWorld) :
    wp (authStartExecute env bind)
      (fun answer w' => ∀ row, answer = some row → ∃ origin oauthState verifier,
        LoginStarted env bind origin oauthState verifier row w'.registry)
      (fun _ _ => True) (fun _ => False) w := by
  rw [authStartExecute, wp_bind, wp_read, wp_ite]
  refine ⟨fun _ => fun row hrow => (by cases hrow), fun _ => ?_⟩
  rw [wp_bind, wp_update, wp_bind]
  refine wp_answer (fun origin horigin => ?_) fun _ _ => trivial
  rw [wp_bind]
  refine wp_answer (fun _ hclient => ?_) fun _ _ => trivial
  rw [wp_bind]
  refine wp_answer (fun _ _ => ?_) fun _ _ => trivial
  rw [wp_bind]
  refine wp_fromOutside (fun owner _ => ?_) trivial
  rw [wp_bind]
  refine wp_fromOutside (fun verifierBytes _ => ?_) trivial
  rw [wp_bind]
  refine wp_fromOutside (fun stateBytes _ => ?_) trivial
  rw [wp_bind, challenge_of_verifier]
  refine wp_answer (fun challenge hchallenge => ?_) fun _ _ => trivial
  obtain rfl := Except.ok.inj hchallenge
  rw [wp_bind]
  refine wp_mono wp_create_stored (fun authId w₁ hstored => ?_) (fun _ _ h => h) fun _ h => h
  rw [wp_bind, wp_onRaise, wp_raiseIf]
  refine ⟨fun _ => total_cancel authId w₁, fun _ => ?_⟩
  rw [wp_bind, authorizationUrl_of_login horigin hclient]
  refine wp_answer (fun url hurl => ?_) fun e he => by cases he
  obtain rfl := Except.ok.inj hurl
  rw [wp_pure]
  intro row hrow
  obtain rfl := Option.some.inj hrow
  have hstate : generateOAuthState stateBytes ≠ [] := generateOpaqueId_ne_nil stateBytes
  exact ⟨origin, generateOAuthState stateBytes, generatePkceVerifier verifierBytes, horigin,
    urlClientId_of_validate hclient, hstate, ⟨owner, hstored⟩, rfl⟩

end AuthStart

/-! ## The provider and the browser -/

/-- The fields that a URL carries in its query. -/
def urlFields (url : Bytes) : Option (List (Bytes × Bytes)) :=
  (urlQuery url).bind Percent.parseFields

/-- The provider was asked with the fields of the URL, and grants a code: its answer repeats the
state. -/
structure GrantsCode (asked answer : List (Bytes × Bytes)) (code : Bytes) : Prop where
  fields : ∀ field ∈ answer, CallbackField field
  distinct : (answer.map Prod.fst).Nodup
  repeats : answer.lookup (ascii "state") = asked.lookup (ascii "state")
  granted : answer.lookup (ascii "code") = some code
  nonempty : code ≠ []
  noError : answer.lookup (ascii "error") = none

/-- What a provider compares before it gives a token for a code: the request repeats the client
and the redirect URL, and its verifier is that of the challenge. -/
structure Redeemable (sha256 : Bytes → Vector UInt8 32) (asked sent : List (Bytes × Bytes))
    (code : Bytes) : Prop where
  grant : sent.lookup (ascii "grant_type") = some (ascii "authorization_code")
  redeems : sent.lookup (ascii "code") = some code
  client : sent.lookup (ascii "client_id") = asked.lookup (ascii "client_id")
  redirect : sent.lookup (ascii "redirect_uri") = asked.lookup (ascii "redirect_uri")
  verifier : ∃ verifier, sent.lookup (ascii "code_verifier") = some verifier ∧
    asked.lookup (ascii "code_challenge") = some (base64Url (sha256 verifier).toList)

/-- What `WaitForCallback` answers when `AcceptOne` has ended and the response could be sent. -/
def waitAnswer : Except AcceptError Bytes → Except CallbackError CallbackResult
  | .ok request =>
      match parseOAuthCallbackRequest request with
      | .ok result => .ok result.toCallbackResult
      | .error _ => .error .protocolError
  | .error .cancelled => .error .cancelled
  | .error (.protocol _) => .error .protocolError
  | .error .thrown => .error .other

/-- The browser follows the redirect of the provider, its request arrives at the listener in
pieces, and this is what the listener answers. -/
inductive ComesBack (asked : List (Bytes × Bytes)) (code : Bytes) :
    Except CallbackError CallbackResult → Prop
  | intro {fields headers : List (Bytes × Bytes)} {acceptor : NativeLoopbackAcceptor} {start : Nat}
      {accepting : List AcceptTurn} {client : SocketHandle} {reading later : List ReadTurn}
      {answer : Except CallbackError CallbackResult} (grants : GrantsCode asked fields code)
      (hheaders : BrowserHeaders headers)
      (hsize : (redirectRequest fields headers).length ≤ maxCallbackRequestBytes)
      (hlistening : acceptor.Listening)
      (hconnects : Connects (deadlineOf start authTtlMs) client accepting)
      (harrives : Arrives (deadlineOf start authTtlMs) reading (redirectRequest fields headers))
      (answers : (acceptOne acceptor maxCallbackRequestBytes authTtlMs start accepting
        (reading ++ later)).map waitAnswer = some answer) : ComesBack asked code answer

/-- The listener hears the code, and the state that the provider was asked with. -/
theorem ComesBack.hears {asked : List (Bytes × Bytes)} {code oauthState : Bytes}
    {answer : Except CallbackError CallbackResult} (h : ComesBack asked code answer)
    (hstate : asked.lookup (ascii "state") = some oauthState) (hne : oauthState ≠ []) :
    answer = .ok { status := .codeReceived, state := oauthState, code } := by
  obtain ⟨grants, hheaders, hsize, hlistening, hconnects, harrives, answers⟩ := h
  rename_i fields headers _ _ _ _ _ later
  have hfields : fields ≠ [] := by
    intro hnil
    have hcode := grants.granted
    rw [hnil] at hcode
    cases hcode
  have hparsed : parseOAuthCallbackRequest (redirectRequest fields headers)
      = .ok { status := .codeReceived, state := oauthState, code } :=
    (parse_redirect hfields hheaders hsize).mpr ⟨grants.fields, grants.distinct,
      .code (grants.repeats.trans hstate) hne grants.noError grants.granted grants.nonempty⟩
  rw [acceptOne_redirect hheaders hsize hlistening hconnects harrives later] at answers
  have hanswer : some (waitAnswer (.ok (redirectRequest fields headers))) = some answer := answers
  rw [← Option.some.inj hanswer, waitAnswer, hparsed]

/-! ## The round trip -/

/-- The code that comes back is not empty. -/
theorem ComesBack.nonempty {asked : List (Bytes × Bytes)} {code : Bytes}
    {answer : Except CallbackError CallbackResult} (h : ComesBack asked code answer) :
    code ≠ [] := by
  obtain ⟨grants, -⟩ := h
  exact grants.nonempty

open AuthStart SalesforceOAuthProvider in
/-- A login goes round.  When the browser brings a code back and nobody else touches the login,
the worker delivers it, a completion in time wins the session, and the first request of its
exchange goes to the origin of the URL with what the provider needs to redeem that code: the
client and the redirect URL that it was asked with, and the verifier of the challenge that it
was asked with. -/
theorem login_round_trip (env : StartEnv) (bind : AuthStartBindData) (w w₁ : StartWorld)
    (row : AuthStartRow) (started : authStartExecute env bind w = (.ret (some row), w₁)) :
    ∃ origin asked, origin ++ ascii "/services/oauth2/authorize?" <+: row.authorizationUrl ∧
      urlFields row.authorizationUrl = some asked ∧
      ∀ (code : Bytes) (callbackEnv : CallbackEnv) (completionEnv : CompletionEnv)
        (later : CompletionWorld),
        ComesBack asked code callbackEnv.waitForCallback →
        LeftAlone row.authId (env.steadyNowMs + authTtlMs) callbackEnv.others callbackEnv.now 0 →
        later.emitted = false →
        later.registry
          = (processAuthCallback callbackEnv row.authId { registry := w₁.registry }).2.registry →
        LeftAlone row.authId (env.steadyNowMs + authTtlMs) completionEnv.others completionEnv.now
          later.turn →
        LeftAlone row.authId (env.steadyNowMs + authTtlMs) completionEnv.others completionEnv.now
          (later.turn + 1) →
        (processAuthCallback callbackEnv row.authId { registry := w₁.registry }).1 = .ret () ∧
          ∃ material won, Wins completionEnv row.authId later bind.secretName material won ∧
            ∀ (exchangeEnv : ExchangeEnv) (readJson : JsonReader)
              (provider : SalesforceOAuthProvider), exchangeEnv.isCancelled [] = .ok false →
              ∃ request sent,
                (requests (exchangeMaterial exchangeEnv readJson provider material []).2)[0]?
                  = some request ∧
                request.url = origin ++ ascii "/services/oauth2/token" ∧
                Percent.parseFields request.body = some sent ∧
                Redeemable env.sha256 asked sent code := by
  obtain ⟨hret, -, -⟩ := wp_iff.mp (wp_started bind w)
  obtain ⟨origin, oauthState, verifier, hstarted⟩ := hret _ _ started row rfl
  obtain ⟨owner, hstored⟩ := hstarted.stored
  have hagain : validateSalesforceLoginOrigin origin = .ok origin := by
    obtain ⟨host, hlogin, rfl, -⟩ := validateSalesforceLoginOrigin_eq_ok.mp hstarted.validated
    exact validateSalesforceLoginOrigin_eq_ok.mpr ⟨host, hlogin, rfl, .inl rfl⟩
  refine ⟨origin, authorizationFields bind.clientId fixedOAuthCallbackUrl
    (base64Url (env.sha256 verifier).toList) oauthState, ?_, ?_, ?_⟩
  · rw [hstarted.url]
    exact List.prefix_append _ _
  · rw [urlFields, hstarted.url, urlQuery_authorizationUrl hstarted.validated, Option.bind_some]
    exact authorizationQuery_fields _ _ _ _
  · intro code callbackEnv completionEnv later hback hworker hfresh hregistry hfirst hsecond
    let session := AuthSession.ofRequest (startRequest env origin oauthState verifier owner bind)
    have hears := hback.hears (show _ = some oauthState from rfl) hstarted.drawn
    obtain ⟨hdone, hreceived⟩ := worker_receives (s := session) ⟨some owner, hstored⟩ rfl hworker
      hback.nonempty hears
    rw [← hregistry] at hreceived
    obtain ⟨won, hwins⟩ := completion_wins hfresh hreceived rfl hfirst hsecond
    refine ⟨hdone, (session.withCode code).material, won, hwins, ?_⟩
    intro exchangeEnv readJson provider hgoes
    refine ⟨_, loginFields bind.clientId (session.withCode code).material,
      exchange_asks exchangeEnv readJson provider _ hagain hstarted.client hgoes, rfl,
      oauthRequest_fields _ _ _ _, ?_⟩
    exact ⟨rfl, rfl, rfl, rfl, verifier, rfl, rfl⟩

/-- What the provider answers: a code, and the state of this start. -/
def roundFields : List (Bytes × Bytes) :=
  [(ascii "code", ascii "c&d"), (ascii "state", generateOAuthState (Vector.replicate 16 2))]

/-- The request of the browser. -/
def roundRequest : Bytes := redirectRequest roundFields [(ascii "Host", callbackHost)]

/-- The worker of this login hears the request. -/
def roundCallback : CallbackEnv where
  waitForCallback := waitAnswer (.ok roundRequest)
  others _ := []
  now _ := 20

/-- A transport that does not answer. -/
def roundExchange : SalesforceOAuthProvider.ExchangeEnv where
  send _ _ := .other
  isCancelled _ := .ok false
  nowMs _ := .ok 30
  utcNowMicros _ := .ok 0

theorem roundFields_taken : ∀ field ∈ roundFields, CallbackField field := by
  have hshort : ∀ value ∈ roundFields.flatMap fun field => [field.1, field.2],
      value.length ≤ maxCallbackValueBytes := by decide +kernel
  have hprintable : ∀ value ∈ roundFields.flatMap fun field => [field.1, field.2],
      ∀ c ∈ value, ¬ (c < 0x20 ∨ c = 0x7f) := by decide +kernel
  have hnames : ∀ field ∈ roundFields, field.1 ≠ [] := by decide +kernel
  intro field hmem
  have hpart {value : Bytes} (h : value = field.1 ∨ value = field.2) : CallbackText value := by
    have hthere : value ∈ roundFields.flatMap fun field => [field.1, field.2] :=
      List.mem_flatMap.mpr ⟨field, hmem, by simpa using h⟩
    exact ⟨hshort value hthere, hprintable value hthere⟩
  exact ⟨hnames field hmem, hpart (.inl rfl), hpart (.inr rfl)⟩

/-- The browser brings the code of this login back, in one piece. -/
theorem round_comesBack {asked : List (Bytes × Bytes)}
    (hasked : asked.lookup (ascii "state") = some (generateOAuthState (Vector.replicate 16 2))) :
    ComesBack asked (ascii "c&d") roundCallback.waitForCallback := by
  have hheaders : BrowserHeaders [(ascii "Host", callbackHost)] := hostHeader_browser
  have hfits : roundRequest.length ≤ 512 := by decide +kernel
  have hcalm : PollTurn.Calm {} (deadlineOf 0 authTtlMs) :=
    ⟨rfl, rfl, show 0 < deadlineOf 0 authTtlMs by decide, rfl, rfl⟩
  have hne : roundRequest ≠ [] := by decide +kernel
  have hconnects : Connects (deadlineOf 0 authTtlMs) 4 [{ accepted := .ok 4 }] :=
    .accepted hcalm ⟨0, rfl⟩ rfl rfl (by decide)
  have harrives : Arrives (deadlineOf 0 authTtlMs) [pieceTurn roundRequest hfits] roundRequest := by
    have hpiece := Arrives.turn hcalm (pieceTurn_gives hfits hne) .done
    rwa [List.append_nil] at hpiece
  have hlistening : NativeLoopbackAcceptor.Listening { listener := 3 } := ⟨rfl, by decide, rfl⟩
  have hsize : roundRequest.length ≤ maxCallbackRequestBytes := hfits.trans (by decide)
  have hrepeats : roundFields.lookup (ascii "state") = asked.lookup (ascii "state") := by
    rw [hasked]
    decide +kernel
  have grants : GrantsCode asked roundFields (ascii "c&d") := {
    fields := roundFields_taken
    distinct := by decide +kernel
    repeats := hrepeats
    granted := by decide +kernel
    nonempty := by decide
    noError := by decide +kernel }
  have hanswer : (acceptOne { listener := 3 } maxCallbackRequestBytes authTtlMs 0
      [{ accepted := .ok 4 }] ([pieceTurn roundRequest hfits] ++ [])).map waitAnswer
        = some (waitAnswer (.ok roundRequest)) := by
    rw [acceptOne_redirect hheaders hsize hlistening hconnects harrives [], Option.map_some,
      roundRequest]
  have hheard : roundCallback.waitForCallback = waitAnswer (.ok roundRequest) := by
    rw [roundCallback]
  rw [hheard]
  exact .intro grants hheaders hsize hlistening hconnects harrives hanswer

/-- The fields of the URL that a start has answered with. -/
def startedFields : Outcome AuthStartError (Option AuthStartRow) → Option (List (Bytes × Bytes))
  | .ret (some row) => urlFields row.authorizationUrl
  | _ => none

open AuthStart SalesforceOAuthProvider in
theorem login_round_trip_alone : ∃ row w₁ asked material won request sent,
    authStartExecute sampleStart sampleStartBind { registry := {} } = (.ret (some row), w₁) ∧
      urlFields row.authorizationUrl = some asked ∧
      Wins quietEnv row.authId
        { registry := (processAuthCallback roundCallback row.authId
            { registry := w₁.registry }).2.registry } (ascii "secret") material won ∧
      (requests (exchangeMaterial roundExchange (fun _ => none) {} material []).2)[0]?
        = some request ∧
      Percent.parseFields request.body = some sent ∧
      Redeemable sampleStart.sha256 asked sent (ascii "c&d") := by
  have hstate :
      (startedFields (authStartExecute sampleStart sampleStartBind { registry := {} }).1).bind
        (·.lookup (ascii "state")) = some (generateOAuthState (Vector.replicate 16 2)) := by
    decide +kernel
  rcases hrun : authStartExecute sampleStart sampleStartBind { registry := {} } with ⟨outcome, w₁⟩
  rw [hrun] at hstate
  cases outcome with
  | ret answer =>
      cases answer with
      | none => cases hstate
      | some row =>
          obtain ⟨origin, asked, -, hasked, hround⟩ :=
            login_round_trip sampleStart sampleStartBind _ w₁ row hrun
          have hlookup : asked.lookup (ascii "state")
              = some (generateOAuthState (Vector.replicate 16 2)) := by
            have hcarried : (urlFields row.authorizationUrl).bind (·.lookup (ascii "state"))
                = some (generateOAuthState (Vector.replicate 16 2)) := hstate
            rw [hasked] at hcarried
            exact hcarried
          have halone {now : Nat → UInt64} {turn : Nat} (h : now turn < 10 + authTtlMs) :
              LeftAlone row.authId (10 + authTtlMs) (fun _ => []) now turn :=
            ⟨by simp, h⟩
          have hinTime : (30 : UInt64) < 10 + authTtlMs := by decide
          obtain ⟨reached, hreached⟩ : ∃ registry, registry = (processAuthCallback roundCallback
              row.authId { registry := w₁.registry }).2.registry := ⟨_, rfl⟩
          obtain ⟨-, material, won, hwins, hasks⟩ := hround (ascii "c&d") roundCallback quietEnv
            { registry := reached } (round_comesBack hlookup) (halone (by decide)) rfl hreached
            (halone hinTime) (halone hinTime)
          obtain ⟨request, sent, hrequest, -, hbody, hredeemable⟩ :=
            hasks roundExchange (fun _ => none) {} rfl
          rw [hreached] at hwins
          exact ⟨row, w₁, asked, material, won, request, sent, rfl, hasked, hwins, hrequest, hbody,
            hredeemable⟩
  | raise e => cases hstate
  | cut => cases hstate

end Data360
