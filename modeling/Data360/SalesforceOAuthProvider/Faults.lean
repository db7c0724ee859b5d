import Data360.SalesforceOAuthProvider.Parsers
import Data360.SalesforceOAuthProvider.Rules

/-!
# How an exchange fails

`Exchange` has two stages, and its faults say in which one it failed.

* `StageFault` says which faults fit to what a run has done.
* `wp_finish_faults` is the part behind the second request.
* `exchange_faults` says that a run ends with a capability, with a fault that fits,
  or with what a hook threw.  Nothing of the exchange catches that; the hooks of the
  extension do not throw.
-/

namespace Data360.SalesforceOAuthProvider

open Lib Lib.ByteString Lib.Prog

/-! ## Stages -/

/-- The requests of a log, with what the transport did. -/
def attempts (log : List ExchangeEvent) : List (HttpRequest × SendAnswer) :=
  log.filterMap fun event =>
    match event with
    | ⟨some request, .send answer⟩ => some (request, answer)
    | _ => none

theorem attempts_append (before after : List ExchangeEvent) :
    attempts (before ++ after) = attempts before ++ attempts after := List.filterMap_append

theorem attempts_eq_nil {log : List ExchangeEvent} (h : requests log = []) : attempts log = [] := by
  rw [requests, List.filterMap_eq_nil_iff] at h
  rw [attempts, List.filterMap_eq_nil_iff]
  rintro ⟨request, answer⟩ hevent
  cases h _ hevent
  rfl

theorem OnlyAsks.attempts {base log : List ExchangeEvent} (h : OnlyAsks base log) :
    attempts log = attempts base := by
  obtain ⟨after, hafter, rfl⟩ := h
  rw [attempts_append, attempts_eq_nil hafter, List.append_nil]

/-- The run was told that it is cancelled. -/
def CancelledIn (log : List ExchangeEvent) : Prop :=
  ∃ event ∈ log, event.answer = .isCancelled (.ok true)

/-- The second response arrived, and its status is 403. -/
def Denied (answer : SendAnswer) : Prop := ∃ response,
    answer = .response response ∧ response.status = 403

/-- The fault of a run that fails between its requests. -/
inductive FirstFault (readJson : JsonReader) (log : List ExchangeEvent) (answer : SendAnswer) :
    AuthFault → Prop
  | network (hanswer : answer = .exception "D360-AUTH-008 NETWORK_UNAVAILABLE") :
      FirstFault readJson log answer .networkUnavailable
  | tls (hanswer : answer = .exception "D360-AUTH-009 TLS_FAILURE") :
        FirstFault readJson log answer .tlsFailure
  | cancelled {response : HttpResponse} {salesforce : OAuthTokenResponse}
      (hanswer : answer = .response response) (haccepted : Redeemed readJson response salesforce)
      (hcancelled : CancelledIn log) : FirstFault readJson log answer .data360ExchangeFailed
  | failed (hnetwork : answer ≠ .exception "D360-AUTH-008 NETWORK_UNAVAILABLE")
      (htls : answer ≠ .exception "D360-AUTH-009 TLS_FAILURE") (hgoing : ¬ CancelledIn log) :
      FirstFault readJson log answer .tokenExchangeFailed

/-- The fault fits to what the run has done. -/
inductive StageFault (readJson : JsonReader) (log : List ExchangeEvent) (fault : AuthFault) : Prop
  | before (hlog : attempts log = [])
      (hfault : fault = .invalidLoginOrigin ∨ fault = .invalidClientId ∨
        fault = .data360ExchangeFailed ∧ CancelledIn log)
  | first {login : HttpRequest} {answer : SendAnswer} (hlog : attempts log = [(login, answer)])
      (hfault : FirstFault readJson log answer fault)
  | second {login request : HttpRequest} {first answer : SendAnswer}
      (hlog : attempts log = [(login, first), (request, answer)])
      (hfault : fault ≠ .tokenExchangeFailed)
      (hdenied : fault = .orgPolicyDenied ↔ Denied answer)

/-- A hook or the clock throws this. -/
def HookThrows (env : ExchangeEnv) (e : CompletionError) : Prop :=
  ∃ log, env.isCancelled log = .error e ∨ env.nowMs log = .error e ∨ env.utcNowMicros log = .error e

/-! ## Behind the second request -/

variable {env : ExchangeEnv} {readJson : JsonReader}

/-- Behind the second response, a run fails with one fault, or with what a hook threw. -/
theorem wp_grant_faults (options : OAuthExchangeOptions) (parsed : Data360Response)
    {base log : List ExchangeEvent} (h : OnlyAsks base log) :
    wp (grant env options parsed) (fun _ log' => OnlyAsks base log')
      (fun e log' => OnlyAsks base log' ∧ (e = .fault .data360ExchangeFailed ∨ HookThrows env e))
      (fun _ => False) log := by
  have htenant : wp (tenantOrigin parsed.tenantUrl) (fun _ log' => log' = log)
      (fun e log' => log' = log ∧ e = .fault .data360ExchangeFailed) (fun _ => False) log := by
    unfold tenantOrigin
    simp only [wp_ite, wp_bind, wp_raiseIf, wp_pure]
    exact ⟨fun _ => ⟨fun _ => ⟨trivial, trivial⟩, fun _ => trivial⟩, fun _ => trivial⟩
  unfold grant
  simp only [wp_bind, wp_raiseIf, wp_pure]
  refine wp_mono htenant ?_ ?_ fun _ => id
  · rintro tenantUrl _ rfl
    refine ⟨fun _ => ⟨h, .inl trivial⟩,
      fun _ => wp_nowMs.mpr ⟨fun now _ => ?_, fun e hthrows => ?_⟩⟩
    · refine ⟨fun _ => ⟨h.ask _, .inl trivial⟩,
        fun _ => wp_utcNowMicros.mpr ⟨fun nowUtc _ => ?_, fun e hthrows => ?_⟩⟩
      · exact ⟨fun _ => ⟨(h.ask _).ask _, .inl trivial⟩, fun _ => (h.ask _).ask _⟩
      · exact ⟨(h.ask _).ask _, .inr ⟨_, .inr (.inr hthrows)⟩⟩
    · exact ⟨h.ask _, .inr ⟨_, .inr (.inl hthrows)⟩⟩
  · rintro e _ ⟨rfl, rfl⟩
    exact ⟨h, .inl rfl⟩

/-! ## Whole runs -/

/-- The second response arrived with status 403. -/
def DeniedIn (log : List ExchangeEvent) : Prop :=
  ∃ login request first answer, attempts log = [(login, first), (request, answer)] ∧ Denied answer

/-- The run may end with this capability. -/
def Completes (log : List ExchangeEvent) : Prop :=
  (attempts log).length = 2 ∧ ¬ DeniedIn log

/-- The run may end with this error. -/
def Fails (env : ExchangeEnv) (readJson : JsonReader) (e : CompletionError)
    (log : List ExchangeEvent) :
    Prop :=
  (∃ fault, e = .fault fault ∧ StageFault readJson log fault) ∨ HookThrows env e ∧ ¬ DeniedIn log

theorem not_deniedIn_of_short {log : List ExchangeEvent} (h : (attempts log).length ≤ 1) :
    ¬ DeniedIn log := by
  rintro ⟨login, request, first, answer, hlog, -⟩
  rw [hlog] at h
  exact absurd h (Nat.not_succ_le_self 1)

theorem deniedIn_iff {log : List ExchangeEvent} {login request : HttpRequest}
    {first answer : SendAnswer}
    (h : attempts log = [(login, first), (request, answer)]) : DeniedIn log ↔ Denied answer := by
  constructor
  · rintro ⟨_, _, _, _, hlog, hdenied⟩
    cases h.symm.trans hlog
    exact hdenied
  · exact fun hdenied => ⟨_, _, _, _, h, hdenied⟩

theorem statusFault_true (status : Int) :
    statusFault true status = if status = 403 then .orgPolicyDenied else
      .data360ExchangeFailed := by
  simp [statusFault, exchangeFault]

theorem exceptionFault_true (detail : String) :
    exceptionFault true detail ≠ .tokenExchangeFailed ∧
    exceptionFault true detail ≠ .orgPolicyDenied := by
  rw [exceptionFault, show exchangeFault true = .data360ExchangeFailed from rfl]
  split_ifs with hnetwork htls
  all_goals exact ⟨by decide, by decide⟩

/-- The part of a run behind its second request. -/
theorem wp_second (options : OAuthExchangeOptions)
    (salesforce : OAuthTokenResponse) {login : HttpRequest}
    {first : HttpResponse} {log : List ExchangeEvent}
    (hfaultless : ∀ log request fault, env.send log request ≠ .fault fault)
    (hlog : attempts log = [(login, .response first)]) :
    wp (do
        let response ← sendSanitized env (data360Request options salesforce) true
        let parsed ← acceptData360 env readJson options response
        grant env options parsed)
      (fun _ => Completes) (Fails env readJson) (fun _ => False) log := by
  have hattempts (answer : SendAnswer) : attempts (log ++
      [{ request := some (data360Request options salesforce), answer := .send answer }])
        = [(login, .response first), (data360Request options salesforce, answer)] := by
    rw [attempts_append, hlog]
    rfl
  rw [wp_bind, wp_sendSanitized_iff]
  split
  case h_1 response hsent =>
    have hbase := hattempts (.response response)
    simp only [acceptData360, wp_bind]
    refine wp_checkStatus_iff.mpr ⟨fun hstatus => ?_, fun hstatus => ?_⟩
    · have hnot : ¬ Denied (.response response) := by
        rintro ⟨_, heq, hdenied⟩
        cases heq
        omega
      -- what is left fails with one fault, or with what a hook threw
      have hrest {e : CompletionError} {log' : List ExchangeEvent}
          (hasks : OnlyAsks (log ++ [{
            request := some (data360Request options salesforce),
            answer := .send (.response response) }]) log')
          (he : e = .fault .data360ExchangeFailed ∨ HookThrows env e) :
          Fails env readJson e log' := by
        have hlog' := hasks.attempts.trans hbase
        rcases he with rfl | hthrows
        · exact .inl ⟨_, rfl, .second hlog' (by decide) (iff_of_false (by decide) hnot)⟩
        · exact .inr ⟨hthrows, fun hdenied => hnot ((deniedIn_iff hlog').mp hdenied)⟩
      refine wp_checkCancelled_iff.mpr ⟨fun _ => ?_, fun _ => ?_, fun e hthrows => ?_⟩
      · refine wp_orFault.mpr ⟨fun parsed _ => ?_, fun fault herror => ?_⟩
        · refine wp_mono (wp_grant_faults options parsed ((OnlyAsks.refl _).ask _)) ?_
            ?_ fun _ => id
          · intro capability log' hasks
            have hlog' := hasks.attempts.trans hbase
            exact ⟨by rw [hlog']; rfl, fun hdenied => hnot ((deniedIn_iff hlog').mp hdenied)⟩
          · exact fun e log' h => hrest h.1 h.2
        · exact hrest ((OnlyAsks.refl _).ask _)
            (.inl (by rw [id, parseData360Response_error herror]))
      · exact hrest ((OnlyAsks.refl _).ask _) (.inl rfl)
      · exact hrest ((OnlyAsks.refl _).ask _) (.inr ⟨_, .inl hthrows⟩)
    · rw [statusFault_true]
      by_cases hdenied : response.status = 403
      · rw [if_pos hdenied]
        exact .inl ⟨_, rfl, .second hbase (by decide) (iff_of_true rfl ⟨response, rfl, hdenied⟩)⟩
      · rw [if_neg hdenied]
        refine .inl ⟨_, rfl, .second hbase (by decide) (iff_of_false (by decide) ?_)⟩
        rintro ⟨_, heq, hforbidden⟩
        cases heq
        exact hdenied hforbidden
  case h_2 fault hsent => exact absurd hsent (hfaultless _ _ _)
  case h_3 detail hsent =>
    have hfault := exceptionFault_true detail
    refine .inl ⟨_, rfl, .second (hattempts _) hfault.1 (iff_of_false hfault.2 ?_)⟩
    rintro ⟨_, heq, _⟩
    cases heq
  case h_4 hsent =>
    refine .inl ⟨_, rfl, .second (hattempts _) (by decide) (iff_of_false (by decide) ?_)⟩
    rintro ⟨_, heq, _⟩
    cases heq

/-- How a run ends. -/
theorem wp_exchange_faults (provider : SalesforceOAuthProvider) (loginOrigin clientId : Bytes)
    (material : AuthCompletionMaterial)
    (hfaultless : ∀ log request fault, env.send log request ≠ .fault fault) :
    wp (exchange env readJson provider loginOrigin clientId material)
      (fun _ => Completes) (Fails env readJson) (fun _ => False) [] := by
  have hnothing {fault : AuthFault} {log : List ExchangeEvent} (hlog : attempts log = [])
      (hfault : fault = .invalidLoginOrigin ∨ fault = .invalidClientId ∨
        fault = .data360ExchangeFailed ∧ CancelledIn log) : Fails env readJson (.fault fault) log :=
    .inl ⟨fault, rfl, .before hlog hfault⟩
  have hthrew {e : CompletionError} {log : List ExchangeEvent} (hlog : (attempts log).length ≤ 1)
      (hthrows : HookThrows env e) : Fails env readJson e log :=
    .inr ⟨hthrows, not_deniedIn_of_short hlog⟩
  unfold exchange
  simp only [wp_bind, checkClientId, wp_raiseIf]
  refine wp_orFault.mpr ⟨fun origin _ => ?_, fun _ _ => hnothing rfl (.inl rfl)⟩
  refine ⟨fun _ => hnothing rfl (.inr (.inl rfl)),
    fun _ => ⟨fun _ => hnothing rfl (.inr (.inl rfl)), fun _ => ?_⟩⟩
  refine wp_checkCancelled_iff.mpr ⟨fun _ => ?_, fun _ => ?_, fun e hthrows => ?_⟩
  rotate_left
  · exact hnothing rfl (.inr (.inr ⟨rfl, _, List.mem_singleton_self _, rfl⟩))
  · exact hthrew (Nat.zero_le _) ⟨_, .inl hthrows⟩
  have hgoing (answer : SendAnswer) :
      ¬ CancelledIn ([] ++ [{ answer := .isCancelled (.ok false) }] ++
      [{ request := some (oauthRequest provider.options origin
        clientId material), answer := .send answer }]) := by
    rintro ⟨event, hmem, hevent⟩
    simp only [List.nil_append, List.singleton_append, List.mem_cons,
      List.not_mem_nil, or_false] at hmem
    rcases hmem with rfl | rfl
    · cases hevent
    · cases hevent
  rw [wp_sendSanitized_iff]
  split
  case h_1 response hsent =>
    refine wp_acceptToken_iff.mpr ⟨fun salesforce hredeemed => ?_, fun _ => ?_⟩
    · unfold exchangeToken
      refine (wp_bind _ _).mpr
        (wp_checkCancelled_iff.mpr ⟨fun _ => ?_, fun _ => ?_, fun e hthrows => ?_⟩)
      · exact wp_second provider.options salesforce hfaultless rfl
      · exact .inl ⟨_, rfl, .first rfl
          (.cancelled rfl hredeemed ⟨_, List.mem_append_right _ (List.mem_singleton_self _), rfl⟩)⟩
      · exact hthrew (Nat.le_refl _) ⟨_, .inl hthrows⟩
    · exact .inl ⟨_, rfl, .first rfl (.failed (by simp) (by simp) (hgoing _))⟩
  case h_2 fault hsent => exact absurd hsent (hfaultless _ _ _)
  case h_3 detail hsent =>
    refine .inl ⟨_, rfl, .first rfl ?_⟩
    unfold exceptionFault
    split_ifs with hnetwork htls
    · exact .network (congrArg _ hnetwork)
    · exact .tls (congrArg _ htls)
    · exact .failed (by simpa using hnetwork) (by simpa using htls) (hgoing _)
  case h_4 hsent => exact .inl ⟨_, rfl, .first rfl (.failed (by simp) (by simp) (hgoing _))⟩

/-- With a transport that does not throw faults itself, a run ends with a capability, with a
fault that fits to what the run has done, or with what a hook threw.  It ends with
`ORG_POLICY_DENIED` whenever the second response has status 403. -/
theorem exchange_faults {env : ExchangeEnv}
    (hfaultless : ∀ log request fault, env.send log request ≠ .fault fault) (readJson : JsonReader)
    (provider : SalesforceOAuthProvider) (loginOrigin clientId : Bytes)
    (material : AuthCompletionMaterial) :
    let run := exchange env readJson provider loginOrigin clientId material []
    ((∃ capability, run.1 = .ret capability) ∨
      (∃ fault, run.1 = .raise (.fault fault) ∧ StageFault readJson run.2 fault) ∨
      ∃ e, run.1 = .raise e ∧ HookThrows env e) ∧
    (DeniedIn run.2 → run.1 = .raise (.fault .orgPolicyDenied)) := by
  intro run
  have hrun : wp (exchange env readJson provider loginOrigin clientId material)
      (fun _ => Completes) (Fails env readJson) (fun _ => False) [] :=
    wp_exchange_faults provider loginOrigin clientId material hfaultless
  unfold wp at hrun
  split at hrun
  · rename_i capability log hret
    have hrun' : run = (.ret capability, log) := hret
    rw [hrun']
    exact ⟨.inl ⟨capability, rfl⟩, fun hdenied => absurd hdenied hrun.2⟩
  · rename_i e log hraise
    have hrun' : run = (.raise e, log) := hraise
    rw [hrun']
    rcases hrun with ⟨fault, rfl, hfault⟩ | ⟨hthrows, hnot⟩
    · refine ⟨.inr (.inl ⟨fault, rfl, hfault⟩), fun hdenied => ?_⟩
      obtain ⟨login, request, first, answer, hlog, hanswer⟩ := hdenied
      cases hfault with
      | before hlog' => cases hlog'.symm.trans hlog
      | first hlog' => cases hlog'.symm.trans hlog
      | second hlog' _ hiff =>
          cases hlog'.symm.trans hlog
          rw [hiff.mpr hanswer]
    · exact ⟨.inr (.inr ⟨e, rfl, hthrows⟩), fun hdenied => absurd hdenied hnot⟩
  · exact hrun.elim

/-- A transport that does not get a connection. -/
def tlsEnv : ExchangeEnv where
  send _ _ := .exception "D360-AUTH-009 TLS_FAILURE"
  isCancelled _ := .ok false
  nowMs _ := .ok 0
  utcNowMicros _ := .ok 0

/-- A login over it. -/
def tlsLogin : Outcome CompletionError ExchangedCapability × List ExchangeEvent :=
  exchange tlsEnv (fun _ => none) {} (ascii "https://login.salesforce.com") (ascii "client") {
    authorizationCode := ascii "code"
    pkceVerifier := ascii "verifier"
    loginOrigin := ascii "https://login.salesforce.com"
    clientId := ascii "client"
    secretName := ascii "prod" } []

theorem exchange_faults_tls :
    tlsLogin.1 = .raise (.fault .tlsFailure) ∧
    StageFault (fun _ => none) tlsLogin.2 .tlsFailure := by
  have hrun : tlsLogin.1 = .raise (.fault .tlsFailure) := by decide +kernel
  have hfaultless (log : List ExchangeEvent) (request : HttpRequest) (fault : AuthFault) :
      tlsEnv.send log request ≠ .fault fault := fun h => by cases h
  refine ⟨hrun, ?_⟩
  rcases (exchange_faults hfaultless (fun _ => none) {} _ _ _).1 with
    ⟨capability, h⟩ | ⟨fault, h, hfault⟩ | ⟨e, -, log, hthrows⟩
  · cases hrun.symm.trans h
  · cases hrun.symm.trans h
    exact hfault
  · rcases hthrows with h | h | h
    all_goals cases h

end Data360.SalesforceOAuthProvider
