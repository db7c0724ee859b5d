import Data360.SalesforceOAuthProvider.Rules

/-!
# When a capability expires

The end of `Exchange`: the lifetime that the second response gives, less the skew,
is added to the readings of two clocks, in milliseconds of the monotonic one and in
microseconds of the other.

* `monotonic_guard` and `utc_guard` say that the tests in front of the two sums
  are exact.
* `Approved` describes the runs that come as far as that, and `wp_grant_iff` what
  they end with.
* `exchange_expiry` is the result for every run.
-/

namespace Data360.SalesforceOAuthProvider

open Lib Lib.ByteString Lib.Prog

/-! ## The arithmetic -/

/-- The seconds for which a capability with this lifetime is handed out. -/
def effectiveLifetime (options : OAuthExchangeOptions) (ttlSeconds : UInt64) : Nat :=
  ttlSeconds.toNat - options.expirySkewSeconds.toNat

/-- The lifetime is longer than the skew, the clock does not stand before its epoch,
and both sums fit. -/
structure ExpiryFits (options : OAuthExchangeOptions) (ttlSeconds now : UInt64) (nowUtc : Int64) :
    Prop where
  outlives : options.expirySkewSeconds.toNat < ttlSeconds.toNat
  epoch : 0 ≤ nowUtc.toInt
  monotonic : now.toNat + effectiveLifetime options ttlSeconds * 1000 < 2 ^ 64
  utc : nowUtc.toInt + effectiveLifetime options ttlSeconds * 1000000 < 2 ^ 63

/-- The capability expires the lifetime after the readings. -/
structure ExpiresAfter (options : OAuthExchangeOptions) (ttlSeconds now : UInt64) (nowUtc : Int64)
    (capability : ExchangedCapability) : Prop where
  monotonic : capability.expiresAtMonotonicMs.toNat
    = now.toNat + effectiveLifetime options ttlSeconds * 1000
  utc : capability.expiresAtUtcMicros.toInt
    = nowUtc.toInt + effectiveLifetime options ttlSeconds * 1000000
  later : now < capability.expiresAtMonotonicMs ∧ nowUtc < capability.expiresAtUtcMicros

/-- The test in front of the sum in milliseconds. -/
theorem monotonic_guard (seconds now : UInt64) :
    ¬ (seconds > 0xffffffffffffffff / 1000 ∨ now > 0xffffffffffffffff - seconds * 1000) ↔
      now.toNat + seconds.toNat * 1000 < 2 ^ 64 := by
  have hnow : now.toNat < 2 ^ 64 := UInt64.toNat_lt now
  by_cases hlarge : seconds > 0xffffffffffffffff / 1000
  · have hseconds : 18446744073709551 < seconds.toNat := UInt64.lt_iff_toNat_lt.mp hlarge
    exact iff_of_false (fun h => h (.inl hlarge)) (by omega)
  · have hseconds :
      seconds.toNat ≤ 18446744073709551 := UInt64.le_iff_toNat_le.mp (UInt64.not_lt.mp hlarge)
    have hmul : (seconds * 1000).toNat = seconds.toNat * 1000 := by
      rw [UInt64.toNat_mul, show (1000 : UInt64).toNat = 1000 from rfl, Nat.mod_eq_of_lt (by omega)]
    have hsub :
        (0xffffffffffffffff - seconds * 1000).toNat = 2 ^ 64 - 1 - seconds.toNat * 1000 := by
      rw [UInt64.toNat_sub_of_le, hmul]
      · rfl
      · rw [UInt64.le_iff_toNat_le, hmul,
          show (0xffffffffffffffff : UInt64).toNat = 2 ^ 64 - 1 from rfl]
        omega
    rw [or_iff_right hlarge, gt_iff_lt, UInt64.lt_iff_toNat_lt, hsub]
    omega

/-- The difference under the test in microseconds. -/
theorem toNat_utcRoom {nowUtc : Int64} (h : 0 ≤ nowUtc.toInt) :
    ((Int64.maxValue - nowUtc).toUInt64.toNat : Int) = 2 ^ 63 - 1 - nowUtc.toInt := by
  have hlt := nowUtc.toInt_lt
  have hsub : (Int64.maxValue - nowUtc).toInt = 2 ^ 63 - 1 - nowUtc.toInt := by
    rw [Int64.toInt_sub, Int64.toInt_maxValue]
    apply Int.bmod_eq_of_le <;> omega
  have hle : (0 : Int64) ≤ Int64.maxValue - nowUtc := by
    rw [Int64.le_iff_toInt_le, hsub, Int64.toInt_zero]
    omega
  rw [Int64.toNat_toUInt64_of_le hle, Int64.cast_toNatClampNeg _ hle, hsub]

/-- The test in front of the sum in microseconds. -/
theorem utc_guard (seconds : UInt64) (nowUtc : Int64) :
    ¬ (nowUtc < 0 ∨ seconds > (Int64.maxValue - nowUtc).toUInt64 / 1000000) ↔
      0 ≤ nowUtc.toInt ∧ nowUtc.toInt + seconds.toNat * 1000000 < 2 ^ 63 := by
  rw [not_or, gt_iff_lt, Int64.lt_iff_toInt_lt, Int64.toInt_zero, Int.not_lt]
  refine and_congr_right fun hepoch => ?_
  have hroom := toNat_utcRoom hepoch
  rw [UInt64.lt_iff_toNat_lt, UInt64.toNat_div, show (1000000 : UInt64).toNat = 1000000 from rfl]
  omega

theorem toNat_monotonic {seconds now : UInt64} (h : now.toNat + seconds.toNat * 1000 < 2 ^ 64) :
    (now + seconds * 1000).toNat = now.toNat + seconds.toNat * 1000 := by
  rw [UInt64.toNat_add, UInt64.toNat_mul, show (1000 : UInt64).toNat = 1000 from rfl]
  omega

theorem toInt_utc {seconds : UInt64} {nowUtc : Int64} (hepoch : 0 ≤ nowUtc.toInt)
    (h : nowUtc.toInt + seconds.toNat * 1000000 < 2 ^ 63) :
    (nowUtc + (seconds * 1000000).toInt64).toInt = nowUtc.toInt + seconds.toNat * 1000000 := by
  have hproduct : (seconds * 1000000).toInt64 = Int64.ofNat (seconds.toNat * 1000000) := by
    rw [← UInt64.toInt64_ofNat', UInt64.ofNat_mul, UInt64.ofNat_toNat]
    rfl
  rw [Int64.toInt_add, hproduct, Int64.toInt_ofNat_of_lt (by omega)]
  push_cast
  apply Int.bmod_eq_of_le <;> omega

/-! ## The runs that come to it -/

/-- What the surroundings answer when this has happened. -/
def answersWith (env : ExchangeEnv) (before : List ExchangeEvent) (event : ExchangeEvent) : Prop :=
  match event.answer with
  | .send answer => ∃ request, event.request = some request ∧ env.send before request = answer
  | .isCancelled answer => event.request = none ∧ env.isCancelled before = answer
  | .nowMs answer => event.request = none ∧ env.nowMs before = answer
  | .utcNowMicros answer => event.request = none ∧ env.utcNowMicros before = answer

/-- The surroundings give every answer of the log. -/
def TellsOf (env : ExchangeEnv) (log : List ExchangeEvent) : Prop :=
  ∀ before event after, log = before ++ event :: after → answersWith env before event

theorem TellsOf.nil (env : ExchangeEnv) : TellsOf env [] := by
  intro before event after h
  cases before <;> cases h

theorem TellsOf.concat {env : ExchangeEnv} {log : List ExchangeEvent} (h : TellsOf env log)
    {event : ExchangeEvent} (hevent : answersWith env log event) :
    TellsOf env (log ++ [event]) := by
  intro before other after hlog
  rcases concat_eq_append_cons hlog with ⟨rfl, rfl, rfl⟩ | ⟨between, rfl, rfl⟩
  · exact hevent
  · exact h before other between rfl

theorem TellsOf.ask {env : ExchangeEnv} {log : List ExchangeEvent} (h : TellsOf env log)
    {answer : Except CompletionError Bool} (hanswer : env.isCancelled log = answer) :
    TellsOf env (log ++ [{ answer := .isCancelled answer }]) := h.concat ⟨rfl, hanswer⟩

theorem TellsOf.send {env : ExchangeEnv} {log : List ExchangeEvent} (h : TellsOf env log)
    {request : HttpRequest} {answer : SendAnswer} (hanswer : env.send log request = answer) :
    TellsOf env (log ++ [{ request := some request, answer := .send answer }]) :=
  h.concat ⟨request, rfl, hanswer⟩

theorem TellsOf.asked {env : ExchangeEnv} {log after : List ExchangeEvent} (h : TellsOf env log)
    (before : List ExchangeEvent) {answer : Except CompletionError Bool}
    (hlog : log = before ++ { answer := .isCancelled answer } :: after) :
    env.isCancelled before = answer :=
  (h before _ after hlog).2

theorem TellsOf.sent {env : ExchangeEnv} {log after : List ExchangeEvent} (h : TellsOf env log)
    (before : List ExchangeEvent) {request : HttpRequest} {answer : SendAnswer}
    (hlog : log = before ++ { request := some request, answer := .send answer } :: after) :
    env.send before request = answer := by
  obtain ⟨_, hrequest, hsend⟩ := h before _ after hlog
  cases hrequest
  exact hsend

/-- The log of a run behind the second response. -/
def answeredLog (login request : HttpRequest) (first second : HttpResponse) : List ExchangeEvent :=
  [{ answer := .isCancelled (.ok false) },
    { request := some login, answer := .send (.response first) },
    { answer := .isCancelled (.ok false) },
    { request := some request, answer := .send (.response second) },
    { answer := .isCancelled (.ok false) }]

/-- The tenant URL of a response, with its scheme. -/
def withScheme (tenantUrl : Bytes) : Bytes :=
  if (ascii "https://").isPrefixOf tenantUrl then tenantUrl else ascii "https://" ++ tenantUrl

/-- The run with this log has everything but the readings: it was not cancelled, and both
responses are acceptable. -/
structure Approved (env : ExchangeEnv) (readJson : JsonReader) (options : OAuthExchangeOptions)
    (loginOrigin clientId : Bytes) (material : AuthCompletionMaterial) (log : List ExchangeEvent)
    (parsed : Data360Response) : Prop where
  told : TellsOf env log
  admitted : clientId ≠ [] ∧ clientId.length ≤ 1024 ∧
    clientId.any (fun c => c < 0x20 || c = 0x7f) = false
  answered : ∃ origin first salesforce second,
    validateSalesforceLoginOrigin loginOrigin = .ok origin ∧ Redeemed readJson first salesforce ∧
      (200 ≤ second.status ∧ second.status < 300) ∧
      parseData360Response readJson second.body options.defaultTtlSeconds = .ok parsed ∧
      log = answeredLog (oauthRequest options origin clientId material)
        (data360Request options salesforce) first second
  tenant : validDnsOrigin (withScheme parsed.tenantUrl) (ascii ".c360a.salesforce.com") = true

section Runs

variable {env : ExchangeEnv} {readJson : JsonReader} {options : OAuthExchangeOptions}
  {parsed : Data360Response} {log : List ExchangeEvent} {now : UInt64} {nowUtc : Int64}
  {E : CompletionError → List ExchangeEvent → Prop} {C : List ExchangeEvent → Prop}

theorem wp_tenantOrigin {Q : Bytes → List ExchangeEvent → Prop} {tenantUrl : Bytes}
    (h : validDnsOrigin (withScheme tenantUrl) (ascii ".c360a.salesforce.com") = true) :
    wp (tenantOrigin tenantUrl) Q E C log ↔ Q (withScheme tenantUrl) log := by
  unfold tenantOrigin
  unfold withScheme at h ⊢
  split_ifs at h ⊢ with hscheme
  · exact Iff.rfl
  · rw [wp_bind, wp_raiseIf]
    exact ⟨fun hwp => hwp.2 (not_not.mpr h), fun hQ => ⟨fun hnot => absurd h hnot, fun _ => hQ⟩⟩

theorem toNat_effective (h : options.expirySkewSeconds.toNat < parsed.ttlSeconds.toNat) :
    (parsed.ttlSeconds - options.expirySkewSeconds).toNat
      = effectiveLifetime options parsed.ttlSeconds :=
  UInt64.toNat_sub_of_le _ _ (UInt64.le_iff_toNat_le.mpr (Nat.le_of_lt h))

/-- What `grant` ends with, given the readings of the clocks. -/
theorem wp_grant_of_readings
    (htenant : validDnsOrigin (withScheme parsed.tenantUrl) (ascii ".c360a.salesforce.com") = true)
    (hnow : env.nowMs log = .ok now)
    (hutc : env.utcNowMicros (log ++ [{ answer := .nowMs (.ok now) }]) = .ok nowUtc) :
    wp (grant env options parsed)
      (fun capability _ => ExpiryFits options parsed.ttlSeconds now nowUtc ∧
        ExpiresAfter options parsed.ttlSeconds now nowUtc capability)
      (fun e _ => e = .fault .data360ExchangeFailed ∧
        ¬ ExpiryFits options parsed.ttlSeconds now nowUtc)
      (fun _ => False) log := by
  unfold grant
  rw [wp_bind, wp_tenantOrigin htenant]
  simp only [wp_bind, wp_raiseIf, wp_nowMs, wp_utcNowMicros, wp_pure, hnow,
    Except.ok.injEq, forall_eq']
  refine ⟨fun hrefused => ⟨trivial, fun hfits => ?_⟩, fun houtlives => ?_⟩
  · have hle := hrefused.resolve_left (not_not.mpr htenant)
    exact absurd (UInt64.le_iff_toNat_le.mp hle) (Nat.not_le.mpr hfits.outlives)
  have hlt : options.expirySkewSeconds.toNat < parsed.ttlSeconds.toNat :=
    UInt64.lt_iff_toNat_lt.mp (UInt64.not_le.mp (not_or.mp houtlives).2)
  have hseconds := toNat_effective hlt
  refine ⟨⟨fun hguard => ⟨trivial, fun hfits => ?_⟩, fun hguard => ?_⟩, fun e he => by cases he⟩
  · refine (monotonic_guard _ _).mpr ?_ hguard
    rw [hseconds]
    exact hfits.monotonic
  have hmonotonic := (monotonic_guard _ _).mp hguard
  simp only [hutc, Except.ok.injEq, forall_eq']
  refine ⟨⟨fun hguard => ⟨trivial, fun hfits => ?_⟩, fun hguard => ?_⟩, fun e he => by cases he⟩
  · refine (utc_guard _ _).mpr ?_ hguard
    rw [hseconds]
    exact ⟨hfits.epoch, hfits.utc⟩
  obtain ⟨hepoch, hutcFits⟩ := (utc_guard _ _).mp hguard
  have hsum := toNat_monotonic hmonotonic
  have hsumUtc := toInt_utc hepoch hutcFits
  rw [hseconds] at hmonotonic hutcFits hsum hsumUtc
  have hpositive : 0 < effectiveLifetime options parsed.ttlSeconds := Nat.sub_pos_of_lt hlt
  refine ⟨⟨hlt, hepoch, hmonotonic, hutcFits⟩, hsum, hsumUtc, ?_, ?_⟩
  · rw [UInt64.lt_iff_toNat_lt, hsum]
    omega
  · rw [Int64.lt_iff_toInt_lt, hsumUtc]
    omega

/-- A capability comes with readings of both clocks, which are the end of its log. -/
theorem wp_grant_readings :
    wp (grant env options parsed)
      (fun _ log' => validDnsOrigin (withScheme parsed.tenantUrl)
        (ascii ".c360a.salesforce.com") = true ∧
        ∃ now nowUtc, env.nowMs log = .ok now ∧
          env.utcNowMicros (log ++ [{ answer := .nowMs (.ok now) }]) = .ok nowUtc ∧
          log' = log ++ [{ answer := .nowMs (.ok now) }]
            ++ [{ answer := .utcNowMicros (.ok nowUtc) }])
      (fun _ _ => True) (fun _ => True) log := by
  unfold grant
  by_cases htenant :
    validDnsOrigin (withScheme parsed.tenantUrl) (ascii ".c360a.salesforce.com") = true
  · rw [wp_bind, wp_tenantOrigin htenant]
    simp only [wp_bind, wp_raiseIf, wp_nowMs, wp_utcNowMicros, wp_pure]
    refine ⟨fun _ => trivial,
      fun _ => ⟨fun now hnow => ⟨fun _ => trivial, fun _ => ?_⟩, fun _ _ => trivial⟩⟩
    exact ⟨fun nowUtc hutc => ⟨fun _ => trivial, fun _ => ⟨htenant, now, nowUtc, hnow, hutc, rfl⟩⟩,
      fun _ _ => trivial⟩
  · unfold tenantOrigin
    unfold withScheme at htenant
    split_ifs at htenant ⊢ with hscheme
    · simp only [wp_bind, wp_pure, wp_raiseIf]
      exact ⟨fun _ => trivial, fun hvalid => absurd (.inl htenant) hvalid⟩
    · simp only [wp_bind, wp_raiseIf]
      exact ⟨fun _ => trivial, fun hvalid => absurd htenant hvalid⟩

/-- A run that is approved ends as `grant` does. -/
theorem Approved.wp_exchange {provider : SalesforceOAuthProvider} {loginOrigin clientId : Bytes}
    {material : AuthCompletionMaterial} {Q : ExchangedCapability → List ExchangeEvent → Prop}
    (h : Approved env readJson provider.options loginOrigin clientId material log parsed)
    (hgrant : wp (grant env provider.options parsed) Q E C log) :
    wp (exchange env readJson provider loginOrigin clientId material) Q E C [] := by
  obtain ⟨origin, first, salesforce, second, horigin, hfirst, hstatus, hparsed, rfl⟩ := h.answered
  obtain ⟨hnonempty, hlength, hprintable⟩ := h.admitted
  -- the answers of the surroundings, one after the other
  have hasked := h.told.asked [] rfl
  have hsent := h.told.sent [_] rfl
  have haskedAgain := h.told.asked [_, _] rfl
  have hsentAgain := h.told.sent [_, _, _] rfl
  have haskedLast := h.told.asked [_, _, _, _] rfl
  have hcheck {Q : Unit → List ExchangeEvent → Prop} {log : List ExchangeEvent}
      (hfalse : env.isCancelled log = .ok false)
      (hQ : Q () (log ++ [{ answer := .isCancelled (.ok false) }])) :
      wp (checkCancelled env) Q E C log := by
    rw [wp_checkCancelled_iff, hfalse]
    exact ⟨fun _ => hQ, (fun htrue => by cases htrue), fun _ herror => by cases herror⟩
  unfold exchange exchangeToken acceptData360
  simp only [wp_bind, checkClientId, wp_raiseIf, horigin]
  refine wp_orFault.mpr ⟨fun _ hvalid => ?_, fun _ hinvalid => by cases hinvalid⟩
  cases hvalid
  refine ⟨fun hbad => absurd hbad (not_or.mpr ⟨hnonempty, Nat.not_lt.mpr hlength⟩),
    fun _ => ⟨fun hbad => ?_, fun _ => ?_⟩⟩
  · rw [hprintable] at hbad
    cases hbad
  refine hcheck hasked ?_
  rw [wp_sendSanitized_iff, List.nil_append, hsent]
  refine wp_acceptToken_iff.mpr ⟨fun other hother => ?_, fun hnone => absurd ⟨_, hfirst⟩ hnone⟩
  cases hfirst.parsed.symm.trans hother.parsed
  refine hcheck haskedAgain ?_
  rw [wp_sendSanitized_iff]
  simp only [List.cons_append, List.nil_append, hsentAgain]
  refine wp_checkStatus_iff.mpr ⟨fun _ => ?_, fun hfailed => absurd hstatus hfailed⟩
  refine hcheck haskedLast ?_
  refine wp_orFault.mpr ⟨fun _ hok => ?_, fun _ herror => ?_⟩
  · cases hparsed.symm.trans hok
    exact hgrant
  · cases hparsed.symm.trans herror

/-- A run that returns a capability is approved, and reads both clocks in the end. -/
theorem approved_of_ret {provider : SalesforceOAuthProvider} {loginOrigin clientId : Bytes}
    {material : AuthCompletionMaterial} {capability : ExchangedCapability}
    (h : (exchange env readJson provider loginOrigin clientId material []).1 = .ret capability) :
    ∃ log parsed now nowUtc,
      Approved env readJson provider.options loginOrigin clientId material log parsed ∧
        env.nowMs log = .ok now ∧
        env.utcNowMicros (log ++ [{ answer := .nowMs (.ok now) }]) = .ok nowUtc ∧
        (exchange env readJson provider loginOrigin clientId material []).2
          = log ++ [{ answer := .nowMs (.ok now) }]
            ++ [{ answer := .utcNowMicros (.ok nowUtc) }] := by
  let Granted (_ : ExchangedCapability) (log' : List ExchangeEvent) : Prop :=
    ∃ log parsed now nowUtc,
      Approved env readJson provider.options loginOrigin clientId material log parsed ∧
        env.nowMs log = .ok now ∧
        env.utcNowMicros (log ++ [{ answer := .nowMs (.ok now) }]) = .ok nowUtc ∧
        log' = log ++ [{ answer := .nowMs (.ok now) }]
          ++ [{ answer := .utcNowMicros (.ok nowUtc) }]
  have hwp : wp (exchange env readJson provider loginOrigin clientId material) Granted
      (fun _ _ => True) (fun _ => True) [] := by
    unfold exchange exchangeToken acceptData360
    simp only [wp_bind, checkClientId, wp_raiseIf]
    refine wp_orFault.mpr ⟨fun origin horigin => ?_, fun _ _ => trivial⟩
    refine ⟨fun _ => trivial, fun hsized => ⟨fun _ => trivial, fun hprintable => ?_⟩⟩
    rw [not_or, Nat.not_lt] at hsized
    rw [Bool.not_eq_true] at hprintable
    refine wp_checkCancelled_iff.mpr ⟨fun hasked => ?_, fun _ => trivial, fun _ _ => trivial⟩
    rw [wp_sendSanitized_iff]
    split
    case h_1 first hsent =>
      refine wp_acceptToken (fun salesforce hfirst => ?_) fun _ => trivial
      refine wp_checkCancelled_iff.mpr ⟨fun haskedAgain => ?_, fun _ => trivial, fun _ _ => trivial⟩
      rw [wp_sendSanitized_iff]
      split
      case h_1 second hsentAgain =>
        refine wp_checkStatus (fun hstatus => ?_) fun _ => trivial
        refine wp_checkCancelled_iff.mpr ⟨fun haskedLast => ?_, fun _ => trivial,
          fun _ _ => trivial⟩
        refine wp_orFault.mpr ⟨fun parsed hparsed => ?_, fun _ _ => trivial⟩
        refine wp_mono wp_grant_readings ?_ (fun _ _ _ => trivial) fun _ _ => trivial
        rintro granted _ ⟨htenant, now, nowUtc, hnow, hutc, rfl⟩
        refine ⟨_, parsed, now, nowUtc,
          ⟨?_, ⟨hsized.1, hsized.2, hprintable⟩, ?_, htenant⟩, hnow, hutc, rfl⟩
        · have htold := (TellsOf.nil env).ask hasked
          exact (((htold.send hsent).ask haskedAgain).send hsentAgain).ask haskedLast
        · exact ⟨origin, first, salesforce, second, horigin, hfirst, hstatus, hparsed, rfl⟩
      all_goals trivial
    all_goals trivial
  exact (wp_iff.mp hwp).1 capability _ (run_eq_of_fst h)

end Runs

/-! ## Every run -/

/-- A capability that is returned expires the effective lifetime after the readings of the
clocks, and both sums are exact.  A run that comes as far as the readings fails if, and
only if, the lifetime is not longer than the skew, the clock stands before its epoch or
one of the sums does not fit. -/
theorem exchange_expiry (env : ExchangeEnv) (readJson : JsonReader)
    (provider : SalesforceOAuthProvider)
    (loginOrigin clientId : Bytes) (material : AuthCompletionMaterial) :
    let result := (exchange env readJson provider loginOrigin clientId material []).1
    (∀ capability, result = .ret capability → ∃ log parsed now nowUtc,
      Approved env readJson provider.options loginOrigin clientId material log parsed ∧
        env.nowMs log = .ok now ∧
        env.utcNowMicros (log ++ [{ answer := .nowMs (.ok now) }]) = .ok nowUtc ∧
        ExpiryFits provider.options parsed.ttlSeconds now nowUtc ∧
        ExpiresAfter provider.options parsed.ttlSeconds now nowUtc capability) ∧
    ∀ log parsed now nowUtc,
      Approved env readJson provider.options loginOrigin clientId material log parsed →
      env.nowMs log = .ok now →
      env.utcNowMicros (log ++ [{ answer := .nowMs (.ok now) }]) = .ok nowUtc →
        (ExpiryFits provider.options parsed.ttlSeconds now nowUtc →
          ∃ capability, result = .ret capability ∧
            ExpiresAfter provider.options parsed.ttlSeconds now nowUtc capability) ∧
        (¬ ExpiryFits provider.options parsed.ttlSeconds now nowUtc →
          result = .raise (.fault .data360ExchangeFailed)) := by
  intro result
  -- what an approved run ends with
  have hends {log parsed now nowUtc}
      (happroved : Approved env readJson provider.options loginOrigin clientId material log parsed)
      (hnow : env.nowMs log = .ok now)
      (hutc : env.utcNowMicros (log ++ [{ answer := .nowMs (.ok now) }]) = .ok nowUtc) :=
    happroved.wp_exchange (wp_grant_of_readings happroved.tenant hnow hutc)
  constructor
  · intro capability hret
    obtain ⟨log, parsed, now, nowUtc, happroved, hnow, hutc, -⟩ := approved_of_ret hret
    obtain ⟨hfits, hexpires⟩ :=
      (wp_iff.mp (hends happroved hnow hutc)).1 capability _ (run_eq_of_fst hret)
    exact ⟨log, parsed, now, nowUtc, happroved, hnow, hutc, hfits, hexpires⟩
  · intro log parsed now nowUtc happroved hnow hutc
    have hrun := hends happroved hnow hutc
    unfold wp at hrun
    split at hrun
    · rename_i capability s hret
      exact ⟨fun _ => ⟨capability, congrArg Prod.fst hret, hrun.2⟩, fun hnot => absurd hrun.1 hnot⟩
    · rename_i e s hraise
      obtain ⟨rfl, hnot⟩ := hrun
      exact ⟨fun hfits => absurd hfits hnot, fun _ => congrArg Prod.fst hraise⟩
    · exact hrun.elim

/-- Surroundings whose clocks stand as late as a lifetime of 870 seconds allows. -/
def limitEnv : ExchangeEnv where
  send := (loginEnv (ascii "salesforce-token") (.object [
    (ascii "access_token", .string (ascii "token")),
    (ascii "instance_url", .string (ascii "t.c360a.salesforce.com")),
    (ascii "expires_in", .number (ascii "900"))])).send
  isCancelled _ := .ok false
  nowMs _ := .ok (0xffffffffffffffff - 870000)
  utcNowMicros _ := .ok (Int64.maxValue - 870000000)

/-- The capability expires at the last moment of both clocks. -/
theorem exchange_expiry_limit :
    ∃ log parsed now nowUtc,
      Approved limitEnv Json.parse {} sampleMaterial.loginOrigin sampleMaterial.clientId
        sampleMaterial log parsed ∧
        limitEnv.nowMs log = .ok now ∧
        limitEnv.utcNowMicros (log ++ [{ answer := .nowMs (.ok now) }]) = .ok nowUtc ∧
        ExpiryFits {} parsed.ttlSeconds now nowUtc ∧
        ExpiresAfter {} parsed.ttlSeconds now nowUtc
          ⟨⟨ascii "https://t.c360a.salesforce.com", ascii "token", 0xffffffffffffffff⟩,
            Int64.maxValue⟩ :=
  (exchange_expiry limitEnv Json.parse {} sampleMaterial.loginOrigin sampleMaterial.clientId
    sampleMaterial).1 _
    (by decide +kernel)

end Data360.SalesforceOAuthProvider
