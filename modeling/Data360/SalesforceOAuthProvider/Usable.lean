import Data360.LibcurlTransport
import Data360.QueryApi.Handles
import Data360.QueryApi.Submission
import Data360.SalesforceOAuthProvider.Parsers
import Data360.SalesforceOAuthProvider.Rules

/-!
# What a granted capability is good for

A login stores the capability that the exchange returns, and a query submits with
it.  Three components bound the token and the URL on the way: the reader of the
Data 360 response, the check of the tenant URL in `PrepareInternal`, and the
checks of `LibcurlTransport::Send`.

The first two agree.  The third one is stricter than the first: a token of the
response may be twice as long as a header line, and it may hold line breaks.

* `capability_usable_iff` says when a query with a granted capability passes all
  checks.
* `capability_refused` is a login whose queries never leave the process.
-/

namespace Data360

open Lib Lib.ByteString Lib.Prog

namespace SalesforceOAuthProvider

/-! ## The token of a response -/

theorem Grants.token {readJson : JsonReader} {options : OAuthExchangeOptions}
    {capability : ExchangedCapability} {response : HttpResponse}
    (h : Grants readJson options capability response) :
    ∃ members, readJson response.body = some (.object members) ∧
      members.lookup (ascii "access_token") = some (.string capability.accessToken) ∧
      capability.accessToken ≠ [] := by
  obtain ⟨_, _, hparsed⟩ := h.parsed
  exact parseData360Response_token hparsed

/-- The tenant URL of a capability is one that the query client trusts. -/
theorem Grants.trusted {readJson : JsonReader} {options : OAuthExchangeOptions}
    {capability : ExchangedCapability} {response : HttpResponse}
    (h : Grants readJson options capability response) :
    Trusted ⟨capability.tenantUrl, capability.accessToken⟩ := by
  obtain ⟨members, -, -, hne⟩ := h.token
  obtain ⟨host, hurl, -, hhost⟩ := (validDnsOrigin_iff domain_tenant _).mp h.tenant
  exact ⟨hne, (isTrustedTenantUrl_iff _).mpr ⟨host, .inl hurl, hhost⟩⟩

end SalesforceOAuthProvider

/-! ## A query with the capability -/

/-- `Prepare` takes its arguments, and the transport refuses none of the requests with
which it submits the query. -/
structure Usable (run : Outcome QueryError Unit × Client) : Prop where
  accepted : ∀ message, run.1 ≠ .raise (.invalidArgument message)
  admitted : ∀ request ∈ posts run.2.log, LibcurlTransport.checkRequest request = .ok ()

/-- `Prepare`, with default options. -/
def prepareDefault (env : QueryEnv) (fuel : Nat) (sql : Bytes) (credentials : QueryCredentials) :
    Outcome QueryError Unit × Client :=
  QueryApiV3Client.prepareInternal env fuel sql credentials false {} {}

/-- The limits of a submission with default options. -/
theorem submission_limits (sql : Bytes) (credentials : QueryCredentials)
    (startedAtMs now : UInt64) :
    ∃ timeoutMs maxResponseBytes : UInt64,
      (startSession sql credentials {} startedAtMs).limitedRequest now
        = { QueryApiV3Client.submitRequest sql credentials false {} with
            timeoutMs, maxResponseBytes } ∧
      timeoutMs.toNat ≤ LibcurlTransport.longMax ∧ maxResponseBytes ≠ 0 ∧
      (timeoutMs ≠ 0 ↔ now - startedAtMs ≠ 120000) := by
  have hresponse : min (67108864 : UInt64) (268435456 - min 0 268435456) ≠ 0 := by decide
  have hmin (rest : UInt64) :
      min 30000 rest = if (30000 : UInt64) ≤ rest then 30000 else rest := rfl
  refine ⟨min 30000 (120000 - (now - startedAtMs)), _, rfl, ?_, hresponse, ?_⟩
  · rw [hmin]
    split
    · decide
    · rename_i hlate
      rw [UInt64.not_le, UInt64.lt_iff_toNat_lt] at hlate
      rw [LibcurlTransport.longMax]
      have hbound : (30000 : UInt64).toNat = 30000 := rfl
      omega
  · generalize now - startedAtMs = elapsed
    have hsub : 120000 - elapsed = 0 ↔ elapsed = 120000 := by
      have helapsed := elapsed.toNat_lt
      simp only [← UInt64.toNat_inj, UInt64.toNat_sub, UInt64.toNat_ofNat]
      omega
    rw [hmin]
    split
    · rename_i hearly
      refine iff_of_true (by decide) fun hdeadline => ?_
      rw [hsub.mpr hdeadline] at hearly
      exact absurd hearly (by decide)
    · exact not_congr hsub

/-- A query with trusted credentials passes the checks of the transport exactly when its
token fits and its timeout is not zero, or it is not submitted at all. -/
theorem usable_iff {env : QueryEnv} {fuel : Nat} {sql : Bytes} {credentials : QueryCredentials}
    (hsql : sql ≠ []) (hbody : (QueryApiV3Client.submitBody sql false {}).length ≤ 1024 * 1024)
    (hcredentials : Trusted credentials) :
    Usable (prepareDefault env fuel sql credentials) ↔
      ∀ startedAtMs now, Submits env {} startedAtMs now →
        LibcurlTransport.BearerFits credentials.accessToken ∧ now - startedAtMs ≠ 120000 := by
  have haccepted (message : String) :
      (prepareDefault env fuel sql credentials).1 ≠ .raise (.invalidArgument message) := fun h =>
    prepareInternal_accepts fuel hsql hcredentials h trivial
  have hadmitted (startedAtMs now : UInt64) : LibcurlTransport.checkRequest
      ((startSession sql credentials {} startedAtMs).limitedRequest now) = .ok () ↔
      LibcurlTransport.BearerFits credentials.accessToken ∧ now - startedAtMs ≠ 120000 := by
    obtain ⟨timeoutMs, maxResponseBytes, hrequest, htimeout, hresponse, hzero⟩ :=
      submission_limits sql credentials startedAtMs now
    rw [hrequest,
      LibcurlTransport.checkRequest_submit hcredentials.url hbody htimeout hresponse, hzero]
    exact and_comm
  constructor
  · rintro ⟨-, husable⟩ startedAtMs now hsubmits
    refine (hadmitted startedAtMs now).mp (husable _ ?_)
    rw [prepareDefault, prepareInternal_posts fuel hsql hcredentials hsubmits]
    exact List.mem_singleton_self _
  · refine fun h => ⟨haccepted, fun request hrequest => ?_⟩
    by_cases hsubmits : ∃ startedAtMs now, Submits env {} startedAtMs now
    · obtain ⟨startedAtMs, now, hsubmits⟩ := hsubmits
      rw [prepareDefault, prepareInternal_posts fuel hsql hcredentials hsubmits,
        List.mem_singleton] at hrequest
      rw [hrequest]
      exact (hadmitted startedAtMs now).mpr (h startedAtMs now hsubmits)
    · rw [prepareDefault, prepareInternal_posts_none fuel hsql hcredentials fun startedAtMs now h =>
        hsubmits ⟨startedAtMs, now, h⟩] at hrequest
      cases hrequest

open SalesforceOAuthProvider

/-- A query with a granted capability is usable, in every run, exactly when the token of
the second response fits into a header and the limits of the request are not computed
right at the deadline; or when it is not submitted. -/
theorem capability_usable_iff {env : ExchangeEnv} {readJson : JsonReader}
    {provider : SalesforceOAuthProvider} {loginOrigin clientId : Bytes}
    {material : AuthCompletionMaterial} {capability : ExchangedCapability}
    (h : (exchange env readJson provider loginOrigin clientId material []).1 = .ret capability) :
    ∃ first second members token,
      responses
        (exchange env readJson provider loginOrigin clientId material []).2 = [first, second] ∧
      readJson second.body = some (.object members) ∧
      members.lookup (ascii "access_token") = some (.string token) ∧
      ∀ (queryEnv : QueryEnv) (fuel : Nat) (sql : Bytes), sql ≠ [] →
        (QueryApiV3Client.submitBody sql false {}).length ≤ 1024 * 1024 →
        (Usable (prepareDefault queryEnv fuel sql ⟨capability.tenantUrl, capability.accessToken⟩) ↔
          ∀ startedAtMs now, Submits queryEnv {} startedAtMs now →
            LibcurlTransport.BearerFits token ∧ now - startedAtMs ≠ 120000) := by
  obtain ⟨first, second, hresponses, hgrants⟩ := exchange_grants h
  obtain ⟨members, hmembers, htoken, -⟩ := hgrants.token
  exact ⟨first, second, members, capability.accessToken, hresponses, hmembers, htoken,
    fun queryEnv fuel sql hsql hbody => usable_iff hsql hbody hgrants.trusted⟩

/-- What the login grants. -/
def sampleCapability (token : Bytes) : ExchangedCapability where
  tenantUrl := ascii "https://t.c360a.salesforce.com"
  accessToken := token
  expiresAtMonotonicMs := 870000
  expiresAtUtcMicros := 870000000

/-- A login whose token fits. -/
theorem capability_usable_iff_token :
    ∃ first second members token,
      responses (sampleLogin (ascii "token")).2 = [first, second] ∧
      Json.parse second.body = some (.object members) ∧
      members.lookup (ascii "access_token") = some (.string token) ∧
      ∀ (queryEnv : QueryEnv) (fuel : Nat) (sql : Bytes), sql ≠ [] →
        (QueryApiV3Client.submitBody sql false {}).length ≤ 1024 * 1024 →
        (Usable (prepareDefault queryEnv fuel sql ⟨ascii "https://t.c360a.salesforce.com",
          ascii "token"⟩) ↔
          ∀ startedAtMs now, Submits queryEnv {} startedAtMs now →
            LibcurlTransport.BearerFits token ∧ now - startedAtMs ≠ 120000) :=
  have hgranted : (sampleLogin (ascii "token")).1 = .ret (sampleCapability (ascii "token")) := by
    decide +kernel
  capability_usable_iff hgranted

/-- A login whose token holds a line break is granted, and its query is refused before it
leaves. -/
theorem capability_refused :
    (sampleLogin (ascii "to\nken")).1 = .ret (sampleCapability (ascii "to\nken")) ∧
      ¬ Usable (prepareDefault sampleEnv 1 (ascii "SELECT 1")
        ⟨ascii "https://t.c360a.salesforce.com", ascii "to\nken"⟩) := by
  refine ⟨by decide +kernel, fun husable => ?_⟩
  have hrefused : (posts (prepareDefault sampleEnv 1 (ascii "SELECT 1")
      ⟨ascii "https://t.c360a.salesforce.com", ascii "to\nken"⟩).2.log).any
      (fun request => (LibcurlTransport.checkRequest request).toBool = false) = true := by
    decide +kernel
  obtain ⟨request, hrequest, hcheck⟩ := List.any_eq_true.mp hrefused
  rw [husable.admitted request hrequest] at hcheck
  exact absurd hcheck (by decide)

end Data360
