import Data360.QueryApi.Handles

/-!
# The requests of a run

What every run of the client does to the transport, for every transport, codec
and runtime.

* `requests_stay_with_tenant`: the token goes to the tenant's host only, to
  the paths of the Query API.
* `cleanup_exactly_once`: a destroyed session has deleted its query exactly
  once if it had an id and was not reconciled, and never otherwise.
* `deadline_kept_iff`: the requests keep the deadline exactly when no two
  readings of the clock in a row have it between them.
-/

namespace Data360

open Lib Lib.ByteString Lib.Prog Session

section Runs

variable {env : QueryEnv} {setting : Setting} {sql : Bytes} {credentials : QueryCredentials}
  {options : QueryOptions} {live : Bool} {c : Client}

/-! ## The tenant -/

/-- The tenant URL is the origin of the host, with at most one slash. -/
def OriginOf (host instanceUrl : Bytes) : Prop :=
  instanceUrl = ascii "https://" ++ host ∨ instanceUrl = ascii "https://" ++ host ++ [47]

/-- Every request of a run follows no redirect and goes to a path of the Query
API on the tenant's host; when the tenant URL has no such host, nothing is
sent. -/
theorem requests_stay_with_tenant (h : QueryRun env sql credentials options live c) :
    (∀ r ∈ sends c.log, r.followRedirects = false ∧
      ∃ host path, TenantHost host ∧ OriginOf host credentials.instanceUrl ∧ QueryTarget path ∧
        r.url = ascii "https://" ++ host ++ path) ∧
    ((¬ ∃ host, TenantHost host ∧ OriginOf host credentials.instanceUrl) → sends c.log = []) := by
  rcases queryRun_leaves h with ⟨-, hunsent⟩ | ⟨setting, hof, hworld⟩
  · have hnone := sends_of_quiet hunsent.log
    rw [hnone]
    exact ⟨fun _ hr => absurd hr List.not_mem_nil, fun _ => rfl⟩
  · have hsound := hworld.client
    obtain ⟨host, hhost, hurl, htrim⟩ := tenantHost_of_isTrustedTenantUrl hsound.session.trusted
    rw [hof.credentials] at hurl htrim
    have horigin : setting.origin = ascii "https://" ++ host := by
      rw [Setting.origin, hof.credentials, htrim]
    refine ⟨fun r hr => ?_, fun hno => (hno ⟨host, hhost, hurl⟩).elim⟩
    rcases hsound.log.of_mem_sends hr with hrequest | ⟨id, hcleanup⟩
    · obtain ⟨path, htarget, hpath⟩ := hrequest.url
      exact ⟨hrequest.followRedirects, host, path, hhost, hurl, htarget, by rw [hpath, horigin]⟩
    · refine ⟨hcleanup.followRedirects, host, queryPath ++ id, hhost, hurl,
        .query (queryId_of_isSafeQueryId hcleanup.safe), ?_⟩
      rw [hcleanup.url, horigin, List.append_assoc]

/-- An abandoned query talks to its tenant only. -/
theorem requests_stay_with_tenant_abandoned :
    (sends sampleWorld.client.log).length = 2 ∧
      ∀ r ∈ sends sampleWorld.client.log, r.followRedirects = false ∧
        ∃ host path, TenantHost host ∧ OriginOf host sampleCredentials.instanceUrl ∧
          QueryTarget path ∧ r.url = ascii "https://" ++ host ++ path :=
  ⟨by decide +kernel, (requests_stay_with_tenant sampleRun).1⟩

/-! ## The cleanup -/

/-- The requests of a destroyed session: one `DELETE`, last of all, of a query
that it had an id for and did not reconcile, and none otherwise. -/
def CleansUp (options : QueryOptions) (credentials : QueryCredentials) (c : Client) : Prop :=
  if c.session.queryId ≠ [] ∧ c.session.reconciled = false then
    ∃ requests r, sends c.log = requests ++ [r] ∧
      (∀ other ∈ requests, other.method ≠ ascii "DELETE") ∧
      r.method = ascii "DELETE" ∧ r.cleanupRequest = true ∧
      r.timeoutMs = options.cleanupTimeoutMs ∧
      r.url = trimTrailingSlash credentials.instanceUrl ++ ascii "/api/v3/query/" ++
        c.session.queryId
  else ∀ r ∈ sends c.log, r.method ≠ ascii "DELETE"

theorem SessionRequest.not_delete {r : HttpRequest} (h : SessionRequest setting r) :
    r.method ≠ ascii "DELETE" := by
  rcases h.method with hpost | hget
  · rw [hpost]
    decide
  · rw [hget]
    decide

/-- A destroyed session has deleted its query exactly once, or had none to
delete. -/
theorem cleanup_exactly_once (h : QueryRun env sql credentials options false c) :
    CleansUp options credentials c := by
  rcases queryRun_leaves h with ⟨-, hunsent⟩ | ⟨setting, hof, hworld⟩
  · rw [CleansUp, if_neg fun hid => hid.1 hunsent.id, sends_of_quiet hunsent.log]
    simp
  · obtain ⟨c₀, hc₀, heq⟩ : Destroyed env setting c := hworld
    have hlog := (show (cancel env c₀).Sound setting from cancel_sound hc₀).log
    rw [cancel_closed hc₀, ← heq] at hlog
    rw [CleansUp, heq, cancel_queryId, cancel_reconciled, ← heq]
    split
    · rename_i hlearned
      rw [if_pos hlearned] at hlog
      obtain ⟨requests, r, hsends, hcleanup, hrequests⟩ := hlog.sends_closed
      refine ⟨requests, r, hsends, fun other hother => (hrequests other hother).not_delete,
        hcleanup.method, hcleanup.cleanupRequest, ?_, ?_⟩
      · rw [hcleanup.timeoutMs, hof.options]
      · rw [hcleanup.url, Setting.origin, hof.credentials]
        rfl
    · rename_i hnone
      rw [if_neg hnone] at hlog
      exact fun r hr => (hlog.sends_open r hr).not_delete

/-- An abandoned query is deleted once. -/
theorem cleanup_exactly_once_abandoned :
    CleansUp {} sampleCredentials sampleWorld.client ∧
      (sends sampleWorld.client.log).map (·.method) = [ascii "POST", ascii "DELETE"] :=
  ⟨cleanup_exactly_once sampleRun, by decide +kernel⟩

/-! ## The deadline -/

/-- The requests of a log, each with the last reading of the clock before it;
`last` is the last reading before the log. -/
def timedSends (last : Option UInt64) : List QueryEvent → List (Option UInt64 × HttpRequest)
  | [] => []
  | e :: rest =>
      match e.sent with
      | some r => (last, r) :: timedSends (e.reading.or last) rest
      | none => timedSends (e.reading.or last) rest

/-- The request is limited by both timeouts, counted from the last reading of
the clock before it. -/
def MeetsDeadline (options : QueryOptions) (startedAtMs : UInt64) :
    Option UInt64 × HttpRequest → Prop
  | (none, _) => False
  | (some now, r) =>
      r.timeoutMs ≤ options.requestTimeoutMs ∧
      now.toNat < startedAtMs.toNat + options.overallTimeoutMs.toNat ∧
      r.timeoutMs.toNat + now.toNat ≤ startedAtMs.toNat + options.overallTimeoutMs.toNat

instance (options : QueryOptions) (startedAtMs : UInt64) :
    DecidablePred (MeetsDeadline options startedAtMs)
  | (none, _) => inferInstanceAs (Decidable False)
  | (some _, _) => inferInstanceAs (Decidable (_ ∧ _ ∧ _))

/-- Every request that is no cleanup meets the deadline. -/
def DeadlineKept (options : QueryOptions) (startedAtMs : UInt64) (log : List QueryEvent) : Prop :=
  ∀ send ∈ timedSends none log, send.2.cleanupRequest = false →
    MeetsDeadline options startedAtMs send

instance (options : QueryOptions) (startedAtMs : UInt64) (log : List QueryEvent) :
    Decidable (DeadlineKept options startedAtMs log) :=
  inferInstanceAs (Decidable (∀ send ∈ _, _))

/-- Of two readings of the clock in a row, the second one is before the
deadline. -/
def NoLateReading (options : QueryOptions) (startedAtMs : UInt64) (log : List QueryEvent) : Prop :=
  ∀ past first second rest,
    log = past ++ .nowMs (some first) :: .nowMs (some second) :: rest →
    second.toNat < startedAtMs.toNat + options.overallTimeoutMs.toNat

/-- The last reading of the clock in a log. -/
def lastReading (last : Option UInt64) (log : List QueryEvent) : Option UInt64 :=
  (readings log).getLast?.or last

theorem lastReading_cons (last : Option UInt64) (e : QueryEvent) (log : List QueryEvent) :
    lastReading last (e :: log) = lastReading (e.reading.or last) log := by
  unfold lastReading readings
  cases hread : e.reading with
  | none => rw [List.filterMap_cons_none hread, Option.none_or]
  | some now =>
      rw [List.filterMap_cons_some hread, List.getLast?_cons, Option.some_or]
      cases (log.filterMap QueryEvent.reading).getLast? <;> rfl

theorem lastReading_concat (last : Option UInt64) (log : List QueryEvent) (now : UInt64) :
    lastReading last (log ++ [.nowMs (some now)]) = some now := by
  simp [lastReading, readings, QueryEvent.reading]

/-- The timed requests are the requests with their pasts. -/
theorem mem_timedSends {last : Option UInt64} {log : List QueryEvent}
    {send : Option UInt64 × HttpRequest} :
    send ∈ timedSends last log ↔
      ∃ past answer rest, log = past ++ .send send.2 answer :: rest ∧
        send.1 = lastReading last past := by
  induction log generalizing last with
  | nil => simp [timedSends]
  | cons e log ih =>
      have hlater : send ∈ timedSends (e.reading.or last) log ↔
          ∃ past answer rest, log = past ++ .send send.2 answer :: rest ∧
            send.1 = lastReading last (e :: past) := by
        simp only [ih, lastReading_cons]
      constructor
      · intro h
        have hcases : (e.sent = some send.2 ∧ send.1 = last) ∨
            send ∈ timedSends (e.reading.or last) log := by
          unfold timedSends at h
          cases hsent : e.sent with
          | none =>
              rw [hsent] at h
              exact .inr h
          | some r =>
              rw [hsent] at h
              rcases List.mem_cons.mp h with heq | h
              · rw [heq]
                exact .inl ⟨rfl, rfl⟩
              · exact .inr h
        rcases hcases with ⟨hsent, hlast⟩ | h
        · cases e with
          | send r answer =>
              cases hsent
              exact ⟨[], answer, log, rfl, hlast⟩
          | decode => cases hsent
          | isCancelled => cases hsent
          | nowMs => cases hsent
          | sleepMs => cases hsent
        · obtain ⟨past, answer, rest, hlog, hfirst⟩ := hlater.mp h
          exact ⟨e :: past, answer, rest, by rw [hlog, List.cons_append], hfirst⟩
      · intro h
        obtain ⟨past, answer, rest, hlog, hfirst⟩ := h
        cases past with
        | nil =>
            obtain ⟨rfl, rfl⟩ := List.cons.inj hlog
            exact List.mem_cons.mpr (.inl (Prod.ext hfirst rfl))
        | cons head past =>
            obtain ⟨rfl, htail⟩ := List.cons.inj hlog
            have h := hlater.mpr ⟨past, answer, rest, htail, hfirst⟩
            unfold timedSends
            split
            · exact List.mem_cons_of_mem _ h
            · exact h

/-! A session starts with the first reading of the clock, so on a clock that
does not go back no difference from the start wraps. -/

theorem start_le_readings {closed : Option Bytes} {log : List QueryEvent}
    (h : QueryLog setting closed log) (hclock : (readings log).Pairwise (· ≤ ·)) :
    ∀ now ∈ readings log, setting.startedAtMs.toNat ≤ now.toNat := by
  obtain ⟨flag, rest, rfl⟩ := h.starts
  intro now hnow
  have hreadings : readings (.isCancelled flag :: .nowMs (some setting.startedAtMs) :: rest)
      = setting.startedAtMs :: readings rest := rfl
  rw [hreadings] at hclock hnow
  rcases List.mem_cons.mp hnow with rfl | hnow
  · exact Nat.le_refl _
  · exact UInt64.le_iff_toNat_le.mp ((List.pairwise_cons.mp hclock).1 now hnow)

theorem mem_readings {log past rest : List QueryEvent} {now : UInt64}
    (h : log = past ++ .nowMs (some now) :: rest) : now ∈ readings log := by
  rw [h, readings, List.filterMap_append]
  exact List.mem_append_right _ List.mem_cons_self

/-- A request built between two readings meets the deadline exactly when the
second one does. -/
theorem meetsDeadline_iff {first second : UInt64} {r : HttpRequest}
    (htimed : Timed setting first second r)
    (hstart : setting.startedAtMs.toNat ≤ second.toNat) :
    MeetsDeadline setting.options setting.startedAtMs (some second, r) ↔
      second.toNat < setting.startedAtMs.toNat + setting.options.overallTimeoutMs.toNat := by
  refine ⟨fun h => h.2.1, fun hintime => ⟨?_, hintime, ?_⟩⟩
  · rw [htimed.timeoutMs]
    exact Std.min_le_left
  · have hle : r.timeoutMs ≤ setting.options.overallTimeoutMs - (second - setting.startedAtMs) := by
      rw [htimed.timeoutMs]
      exact Std.min_le_right
    have helapsed : (second - setting.startedAtMs).toNat
        = second.toNat - setting.startedAtMs.toNat :=
      UInt64.toNat_sub_of_le _ _ (UInt64.le_iff_toNat_le.mpr hstart)
    have hfits : second - setting.startedAtMs ≤ setting.options.overallTimeoutMs := by
      rw [UInt64.le_iff_toNat_le, helapsed]
      omega
    have hleft := UInt64.toNat_sub_of_le _ _ hfits
    rw [UInt64.le_iff_toNat_le, hleft, helapsed] at hle
    omega

/-- On a clock that does not go back, the requests of a run meet the deadline
exactly when no reading of the clock that directly follows another one is past
it. -/
theorem deadline_kept_iff (h : QueryRun env sql credentials options live c)
    (hclock : (readings c.log).Pairwise (· ≤ ·)) :
    DeadlineKept options c.session.startedAtMs c.log ↔
      NoLateReading options c.session.startedAtMs c.log := by
  rcases queryRun_leaves h with ⟨-, hunsent⟩ | ⟨setting, hof, hworld⟩
  · -- nothing was sent, and nothing was read
    constructor
    · intro _ past first second rest hlog
      have hmem : QueryEvent.nowMs (some first) ∈ c.log := by
        rw [hlog]
        exact List.mem_append_right _ List.mem_cons_self
      exact (hunsent.log _ hmem).elim
    · intro _ send hsend
      obtain ⟨past, answer, rest, hlog, -⟩ := mem_timedSends.mp hsend
      have hmem : QueryEvent.send send.2 answer ∈ c.log := by
        rw [hlog]
        exact List.mem_append_right _ List.mem_cons_self
      exact (hunsent.log _ hmem).elim
  · have hsound := hworld.client
    have hstarted : c.session.startedAtMs = setting.startedAtMs :=
      congrArg Setting.startedAtMs hsound.session.constant
    have hstart := start_le_readings hsound.log hclock
    rw [hstarted, ← hof.options]
    constructor
    · intro hkept past first second rest hlog
      obtain ⟨r, answer, rest', rfl, hrequest, htimed⟩ := hsound.log.readings_split hlog
      have hsplit : c.log = (past ++ [.nowMs (some first)] ++ [.nowMs (some second)]) ++
          .send r answer :: rest' := by
        rw [hlog]
        simp
      have hsend : (some second, r) ∈ timedSends none c.log :=
        mem_timedSends.mpr ⟨_, answer, rest', hsplit, (lastReading_concat _ _ _).symm⟩
      exact (hkept _ hsend hrequest.cleanupRequest).2.1
    · intro hreading send hsend hcleanup
      obtain ⟨past, answer, rest, hlog, hlast⟩ := mem_timedSends.mp hsend
      rcases hsound.log.request_split hlog with ⟨-, before, first, second, hpast, htimed⟩ |
        ⟨id, hdelete⟩
      · have hlog' : c.log = before ++ .nowMs (some first) :: .nowMs (some second) ::
            (.send send.2 answer :: rest) := by
          rw [hlog, hpast]
          simp
        have hlater : c.log = (before ++ [.nowMs (some first)]) ++ .nowMs (some second) ::
            (.send send.2 answer :: rest) := by
          rw [hlog', List.append_cons]
        have hsecond := hstart second (mem_readings hlater)
        rw [hpast, lastReading_concat] at hlast
        have hmeets := (meetsDeadline_iff htimed hsecond).mpr (hreading _ _ _ _ hlog')
        rw [← hlast] at hmeets
        exact hmeets
      · rw [hdelete.cleanupRequest] at hcleanup
        cases hcleanup

/-- The deadline in the run of an abandoned query. -/
theorem deadline_kept_abandoned :
    DeadlineKept {} sampleWorld.client.session.startedAtMs sampleWorld.client.log ↔
      NoLateReading {} sampleWorld.client.session.startedAtMs sampleWorld.client.log :=
  deadline_kept_iff sampleRun (by decide +kernel)

/-- A clock that passes the deadline between the two readings of `Send`, and a
transport that throws. -/
def lateEnv : QueryEnv :=
  scriptedEnv (fun n => if n < 2 then 0 else 1000000) (fun _ => none) fun _ => .failure

/-- A query that is prepared with them. -/
def latePrepared : Outcome QueryError Unit × Client :=
  QueryApiV3Client.prepareInternal lateEnv 1 (ascii "SELECT 1") sampleCredentials false {} {}

/-- The request goes out long after the deadline, with the whole request
timeout. -/
theorem deadline_missed :
    QueryOptions.Valid {} ∧
      QueryRun lateEnv (ascii "SELECT 1") sampleCredentials {} false latePrepared.2 ∧
      (readings latePrepared.2.log).Pairwise (· ≤ ·) ∧
      (timedSends none latePrepared.2.log).map (fun send => (send.1, send.2.timeoutMs))
        = [(some 1000000, 30000)] ∧
      ¬ DeadlineKept {} latePrepared.2.session.startedAtMs latePrepared.2.log := by
  have hrefused : latePrepared =
      (.raise (.runtimeError "Data 360 query timed out"), latePrepared.2) :=
    run_eq_of_fst (by decide +kernel)
  exact ⟨by decide, .refused hrefused, by decide +kernel, by decide +kernel, by decide +kernel⟩

end Runs

end Data360
