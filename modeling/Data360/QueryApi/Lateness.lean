import Data360.QueryApi.Metadata

/-!
# Responses that come too late

Every response but the metadata is followed by a `CheckActive`, and one that
passes says that all responses so far came in time.

* `LateAt` says that a query is cancelled or past its deadline at a point of its
  log, and `Steady` that it stays so.
* `wp_checkActive_timely` is what a `CheckActive` that passes says.
* `late_response_throws_iff` is the result: the only late response that is used
  is the metadata.
-/

namespace Data360

open Lib Lib.ByteString Lib.Prog Session

variable {env : QueryEnv} {setting : Setting} {base log : List QueryEvent}

/-! ## Time and cancellation -/

/-- At this point the query is cancelled, or its deadline has passed. -/
def LateAt (env : QueryEnv) (setting : Setting) (log : List QueryEvent) : Prop :=
  env.isCancelled log = some true ∨ ∃ now, env.nowMs log = some now ∧
    setting.startedAtMs.toNat + setting.options.overallTimeoutMs.toNat ≤ now.toNat

/-- Up to the end of the log, the flag stays set once it is set, and the clock
never shows less than it showed or was read as before. -/
structure Steady (env : QueryEnv) (log : List QueryEvent) : Prop where
  cancelled : ∀ {earlier later}, earlier <+: later → later <+: log →
    env.isCancelled earlier = some true → env.isCancelled later ≠ some false
  forward : ∀ {earlier later before after}, earlier <+: later → later <+: log →
    (env.nowMs earlier = some before ∨ before ∈ readings earlier) →
    env.nowMs later = some after → before ≤ after

theorem Steady.past {log' : List QueryEvent} (h : Steady env log') (hpast : log <+: log') :
    Steady env log :=
  ⟨fun hearlier hlater => h.cancelled hearlier (hlater.trans hpast),
    fun hearlier hlater => h.forward hearlier (hlater.trans hpast)⟩

/-- Between two logs, a response was delivered late. -/
def LateSince (env : QueryEnv) (setting : Setting) (base log : List QueryEvent) : Prop :=
  ∃ past r response, base <+: past ∧ past ++ [.send r (some response)] <+: log ∧
    LateAt env setting (past ++ [.send r (some response)])

/-- On a steady clock all responses were delivered in time. -/
def Timely (env : QueryEnv) (setting : Setting) (base log : List QueryEvent) : Prop :=
  Steady env log → ¬ LateSince env setting base log

/-- A request does not end with another event. -/
theorem send_prefix_concat {past : List QueryEvent} {r : HttpRequest}
    {answer : Option HttpResponse} {e : QueryEvent} (he : sends [e] = [])
    (h : past ++ [.send r answer] <+: log ++ [e]) : past ++ [.send r answer] <+: log := by
  rcases List.prefix_concat_iff.mp h with hsame | hpast
  · obtain ⟨-, hlast⟩ := List.append_inj' hsame rfl
    cases hlast
    cases he
  · exact hpast

theorem LateSince.before {e : QueryEvent} (h : LateSince env setting base (log ++ [e]))
    (he : sends [e] = []) : LateSince env setting base log := by
  obtain ⟨past, r, response, hbase, hdelivered, hlate⟩ := h
  exact ⟨past, r, response, hbase, send_prefix_concat he hdelivered, hlate⟩

theorem Timely.concat {e : QueryEvent} (h : Timely env setting base log) (he : sends [e] = []) :
    Timely env setting base (log ++ [e]) := fun steady hlate =>
  h (steady.past (List.prefix_append _ _)) (hlate.before he)

/-- Nothing is delivered before a call begins. -/
theorem timely_self (log : List QueryEvent) : Timely env setting log log := by
  intro _ hlate
  obtain ⟨past, r, response, hbase, hdelivered, -⟩ := hlate
  have hlength := (hdelivered.trans hbase).length_le
  rw [List.length_append] at hlength
  exact Nat.not_succ_le_self _ hlength

theorem Timely.of_nil (h : Timely env setting [] log) (base : List QueryEvent) :
    Timely env setting base log := by
  intro steady hlate
  obtain ⟨past, r, response, -, hdelivered, hlate⟩ := hlate
  exact h steady ⟨past, r, response, List.nil_prefix, hdelivered, hlate⟩

/-- The start of the session is on the clock. -/
def Started (setting : Setting) (log : List QueryEvent) : Prop := setting.startedAtMs ∈ readings log

theorem lasting_started (setting : Setting) : Lasting (Started setting) := by
  intro log e h
  rw [Started, readings, List.filterMap_append]
  exact List.mem_append_left _ h

/-- A session with its start on the clock. -/
abbrev Client.Dated (setting : Setting) : Client → Prop :=
  Ongoing (Started setting) (·.setting = setting)

/-- A client that has used no late response since `base`. -/
abbrev Client.Timely (env : QueryEnv) (setting : Setting) (base : List QueryEvent) :
    Client → Prop :=
  Ongoing (fun log => Started setting log ∧ Data360.Timely env setting base log)
    (·.setting = setting)

theorem idle_timely (env : QueryEnv) (setting : Setting) (base : List QueryEvent) :
    Idle fun log => Started setting log ∧ Timely env setting base log :=
  ⟨fun h hquiet => ⟨lasting_started setting _ _ h.1, h.2.concat (sends_quiet hquiet)⟩,
    fun h _ => ⟨lasting_started setting _ _ h.1, h.2.concat rfl⟩⟩

/-- When `CheckActive` passes, no response has come late. -/
theorem wp_checkActive_timely {c : Client} (h : c.Dated setting) (base : List QueryEvent) :
    wp (checkActive env) (fun _ => Client.Timely env setting base) (fun _ _ => True)
      (fun _ => False) c := by
  refine wp_mono (wp_checkActive_returns c) ?_ (fun _ _ _ => trivial) fun _ h => h
  rintro _ c' ⟨now, rfl, hflag, hnow, hactive⟩
  have hlooked : c.log ++ [.isCancelled (some false)]
      <+: c.log ++ [.isCancelled (some false)] ++ [.nowMs (some now)] := List.prefix_append _ _
  have hstarted := lasting_started setting _ (.isCancelled (some false)) h.log
  refine ⟨⟨lasting_started setting _ _ hstarted, ?_⟩, h.session⟩
  refine Timely.of_nil (fun steady hlate => ?_) base
  obtain ⟨past, r, response, -, hdelivered, hlate⟩ := (hlate.before rfl).before rfl
  rcases hlate with hcancelled | ⟨late, hlate, hdeadline⟩
  · exact steady.cancelled hdelivered ((List.prefix_append _ _).trans hlooked) hcancelled hflag
  · have hforward := UInt64.le_iff_toNat_le.mp (steady.forward
      (hdelivered.trans (List.prefix_append _ _)) hlooked (.inl hlate) hnow)
    have hstart := steady.forward (List.prefix_refl _) hlooked (.inr hstarted) hnow
    have hown : c.session.options = setting.options := congrArg Setting.options h.session
    have hbegun : c.session.startedAtMs = setting.startedAtMs :=
      congrArg Setting.startedAtMs h.session
    rw [hown, hbegun, UInt64.lt_iff_toNat_lt, UInt64.toNat_sub_of_le _ _ hstart] at hactive
    omega

/-! ## The operations -/

theorem keeps_send_dated : Keeps (Client.Dated setting) (send env) :=
  keeps_send_lasting (lasting_started setting) fun _ _ _ h => h

theorem keeps_decode_dated (response : HttpResponse) :
    Keeps (Client.Dated setting) (decode env response) :=
  keeps_decode (lasting_started setting).idle response

theorem keeps_remember_dated (response : QueryResponse) :
    Keeps (Client.Dated setting) (rememberQueryId response) :=
  keeps_remember (fun _ _ h => h) response

/-- `exchange` checks what it received. -/
theorem wp_exchange_timely {c : Client} (h : c.Dated setting) (base : List QueryEvent) :
    wp (QueryApiV3Client.exchange env) (fun _ => Client.Timely env setting base)
      (fun _ _ => True) (fun _ => False) c := by
  apply wp_bind_of_keeps keeps_send_dated total_send h ?_ fun _ _ _ => trivial
  intro response c₁ h₁
  apply wp_bind_of_keeps (keeps_decode_dated response) (total_decode response) h₁ ?_
    fun _ _ _ => trivial
  intro decoded c₂ h₂
  apply wp_bind_of_keeps (keeps_remember_dated decoded) (total_rememberQueryId decoded) h₂ ?_
    fun _ _ _ => trivial
  intro _ c₃ h₃
  rw [wp_bind]
  exact wp_mono (wp_checkActive_timely h₃ base) (fun _ _ h => h) (fun _ _ h => h) fun _ h => h

/-- So does the delivery of a chunk. -/
theorem wp_deliver_timely (response : QueryResponse) {c : Client} (h : c.Dated setting)
    (base : List QueryEvent) :
    wp (QueryCursor.deliver env response) (fun _ => Client.Timely env setting base)
      (fun _ _ => True) (fun _ => False) c := by
  apply wp_bind_of_keeps (keeps_remember_dated response) (total_rememberQueryId response) h ?_
    fun _ _ _ => trivial
  intro _ c₁ h₁
  rw [wp_bind]
  refine wp_mono (wp_checkActive_timely h₁ base) ?_ (fun _ _ h => h) fun _ h => h
  intro _ c₂ h₂
  rw [wp_bind]
  refine wp_mono (wp_accept response c₂) ?_ (fun _ _ _ => trivial) fun _ h => h
  intro chunk c₃ haccepted
  obtain ⟨-, -, cells, rfl⟩ := haccepted
  rw [wp_bind, wp_modify, wp_pure]
  refine ⟨h₂.log, ?_⟩
  rw [onSession_session]
  unfold QueryCursor.follow
  split
  · exact h₂.session
  · exact h₂.session

/-- Fetching and delivering a chunk. -/
theorem wp_fetchDeliver_timely {f : Session → Session} {c : Client}
    (h : (c.onSession f).Dated setting) (base : List QueryEvent) :
    wp (do
        let response ← (do
          modify f
          let response ← send env
          decode env response : Query QueryResponse)
        QueryCursor.deliver env response)
      (fun _ => Client.Timely env setting base) (fun _ _ => True) (Client.Timely env setting base)
      c := by
  rw [wp_bind, wp_bind, wp_modify]
  apply wp_bind_of_keeps keeps_send_dated total_send h ?_ fun _ _ _ => trivial
  intro response c₁ h₁
  refine wp_mono ((keeps_decode_dated response).total (total_decode response) h₁) ?_
    (fun _ _ _ => trivial) fun _ h => h.elim
  intro decoded c₂ h₂
  exact wp_mono (wp_deliver_timely decoded h₂ base) (fun _ _ h => h) (fun _ _ h => h)
    fun _ h => h.elim

/-- The rules for the calls on a cursor. -/
theorem cursorRules_timely (base : List QueryEvent) :
    CursorRules env (Client.Timely env setting base) (Client.Timely env setting base)
      (fun _ _ => True) where
  fails _ _ _ := trivial
  cancels _ _ _ := trivial
  numbered c h _ _ _ :=
    wp_fetchDeliver_timely (f := QueryCursor.numberedRequest) ⟨h.log.1, h.session⟩ base
  buffered response c h _ _ _ := by
    have htaken : Client.Dated setting (c.onSession fun s => { s with bufferedDirect := none }) :=
      ⟨h.log.1, h.session⟩
    exact wp_mono (wp_deliver_timely response htaken base) (fun _ _ h => h) (fun _ _ h => h)
      fun _ h => h.elim
  direct c h _ _ _ := by
    rw [wp_bind, QueryCursor.fetchDirect, wp_bind, wp_look, wp_bind, wp_raiseIf]
    refine ⟨fun _ => trivial, fun _ => ?_⟩
    rw [← wp_bind]
    exact wp_fetchDeliver_timely (f := QueryCursor.directRequest) ⟨h.log.1, h.session⟩ base
  finishes α c h _ := wp_finished_of (fun _ => ⟨rfl, h.log, h.session⟩) fun _ _ => trivial
  arrow c h _ _ _ := by
    have hasked : (c.onSession QueryCursor.arrowRequest).Dated setting := ⟨h.log.1, h.session⟩
    rw [QueryCursor.fetchArrow, wp_bind, wp_modify]
    apply wp_bind_of_keeps keeps_send_dated total_send hasked ?_ fun _ _ _ => trivial
    intro response c₁ h₁
    rw [wp_ite]
    refine ⟨fun _ => ?_, fun _ => ?_⟩
    · rw [wp_bind]
      exact wp_mono (wp_arrowFailed_throws response c₁) (fun _ _ h => h.elim) (fun _ _ h => h)
        fun _ h => h.elim
    · rw [wp_bind]
      exact wp_mono (wp_checkActive_timely h₁ base) (fun _ _ h => ⟨h.log, h.session⟩)
        (fun _ _ h => h) fun _ h => h.elim
  checks := (keeps_checkActive (idle_timely env setting base)).leads fun _ _ _ => trivial
  reports decodedRows c h _ := by
    have hidle := idle_timely env setting base
    rw [QueryCursor.reportBody, wp_bind]
    refine wp_mono (keeps_checkActive hidle c h) ?_ (fun _ _ _ => trivial) fun _ h => h
    intro _ c₁ h₁
    simp only [wp_bind, wp_look, wp_raiseIf, wp_modify]
    exact ⟨fun _ => trivial, fun _ => ⟨fun _ => trivial, fun _ => ⟨h₁.log, h₁.session⟩⟩⟩

/-! ## The result -/

/-- The metadata came late, as a table that can be used. -/
def LateTable (env : QueryEnv) (origin : Bytes) (options : QueryOptions) (c : Client) : Prop :=
  ∃ past r response id decoded, TableArrives origin options c.log past r response id decoded ∧
    LateAt env c.session.setting (past ++ [.send r (some response)])

theorem inert_timely (env : QueryEnv) (setting : Setting) :
    Inert fun _ log => Started setting log ∧ Timely env setting [] log where
  looks _ := ⟨fun h => ⟨lasting_started setting _ _ h.1, h.2.concat rfl⟩,
    fun h => ⟨lasting_started setting _ _ h.1, h.2.concat rfl⟩⟩
  sleeps h := ⟨lasting_started setting _ _ h.1, h.2.concat rfl⟩

/-- When `PrepareInternal` hands out a query, the only response that may have
come late is the metadata. -/
theorem TableEnd.lateTable {c : Client}
    (h : TableEnd (fun _ log => Started setting log ∧ Timely env setting [] log) setting c)
    (hsetting : c.session.setting = setting)
    (hfew : c.session.metadata.length ≤ setting.options.maxColumns.toNat)
    (steady : Steady env c.log)
    (hlate : LateSince env setting [] c.log) :
    LateTable env setting.origin setting.options c := by
  cases h with
  | direct before _ => exact absurd hlate (before.2 steady)
  | @numbered log r response decoded takes =>
      obtain ⟨past, r', response', hbase, hdelivered, hlate⟩ := hlate
      rw [takes.log_eq, List.append_cons log] at hdelivered
      rcases List.prefix_concat_iff.mp (send_prefix_concat rfl hdelivered) with hsame | hearlier
      · obtain ⟨rfl, hlast⟩ := List.append_inj' hsame rfl
        cases hlast
        refine ⟨past, r, response, c.session.queryId, decoded, ⟨takes.request, ?_, ?_⟩,
          hsetting ▸ hlate⟩
        · exact ⟨takes.complete, takes.columns, takes.numeric, takes.taken ▸ hfew⟩
        · rw [takes.log_eq]
      · have hpast : log <+: c.log := by
          rw [takes.log_eq]
          exact List.prefix_append _ _
        exact absurd ⟨past, r', response', hbase, hearlier, hlate⟩
          (takes.before.2.2 (steady.past hpast))

/-- On a steady clock, `Prepare` throws after every late response exactly when no late
metadata is usable, and a call on a cursor always does. -/
theorem late_response_throws_iff (env : QueryEnv) (sql : Bytes) (credentials : QueryCredentials)
    (options : QueryOptions) :
    (∀ fuel metadataOnly outcome c,
      QueryApiV3Client.prepareInternal env fuel sql credentials metadataOnly options {}
        = (outcome, c) →
      Steady env c.log →
      ((LateSince env c.session.setting [] c.log → ∃ e, outcome = .raise e) ↔
        ¬ LateTable env (trimTrailingSlash credentials.instanceUrl) options c)) ∧
    ∀ c, QueryRun env sql credentials options true c →
      (∀ outcome c', QueryCursor.nextChunk env c = (outcome, c') → Steady env c'.log →
        LateSince env c.session.setting c.log c'.log → ∃ e, outcome = .raise e) ∧
      ∀ outcome c', QueryCursor.nextArrowChunk env c = (outcome, c') → Steady env c'.log →
        LateSince env c.session.setting c.log c'.log → ∃ e, outcome = .raise e := by
  refine ⟨fun fuel metadataOnly outcome c run steady => ?_, fun c run => ?_⟩
  · have hprepare := @wp_prepareInternal_table env _ (inert_timely env)
      (fun setting c hsetting h => wp_mono (wp_exchange_timely ⟨h.1, hsetting⟩ [])
        (fun _ _ h => h.log) (fun _ _ h => h) fun _ h => h.elim)
      fuel sql credentials metadataOnly options fun flag now =>
        ⟨List.mem_cons_self, ((timely_self []).concat (e := .isCancelled flag) rfl).concat rfl⟩
    rw [wp_iff] at hprepare
    obtain ⟨hret, hraise, hcut⟩ := hprepare
    refine ⟨fun hthrows htable => ?_, fun htable hlate => ?_⟩
    · obtain ⟨past, r, response, id, decoded, harrives, hlate⟩ := htable
      have hdelivered : past ++ [.send r (some response)] <+: c.log := by
        refine (List.prefix_append _ [.decode response (.response decoded)]).trans ?_
        rw [List.append_assoc]
        exact harrives.arrived
      obtain ⟨e, rfl⟩ := hthrows ⟨past, r, response, List.nil_prefix, hdelivered, hlate⟩
      exact hraise e c run _ _ _ _ _ harrives
    · cases outcome with
      | raise e => exact ⟨e, rfl⟩
      | cut =>
          -- the last event of a run that is cut off is a `CheckActive` that passed
          obtain ⟨-, setting, rfl, -, htimely⟩ := hcut c run
          exact absurd hlate (htimely steady)
      | ret =>
          obtain ⟨setting, hof, hsetting, hend, hfew⟩ := hret () c run
          rw [hsetting] at hlate
          rw [← hof.options] at hfew
          have hlateTable := hend.lateTable hsetting hfew steady hlate
          rw [Setting.origin, hof.options, hof.credentials] at hlateTable
          exact absurd hlateTable htable
  · rcases queryRun_leaves run with ⟨hlive, -⟩ | ⟨setting, -, hsound⟩
    · cases hlive
    have hclient : c.Sound setting := hsound
    obtain ⟨flag, rest, hstarts⟩ := hclient.log.starts
    have hstart : c.Timely env setting c.log := by
      refine ⟨⟨?_, timely_self c.log⟩, hclient.session.constant⟩
      rw [Started, hstarts]
      exact List.mem_cons_self
    rw [hclient.session.constant]
    have hrules := @cursorRules_timely env setting c.log
    have hends {α : Type} {prog : Query α} {outcome : Outcome QueryError α} {c' : Client}
        (hleads : Leads (Client.Timely env setting c.log) (fun _ _ => True) prog)
        (htotal : Total prog) (run : prog c = (outcome, c')) (steady : Steady env c'.log)
        (hlate : LateSince env setting c.log c'.log) : ∃ e, outcome = .raise e := by
      cases outcome with
      | ret value =>
          exact absurd hlate (((wp_iff.mp (hleads c hstart)).1 value c' run).log.2 steady)
      | raise e => exact ⟨e, rfl⟩
      | cut => exact ((wp_iff.mp (htotal c)).2.2 c' run).elim
    exact ⟨fun _ _ => hends (hrules.leads_nextChunk fun _ h => h) total_nextChunk,
      fun _ _ => hends hrules.nextArrowChunk total_nextArrowChunk⟩

/-! ## A query that is cancelled during a request -/

/-- The event is the delivery of a response. -/
def QueryEvent.delivers : QueryEvent → Bool
  | .send _ (some _) => true
  | _ => false

theorem lateSince_of_take {n : Nat} (hbase : base <+: log) (hlater : base.length ≤ n)
    (hdelivers : log[n]?.any QueryEvent.delivers = true)
    (hlate : LateAt env setting (log.take (n + 1))) : LateSince env setting base log := by
  cases hevent : log[n]? with
  | none => simp [hevent] at hdelivers
  | some e =>
      have htake : log.take (n + 1) = log.take n ++ [e] := by
        rw [List.take_add_one, hevent]
        rfl
      rw [hevent] at hdelivers
      cases e with
      | send r answer =>
          cases answer with
          | none => cases hdelivers
          | some response =>
              rw [htake] at hlate
              exact ⟨log.take n, r, response, List.prefix_take_iff.mpr ⟨hbase, hlater⟩,
                htake ▸ List.take_prefix _ _, hlate⟩
      | decode | isCancelled | nowMs | sleepMs => cases hdelivers

/-- Surroundings that cancel a numbered query with the answer to a request: the second one
is for its metadata, and the third one for its chunk. -/
def cancellingAt (request : Nat) : QueryEnv where
  send _ _ := some { status := 200 }
  decode log _ := .response
    { state := .complete
      queryId := ascii "q1"
      chunkCount := 1
      hasChunkCount := true
      metadata :=
        if (sends log).length = 1 then []
        else [⟨ascii "id", ascii "bigint", false, false, false, 0, 0⟩] }
  isCancelled log := some (decide (request ≤ (sends log).length))
  nowMs _ := some 0
  sleepMs _ _ := true

theorem steady_cancellingAt (request : Nat)
    (hclock : (readings log).all (· == 0) = true) : Steady (cancellingAt request) log where
  cancelled hearlier _ hset hunset := by
    -- the flag counts requests
    obtain ⟨more, rfl⟩ := hearlier
    have hfew := of_decide_eq_true (Option.some.inj hset)
    have hmany := of_decide_eq_false (Option.some.inj hunset)
    rw [sends_append, List.length_append] at hmany
    omega
  forward := by
    intro earlier later before after hearlier hlater hbefore hafter
    obtain rfl : 0 = after := Option.some.inj hafter
    rcases hbefore with hnow | hread
    · obtain rfl : 0 = before := Option.some.inj hnow
      exact UInt64.le_refl _
    · obtain ⟨more, rfl⟩ := hearlier.trans hlater
      have hmem : before ∈ readings (earlier ++ more) := by
        rw [readings, List.filterMap_append]
        exact List.mem_append_left _ hread
      rw [eq_of_beq (List.all_eq_true.mp hclock before hmem)]
      exact UInt64.le_refl _

/-- A query, prepared in them. -/
def cancelledPrepared (request : Nat) : Outcome QueryError Unit × Client :=
  QueryApiV3Client.prepareInternal (cancellingAt request) 1 (ascii "SELECT 1") sampleCredentials
    false {} {}

theorem lateSince_cancelledPrepared :
    LateSince (cancellingAt 2) (cancelledPrepared 2).2.session.setting []
      (cancelledPrepared 2).2.log :=
  lateSince_of_take (n := 12) List.nil_prefix (Nat.zero_le _) (by decide +kernel)
    (.inl (by decide +kernel))

/-- With late metadata the query is handed out although it is cancelled. -/
theorem late_metadata_used :
    QueryOptions.Valid {} ∧ Steady (cancellingAt 2) (cancelledPrepared 2).2.log ∧
      LateSince (cancellingAt 2) (cancelledPrepared 2).2.session.setting []
        (cancelledPrepared 2).2.log ∧
      (cancelledPrepared 2).1 = .ret () :=
  ⟨by decide, steady_cancellingAt 2 (by decide +kernel), lateSince_cancelledPrepared,
    by decide +kernel⟩

/-- The metadata was usable; with a late chunk, both calls throw. -/
theorem late_response_throws_cancelled :
    LateTable (cancellingAt 2) (trimTrailingSlash sampleCredentials.instanceUrl) {}
        (cancelledPrepared 2).2 ∧
      (∃ e, (QueryCursor.nextChunk (cancellingAt 3) (cancelledPrepared 3).2).1 = .raise e) ∧
      ∃ e, (QueryCursor.nextArrowChunk (cancellingAt 3) (cancelledPrepared 3).2).1 = .raise e := by
  have hused : cancelledPrepared 2 = (.ret (), (cancelledPrepared 2).2) :=
    run_eq_of_fst (by decide +kernel)
  have hprepared : cancelledPrepared 3 = (.ret (), (cancelledPrepared 3).2) :=
    run_eq_of_fst (by decide +kernel)
  have run : QueryRun (cancellingAt 3) (ascii "SELECT 1") sampleCredentials {} true
      (cancelledPrepared 3).2 :=
    @QueryRun.handled (cancellingAt 3) _ _ _ 1 false _ 0 hprepared []
  obtain ⟨hprepare, -⟩ :=
    late_response_throws_iff (cancellingAt 2) (ascii "SELECT 1") sampleCredentials {}
  obtain ⟨-, hcalls⟩ :=
    late_response_throws_iff (cancellingAt 3) (ascii "SELECT 1") sampleCredentials {}
  obtain ⟨hchunk, harrow⟩ := hcalls _ run
  refine ⟨?_, ?_, ?_⟩
  · by_contra hnone
    have hthrows := (hprepare 1 false _ _ hused (steady_cancellingAt 2 (by decide +kernel))).mpr
      hnone lateSince_cancelledPrepared
    obtain ⟨e, he⟩ := hthrows
    cases he
  · have hlog := log_prefix_of_keeps (QueryCursor.nextChunk (cancellingAt 3))
      (fun hL => (cursorRules_lasting hL).leads_nextChunk fun _ h => h) (cancelledPrepared 3).2
    exact hchunk _ _ Prod.mk.eta.symm (steady_cancellingAt 3 (by decide +kernel))
      (lateSince_of_take (n := 17) hlog (by decide +kernel) (by decide +kernel)
        (.inl (by decide +kernel)))
  · have hlog := log_prefix_of_keeps (QueryCursor.nextArrowChunk (cancellingAt 3))
      (fun hL => (cursorRules_lasting hL).nextArrowChunk) (cancelledPrepared 3).2
    exact harrow _ _ Prod.mk.eta.symm (steady_cancellingAt 3 (by decide +kernel))
      (lateSince_of_take (n := 19) hlog (by decide +kernel) (by decide +kernel)
        (.inl (by decide +kernel)))

end Data360
