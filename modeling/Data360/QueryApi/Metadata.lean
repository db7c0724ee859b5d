import Data360.QueryApi.Calls

/-!
# The metadata of a numbered query

The metadata is the one response that `PrepareInternal` neither learns an id
from nor follows with `CheckActive`.

* `TableArrives` says that the metadata of a query came as a table that
  `PrepareInternal` can use.
* `wp_prepareInternal_table` says when that happens: right before a numbered
  query is handed out, and in no run that ends otherwise.
-/

namespace Data360

open Lib Lib.ByteString Lib.Prog Session

variable {env : QueryEnv} {setting : Setting} {origin : Bytes} {options : QueryOptions}
  {log : List QueryEvent}

/-! ## Requests for the metadata -/

/-- A `GET` of the metadata of the query `id`. -/
structure IsMetadataGet (origin id : Bytes) (r : HttpRequest) : Prop where
  method : r.method = ascii "GET"
  url : r.url = origin ++ queryPath ++ id ++ ascii "/metadata"

/-- No metadata was requested. -/
def NoMetadataGet (origin : Bytes) (log : List QueryEvent) : Prop :=
  ∀ r ∈ sends log, ∀ id, ¬ IsMetadataGet origin id r

/-- Metadata that `PrepareInternal` can use. -/
structure Tabular (options : QueryOptions) (decoded : QueryResponse) : Prop where
  complete : decoded.state = .complete
  columns : decoded.metadata ≠ []
  numeric : QueryApiV3Client.numericIncomplete decoded.metadata = false
  few : decoded.metadata.length ≤ options.maxColumns.toNat

/-- After `past`, the metadata of the query `id` came as the table `decoded`. -/
structure TableArrives (origin : Bytes) (options : QueryOptions) (log past : List QueryEvent)
    (r : HttpRequest) (response : HttpResponse) (id : Bytes) (decoded : QueryResponse) : Prop where
  request : IsMetadataGet origin id r
  table : Tabular options decoded
  arrived : past ++ [.send r (some response), .decode response (.response decoded)] <+: log

/-- No table has come. -/
def NoTable (origin : Bytes) (options : QueryOptions) (log : List QueryEvent) : Prop :=
  ∀ past r response id decoded, ¬ TableArrives origin options log past r response id decoded

theorem noTable_of_noGet (h : NoMetadataGet origin log) : NoTable origin options log := by
  intro past r response id decoded harrives
  obtain ⟨rest, rfl⟩ := harrives.arrived
  refine h r ?_ id harrives.request
  rw [sends_append, sends_append]
  exact List.mem_append_left _ (List.mem_append_right _ List.mem_cons_self)

/-- The only request for metadata is the last one of the log. -/
theorem noTable_of_last {r : HttpRequest} {answer : Option HttpResponse} {tail : List QueryEvent}
    (h : NoMetadataGet origin log) (silent : sends tail = [])
    (refused : ∀ response decoded rest, answer = some response →
      tail = .decode response (.response decoded) :: rest → ¬ Tabular options decoded) :
    NoTable origin options (log ++ .send r answer :: tail) := by
  intro past r' response id decoded harrives
  obtain ⟨rest, hrest⟩ := harrives.arrived
  rw [List.append_assoc] at hrest
  rcases List.append_eq_append_iff.mp hrest with ⟨between, hlog, hlast⟩ | ⟨between, hpast, hlast⟩
  · cases between with
    | nil =>
        obtain ⟨hsend, htail⟩ := List.cons.inj hlast
        cases hsend
        exact refused response decoded rest rfl htail.symm harrives.table
    | cons e between =>
        obtain ⟨rfl, -⟩ := List.cons.inj hlast
        refine h r' ?_ id harrives.request
        rw [hlog, sends_append]
        exact List.mem_append_right _ List.mem_cons_self
  · cases between with
    | nil =>
        obtain ⟨hsend, htail⟩ := List.cons.inj hlast
        cases hsend
        exact refused response decoded rest rfl htail harrives.table
    | cons e between =>
        obtain ⟨-, htail⟩ := List.cons.inj hlast
        rw [show tail = between ++ _ from htail, sends_append, List.append_eq_nil_iff] at silent
        exact List.cons_ne_nil _ _ silent.2

theorem NoTable.concat (h : NoTable origin options log) {e : QueryEvent}
    (he : ∀ response answer, e ≠ .decode response answer) :
    NoTable origin options (log ++ [e]) := by
  intro past r response id decoded harrives
  obtain ⟨rest, hrest⟩ := harrives.arrived
  have hsplit : log ++ [e]
      = past ++ .send r (some response) :: .decode response (.response decoded) :: rest := by
    rw [← hrest]
    simp
  rcases concat_eq_append_cons_cons hsplit with ⟨-, -, hlast⟩ | ⟨rest', -, hlog⟩
  · exact he _ _ hlast
  · refine h past r response id decoded ⟨harrives.request, harrives.table, rest', ?_⟩
    rw [hlog]
    simp

theorem noTable_cancel {c : Client} (h : NoTable origin options c.log) :
    NoTable origin options (cancel env c).log := by
  unfold cancel
  split
  · exact h
  · exact h.concat (fun _ _ h => by cases h)

/-! ## Fetching the metadata -/

/-- The log of a query that does not use its metadata. -/
inductive Untabled (options : QueryOptions) (L : List QueryEvent → Prop) : List QueryEvent → Prop
  | unasked {log : List QueryEvent} (before : L log) : Untabled options L log
  | asked {log tail : List QueryEvent} {r : HttpRequest} {answer : Option HttpResponse}
      (before : L log) (silent : sends tail = [])
      (refused : ∀ response decoded rest, answer = some response →
        tail = .decode response (.response decoded) :: rest → ¬ Tabular options decoded) :
      Untabled options L (log ++ .send r answer :: tail)

theorem Untabled.noTable {L : List QueryEvent → Prop} (h : Untabled options L log)
    (hL : ∀ log, L log → NoMetadataGet origin log) : NoTable origin options log := by
  cases h with
  | unasked before => exact noTable_of_noGet (hL _ before)
  | asked before silent refused => exact noTable_of_last (hL _ before) silent refused

/-- The log of a query that takes over its metadata. -/
structure Takes (L : List QueryEvent → Prop) (origin : Bytes) (c : Client) (log : List QueryEvent)
    (r : HttpRequest) (response : HttpResponse) (decoded : QueryResponse) : Prop where
  before : L log
  request : IsMetadataGet origin c.session.queryId r
  complete : decoded.state = .complete
  columns : decoded.metadata ≠ []
  numeric : QueryApiV3Client.numericIncomplete decoded.metadata = false
  taken : c.session.metadata = decoded.metadata
  log_eq : c.log = log ++ [.send r (some response), .decode response (.response decoded)]

theorem wp_fetchMetadata_table {L : List QueryEvent → Prop} (hL : Looks L) {c : Client}
    (h : L c.log) :
    wp (QueryApiV3Client.fetchMetadata env)
      (fun _ c' => c'.session.setting = c.session.setting ∧
        c'.session.queryId = c.session.queryId ∧
        ∃ log r response decoded, Takes L c.session.origin c' log r response decoded)
      (fun _ c' => Untabled options L c'.log) (fun _ => False) c := by
  let P (s : Session) : Prop := s.setting = c.session.setting ∧ s.queryId = c.session.queryId ∧
    IsMetadataGet c.session.origin c.session.queryId s.request
  have hP (s s' : Session) (hs : P s) (hsent : Sent s s') : P s' := by
    obtain ⟨_, _, _, rfl⟩ := hsent
    exact ⟨hs.1, hs.2.1, hs.2.2.method, hs.2.2.url⟩
  rw [QueryApiV3Client.fetchMetadata, wp_bind, wp_modify, wp_bind]
  refine wp_mono (wp_send_log hL hP ⟨h, rfl, rfl, rfl, rfl⟩) ?_ ?_ fun _ h => h
  · intro response c₁ hsent
    obtain ⟨⟨hsetting, hid, hrequest⟩, log, hlog, hlog₁⟩ := hsent
    rw [wp_bind]
    refine wp_mono (wp_decode_log response c₁) ?_ ?_ fun _ h => h
    · intro decoded c₂ hdecoded
      subst hdecoded
      have hlog₂ : (c₁.record (.decode response (.response decoded))).log
          = log ++ .send c₁.session.request (some response) ::
            [.decode response (.response decoded)] := by
        rw [record_log, hlog₁]
        simp
      have hrefused (hnot : ¬ Tabular options decoded) : Untabled options L
          (c₁.record (.decode response (.response decoded))).log := by
        rw [hlog₂]
        refine .asked hlog rfl fun _ _ _ _ htail => ?_
        cases htail
        exact hnot
      rw [wp_bind, wp_raiseIf]
      refine ⟨fun hincomplete => hrefused fun htable => ?_, fun hcomplete => ?_⟩
      · rcases hincomplete with hstate | hempty
        · exact hstate htable.complete
        · exact htable.columns hempty
      rw [not_or] at hcomplete
      rw [wp_bind, wp_modify, wp_raiseIf]
      refine ⟨fun hnumeric => hrefused fun htable => ?_, fun hnumeric => ?_⟩
      · cases htable.numeric.symm.trans hnumeric
      · refine ⟨hsetting, hid, log, _, response, decoded, hlog, ?_,
          Decidable.not_not.mp hcomplete.1,
          hcomplete.2, Bool.not_eq_true _ ▸ hnumeric, rfl, hlog₂⟩
        rw [onSession_session]
        show IsMetadataGet c.session.origin c₁.session.queryId c₁.session.request
        rw [hid]
        exact hrequest
    · intro _ c₂ hfailed
      obtain ⟨-, answer, tail, hanswer, htail, hlog₂⟩ := hfailed
      rw [hlog₂, hlog₁, ← List.append_cons]
      refine .asked hlog (by exact htail) fun _ decoded _ _ hdecode => ?_
      cases hdecode
      exact absurd rfl (hanswer decoded)
  · intro _ c₁ hfailed
    obtain ⟨hlog, -⟩ := hfailed
    generalize c₁.log = log₁ at hlog ⊢
    cases hlog with
    | unsent before => exact .unasked before
    | refused before => exact .asked before rfl fun _ _ _ _ htail => by cases htail
    | failed before silent => exact .asked before silent fun _ _ _ hanswer => by cases hanswer

/-! ## Before the metadata -/

/-- The session of a query whose metadata was not requested yet. -/
structure Waits (setting : Setting) (s : Session) : Prop where
  constant : s.setting = setting
  id : s.queryId = [] ∨ isSafeQueryId s.queryId = true
  request : ∀ id, ¬ IsMetadataGet setting.origin id s.request

theorem Waits.sent {s s' : Session} (h : Waits setting s) (hsent : Sent s s') :
    Waits setting s' := by
  obtain ⟨_, _, _, rfl⟩ := hsent
  exact ⟨h.constant, h.id, fun id hget => h.request id ⟨hget.method, hget.url⟩⟩

/-- An id has no slash, so the address of a query is not that of its metadata. -/
theorem Waits.poll {s : Session} (h : Waits setting s) :
    Waits setting { s with request := s.getRequest s.queryUrl } := by
  refine ⟨h.constant, h.id, fun id hget => ?_⟩
  have hurl : setting.origin ++ queryPath ++ s.queryId
      = setting.origin ++ queryPath ++ id ++ ascii "/metadata" := by
    rw [← hget.url, ← h.constant]
    rfl
  rw [List.append_assoc _ id] at hurl
  have hslash : (47 : UInt8) ∈ s.queryId := by
    rw [List.append_cancel_left hurl]
    exact List.mem_append_right _ (by decide)
  rcases h.id with hempty | hsafe
  · rw [hempty] at hslash
    cases hslash
  · exact absurd ((queryId_of_isSafeQueryId hsafe).characters 47 hslash) (by decide)

theorem Waits.learns {s : Session} (h : Waits setting s) {response : QueryResponse} {id : Bytes}
    (hlearns : Learns s.queryId response id) : Waits setting { s with queryId := id } := by
  refine ⟨h.constant, ?_, h.request⟩
  rcases hlearns.safe with hsame | hsafe
  · exact hsame ▸ h.id
  · exact .inr hsafe

/-- A client whose session has not asked for its metadata. -/
abbrev Client.Waits (setting : Setting) : Client → Prop :=
  Ongoing (NoMetadataGet setting.origin) (Data360.Waits setting)

theorem idle_noMetadataGet (origin : Bytes) : Idle (NoMetadataGet origin) :=
  LastingOn.idle (lastingOn_sends fun r => ∀ id, ¬ IsMetadataGet origin id r)

theorem keeps_exchange_waits : Keeps (Client.Waits setting) (QueryApiV3Client.exchange env) := by
  have hidle := idle_noMetadataGet setting.origin
  have hsend : Keeps (Client.Waits setting) (send env) :=
    keeps_send_on (lastingOn_sends fun r => ∀ id, ¬ IsMetadataGet setting.origin id r)
      (fun _ h => h.request) fun _ _ h => h.sent
  have hremember (decoded : QueryResponse) : Keeps (Client.Waits setting)
      (rememberQueryId decoded) := by
    intro c hc
    refine wp_mono (wp_rememberQueryId decoded c) ?_ ?_ fun _ h => h.elim
    · rintro _ _ ⟨id, rfl, hlearned⟩
      exact ⟨hc.log, hc.session.learns hlearned.toLearns⟩
    · rintro _ _ ⟨id, rfl, hlearns⟩
      exact ⟨hc.log, hc.session.learns hlearns⟩
  exact keeps_bind hsend fun response => keeps_bind (keeps_decode hidle response) fun decoded =>
    keeps_bind (hremember decoded) fun _ => keeps_bind (keeps_checkActive hidle) fun _ =>
    keeps_pure _

/-! ## The rules -/

/-- A property of the id and the log that is kept by all that is no request and
no decoding. -/
structure Inert (A : Bytes → List QueryEvent → Prop) : Prop where
  looks : ∀ id, Looks (A id)
  sleeps : ∀ {id log milliseconds returned},
    A id log → A id (log ++ [.sleepMs milliseconds returned])

/-- What `PrepareInternal` hands out. -/
inductive TableEnd (A : Bytes → List QueryEvent → Prop) (setting : Setting) (c : Client) : Prop
  | direct (before : A c.session.queryId c.log) (noGet : NoMetadataGet setting.origin c.log)
  | numbered {log : List QueryEvent} {r : HttpRequest} {response : HttpResponse}
      {decoded : QueryResponse}
      (takes : Takes (fun log => NoMetadataGet setting.origin log ∧ A c.session.queryId log)
        setting.origin c log r response decoded)

section Rules

variable {A : Bytes → List QueryEvent → Prop}

/-- The metadata is asked for once, behind what `A` says of the other responses. -/
theorem openRules_table (inert : Inert A) :
    OpenRules env (fun c => c.Waits setting ∧ A c.session.queryId c.log)
      (fun c => c.session.setting = setting ∧ TableEnd A setting c)
      (fun _ c => NoTable setting.origin setting.options c.log) where
  fails _ c h := noTable_of_noGet h.1.log
  refuses decoded _ c h := noTable_of_noGet h.1.log
  direct decoded c h := ⟨h.1.session.constant, .direct h.2 h.1.log⟩
  columns _ c h hmany := by
    obtain ⟨hconstant, hend⟩ := h
    cases hend with
    | direct _ noGet => exact noTable_of_noGet noGet
    | numbered takes =>
        rw [takes.log_eq]
        refine noTable_of_last takes.before.1 rfl fun _ decoded' _ _ hdecode htable => ?_
        cases hdecode
        have hfew := htable.few
        rw [← takes.taken, ← hconstant] at hfew
        exact Nat.not_le.mpr hmany hfew
  numbered decoded c h _ _ := by
    obtain ⟨⟨hlog, hsession⟩, hbefore⟩ := h
    have hidle := idle_noMetadataGet setting.origin
    have hlooks : Looks fun log => NoMetadataGet setting.origin log ∧ A c.session.queryId log := by
      refine ⟨fun h => ⟨hidle.quiet h.1 trivial, (inert.looks _).flag h.2⟩,
        fun h => ⟨?_, (inert.looks _).clock h.2⟩⟩
      intro r hr
      rw [sends_append, sends_nowMs, sends_nil, List.append_nil] at hr
      exact h.1 r hr
    refine wp_mono (@wp_fetchMetadata_table _ setting.options _ hlooks
      (c.onSession _) ⟨hlog, hbefore⟩) ?_ ?_ fun _ h => h.elim
    · rintro _ c' ⟨hsetting, hid, log, r, response, metadata, takes⟩
      have horigin : c.session.origin = setting.origin :=
        congrArg Setting.origin hsession.constant
      refine ⟨hsetting.trans hsession.constant, ?_⟩
      rw [onSession_session] at hid takes
      have htakes : Takes (fun log => NoMetadataGet setting.origin log ∧ A c'.session.queryId log)
          setting.origin c' log r response metadata := by
        rw [hid]
        rw [show (QueryApiV3Client.numberedSession decoded c.session).origin = setting.origin from
          horigin] at takes
        exact takes
      exact .numbered htakes
    · exact fun _ _ h => h.noTable fun _ h => h.1

/-- The rules for a preparation, from one for `exchange`. -/
theorem prepareRules_table (inert : Inert A)
    (exchange : ∀ c : Client, c.session.setting = setting → A c.session.queryId c.log →
      wp (QueryApiV3Client.exchange env) (fun _ c' => A c'.session.queryId c'.log)
        (fun _ _ => True) (fun _ => True) c) :
    PrepareRules env (fun c => c.Waits setting ∧ A c.session.queryId c.log)
      (fun c => c.session.setting = setting ∧ TableEnd A setting c)
      (fun _ c => NoTable setting.origin setting.options c.log) where
  toOpenRules := openRules_table inert
  exchange c h := by
    refine wp_mono (wp_and (keeps_exchange_waits.total total_exchange h.1)
      (exchange c h.1.session.constant h.2)) (fun _ _ h => h) ?_ fun _ h => h.1.elim
    exact fun _ _ h => noTable_of_noGet h.1.log
  sleeps milliseconds c h := by
    have hslept (returned : Bool) :
        Client.Waits setting (c.record (.sleepMs milliseconds returned)) :=
      h.1.quiet (idle_noMetadataGet setting.origin) trivial
    exact wp_sleepMs ⟨hslept true, inert.sleeps h.2⟩ (noTable_of_noGet (hslept false).log)
  checks c h := by
    have hidle := idle_noMetadataGet setting.origin
    have hsame : Ongoing (A c.session.queryId) (·.queryId = c.session.queryId) c := ⟨h.2, rfl⟩
    refine wp_mono (wp_and ((keeps_checkActive hidle).total total_checkActive h.1)
      (keeps_checkActive_looks (inert.looks _) c hsame)) ?_ ?_ fun _ h => h.1.elim
    · intro _ c' h'
      obtain ⟨hwaits, hlog, hid⟩ := h'
      exact ⟨hwaits, hid ▸ hlog⟩
    · exact fun _ _ h => noTable_of_noGet h.1.log
  polls c h := ⟨⟨h.1.log, h.1.session.poll⟩, h.2⟩

/-- What `PrepareInternal` hands out, and that it leaves no table behind when it
does not.  A run that is cut off has done nothing since its last `exchange` that `A` looks
at. -/
theorem wp_prepareInternal_table {A : Setting → Bytes → List QueryEvent → Prop}
    (inert : ∀ setting, Inert (A setting))
    (exchange : ∀ (setting : Setting) (c : Client), c.session.setting = setting →
      A setting c.session.queryId c.log →
      wp (QueryApiV3Client.exchange env) (fun _ c' => A setting c'.session.queryId c'.log)
        (fun _ _ => True) (fun _ => True) c)
    (fuel : Nat) (sql : Bytes) (credentials : QueryCredentials) (metadataOnly : Bool)
    (options : QueryOptions)
    (start : ∀ flag now, A ⟨options, credentials, now⟩ [] [.isCancelled flag, .nowMs (some now)]) :
    wp (QueryApiV3Client.prepareInternal env fuel sql credentials metadataOnly options)
      (fun _ c' => ∃ setting : Setting, setting.Of options credentials ∧
        c'.session.setting = setting ∧ TableEnd (A setting) setting c' ∧
        c'.session.metadata.length ≤ options.maxColumns.toNat)
      (fun _ c' => NoTable (trimTrailingSlash credentials.instanceUrl) options c'.log)
      (fun c' => NoTable (trimTrailingSlash credentials.instanceUrl) options c'.log ∧
        ∃ setting, c'.session.setting = setting ∧ A setting c'.session.queryId c'.log) {} := by
  have hunsent (c : Client) (h : Unsent c) :
      NoTable (trimTrailingSlash credentials.instanceUrl) options c.log := by
    apply noTable_of_noGet
    intro r hr
    rw [sends_of_quiet h.log] at hr
    cases hr
  refine wp_prepareInternal_of_body (fun _ _ h => noTable_cancel h) (fun flag now => ?_)
    fun _ c _ h _ => hunsent c h
  have hpost : ascii "POST" ≠ ascii "GET" := by decide
  let setting : Setting := ⟨options, credentials, now⟩
  have rules := @prepareRules_table env _ _ (inert setting) (exchange setting)
  have hstart : Client.Waits setting
      { session :=
          { options, credentials
            startedAtMs := now
            request := QueryApiV3Client.submitRequest sql credentials metadataOnly options }
        log := [.isCancelled flag, .nowMs (some now)] } := by
    refine ⟨fun r hr => ?_, rfl, .inl rfl, fun _ hget => hpost hget.method⟩
    cases hr
  refine wp_mono (rules.wp_prepareBody ((leads_bind rules.exchange fun submitted =>
    rules.poll fuel submitted) _ ⟨hstart, start flag now⟩)) ?_ (fun _ _ h => h)
    fun _ h => ⟨noTable_of_noGet h.1.log, setting, h.1.session.constant, h.2⟩
  intro _ c' h
  obtain ⟨⟨hconstant, hend⟩, hfew⟩ := h
  have hown : c'.session.options = options := congrArg Setting.options hconstant
  exact ⟨setting, ⟨rfl, rfl⟩, hconstant, hend, hown ▸ hfew⟩

end Rules

end Data360
