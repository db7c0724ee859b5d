import Data360.QueryApi.Metadata
import Data360.QueryApi.Sticky

/-!
# The identity of a query

A session learns its id from the responses, and `RememberQueryId` refuses a
response that names another one.  It is called behind every response but the
metadata.

* `Foreign` says that a response names another query, and `ForeignSince` that
  one was decoded.
* `identity_kept_iff` is the result: the only foreign response that is used is
  the metadata.
-/

namespace Data360

open Lib Lib.ByteString Lib.Prog Session

variable {env : QueryEnv} {setting : Setting} {base log : List QueryEvent}

/-! ## Responses of other queries -/

/-- The response names a query other than `id`, by its own id or by the path of
the next chunk. -/
def Foreign (id : Bytes) (decoded : QueryResponse) : Prop :=
  (decoded.queryId ≠ [] ∧ decoded.queryId ≠ id) ∨
    (isSafeChunkPath decoded.chunk.nextUrl = true ∧
      queryIdFromChunkPath decoded.chunk.nextUrl ≠ id)

instance (id : Bytes) (decoded : QueryResponse) : Decidable (Foreign id decoded) :=
  inferInstanceAs (Decidable (_ ∨ _))

/-- A response that is not foreign to a session without id names no query. -/
theorem not_foreign_of_learned {old new : Bytes} {decoded : QueryResponse}
    (h : ¬ Foreign old decoded) (hkept : old ≠ [] → new = old) : ¬ Foreign new decoded := by
  by_cases hold : old = []
  · subst hold
    rintro (⟨hown, -⟩ | ⟨hpath, -⟩)
    · exact h (.inl ⟨hown, hown⟩)
    · obtain ⟨_, hsafe, -⟩ := chunkPath_form hpath
      exact h (.inr ⟨hpath, ne_nil_of_isSafeQueryId hsafe⟩)
  · rw [hkept hold]
    exact h

/-- A response that was learned is not foreign. -/
theorem Learned.not_foreign {old new : Bytes} {response : QueryResponse}
    (h : Learned old response new) : ¬ Foreign new response := by
  rintro (⟨hown, hother⟩ | ⟨hpath, hother⟩)
  · exact hother (h.own hown).symm
  · exact hother (h.path hpath).symm

/-- Between two logs, a response was decoded that names a query other than `id`. -/
def ForeignSince (id : Bytes) (base log : List QueryEvent) : Prop :=
  ∃ past response decoded, base <+: past ∧
    past ++ [.decode response (.response decoded)] <+: log ∧ Foreign id decoded

/-- Nothing is decoded before a call begins. -/
theorem not_foreignSince_self (id : Bytes) (log : List QueryEvent) : ¬ ForeignSince id log log := by
  rintro ⟨past, response, decoded, hbase, hdecoded, -⟩
  have hlength := (hdecoded.trans hbase).length_le
  rw [List.length_append] at hlength
  exact Nat.not_succ_le_self _ hlength

/-- One more event brings a foreign response only when it is one. -/
theorem ForeignSince.before {id : Bytes} {e : QueryEvent} (h : ForeignSince id base (log ++ [e]))
    (he : ∀ response decoded, e = .decode response (.response decoded) → ¬ Foreign id decoded) :
    ForeignSince id base log := by
  obtain ⟨past, response, decoded, hbase, hdecoded, hforeign⟩ := h
  rcases List.prefix_concat_iff.mp hdecoded with hsame | hpast
  · obtain ⟨-, hlast⟩ := List.append_inj' hsame rfl
    exact absurd hforeign (he response decoded (List.cons.inj hlast).1.symm)
  · exact ⟨past, response, decoded, hbase, hpast, hforeign⟩

/-- No response since `base` is foreign. -/
def NoForeign (base : List QueryEvent) (id : Bytes) (log : List QueryEvent) : Prop :=
  ¬ ForeignSince id base log

theorem noForeign_self : NoForeign [] [] [] := not_foreignSince_self [] []

theorem NoForeign.concat {id : Bytes} {e : QueryEvent} (h : NoForeign base id log)
    (he : ∀ response answer, e ≠ .decode response answer) : NoForeign base id (log ++ [e]) :=
  fun hforeign => h (hforeign.before fun _ _ hdecode => absurd hdecode (he _ _))

theorem NoForeign.learns {old new : Bytes} (h : NoForeign base old log)
    (hkept : old ≠ [] → new = old) : NoForeign base new log := by
  rintro ⟨past, response, decoded, hbase, hdecoded, hforeign⟩
  refine h ⟨past, response, decoded, hbase, hdecoded, ?_⟩
  by_contra hold
  exact not_foreign_of_learned hold hkept hforeign

/-- A response that was decoded and learned. -/
theorem NoForeign.learned {old new : Bytes} {http : HttpResponse} {response : QueryResponse}
    (h : NoForeign base old log) (hlearned : Learned old response new) :
    NoForeign base new (log ++ [.decode http (.response response)]) := by
  intro hforeign
  refine h.learns hlearned.kept (hforeign.before fun _ _ hdecode => ?_)
  cases hdecode
  exact hlearned.not_foreign

theorem inert_noForeign (base : List QueryEvent) : Inert (NoForeign base) where
  looks _ := ⟨fun h => h.concat (by simp), fun h => h.concat (by simp)⟩
  sleeps h := h.concat (by simp)

/-! ## The operations -/

/-- A session that was told of no other query since `base`. -/
def Client.Own (base : List QueryEvent) (c : Client) : Prop :=
  NoForeign base c.session.queryId c.log

theorem leads_checkActive_own :
    Leads (Client.Own base) (fun _ _ => True) (checkActive env) := by
  intro c h
  have hsame : Ongoing (NoForeign base c.session.queryId) (·.queryId = c.session.queryId) c :=
    ⟨h, rfl⟩
  have hown (c' : Client) (h' : Ongoing (NoForeign base c.session.queryId)
      (·.queryId = c.session.queryId) c') : c'.Own base := by
    obtain ⟨hlog, hid⟩ := h'
    rw [Client.Own, hid]
    exact hlog
  exact wp_mono (keeps_checkActive_looks ((inert_noForeign base).looks _) c hsame)
    (fun _ => hown) (fun _ _ _ => trivial) hown

theorem wp_send_own {c : Client} (h : c.Own base) :
    wp (send env) (fun _ => Client.Own base) (fun _ _ => True) (fun _ => False) c := by
  have hsame : Ongoing (NoForeign base c.session.queryId) (·.queryId = c.session.queryId) c :=
    ⟨h, rfl⟩
  refine wp_mono (wp_send_log ((inert_noForeign base).looks _) ?_ hsame) ?_
    (fun _ _ _ => trivial) fun _ h => h
  · rintro s _ hid ⟨_, _, _, rfl⟩
    exact hid
  · rintro response c' ⟨hid, log, hlog, hsent⟩
    rw [Client.Own, hid, hsent]
    exact hlog.concat (by simp)

/-- The response that `rememberQueryId` is about to learn. -/
def Learnable (base : List QueryEvent) (response : QueryResponse) (c : Client) : Prop :=
  ∀ new, Learned c.session.queryId response new → NoForeign base new c.log

theorem wp_fetch_own {c : Client} (h : c.Own base) :
    wp (do
        let response ← send env
        decode env response)
      (fun decoded => Learnable base decoded) (fun _ _ => True) (fun _ => False) c := by
  rw [wp_bind]
  refine wp_mono (wp_send_own h) (fun response c₁ h₁ => ?_) (fun _ _ h => h) fun _ h => h
  refine wp_mono (wp_and (wp_decode_log response c₁) (total_decode response c₁)) ?_
    (fun _ _ _ => trivial) fun _ h => h.2
  rintro decoded _ ⟨rfl, -⟩
  exact fun new hlearned => NoForeign.learned h₁ hlearned

theorem wp_remember_own {response : QueryResponse} {c : Client} (h : Learnable base response c) :
    wp (rememberQueryId response) (fun _ => Client.Own base) (fun _ _ => True) (fun _ => False)
      c := by
  refine wp_mono (wp_rememberQueryId response c) ?_ (fun _ _ _ => trivial) fun _ h => h
  rintro _ _ ⟨id, rfl, hlearned⟩
  exact h id hlearned

theorem leads_exchange_own :
    Leads (Client.Own base) (fun _ _ => True) (QueryApiV3Client.exchange env) := by
  intro c h
  have hfetch := @wp_fetch_own env _ _ h
  rw [wp_bind] at hfetch
  rw [QueryApiV3Client.exchange, wp_bind]
  refine wp_mono hfetch (fun response c₁ h₁ => ?_) (fun _ _ h => h) fun _ h => h.elim
  rw [wp_bind]
  refine wp_mono h₁ (fun decoded c₂ h₂ => ?_) (fun _ _ h => h) fun _ h => h.elim
  rw [wp_bind]
  refine wp_mono (wp_remember_own h₂) (fun _ c₃ h₃ => ?_) (fun _ _ h => h) fun _ h => h.elim
  exact leads_bind leads_checkActive_own (fun _ => leads_pure _) c₃ h₃

theorem wp_deliver_own {response : QueryResponse} {c : Client} (h : Learnable base response c) :
    wp (QueryCursor.deliver env response) (fun _ => Client.Own base) (fun _ _ => True)
      (Client.Own base) c := by
  rw [QueryCursor.deliver, wp_bind]
  refine wp_mono (wp_remember_own h) (fun _ c₁ h₁ => ?_) (fun _ _ h => h) fun _ h => h.elim
  rw [wp_bind]
  refine wp_mono (leads_checkActive_own c₁ h₁) (fun _ c₂ h₂ => ?_) (fun _ _ h => h) fun _ h => h
  rw [wp_bind]
  refine wp_mono (wp_accept response c₂) ?_ (fun _ _ _ => trivial) fun _ h => h.elim
  rintro chunk _ ⟨-, -, cells, rfl⟩
  rw [wp_bind, wp_modify, wp_pure, Client.Own, onSession_session]
  unfold QueryCursor.follow
  split
  · exact h₂
  · exact h₂

theorem wp_fetchDeliver_own {f : Session → Session} {c : Client} (h : (c.onSession f).Own base) :
    wp (do
        let response ← (do
          modify f
          let response ← send env
          decode env response : Query QueryResponse)
        QueryCursor.deliver env response)
      (fun _ => Client.Own base) (fun _ _ => True) (Client.Own base) c := by
  rw [wp_bind, wp_bind, wp_modify]
  exact wp_mono (wp_fetch_own h) (fun response c₁ h₁ => wp_deliver_own h₁) (fun _ _ h => h)
    fun _ h => h.elim

/-- The rules for the calls on a cursor. -/
theorem cursorRules_own (base : List QueryEvent) :
    CursorRules env (Client.Own base) (Client.Own base) (fun _ _ => True) where
  fails _ _ _ := trivial
  cancels _ _ _ := trivial
  numbered c h _ _ _ := wp_fetchDeliver_own (f := QueryCursor.numberedRequest) h
  buffered response c h _ _ _ := wp_deliver_own fun _ hlearned => NoForeign.learns h hlearned.kept
  direct c h _ _ _ := by
    rw [wp_bind, QueryCursor.fetchDirect, wp_bind, wp_look, wp_bind, wp_raiseIf]
    refine ⟨fun _ => trivial, fun _ => ?_⟩
    rw [← wp_bind]
    refine wp_fetchDeliver_own (f := QueryCursor.directRequest) (NoForeign.learns h fun hid => ?_)
    exact if_neg hid
  finishes α c h _ := wp_finished_of (fun _ => ⟨rfl, h⟩) fun _ _ => trivial
  arrow c h _ _ _ := by
    have hasked : (c.onSession QueryCursor.arrowRequest).Own base := h
    rw [QueryCursor.fetchArrow, wp_bind, wp_modify, wp_bind]
    refine wp_mono (wp_send_own hasked) (fun response c₁ h₁ => ?_) (fun _ _ h => h)
      fun _ h => h.elim
    rw [wp_ite]
    refine ⟨fun _ => ?_, fun _ => ?_⟩
    · rw [wp_bind]
      exact wp_mono (wp_arrowFailed_throws response c₁) (fun _ _ h => h.elim) (fun _ _ h => h)
        fun _ h => h.elim
    · rw [wp_bind]
      exact wp_mono (leads_checkActive_own c₁ h₁) (fun _ _ h => h) (fun _ _ h => h) fun _ h => h
  checks := leads_checkActive_own
  reports decodedRows c h _ := by
    rw [QueryCursor.reportBody, wp_bind]
    refine wp_mono (leads_checkActive_own c h) ?_ (fun _ _ h => h) fun _ h => h
    intro _ c₁ h₁
    simp only [wp_bind, wp_look, wp_raiseIf, wp_modify]
    exact ⟨fun _ => trivial, fun _ => ⟨fun _ => trivial, fun _ => h₁⟩⟩

/-! ## An id that is known -/

section Known

variable {id : Bytes} (hid : id ≠ [])

include hid

theorem prepareRules_id :
    PrepareRules env (Client.HasId id) (Client.HasId id) (fun _ => Client.HasId id) where
  fails _ _ h := h
  refuses _ _ _ h := ⟨trivial, h.session⟩
  direct _ _ h := ⟨trivial, h.session⟩
  columns _ _ h _ := h
  polls _ h := ⟨trivial, h.session⟩
  sleeps milliseconds := keeps_sleepMs lasting_true.idle milliseconds
  checks := keeps_checkActive lasting_true.idle
  numbered decoded c h _ _ := by
    have hfetch : Keeps (Client.HasId id) (QueryApiV3Client.fetchMetadata env) :=
      keeps_bind (keeps_modify fun _ h => h) fun _ =>
        keeps_bind (keeps_send_lasting lasting_true fun _ _ _ h => h) fun response =>
        keeps_bind (keeps_decode lasting_true.idle response) fun _ =>
        keeps_bind (keeps_raiseIf _ _) fun _ =>
        keeps_bind (keeps_modify fun _ h => h) fun _ => keeps_raiseIf _ _
    exact hfetch _ ⟨trivial, h.session⟩
  exchange := by
    have hexchange : Keeps (Client.HasId id) (QueryApiV3Client.exchange env) :=
      keeps_bind (keeps_send_lasting lasting_true fun _ _ _ h => h) fun response =>
        keeps_bind (keeps_decode lasting_true.idle response) fun decoded =>
        keeps_bind (keeps_rememberQueryId hid decoded) fun _ =>
        keeps_bind (keeps_checkActive lasting_true.idle) fun _ => keeps_pure _
    exact hexchange

theorem cursorRules_id :
    CursorRules env (Client.HasId id) (Client.HasId id) (fun _ => Client.HasId id) where
  fails _ _ h := h
  cancels _ c h := ⟨trivial, (cancel_queryId c).trans h.session⟩
  numbered c h _ _ _ := by
    have hfetch : Keeps (Client.HasId id) (QueryCursor.fetchNumbered env) :=
      keeps_bind (keeps_modify fun _ h => h) fun _ => keeps_sendDecode_id id
    exact keeps_bind hfetch (fun response => keeps_deliver_id hid response) c h
  buffered response c h _ _ _ := keeps_deliver_id hid response _ ⟨trivial, h.session⟩
  direct c h _ _ _ := by
    have hfetch : Keeps (Client.HasId id) (QueryCursor.fetchDirect env) := by
      refine keeps_bind (keeps_look _) fun _ => keeps_bind (keeps_raiseIf _ _) fun _ =>
        keeps_bind (keeps_modify fun s hs => ?_) fun _ => keeps_sendDecode_id id
      have hne : s.queryId ≠ [] := hs ▸ hid
      exact (if_neg hne).trans hs
    exact keeps_bind hfetch (fun response => keeps_deliver_id hid response) c h
  finishes α c h _ := wp_finished_of (fun _ => ⟨rfl, trivial, h.session⟩) fun _ _ => h
  arrow c h _ _ _ := by
    have hfetch : Keeps (Client.HasId id) (QueryCursor.fetchArrow env) := by
      refine keeps_bind (keeps_modify fun _ h => h) fun _ =>
        keeps_bind (keeps_send_lasting lasting_true fun _ _ _ h => h) fun response =>
        keeps_ite _
          (keeps_bind (keeps_arrowFailed lasting_true.idle response) fun _ => keeps_pure _) ?_
      exact keeps_bind (keeps_checkActive lasting_true.idle) fun _ =>
        keeps_bind (keeps_modify fun _ h => h) fun _ => keeps_pure _
    exact hfetch c h
  checks := keeps_checkActive lasting_true.idle
  reports decodedRows c h _ := by
    have hreport : Keeps (Client.HasId id) (QueryCursor.reportBody env decodedRows) :=
      keeps_bind (keeps_checkActive lasting_true.idle) fun _ => keeps_bind (keeps_look _) fun _ =>
        keeps_bind (keeps_raiseIf _ _) fun _ => keeps_bind (keeps_raiseIf _ _) fun _ =>
        keeps_modify fun _ h => h
    exact hreport c h

/-- Calls on handles keep an id that is known. -/
theorem handles_keep_id (w : QueryWorld) (calls : List HandleCall)
    (h : w.client.session.queryId = id) :
    ((handleMachine env).run w calls).client.session.queryId = id := by
  have hends (c : Client) (h : c.HasId id) : (cancel env c).HasId id :=
    ⟨trivial, (cancel_queryId c).trans h.session⟩
  have hcalls (call : CursorCall) : Keeps (Client.HasId id) (call.program env) :=
    (cursorRules_id hid).cursorCall (fun _ h => h) call
  have hrun := (handleMachine env).run_keeps
    (I := fun w => if w.owner.isSome then w.client.HasId id else w.client.HasId id)
    (fun w call h => handles_keep_of_calls hcalls hends h call) (s := w)
    (by rw [ite_self]; exact ⟨trivial, h⟩) calls
  rw [ite_self] at hrun
  exact hrun.session

end Known

/-! ## The result -/

/-- A session that has an id keeps it: in the parts of `PrepareInternal` and in
all calls on handles. -/
structure KeepsIdentity (env : QueryEnv) (id : Bytes) : Prop where
  exchange : Keeps (Client.HasId id) (QueryApiV3Client.exchange env)
  poll : ∀ fuel decoded, Keeps (Client.HasId id) (QueryApiV3Client.poll env fuel decoded)
  opens : ∀ decoded, Keeps (Client.HasId id) (QueryApiV3Client.openCompleted env decoded)
  handles : ∀ (w : QueryWorld) (calls : List HandleCall), w.client.session.queryId = id →
    ((handleMachine env).run w calls).client.session.queryId = id

theorem keepsIdentity {id : Bytes} (hid : id ≠ []) : KeepsIdentity env id where
  exchange := (prepareRules_id hid).exchange
  poll fuel decoded := (prepareRules_id hid).poll fuel decoded
  opens decoded _ h := (prepareRules_id hid).openCompleted decoded h
  handles w calls h := handles_keep_id hid w calls h

/-- The metadata of a query came as a usable table that names another query. -/
def ForeignTable (origin : Bytes) (options : QueryOptions) (c : Client) : Prop :=
  ∃ past r response id decoded, TableArrives origin options c.log past r response id decoded ∧
    Foreign id decoded

/-- The table that comes is the one that is taken over. -/
theorem Takes.arrives {L : List QueryEvent → Prop} {origin : Bytes} {options : QueryOptions}
    {c : Client} {log past : List QueryEvent} {r r' : HttpRequest}
    {response response' : HttpResponse}
    {id : Bytes} {decoded decoded' : QueryResponse} (h : Takes L origin c log r response decoded)
    (hL : ∀ log, L log → NoMetadataGet origin log)
    (harrives : TableArrives origin options c.log past r' response' id decoded') :
    id = c.session.queryId ∧ decoded' = decoded := by
  have harrived := harrives.arrived
  rw [h.log_eq, List.append_cons past, List.append_cons log] at harrived
  rcases List.prefix_concat_iff.mp harrived with hsame | hearlier
  · obtain ⟨hsent, hdecoded⟩ := List.append_inj' hsame rfl
    obtain ⟨-, hsent⟩ := List.append_inj' hsent rfl
    cases hsent
    cases hdecoded
    have hurl := harrives.request.url.symm.trans h.request.url
    rw [List.append_left_inj, List.append_right_inj] at hurl
    exact ⟨hurl, rfl⟩
  · rcases List.prefix_concat_iff.mp hearlier with hsame | hbefore
    · obtain ⟨-, hlast⟩ := List.append_inj' hsame rfl
      cases hlast
    · obtain ⟨rest, rfl⟩ := hbefore
      refine absurd harrives.request (hL _ h.before r' ?_ id)
      simp

/-- The table that is taken over is a response of the call. -/
theorem Takes.foreignSince {L : List QueryEvent → Prop} {origin id : Bytes} {c : Client}
    {log : List QueryEvent} {r : HttpRequest} {response : HttpResponse} {decoded : QueryResponse}
    (h : Takes L origin c log r response decoded) (hforeign : Foreign id decoded) :
    ForeignSince id [] c.log := by
  refine ⟨log ++ [.send r (some response)], response, decoded, List.nil_prefix, ?_, hforeign⟩
  rw [h.log_eq, List.append_assoc]
  exact List.prefix_refl _

/-- Where a query takes over its metadata, the only response that may be foreign is the
metadata. -/
theorem Takes.foreignTable {origin : Bytes} {options : QueryOptions} {c : Client}
    {log : List QueryEvent} {r : HttpRequest} {response : HttpResponse} {decoded : QueryResponse}
    (h : Takes (fun log => NoMetadataGet origin log ∧ NoForeign [] c.session.queryId log) origin c
      log r response decoded)
    (hfew : c.session.metadata.length ≤ options.maxColumns.toNat)
    (hforeign : ForeignSince c.session.queryId [] c.log) : ForeignTable origin options c := by
  obtain ⟨past, http, other, hbase, hdecoded, hother⟩ := hforeign
  rw [h.log_eq, List.append_cons log] at hdecoded
  rcases List.prefix_concat_iff.mp hdecoded with hsame | hearlier
  · obtain ⟨-, hlast⟩ := List.append_inj' hsame rfl
    cases hlast
    refine ⟨log, r, response, c.session.queryId, decoded, ⟨h.request, ?_, ?_⟩, hother⟩
    · exact ⟨h.complete, h.columns, h.numeric, h.taken ▸ hfew⟩
    · rw [h.log_eq]
  · rcases List.prefix_concat_iff.mp hearlier with hsame | hbefore
    · obtain ⟨-, hlast⟩ := List.append_inj' hsame rfl
      cases hlast
    · exact absurd ⟨past, http, other, hbase, hbefore, hother⟩ h.before.2

/-- A session has no id or a safe one, and keeps the id that it has.  `Prepare` throws
after every response that names another query exactly when no usable metadata does, and a
call on a cursor always does. -/
theorem identity_kept_iff (env : QueryEnv) (sql : Bytes) (credentials : QueryCredentials)
    (options : QueryOptions) :
    (∀ alive c, QueryRun env sql credentials options alive c →
      c.session.queryId = [] ∨ isSafeQueryId c.session.queryId = true) ∧
    (∀ id, id ≠ [] → KeepsIdentity env id) ∧
    (∀ fuel metadataOnly outcome c,
      QueryApiV3Client.prepareInternal env fuel sql credentials metadataOnly options {}
        = (outcome, c) →
      ((ForeignSince c.session.queryId [] c.log → ∃ e, outcome = .raise e) ↔
        ¬ ForeignTable (trimTrailingSlash credentials.instanceUrl) options c)) ∧
    ∀ (call : CursorCall) c outcome c', call.program env c = (outcome, c') →
      ForeignSince c'.session.queryId c.log c'.log → ∃ e, outcome = .raise e := by
  refine ⟨fun alive c run => ?_, fun _ => keepsIdentity, fun fuel metadataOnly outcome c run => ?_,
    fun call c outcome c' run hforeign => ?_⟩
  · rcases queryRun_leaves run with ⟨-, hunsent⟩ | ⟨setting, -, hsound⟩
    · exact .inl hunsent.id
    · exact hsound.client.session.id
  · have hprepare := @wp_prepareInternal_table env _ (fun _ => inert_noForeign [])
      (fun _ c _ h => wp_mono (leads_exchange_own c h) (fun _ _ h => h) (fun _ _ h => h)
        fun _ _ => trivial)
      fuel sql credentials metadataOnly options fun flag now =>
        (noForeign_self.concat (e := .isCancelled flag) (by simp)).concat (by simp)
    rw [wp_iff] at hprepare
    obtain ⟨hret, hraise, hcut⟩ := hprepare
    refine ⟨fun hthrows htable => ?_, fun htable hforeign => ?_⟩
    · obtain ⟨past, r, response, id, decoded, harrives, hforeign⟩ := htable
      cases outcome with
      | raise e => exact hraise e c run _ _ _ _ _ harrives
      | cut => exact (hcut c run).1 _ _ _ _ _ harrives
      | ret =>
          obtain ⟨setting, hof, -, hend, -⟩ := hret () c run
          have horigin := hof.origin
          rw [← horigin] at harrives
          cases hend with
          | direct _ noGet => exact noTable_of_noGet noGet _ _ _ _ _ harrives
          | @numbered log r' response' decoded' takes =>
              obtain ⟨rfl, rfl⟩ := takes.arrives (fun _ h => h.1) harrives
              obtain ⟨e, hthrown⟩ := hthrows (takes.foreignSince hforeign)
              cases hthrown
    · cases outcome with
      | raise e => exact ⟨e, rfl⟩
      | cut =>
          obtain ⟨-, setting, -, hnone⟩ := hcut c run
          exact absurd hforeign hnone
      | ret =>
          obtain ⟨setting, hof, -, hend, hfew⟩ := hret () c run
          cases hend with
          | direct before _ => exact absurd hforeign before
          | @numbered log r response decoded takes =>
              rw [← hof.origin] at htable
              exact absurd (takes.foreignTable hfew hforeign) htable
  · cases outcome with
    | ret value =>
        have hown := (wp_iff.mp ((cursorRules_own c.log).cursorCall (fun _ h => h) call c
          (not_foreignSince_self _ _))).1 value c' run
        exact absurd hforeign hown
    | raise e => exact ⟨e, rfl⟩
    | cut => exact ((wp_iff.mp (total_cursorCall call c)).2.2 c' run).elim

/-! ## A response of another query -/

/-- The event is the decoding of a response that names a query other than `id`. -/
def QueryEvent.namesOther (id : Bytes) : QueryEvent → Bool
  | .decode _ (.response decoded) => decide (Foreign id decoded)
  | _ => false

theorem foreignSince_of_get {id : Bytes} {n : Nat} (hbase : base <+: log)
    (hlater : base.length ≤ n) (h : log[n]?.any (QueryEvent.namesOther id) = true) :
    ForeignSince id base log := by
  cases hevent : log[n]? with
  | none => simp [hevent] at h
  | some e =>
      have htake : log.take (n + 1) = log.take n ++ [e] := by
        rw [List.take_add_one, hevent]
        rfl
      rw [hevent] at h
      cases e with
      | decode http answer =>
          cases answer with
          | response decoded =>
              exact ⟨log.take n, http, decoded, List.prefix_take_iff.mpr ⟨hbase, hlater⟩,
                htake ▸ List.take_prefix _ _, of_decide_eq_true h⟩
          | reauthRequired | failure => cases h
      | send | isCancelled | nowMs | sleepMs => cases h

/-- Surroundings that answer from this request on with the responses of a second query; the
second request is for the metadata, and the third one for a chunk. -/
def mixedUpAt (request : Nat) : QueryEnv :=
  scriptedEnv (fun _ => 0) (fun _ => some { status := 200 }) fun n =>
    .response
      { state := .complete
        queryId := if n < request then ascii "q1" else ascii "q2"
        chunkCount := 1
        hasChunkCount := true
        metadata :=
        if n = 1 then [] else [⟨ascii "id", ascii "bigint", false, false, false, 0, 0⟩] }

/-- The first query, prepared in them. -/
def mixedUpPrepared (request : Nat) : Outcome QueryError Unit × Client :=
  QueryApiV3Client.prepareInternal (mixedUpAt request) 1 (ascii "SELECT 1") sampleCredentials
    false {} {}

theorem foreignSince_mixedUpPrepared :
    ForeignSince (mixedUpPrepared 2).2.session.queryId [] (mixedUpPrepared 2).2.log :=
  foreignSince_of_get (n := 13) List.nil_prefix (Nat.zero_le _) (by decide +kernel)

/-- It is handed out with the columns of the second one. -/
theorem foreign_metadata_used :
    QueryOptions.Valid {} ∧
      ForeignSince (mixedUpPrepared 2).2.session.queryId [] (mixedUpPrepared 2).2.log ∧
      (mixedUpPrepared 2).1 = .ret () ∧ (mixedUpPrepared 2).2.session.queryId = ascii "q1" ∧
      (mixedUpPrepared 2).2.session.metadata.length = 1 :=
  ⟨by decide, foreignSince_mixedUpPrepared, by decide +kernel, by decide +kernel,
    by decide +kernel⟩

/-- The metadata was usable; with a chunk of the second query the call throws, and the
session has the id of the first one as before. -/
theorem identity_kept_mixed_up :
    ForeignTable (trimTrailingSlash sampleCredentials.instanceUrl) {} (mixedUpPrepared 2).2 ∧
      (∃ e, (CursorCall.nextChunk.program (mixedUpAt 3) (mixedUpPrepared 3).2).1 = .raise e) ∧
      ((handleMachine (mixedUpAt 3)).run ⟨(mixedUpPrepared 3).2, some (.prepared 0)⟩
        [.openCursor 0 0, .cursorCall 0 .nextChunk]).client.session.queryId = ascii "q1" ∧
      isSafeQueryId (mixedUpPrepared 3).2.session.queryId = true := by
  have hused : mixedUpPrepared 2 = (.ret (), (mixedUpPrepared 2).2) :=
    run_eq_of_fst (by decide +kernel)
  have hprepared : mixedUpPrepared 3 = (.ret (), (mixedUpPrepared 3).2) :=
    run_eq_of_fst (by decide +kernel)
  have hid : (mixedUpPrepared 3).2.session.queryId = ascii "q1" := by decide +kernel
  have run : QueryRun (mixedUpAt 3) (ascii "SELECT 1") sampleCredentials {} true
      (mixedUpPrepared 3).2 :=
    @QueryRun.handled (mixedUpAt 3) _ _ _ 1 false _ 0 hprepared []
  obtain ⟨-, -, hprepare, -⟩ :=
    identity_kept_iff (mixedUpAt 2) (ascii "SELECT 1") sampleCredentials {}
  obtain ⟨hsafe, hkeeps, -, hcalls⟩ :=
    identity_kept_iff (mixedUpAt 3) (ascii "SELECT 1") sampleCredentials {}
  refine ⟨?_, ?_, (hkeeps _ (by decide)).handles _ _ hid, ?_⟩
  · by_contra hnone
    obtain ⟨e, he⟩ := (hprepare 1 false _ _ hused).mpr hnone foreignSince_mixedUpPrepared
    cases he
  · have hlog := log_prefix_of_keeps (CursorCall.nextChunk.program (mixedUpAt 3))
      (fun hL => (cursorRules_lasting hL).cursorCall (fun _ h => h) .nextChunk)
      (mixedUpPrepared 3).2
    exact hcalls .nextChunk _ _ _ Prod.mk.eta.symm
      (foreignSince_of_get (n := 18) hlog (by decide +kernel) (by decide +kernel))
  · refine (hsafe _ _ run).resolve_left ?_
    rw [hid]
    decide

end Data360
