import Data360.QueryApi.Rules

/-!
# The invariant of a session

`Working` is what holds of a session that may still send: its request stays
with the tenant, its id is safe, and a chunk path that it will follow belongs
to an id that it knows.  `Client.Sound` adds the log, and also covers a session
that is reconciled or has been cancelled.

* `cancel_sound` and `cancel_closed` are the specification of `cancel`.
* `keeps_cursorCall` says that every call on a cursor keeps a client sound.
-/

namespace Data360

open Lib Lib.ByteString Lib.Prog Session

variable {env : QueryEnv} {setting : Setting}

/-! ## The invariant -/

/-- A response that names no query. -/
structure Anonymous (response : QueryResponse) : Prop where
  id : response.queryId = []
  path : isSafeChunkPath response.chunk.nextUrl = false

/-- The invariant of a session. -/
structure Session.Sound (setting : Setting) (s : Session) : Prop where
  constant : s.setting = setting
  trusted : isTrustedTenantUrl setting.credentials.instanceUrl = true
  request : SessionRequest setting s.request
  id : s.queryId = [] ∨ isSafeQueryId s.queryId = true
  numbered : s.mode = .numberedV3 → s.queryId ≠ [] ∧ s.bufferedDirect = none
  buffered : ∀ response, s.bufferedDirect = some response →
    s.nextUrl = [] ∧ s.rows = 0 ∧ (s.queryId = [] → Anonymous response)
  chain : isSafeChunkPath s.nextUrl = true → s.queryId ≠ []
  arrow : s.arrowResponseOutstanding = true → s.mode = .numberedV3 ∧ s.reconciled = false

/-- A session that may still send. -/
structure Working (setting : Setting) (s : Session) : Prop extends Session.Sound setting s where
  active : s.terminal = false
  open' : s.reconciled = false
  idle : s.arrowResponseOutstanding = false

/-- The id that the session has cleaned up. -/
def Session.closedBy (s : Session) : Option Bytes :=
  if s.terminal = true ∧ s.reconciled = false then some s.queryId else none

/-- The invariant of a session and its log. -/
structure Client.Sound (setting : Setting) (c : Client) : Prop where
  session : c.session.Sound setting
  log : QueryLog setting c.session.closedBy c.log

/-- A client whose session may still send. -/
abbrev Client.Working (setting : Setting) : Client → Prop :=
  Ongoing (QueryLog setting none) (Data360.Working setting)

theorem Client.Working.sound {c : Client} (h : c.Working setting) : c.Sound setting := by
  refine ⟨h.session.toSound, ?_⟩
  rw [Session.closedBy, if_neg (by simp [h.session.active])]
  exact h.log

theorem Client.Sound.log_of_active {c : Client} (h : c.Sound setting)
    (hactive : c.session.terminal = false) : QueryLog setting none c.log := by
  have hlog := h.log
  rw [Session.closedBy, if_neg (by simp [hactive])] at hlog
  exact hlog

theorem Client.Sound.working {c : Client} (h : c.Sound setting)
    (hactive : c.session.terminal = false) (hopen : c.session.reconciled = false)
    (hidle : c.session.arrowResponseOutstanding = false) : c.Working setting :=
  ⟨h.log_of_active hactive, { h.session with active := hactive, open' := hopen, idle := hidle }⟩

theorem Session.Sound.safe {s : Session} (h : s.Sound setting) (hid : s.queryId ≠ []) :
    isSafeQueryId s.queryId = true := h.id.resolve_left hid

/-! ## Cancelling -/

theorem cleanup_cancellation {s : Session} (h : s.Sound setting)
    (hid : isSafeQueryId s.queryId = true) : Cleanup setting s.queryId s.cancellation where
  safe := hid
  method := rfl
  url := by rw [← h.constant]; rfl
  cleanupRequest := rfl
  timeoutMs := by rw [← h.constant]; rfl
  followRedirects := h.request.followRedirects

/-- `cancel` keeps the id and whether the session is reconciled. -/
theorem cancel_queryId (c : Client) : (cancel env c).session.queryId = c.session.queryId := by
  unfold cancel
  split <;> rfl

theorem cancel_reconciled (c : Client) :
    (cancel env c).session.reconciled = c.session.reconciled := by
  unfold cancel
  split <;> rfl

/-- A session that has an id and is not reconciled is terminal after `cancel`. -/
theorem cancel_terminal {c : Client} (hsafe : isSafeQueryId c.session.queryId = true)
    (hopen : c.session.reconciled = false) : (cancel env c).session.terminal = true := by
  unfold cancel
  split
  · rename_i h
    simpa [hsafe, hopen] using h
  · rfl

/-- A session without an id is left alone by `cancel`. -/
theorem cancel_of_empty {c : Client} (hid : c.session.queryId = []) : cancel env c = c := by
  have hempty : isSafeQueryId [] = false := by decide
  rw [cancel, if_pos (by simp [hid, hempty])]

theorem cancel_sound {c : Client} (h : c.Sound setting) : (cancel env c).Sound setting := by
  unfold cancel
  split
  · exact h
  · rename_i hcancel
    simp only [not_or, Bool.not_eq_true, Bool.not_eq_false] at hcancel
    obtain ⟨hactive, hopen, hsafe⟩ := hcancel
    refine ⟨⟨h.session.constant, h.session.trusted, h.session.request, h.session.id,
      h.session.numbered, h.session.buffered, h.session.chain,
      h.session.arrow⟩, ?_⟩
    have hclosed : Session.closedBy { c.session with terminal := true }
        = some c.session.queryId := if_pos ⟨rfl, hopen⟩
    rw [hclosed]
    exact (h.log_of_active hactive).cleanup (cleanup_cancellation h.session hsafe)

/-- After `cancel`, the session has cleaned up exactly when it has an id and is
not reconciled. -/
theorem cancel_closed {c : Client} (h : c.Sound setting) :
    (cancel env c).session.closedBy =
      if c.session.queryId ≠ [] ∧ c.session.reconciled = false then some c.session.queryId
      else none := by
  by_cases hopen : c.session.reconciled = false
  · by_cases hid : c.session.queryId = []
    · rw [cancel_of_empty hid, if_neg (by simp [hid]), Session.closedBy]
      -- without an id, the session cannot have cleaned up
      by_contra hclosed
      have hsome : c.session.closedBy = some [] := by
        unfold Session.closedBy at hclosed ⊢
        split at hclosed
        · rename_i hterminal
          rw [if_pos hterminal, hid]
        · exact (hclosed rfl).elim
      obtain ⟨-, _, -, hcleanup, -⟩ := (hsome ▸ h.log).sends_closed
      exact absurd hcleanup.safe (by decide)
    · rw [if_pos ⟨hid, hopen⟩, Session.closedBy, cancel_reconciled, cancel_queryId,
        cancel_terminal (h.session.safe hid) hopen, if_pos ⟨rfl, hopen⟩]
  · rw [if_neg fun h => hopen h.2, Session.closedBy, cancel_reconciled,
      if_neg fun h => hopen h.2]

/-! ## What the operations keep -/

theorem Working.sent {s s' : Session} (h : Working setting s) (hsent : Sent s s') :
    Working setting s' := by
  obtain ⟨timeoutMs, maxResponseBytes, total, rfl⟩ := hsent
  exact ⟨⟨h.constant, h.trusted, h.request.limited _ _, h.id, h.numbered, h.buffered,
    h.chain, h.arrow⟩,
    h.active, h.open', h.idle⟩

/-- Another request of the session. -/
theorem Working.get {s : Session} (h : Working setting s) {path : Bytes}
    (htarget : QueryTarget path) (headers : StringMap Bytes) :
    Working setting
      { s with request := { s.getRequest (s.origin ++ path) with headers := headers } } :=
  ⟨⟨h.constant, h.trusted,
    ⟨⟨path, htarget, by rw [← h.constant]; rfl⟩, h.request.followRedirects,
      h.request.cleanupRequest, .inr rfl⟩, h.id, h.numbered, h.buffered, h.chain, h.arrow⟩,
    h.active, h.open', h.idle⟩

/-- Another id, that the response allows. -/
theorem Working.learns {s : Session} (h : Working setting s) {response : QueryResponse}
    {id : Bytes} (hid : Learns s.queryId response id) :
    Working setting { s with queryId := id } := by
  by_cases hempty : s.queryId = []
  · have hchain : isSafeChunkPath s.nextUrl = false := by
      by_contra hpath
      exact h.chain (by simpa using hpath) hempty
    have hsafe : id = [] ∨ isSafeQueryId id = true := hempty ▸ hid.safe
    refine ⟨⟨h.constant, h.trusted, h.request, hsafe,
      fun hmode => ((h.numbered hmode).1 hempty).elim, fun r hr => ?_, fun hpath => ?_,
      h.arrow⟩, h.active, h.open', h.idle⟩
    · obtain ⟨hnext, hrows, hanonymous⟩ := h.buffered r hr
      exact ⟨hnext, hrows, fun _ => hanonymous hempty⟩
    · rw [hchain] at hpath
      cases hpath
  · rw [show ({ s with queryId := id } : Session) = s by rw [hid.kept hempty]]
    exact h

theorem Working.cells {s : Session} (h : Working setting s) (cells : UInt64) :
    Working setting { s with cells } :=
  ⟨⟨h.constant, h.trusted, h.request, h.id, h.numbered, h.buffered, h.chain, h.arrow⟩, h.active,
    h.open', h.idle⟩

theorem Working.counted {s : Session} (h : Working setting s) (hbuffer : s.bufferedDirect = none)
    (cells rows fetchedChunks : UInt64) :
    Working setting { s with cells, rows, fetchedChunks } :=
  ⟨⟨h.constant, h.trusted, h.request, h.id, h.numbered,
    fun r hr => by simp [hbuffer] at hr, h.chain, h.arrow⟩, h.active, h.open', h.idle⟩

theorem Working.follow {s : Session} (h : Working setting s) (hbuffer : s.bufferedDirect = none)
    {chunk : ResultChunk} (hchain : isSafeChunkPath chunk.nextUrl = true → s.queryId ≠ []) :
    Working setting (QueryCursor.follow chunk s) ∧
      (QueryCursor.follow chunk s).bufferedDirect = none := by
  unfold QueryCursor.follow
  split
  · exact ⟨⟨⟨h.constant, h.trusted, h.request, h.id, h.numbered,
      fun r hr => by simp [hbuffer] at hr, hchain, h.arrow⟩, h.active, h.open', h.idle⟩, hbuffer⟩
  · exact ⟨h, hbuffer⟩

/-- The paths of numbered chunks. -/
theorem chunkUrl_target {s : Session} (hid : isSafeQueryId s.queryId = true) (index : UInt64) :
    ∃ path, QueryTarget path ∧ s.chunkUrl index = s.origin ++ path := by
  refine ⟨_, .chunk (queryId_of_isSafeQueryId hid) (toDecimal_ne_nil index.toNat)
    fun c => isDigit_of_mem_toDecimal, ?_⟩
  simp only [Session.chunkUrl, Session.queryUrl, List.append_assoc]

theorem Working.numbered_request {s : Session} (h : Working setting s)
    (hmode : s.mode = .numberedV3) : Working setting (QueryCursor.numberedRequest s) := by
  obtain ⟨path, htarget, hurl⟩ := chunkUrl_target (h.safe (h.numbered hmode).1) s.nextChunkIndex
  have hget := h.get htarget s.request.headers
  rw [← hurl] at hget
  exact ⟨⟨hget.constant, hget.trusted, hget.request, hget.id, hget.numbered, hget.buffered,
    hget.chain, hget.arrow⟩, hget.active, hget.open', hget.idle⟩

theorem Working.arrow_request {s : Session} (h : Working setting s)
    (hmode : s.mode = .numberedV3) : Working setting (QueryCursor.arrowRequest s) := by
  obtain ⟨path, htarget, hurl⟩ := chunkUrl_target (h.safe (h.numbered hmode).1) s.nextChunkIndex
  have hget := h.get htarget (s.request.headers.insert (ascii "Accept")
    (ascii "application/vnd.apache.arrow.stream"))
  rw [← hurl] at hget
  exact hget

theorem Working.direct_request {s : Session} (h : Working setting s)
    (hpath : isSafeChunkPath s.nextUrl = true) :
    Working setting (QueryCursor.directRequest s) := by
  obtain ⟨digits, hid, hne, -, hdigits, hurl⟩ := chunkPath_form hpath
  have htarget : QueryTarget s.nextUrl := by
    rw [hurl]
    exact .chunk (queryId_of_isSafeQueryId hid) hne hdigits
  have hget := h.get htarget s.request.headers
  have hknown : s.queryId ≠ [] := h.chain hpath
  have hsame : QueryCursor.directRequest s
      = { s with
          visitedUrls := s.visitedUrls ++ [s.nextUrl]
          request := s.getRequest (s.origin ++ s.nextUrl) } := by
    simp [QueryCursor.directRequest, hknown]
  rw [hsame]
  exact ⟨⟨hget.constant, hget.trusted, hget.request, hget.id, hget.numbered, hget.buffered,
    hget.chain, hget.arrow⟩, hget.active, hget.open', hget.idle⟩

/-! ## Cursor calls -/

/-- A session at work with a response in hand. -/
abbrev Client.Fetching (setting : Setting) : Client → Prop :=
  Ongoing (QueryLog setting none) fun s => Data360.Working setting s ∧ s.bufferedDirect = none

theorem sendable_fetching :
    Sendable setting fun s => Working setting s ∧ s.bufferedDirect = none where
  constant := fun _ h => h.1.constant
  request := fun _ h => h.1.request
  sent := fun _ s' h hsent => by
    refine ⟨h.1.sent hsent, ?_⟩
    obtain ⟨_, _, _, rfl⟩ := hsent
    exact h.2

theorem Client.Fetching.working {c : Client} (h : c.Fetching setting) : c.Working setting :=
  ⟨h.log, h.session.1⟩

/-- Sending and decoding keep a session at work. -/
theorem keeps_sendDecode : Keeps (Client.Fetching setting) (do
    let response ← send env
    decode env response) :=
  keeps_bind (keeps_send sendable_fetching) fun response =>
    keeps_decode (idle_queryLog setting none) response

theorem keeps_deliver (response : QueryResponse) :
    Keeps (Client.Fetching setting) (QueryCursor.deliver env response) := by
  intro c hc
  rw [QueryCursor.deliver, wp_bind]
  refine wp_mono (wp_rememberQueryId response c) ?_ ?_ fun _ h => h.elim
  · intro _ c₁ hlearned
    obtain ⟨id, rfl, hid⟩ := hlearned
    -- the next URL of the response belongs to the id that was just learned
    have hknown : isSafeChunkPath response.chunk.nextUrl = true → id ≠ [] := by
      intro hpath
      obtain ⟨_, hsafe, -⟩ := chunkPath_form hpath
      rw [hid.path hpath]
      exact ne_nil_of_isSafeQueryId hsafe
    have hstart : Ongoing (QueryLog setting none) (fun s =>
        (Working setting s ∧ s.bufferedDirect = none) ∧
          (isSafeChunkPath response.chunk.nextUrl = true → s.queryId ≠ []))
        (c.onSession fun s => { s with queryId := id }) :=
      ⟨hc.log, ⟨hc.session.1.learns hid.toLearns, hc.session.2⟩, hknown⟩
    rw [wp_bind]
    refine wp_mono (keeps_checkActive (idle_queryLog setting none) _ hstart) ?_ ?_ ?_
    · intro _ c₂ hactive
      obtain ⟨hlog, ⟨hworking, hbuffer⟩, hchain⟩ := hactive
      rw [wp_bind]
      refine wp_mono (wp_accept response c₂) ?_ ?_ fun _ h => h.elim
      · intro chunk c₃ haccepted
        obtain ⟨rfl, -, cells, rfl⟩ := haccepted
        rw [wp_bind, wp_modify, wp_pure]
        have hcounted := hworking.counted hbuffer cells
          (c₂.session.rows + UInt64.ofNat response.chunk.rows.length)
          (c₂.session.fetchedChunks + 1)
        exact ⟨hlog, hcounted.follow hbuffer hchain⟩
      · intro _ c₃ hrejected
        obtain ⟨cells, rfl⟩ := hrejected
        exact ⟨hlog, hworking.cells cells, hbuffer⟩
    · intro _ c₂ hfailed
      exact ⟨hfailed.log, hfailed.session.1⟩
    · intro c₂ hcut
      exact ⟨hcut.log, hcut.session.1⟩
  · intro _ c₁ hlearns
    obtain ⟨id, rfl, hid⟩ := hlearns
    exact ⟨hc.log, hc.session.1.learns hid, hc.session.2⟩

/-- `return session.Finish();` leaves a sound client, or the one that it
found. -/
theorem wp_finished {α : Type} {c : Client} (h : c.Working setting) :
    wp (QueryCursor.finished : Query (Option α)) (fun _ c' => c'.Sound setting)
      (fun _ c' => c'.Working setting) (fun _ => False) c := by
  refine wp_finished_of (fun _ => ?_) fun _ _ => h
  have hs := h.session
  refine ⟨⟨hs.constant, hs.trusted, hs.request, hs.id, hs.numbered, hs.buffered, hs.chain,
    fun houtstanding => ?_⟩, h.log⟩
  exact absurd (hs.idle.symm.trans houtstanding) (by decide)

/-- The rest of `NextChunk`, from a session with no buffered response. -/
theorem wp_fetchDeliver {fetch : Query QueryResponse} {c : Client}
    (hfetch : wp fetch (fun _ => Client.Fetching setting) (fun _ => Client.Working setting)
      (Client.Working setting) c) :
    wp (do
        let response ← fetch
        QueryCursor.deliver env response)
      (fun _ c' => c'.Sound setting) (fun _ c' => c'.Working setting)
      (Client.Working setting) c := by
  rw [wp_bind]
  refine wp_mono hfetch (fun response c' h => ?_) (fun _ _ h => h) fun _ h => h
  exact wp_mono (keeps_deliver response c' h) (fun _ _ h => h.working.sound)
    (fun _ _ h => h.working) fun _ h => h.working

theorem wp_fetchNumbered {c : Client} (h : c.Working setting)
    (hmode : c.session.mode = .numberedV3) :
    wp (QueryCursor.fetchNumbered env) (fun _ => Client.Fetching setting)
      (fun _ => Client.Working setting) (Client.Working setting) c := by
  rw [QueryCursor.fetchNumbered, wp_bind, wp_modify]
  have hstart : Client.Fetching setting (c.onSession QueryCursor.numberedRequest) :=
    ⟨h.log, h.session.numbered_request hmode, (h.session.numbered hmode).2⟩
  exact wp_mono (keeps_sendDecode _ hstart) (fun _ _ h => h) (fun _ _ h => h.working)
    fun _ h => h.working

theorem wp_fetchDirect {c : Client} (h : c.Working setting)
    (hbuffer : c.session.bufferedDirect = none) :
    wp (QueryCursor.fetchDirect env) (fun _ => Client.Fetching setting)
      (fun _ => Client.Working setting) (Client.Working setting) c := by
  rw [QueryCursor.fetchDirect, wp_bind, wp_look, wp_bind, wp_raiseIf]
  refine ⟨fun _ => h, fun hsafe => ?_⟩
  rw [wp_bind, wp_modify]
  simp only [id_eq, not_or, Bool.not_eq_true, Bool.not_eq_false] at hsafe
  have hstart : Client.Fetching setting (c.onSession QueryCursor.directRequest) :=
    ⟨h.log, h.session.direct_request hsafe.1, hbuffer⟩
  exact wp_mono (keeps_sendDecode _ hstart) (fun _ _ h => h) (fun _ _ h => h.working)
    fun _ h => h.working

theorem wp_nextChunkBody {c : Client} (h : c.Working setting) :
    wp (QueryCursor.nextChunkBody env) (fun _ c' => c'.Sound setting)
      (fun _ c' => c'.Working setting) (Client.Working setting) c := by
  rw [QueryCursor.nextChunkBody, wp_bind, wp_look, wp_ite]
  refine ⟨fun hmode => ?_, fun _ => ?_⟩
  · rw [QueryCursor.nextNumbered, wp_bind, wp_look, wp_ite]
    refine ⟨fun _ => ?_, fun _ => wp_fetchDeliver (wp_fetchNumbered h hmode)⟩
    exact wp_mono (wp_finished h) (fun _ _ h => h) (fun _ _ h => h) fun _ h => h.elim
  · rw [QueryCursor.nextDirect, wp_bind, wp_look]
    cases hbuffer : c.session.bufferedDirect with
    | some response =>
        simp only [id_eq, hbuffer]
        rw [wp_bind, wp_modify]
        have hs := h.session
        have hstart : Client.Fetching setting
            (c.onSession fun s => { s with bufferedDirect := none }) :=
          ⟨h.log, ⟨⟨hs.constant, hs.trusted, hs.request, hs.id,
            fun hmode => ⟨(hs.numbered hmode).1, rfl⟩, fun _ hr => by simp at hr,
            hs.chain, hs.arrow⟩,
            hs.active, hs.open', hs.idle⟩, rfl⟩
        exact wp_mono (keeps_deliver response _ hstart) (fun _ _ h => h.working.sound)
          (fun _ _ h => h.working) fun _ h => h.working
    | none =>
        simp only [id_eq, hbuffer]
        rw [wp_ite]
        refine ⟨fun _ => ?_, fun _ => wp_fetchDeliver (wp_fetchDirect h hbuffer)⟩
        exact wp_mono (wp_finished h) (fun _ _ h => h) (fun _ _ h => h) fun _ h => h.elim

/-- A `try` block that leaves a sound client, with its handler. -/
theorem wp_orCancel {α : Type} {body : Query α} {c : Client}
    (h : wp body (fun _ c' => c'.Sound setting) (fun _ c' => c'.Working setting)
      (Client.Working setting) c) :
    wp (onRaise body (update (cancel env))) (fun _ c' => c'.Sound setting)
      (fun _ c' => c'.Sound setting) (Client.Sound setting) c := by
  rw [wp_onRaise]
  exact wp_mono h (fun _ _ h => h) (fun _ _ h => cancel_sound h.sound) fun _ h => h.sound

/-- `NextChunk` keeps a client sound. -/
theorem keeps_nextChunk : Keeps (Client.Sound setting) (QueryCursor.nextChunk env) := by
  intro c hc
  rw [QueryCursor.nextChunk, wp_bind, wp_look, wp_bind, wp_raiseIf]
  refine ⟨fun _ => hc, fun hidle => ?_⟩
  rw [wp_ite]
  refine ⟨fun _ => hc, fun hopen => ?_⟩
  rw [wp_bind, wp_raiseIf]
  refine ⟨fun _ => hc, fun hactive => ?_⟩
  exact wp_orCancel (wp_nextChunkBody (hc.working (by simpa using hactive) (by simpa using hopen)
    (by simpa using hidle)))

/-- A numbered session at work. -/
abbrev Client.Numbered (setting : Setting) : Client → Prop :=
  Ongoing (QueryLog setting none) fun s => Data360.Working setting s ∧ s.mode = .numberedV3

theorem Client.Numbered.working {c : Client} (h : c.Numbered setting) : c.Working setting :=
  ⟨h.log, h.session.1⟩

theorem sendable_numbered :
    Sendable setting fun s => Working setting s ∧ s.mode = .numberedV3 where
  constant := fun _ h => h.1.constant
  request := fun _ h => h.1.request
  sent := fun _ s' h hsent => by
    refine ⟨h.1.sent hsent, ?_⟩
    obtain ⟨_, _, _, rfl⟩ := hsent
    exact h.2

/-- An Arrow response that was handed out leaves a sound client. -/
theorem Client.Numbered.outstanding {c : Client} (h : c.Numbered setting) :
    (c.onSession fun s => { s with arrowResponseOutstanding := true }).Sound setting := by
  obtain ⟨hs, hmode⟩ := h.session
  refine ⟨⟨hs.constant, hs.trusted, hs.request, hs.id, hs.numbered, hs.buffered, hs.chain,
    fun _ => ⟨hmode, hs.open'⟩⟩, ?_⟩
  have hclosed : Session.closedBy { c.session with arrowResponseOutstanding := true } = none :=
    if_neg (by simp [hs.active])
  rw [onSession_session, hclosed]
  exact h.log

theorem wp_fetchArrow {c : Client} (h : c.Numbered setting) :
    wp (QueryCursor.fetchArrow env) (fun _ c' => c'.Sound setting)
      (fun _ c' => c'.Working setting) (Client.Working setting) c := by
  have hidle := idle_queryLog setting none
  rw [QueryCursor.fetchArrow, wp_bind, wp_modify, wp_bind]
  have hstart : Client.Numbered setting (c.onSession QueryCursor.arrowRequest) :=
    ⟨h.log, h.session.1.arrow_request h.session.2, h.session.2⟩
  refine wp_mono (keeps_send sendable_numbered _ hstart) (fun response c₁ h₁ => ?_)
    (fun _ _ h => Client.Numbered.working h) fun _ h => Client.Numbered.working h
  rw [wp_ite]
  refine ⟨fun _ => ?_, fun _ => ?_⟩
  · rw [wp_bind]
    exact wp_mono (keeps_arrowFailed hidle response c₁ h₁)
      (fun _ _ h => (Client.Numbered.working h).sound)
      (fun _ _ h => Client.Numbered.working h) fun _ h => Client.Numbered.working h
  · rw [wp_bind]
    exact wp_mono (keeps_checkActive hidle c₁ h₁) (fun _ _ h => Client.Numbered.outstanding h)
      (fun _ _ h => Client.Numbered.working h) fun _ h => Client.Numbered.working h

theorem wp_nextArrowBody {c : Client} (h : c.Numbered setting) :
    wp (QueryCursor.nextArrowBody env) (fun _ c' => c'.Sound setting)
      (fun _ c' => c'.Working setting) (Client.Working setting) c := by
  rw [QueryCursor.nextArrowBody, wp_bind]
  refine wp_mono (keeps_checkActive (idle_queryLog setting none) c h) ?_
    (fun _ _ h => Client.Numbered.working h) fun _ h => Client.Numbered.working h
  intro _ c₁ hactive
  rw [wp_bind, wp_look, wp_ite]
  refine ⟨fun _ => ?_, fun _ => wp_fetchArrow hactive⟩
  exact wp_mono (wp_finished (Client.Numbered.working hactive)) (fun _ _ h => h) (fun _ _ h => h)
    fun _ h => h.elim

/-- `NextArrowChunk` keeps a client sound. -/
theorem keeps_nextArrowChunk :
    Keeps (Client.Sound setting) (QueryCursor.nextArrowChunk env) := by
  intro c hc
  rw [QueryCursor.nextArrowChunk, wp_bind, wp_look, wp_bind, wp_raiseIf]
  refine ⟨fun _ => hc, fun hmode => ?_⟩
  rw [wp_bind, wp_raiseIf]
  refine ⟨fun _ => hc, fun hidle => ?_⟩
  rw [wp_ite]
  refine ⟨fun _ => hc, fun hopen => ?_⟩
  rw [wp_bind, wp_raiseIf]
  refine ⟨fun _ => hc, fun hactive => ?_⟩
  have hworking := hc.working (by simpa using hactive) (by simpa using hopen)
    (by simpa using hidle)
  exact wp_orCancel (wp_nextArrowBody
    ⟨hworking.log, hworking.session, Decidable.not_not.mp hmode⟩)

/-- `ReportArrowChunk` keeps a client sound, also a terminal one. -/
theorem keeps_reportArrowChunk (decodedRows : UInt64) :
    Keeps (Client.Sound setting) (QueryCursor.reportArrowChunk env decodedRows) := by
  intro c hc
  rw [QueryCursor.reportArrowChunk, wp_bind, wp_look, wp_bind, wp_raiseIf]
  refine ⟨fun _ => hc, fun houtstanding => ?_⟩
  rw [wp_onRaise, QueryCursor.reportBody, wp_bind]
  have hstart : Ongoing (QueryLog setting c.session.closedBy) (· = c.session) c := ⟨hc.log, rfl⟩
  have hsame : ∀ c', Ongoing (QueryLog setting c.session.closedBy) (· = c.session) c' →
      c'.Sound setting := fun c' h => ⟨h.session ▸ hc.session, h.session ▸ h.log⟩
  refine wp_mono (keeps_checkActive (idle_queryLog setting _) c hstart) ?_
    (fun _ c' h => cancel_sound (hsame c' h)) hsame
  intro _ c' h
  simp only [wp_bind, wp_look, wp_raiseIf, wp_modify]
  refine ⟨fun _ => cancel_sound (hsame c' h), fun _ =>
    ⟨fun _ => cancel_sound (hsame c' h), fun _ => ?_⟩⟩
  have hs := (hsame c' h).session
  have hmode : c'.session.mode = .numberedV3 := (hs.arrow (by
    rw [h.session]
    simpa using houtstanding)).1
  refine ⟨⟨hs.constant, hs.trusted, hs.request, hs.id, hs.numbered, fun r hr => ?_, hs.chain,
    fun h => by cases h⟩, (hsame c' h).log⟩
  have hr' : c'.session.bufferedDirect = some r := hr
  rw [(hs.numbered hmode).2] at hr'
  cases hr'

/-- Every call on a cursor keeps a client sound. -/
theorem keeps_cursorCall (call : CursorCall) :
    Keeps (Client.Sound setting) (call.program env) := by
  cases call with
  | nextChunk => exact keeps_bind keeps_nextChunk fun _ => keeps_pure _
  | nextArrowChunk => exact keeps_bind keeps_nextArrowChunk fun _ => keeps_pure _
  | reportArrowChunk decodedRows =>
      exact keeps_bind (keeps_reportArrowChunk decodedRows) fun _ => keeps_pure _

end Data360
