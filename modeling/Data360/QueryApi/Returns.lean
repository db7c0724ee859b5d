import Data360.QueryApi.Preparation

/-!
# Calls that return

What a call on a cursor does when it does not throw: `Returns` has one
constructor for each way in which it can return, with the change of the session
and what was sent for it.

`wp_cursorCall_returns` says that there are no others.
-/

namespace Data360

open Lib Lib.ByteString Lib.Prog Session

variable {env : QueryEnv} {setting : Setting}

/-! ## Deliveries -/

/-- What a cursor hands out: a decoded chunk, or a response with an Arrow
stream. -/
inductive Delivery where
  | chunk (chunk : ResultChunk)
  | arrow (response : HttpResponse)

/-- The method and the address of a request. -/
def HttpRequest.line (r : HttpRequest) : Bytes × Bytes := (r.method, r.url)

/-- The transport has answered `r`, and the delivery was made of the answer. -/
inductive Answers (log : List QueryEvent) (r : HttpRequest) : Delivery → Prop
  | chunk {past rest : List QueryEvent} {response : HttpResponse} {decoded : QueryResponse}
      (logged : log = past ++ [.send r (some response), .decode response (.response decoded)] ++
        rest) : Answers log r (.chunk decoded.chunk)
  | arrow {past rest : List QueryEvent} {response : HttpResponse}
      (logged : log = past ++ [.send r (some response)] ++ rest) : Answers log r (.arrow response)

theorem Answers.mono {log log' : List QueryEvent} {r : HttpRequest} {delivery : Delivery}
    (h : Answers log r delivery) (hbefore : log <+: log') : Answers log' r delivery := by
  obtain ⟨more, rfl⟩ := hbefore
  cases h with
  | chunk logged => exact .chunk (by rw [logged, List.append_assoc])
  | arrow logged => exact .arrow (by rw [logged, List.append_assoc])

/-- The log has grown by the request `r`, which was made into the delivery. -/
structure Fetches (log log' : List QueryEvent) (r : HttpRequest) (delivery : Delivery) :
    Prop where
  before : log <+: log'
  sends : sends log' = sends log ++ [r]
  answers : Answers log' r delivery

theorem Grows.isPrefix {log log' : List QueryEvent} (h : Grows log log') : log <+: log' := by
  obtain ⟨more, rfl, -⟩ := h
  exact List.prefix_append log more

theorem Fetches.grows {log mid log' : List QueryEvent} {r : HttpRequest} {delivery : Delivery}
    (h : Fetches log mid r delivery) (hgrows : Grows mid log') :
    Fetches log log' r delivery :=
  ⟨h.before.trans hgrows.isPrefix, hgrows.sends_eq.trans h.sends, h.answers.mono hgrows.isPrefix⟩

theorem Fetches.after {log mid log' : List QueryEvent} {r : HttpRequest} {delivery : Delivery}
    (hgrows : Grows log mid) (h : Fetches mid log' r delivery) :
    Fetches log log' r delivery :=
  ⟨hgrows.isPrefix.trans h.before, by rw [h.sends, hgrows.sends_eq], h.answers⟩

/-! ## Fetching and delivering -/

/-- A request that was sent, and its answer decoded. -/
theorem wp_fetch_returns (f : Session → Session) {c : Client}
    (h : (c.onSession f).Working setting) :
    wp (do
        modify f
        let response ← send env
        decode env response)
      (fun decoded c' => Sent (f c.session) c'.session ∧
        Fetches c.log c'.log c'.session.request (.chunk decoded.chunk))
      (fun _ _ => True) (fun _ => True) c := by
  rw [wp_bind, wp_modify, wp_bind]
  refine wp_mono (wp_send h.session.constant h.session.request h.log) (fun response c₁ h₁ => ?_)
    (fun _ _ _ => trivial) fun _ h => h.elim
  obtain ⟨-, hsent, log, hgrows, hlog⟩ := h₁
  refine wp_mono (wp_decode_returns response c₁) (fun decoded c₂ h₂ => ?_) (fun _ _ h => h)
    fun _ h => h
  rw [h₂, record_session, record_log, hlog]
  have hlogged : log ++ [.send c₁.session.request (some response)] ++
      [.decode response (.response decoded)] =
      log ++ [.send c₁.session.request (some response), .decode response (.response decoded)] ++
        [] := by simp
  refine ⟨hsent, hgrows.isPrefix.trans ⟨_, (List.append_assoc _ _ _).symm⟩, ?_, .chunk hlogged⟩
  rw [sends_append, sends_append, hgrows.sends_eq]
  simp [sends, QueryEvent.sent]

/-- The change of a session by a response that is delivered. -/
structure Delivers (response : QueryResponse) (s s' : Session) : Prop where
  accepts : Accepts s response.chunk
  session : ∃ id cells, Learned s.queryId response id ∧
    s' = QueryCursor.follow response.chunk
      { s with
        queryId := id
        cells
        rows := s.rows + UInt64.ofNat response.chunk.rows.length
        fetchedChunks := s.fetchedChunks + 1 }

theorem wp_deliver_returns (response : QueryResponse) (c : Client) :
    wp (QueryCursor.deliver env response)
      (fun next c' => next = some response.chunk ∧ Grows c.log c'.log ∧
        Delivers response c.session c'.session)
      (fun _ _ => True) (fun _ => True) c := by
  rw [QueryCursor.deliver, wp_bind]
  refine wp_mono (wp_rememberQueryId response c) (fun _ c₁ h₁ => ?_) (fun _ _ _ => trivial)
    fun _ _ => trivial
  obtain ⟨id, rfl, hlearned⟩ := h₁
  have hstart : Ongoing (Grows c.log) (· = { c.session with queryId := id })
      (c.onSession fun s => { s with queryId := id }) := ⟨.refl _, rfl⟩
  rw [wp_bind]
  refine wp_mono (keeps_checkActive (idle_grows c.log) _ hstart) (fun _ c₂ h₂ => ?_)
    (fun _ _ _ => trivial) fun _ _ => trivial
  rw [wp_bind]
  refine wp_mono (wp_accept response c₂) (fun chunk c₃ h₃ => ?_) (fun _ _ _ => trivial)
    fun _ _ => trivial
  obtain ⟨rfl, haccepts, cells, rfl⟩ := h₃
  rw [h₂.session] at haccepts
  rw [wp_bind, wp_modify, wp_pure, onSession_session, onSession_session, h₂.session]
  exact ⟨rfl, h₂.log, ⟨haccepts.fits, haccepts.expected, haccepts.widths⟩, id, cells, hlearned, rfl⟩

/-! ## The ways to return -/

/-- What a call returns at the end of the data. -/
def CursorCall.atEnd : CursorCall → CursorValue
  | .nextChunk => .chunk none
  | .nextArrowChunk => .arrow none
  | .reportArrowChunk _ => .reported

/-- The call asks for a chunk. -/
def CursorCall.IsNext : CursorCall → Prop
  | .nextChunk | .nextArrowChunk => True
  | .reportArrowChunk _ => False

/-- A call returns, and takes the client from `c` to `c'`. -/
inductive Returns (c c' : Client) : CursorCall → CursorValue → Prop
  /-- The end of the data, once more. -/
  | again (call : CursorCall) (next : call.IsNext) (reconciled : c.session.reconciled = true)
      (same : c' = c) : Returns c c' call call.atEnd
  | finished (call : CursorCall) (next : call.IsNext) (live : c.session.reconciled = false)
      (idle : c.session.arrowResponseOutstanding = false)
      (drained : c.session.mode = .directLegacy → c.session.bufferedDirect = none)
      (reconciles : Reconciles c.session)
      (session : c'.session = { c.session with reconciled := true, terminal := true })
      (log : Grows c.log c'.log) : Returns c c' call call.atEnd
  | buffered {response : QueryResponse} (live : c.session.reconciled = false)
      (mode : c.session.mode = .directLegacy) (buffer : c.session.bufferedDirect = some response)
      (delivers : Delivers response { c.session with bufferedDirect := none } c'.session)
      (log : Grows c.log c'.log) : Returns c c' .nextChunk (.chunk (some response.chunk))
  | numbered {response : QueryResponse} {s : Session} (live : c.session.reconciled = false)
      (mode : c.session.mode = .numberedV3) (idle : c.session.arrowResponseOutstanding = false)
      (more : c.session.nextChunkIndex < c.session.expectedChunks)
      (sent : Sent (QueryCursor.numberedRequest c.session) s)
      (delivers : Delivers response s c'.session)
      (log : Fetches c.log c'.log s.request (.chunk response.chunk)) :
      Returns c c' .nextChunk (.chunk (some response.chunk))
  | direct {response : QueryResponse} {s : Session} (live : c.session.reconciled = false)
      (mode : c.session.mode = .directLegacy) (buffer : c.session.bufferedDirect = none)
      (unfinished : c.session.nextUrl ≠ []) (fresh : c.session.nextUrl ∉ c.session.visitedUrls)
      (sent : Sent (QueryCursor.directRequest c.session) s)
      (delivers : Delivers response s c'.session)
      (log : Fetches c.log c'.log s.request (.chunk response.chunk)) :
      Returns c c' .nextChunk (.chunk (some response.chunk))
  | arrow {response : HttpResponse} {s : Session} (live : c.session.reconciled = false)
      (mode : c.session.mode = .numberedV3) (idle : c.session.arrowResponseOutstanding = false)
      (more : c.session.nextChunkIndex < c.session.expectedChunks)
      (sent : Sent (QueryCursor.arrowRequest c.session) s)
      (session : c'.session = { s with arrowResponseOutstanding := true })
      (log : Fetches c.log c'.log s.request (.arrow response)) :
      Returns c c' .nextArrowChunk (.arrow (some response))
  | reported {decodedRows : UInt64} (outstanding : c.session.arrowResponseOutstanding = true)
      (fits : decodedRows ≤
        c.session.options.maxRows - min c.session.rows c.session.options.maxRows)
      (session : c'.session = QueryCursor.countArrow decodedRows c.session)
      (log : Grows c.log c'.log) : Returns c c' (.reportArrowChunk decodedRows) .reported

theorem wp_finished_returns {α : Type} {c : Client} :
    wp (QueryCursor.finished : Query (Option α))
      (fun next c' => next = none ∧ Reconciles c.session ∧
        c'.session = { c.session with reconciled := true, terminal := true } ∧ Grows c.log c'.log)
      (fun _ _ => True) (fun _ => True) c :=
  wp_finished_of (fun hreconciles => ⟨rfl, hreconciles, rfl, .refl _⟩) fun _ _ => trivial

theorem wp_nextNumbered_returns {c : Client} (h : c.Working setting)
    (hmode : c.session.mode = .numberedV3) :
    wp (QueryCursor.nextNumbered env) (fun next c' => Returns c c' .nextChunk (.chunk next))
      (fun _ _ => True) (fun _ => True) c := by
  rw [QueryCursor.nextNumbered, wp_bind, wp_look, wp_ite]
  refine ⟨fun _ => ?_, fun hmore => ?_⟩
  · refine wp_mono wp_finished_returns (fun next c' hdone => ?_) (fun _ _ h => h) fun _ h => h
    obtain ⟨rfl, hreconciles, hsession, hlog⟩ := hdone
    exact .finished .nextChunk trivial h.session.open' h.session.idle
      (fun hdirect => absurd (hmode.symm.trans hdirect) (by decide)) hreconciles hsession hlog
  · rw [wp_bind, QueryCursor.fetchNumbered]
    refine wp_mono (wp_fetch_returns QueryCursor.numberedRequest
      ⟨h.log, h.session.numbered_request hmode⟩) (fun response c₁ h₁ => ?_) (fun _ _ h => h)
      fun _ h => h
    obtain ⟨hsent, hfetches⟩ := h₁
    refine wp_mono (wp_deliver_returns response c₁) (fun next c' h' => ?_) (fun _ _ h => h)
      fun _ h => h
    obtain ⟨rfl, hgrows, hdelivers⟩ := h'
    exact .numbered h.session.open' hmode h.session.idle (UInt64.not_le.mp hmore) hsent hdelivers
      (hfetches.grows hgrows)

theorem wp_nextDirect_returns {c : Client} (h : c.Working setting)
    (hmode : c.session.mode = .directLegacy) :
    wp (QueryCursor.nextDirect env) (fun next c' => Returns c c' .nextChunk (.chunk next))
      (fun _ _ => True) (fun _ => True) c := by
  rw [QueryCursor.nextDirect, wp_bind, wp_look]
  cases hbuffer : c.session.bufferedDirect with
  | some response =>
      simp only [id_eq, hbuffer]
      rw [wp_bind, wp_modify]
      refine wp_mono (wp_deliver_returns response _) (fun next c' h' => ?_) (fun _ _ h => h)
        fun _ h => h
      obtain ⟨rfl, hgrows, hdelivers⟩ := h'
      exact .buffered h.session.open' hmode hbuffer hdelivers hgrows
  | none =>
      simp only [id_eq, hbuffer]
      rw [wp_ite]
      refine ⟨fun _ => ?_, fun hunfinished => ?_⟩
      · refine wp_mono wp_finished_returns (fun next c' hdone => ?_) (fun _ _ h => h) fun _ h => h
        obtain ⟨rfl, hreconciles, hsession, hlog⟩ := hdone
        exact .finished .nextChunk trivial h.session.open' h.session.idle
          (fun _ => hbuffer) hreconciles hsession hlog
      · rw [wp_bind, QueryCursor.fetchDirect, wp_bind, wp_look, wp_bind, wp_raiseIf]
        refine ⟨fun _ => trivial, fun hsafe => ?_⟩
        simp only [id_eq, not_or, Bool.not_eq_true, Bool.not_eq_false] at hsafe
        refine wp_mono (wp_fetch_returns QueryCursor.directRequest
          ⟨h.log, h.session.direct_request hsafe.1⟩) (fun response c₁ h₁ => ?_) (fun _ _ h => h)
          fun _ h => h
        obtain ⟨hsent, hfetches⟩ := h₁
        refine wp_mono (wp_deliver_returns response c₁) (fun next c' h' => ?_) (fun _ _ h => h)
          fun _ h => h
        obtain ⟨rfl, hgrows, hdelivers⟩ := h'
        exact .direct h.session.open' hmode hbuffer hunfinished hsafe.2 hsent hdelivers
          (hfetches.grows hgrows)

theorem wp_nextChunk_returns {c : Client} (h : c.Sound setting) :
    wp (QueryCursor.nextChunk env) (fun next c' => Returns c c' .nextChunk (.chunk next))
      (fun _ _ => True) (fun _ => True) c := by
  rw [QueryCursor.nextChunk, wp_bind, wp_look, wp_bind, wp_raiseIf]
  refine ⟨fun _ => trivial, fun hidle => ?_⟩
  rw [wp_ite]
  refine ⟨fun hreconciled => .again .nextChunk trivial hreconciled rfl, fun hopen => ?_⟩
  rw [wp_bind, wp_raiseIf]
  refine ⟨fun _ => trivial, fun hactive => ?_⟩
  have hworking := h.working (by simpa using hactive) (by simpa using hopen) (by simpa using hidle)
  rw [wp_onRaise, QueryCursor.nextChunkBody, wp_bind, wp_look, wp_ite]
  refine ⟨fun hmode => ?_, fun hother => ?_⟩
  · exact wp_mono (wp_nextNumbered_returns hworking hmode) (fun _ _ h => h)
      (fun _ _ _ => trivial) fun _ h => h
  · have hmode : c.session.mode = .directLegacy := by
      cases hmode : c.session.mode with
      | numberedV3 => exact (hother hmode).elim
      | directLegacy => rfl
    exact wp_mono (wp_nextDirect_returns hworking hmode) (fun _ _ h => h)
      (fun _ _ _ => trivial) fun _ h => h

/-- `NextArrowChunk` fetches after it has looked at the clock, in `c₁`. -/
theorem wp_fetchArrow_returns {c c₁ : Client} (h : c₁.Working setting)
    (hsession : c₁.session = c.session) (hbefore : Grows c.log c₁.log)
    (hmode : c.session.mode = .numberedV3)
    (hmore : c.session.nextChunkIndex < c.session.expectedChunks) :
    wp (QueryCursor.fetchArrow env) (fun next c' => Returns c c' .nextArrowChunk (.arrow next))
      (fun _ _ => True) (fun _ => True) c₁ := by
  have hrequest := h.session.arrow_request (hsession ▸ hmode)
  rw [QueryCursor.fetchArrow, wp_bind, wp_modify, wp_bind]
  refine wp_mono (wp_send hrequest.constant hrequest.request h.log) (fun response c₂ h₂ => ?_)
    (fun _ _ _ => trivial) fun _ h => h.elim
  obtain ⟨-, hsent, log, hgrows, hlog⟩ := h₂
  rw [onSession_session, hsession] at hsent
  have hfetches : Fetches c₁.log c₂.log c₂.session.request (.arrow response) := by
    rw [hlog]
    refine ⟨hgrows.isPrefix.trans (List.prefix_append _ _), ?_, .arrow (List.append_nil _).symm⟩
    rw [sends_append, hgrows.sends_eq]
    rfl
  rw [wp_ite]
  refine ⟨fun _ => ?_, fun _ => ?_⟩
  · -- a response that is no success is never handed out
    rw [wp_bind, QueryCursor.arrowFailed, wp_bind]
    exact wp_iff.mpr ⟨fun _ _ _ => trivial, fun _ _ _ => trivial, fun _ _ => trivial⟩
  · have hstart : Ongoing (Grows c₂.log) (· = c₂.session) c₂ := ⟨.refl _, rfl⟩
    rw [wp_bind]
    refine wp_mono (keeps_checkActive (idle_grows _) _ hstart) (fun _ c₃ h₃ => ?_)
      (fun _ _ _ => trivial) fun _ _ => trivial
    rw [wp_bind, wp_modify, wp_pure]
    refine .arrow ?_ hmode ?_ hmore hsent ?_ (.after hbefore (hfetches.grows h₃.log))
    · exact hsession ▸ h.session.open'
    · exact hsession ▸ h.session.idle
    · rw [onSession_session, h₃.session]

theorem wp_nextArrowChunk_returns {c : Client} (h : c.Sound setting) :
    wp (QueryCursor.nextArrowChunk env) (fun next c' => Returns c c' .nextArrowChunk (.arrow next))
      (fun _ _ => True) (fun _ => True) c := by
  rw [QueryCursor.nextArrowChunk, wp_bind, wp_look, wp_bind, wp_raiseIf]
  refine ⟨fun _ => trivial, fun hother => ?_⟩
  rw [wp_bind, wp_raiseIf]
  refine ⟨fun _ => trivial, fun hidle => ?_⟩
  rw [wp_ite]
  refine ⟨fun hreconciled => .again .nextArrowChunk trivial hreconciled rfl,
    fun hopen => ?_⟩
  rw [wp_bind, wp_raiseIf]
  refine ⟨fun _ => trivial, fun hactive => ?_⟩
  have hworking := h.working (by simpa using hactive) (by simpa using hopen) (by simpa using hidle)
  have hmode : c.session.mode = .numberedV3 := Decidable.not_not.mp hother
  have hstart :
      Ongoing (fun log => QueryLog setting none log ∧ Grows c.log log) (· = c.session) c :=
    ⟨⟨hworking.log, .refl _⟩, rfl⟩
  rw [wp_onRaise, QueryCursor.nextArrowBody, wp_bind]
  refine wp_mono (keeps_checkActive ((idle_queryLog setting none).and (idle_grows _)) _ hstart)
    (fun _ c₁ h₁ => ?_) (fun _ _ _ => trivial) fun _ _ => trivial
  obtain ⟨⟨hlog, hgrows⟩, hsession⟩ := h₁
  rw [wp_bind, wp_look, wp_ite]
  refine ⟨fun _ => ?_, fun hmore => ?_⟩
  · refine wp_mono wp_finished_returns (fun next c' hdone => ?_) (fun _ _ _ => trivial) fun _ h => h
    rw [hsession] at hdone
    obtain ⟨rfl, hreconciles, hsession', hlog'⟩ := hdone
    exact .finished .nextArrowChunk trivial hworking.session.open' hworking.session.idle
      (fun hdirect => absurd (hmode.symm.trans hdirect) (by decide)) hreconciles hsession'
      (hgrows.trans hlog')
  · have hmore' : c.session.nextChunkIndex < c.session.expectedChunks :=
      hsession ▸ UInt64.not_le.mp hmore
    exact wp_mono (wp_fetchArrow_returns ⟨hlog, hsession ▸ hworking.session⟩ hsession hgrows hmode
      hmore') (fun _ _ h => h) (fun _ _ _ => trivial) fun _ h => h

theorem wp_reportArrowChunk_returns (decodedRows : UInt64) (c : Client) :
    wp (QueryCursor.reportArrowChunk env decodedRows)
      (fun _ c' => Returns c c' (.reportArrowChunk decodedRows) .reported) (fun _ _ => True)
      (fun _ => True) c := by
  rw [QueryCursor.reportArrowChunk, wp_bind, wp_look, wp_bind, wp_raiseIf]
  refine ⟨fun _ => trivial, fun houtstanding => ?_⟩
  have hstart : Ongoing (Grows c.log) (· = c.session) c := ⟨.refl _, rfl⟩
  rw [wp_onRaise, QueryCursor.reportBody, wp_bind]
  refine wp_mono (keeps_checkActive (idle_grows _) _ hstart) (fun _ c₁ h₁ => ?_)
    (fun _ _ _ => trivial) fun _ _ => trivial
  simp only [wp_bind, wp_look, wp_raiseIf, wp_modify, id_eq]
  refine ⟨fun _ => trivial, fun hfits => ⟨fun _ => trivial, fun _ => ?_⟩⟩
  rw [h₁.session, not_or] at hfits
  refine .reported (by simpa using houtstanding) (UInt64.not_lt.mp hfits.1) ?_ h₁.log
  rw [onSession_session, h₁.session]

/-- A call on a sound client that returns does one of these. -/
theorem wp_cursorCall_returns {c : Client} (h : c.Sound setting) (call : CursorCall) :
    wp (call.program env) (fun value c' => Returns c c' call value) (fun _ _ => True)
      (fun _ => True) c := by
  cases call with
  | nextChunk =>
      rw [CursorCall.program, wp_bind]
      exact wp_mono (wp_nextChunk_returns h) (fun _ _ h => h) (fun _ _ h => h) fun _ h => h
  | nextArrowChunk =>
      rw [CursorCall.program, wp_bind]
      exact wp_mono (wp_nextArrowChunk_returns h) (fun _ _ h => h) (fun _ _ h => h) fun _ h => h
  | reportArrowChunk decodedRows =>
      rw [CursorCall.program, wp_bind]
      exact wp_mono (wp_reportArrowChunk_returns decodedRows c) (fun _ _ h => h) (fun _ _ h => h)
        fun _ h => h

end Data360
