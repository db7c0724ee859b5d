import Data360.QueryApi.Accounting
import Data360.QueryApi.Submission
import Data360.QueryApi.Delivery

/-!
# A service that keeps a result

The other theorems about `src/query_api.cpp` hold against any provider.  Here
the provider is one that has the result of the query and tells it as it is.

`StoredQuery` is such a result, and `Honest` says that every answer which
arrives at all is one about it.  The transport may fail at any time, the
query may be cancelled, and time may run out.

* `wp_ask` is one exchange with the service, and `Asked` what a run has asked
  it so far.
* `Serving` holds between two chunks.
* `execute_served` says what `Execute` makes of the service: the stored result,
  or an error, for a reason that lies in the options or in the log.
-/

namespace Data360

open Lib Lib.ByteString Lib.Prog Lib.Quota Session

/-! ## The stored result -/

/-- The result of a query in numbered chunks, as its provider has it.  Of the
answers about its state, the first `polls` say that it still runs; the answer
number `k` has `bytes k` bytes. -/
structure StoredQuery where
  queryId : Bytes
  metadata : List ColumnMetadata
  chunks : List (List (List Cell))
  polls : Nat
  bytes : Nat → Nat
  named : isSafeQueryId queryId = true
  described : metadata ≠ []
  numeric : QueryApiV3Client.numericIncomplete metadata = false
  rectangular : ∀ chunk ∈ chunks, ∀ row ∈ chunk, row.length = metadata.length

namespace StoredQuery

/-- The rows of the first `count` chunks. -/
def rowsOf (q : StoredQuery) (count : Nat) : Nat := ((q.chunks.take count).map List.length).sum

/-- All of the rows. -/
def rowCount (q : StoredQuery) : Nat := q.rowsOf q.chunks.length

/-- The requests that fetch the whole result. -/
def requests (q : StoredQuery) : Nat := q.polls + 2 + q.chunks.length

/-- The bytes of the first `count` answers. -/
def received (q : StoredQuery) (count : Nat) : Nat := ((List.range count).map q.bytes).sum

/-- The result is within the options. -/
structure Fits (q : StoredQuery) (options : QueryOptions) : Prop where
  chunks : q.chunks.length ≤ options.maxChunks.toNat
  rows : q.rowCount ≤ options.maxRows.toNat
  columns : q.metadata.length ≤ options.maxColumns.toNat
  cells : q.rowCount * q.metadata.length ≤ options.maxCells.toNat
  bytes : q.received q.requests ≤ options.maxTotalResponseBytes.toNat

/-! ## What the service answers -/

/-- The response names no other query. -/
structure Names (q : StoredQuery) (d : QueryResponse) : Prop where
  own : d.queryId = [] ∨ d.queryId = q.queryId
  path : isSafeChunkPath d.chunk.nextUrl = true →
    queryIdFromChunkPath d.chunk.nextUrl = q.queryId

/-- The response says that the query is complete, and how large the result is. -/
structure IsCompletion (q : StoredQuery) (d : QueryResponse) : Prop where
  state : d.state = .complete
  numbered : d.hasChunkCount = true ∨ 0 < d.chunkCount
  chunkCount : d.chunkCount.toNat = q.chunks.length
  rowCount : d.hasRowCount = true → d.rowCount.toNat = q.rowCount

/-- The response tells the state of the query, as the answer number `sent`. -/
structure IsStatus (q : StoredQuery) (sent : Nat) (d : QueryResponse) : Prop where
  names : q.Names d
  running : sent < q.polls → d.state = .running
  complete : q.polls ≤ sent → q.IsCompletion d

/-- The response has the rows of a chunk. -/
structure IsChunk (q : StoredQuery) (rows : List (List Cell)) (d : QueryResponse) : Prop where
  names : q.Names d
  state : d.state = .complete
  metadata : d.metadata = [] ∨ d.metadata = q.metadata
  returned : d.hasReturnedRows = true → d.returnedRows.toNat = rows.length
  rows : d.chunk.rows = rows

/-- The method and the address that submit a query. -/
def submitLine (origin : Bytes) : Bytes × Bytes := (ascii "POST", origin ++ ascii "/api/v3/query")

/-- Those that ask for its state. -/
def statusLine (q : StoredQuery) (origin : Bytes) : Bytes × Bytes :=
  (ascii "GET", origin ++ queryPath ++ q.queryId)

/-- Those that ask for its metadata. -/
def metadataLine (q : StoredQuery) (origin : Bytes) : Bytes × Bytes :=
  (ascii "GET", origin ++ queryPath ++ q.queryId ++ ascii "/metadata")

/-- Those that ask for a chunk. -/
def chunkLine (q : StoredQuery) (origin : Bytes) (index : Nat) : Bytes × Bytes :=
  (ascii "GET", origin ++ queryPath ++ q.queryId ++ chunksSeparator ++ toDecimal index)

/-- What the service says to a request, as the answer number `sent`. -/
structure Reports (q : StoredQuery) (origin : Bytes) (sent : Nat) (line : Bytes × Bytes)
    (d : QueryResponse) : Prop where
  submit : line = submitLine origin → d.queryId = q.queryId ∧ q.IsStatus sent d
  status : line = q.statusLine origin → q.IsStatus sent d
  metadata : line = q.metadataLine origin → d.state = .complete ∧ d.metadata = q.metadata
  chunk : ∀ index, ∀ h : index < q.chunks.length, line = q.chunkLine origin index →
    q.IsChunk q.chunks[index] d

/-- The request number `k` of a query that goes well. -/
def lineAt (q : StoredQuery) (origin : Bytes) (k : Nat) : Bytes × Bytes :=
  if k = 0 then submitLine origin
  else if k ≤ q.polls then q.statusLine origin
  else if k = q.polls + 1 then q.metadataLine origin
  else q.chunkLine origin (k - (q.polls + 2))

/-- The first `count` requests. -/
def lines (q : StoredQuery) (origin : Bytes) (count : Nat) : List (Bytes × Bytes) :=
  (List.range count).map (q.lineAt origin)

end StoredQuery

/-- Every answer that arrives is decoded to one about the stored result. -/
def Honest (env : QueryEnv) (origin : Bytes) (q : StoredQuery) : Prop :=
  ∀ past r response, env.send past r = some response → r.cleanupRequest = false →
    response.body.length = q.bytes (sends past).length ∧
    ∃ d, env.decode (past ++ [.send r (some response)]) response = .response d ∧
      q.Reports origin (sends past).length r.line d

/-- The event ends a query that started at `startedAtMs`: the query was
cancelled, its time was up, a hook threw, or the transport failed. -/
def QueryEvent.Stops (startedAtMs overallTimeoutMs : UInt64) : QueryEvent → Prop
  | .send r answer => r.cleanupRequest = false ∧ answer = none
  | .decode _ _ => False
  | .isCancelled answer => answer ≠ some false
  | .nowMs answer => ∀ now, answer = some now → overallTimeoutMs ≤ now - startedAtMs
  | .sleepMs _ returned => returned = false

/-- The log shows why the query ended. -/
def Client.Stopped (c : Client) (options : QueryOptions) : Prop :=
  ∃ e ∈ c.log, e.Stops c.session.startedAtMs options.overallTimeoutMs

/-- The query has failed, for a reason: what the log shows, or the options. -/
structure Client.Fails (q : StoredQuery) (options : QueryOptions) (startedAtMs : UInt64)
    (c : Client) : Prop where
  started : c.session.startedAtMs = startedAtMs
  reason : c.Stopped options ∨ ¬ q.Fits options

/-- The first `sent` requests of the query have been asked and answered. -/
structure Asked (q : StoredQuery) (origin : Bytes) (options : QueryOptions)
    (startedAtMs : UInt64) (sent : Nat) (c : Client) : Prop where
  limits : c.session.options = options
  tenant : c.session.origin = origin
  started : c.session.startedAtMs = startedAtMs
  plain : c.session.request.cleanupRequest = false
  lines : (sends c.log).map HttpRequest.line = q.lines origin sent
  bytes : c.session.totalResponseBytes.toNat = q.received sent
  within : q.received sent ≤ options.maxTotalResponseBytes.toNat

variable {env : QueryEnv} {origin : Bytes} {q : StoredQuery} {options : QueryOptions}
  {startedAtMs : UInt64} {sent : Nat} {c : Client}

theorem StoredQuery.received_succ (q : StoredQuery) (count : Nat) :
    q.received (count + 1) = q.received count + q.bytes count := by
  simp [StoredQuery.received, List.range_succ]

theorem StoredQuery.received_mono (q : StoredQuery) {less more : Nat} (h : less ≤ more) :
    q.received less ≤ q.received more := by
  induction h with
  | refl => exact Nat.le_refl _
  | step _ ih =>
      rw [q.received_succ]
      omega

theorem StoredQuery.lines_succ (q : StoredQuery) (origin : Bytes) (count : Nat) :
    q.lines origin (count + 1) = q.lines origin count ++ [q.lineAt origin count] := by
  simp [StoredQuery.lines, List.range_succ]

namespace Asked

theorem length (h : Asked q origin options startedAtMs sent c) : (sends c.log).length = sent := by
  have hlength := congrArg List.length h.lines
  simpa [StoredQuery.lines] using hlength

/-- An event that sends nothing. -/
theorem record (h : Asked q origin options startedAtMs sent c) {e : QueryEvent}
    (hnone : sends [e] = []) : Asked q origin options startedAtMs sent (c.record e) :=
  ⟨h.limits, h.tenant, h.started, h.plain, by
    rw [record_log, sends_append, hnone, List.append_nil]
    exact h.lines, h.bytes, h.within⟩

/-- A change of the session that the service does not see. -/
theorem edit (h : Asked q origin options startedAtMs sent c) {f : Session → Session}
    (hf : ∀ s, (f s).options = s.options ∧ (f s).credentials = s.credentials ∧
      (f s).startedAtMs = s.startedAtMs ∧ (f s).totalResponseBytes = s.totalResponseBytes ∧
      (f s).request.cleanupRequest = s.request.cleanupRequest) :
    Asked q origin options startedAtMs sent (c.onSession f) := by
  obtain ⟨hoptions, hcredentials, hstarted, htotal, hplain⟩ := hf c.session
  refine ⟨hoptions.trans h.limits, ?_, hstarted.trans h.started, hplain.trans h.plain, h.lines,
    ?_, h.within⟩
  · rw [← h.tenant, Session.origin, Session.origin, onSession_session, hcredentials]
  · rw [← h.bytes, onSession_session, htotal]

/-- The event was the reason. -/
theorem fails (h : Asked q origin options startedAtMs sent c) {e : QueryEvent}
    (hstops : e.Stops startedAtMs options.overallTimeoutMs) :
    (c.record e).Fails q options startedAtMs :=
  ⟨h.started, .inl ⟨e, by simp, by
    rw [record_session, h.started]
    exact hstops⟩⟩

/-- The answer to the next request is within what the session may receive. -/
theorem answered (h : Asked q origin options startedAtMs sent c)
    (hline : c.session.request.line = q.lineAt origin sent) (answer : Option HttpResponse)
    (hfits : q.bytes sent ≤ c.session.remainingBytes.toNat) :
    Asked q origin options startedAtMs (sent + 1)
      ((c.record (.send c.session.request answer)).onSession fun s =>
        { s with totalResponseBytes := s.totalResponseBytes + UInt64.ofNat (q.bytes sent) }) := by
  have hleft : q.bytes sent ≤
      (left c.session.options.maxTotalResponseBytes c.session.totalResponseBytes).toNat := hfits
  have hbytes := h.bytes
  have hwithin := h.within
  have hsucc := q.received_succ sent
  refine ⟨h.limits, h.tenant, h.started, h.plain, ?_, ?_, ?_⟩
  · show (sends (c.log ++ [_])).map HttpRequest.line = _
    rw [sends_append, List.map_append, h.lines, q.lines_succ]
    show q.lines origin sent ++ [c.session.request.line] = _
    rw [hline]
  · show (c.session.totalResponseBytes + UInt64.ofNat (q.bytes sent)).toNat = _
    rw [toNat_add hleft]
    omega
  · rw [toNat_left, h.limits] at hleft
    omega

/-- The answer to the next request is more than the session may receive. -/
theorem overflows (h : Asked q origin options startedAtMs sent c) (hsent : sent < q.requests)
    (hmore : c.session.remainingBytes.toNat < q.bytes sent) : ¬ q.Fits options := by
  intro hfits
  have hall := hfits.bytes
  have hmono := q.received_mono (show sent + 1 ≤ q.requests from hsent)
  have hsucc := q.received_succ sent
  have hbytes := h.bytes
  replace hmore : (left c.session.options.maxTotalResponseBytes
      c.session.totalResponseBytes).toNat < q.bytes sent := hmore
  rw [toNat_left, h.limits] at hmore
  omega

end Asked

namespace Client.Fails

/-- The reason stays in the log. -/
theorem record (h : c.Fails q options startedAtMs) (e : QueryEvent) :
    (c.record e).Fails q options startedAtMs := by
  refine ⟨h.started, h.reason.imp_left fun hstopped => ?_⟩
  obtain ⟨e', he', hstops⟩ := hstopped
  exact ⟨e', List.mem_append_left _ he', hstops⟩

theorem cancel (h : c.Fails q options startedAtMs) :
    (Session.cancel env c).Fails q options startedAtMs := by
  unfold Session.cancel
  split
  · exact h
  · exact ⟨h.started, (h.record _).reason⟩

end Client.Fails

theorem keeps_checkActive_fails :
    Keeps (Client.Fails q options startedAtMs) (checkActive env) := by
  refine keeps_bind (keeps_bind (fun c h => ?_) fun _ => keeps_raiseIf _ _) fun _ =>
    keeps_bind (fun c h => ?_) fun _ => keeps_bind (keeps_read _) fun _ => keeps_raiseIf _ _
  · exact wp_isCancelled (fun _ _ => h.record _) (h.record _)
  · exact wp_nowMs (fun _ _ => h.record _) (h.record _)

/-- A query that may go on has looked at the flag and the clock. -/
theorem wp_checkActive_asked {Q : Unit → Client → Prop} {E : QueryError → Client → Prop}
    {C : Client → Prop} (h : Asked q origin options startedAtMs sent c)
    (next : ∀ c', c'.session = c.session → Asked q origin options startedAtMs sent c' → Q () c')
    (fail : ∀ e c', c'.Fails q options startedAtMs → E e c') : wp (checkActive env) Q E C c := by
  rw [checkActive, wp_bind, checkCancelled, wp_bind]
  refine wp_isCancelled (fun flag _ => ?_) (fail _ _ (h.fails (by simp [QueryEvent.Stops])))
  rw [wp_raiseIf]
  refine ⟨fun hflag => fail _ _ (h.fails ?_), fun _ => ?_⟩
  · show some flag ≠ some false
    simp [hflag]
  · have hflag := h.record (e := .isCancelled (some flag)) rfl
    rw [checkDeadline, wp_bind]
    refine wp_nowMs (fun now _ => ?_) (fail _ _ (hflag.fails (by simp [QueryEvent.Stops])))
    rw [wp_bind, wp_look, wp_raiseIf]
    refine ⟨fun hlate => fail _ _ (hflag.fails fun now' hnow' => ?_), fun _ => ?_⟩
    · cases hnow'
      rw [← h.limits, ← h.started]
      exact hlate
    · exact next _ rfl (hflag.record rfl)

/-- The answer of the transport, or the reason why there is none. -/
theorem wp_transport_asked {Q : HttpResponse → Client → Prop} {E : QueryError → Client → Prop}
    {C : Client → Prop} (honest : Honest env origin q)
    (h : Asked q origin options startedAtMs sent c)
    (next : ∀ response d, response.body.length = q.bytes sent →
      env.decode (c.log ++ [.send c.session.request (some response)]) response = .response d →
      q.Reports origin sent c.session.request.line d →
      Q response (c.record (.send c.session.request (some response))))
    (fail : ∀ e c', c'.Fails q options startedAtMs → E e c') :
    wp (catchAll (transportSend env c.session.request) fun _ => transportFailed env) Q E C c := by
  rw [wp_catchAll]
  refine wp_transportSend (fun response hanswer => ?_) ?_
  · obtain ⟨hbytes, d, hdecode, hreports⟩ := honest _ _ _ hanswer h.plain
    rw [h.length] at hbytes hreports
    exact next response d hbytes hdecode hreports
  · have hfails := h.fails (e := .send c.session.request none) ⟨h.plain, rfl⟩
    rw [transportFailed, wp_bind]
    exact wp_mono ((keeps_checkActive_fails.total total_checkActive) hfails)
      (fun _ c' h' => fail _ c' h') fail fun _ h' => h'.elim

theorem codecDecode_eq {c : Client} {response : HttpResponse} {d : QueryResponse}
    (h : env.decode c.log response = .response d) :
    codecDecode env response c = (.ret d, c.record (.decode response (.response d))) := by
  simp only [codecDecode, h]

/-- One exchange: the request is sent and its answer decoded. -/
theorem wp_ask {Q : QueryResponse → Client → Prop} {E : QueryError → Client → Prop}
    {C : Client → Prop} (honest : Honest env origin q)
    (h : Asked q origin options startedAtMs sent c) (hsent : sent < q.requests)
    (hline : c.session.request.line = q.lineAt origin sent)
    (next : ∀ d c', Sent c.session c'.session → Asked q origin options startedAtMs (sent + 1) c' →
      q.Reports origin sent (q.lineAt origin sent) d → Q d c')
    (fail : ∀ e c', c'.Fails q options startedAtMs → E e c') :
    wp (send env) (fun response => wp (decode env response) Q E C) E C c := by
  rw [send, wp_bind]
  refine wp_checkActive_asked h (fun c₁ hsession h₁ => ?_) fail
  rw [wp_bind]
  refine wp_nowMs (fun now _ => ?_) (fail _ _ (h₁.fails (by simp [QueryEvent.Stops])))
  have h₂ : Asked q origin options startedAtMs sent ((c₁.record (.nowMs (some now))).onSession
      fun s => { s with request := s.limitedRequest now }) :=
    (h₁.record rfl).edit fun s => ⟨rfl, rfl, rfl, rfl, rfl⟩
  simp only [wp_bind, wp_look, wp_modify]
  refine wp_transport_asked honest h₂ (fun response d hbytes hdecode hreports => ?_) fail
  rw [wp_raiseIf]
  have hkind : (c₁.session.limitedRequest now).line = q.lineAt origin sent := by
    rw [hsession]
    exact hline
  have hremaining : c₁.session.remainingBytes = c.session.remainingBytes := by rw [hsession]
  refine ⟨fun hmore => fail _ _ ⟨h₂.started, .inr (h.overflows hsent ?_)⟩, fun hfits => ?_⟩
  · rw [← hbytes, ← hremaining]
    exact hmore
  · have h₃ := h₂.answered hkind (some response) (by
      rw [← hbytes]
      exact Nat.not_lt.mp hfits)
    rw [← hbytes] at h₃
    rw [wp_pure, decode, wp_catchAll, wp_of_ret (codecDecode_eq hdecode)]
    refine next d _ ?_ (h₃.record rfl) (hkind ▸ hreports)
    rw [← hsession]
    exact ⟨_, _, _, rfl⟩

/-! ## The preparation -/

/-- A response that names no other query tells its id, or leaves it. -/
theorem wp_remember_named {d : QueryResponse} (names : q.Names d)
    (hid : c.session.queryId = q.queryId ∨ c.session.queryId = [] ∧ d.queryId = q.queryId) :
    wp (rememberQueryId d)
      (fun _ c' => c' = c.onSession fun s => { s with queryId := q.queryId })
      (fun _ _ => False) (fun _ => False) c := by
  have hnonempty := ne_nil_of_isSafeQueryId q.named
  -- after the first half the id is known
  have hown : wp (rememberOwnId d)
      (fun _ c' => c' = c.onSession fun s => { s with queryId := q.queryId })
      (fun _ _ => False) (fun _ => False) c := by
    unfold rememberOwnId
    split
    · rename_i hnone
      rcases hid with hid | hid
      · rw [wp_pure, ← hid]
        rfl
      · exact (hnonempty (hid.2.symm.trans hnone)).elim
    · rename_i hsome
      have hown : d.queryId = q.queryId := names.own.resolve_left hsome
      simp only [wp_bind, wp_raiseIf, wp_look, wp_modify, hown]
      refine ⟨fun hforbidden => hforbidden q.named, fun _ => ⟨fun hother => ?_, fun _ => trivial⟩⟩
      rcases hid with hid | hid
      · exact hother.2 hid.symm
      · exact hother.1 hid.1
  rw [rememberQueryId, wp_bind]
  refine wp_mono hown (fun _ c₁ h₁ => ?_) (fun _ _ h => h) fun _ h => h
  rw [h₁]
  unfold rememberPathId
  split
  · rename_i hpath
    simp only [wp_bind, wp_look, wp_raiseIf, wp_modify, onSession_session, names.path hpath]
    exact ⟨fun hother => hother.2 rfl, fun _ => by
      rw [Client.onSession, Client.onSession]
      simp [hnonempty]⟩
  · rfl

/-- Nothing of the result has been counted yet. -/
structure Session.Fresh (s : Session) : Prop where
  rows : s.rows = 0
  cells : s.cells = 0
  fetchedChunks : s.fetchedChunks = 0
  nextChunkIndex : s.nextChunkIndex = 0
  live : s.reconciled = false ∧ s.terminal = false ∧ s.arrowResponseOutstanding = false

theorem Session.Fresh.of_sent {s s' : Session} (h : s.Fresh) (hsent : Sent s s') : s'.Fresh := by
  obtain ⟨_, _, _, rfl⟩ := hsent
  exact ⟨h.rows, h.cells, h.fetchedChunks, h.nextChunkIndex, h.live⟩

/-- The query is known to the service and runs there. -/
structure Running (q : StoredQuery) (origin : Bytes) (options : QueryOptions)
    (startedAtMs : UInt64) (sent : Nat) (c : Client) : Prop
    extends Asked q origin options startedAtMs sent c where
  fresh : c.session.Fresh
  queryId : c.session.queryId = q.queryId

/-- An exchange about the state of the query. -/
theorem wp_exchange_status {E : QueryError → Client → Prop} {C : Client → Prop}
    {Q : QueryResponse → Client → Prop} (honest : Honest env origin q)
    (h : Asked q origin options startedAtMs sent c) (hsent : sent < q.requests)
    (hline : c.session.request.line = q.lineAt origin sent) (fresh : c.session.Fresh)
    (hstatus : ∀ d, q.Reports origin sent (q.lineAt origin sent) d → q.IsStatus sent d ∧
      (c.session.queryId = q.queryId ∨ c.session.queryId = [] ∧ d.queryId = q.queryId))
    (next : ∀ d c', Running q origin options startedAtMs (sent + 1) c' → q.IsStatus sent d →
      Q d c')
    (fail : ∀ e c', c'.Fails q options startedAtMs → E e c') :
    wp (QueryApiV3Client.exchange env) Q E C c := by
  simp only [QueryApiV3Client.exchange, wp_bind]
  refine wp_ask honest h hsent hline (fun d c₁ hsession h₁ hreports => ?_) fail
  obtain ⟨status, hid⟩ := hstatus d hreports
  have fresh₁ := fresh.of_sent hsession
  have hid₁ : c₁.session.queryId = q.queryId ∨
      c₁.session.queryId = [] ∧ d.queryId = q.queryId := by
    obtain ⟨_, _, _, hsession⟩ := hsession
    rw [hsession]
    exact hid
  refine wp_mono (wp_remember_named status.names hid₁) (fun _ c₂ h₂ => ?_) (fun _ _ h => h.elim)
    fun _ h => h.elim
  have hnamed : Asked q origin options startedAtMs (sent + 1) c₂ := by
    rw [h₂]
    exact h₁.edit fun s => ⟨rfl, rfl, rfl, rfl, rfl⟩
  refine wp_checkActive_asked hnamed (fun c₃ hsession₃ h₃ => ?_) fail
  rw [wp_pure]
  refine next d c₃ ⟨h₃, ?_, ?_⟩ status
  · rw [hsession₃, h₂]
    exact ⟨fresh₁.rows, fresh₁.cells, fresh₁.fetchedChunks, fresh₁.nextChunkIndex, fresh₁.live⟩
  · rw [hsession₃, h₂]
    rfl

/-- The loop that polls ends with the completion, after the answers that say the query
runs. -/
theorem wp_poll_served (honest : Honest env origin q) {fuel k : Nat} {d : QueryResponse}
    (h : Running q origin options startedAtMs (k + 1) c) (status : q.IsStatus k d)
    (hk : k ≤ q.polls) (hfuel : q.polls - k < fuel) :
    wp (QueryApiV3Client.poll env fuel d)
      (fun d' c' => q.IsCompletion d' ∧ Running q origin options startedAtMs (q.polls + 1) c')
      (fun _ c' => c'.Fails q options startedAtMs) (fun _ => False) c := by
  induction fuel generalizing k d c with
  | zero => omega
  | succ fuel ih =>
      rw [QueryApiV3Client.poll, wp_ite]
      constructor
      · intro hstate
        have hlast : k = q.polls := by
          by_contra hne
          exact hstate (status.running (by omega))
        subst hlast
        exact ⟨status.complete (Nat.le_refl _), h⟩
      · intro hstate
        have hmore : k < q.polls := by
          by_contra hlast
          rw [(status.complete (by omega)).state] at hstate
          exact hstate (by decide)
        simp only [wp_bind, wp_look, wp_raiseIf, wp_modify]
        refine ⟨fun hforbidden => ?_, fun _ => wp_sleepMs ?_ ?_⟩
        · exact (hforbidden (h.queryId ▸ q.named)).elim
        · refine wp_checkActive_asked (h.toAsked.record rfl) (fun c₁ hsession h₁ => ?_)
            fun _ _ h => h
          replace hsession : c₁.session = c.session := hsession
          have hurl :
              (c₁.session.getRequest c₁.session.queryUrl).line = q.lineAt origin (k + 1) := by
            rw [StoredQuery.lineAt, if_neg (by omega), if_pos (by omega)]
            show (ascii "GET", c₁.session.origin ++ queryPath ++ c₁.session.queryId) = _
            rw [h₁.tenant, hsession, h.queryId]
            rfl
          refine wp_exchange_status honest (h₁.edit fun s => ⟨rfl, rfl, rfl, rfl, rfl⟩)
            (by rw [StoredQuery.requests]; omega) hurl ?_ (fun d' hreports => ?_)
            (fun d' c' h' hstatus => ih h' hstatus (by omega) (by omega)) fun _ _ h => h
          · rw [onSession_session, hsession]
            have hfresh := h.fresh
            exact ⟨hfresh.rows, hfresh.cells, hfresh.fetchedChunks, hfresh.nextChunkIndex,
              hfresh.live⟩
          · refine ⟨hreports.status ?_, .inl ?_⟩
            · rw [StoredQuery.lineAt, if_neg (by omega), if_pos (by omega)]
            · rw [onSession_session, hsession]
              exact h.queryId
        · exact h.toAsked.fails rfl

/-! ## The chunks -/

/-- The session has counted the first `index` chunks. -/
structure Counted (q : StoredQuery) (index : Nat) (s : Session) : Prop where
  mode : s.mode = .numberedV3
  queryId : s.queryId = q.queryId
  metadata : s.metadata = q.metadata
  hasExpectedChunks : s.hasExpectedChunks = true
  expectedChunks : s.expectedChunks.toNat = q.chunks.length
  expectedRows : s.hasExpectedRows = true → s.expectedRows.toNat = q.rowCount
  fetchedChunks : s.fetchedChunks.toNat = index
  rows : s.rows.toNat = q.rowsOf index
  cells : s.cells.toNat = q.rowsOf index * q.metadata.length
  live : s.reconciled = false ∧ s.terminal = false ∧ s.arrowResponseOutstanding = false

/-- The number of chunks and the first `index` of them are within the options. -/
structure StoredQuery.Within (q : StoredQuery) (options : QueryOptions) (index : Nat) : Prop where
  chunks : q.chunks.length ≤ options.maxChunks.toNat
  rows : q.rowsOf index ≤ options.maxRows.toNat
  cells : q.rowsOf index * q.metadata.length ≤ options.maxCells.toNat

/-- Between two chunks: the first `index` chunks have been handed out. -/
structure Serving (q : StoredQuery) (origin : Bytes) (options : QueryOptions)
    (startedAtMs : UInt64) (index : Nat) (c : Client) : Prop
    extends Asked q origin options startedAtMs (q.polls + 2 + index) c where
  counted : Counted q index c.session
  nextChunkIndex : c.session.nextChunkIndex.toNat = index
  room : q.Within options index

theorem StoredQuery.rowsOf_zero (q : StoredQuery) : q.rowsOf 0 = 0 := by
  simp [StoredQuery.rowsOf]

/-- The completion is taken over, and the metadata fetched. -/
theorem wp_openCompleted_served (honest : Honest env origin q) {d : QueryResponse}
    (completion : q.IsCompletion d) (h : Running q origin options startedAtMs (q.polls + 1) c) :
    wp (QueryApiV3Client.openCompleted env d)
      (fun _ c' => Serving q origin options startedAtMs 0 c')
      (fun _ c' => c'.Fails q options startedAtMs) (fun _ => False) c := by
  have hfresh := h.fresh
  rw [QueryApiV3Client.openCompleted, wp_bind, wp_raiseIf]
  refine ⟨fun hstate => (hstate completion.state).elim, fun _ => ?_⟩
  rw [if_pos completion.numbered, QueryApiV3Client.openNumbered]
  simp only [wp_bind, wp_look, wp_raiseIf, wp_modify, id_eq]
  refine ⟨fun hforbidden => (hforbidden (h.queryId ▸ q.named)).elim, fun _ =>
    ⟨fun hmany => ⟨h.started, .inr fun hfits => ?_⟩, fun hchunks =>
    ⟨fun hlong => ⟨h.started, .inr fun hfits => ?_⟩, fun _ => ?_⟩⟩⟩
  · have hmany' := UInt64.lt_iff_toNat_lt.mp hmany
    have hfits' := hfits.chunks
    rw [h.limits, completion.chunkCount] at hmany'
    omega
  · have hlong' := UInt64.lt_iff_toNat_lt.mp hlong.2
    have hfits' := hfits.rows
    rw [h.limits, completion.rowCount hlong.1] at hlong'
    omega
  · have hwithin : q.chunks.length ≤ options.maxChunks.toNat := by
      have hchunks' := UInt64.le_iff_toNat_le.mp (UInt64.not_lt.mp hchunks)
      rwa [h.limits, completion.chunkCount] at hchunks'
    have hsent : q.polls + 1 < q.requests := by
      rw [StoredQuery.requests]
      omega
    simp only [QueryApiV3Client.fetchMetadata, wp_bind, wp_modify]
    have hasked : Asked q origin options startedAtMs (q.polls + 1)
        ((c.onSession (QueryApiV3Client.numberedSession d)).onSession fun s =>
          { s with request := s.getRequest (s.queryUrl ++ ascii "/metadata") }) := by
      have hnumbered := h.toAsked.edit (f := QueryApiV3Client.numberedSession d)
        fun s => ⟨rfl, rfl, rfl, rfl, rfl⟩
      exact hnumbered.edit fun s => ⟨rfl, rfl, rfl, rfl, rfl⟩
    refine wp_ask honest hasked hsent ?_ (fun d' c₁ hsession h₁ hreports => ?_) fun _ _ h => h
    · rw [StoredQuery.lineAt, if_neg (by omega), if_neg (by omega), if_pos rfl]
      show (ascii "GET",
        c.session.origin ++ queryPath ++ c.session.queryId ++ ascii "/metadata") = _
      rw [h.tenant, h.queryId]
      rfl
    · obtain ⟨hstate, hmetadata⟩ := hreports.metadata (by
        rw [StoredQuery.lineAt, if_neg (by omega), if_neg (by omega), if_pos rfl])
      rw [wp_raiseIf, hstate, hmetadata]
      refine ⟨fun hwrong => ?_, fun _ => ?_⟩
      · rcases hwrong with hwrong | hwrong
        · exact (hwrong rfl).elim
        · exact (q.described hwrong).elim
      · rw [wp_raiseIf, q.numeric]
        refine ⟨fun hfalse => absurd hfalse (by decide), fun _ => ?_⟩
        obtain ⟨_, _, _, hsession⟩ := hsession
        have h₂ := h₁.edit (f := fun s => { s with metadata := q.metadata })
          fun s => ⟨rfl, rfl, rfl, rfl, rfl⟩
        refine ⟨h₂, ⟨?_, ?_, rfl, ?_, ?_, ?_, ?_, ?_, ?_, ?_⟩, ?_, ⟨hwithin, ?_, ?_⟩⟩
        any_goals simp only [onSession_session, hsession]
        · rfl
        · exact h.queryId
        · rfl
        · exact completion.chunkCount
        · exact completion.rowCount
        · exact congrArg UInt64.toNat hfresh.fetchedChunks
        · rw [q.rowsOf_zero]
          exact congrArg UInt64.toNat hfresh.rows
        · rw [q.rowsOf_zero, Nat.zero_mul]
          exact congrArg UInt64.toNat hfresh.cells
        · exact hfresh.live
        · exact congrArg UInt64.toNat hfresh.nextChunkIndex
        · rw [q.rowsOf_zero]
          omega
        · rw [q.rowsOf_zero]
          omega

/-- The preparation opens the stored result. -/
theorem wp_prepareBody_served {sql : Bytes} {credentials : QueryCredentials} {fuel : Nat}
    (honest : Honest env (trimTrailingSlash credentials.instanceUrl) q) (hfuel : q.polls < fuel) :
    wp (QueryApiV3Client.prepareBody env fuel)
      (fun _ c' => Serving q (trimTrailingSlash credentials.instanceUrl) options startedAtMs 0 c' ∧
        q.metadata.length ≤ options.maxColumns.toNat)
      (fun _ c' => c'.Fails q options startedAtMs) (fun _ => False)
      { session := startSession sql credentials options startedAtMs
        log := startLog startedAtMs } := by
  have hstart : Asked q (trimTrailingSlash credentials.instanceUrl) options startedAtMs 0
      { session := startSession sql credentials options startedAtMs
        log := startLog startedAtMs } :=
    ⟨rfl, rfl, rfl, rfl, rfl, rfl, Nat.zero_le _⟩
  have hsent : 0 < q.requests := by
    rw [StoredQuery.requests]
    omega
  simp only [QueryApiV3Client.prepareBody, wp_bind]
  refine wp_exchange_status honest hstart hsent rfl ⟨rfl, rfl, rfl, rfl, rfl, rfl, rfl⟩
    (fun d hreports => ?_) (fun d c₁ h₁ hstatus => ?_) fun _ _ h => h
  · obtain ⟨hid, hstatus⟩ := hreports.submit rfl
    exact ⟨hstatus, .inr ⟨rfl, hid⟩⟩
  · refine wp_mono (wp_poll_served honest h₁ hstatus (Nat.zero_le _) (by omega))
      (fun d' c₂ h₂ => ?_) (fun _ _ h => h) fun _ h => h
    refine wp_mono (wp_openCompleted_served honest h₂.1 h₂.2) (fun _ c₃ h₃ => ?_)
      (fun _ _ h => h) fun _ h => h
    rw [wp_look, wp_raiseIf, id_eq, h₃.limits, h₃.counted.metadata]
    exact ⟨fun hmany => ⟨h₃.started, .inr fun hfits => Nat.not_le.mpr hmany hfits.columns⟩,
      fun hcolumns => ⟨h₃, Nat.not_lt.mp hcolumns⟩⟩

/-- The whole result has been handed out. -/
structure HandedOut (q : StoredQuery) (origin : Bytes) (options : QueryOptions) (c : Client) :
    Prop where
  reconciled : c.session.reconciled = true
  lines : (sends c.log).map HttpRequest.line = q.lines origin q.requests
  fits : q.metadata.length ≤ options.maxColumns.toNat → q.Fits options

/-- The end of the chunks. -/
theorem wp_finished_served (h : Serving q origin options startedAtMs q.chunks.length c) :
    wp (QueryCursor.finished : Query (Option ResultChunk))
      (fun next c' => next = none ∧ HandedOut q origin options c')
      (fun _ c' => c'.Fails q options startedAtMs) (fun _ => False) c := by
  have hcounted := h.counted
  have hreconciles : Reconciles c.session := by
    refine ⟨fun _ _ => ?_, fun hrows => ?_, fun hmode => ?_⟩
    · apply UInt64.toNat.inj
      rw [hcounted.fetchedChunks, hcounted.expectedChunks]
    · apply UInt64.toNat.inj
      rw [hcounted.rows, hcounted.expectedRows hrows, StoredQuery.rowCount]
    · exact absurd (hcounted.mode.symm.trans hmode) (by decide)
  refine wp_finished_of (fun _ => ?_) fun _ hbroken => (hbroken hreconciles).elim
  exact ⟨rfl, rfl, h.lines, fun hcolumns =>
    ⟨h.room.chunks, h.room.rows, hcolumns, h.room.cells, h.within⟩⟩

theorem StoredQuery.rowsOf_succ (q : StoredQuery) {index : Nat} (h : index < q.chunks.length) :
    q.rowsOf (index + 1) = q.rowsOf index + q.chunks[index].length := by
  rw [StoredQuery.rowsOf, StoredQuery.rowsOf, List.take_add_one, List.getElem?_eq_getElem h,
    Option.toList_some, List.map_append, List.sum_append, List.map_singleton, List.sum_singleton]

theorem StoredQuery.rowsOf_le (q : StoredQuery) {less more : Nat} (h : less ≤ more) :
    q.rowsOf less ≤ q.rowsOf more := by
  have hsplit : q.chunks.take more = q.chunks.take less ++ (q.chunks.take more).drop less := by
    conv_lhs => rw [← List.take_append_drop less (q.chunks.take more), List.take_take,
      Nat.min_eq_left h]
  rw [StoredQuery.rowsOf, StoredQuery.rowsOf, hsplit, List.map_append, List.sum_append]
  omega

theorem sameMetadata_refl (metadata : List ColumnMetadata) :
    sameMetadata metadata metadata = true := by
  rw [sameMetadata, decide_eq_true rfl, Bool.true_and, List.all_eq_true]
  intro pair hpair
  obtain ⟨k, hk, rfl⟩ := List.mem_iff_getElem.mp hpair
  rw [List.getElem_zip]
  simp

/-- A chunk of a result within the options is one that `Accept` takes. -/
theorem Counted.acceptable {index : Nat} {s : Session} (h : Counted q index s)
    (hindex : index < q.chunks.length) (hlimits : s.options = options) {d : QueryResponse}
    (hd : q.IsChunk q.chunks[index] d) (hfits : q.Fits options) : Acceptable s d := by
  have hsucc := q.rowsOf_succ hindex
  have hmono := q.rowsOf_le (show index + 1 ≤ q.chunks.length from hindex)
  have htotal : q.rowCount = q.rowsOf q.chunks.length := rfl
  have hrows := hfits.rows
  have hcells := Nat.le_trans (Nat.mul_le_mul_right q.metadata.length hmono) hfits.cells
  rw [hsucc, Nat.add_mul] at hcells
  refine ⟨hd.state, ?_, ?_, fun hreturned => ?_, ?_, ⟨?_, ?_, fun hexpected => ?_⟩⟩
  · rw [h.metadata]
    exact hd.metadata.imp_right fun hsame => by rw [hsame, sameMetadata_refl]
  · have hchunks := hfits.chunks
    rw [UInt64.lt_iff_toNat_lt, h.fetchedChunks, hlimits]
    omega
  · rw [hd.returned hreturned, hd.rows]
  · rw [hd.rows, h.metadata]
    exact q.rectangular _ (List.getElem_mem hindex)
  · rw [hd.rows, h.rows, hlimits]
    omega
  · rw [hd.rows, h.cells, h.metadata, hlimits]
    omega
  · rw [hd.rows, h.rows, h.expectedRows hexpected]
    omega

/-- A chunk that was taken is counted. -/
theorem Counted.count {index : Nat} {s : Session} (h : Counted q index s)
    (hindex : index < q.chunks.length) {d : QueryResponse} (hd : q.IsChunk q.chunks[index] d)
    (haccepts : Acceptable s d) : Counted q (index + 1) (s.count d.chunk.rows.length) := by
  have hsucc := q.rowsOf_succ hindex
  refine ⟨h.mode, h.queryId, h.metadata, h.hasExpectedChunks, h.expectedChunks, h.expectedRows,
    ?_, ?_, ?_, h.live⟩
  · show (s.fetchedChunks + 1).toNat = _
    rw [toNat_succ haccepts.chunks, h.fetchedChunks]
  · show (s.rows + UInt64.ofNat d.chunk.rows.length).toNat = _
    rw [toNat_add haccepts.admits.rows_left, h.rows, hd.rows, hsucc]
  · show (s.cells + UInt64.ofNat (d.chunk.rows.length * s.metadata.length)).toNat = _
    rw [toNat_add haccepts.admits.cells_left, h.cells, hd.rows, h.metadata, hsucc, Nat.add_mul]

/-- The response with a chunk is checked and counted, and the chunk handed out. -/
theorem wp_deliver_served {index : Nat} (hindex : index < q.chunks.length)
    (h : Asked q origin options startedAtMs (q.polls + 2 + (index + 1)) c)
    (hcounted : Counted q index c.session) (hnext : c.session.nextChunkIndex.toNat = index + 1)
    (hwithin : q.Within options index) {d : QueryResponse} (hd : q.IsChunk q.chunks[index] d) :
    wp (QueryCursor.deliver env d)
      (fun next c' => ∃ chunk, next = some chunk ∧ chunk.rows = q.chunks[index] ∧
        Serving q origin options startedAtMs (index + 1) c')
      (fun _ c' => c'.Fails q options startedAtMs) (fun _ => False) c := by
  rw [QueryCursor.deliver, wp_bind]
  refine wp_mono (wp_remember_named hd.names (.inl hcounted.queryId)) (fun _ c₁ h₁ => ?_)
    (fun _ _ h => h.elim) fun _ h => h
  have hsession₁ : c₁ = c := by
    rw [h₁, Client.onSession, ← hcounted.queryId]
  rw [hsession₁, wp_bind]
  refine wp_checkActive_asked h (fun c₂ hsession h₂ => ?_) fun _ _ h => h
  rw [wp_bind]
  refine wp_mono (wp_accept_exact d c₂) (fun chunk c₃ h₃ => ?_) (fun _ c₃ h₃ => ?_) fun _ h => h
  · obtain ⟨haccepts, rfl, rfl⟩ := h₃
    rw [hsession] at haccepts
    have hcount := hcounted.count hindex hd haccepts
    have hrows := haccepts.admits.rows
    have hcells := haccepts.admits.cells
    rw [h.limits, hcounted.rows, hd.rows] at hrows
    rw [h.limits, hcounted.cells, hcounted.metadata, hd.rows] at hcells
    have hsucc := q.rowsOf_succ hindex
    have hrowsWithin := hwithin.rows
    have hcellsWithin := hwithin.cells
    -- a numbered session does not follow the chunk
    have hfollow : (c₂.onSession (Session.count d.chunk.rows.length)).onSession
        (QueryCursor.follow d.chunk) = c₂.onSession (Session.count d.chunk.rows.length) := by
      have hmode : (c₂.session.count d.chunk.rows.length).mode ≠ .directLegacy := by
        show c₂.session.mode ≠ .directLegacy
        rw [hsession, hcounted.mode]
        decide
      rw [Client.onSession, onSession_session, QueryCursor.follow, if_neg hmode]
      rfl
    rw [wp_bind, wp_modify, wp_pure, hfollow]
    refine ⟨_, rfl, hd.rows, h₂.edit fun s => ⟨rfl, rfl, rfl, rfl, rfl⟩, ?_, ?_,
      ⟨hwithin.chunks, ?_, ?_⟩⟩
    · rw [onSession_session, hsession]
      exact hcount
    · rw [onSession_session, hsession]
      exact hnext
    · omega
    · rw [hsucc, Nat.add_mul]
      omega
  · refine ⟨?_, .inr fun hfits => h₃.1 ?_⟩
    · obtain ⟨-, k, -, rfl⟩ := h₃
      exact h₂.started
    · rw [hsession]
      exact hcounted.acceptable hindex h.limits hd hfits

/-- One call of `NextChunk`. -/
theorem wp_nextChunk_served (honest : Honest env origin q) {index : Nat}
    (h : Serving q origin options startedAtMs index c) (hindex : index ≤ q.chunks.length) :
    wp (QueryCursor.nextChunk env)
      (fun next c' => (index = q.chunks.length ∧ next = none ∧ HandedOut q origin options c') ∨
        ∃ hmore : index < q.chunks.length, ∃ chunk, next = some chunk ∧
          chunk.rows = q.chunks[index] ∧ Serving q origin options startedAtMs (index + 1) c')
      (fun _ c' => c'.Fails q options startedAtMs) (fun _ => False) c := by
  have hcounted := h.counted
  simp only [QueryCursor.nextChunk, wp_bind, wp_look, wp_raiseIf, id_eq]
  refine ⟨fun hout => absurd (hcounted.live.2.2.symm.trans hout) (by decide), fun _ => ?_⟩
  rw [hcounted.live.1, if_neg (by decide), wp_bind, wp_raiseIf]
  refine ⟨fun hout => absurd (hcounted.live.2.1.symm.trans hout) (by decide), fun _ => ?_⟩
  rw [wp_onRaise, QueryCursor.nextChunkBody, wp_bind, wp_look, id_eq, if_pos hcounted.mode,
    QueryCursor.nextNumbered, wp_bind, wp_look, id_eq, wp_ite]
  constructor
  · intro hend
    have hlast : index = q.chunks.length := by
      have hend' := UInt64.le_iff_toNat_le.mp hend
      rw [hcounted.expectedChunks, h.nextChunkIndex] at hend'
      omega
    subst hlast
    exact wp_mono (wp_finished_served h) (fun _ _ h' => .inl ⟨rfl, h'⟩) (fun _ _ h' => h'.cancel)
      fun _ h => h
  · intro hgoes
    have hmore : index < q.chunks.length := by
      have hgoes' := UInt64.lt_iff_toNat_lt.mp (UInt64.not_le.mp hgoes)
      rwa [hcounted.expectedChunks, h.nextChunkIndex] at hgoes'
    have hsent : q.polls + 2 + index < q.requests := by
      rw [StoredQuery.requests]
      omega
    have hkind : q.lineAt origin (q.polls + 2 + index) = q.chunkLine origin index := by
      rw [StoredQuery.lineAt, if_neg (by omega), if_neg (by omega), if_neg (by omega)]
      congr 1
      omega
    have hnext : c.session.nextChunkIndex < c.session.expectedChunks := UInt64.not_le.mp hgoes
    have hasked : Asked q origin options startedAtMs (q.polls + 2 + index)
        (c.onSession QueryCursor.numberedRequest) := by
      have := h.toAsked
      exact this.edit fun s => ⟨rfl, rfl, rfl, rfl, rfl⟩
    simp only [QueryCursor.fetchNumbered, wp_bind, wp_modify]
    refine wp_ask honest hasked hsent ?_ (fun d c₁ hsession h₁ hreports => ?_)
      fun _ _ h' => h'.cancel
    · rw [hkind]
      show (ascii "GET", c.session.origin ++ queryPath ++ c.session.queryId ++ chunksSeparator ++
        toDecimal c.session.nextChunkIndex.toNat) = _
      rw [h.tenant, hcounted.queryId, h.nextChunkIndex]
      rfl
    · obtain ⟨_, _, _, hsession⟩ := hsession
      refine wp_mono (wp_deliver_served hmore h₁ ?_ ?_ h.room
        (hreports.chunk index hmore hkind)) (fun _ _ h' => .inr ⟨hmore, h'⟩)
        (fun _ _ h' => h'.cancel) fun _ h => h
      · rw [hsession]
        exact ⟨hcounted.mode, hcounted.queryId, hcounted.metadata, hcounted.hasExpectedChunks,
          hcounted.expectedChunks, hcounted.expectedRows, hcounted.fetchedChunks, hcounted.rows,
          hcounted.cells, hcounted.live⟩
      · rw [hsession]
        show (c.session.nextChunkIndex + 1).toNat = _
        rw [toNat_succ hnext, h.nextChunkIndex]

/-- The loop of `Execute`. -/
theorem wp_executeLoop_served (honest : Honest env origin q) {fuel index : Nat}
    {chunks : List ResultChunk} (h : Serving q origin options startedAtMs index c)
    (hindex : index ≤ q.chunks.length) (hfuel : q.chunks.length - index < fuel)
    (hchunks : chunks.map (·.rows) = q.chunks.take index) :
    wp (QueryApiV3Client.executeLoop env fuel chunks)
      (fun all c' => all.map (·.rows) = q.chunks ∧ HandedOut q origin options c')
      (fun _ c' => c'.Fails q options startedAtMs) (fun _ => False) c := by
  induction fuel generalizing index chunks c with
  | zero => omega
  | succ fuel ih =>
      rw [QueryApiV3Client.executeLoop, wp_bind]
      refine wp_mono (wp_nextChunk_served honest h hindex) (fun next c' h' => ?_)
        (fun _ _ h => h) fun _ h => h
      rcases h' with h' | h'
      · obtain ⟨rfl, rfl, hdone⟩ := h'
        rw [List.take_length] at hchunks
        exact ⟨hchunks, hdone⟩
      · obtain ⟨hmore, chunk, rfl, hrows, hserving⟩ := h'
        refine ih hserving hmore (by omega) ?_
        rw [List.map_append, hchunks, List.map_singleton, hrows]
        exact List.take_concat_get' _ _ hmore

/-! ## The query -/

/-- The preparation of a query with arguments that pass the checks. -/
theorem wp_prepareInternal_served {sql : Bytes} {credentials : QueryCredentials} {fuel : Nat}
    (hsql : sql ≠ []) (hcredentials : Trusted credentials)
    (honest : Honest env (trimTrailingSlash credentials.instanceUrl) q) (hfuel : q.polls < fuel) :
    wp (QueryApiV3Client.prepareInternal env fuel sql credentials false options)
      (fun _ c' => (∃ startedAtMs,
        Serving q (trimTrailingSlash credentials.instanceUrl) options startedAtMs 0 c') ∧
        q.metadata.length ≤ options.maxColumns.toNat)
      (fun _ c' => ¬ q.Fits options ∨ c'.Stopped options) (fun _ => False) {} := by
  rw [QueryApiV3Client.prepareInternal, wp_bind, checkCancelled, wp_bind]
  refine wp_isCancelled (fun flag hflag => ?_) (.inr ⟨_, List.mem_singleton_self _, by
    simp [QueryEvent.Stops]⟩)
  rw [wp_raiseIf]
  refine ⟨fun hcancelled => .inr ⟨_, List.mem_singleton_self _, ?_⟩, fun hgoes => ?_⟩
  · show some flag ≠ some false
    simp [hcancelled]
  obtain rfl : flag = false := Bool.eq_false_of_not_eq_true hgoes
  simp only [wp_bind, wp_raiseIf, wp_modify, wp_onRaise, wp_update, QueryApiV3Client.prepareSession]
  refine ⟨fun hnil => (hsql hnil).elim,
    fun _ => ⟨fun hnil => ?_, fun _ => ⟨fun hurl => ?_, fun _ => ?_⟩⟩⟩
  · exact (hnil.elim hcredentials.nonempty hcredentials.token).elim
  · exact (hurl hcredentials.url).elim
  · refine wp_nowMs (fun now _ => ?_) ?_
    · refine wp_mono (wp_prepareBody_served honest hfuel)
        (fun _ c' h => ⟨⟨now, h.1⟩, h.2⟩) (fun _ c' h => ?_) fun _ h => h
      exact h.cancel.cancel.reason.symm
    · have hfails : Client.Fails q options 0 (Client.record (Client.onSession (Client.record {}
          (.isCancelled (some false))) fun _ => { options, credentials }) (.nowMs none)) :=
        ⟨rfl, .inl ⟨.nowMs none, by simp, by simp [QueryEvent.Stops]⟩⟩
      exact hfails.cancel.reason.symm

/-- `Execute`, against a service that keeps the result of the query: it returns the result
as it is stored, after one request for each answer that it needs, or it throws, and then
the result does not fit in the options, or the log shows what ended the query. -/
theorem execute_served {sql : Bytes} {credentials : QueryCredentials} {fuel : Nat}
    (hsql : sql ≠ []) (hcredentials : Trusted credentials)
    (honest : Honest env (trimTrailingSlash credentials.instanceUrl) q)
    (hpolls : q.polls < fuel) (hchunks : q.chunks.length < fuel) :
    (∃ chunks c, QueryApiV3Client.execute env fuel sql credentials options {} =
        (.ret ⟨q.metadata, chunks⟩, c) ∧
      chunks.map (·.rows) = q.chunks ∧ q.Fits options ∧
      (sends c.log).map HttpRequest.line =
        q.lines (trimTrailingSlash credentials.instanceUrl) q.requests) ∨
    ∃ e c, QueryApiV3Client.execute env fuel sql credentials options {} = (.raise e, c) ∧
      (¬ q.Fits options ∨ c.Stopped options) := by
  have hrun : wp (QueryApiV3Client.execute env fuel sql credentials options)
      (fun result c => ∃ chunks, result = ⟨q.metadata, chunks⟩ ∧ chunks.map (·.rows) = q.chunks ∧
        q.Fits options ∧ (sends c.log).map HttpRequest.line =
          q.lines (trimTrailingSlash credentials.instanceUrl) q.requests)
      (fun _ c => ¬ q.Fits options ∨ c.Stopped options) (fun _ => False) {} := by
    rw [QueryApiV3Client.execute, wp_bind]
    refine wp_mono (wp_prepareInternal_served hsql hcredentials honest hpolls) (fun _ c₁ h₁ => ?_)
      (fun _ _ h => h) fun _ h => h
    obtain ⟨⟨startedAtMs, hserving⟩, hcolumns⟩ := h₁
    simp only [withDestructor, wp_bind, wp_onRaise, wp_update, QueryApiV3Client.collectChunks,
      wp_look, wp_pure]
    refine wp_mono (wp_executeLoop_served honest hserving (Nat.zero_le _) (by omega) rfl)
      (fun chunks c₂ h₂ => ?_) (fun _ c₂ h₂ => h₂.cancel.reason.symm) fun _ h => h
    obtain ⟨hrows, hdone⟩ := h₂
    rw [cancel_of_reconciled hdone.reconciled]
    exact ⟨chunks, by rw [hserving.counted.metadata], hrows, hdone.fits hcolumns, hdone.lines⟩
  rw [wp_iff] at hrun
  obtain ⟨hret, hraise, hcut⟩ := hrun
  rcases hexecute : QueryApiV3Client.execute env fuel sql credentials options {} with ⟨outcome, c⟩
  cases outcome with
  | ret result =>
      obtain ⟨chunks, rfl, h⟩ := hret _ _ hexecute
      exact .inl ⟨chunks, c, rfl, h⟩
  | raise e => exact .inr ⟨e, c, rfl, hraise _ _ hexecute⟩
  | cut => exact (hcut _ hexecute).elim

/-- A result of one column in two chunks. -/
def sampleStored : StoredQuery where
  queryId := ascii "q1"
  metadata := [⟨ascii "a", ascii "varchar", true, false, false, 0, 0⟩]
  chunks := [[[some (ascii "x")]], [[none], [none]]]
  polls := 1
  bytes _ := 2
  named := by decide
  described := by simp
  numeric := by decide
  rectangular := by decide

/-- What a service says about it. -/
def sampleReply (sent : Nat) (line : Bytes × Bytes) : QueryResponse :=
  let origin := trimTrailingSlash sampleCredentials.instanceUrl
  let status : QueryResponse :=
    if sent < 1 then { queryId := ascii "q1" }
    else { state := .complete, queryId := ascii "q1", chunkCount := 2, hasChunkCount := true }
  if line = StoredQuery.submitLine origin then status
  else if line = sampleStored.statusLine origin then status
  else if line = sampleStored.metadataLine origin then
    { state := .complete, metadata := sampleStored.metadata }
  else if line = sampleStored.chunkLine origin 0 then
    { state := .complete, chunk := { rows := [[some (ascii "x")]] } }
  else { state := .complete, chunk := { rows := [[none], [none]] } }

/-- The surroundings of a query to that service. -/
def sampleService : QueryEnv where
  send _ _ := some { status := 200, body := [123, 125] }
  decode log _ := match log.getLast? with
    | some (.send r _) => .response (sampleReply (sends log).length.pred r.line)
    | _ => .failure
  isCancelled _ := some false
  nowMs _ := some 7
  sleepMs _ _ := true

theorem honest_sampleService :
    Honest sampleService (trimTrailingSlash sampleCredentials.instanceUrl) sampleStored := by
  intro past r response hanswer _
  cases hanswer
  have hstatus (sent : Nat) : sampleStored.IsStatus sent
      (if sent < 1 then { queryId := ascii "q1" }
        else { state := .complete, queryId := ascii "q1", chunkCount := 2,
               hasChunkCount := true }) := by
    by_cases h : sent < 1
    · rw [if_pos h]
      exact ⟨⟨.inr rfl, fun hpath => absurd hpath (by decide)⟩, fun _ => rfl,
        fun hle => (Nat.not_le.mpr h hle).elim⟩
    · rw [if_neg h]
      exact ⟨⟨.inr rfl, fun hpath => absurd hpath (by decide)⟩, fun hlt => (h hlt).elim,
        fun _ => ⟨rfl, .inl rfl, rfl, fun hrows => absurd hrows (by decide)⟩⟩
  refine ⟨rfl, sampleReply (sends past).length r.line, ?_, ?_, ?_, ?_, ?_⟩
  · simp [sampleService, sends_append]
  · intro hline
    rw [hline, sampleReply, if_pos rfl]
    refine ⟨?_, hstatus _⟩
    split
    · rfl
    · rfl
  · intro hline
    rw [hline, sampleReply, if_neg (by decide +kernel), if_pos rfl]
    exact hstatus _
  · intro hline
    rw [hline, sampleReply, if_neg (by decide +kernel), if_neg (by decide +kernel), if_pos rfl]
    exact ⟨rfl, rfl⟩
  · intro index hindex hline
    rw [hline, sampleReply]
    rcases index with _ | _ | index
    · rw [if_neg (by decide +kernel), if_neg (by decide +kernel), if_neg (by decide +kernel),
        if_pos rfl]
      exact ⟨⟨.inl rfl, fun hpath => absurd hpath (by decide)⟩, rfl, .inl rfl,
        fun h => absurd h (by decide), rfl⟩
    · rw [if_neg (by decide +kernel), if_neg (by decide +kernel), if_neg (by decide +kernel),
        if_neg (by decide +kernel)]
      exact ⟨⟨.inl rfl, fun hpath => absurd hpath (by decide)⟩, rfl, .inl rfl,
        fun h => absurd h (by decide), rfl⟩
    · exact absurd hindex (by simp [sampleStored])

/-- The run that asks it. -/
theorem execute_served_sample :
    (∃ chunks c, QueryApiV3Client.execute sampleService 3 (ascii "select") sampleCredentials {} {} =
        (.ret ⟨sampleStored.metadata, chunks⟩, c) ∧
      chunks.map (·.rows) = sampleStored.chunks ∧ sampleStored.Fits {} ∧
      (sends c.log).map HttpRequest.line =
        sampleStored.lines (trimTrailingSlash sampleCredentials.instanceUrl)
          sampleStored.requests) ∨
    ∃ e c, QueryApiV3Client.execute sampleService 3 (ascii "select") sampleCredentials {} {} =
        (.raise e, c) ∧ (¬ sampleStored.Fits {} ∨ c.Stopped {}) :=
  execute_served (by decide) ⟨by decide, by decide +kernel⟩ honest_sampleService (by decide)
    (by decide)

end Data360
