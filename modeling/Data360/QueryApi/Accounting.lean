import Data360.Lib.Quota
import Data360.QueryApi.Calls

/-!
# The counters of a session

What `Send`, `Accept` and `ReportArrowChunk` count, and that they count without
wrapping.

* `Admits` says which number of rows the limits of a session still allow, and
  `Session.count` what the counters are after it.  `wp_send_exact`,
  `wp_accept_exact` and `wp_reportBody_exact` say what the three operations do
  to the counters, and when they refuse.
* `ExactCounting` says the same of the numbers behind the words.
* `Tallied` is the invariant: the counters are within their limits, the bytes
  are those of the log, and no request asks for more than what is left.
* `counters_account` is the result for runs.
-/

namespace Data360

open Lib Lib.ByteString Lib.Prog Lib.Quota Session

variable {env : QueryEnv}

/-! ## Counting a chunk -/

/-- The limits of the session allow `count` more rows of its width. -/
structure Admits (s : Session) (count : Nat) : Prop where
  rows : count ≤ s.options.maxRows.toNat - s.rows.toNat
  cells : count * s.metadata.length ≤ s.options.maxCells.toNat - s.cells.toNat
  expected : s.hasExpectedRows = true → count ≤ s.expectedRows.toNat - s.rows.toNat

/-- The limits as the session computes them. -/
theorem admits_iff_left {s : Session} {count : Nat} :
    Admits s count ↔ count ≤ (left s.options.maxRows s.rows).toNat ∧
      count * s.metadata.length ≤ (left s.options.maxCells s.cells).toNat ∧
      (s.hasExpectedRows = true → count ≤ (left s.expectedRows s.rows).toNat) := by
  simp only [toNat_left]
  exact ⟨fun h => ⟨h.rows, h.cells, h.expected⟩, fun h => ⟨h.1, h.2.1, h.2.2⟩⟩

theorem Admits.rows_left {s : Session} {count : Nat} (h : Admits s count) :
    count ≤ (left s.options.maxRows s.rows).toNat := (admits_iff_left.mp h).1

theorem Admits.cells_left {s : Session} {count : Nat} (h : Admits s count) :
    count * s.metadata.length ≤ (left s.options.maxCells s.cells).toNat :=
  (admits_iff_left.mp h).2.1

theorem Admits.expected_left {s : Session} {count : Nat} (h : Admits s count)
    (hhas : s.hasExpectedRows = true) : count ≤ (left s.expectedRows s.rows).toNat :=
  (admits_iff_left.mp h).2.2 hhas

/-- The cells of `count` rows. -/
def Session.addCells (count : Nat) (s : Session) : Session :=
  { s with cells := s.cells + UInt64.ofNat (count * s.metadata.length) }

/-- The counters after a chunk of `count` rows. -/
def Session.count (count : Nat) (s : Session) : Session :=
  { s with
    rows := s.rows + UInt64.ofNat count
    cells := s.cells + UInt64.ofNat (count * s.metadata.length)
    fetchedChunks := s.fetchedChunks + 1 }

/-- What `Session::Accept` asks of a response. -/
structure Acceptable (s : Session) (response : QueryResponse) : Prop where
  complete : response.state = .complete
  schema : response.metadata = [] ∨ sameMetadata s.metadata response.metadata = true
  chunks : s.fetchedChunks < s.options.maxChunks
  returned : response.hasReturnedRows = true →
    response.returnedRows.toNat = response.chunk.rows.length
  widths : ∀ row ∈ response.chunk.rows, row.length = s.metadata.length
  admits : Admits s response.chunk.rows.length

/-- The loop over the rows adds their cells, up to the first row that is refused. -/
theorem wp_acceptRows_exact (rows : List (List Cell)) (c : Client) :
    wp (acceptRows rows)
      (fun _ c' => (∀ row ∈ rows, row.length = c.session.metadata.length) ∧
        rows.length * c.session.metadata.length
          ≤ (left c.session.options.maxCells c.session.cells).toNat ∧
        c' = c.onSession (addCells rows.length))
      (fun _ c' => ¬ ((∀ row ∈ rows, row.length = c.session.metadata.length) ∧
          rows.length * c.session.metadata.length
            ≤ (left c.session.options.maxCells c.session.cells).toNat) ∧
        ∃ k, k * c.session.metadata.length
            ≤ (left c.session.options.maxCells c.session.cells).toNat ∧
          c' = c.onSession (addCells k))
      (fun _ => False) c := by
  have hsame (c : Client) : c = c.onSession (addCells 0) := by
    simp [Client.onSession, addCells]
  induction rows generalizing c with
  | nil => exact ⟨by simp, by simp, hsame c⟩
  | cons row rest ih =>
      rw [acceptRows, wp_bind, acceptRow]
      simp only [wp_bind, wp_look, wp_raiseIf, wp_modify, id_eq]
      refine ⟨fun hrow => ⟨fun h => hrow (h.1 row List.mem_cons_self), 0, by simp, hsame c⟩,
        fun hrow => ⟨fun hmore => ⟨fun h => ?_, 0, by simp, hsame c⟩, fun hfits => ?_⟩⟩
      · have hmore' : (left c.session.options.maxCells c.session.cells).toNat < row.length := hmore
        have hlast := h.2
        rw [h.1 row List.mem_cons_self] at hmore'
        rw [List.length_cons, Nat.succ_mul] at hlast
        omega
      · have hrow' : row.length = c.session.metadata.length := Decidable.not_not.mp hrow
        have hfits' : c.session.metadata.length
            ≤ (left c.session.options.maxCells c.session.cells).toNat := by
          rw [← hrow']
          exact Nat.not_lt.mp hfits
        -- what is left after the row
        have hleft : (left c.session.options.maxCells
              (c.session.cells + UInt64.ofNat c.session.metadata.length)).toNat
            = (left c.session.options.maxCells c.session.cells).toNat
              - c.session.metadata.length := by
          rw [toNat_left, toNat_add hfits', toNat_left]
          omega
        have hcells (k : Nat) : (c.onSession fun s =>
              { s with cells := s.cells + UInt64.ofNat row.length }).onSession (addCells k)
            = c.onSession (addCells (k + 1)) := by
          simp only [Client.onSession, addCells, hrow', Nat.succ_mul, UInt64.ofNat_add]
          rw [UInt64.add_assoc, UInt64.add_comm (UInt64.ofNat c.session.metadata.length)]
        refine wp_mono (ih _) (fun _ c' h => ?_) (fun _ c' h => ?_) fun _ h => h
        · obtain ⟨hwidths, hrest, rfl⟩ := h
          simp only [onSession_session, hrow', hleft] at hrest hwidths
          refine ⟨List.forall_mem_cons.mpr ⟨hrow', hwidths⟩, ?_, ?_⟩
          · rw [List.length_cons, Nat.succ_mul]
            omega
          · rw [hcells]
            rfl
        · obtain ⟨hrefused, k, hk, rfl⟩ := h
          simp only [onSession_session, hrow', hleft] at hrefused hk
          refine ⟨fun h => hrefused ⟨fun r hr => h.1 r (List.mem_cons_of_mem _ hr), ?_⟩, k + 1, ?_,
            hcells k⟩
          · have hall := h.2
            rw [List.length_cons, Nat.succ_mul] at hall
            omega
          · rw [Nat.succ_mul]
            omega

/-- `Accept` counts what is acceptable and refuses the rest. -/
theorem wp_accept_exact (response : QueryResponse) (c : Client) :
    wp (accept response)
      (fun chunk c' => Acceptable c.session response ∧ chunk = response.chunk ∧
        c' = c.onSession (Session.count response.chunk.rows.length))
      (fun _ c' => ¬ Acceptable c.session response ∧
        ∃ k, k * c.session.metadata.length
            ≤ (left c.session.options.maxCells c.session.cells).toNat ∧
          c' = c.onSession (addCells k))
      (fun _ => False) c := by
  have hsame : ∃ k, k * c.session.metadata.length
      ≤ (left c.session.options.maxCells c.session.cells).toNat ∧
        c = c.onSession (addCells k) := ⟨0, by simp, by simp [Client.onSession, addCells]⟩
  rw [accept, wp_bind, acceptChecks]
  simp only [wp_bind, wp_look, wp_raiseIf, id_eq]
  refine ⟨fun hstate => ⟨fun h => hstate h.complete, hsame⟩, fun hstate =>
    ⟨fun hschema => ⟨fun h => ?_, hsame⟩, fun hschema =>
    ⟨fun hchunks => ⟨fun h => UInt64.not_le.mpr h.chunks hchunks, hsame⟩, fun hchunks =>
    ⟨fun hreturned => ⟨fun h => hreturned.2 (h.returned hreturned.1), hsame⟩, fun hreturned =>
    ⟨fun hrows => ⟨fun h => Nat.not_le.mpr hrows h.admits.rows_left, hsame⟩, fun hrows => ?_⟩⟩⟩⟩⟩
  · rcases h.schema with hempty | hsame'
    · exact hschema.1 hempty
    · exact hschema.2 hsame'
  refine wp_mono (wp_acceptRows_exact response.chunk.rows c) ?_
    (fun _ c' h => ⟨fun hacceptable =>
      h.1 ⟨hacceptable.widths, hacceptable.admits.cells_left⟩, h.2⟩)
    fun _ h => h
  intro _ c' haccepted
  obtain ⟨hwidths, hcells, rfl⟩ := haccepted
  refine ⟨fun hexpected => ⟨fun h => ?_, _, hcells, rfl⟩, fun hexpected =>
    ⟨⟨Decidable.not_not.mp hstate, ?_, UInt64.not_le.mp hchunks, fun hhas => ?_, hwidths,
      admits_iff_left.mpr ⟨Nat.not_lt.mp hrows, hcells, fun hhas => ?_⟩⟩, rfl, rfl⟩⟩
  · exact Nat.not_le.mpr hexpected.2 (h.admits.expected_left hexpected.1)
  · by_contra hdiffers
    exact hschema ⟨fun h => hdiffers (.inl h), fun h => hdiffers (.inr h)⟩
  · by_contra hother
    exact hreturned ⟨hhas, hother⟩
  · by_contra hmore
    exact hexpected ⟨hhas, Nat.not_le.mp hmore⟩

/-- `ReportArrowChunk` counts the rows that the limits allow, and refuses others. -/
theorem wp_reportBody_exact {L : List QueryEvent → Prop} (hL : Idle L) (decodedRows : UInt64)
    {c : Client} (hc : L c.log) :
    wp (QueryCursor.reportBody env decodedRows)
      (fun _ c' => L c'.log ∧ Admits c.session decodedRows.toNat ∧
        c'.session = { c.session.count decodedRows.toNat with
          nextChunkIndex := c.session.nextChunkIndex + 1
          arrowResponseOutstanding := false })
      (fun e c' => L c'.log ∧ c'.session = c.session ∧
        ((∃ c₁, checkActive env c = (.raise e, c₁)) ∨ ¬ Admits c.session decodedRows.toNat))
      (fun _ => False) c := by
  have hstart : Ongoing L (· = c.session) c := ⟨hc, rfl⟩
  rw [QueryCursor.reportBody, wp_bind]
  have hactive := @keeps_checkActive env _ _ hL c hstart
  have htotal := @wp_checkActive env _ _ hL c hstart
  rw [wp_iff] at hactive htotal ⊢
  refine ⟨fun _ c' hrun => ?_, fun e c' hrun => ?_, fun c' hrun => htotal.2.2 c' hrun⟩
  · obtain ⟨hlog, hsession⟩ := hactive.1 _ c' hrun
    simp only [wp_bind, wp_look, wp_raiseIf, wp_modify, id_eq, hsession]
    refine ⟨fun hmore => ⟨hlog, trivial, .inr fun h => ?_⟩, fun hfits =>
      ⟨fun hmore => ⟨hlog, trivial, .inr fun h => ?_⟩, fun hexpected => ?_⟩⟩
    · rcases hmore with hrows | ⟨hwidth, hcells⟩
      · exact Nat.not_le.mpr (UInt64.lt_iff_toNat_lt.mp hrows) h.rows_left
      · exact Nat.not_le.mpr hcells (mul_le_left_iff.mpr h.cells_left hwidth)
    · exact Nat.not_le.mpr (UInt64.lt_iff_toNat_lt.mp hmore.2) (h.expected_left hmore.1)
    · have hadmits : Admits c.session decodedRows.toNat := by
        refine admits_iff_left.mpr ⟨?_, mul_le_left_iff.mp fun hwidth => ?_, fun hhas => ?_⟩
        · by_contra hmore
          exact hfits (.inl (UInt64.lt_iff_toNat_lt.mpr (Nat.not_le.mp hmore)))
        · by_contra hmore
          exact hfits (.inr ⟨hwidth, Nat.not_le.mp hmore⟩)
        · by_contra hmore
          exact hexpected ⟨hhas, UInt64.lt_iff_toNat_lt.mpr (Nat.not_le.mp hmore)⟩
      refine ⟨hlog, hadmits, ?_⟩
      rw [onSession_session, hsession]
      simp only [QueryCursor.countArrow, Session.count, UInt64.ofNat_mul, UInt64.ofNat_toNat]
  · obtain ⟨hlog, hsession⟩ := hactive.2.1 e c' hrun
    exact ⟨hlog, hsession, .inl ⟨c', hrun⟩⟩

/-! ## The bytes of the log -/

/-- The bytes of the bodies. -/
def bodyBytes (responses : List HttpResponse) : Nat := (responses.map (·.body.length)).sum

/-- A response to a request that is no cleanup is accepted when it fits in what
is left of the limit. -/
def receive (limit : Nat) (past : List HttpResponse) : QueryEvent → List HttpResponse
  | .send r (some response) =>
      if r.cleanupRequest = false ∧ response.body.length ≤ limit - bodyBytes past then
        past ++ [response]
      else past
  | _ => past

/-- The responses that were accepted, in order. -/
def acceptedResponses (limit : Nat) (log : List QueryEvent) : List HttpResponse :=
  log.foldl (receive limit) []

/-- The bytes that were accepted. -/
def acceptedBytes (limit : Nat) (log : List QueryEvent) : Nat :=
  bodyBytes (acceptedResponses limit log)

/-- No request but the cleanup may bring more than what is left of the limit. -/
def Budgeted (limit : Nat) (log : List QueryEvent) : Prop :=
  ∀ past r answer rest, log = past ++ .send r answer :: rest → r.cleanupRequest = false →
    r.maxResponseBytes.toNat ≤ limit - acceptedBytes limit past

/-- The log has brought `bytes` bytes, each request within its budget. -/
structure LogAt (limit : Nat) (bytes : UInt64) (log : List QueryEvent) : Prop where
  accepted : bytes.toNat = acceptedBytes limit log
  budget : Budgeted limit log

theorem acceptedBytes_concat (limit : Nat) (log : List QueryEvent) (e : QueryEvent) :
    acceptedBytes limit (log ++ [e])
      = bodyBytes (receive limit (acceptedResponses limit log) e) := by
  rw [acceptedBytes, acceptedResponses, List.foldl_concat]
  rfl

theorem acceptedBytes_unsent (limit : Nat) (log : List QueryEvent) {e : QueryEvent}
    (h : sends [e] = []) : acceptedBytes limit (log ++ [e]) = acceptedBytes limit log := by
  rw [acceptedBytes_concat]
  cases e with
  | send r answer => cases h
  | decode | isCancelled | nowMs | sleepMs => rfl

/-- One more event keeps the budget when it is no request, or one within it. -/
theorem Budgeted.concat {limit : Nat} {log : List QueryEvent} (h : Budgeted limit log)
    {e : QueryEvent} (he : ∀ r answer, e = .send r answer → r.cleanupRequest = false →
      r.maxResponseBytes.toNat ≤ limit - acceptedBytes limit log) :
    Budgeted limit (log ++ [e]) := by
  intro past r answer rest hsplit hr
  rcases concat_eq_append_cons hsplit with ⟨-, rfl, hlast⟩ | ⟨rest', -, hlog⟩
  · exact he r answer hlast hr
  · exact h past r answer rest' hlog hr

theorem LogAt.unsent {limit : Nat} {bytes : UInt64} {log : List QueryEvent}
    (h : LogAt limit bytes log) {e : QueryEvent} (he : sends [e] = []) :
    LogAt limit bytes (log ++ [e]) := by
  refine ⟨by rw [acceptedBytes_unsent limit log he, h.accepted], h.budget.concat ?_⟩
  rintro r answer rfl
  cases he

/-- A log without requests has brought nothing. -/
theorem logAt_unsent {limit : Nat} {log : List QueryEvent} (h : sends log = []) :
    LogAt limit 0 log := by
  induction log using List.reverseRec with
  | nil => exact ⟨rfl, fun past r answer rest hsplit => by simp at hsplit⟩
  | append_singleton log e ih =>
      rw [sends_append, List.append_eq_nil_iff] at h
      exact (ih h.1).unsent h.2

theorem idle_logAt (limit : Nat) (bytes : UInt64) : Idle (LogAt limit bytes) :=
  ⟨fun h hquiet => h.unsent (sends_quiet hquiet), fun h _ => h.unsent rfl⟩

/-- A request within its budget whose answer does not count. -/
theorem LogAt.uncounted {limit : Nat} {bytes : UInt64} {log : List QueryEvent}
    (h : LogAt limit bytes log) {r : HttpRequest} {answer : Option HttpResponse}
    (hr : r.cleanupRequest = false → r.maxResponseBytes.toNat ≤ limit - acceptedBytes limit log)
    (hanswer : ∀ response, answer = some response → r.cleanupRequest = false →
      limit - acceptedBytes limit log < response.body.length) :
    LogAt limit bytes (log ++ [.send r answer]) := by
  refine ⟨?_, h.budget.concat ?_⟩
  · rw [acceptedBytes_concat, h.accepted]
    cases answer with
    | none => rfl
    | some response =>
        rw [receive, if_neg]
        · rfl
        · rintro ⟨hcleanup, hfits⟩
          exact Nat.not_le.mpr (hanswer response rfl hcleanup) hfits
  · rintro r' answer' heq
    cases heq
    exact hr

/-- A request within its budget whose answer counts. -/
theorem LogAt.counted {limit : Nat} {bytes bytes' : UInt64} {log : List QueryEvent}
    (h : LogAt limit bytes log) {r : HttpRequest} {response : HttpResponse}
    (hcleanup : r.cleanupRequest = false)
    (hr : r.maxResponseBytes.toNat ≤ limit - acceptedBytes limit log)
    (hfits : response.body.length ≤ limit - acceptedBytes limit log)
    (hbytes : bytes'.toNat = bytes.toNat + response.body.length) :
    LogAt limit bytes' (log ++ [.send r (some response)]) := by
  refine ⟨?_, h.budget.concat ?_⟩
  · rw [acceptedBytes_concat, receive, if_pos ⟨hcleanup, hfits⟩, hbytes, h.accepted]
    simp [bodyBytes, acceptedBytes]
  · rintro r' answer' heq _
    cases heq
    exact hr

/-! ## The counters -/

/-- What the accounting reads of a session. -/
structure Tally where
  options : QueryOptions
  bytes : UInt64
  rows : UInt64
  cells : UInt64
  chunks : UInt64
  index : UInt64
  expected : UInt64
  mode : QueryMode
  width : Nat
  outstanding : Bool
  cleanup : Bool

/-- The tally of a session. -/
def Session.tally (s : Session) : Tally where
  options := s.options
  bytes := s.totalResponseBytes
  rows := s.rows
  cells := s.cells
  chunks := s.fetchedChunks
  index := s.nextChunkIndex
  expected := s.expectedChunks
  mode := s.mode
  width := s.metadata.length
  outstanding := s.arrowResponseOutstanding
  cleanup := s.request.cleanupRequest

/-- The counters are within the limits. -/
structure Tally.Bounded (options : QueryOptions) (t : Tally) : Prop where
  bytes : t.bytes ≤ options.maxTotalResponseBytes
  rows : t.rows ≤ options.maxRows
  cells : t.cells ≤ options.maxCells
  chunks : t.chunks ≤ options.maxChunks

/-- The bytes of the session are those of the log. -/
structure Metered (options : QueryOptions) (Q : Tally → Prop) (c : Client) : Prop where
  log : LogAt options.maxTotalResponseBytes.toNat c.session.totalResponseBytes c.log
  tally : Q c.session.tally

section Metered

variable {options : QueryOptions} {Q Q' : Tally → Prop} {c : Client}

theorem Metered.mono (h : Metered options Q c) (hQ : ∀ t, Q t → Q' t) : Metered options Q' c :=
  ⟨h.log, hQ _ h.tally⟩

/-- A change of the session that the accounting does not see. -/
theorem Metered.edit (h : Metered options Q c) {f : Session → Session}
    (hf : (f c.session).tally = c.session.tally) : Metered options Q (c.onSession f) := by
  have hbytes : (f c.session).totalResponseBytes = c.session.totalResponseBytes :=
    congrArg Tally.bytes hf
  refine ⟨?_, ?_⟩
  · rw [onSession_session, hbytes]
    exact h.log
  · rw [onSession_session, hf]
    exact h.tally

/-- A program that leaves the session alone and sends nothing. -/
theorem keeps_metered {α : Type} {prog : Query α}
    (h : ∀ (L : List QueryEvent → Prop) (s : Session), Idle L → Keeps (Ongoing L (· = s)) prog) :
    Keeps (Metered options Q) prog := by
  intro c hc
  have hsame (c' : Client) (h' : Ongoing (LogAt options.maxTotalResponseBytes.toNat
      c.session.totalResponseBytes) (· = c.session) c') : Metered options Q c' := by
    obtain ⟨hlog, hsession⟩ := h'
    refine ⟨?_, ?_⟩
    · rw [hsession]
      exact hlog
    · rw [hsession]
      exact hc.tally
  exact wp_mono (h _ c.session (idle_logAt _ _) c ⟨hc.log, rfl⟩) (fun _ => hsame) (fun _ => hsame)
    hsame

theorem metered_cancel (h : Metered options Q c) : Metered options Q (cancel env c) := by
  unfold cancel
  split
  · exact h
  · refine ⟨h.log.uncounted ?_ ?_, h.tally⟩
    · intro hcleanup
      cases hcleanup
    · intro _ _ hcleanup
      cases hcleanup

/-- A session that counts the bytes it receives. -/
structure Tally.Receives (options : QueryOptions) (t : Tally) : Prop where
  own : t.options = options
  cleanup : t.cleanup = false
  bytes : t.bytes ≤ options.maxTotalResponseBytes

/-- What is left of the limit is what the log leaves. -/
theorem Metered.remaining (h : Metered options (Tally.Receives options) c) :
    c.session.remainingBytes.toNat = options.maxTotalResponseBytes.toNat
      - acceptedBytes options.maxTotalResponseBytes.toNat c.log := by
  have hown : c.session.options = options := h.tally.own
  rw [← h.log.accepted, remainingBytes, hown]
  exact toNat_left _ _

/-- `Send` counts the bytes of what it returns, and asks for no more than what
is left. -/
theorem keeps_send_metered (hQ : ∀ t, Q t → t.Receives options)
    (hbytes : ∀ t bytes, Q t → bytes ≤ options.maxTotalResponseBytes → Q { t with bytes }) :
    Keeps (Metered options Q) (send env) := by
  intro c hc
  have hactive : Keeps (Metered options Q) (checkActive env) :=
    keeps_metered fun _ _ hL => keeps_checkActive hL
  have hframe : Keeps (fun c' => Metered options Q c' ∧ c'.session = c.session)
      (checkActive env) := by
    intro c' h'
    exact wp_mono (wp_and (hactive c' h'.1) (keeps_session_checkActive _ c' h'.2))
      (fun _ _ h => h) (fun _ _ h => h) fun _ h => h
  rw [send, wp_bind]
  refine wp_mono (hframe c ⟨hc, rfl⟩) ?_ (fun _ _ h => h.1) fun _ h => h.1
  intro _ c₁ h₁
  obtain ⟨hc₁, hsession⟩ := h₁
  rw [wp_bind]
  refine wp_nowMs (fun now _ => ?_) ⟨hc₁.log.unsent rfl, hc₁.tally⟩
  have hlog : LogAt options.maxTotalResponseBytes.toNat c₁.session.totalResponseBytes
      (c₁.log ++ [.nowMs (some now)]) := hc₁.log.unsent rfl
  obtain ⟨hoptions, hcleanup, hle⟩ := hQ _ hc₁.tally
  rw [wp_bind, wp_look, wp_bind, wp_modify, wp_bind, wp_look, wp_bind, wp_catchAll]
  have hremaining : c₁.session.remainingBytes.toNat
      = options.maxTotalResponseBytes.toNat
        - acceptedBytes options.maxTotalResponseBytes.toNat (c₁.log ++ [.nowMs (some now)]) :=
    Metered.remaining (c := c₁.record (.nowMs (some now))) ⟨hlog, hoptions, hcleanup, hle⟩
  let limited := c₁.session.limitedRequest now
  have hlimited : limited.maxResponseBytes.toNat ≤ c₁.session.remainingBytes.toNat :=
    UInt64.le_iff_toNat_le.mp (by
      show min c₁.session.request.maxResponseBytes c₁.session.remainingBytes ≤ _
      rw [show min c₁.session.request.maxResponseBytes c₁.session.remainingBytes
        = if c₁.session.request.maxResponseBytes ≤ c₁.session.remainingBytes then
          c₁.session.request.maxResponseBytes else c₁.session.remainingBytes from rfl]
      split
      · assumption
      · exact UInt64.le_refl _)
  have hbudget := hremaining ▸ hlimited
  refine wp_transportSend (fun response _ => ?_) ?_
  · rw [wp_bind, wp_raiseIf]
    refine ⟨fun hmore => ⟨?_, hc₁.tally⟩, fun hfits => ?_⟩
    · refine hlog.uncounted (fun _ => hbudget) fun response' heq _ => ?_
      cases heq
      rw [← hremaining]
      exact hmore
    · have hfits' := Nat.not_lt.mp hfits
      rw [wp_bind, wp_modify]
      refine ⟨hlog.counted hcleanup hbudget (hremaining ▸ hfits') (toNat_add hfits'), ?_⟩
      have hle' : c₁.session.totalResponseBytes + UInt64.ofNat response.body.length
          ≤ options.maxTotalResponseBytes := by
        rw [← hoptions] at hle ⊢
        exact add_le hfits' hle
      exact hbytes _ _ hc₁.tally hle'
  · have hfailed : Keeps (Metered options Q) (transportFailed env) :=
      keeps_bind hactive fun _ => keeps_raise _
    refine wp_mono (wp_and (hfailed _ ⟨?_, hc₁.tally⟩) (wp_transportFailed _))
      (fun _ _ h => h.2.elim) (fun _ _ h => h.1) fun _ h => h.1
    exact hlog.uncounted (fun _ => hbudget) fun _ heq => by cases heq

end Metered

/-! ## What the counters do in a query -/

/-- A session that has no chunk yet. -/
structure Tally.Opening (options : QueryOptions) (t : Tally) : Prop
    extends t.Receives options where
  rows : t.rows = 0
  cells : t.cells = 0
  chunks : t.chunks = 0
  index : t.index = 0
  idle : t.outstanding = false
  few : t.mode = .numberedV3 → t.expected ≤ options.maxChunks

/-- A session that hands out chunks.  In numbered mode it has asked for `ahead`
chunks more than it has accepted, at least; `exact` is kept as long as no call
fails. -/
structure Tally.Serving (options : QueryOptions) (exact : Tally → Prop) (ahead : Nat) (t : Tally) :
    Prop extends t.Receives options, t.Bounded options where
  few : t.mode = .numberedV3 → t.expected ≤ options.maxChunks
  ahead : t.mode = .numberedV3 → t.chunks.toNat + ahead ≤ t.index.toNat
  pending : t.outstanding = true → t.mode = .numberedV3 ∧ t.index < t.expected
  exact : exact t

/-- A property of the tally that a chunk keeps. -/
structure CountedOn (exact : Tally → Prop) : Prop where
  frame : ∀ t t', t'.rows = t.rows → t'.cells = t.cells → t'.width = t.width → exact t → exact t'
  count : ∀ s count, Admits s count → exact s.tally → exact (s.count count).tally

theorem countedOn_true :
    CountedOn fun _ => True := ⟨fun _ _ _ _ _ _ => trivial, fun _ _ _ _ => trivial⟩

/-- The cells are those of full rows. -/
def Tally.Rectangular (t : Tally) : Prop := t.cells.toNat = t.rows.toNat * t.width

theorem countedOn_rectangular : CountedOn Tally.Rectangular where
  frame t t' hrows hcells hwidth h := by
    rw [Tally.Rectangular, hrows, hcells, hwidth]
    exact h
  count s count hadmits h := by
    show (s.cells + UInt64.ofNat (count * s.metadata.length)).toNat
      = (s.rows + UInt64.ofNat count).toNat * s.metadata.length
    rw [toNat_add hadmits.cells_left, toNat_add hadmits.rows_left, Nat.add_mul]
    exact congrArg (· + count * s.metadata.length) h

section Rules

variable {options : QueryOptions} {exact : Tally → Prop} {ahead : Nat} {t : Tally} {c : Client}

theorem Tally.Opening.bounded (h : t.Opening options) : t.Bounded options where
  bytes := h.bytes
  rows := by rw [h.rows]; exact UInt64.le_iff_toNat_le.mpr (Nat.zero_le _)
  cells := by rw [h.cells]; exact UInt64.le_iff_toNat_le.mpr (Nat.zero_le _)
  chunks := by rw [h.chunks]; exact UInt64.le_iff_toNat_le.mpr (Nat.zero_le _)

/-- A prepared session hands out chunks. -/
theorem Tally.Opening.serving (h : t.Opening options) : t.Serving options Tally.Rectangular 0 where
  toReceives := h.toReceives
  rows := h.bounded.rows
  cells := h.bounded.cells
  chunks := h.bounded.chunks
  few := h.few
  ahead _ := by rw [h.chunks, h.index]; rfl
  pending houtstanding := by cases h.idle.symm.trans houtstanding
  exact := by rw [Tally.Rectangular, h.rows, h.cells]; exact (Nat.zero_mul _).symm

theorem Tally.Serving.mono {exact' : Tally → Prop} {ahead' : Nat}
    (h : t.Serving options exact ahead) (hexact : ∀ t, exact t → exact' t)
    (hahead : ahead' ≤ ahead) :
    t.Serving options exact' ahead' where
  toReceives := h.toReceives
  rows := h.rows
  cells := h.cells
  chunks := h.chunks
  few := h.few
  ahead hmode := Nat.le_trans (Nat.add_le_add_left hahead _) (h.ahead hmode)
  pending := h.pending
  exact := hexact t h.exact

theorem keeps_checkActive_metered {Q : Tally → Prop} :
    Keeps (Metered options Q) (checkActive env) := keeps_metered fun _ _ hL => keeps_checkActive hL

theorem keeps_decode_metered {Q : Tally → Prop} (response : HttpResponse) :
    Keeps (Metered options Q) (decode env response) :=
  keeps_metered fun _ _ hL => keeps_decode hL response

theorem keeps_remember_metered {Q : Tally → Prop} (response : QueryResponse) :
    Keeps (Metered options Q) (rememberQueryId response) := by
  intro c hc
  refine wp_mono (wp_rememberQueryId response c) (fun _ c' h => ?_) (fun _ c' h => ?_)
    fun _ h => h.elim
  · obtain ⟨_, rfl, -⟩ := h
    exact hc.edit rfl
  · obtain ⟨_, rfl, -⟩ := h
    exact hc.edit rfl

theorem keeps_send_opening : Keeps (Metered options (Tally.Opening options)) (send env) :=
  keeps_send_metered (fun _ h => h.toReceives) fun _ _ h hbytes =>
    { h with own := h.own, cleanup := h.cleanup, bytes := hbytes }

theorem keeps_send_serving (hexact : CountedOn exact) :
    Keeps (Metered options (Tally.Serving options exact ahead)) (send env) :=
  keeps_send_metered (fun _ h => h.toReceives) fun t bytes h hbytes =>
    { h with
      own := h.own
      cleanup := h.cleanup
      bytes := hbytes
      exact := hexact.frame t { t with bytes } rfl rfl rfl h.exact }

/-- The rules for a preparation. -/
theorem prepareRules_metered :
    PrepareRules env (Metered options (Tally.Opening options))
      (Metered options (Tally.Opening options))
      (fun _ => Metered options fun t => t.Bounded options ∧ t.outstanding = false) where
  fails _ _ h := h.mono fun _ h => ⟨h.bounded, h.idle⟩
  columns _ _ h _ := h.mono fun _ h => ⟨h.bounded, h.idle⟩
  exchange := by
    have hkeeps : Keeps (Metered options (Tally.Opening options))
        (QueryApiV3Client.exchange env) :=
      keeps_bind keeps_send_opening fun response =>
        keeps_bind (keeps_decode_metered response) fun decoded =>
        keeps_bind (keeps_remember_metered decoded) fun _ =>
        keeps_bind keeps_checkActive_metered fun _ => keeps_pure _
    exact hkeeps.leads fun _ _ h => h.mono fun _ h => ⟨h.bounded, h.idle⟩
  sleeps milliseconds := by
    have hkeeps : Keeps (Metered options (Tally.Opening options)) (sleepMs env milliseconds) :=
      keeps_metered fun _ _ hL => keeps_sleepMs hL milliseconds
    exact hkeeps.leads fun _ _ h => h.mono fun _ h => ⟨h.bounded, h.idle⟩
  checks := keeps_checkActive_metered.leads fun _ _ h => h.mono fun _ h => ⟨h.bounded, h.idle⟩
  polls _ h := h.edit rfl
  numbered decoded c h _ hfew := by
    have hkeeps : Keeps (Metered options (Tally.Opening options))
        (QueryApiV3Client.fetchMetadata env) :=
      keeps_bind (fun _ h => h.edit rfl) fun _ =>
        keeps_bind keeps_send_opening fun response =>
        keeps_bind (keeps_decode_metered response) fun decoded =>
        keeps_bind (keeps_raiseIf _ _) fun _ =>
        keeps_bind
          (fun c h => ⟨h.log, { h.tally with own := h.tally.own, cleanup := h.tally.cleanup }⟩)
          fun _ => keeps_raiseIf _ _
    refine hkeeps.leads (fun _ _ h => h.mono fun _ h => ⟨h.bounded, h.idle⟩) _ ⟨h.log, ?_⟩
    have hown := h.tally.own
    exact
      { h.tally with
        own := h.tally.own
        cleanup := h.tally.cleanup
        few := fun _ => hown ▸ hfew }
  refuses decoded _ c h := ⟨h.log, ⟨h.tally.bounded.bytes, h.tally.bounded.rows,
    h.tally.bounded.cells, h.tally.bounded.chunks⟩, h.tally.idle⟩
  direct decoded c h :=
    ⟨h.log,
      { h.tally with
        own := h.tally.own
        cleanup := h.tally.cleanup
        few := fun h => by cases h }⟩

/-- A chunk that is accepted is counted within the limits. -/
theorem Tally.Serving.counted {s : Session} (h : s.tally.Serving options exact 1)
    (hexact : CountedOn exact) {count : Nat} (hadmits : Admits s count)
    (hchunks : s.fetchedChunks < s.options.maxChunks) :
    (s.count count).tally.Serving options exact 0 := by
  have hown : s.options = options := h.own
  have hchunk : (s.fetchedChunks + 1).toNat = s.fetchedChunks.toNat + 1 := toNat_succ hchunks
  refine
    { h with
      own := h.own
      cleanup := h.cleanup
      rows := ?_
      cells := ?_
      chunks := ?_
      ahead := fun hmode => ?_
      exact := hexact.count s count hadmits h.exact }
  · have hrows := add_le hadmits.rows_left (hown ▸ h.rows)
    exact hown ▸ hrows
  · have hcells := add_le hadmits.cells_left (hown ▸ h.cells)
    exact hown ▸ hcells
  · rw [← hown]
    rw [UInt64.lt_iff_toNat_lt] at hchunks
    show s.fetchedChunks + 1 ≤ s.options.maxChunks
    rw [UInt64.le_iff_toNat_le, hchunk]
    exact hchunks
  · show (s.fetchedChunks + 1).toNat + 0 ≤ s.nextChunkIndex.toNat
    rw [hchunk]
    exact h.ahead hmode

/-- The cells of a chunk that was refused. -/
theorem Tally.Serving.refused {s : Session} (h : s.tally.Serving options exact ahead) {k : Nat}
    (hk : k * s.metadata.length ≤ (left s.options.maxCells s.cells).toNat) :
    (s.addCells k).tally.Serving options (fun _ => True) 0 := by
  have hown : s.options = options := h.own
  have hmono : s.tally.Serving options (fun _ => True) 0 :=
    h.mono (fun _ _ => trivial) (Nat.zero_le ahead)
  refine
    { hmono with
      own := h.own
      cleanup := h.cleanup
      cells := ?_ }
  have hcells := add_le hk (hown ▸ h.cells)
  exact hown ▸ hcells

/-- A response is counted when it is handed out. -/
theorem wp_deliver_metered (hexact : CountedOn exact) (response : QueryResponse)
    (h : Metered options (Tally.Serving options exact 1) c) :
    wp (QueryCursor.deliver env response)
      (fun _ => Metered options (Tally.Serving options exact 0))
      (fun _ => Metered options (Tally.Serving options (fun _ => True) 0))
      (Metered options (Tally.Serving options exact 0)) c := by
  have hweaker {c : Client} (h : Metered options (Tally.Serving options exact 1) c) :
      Metered options (Tally.Serving options (fun _ => True) 0) c :=
    h.mono fun _ h => h.mono (fun _ _ => trivial) (Nat.zero_le 1)
  have hcut {c : Client} (h : Metered options (Tally.Serving options exact 1) c) :
      Metered options (Tally.Serving options exact 0) c :=
    h.mono fun _ h => h.mono (fun _ => id) (Nat.zero_le 1)
  rw [QueryCursor.deliver, wp_bind]
  refine wp_mono (keeps_remember_metered response c h) ?_ (fun _ _ h => hweaker h) fun _ => hcut
  intro _ c₁ h₁
  rw [wp_bind]
  refine wp_mono (keeps_checkActive_metered c₁ h₁) ?_ (fun _ _ h => hweaker h) fun _ => hcut
  intro _ c₂ h₂
  rw [wp_bind]
  refine wp_mono (wp_accept_exact response c₂) ?_ ?_ fun _ h => h.elim
  · intro chunk c₃ haccepted
    obtain ⟨hacceptable, rfl, rfl⟩ := haccepted
    rw [wp_bind, wp_modify, wp_pure]
    have hcounted : Metered options (Tally.Serving options exact 0)
        (c₂.onSession (Session.count response.chunk.rows.length)) :=
      ⟨h₂.log, h₂.tally.counted hexact hacceptable.admits hacceptable.chunks⟩
    apply hcounted.edit
    unfold QueryCursor.follow
    split <;> rfl
  · intro _ c₃ hrefused
    obtain ⟨-, k, hk, rfl⟩ := hrefused
    exact ⟨h₂.log, h₂.tally.refused hk⟩

/-- A reported chunk is counted within the limits. -/
theorem Tally.Serving.reported {s : Session} (h : s.tally.Serving options exact 0)
    (hexact : CountedOn exact) {count : Nat} (hadmits : Admits s count)
    (houtstanding : s.arrowResponseOutstanding = true) :
    Tally.Serving options exact 0 (Session.tally
      { s.count count with
        nextChunkIndex := s.nextChunkIndex + 1
        arrowResponseOutstanding := false }) := by
  obtain ⟨hmode, hmore⟩ := h.pending houtstanding
  have hown : s.options = options := h.own
  have hahead : s.fetchedChunks.toNat ≤ s.nextChunkIndex.toNat := h.ahead hmode
  have hindex : (s.nextChunkIndex + 1).toNat = s.nextChunkIndex.toNat + 1 := toNat_succ hmore
  have hfew : s.expectedChunks ≤ s.options.maxChunks := hown ▸ h.few hmode
  have hchunks : s.fetchedChunks < s.options.maxChunks := by
    rw [UInt64.lt_iff_toNat_lt]
    have hmore' := UInt64.lt_iff_toNat_lt.mp hmore
    have hfew' := UInt64.le_iff_toNat_le.mp hfew
    exact Nat.lt_of_le_of_lt hahead (Nat.lt_of_lt_of_le hmore' hfew')
  -- the same as a chunk that was asked for before it was counted
  have hasked : Tally.Serving options exact 1 (Session.tally
      { s with
        nextChunkIndex := s.nextChunkIndex + 1
        arrowResponseOutstanding := false }) :=
    { h with
      own := h.own
      cleanup := h.cleanup
      pending := fun h => by cases h
      exact := hexact.frame s.tally _ rfl rfl rfl h.exact
      ahead := fun _ => by
        show s.fetchedChunks.toNat + 1 ≤ (s.nextChunkIndex + 1).toNat
        rw [hindex]
        exact Nat.succ_le_succ hahead }
  exact hasked.counted hexact ⟨hadmits.rows, hadmits.cells, hadmits.expected⟩ hchunks

/-- Asking for a numbered chunk. -/
theorem Tally.Serving.asked {s : Session} (h : s.tally.Serving options exact 0)
    (hexact : CountedOn exact) (ready : s.Ready) (hmode : s.mode = .numberedV3)
    (hmore : s.nextChunkIndex < s.expectedChunks) :
    (QueryCursor.numberedRequest s).tally.Serving options exact 1 :=
  { h with
    own := h.own
    cleanup := h.cleanup
    pending := fun houtstanding => by cases ready.idle.symm.trans houtstanding
    exact := hexact.frame s.tally _ rfl rfl rfl h.exact
    ahead := fun _ => by
      show s.fetchedChunks.toNat + 1 ≤ (s.nextChunkIndex + 1).toNat
      rw [toNat_succ hmore]
      exact Nat.succ_le_succ (h.ahead hmode) }

/-- Fetching and delivering a chunk. -/
theorem wp_fetchDeliver_metered (hexact : CountedOn exact) {f : Session → Session}
    (h : Metered options (Tally.Serving options exact 1) (c.onSession f)) :
    wp (do
        let response ← (do
          modify f
          let response ← send env
          decode env response : Query QueryResponse)
        QueryCursor.deliver env response)
      (fun _ => Metered options (Tally.Serving options exact 0))
      (fun _ => Metered options (Tally.Serving options (fun _ => True) 0))
      (Metered options (Tally.Serving options exact 0)) c := by
  have hfetch : Keeps (Metered options (Tally.Serving options exact 1)) (do
      let response ← send env
      decode env response : Query QueryResponse) :=
    keeps_bind (keeps_send_serving hexact) fun response => keeps_decode_metered response
  rw [wp_bind, wp_bind, wp_modify]
  refine wp_mono (hfetch _ h) (fun response c' h' => wp_deliver_metered hexact response h') ?_ ?_
  · exact fun _ _ h => h.mono fun _ h => h.mono (fun _ _ => trivial) (Nat.zero_le 1)
  · exact fun _ h => h.mono fun _ h => h.mono (fun _ => id) (Nat.zero_le 1)

/-- In direct mode no chunk is asked for by its number. -/
theorem Tally.Serving.direct {t : Tally} (h : t.Serving options exact 0)
    (hmode : t.mode = .directLegacy) : t.Serving options exact 1 :=
  { h with own := h.own, cleanup := h.cleanup, ahead := fun h => by cases hmode.symm.trans h }

/-- The rules for the calls on a cursor. -/
theorem cursorRules_metered (hexact : CountedOn exact) :
    CursorRules env (Metered options (Tally.Serving options exact 0))
      (Metered options (Tally.Serving options exact 0))
      (fun _ => Metered options (Tally.Serving options (fun _ => True) 0)) where
  fails _ _ h := h.mono fun _ h => h.mono (fun _ _ => trivial) (Nat.le_refl 0)
  cancels _ _ h := metered_cancel h
  numbered c h ready hmode hmore :=
    wp_fetchDeliver_metered hexact ⟨h.log, h.tally.asked hexact ready hmode hmore⟩
  buffered response c h ready hmode hbuffer := by
    have hdirect : Metered options (Tally.Serving options exact 1) c :=
      ⟨h.log, h.tally.direct hmode⟩
    exact wp_deliver_metered hexact response (hdirect.edit rfl)
  direct c h ready hmode hbuffer := by
    rw [wp_bind, QueryCursor.fetchDirect, wp_bind, wp_look, wp_bind, wp_raiseIf]
    refine ⟨fun _ => h.mono fun _ h => h.mono (fun _ _ => trivial) (Nat.le_refl 0), fun _ => ?_⟩
    have hdirect : Metered options (Tally.Serving options exact 1) c :=
      ⟨h.log, h.tally.direct hmode⟩
    rw [← wp_bind]
    exact wp_fetchDeliver_metered hexact (hdirect.edit rfl)
  finishes α c h ready :=
    wp_finished_of (fun _ => ⟨rfl, h.edit rfl⟩) fun _ _ =>
      h.mono fun _ h => h.mono (fun _ _ => trivial) (Nat.le_refl 0)
  arrow c h ready hmode hmore := by
    -- until the response is handed out, the chunk is still to come
    let Q (t : Tally) : Prop :=
      t.Serving options exact 0 ∧ t.mode = .numberedV3 ∧ t.index < t.expected
    have hweaker {c : Client} (h : Metered options Q c) :
        Metered options (Tally.Serving options (fun _ => True) 0) c :=
      h.mono fun _ h => h.1.mono (fun _ _ => trivial) (Nat.le_refl 0)
    have hcut {c : Client} (h : Metered options Q c) :
        Metered options (Tally.Serving options exact 0) c := h.mono fun _ h => h.1
    have hsend : Keeps (Metered options Q) (send env) :=
      keeps_send_metered (fun _ h => h.1.toReceives) fun t bytes h hbytes =>
        ⟨{ h.1 with
            own := h.1.own
            cleanup := h.1.cleanup
            bytes := hbytes
            exact := hexact.frame t { t with bytes } rfl rfl rfl h.1.exact }, h.2⟩
    have hstart : Metered options Q c := ⟨h.log, h.tally, hmode, hmore⟩
    rw [QueryCursor.fetchArrow, wp_bind, wp_modify, wp_bind]
    refine wp_mono (hsend _ (hstart.edit rfl)) ?_ (fun _ _ h => hweaker h) fun _ => hcut
    intro response c₁ h₁
    rw [wp_ite]
    refine ⟨fun _ => ?_, fun _ => ?_⟩
    · have hfailed : Keeps (Metered options Q) (QueryCursor.arrowFailed env response) :=
        keeps_metered fun _ _ hL => keeps_arrowFailed hL response
      exact wp_mono (keeps_bind hfailed (fun _ => keeps_pure _) c₁ h₁) (fun _ _ => hcut)
        (fun _ _ h => hweaker h) fun _ => hcut
    · rw [wp_bind]
      refine wp_mono (keeps_checkActive_metered c₁ h₁) ?_ (fun _ _ h => hweaker h) fun _ => hcut
      intro _ c₂ h₂
      exact ⟨h₂.log, { h₂.tally.1 with
        own := h₂.tally.1.own
        cleanup := h₂.tally.1.cleanup
        pending := fun _ => h₂.tally.2
        exact := hexact.frame c₂.session.tally _ rfl rfl rfl h₂.tally.1.exact }⟩
  checks := keeps_checkActive_metered.leads fun _ _ h =>
    h.mono fun _ h => h.mono (fun _ _ => trivial) (Nat.le_refl 0)
  reports decodedRows c h houtstanding := by
    refine wp_mono (wp_reportBody_exact (idle_logAt _ _) decodedRows h.log) ?_ ?_ fun _ h => h.elim
    · intro _ c' h'
      obtain ⟨hlog, hadmits, hsession⟩ := h'
      refine ⟨?_, ?_⟩
      · rw [hsession]
        exact hlog
      · rw [hsession]
        exact h.tally.reported hexact hadmits houtstanding
    · intro _ c' h'
      obtain ⟨hlog, hsession, -⟩ := h'
      refine ⟨?_, ?_⟩
      · rw [hsession]
        exact hlog
      · rw [hsession]
        exact h.tally.mono (fun _ _ => trivial) (Nat.le_refl 0)

end Rules

/-! ## No counter wraps -/

/-- What an operation adds to the counters of a session. -/
structure Growth where
  bytes : Nat := 0
  rows : Nat := 0
  cells : Nat := 0
  chunks : Nat := 0
  index : Nat := 0

/-- The counters have grown by `g`, as numbers. -/
structure Grown (s s' : Session) (g : Growth) : Prop where
  bytes : s'.totalResponseBytes.toNat = s.totalResponseBytes.toNat + g.bytes
  rows : s'.rows.toNat = s.rows.toNat + g.rows
  cells : s'.cells.toNat = s.cells.toNat + g.cells
  chunks : s'.fetchedChunks.toNat = s.fetchedChunks.toNat + g.chunks
  index : s'.nextChunkIndex.toNat = s.nextChunkIndex.toNat + g.index

/-- From this state of a client, the operations that count compute with numbers:
a result that is counted is added in full, and one that is refused is over a
limit.  A sum, a difference or a product that wrapped would show in a counter
or in a refusal. -/
structure ExactCounting (env : QueryEnv) (c : Client) : Prop where
  /-- `Send` counts the body that it returns. -/
  send : wp (send env)
    (fun response c' =>
      response.body.length
        ≤ c.session.options.maxTotalResponseBytes.toNat - c.session.totalResponseBytes.toNat ∧
      Grown c.session c'.session { bytes := response.body.length })
    (fun _ c' => Grown c.session c'.session {} ∧
      ∀ r response, c'.log.getLast? = some (.send r (some response)) →
        c.session.options.maxTotalResponseBytes.toNat - c.session.totalResponseBytes.toNat
          < response.body.length)
    (fun _ => False) c
  /-- `Accept` counts the chunk that it returns; one that it refuses has counted
  no more than the cells of its first rows. -/
  accept : ∀ response, wp (accept response)
    (fun chunk c' => Acceptable c.session response ∧ chunk = response.chunk ∧
      Grown c.session c'.session
        { rows := chunk.rows.length
          cells := chunk.rows.length * c.session.metadata.length
          chunks := 1 })
    (fun _ c' => ¬ Acceptable c.session response ∧
      ∃ k, k * c.session.metadata.length
          ≤ c.session.options.maxCells.toNat - c.session.cells.toNat ∧
        Grown c.session c'.session { cells := k * c.session.metadata.length })
    (fun _ => False) c
  /-- Asking for a numbered chunk counts the request and the bytes of its response. -/
  numbered : c.session.nextChunkIndex < c.session.expectedChunks →
    wp (QueryCursor.fetchNumbered env)
      (fun _ c' => ∃ bytes, Grown c.session c'.session { bytes, index := 1 })
      (fun _ c' => ∃ bytes, Grown c.session c'.session { bytes, index := 1 })
      (fun _ => False) c
  /-- `ReportArrowChunk` counts the rows that the limits allow, and refuses others. -/
  report : ∀ decodedRows : UInt64, wp (QueryCursor.reportArrowChunk env decodedRows)
    (fun _ c' => Admits c.session decodedRows.toNat ∧
      Grown c.session c'.session
        { rows := decodedRows.toNat
          cells := decodedRows.toNat * c.session.metadata.length
          chunks := 1
          index := 1 })
    (fun _ c' => Grown c.session c'.session {} ∧
      (c.session.arrowResponseOutstanding = false ∨
        (∃ e c₁, checkActive env c = (.raise e, c₁)) ∨ ¬ Admits c.session decodedRows.toNat))
    (fun _ => False) c

theorem Grown.same (s : Session) : Grown s s {} := ⟨rfl, rfl, rfl, rfl, rfl⟩

/-- The cleanup counts nothing. -/
theorem grown_cancel (c : Client) : Grown c.session (cancel env c).session {} := by
  unfold cancel
  split
  · exact .same _
  · exact ⟨rfl, rfl, rfl, rfl, rfl⟩

/-- The request of a numbered chunk is counted before it is sent. -/
theorem Grown.asked {s s' : Session} (hmore : s.nextChunkIndex < s.expectedChunks) {bytes : Nat}
    (h : Grown (QueryCursor.numberedRequest s) s' { bytes }) :
    Grown s s' { bytes, index := 1 } :=
  ⟨h.bytes, h.rows, h.cells, h.chunks, h.index.trans (toNat_succ hmore)⟩

/-- The cells of the rows that were counted. -/
theorem grown_addCells {s : Session} {k : Nat}
    (hk : k * s.metadata.length ≤ (left s.options.maxCells s.cells).toNat) :
    Grown s (s.addCells k) { cells := k * s.metadata.length } :=
  ⟨rfl, rfl, toNat_add hk, rfl, rfl⟩

/-- A chunk of full rows. -/
theorem grown_count {s : Session} {count : Nat} (hadmits : Admits s count)
    (hchunks : s.fetchedChunks < s.options.maxChunks) :
    Grown s (s.count count)
      { rows := count, cells := count * s.metadata.length, chunks := 1 } :=
  ⟨rfl, toNat_add hadmits.rows_left, toNat_add hadmits.cells_left, toNat_succ hchunks, rfl⟩

/-- `CheckActive` leaves the session alone, and no response last in the log. -/
theorem wp_checkActive_last (c : Client) :
    wp (checkActive env)
      (fun _ c' => c'.session = c.session ∧
        ∀ r response, c'.log.getLast? ≠ some (.send r (some response)))
      (fun _ c' => c'.session = c.session ∧
        ∀ r response, c'.log.getLast? ≠ some (.send r (some response)))
      (fun _ => False) c := by
  rw [checkActive, wp_bind, checkCancelled, wp_bind]
  refine wp_isCancelled (fun flag _ => ?_) ⟨rfl, by simp⟩
  rw [wp_raiseIf]
  refine ⟨fun _ => ⟨rfl, by simp⟩, fun _ => ?_⟩
  rw [checkDeadline, wp_bind]
  refine wp_nowMs (fun now _ => ?_) ⟨rfl, by simp⟩
  rw [wp_bind, wp_look, wp_raiseIf]
  exact ⟨fun _ => ⟨rfl, by simp⟩, fun _ => ⟨rfl, by simp⟩⟩

/-- `Send` counts the body that it returns, and refuses one that is too large. -/
theorem wp_send_exact (c : Client) :
    wp (send env)
      (fun response c' => response.body.length ≤ c.session.remainingBytes.toNat ∧
        Grown c.session c'.session { bytes := response.body.length })
      (fun _ c' => Grown c.session c'.session {} ∧
        ∀ r response, c'.log.getLast? = some (.send r (some response)) →
          c.session.remainingBytes.toNat < response.body.length)
      (fun _ => False) c := by
  rw [send, wp_bind]
  refine wp_mono (wp_checkActive_last c) ?_ ?_ fun _ h => h
  · intro _ c₁ hactive
    rw [← hactive.1, wp_bind]
    refine wp_nowMs (fun now _ => ?_) ⟨.same _, by simp⟩
    rw [wp_bind, wp_look, wp_bind, wp_modify, wp_bind, wp_look, wp_bind, wp_catchAll]
    refine wp_transportSend (fun response _ => ?_) ?_
    · rw [wp_bind, wp_raiseIf]
      refine ⟨fun hmore => ⟨⟨rfl, rfl, rfl, rfl, rfl⟩, fun r response' hlast => ?_⟩,
        fun hfits => ?_⟩
      · simp only [record_log, List.getLast?_concat, Option.some.injEq,
          QueryEvent.send.injEq] at hlast
        exact hlast.2 ▸ hmore
      · rw [wp_bind, wp_modify]
        have hfits' := Nat.not_lt.mp hfits
        exact ⟨hfits', toNat_add hfits', rfl, rfl, rfl, rfl⟩
    · -- only the limits of the request have changed
      rw [transportFailed, wp_bind]
      refine wp_mono (wp_checkActive_last _) ?_ ?_ fun _ h => h
      all_goals
        rintro _ c₂ ⟨hsession, hlast⟩
        refine ⟨?_, fun r response h => absurd h (hlast r response)⟩
        rw [hsession]
        exact ⟨rfl, rfl, rfl, rfl, rfl⟩
  · rintro _ c₁ ⟨hsession, hlast⟩
    exact ⟨hsession ▸ .same _, fun r response h => absurd h (hlast r response)⟩

/-- Asking for a numbered chunk counts it and the bytes of its response. -/
theorem wp_fetchNumbered_exact {c : Client}
    (hmore : c.session.nextChunkIndex < c.session.expectedChunks) :
    wp (QueryCursor.fetchNumbered env)
      (fun _ c' => ∃ bytes, Grown c.session c'.session { bytes, index := 1 })
      (fun _ c' => ∃ bytes, Grown c.session c'.session { bytes, index := 1 })
      (fun _ => False) c := by
  have hidle : Idle fun _ => True := lasting_true.idle
  rw [QueryCursor.fetchNumbered, wp_bind, wp_modify, wp_bind]
  refine wp_mono (wp_send_exact _) (fun response c₁ h₁ => ?_)
    (fun _ c₁ h₁ => ⟨0, h₁.1.asked hmore⟩) fun _ h => h
  have hkept := @keeps_decode env (fun _ => True) (· = c₁.session) hidle response c₁ ⟨trivial, rfl⟩
  have hdecode := wp_and hkept (total_decode response c₁)
  refine wp_mono hdecode ?_ ?_ fun _ h => h.2
  all_goals
    rintro _ c₂ ⟨⟨-, hsession⟩, -⟩
    exact ⟨_, hsession ▸ h₁.2.asked hmore⟩

/-- `ReportArrowChunk` counts the rows that the limits allow, in numbers. -/
theorem wp_reportArrowChunk_exact (decodedRows : UInt64) {c : Client}
    (pending : c.session.arrowResponseOutstanding = true →
      c.session.fetchedChunks < c.session.options.maxChunks ∧
        c.session.nextChunkIndex < c.session.expectedChunks) :
    wp (QueryCursor.reportArrowChunk env decodedRows)
      (fun _ c' => Admits c.session decodedRows.toNat ∧
        Grown c.session c'.session
          { rows := decodedRows.toNat
            cells := decodedRows.toNat * c.session.metadata.length
            chunks := 1
            index := 1 })
      (fun _ c' => Grown c.session c'.session {} ∧
        (c.session.arrowResponseOutstanding = false ∨
          (∃ e c₁, checkActive env c = (.raise e, c₁)) ∨ ¬ Admits c.session decodedRows.toNat))
      (fun _ => False) c := by
  have hidle : Idle fun _ => True := lasting_true.idle
  rw [QueryCursor.reportArrowChunk, wp_bind, wp_look, wp_bind, wp_raiseIf]
  refine ⟨fun hidle => ⟨.same _, .inl hidle⟩, fun houtstanding => ?_⟩
  obtain ⟨hchunks, hmore⟩ := pending (Bool.not_eq_false _ ▸ houtstanding)
  rw [wp_onRaise]
  refine wp_mono (wp_reportBody_exact hidle decodedRows trivial) (fun _ c' h => ?_)
    (fun e c' h => ?_) fun _ h => h
  · obtain ⟨-, hadmits, hsession⟩ := h
    have hgrown := grown_count hadmits hchunks
    rw [hsession]
    exact ⟨hadmits, hgrown.bytes, hgrown.rows, hgrown.cells, hgrown.chunks, toNat_succ hmore⟩
  · obtain ⟨-, hsession, hrefused⟩ := h
    exact ⟨hsession ▸ grown_cancel c', .inr (hrefused.imp_left (Exists.intro e))⟩

/-- The checks alone keep the counting exact, except that `ReportArrowChunk`
relies on a chunk that was asked for. -/
theorem exactCounting_of_pending {c : Client} (pending : c.session.arrowResponseOutstanding = true →
    c.session.fetchedChunks < c.session.options.maxChunks ∧
      c.session.nextChunkIndex < c.session.expectedChunks) : ExactCounting env c where
  send := by
    have hsend := @wp_send_exact env c
    rw [remainingBytes, show ∀ limit used : UInt64, limit - min used limit = left limit used from
      fun _ _ => rfl, toNat_left] at hsend
    exact hsend
  accept response := by
    refine wp_mono (wp_accept_exact response c) (fun chunk c' h => ?_) (fun _ c' h => ?_)
      fun _ h => h
    · obtain ⟨hacceptable, rfl, rfl⟩ := h
      exact ⟨hacceptable, rfl, grown_count hacceptable.admits hacceptable.chunks⟩
    · obtain ⟨hrefused, k, hk, rfl⟩ := h
      exact ⟨hrefused, k, toNat_left _ _ ▸ hk, grown_addCells hk⟩
  numbered hmore := wp_fetchNumbered_exact hmore
  report decodedRows := wp_reportArrowChunk_exact decodedRows pending

/-- In a session with an Arrow response in flight a chunk is still to come. -/
theorem Tally.Serving.exactCounting {options : QueryOptions} {exact : Tally → Prop} {c : Client}
    (h : c.session.tally.Serving options exact 0) : ExactCounting env c := by
  apply exactCounting_of_pending
  intro houtstanding
  obtain ⟨hmode, hmore⟩ := h.pending houtstanding
  have hmore' : c.session.nextChunkIndex < c.session.expectedChunks := hmore
  have hahead : c.session.fetchedChunks.toNat ≤ c.session.nextChunkIndex.toNat := h.ahead hmode
  have hfew : c.session.expectedChunks ≤ options.maxChunks := h.few hmode
  have hown : c.session.options = options := h.own
  refine ⟨?_, hmore'⟩
  rw [UInt64.lt_iff_toNat_lt] at hmore' ⊢
  rw [UInt64.le_iff_toNat_le] at hfew
  rw [hown]
  omega

/-! ## The result -/

/-- What the accounting says of a session and its log. -/
structure Accounts (env : QueryEnv) (options : QueryOptions) (c : Client) : Prop where
  total : c.session.totalResponseBytes.toNat
    = acceptedBytes options.maxTotalResponseBytes.toNat c.log
  bounded : c.session.tally.Bounded options
  budget : Budgeted options.maxTotalResponseBytes.toNat c.log
  exact : ExactCounting env c

/-- What the preparation leaves, from the rules for its blocks. -/
theorem wp_prepareInternal_metered (fuel : Nat) (sql : Bytes) (credentials : QueryCredentials)
    (metadataOnly : Bool) (options : QueryOptions) :
    wp (QueryApiV3Client.prepareInternal env fuel sql credentials metadataOnly options)
      (fun _ => Metered options (Tally.Opening options))
      (fun _ => Metered options fun t => t.Bounded options ∧ t.outstanding = false)
      (Metered options (Tally.Opening options)) {} := by
  have hzero (n : UInt64) : 0 ≤ n := UInt64.le_iff_toNat_le.mpr (Nat.zero_le _)
  refine wp_mono (prepareRules_metered.wp_prepareInternal fuel (fun _ _ h => metered_cancel h)
    ?_ ?_) (fun _ _ h => h.1) (fun _ _ h => h) fun _ h => h
  · intro flag now
    exact ⟨logAt_unsent rfl, ⟨rfl, rfl, hzero _⟩, rfl, rfl, rfl, rfl, rfl, fun h => by cases h⟩
  · intro _ c hunsent hsession
    have hlog : LogAt options.maxTotalResponseBytes.toNat 0 c.log :=
      logAt_unsent (sends_of_quiet hunsent.log)
    rcases hsession with hsession | hsession
    all_goals
      refine ⟨?_, ?_⟩
      · rw [hsession]
        exact hlog
      · rw [hsession]
        exact ⟨⟨hzero _, hzero _, hzero _, hzero _⟩, rfl⟩

/-- A live session is ready to hand out chunks, or hands them out. -/
theorem queryRun_metered {sql : Bytes} {credentials : QueryCredentials} {options : QueryOptions}
    {alive : Bool} {c : Client} (run : QueryRun env sql credentials options alive c) :
    if alive then Metered options (Tally.Serving options (fun _ => True) 0) c
    else Metered options (fun t => t.Bounded options ∧ ExactCounting env c) c := by
  have hserving {c : Client} (h : Metered options (Tally.Opening options) c) :
      Metered options (Tally.Serving options (fun _ => True) 0) c :=
    h.mono fun _ h => h.serving.mono (fun _ _ => trivial) (Nat.le_refl 0)
  refine queryRun_of_rules
    (R := fun c => Metered options (fun t => t.Bounded options ∧ ExactCounting env c) c)
    (fun fuel metadataOnly => ?_) (fun call => (cursorRules_metered countedOn_true).cursorCall
      (fun _ h => h) call)
    (fun c h => ?_) run
  · refine wp_mono (wp_prepareInternal_metered fuel sql credentials metadataOnly options)
      (fun _ c h => hserving h) (fun _ c h => ?_) fun c h => hserving h
    refine ⟨h.log, h.tally.1, exactCounting_of_pending fun houtstanding => ?_⟩
    cases (show c.session.arrowResponseOutstanding = false from h.tally.2).symm.trans houtstanding
  · have hended := @metered_cancel env _ _ _ h
    exact ⟨hended.log, hended.tally.toBounded, hended.tally.exactCounting⟩

/-- In every run of the client the counters are within their limits, the bytes
are those of the accepted responses, no request asks for more than is left, and
the counting is exact; without a failed call the cells are those of full rows.
The counting is exact from any other state too, in the middle of a call or out
of reach, unless an Arrow response is in flight. -/
theorem counters_account (env : QueryEnv) (sql : Bytes) (credentials : QueryCredentials)
    (options : QueryOptions) :
    (∀ alive c, QueryRun env sql credentials options alive c → Accounts env options c) ∧
      (∀ c, UnfailedRun env sql credentials options c →
        c.session.cells.toNat = c.session.rows.toNat * c.session.metadata.length) ∧
      ∀ c : Client, c.session.arrowResponseOutstanding = false → ExactCounting env c := by
  refine ⟨fun alive c run => ?_, fun c run => ?_, fun c hidle => ?_⟩
  · have hmetered := queryRun_metered run
    cases alive with
    | true =>
        obtain ⟨hlog, htally⟩ := hmetered
        exact ⟨hlog.accepted, htally.toBounded, hlog.budget, htally.exactCounting⟩
    | false =>
        obtain ⟨hlog, hbounded, hexact⟩ := hmetered
        exact ⟨hlog.accepted, hbounded, hlog.budget, hexact⟩
  · have hserving (c : Client) (h : Metered options (Tally.Opening options) c) :
        Metered options (Tally.Serving options Tally.Rectangular 0) c := h.mono fun _ h => h.serving
    refine (unfailedRun_of_rules (fun fuel metadataOnly => ?_) (fun call => ?_)
      (fun _ h => metered_cancel h) run :
      Metered options (Tally.Serving options Tally.Rectangular 0) c).tally.exact
    · exact wp_mono (wp_prepareInternal_metered fuel sql credentials metadataOnly options)
        (fun _ c h => hserving c h) (fun _ _ _ => trivial) fun c h => hserving c h
    · exact fun c h => wp_mono ((cursorRules_metered countedOn_rectangular).cursorCall
        (fun _ h => h) call c h)
        (fun _ _ h => h) (fun _ _ _ => trivial) fun _ h => h
  · exact exactCounting_of_pending fun houtstanding => by cases hidle.symm.trans houtstanding

/-- The query executed to its end. -/
def sampleExecuted : Outcome QueryError QueryResult × Client :=
  QueryApiV3Client.execute sampleEnv 2 (ascii "SELECT 1") sampleCredentials {} {}

/-- A query of one row is accounted for, and from its last state the counting
is still exact. -/
theorem counters_account_executed :
    sampleExecuted.2.session.rows = 1 ∧ Accounts sampleEnv {} sampleExecuted.2 ∧
      sampleExecuted.2.session.cells.toNat
        = sampleExecuted.2.session.rows.toNat * sampleExecuted.2.session.metadata.length ∧
      ExactCounting sampleEnv sampleExecuted.2 := by
  have hruns : QueryApiV3Client.execute sampleEnv 2 (ascii "SELECT 1") sampleCredentials {} {}
      = (.ret
          { metadata := [⟨ascii "id", ascii "bigint", false, false, false, 0, 0⟩]
            chunks := [{ rows := [[some (ascii "1")]] }] }, sampleExecuted.2) :=
    run_eq_of_fst (by decide +kernel)
  have haccount := counters_account sampleEnv (ascii "SELECT 1") sampleCredentials {}
  refine ⟨by decide +kernel, ?_, ?_, haccount.2.2 _ (by decide +kernel)⟩
  · exact haccount.1 false _ (.executed hruns (by simp))
  · exact haccount.2.1 _ (.executing hruns (by simp))

end Data360
