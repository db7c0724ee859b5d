import Mathlib.Data.List.Forall2
import Data360.Lib.Quota
import Data360.QueryApi.Handles
import Data360.QueryApi.Returns

/-!
# What a query delivers

The calls on a cursor that all returned, from a prepared session on: what was
requested, what was handed out, and what is known when the end was reached.

* `Served` is the run relation, and `Progress` its invariant: the counters of
  the session follow what was handed out.
* `NumberedProgress` and `DirectProgress` say which requests were made, and what
  was made of each answer.
* `clean_end_complete` is the result: at the end, nothing is missing and
  nothing was delivered twice, and the cursor stays at the end.
-/

namespace Data360

open Lib Lib.ByteString Lib.Prog Session

variable {env : QueryEnv} {setting : Setting}

/-! ## Runs without failures -/

/-- Calls on a cursor, with what they returned. -/
abbrev Replies := List (CursorCall × CursorValue)

/-- The calls on a cursor that starts at `c₀`, when all of them have returned. -/
inductive Served (env : QueryEnv) (c₀ : Client) : Replies → Client → Prop
  | opened : Served env c₀ [] c₀
  | call {past : Replies} {c c' : Client} {call : CursorCall} {value : CursorValue}
      (before : Served env c₀ past c) (returned : call.program env c = (.ret value, c')) :
      Served env c₀ (past ++ [(call, value)]) c'

/-- What a value hands out. -/
def CursorValue.delivery : CursorValue → Option Delivery
  | .chunk next => next.map .chunk
  | .arrow next => next.map .arrow
  | .reported => none

/-- The rows that a call has delivered or reported. -/
def rowsOf : CursorCall × CursorValue → Nat
  | (.reportArrowChunk decodedRows, _) => decodedRows.toNat
  | (.nextChunk, .chunk (some chunk)) => chunk.rows.length
  | (.nextChunk, _) | (.nextArrowChunk, _) => 0

/-- Everything that the calls have handed out, in order. -/
def deliveries (past : Replies) : List Delivery := past.filterMap fun event => event.2.delivery

/-- The rows that the calls have delivered and reported. -/
def deliveredRows (past : Replies) : Nat := (past.map rowsOf).sum

theorem deliveries_concat (past : Replies) (call : CursorCall) (value : CursorValue) :
    deliveries (past ++ [(call, value)]) = deliveries past ++ value.delivery.toList := by
  rw [deliveries, List.filterMap_append]
  cases h : value.delivery <;> simp [deliveries, h]

theorem deliveredRows_concat (past : Replies) (event : CursorCall × CursorValue) :
    deliveredRows (past ++ [event]) = deliveredRows past + rowsOf event := by
  simp [deliveredRows]

/-! ## The counters -/

/-- What a call does not change. -/
structure Terms where
  options : QueryOptions
  credentials : QueryCredentials
  mode : QueryMode
  metadata : List ColumnMetadata
  hasExpectedChunks : Bool
  expectedChunks : UInt64
  hasExpectedRows : Bool
  expectedRows : UInt64

/-- The terms of a session. -/
def Session.terms (s : Session) : Terms where
  options := s.options
  credentials := s.credentials
  mode := s.mode
  metadata := s.metadata
  hasExpectedChunks := s.hasExpectedChunks
  expectedChunks := s.expectedChunks
  hasExpectedRows := s.hasExpectedRows
  expectedRows := s.expectedRows

theorem Sent.terms {s s' : Session} (h : Sent s s') : s'.terms = s.terms := by
  obtain ⟨_, _, _, rfl⟩ := h
  rfl

theorem Delivers.terms {response : QueryResponse} {s s' : Session} (h : Delivers response s s') :
    s'.terms = s.terms := by
  obtain ⟨id, cells, -, rfl⟩ := h.session
  unfold QueryCursor.follow
  split <;> rfl

/-- A call that returns keeps the terms. -/
theorem Returns.terms {c c' : Client} {call : CursorCall} {value : CursorValue}
    (h : Returns c c' call value) : c'.session.terms = c.session.terms := by
  cases h with
  | again _ _ _ same => rw [same]
  | finished _ _ _ _ _ _ session _ => rw [session]; rfl
  | buffered _ _ _ delivers _ => exact delivers.terms
  | numbered _ _ _ _ sent delivers _ => exact delivers.terms.trans sent.terms
  | direct _ _ _ _ _ sent delivers _ => exact delivers.terms.trans sent.terms
  | arrow _ _ _ _ sent session _ =>
      have hterms := sent.terms
      rw [session]
      exact hterms
  | reported _ _ session _ => rw [session]; rfl

theorem Delivers.rows {response : QueryResponse} {s s' : Session} (h : Delivers response s s') :
    s'.rows.toNat = s.rows.toNat + response.chunk.rows.length := by
  have hrows : s'.rows = s.rows + UInt64.ofNat response.chunk.rows.length := by
    obtain ⟨id, cells, -, rfl⟩ := h.session
    unfold QueryCursor.follow
    split <;> rfl
  rw [hrows]
  exact Quota.toNat_add h.accepts.fits

theorem Sent.rows {s s' : Session} (h : Sent s s') : s'.rows = s.rows := by
  obtain ⟨_, _, _, rfl⟩ := h
  rfl

theorem rowsOf_atEnd {call : CursorCall} (h : call.IsNext) : rowsOf (call, call.atEnd) = 0 := by
  cases call with
  | nextChunk => rfl
  | nextArrowChunk => rfl
  | reportArrowChunk => exact h.elim

/-- A call at the end hands out nothing. -/
theorem delivery_atEnd (call : CursorCall) : call.atEnd.delivery = none := by
  cases call <;> rfl

/-- The row counter follows what is delivered and reported. -/
theorem Returns.rows {c c' : Client} {call : CursorCall} {value : CursorValue}
    (h : Returns c c' call value) :
    c'.session.rows.toNat = c.session.rows.toNat + rowsOf (call, value) := by
  cases h with
  | again _ next _ same => rw [same, rowsOf_atEnd next, Nat.add_zero]
  | finished _ next _ _ _ _ session _ => rw [session, rowsOf_atEnd next, Nat.add_zero]
  | buffered _ _ _ delivers _ => exact delivers.rows
  | numbered _ _ _ _ sent delivers _ =>
      rw [delivers.rows, sent.rows]
      rfl
  | direct _ _ _ _ _ sent delivers _ =>
      rw [delivers.rows, sent.rows]
      rfl
  | arrow _ _ _ _ sent session _ =>
      rw [session]
      exact congrArg UInt64.toNat sent.rows
  | reported _ fits session _ =>
      rw [session]
      exact Quota.toNat_add_word (UInt64.le_iff_toNat_le.mp fits)

/-- The rows of a chunk that is handed out are as wide as the metadata. -/
theorem Returns.widths {c c' : Client} {call : CursorCall} {value : CursorValue}
    (h : Returns c c' call value) {chunk : ResultChunk}
    (hdelivery : value.delivery = some (.chunk chunk)) :
    ∀ row ∈ chunk.rows, row.length = c.session.metadata.length := by
  cases h with
  | again => cases (delivery_atEnd call).symm.trans hdelivery
  | finished => cases (delivery_atEnd call).symm.trans hdelivery
  | buffered _ _ _ delivers _ =>
      cases hdelivery
      exact delivers.accepts.widths
  | numbered _ _ _ _ sent delivers _ =>
      cases hdelivery
      rw [show c.session.metadata = _ from (congrArg Terms.metadata sent.terms).symm]
      exact delivers.accepts.widths
  | direct _ _ _ _ _ sent delivers _ =>
      cases hdelivery
      rw [show c.session.metadata = _ from (congrArg Terms.metadata sent.terms).symm]
      exact delivers.accepts.widths
  | arrow => cases hdelivery
  | reported => cases hdelivery

/-- The session has nothing left to hand out. -/
structure Exhausted (s : Session) : Prop where
  reconciles : Reconciles s
  drained : s.mode = .directLegacy → s.bufferedDirect = none

theorem Delivers.reconciled {response : QueryResponse} {s s' : Session}
    (h : Delivers response s s') : s'.reconciled = s.reconciled := by
  obtain ⟨id, cells, -, rfl⟩ := h.session
  unfold QueryCursor.follow
  split <;> rfl

theorem Sent.reconciled {s s' : Session} (h : Sent s s') : s'.reconciled = s.reconciled := by
  obtain ⟨_, _, _, rfl⟩ := h
  rfl

/-- A session that is reconciled has nothing left. -/
theorem Returns.exhausted {c c' : Client} {call : CursorCall} {value : CursorValue}
    (h : Returns c c' call value) (hsound : c.Sound setting)
    (hbefore : c.session.reconciled = true → Exhausted c.session)
    (hafter : c'.session.reconciled = true) : Exhausted c'.session := by
  have hlive : c.session.reconciled = false → c'.session.reconciled = c.session.reconciled →
      Exhausted c'.session := by
    intro live hsame
    rw [hsame, live] at hafter
    cases hafter
  cases h with
  | again _ _ reconciled same => exact same ▸ hbefore reconciled
  | finished _ _ _ _ drained reconciles session _ =>
      rw [session]
      exact ⟨⟨reconciles.chunks, reconciles.rows, reconciles.chain⟩, drained⟩
  | buffered live _ _ delivers _ => exact hlive live delivers.reconciled
  | numbered live _ _ _ sent delivers _ =>
      exact hlive live (delivers.reconciled.trans sent.reconciled)
  | direct live _ _ _ _ sent delivers _ =>
      exact hlive live (delivers.reconciled.trans sent.reconciled)
  | arrow live _ _ _ sent session _ =>
      refine hlive live ?_
      rw [session]
      exact sent.reconciled
  | reported outstanding _ session _ =>
      refine hlive (hsound.session.arrow outstanding).2 ?_
      rw [session]
      rfl

/-- What holds of a cursor whose calls have all returned. -/
structure Progress (setting : Setting) (c₀ : Client) (past : Replies) (c : Client) : Prop where
  sound : c.Sound setting
  terms : c.session.terms = c₀.session.terms
  rows : c.session.rows.toNat = deliveredRows past
  widths : ∀ chunk, .chunk chunk ∈ deliveries past →
    ∀ row ∈ chunk.rows, row.length = c₀.session.metadata.length
  exhausted : c.session.reconciled = true → Exhausted c.session

theorem Progress.mode {c₀ c : Client} {past : Replies} (h : Progress setting c₀ past c) :
    c.session.mode = c₀.session.mode := congrArg Terms.mode h.terms

/-- One more call that returns. -/
theorem Progress.step {c₀ c c' : Client} {past : Replies} {call : CursorCall} {value : CursorValue}
    (h : Progress setting c₀ past c) (hcall : call.program env c = (.ret value, c'))
    (hreturns : Returns c c' call value) :
    Progress setting c₀ (past ++ [(call, value)]) c' := by
  refine ⟨?_, hreturns.terms.trans h.terms, ?_, ?_, hreturns.exhausted h.sound h.exhausted⟩
  · exact (wp_iff.mp (keeps_cursorCall call c h.sound)).1 value c' hcall
  · rw [hreturns.rows, h.rows, deliveredRows_concat]
  · intro chunk hchunk
    rw [deliveries_concat] at hchunk
    rcases List.mem_append.mp hchunk with hold | hnew
    · exact h.widths chunk hold
    · have hmetadata : c.session.metadata = c₀.session.metadata := congrArg Terms.metadata h.terms
      rw [← hmetadata]
      exact hreturns.widths (Option.mem_toList.mp hnew)

/-! ## Numbered chunks -/

/-- The request line of a numbered chunk. -/
def chunkLine (s : Session) (index : Nat) : Bytes × Bytes :=
  (ascii "GET", s.queryUrl ++ chunksSeparator ++ toDecimal index)

/-- The Arrow responses that are not reported yet. -/
def Session.pending (s : Session) : Nat := if s.arrowResponseOutstanding then 1 else 0

/-- The requests since the preparation, with what was made of them. -/
structure Requested (c₀ c : Client) (lines : List (Bytes × Bytes)) (delivered : List Delivery)
    (requests : List HttpRequest) : Prop where
  sends : sends c.log = sends c₀.log ++ requests
  lines : requests.map HttpRequest.line = lines
  answers : List.Forall₂ (Answers c.log) requests delivered

theorem Requested.grows {c₀ c c' : Client} {lines : List (Bytes × Bytes)}
    {delivered : List Delivery} {requests : List HttpRequest}
    (h : Requested c₀ c lines delivered requests) (hlog : Grows c.log c'.log) :
    Requested c₀ c' lines delivered requests :=
  ⟨hlog.sends_eq.trans h.sends, h.lines, h.answers.imp fun _ _ ha => ha.mono hlog.isPrefix⟩

theorem Requested.fetches {c₀ c c' : Client} {lines : List (Bytes × Bytes)}
    {delivered : List Delivery} {requests : List HttpRequest} {r : HttpRequest}
    {delivery : Delivery} {line : Bytes × Bytes} (h : Requested c₀ c lines delivered requests)
    (hlog : Fetches c.log c'.log r delivery) (hline : r.line = line) :
    Requested c₀ c' (lines ++ [line]) (delivered ++ [delivery]) (requests ++ [r]) := by
  refine ⟨?_, ?_, ?_⟩
  · rw [hlog.sends, h.sends, List.append_assoc]
  · rw [List.map_append, h.lines, List.map_singleton, hline]
  · exact List.rel_append (h.answers.imp fun _ _ ha => ha.mono hlog.before)
      (.cons hlog.answers .nil)

/-- What holds of a numbered cursor: it has requested the first chunks, in
order, and handed out what was made of each. -/
structure NumberedProgress (c₀ c : Client) (delivered : List Delivery) : Prop where
  queryId : c.session.queryId = c₀.session.queryId
  counted : c.session.fetchedChunks = c.session.nextChunkIndex
  bound : c.session.nextChunkIndex.toNat + c.session.pending ≤ c.session.expectedChunks.toNat
  requested : ∃ requests, Requested c₀ c
    ((List.range (c.session.nextChunkIndex.toNat + c.session.pending)).map (chunkLine c₀.session))
    delivered requests

/-- What a delivery leaves alone, and what it counts. -/
theorem Delivers.counters {response : QueryResponse} {s s' : Session}
    (h : Delivers response s s') :
    s'.fetchedChunks = s.fetchedChunks + 1 ∧ s'.nextChunkIndex = s.nextChunkIndex ∧
      s'.arrowResponseOutstanding = s.arrowResponseOutstanding ∧
      s'.visitedUrls = s.visitedUrls ∧ s'.bufferedDirect = s.bufferedDirect := by
  obtain ⟨id, cells, -, rfl⟩ := h.session
  unfold QueryCursor.follow
  split <;> exact ⟨rfl, rfl, rfl, rfl, rfl⟩

theorem Delivers.queryId {response : QueryResponse} {s s' : Session}
    (h : Delivers response s s') (hknown : s.queryId ≠ []) : s'.queryId = s.queryId := by
  obtain ⟨id, cells, hlearned, rfl⟩ := h.session
  rw [← hlearned.kept hknown]
  unfold QueryCursor.follow
  split <;> rfl

theorem Delivers.nextUrl {response : QueryResponse} {s s' : Session}
    (h : Delivers response s s') (hmode : s.mode = .directLegacy) :
    s'.nextUrl = response.chunk.nextUrl := by
  obtain ⟨id, cells, -, rfl⟩ := h.session
  rw [QueryCursor.follow, if_pos hmode]

theorem pending_of_idle {s : Session} (h : s.arrowResponseOutstanding = false) : s.pending = 0 := by
  rw [Session.pending, h]
  rfl

/-- The line of a chunk does not change with the session. -/
theorem chunkLine_eq {c₀ c : Client} {past : Replies} (h : Progress setting c₀ past c)
    (hid : c.session.queryId = c₀.session.queryId) (index : UInt64) :
    (ascii "GET", c.session.chunkUrl index) = chunkLine c₀.session index.toNat := by
  have hcredentials : c.session.credentials = c₀.session.credentials :=
    congrArg Terms.credentials h.terms
  simp only [chunkLine, Session.chunkUrl, Session.queryUrl, Session.origin, hcredentials, hid]

/-- What a request leaves alone. -/
theorem Sent.counters {s s' : Session} (h : Sent s s') :
    s'.queryId = s.queryId ∧ s'.fetchedChunks = s.fetchedChunks ∧
      s'.nextChunkIndex = s.nextChunkIndex ∧
      s'.arrowResponseOutstanding = s.arrowResponseOutstanding ∧
      s'.visitedUrls = s.visitedUrls ∧ s'.bufferedDirect = s.bufferedDirect := by
  obtain ⟨_, _, _, rfl⟩ := h
  exact ⟨rfl, rfl, rfl, rfl, rfl, rfl⟩

theorem Sent.line {s s' : Session} (h : Sent s s') : s'.request.line = s.request.line := by
  obtain ⟨_, _, _, rfl⟩ := h
  rfl

/-- A step that requests nothing. -/
theorem NumberedProgress.still {c₀ c c' : Client} {delivered : List Delivery}
    (h : NumberedProgress c₀ c delivered) (hid : c'.session.queryId = c.session.queryId)
    (hcounted : c'.session.fetchedChunks = c'.session.nextChunkIndex)
    (hexpected : c'.session.expectedChunks = c.session.expectedChunks)
    (hsum : c'.session.nextChunkIndex.toNat + c'.session.pending
      = c.session.nextChunkIndex.toNat + c.session.pending)
    (hlog : Grows c.log c'.log) : NumberedProgress c₀ c' delivered := by
  obtain ⟨requests, hrequested⟩ := h.requested
  refine ⟨hid.trans h.queryId, hcounted, ?_, requests, ?_⟩
  · rw [hsum, hexpected]
    exact h.bound
  · rw [hsum]
    exact hrequested.grows hlog

/-- A step that fetches the next chunk. -/
theorem NumberedProgress.next {c₀ c c' : Client} {delivered : List Delivery} {r : HttpRequest}
    {delivery : Delivery} (h : NumberedProgress c₀ c delivered)
    (hid : c'.session.queryId = c.session.queryId)
    (hcounted : c'.session.fetchedChunks = c'.session.nextChunkIndex)
    (hexpected : c'.session.expectedChunks = c.session.expectedChunks)
    (hidle : c.session.arrowResponseOutstanding = false)
    (hmore : c.session.nextChunkIndex < c.session.expectedChunks)
    (hsum : c'.session.nextChunkIndex.toNat + c'.session.pending
      = c.session.nextChunkIndex.toNat + 1)
    (hlog : Fetches c.log c'.log r delivery)
    (hline : r.line = chunkLine c₀.session c.session.nextChunkIndex.toNat) :
    NumberedProgress c₀ c' (delivered ++ [delivery]) := by
  obtain ⟨requests, hrequested⟩ := h.requested
  rw [pending_of_idle hidle, Nat.add_zero] at hrequested
  refine ⟨hid.trans h.queryId, hcounted, ?_, requests ++ [r], ?_⟩
  · have := UInt64.lt_iff_toNat_lt.mp hmore
    rw [hsum, hexpected]
    omega
  · rw [hsum, List.range_succ, List.map_append]
    exact hrequested.fetches hlog hline

theorem NumberedProgress.step {c₀ c c' : Client} {past : Replies} {call : CursorCall}
    {value : CursorValue} (h : NumberedProgress c₀ c (deliveries past))
    (hprogress : Progress setting c₀ past c) (hmode : c.session.mode = .numberedV3)
    (hreturns : Returns c c' call value) :
    NumberedProgress c₀ c' (deliveries (past ++ [(call, value)])) := by
  have hknown := (hprogress.sound.session.numbered hmode).1
  have hexpected : c'.session.expectedChunks = c.session.expectedChunks :=
    congrArg Terms.expectedChunks hreturns.terms
  have hline := chunkLine_eq hprogress h.queryId c.session.nextChunkIndex
  rw [deliveries_concat]
  cases hreturns with
  | again _ _ _ same =>
      rw [delivery_atEnd, Option.toList_none, List.append_nil, same]
      exact h
  | finished _ _ _ _ _ _ session log =>
      rw [delivery_atEnd, Option.toList_none, List.append_nil]
      refine h.still ?_ ?_ hexpected ?_ log
      · rw [session]
      · rw [session]
        exact h.counted
      · rw [session]
        rfl
  | buffered _ mode _ _ _ => exact absurd (hmode.symm.trans mode) (by decide)
  | numbered _ _ idle more sent delivers log =>
      obtain ⟨hid₁, hfetched₁, hindex₁, houtstanding₁, -, -⟩ := sent.counters
      obtain ⟨hfetched₂, hindex₂, houtstanding₂, -, -⟩ := delivers.counters
      have hindex : c'.session.nextChunkIndex = c.session.nextChunkIndex + 1 :=
        hindex₂.trans hindex₁
      have hpending : c'.session.pending = 0 :=
        pending_of_idle (houtstanding₂.trans (houtstanding₁.trans idle))
      refine h.next ((delivers.queryId (hid₁ ▸ hknown)).trans hid₁) ?_ hexpected idle more ?_ log
        (sent.line.trans hline)
      · rw [hfetched₂, hfetched₁, hindex]
        exact congrArg (· + 1) h.counted
      · rw [hpending, hindex, Quota.toNat_succ more]
  | direct _ mode _ _ _ _ _ _ => exact absurd (hmode.symm.trans mode) (by decide)
  | arrow _ _ idle more sent session log =>
      obtain ⟨hid, hfetched, hindex, -, -, -⟩ := sent.counters
      refine h.next ?_ ?_ hexpected idle more ?_ log (sent.line.trans hline)
      · rw [session]
        exact hid
      · rw [session]
        exact hfetched.trans (h.counted.trans hindex.symm)
      · rw [session]
        exact congrArg (·.toNat + 1) hindex
  | reported outstanding _ session log =>
      rw [show CursorValue.reported.delivery.toList = [] from rfl, List.append_nil]
      have hpending : c.session.pending = 1 := if_pos outstanding
      have hmore : c.session.nextChunkIndex < c.session.expectedChunks := by
        have hbound := h.bound
        rw [UInt64.lt_iff_toNat_lt]
        omega
      refine h.still ?_ ?_ hexpected ?_ log
      · rw [session]
        rfl
      · rw [session]
        exact congrArg (· + 1) h.counted
      · rw [session, hpending]
        exact Quota.toNat_succ hmore

/-! ## Chains of chunks -/

/-- The request line of a chunk in a direct chain. -/
def directLine (s : Session) (url : Bytes) : Bytes × Bytes := (ascii "GET", s.origin ++ url)

/-- What holds of a direct cursor: it has handed out the buffered response, and
followed the chain from there. -/
inductive DirectProgress (c₀ c : Client) (delivered : List Delivery) : Prop where
  | unread (nothing : delivered = [])
      (buffered : c.session.bufferedDirect = c₀.session.bufferedDirect)
      (visited : c.session.visitedUrls = []) (sent : sends c.log = sends c₀.log)
  | reading (first : QueryResponse) (rest : List ResultChunk) (requests : List HttpRequest)
      (handedOut : delivered = (first.chunk :: rest).map .chunk)
      (buffered : c₀.session.bufferedDirect = some first)
      (drained : c.session.bufferedDirect = none)
      (chain : (first.chunk :: rest).map (·.nextUrl)
        = c.session.visitedUrls ++ [c.session.nextUrl])
      (distinct : c.session.visitedUrls.Nodup)
      (nonempty : ∀ url ∈ c.session.visitedUrls, url ≠ [])
      (requested : Requested c₀ c (c.session.visitedUrls.map (directLine c₀.session))
        (rest.map .chunk) requests)

/-- A step that requests nothing and hands out nothing. -/
theorem DirectProgress.still {c₀ c c' : Client} {delivered : List Delivery}
    (h : DirectProgress c₀ c delivered)
    (hbuffer : c'.session.bufferedDirect = c.session.bufferedDirect)
    (hvisited : c'.session.visitedUrls = c.session.visitedUrls)
    (hnext : c'.session.nextUrl = c.session.nextUrl) (hlog : Grows c.log c'.log) :
    DirectProgress c₀ c' delivered := by
  cases h with
  | unread nothing buffered visited sent =>
      exact .unread nothing (hbuffer.trans buffered) (hvisited.trans visited)
        (hlog.sends_eq.trans sent)
  | reading first rest requests handedOut buffered drained chain distinct nonempty requested =>
      refine .reading first rest requests handedOut buffered (hbuffer.trans drained) ?_ ?_ ?_ ?_
      · rw [hvisited, hnext]
        exact chain
      · rw [hvisited]
        exact distinct
      · rw [hvisited]
        exact nonempty
      · rw [hvisited]
        exact requested.grows hlog

theorem DirectProgress.step {c₀ c c' : Client} {past : Replies} {call : CursorCall}
    {value : CursorValue} (h : DirectProgress c₀ c (deliveries past))
    (hserved : c₀.session.bufferedDirect ≠ none) (hprogress : Progress setting c₀ past c)
    (hmode : c.session.mode = .directLegacy)
    (hreturns : Returns c c' call value) :
    DirectProgress c₀ c' (deliveries (past ++ [(call, value)])) := by
  have horigin : c.session.origin = c₀.session.origin :=
    congrArg (fun terms : Terms => trimTrailingSlash terms.credentials.instanceUrl) hprogress.terms
  rw [deliveries_concat]
  cases hreturns with
  | again _ _ _ same =>
      rw [delivery_atEnd, Option.toList_none, List.append_nil, same]
      exact h
  | finished _ _ _ _ _ _ session log =>
      rw [delivery_atEnd, Option.toList_none, List.append_nil]
      refine h.still ?_ ?_ ?_ log
      · rw [session]
      · rw [session]
      · rw [session]
  | @buffered response _ _ buffer delivers log =>
      obtain ⟨-, -, -, hvisited, hdrained⟩ := delivers.counters
      cases h with
      | unread nothing buffered visited sent =>
          have hnone : c'.session.visitedUrls = [] := hvisited.trans visited
          refine .reading response [] [] ?_ (buffered.symm.trans buffer) hdrained ?_ ?_ ?_ ?_
          · rw [nothing]
            rfl
          · rw [hnone, delivers.nextUrl hmode]
            rfl
          · rw [hnone]
            exact List.nodup_nil
          · rw [hnone]
            simp
          · rw [hnone]
            exact ⟨by rw [log.sends_eq, sent, List.append_nil], rfl, .nil⟩
      | reading _ _ _ _ _ drained _ _ _ _ => cases buffer.symm.trans drained
  | numbered _ mode _ _ _ _ _ => exact absurd (hmode.symm.trans mode) (by decide)
  | @direct response s _ _ buffer unfinished fresh sent delivers log =>
      obtain ⟨-, -, -, -, hvisited₁, hbuffer₁⟩ := sent.counters
      obtain ⟨-, -, -, hvisited₂, hbuffer₂⟩ := delivers.counters
      have hvisited : c'.session.visitedUrls = c.session.visitedUrls ++ [c.session.nextUrl] :=
        hvisited₂.trans hvisited₁
      have hnext : c'.session.nextUrl = response.chunk.nextUrl :=
        delivers.nextUrl ((congrArg Terms.mode sent.terms).trans hmode)
      have hline : s.request.line = directLine c₀.session c.session.nextUrl := by
        rw [sent.line, directLine, ← horigin]
        rfl
      cases h with
      | unread _ buffered _ _ => exact (hserved (buffered.symm.trans buffer)).elim
      | reading first rest requests handedOut buffered _ chain distinct nonempty requested =>
          refine .reading first (rest ++ [response.chunk]) (requests ++ [s.request]) ?_ buffered
            (hbuffer₂.trans (hbuffer₁.trans buffer)) ?_ ?_ ?_ ?_
          · rw [handedOut]
            simp [CursorValue.delivery]
          · rw [hvisited, hnext, ← chain]
            simp
          · rw [hvisited]
            exact List.nodup_append.mpr ⟨distinct, List.nodup_singleton _, fun url hurl other
              hother heq => fresh (List.mem_singleton.mp hother ▸ heq ▸ hurl)⟩
          · rw [hvisited]
            intro url hurl
            rcases List.mem_append.mp hurl with hold | hnew
            · exact nonempty url hold
            · rw [List.mem_singleton.mp hnew]
              exact unfinished
          · rw [hvisited, List.map_append, List.map_append]
            exact requested.fetches log hline
  | arrow _ mode _ _ _ _ _ => exact absurd (hmode.symm.trans mode) (by decide)
  | reported outstanding _ _ _ =>
      exact absurd (hmode.symm.trans (hprogress.sound.session.arrow outstanding).1) (by decide)

/-! ## Runs from a prepared session -/

theorem progress_opened {c₀ : Client} (h : Prepared setting c₀) :
    Progress setting c₀ [] c₀ where
  sound := h.working.sound
  terms := rfl
  rows := by rw [h.unread.rows]; rfl
  widths := by simp [deliveries]
  exhausted :=
    fun hreconciled => absurd (h.working.session.open'.symm.trans hreconciled) (by decide)

theorem numberedProgress_opened {c₀ : Client} (h : Prepared setting c₀) :
    NumberedProgress c₀ c₀ [] := by
  have hpending : c₀.session.pending = 0 := pending_of_idle h.working.session.idle
  refine ⟨rfl, ?_, ?_, [], ?_⟩
  · rw [h.unread.fetchedChunks, h.unread.nextChunkIndex]
  · rw [h.unread.nextChunkIndex, hpending]
    exact Nat.zero_le _
  · rw [h.unread.nextChunkIndex, hpending]
    exact ⟨(List.append_nil _).symm, rfl, .nil⟩

/-- The run lemma: every run without failures makes progress, in its mode. -/
theorem served_progress {c₀ c : Client} {past : Replies} (hprepared : Prepared setting c₀)
    (h : Served env c₀ past c) :
    Progress setting c₀ past c ∧
      (c₀.session.mode = .numberedV3 → NumberedProgress c₀ c (deliveries past)) ∧
      (c₀.session.mode = .directLegacy → DirectProgress c₀ c (deliveries past)) := by
  obtain ⟨advertised, -, hserves⟩ := hprepared.serves
  induction h with
  | opened =>
      exact ⟨progress_opened hprepared, fun _ => numberedProgress_opened hprepared,
        fun _ => .unread rfl rfl hprepared.unread.visitedUrls rfl⟩
  | @call past c c' call value _ returned ih =>
      obtain ⟨hprogress, hnumbered, hdirect⟩ := ih
      have hreturns : Returns c c' call value :=
        (wp_iff.mp (wp_cursorCall_returns hprogress.sound call)).1 value c' returned
      refine ⟨hprogress.step returned hreturns, fun hmode => ?_, fun hmode => ?_⟩
      · exact (hnumbered hmode).step hprogress (hprogress.mode.trans hmode) hreturns
      · have hserved : c₀.session.bufferedDirect ≠ none := by
          rcases hserves.chunks with ⟨hother, -⟩ | ⟨-, hbuffered⟩
          · exact absurd (hmode.symm.trans hother) (by decide)
          · rw [hbuffered]
            exact Option.some_ne_none _
        exact (hdirect hmode).step hserved hprogress (hprogress.mode.trans hmode) hreturns

/-! ## The end of the data -/

/-- Nothing is missing and nothing is there twice. -/
structure Complete (advertised : QueryResponse) (c₀ : Client) (delivered : List Delivery)
    (rows : Nat) (c : Client) : Prop where
  /-- The chunks of a numbered query were requested in order, each once. -/
  numbered : c₀.session.mode = .numberedV3 → ∃ requests,
    Requested c₀ c ((List.range advertised.chunkCount.toNat).map (chunkLine c₀.session))
      delivered requests
  /-- The chunks of a direct query are the buffered response and then the
  chain of its next URLs, up to an empty one. -/
  direct : c₀.session.mode = .directLegacy → ∃ rest urls requests,
    delivered = (advertised.chunk :: rest).map .chunk ∧
    (advertised.chunk :: rest).map (·.nextUrl) = urls ++ [[]] ∧
    urls.Nodup ∧ (∀ url ∈ urls, url ≠ []) ∧
    Requested c₀ c (urls.map (directLine c₀.session)) (rest.map .chunk) requests
  rows : advertised.hasRowCount = true → rows = advertised.rowCount.toNat
  widths : ∀ chunk, .chunk chunk ∈ delivered →
    ∀ row ∈ chunk.rows, row.length = c₀.session.metadata.length

/-- The session is at its end. -/
structure AtEnd (s : Session) : Prop where
  reconciled : s.reconciled = true
  idle : s.arrowResponseOutstanding = false

/-- Every later call for a chunk finds the end again, and sends nothing. -/
def StaysAtEnd (env : QueryEnv) (c : Client) : Prop :=
  ∀ later, sends ((cursorMachine env).run c later).log = sends c.log ∧
    ∀ event ∈ (cursorMachine env).trace c later,
      (event.input = .nextChunk → event.output = .ret (.chunk none)) ∧
      (c.session.mode = .numberedV3 → event.input = .nextArrowChunk →
        event.output = .ret (.arrow none))

/-- At the end, no call changes anything. -/
theorem atEnd_step {c : Client} (h : AtEnd c.session) (call : CursorCall) :
    wp (call.program env)
      (fun value c' => c' = c ∧ value = call.atEnd) (fun _ c' => c' = c ∧ call ≠ .nextChunk ∧
        (c.session.mode = .numberedV3 → call ≠ .nextArrowChunk)) (fun _ => False) c := by
  have hidle := h.idle
  have hreconciled := h.reconciled
  cases call with
  | nextChunk =>
      rw [CursorCall.program, wp_bind, QueryCursor.nextChunk, wp_bind, wp_look, wp_bind, wp_raiseIf]
      refine ⟨fun houtstanding => absurd (hidle.symm.trans houtstanding) (by decide), fun _ => ?_⟩
      rw [wp_ite]
      exact ⟨fun _ => ⟨rfl, rfl⟩, fun hopen => (hopen hreconciled).elim⟩
  | nextArrowChunk =>
      rw [CursorCall.program, wp_bind, QueryCursor.nextArrowChunk, wp_bind, wp_look, wp_bind,
        wp_raiseIf]
      refine ⟨fun hmode => ⟨rfl, by simp, fun h => (hmode h).elim⟩, fun _ => ?_⟩
      rw [wp_bind, wp_raiseIf]
      refine ⟨fun houtstanding => absurd (hidle.symm.trans houtstanding) (by decide), fun _ => ?_⟩
      rw [wp_ite]
      exact ⟨fun _ => ⟨rfl, rfl⟩, fun hopen => (hopen hreconciled).elim⟩
  | reportArrowChunk decodedRows =>
      rw [CursorCall.program, wp_bind, QueryCursor.reportArrowChunk, wp_bind, wp_look, wp_bind,
        wp_raiseIf]
      exact ⟨fun _ => ⟨rfl, by simp, by simp⟩, fun houtstanding => (houtstanding hidle).elim⟩

theorem staysAtEnd_of_atEnd {c : Client} (h : AtEnd c.session) : StaysAtEnd env c := by
  intro later
  induction later with
  | nil => exact ⟨rfl, by simp⟩
  | cons call rest ih =>
      have hstep := wp_iff.mp (show wp (call.program env) _ _ _ c from atEnd_step h call)
      have hsame : ((cursorMachine env).step call c).2 = c :=
        wp_final.mp (wp_mono (atEnd_step h call) (fun _ _ h => h.1) (fun _ _ h => h.1)
          fun _ h => h.elim)
      refine ⟨?_, fun event hevent => ?_⟩
      · rw [Machine.run, hsame]
        exact ih.1
      · rw [Machine.trace, hsame] at hevent
        rcases List.mem_cons.mp hevent with rfl | hevent
        · rcases hrun : call.program env c with ⟨outcome, c'⟩
          have houtput : ((cursorMachine env).event c call).output = outcome :=
            congrArg Prod.fst hrun
          rw [houtput]
          cases outcome with
          | ret value =>
              obtain ⟨-, hvalue⟩ := hstep.1 value c' hrun
              rw [hvalue]
              exact ⟨fun hcall => by rw [show call = .nextChunk from hcall]; rfl,
                fun _ hcall => by rw [show call = .nextArrowChunk from hcall]; rfl⟩
          | raise e =>
              obtain ⟨-, hnext, harrow⟩ := hstep.2.1 e c' hrun
              exact ⟨fun hcall => (hnext hcall).elim, fun hmode hcall => (harrow hmode hcall).elim⟩
          | cut => exact (hstep.2.2 c' hrun).elim
        · exact ih.2 event hevent

/-- A run that has reached the end has everything. -/
theorem complete_of_progress {advertised : QueryResponse} {c₀ c : Client} {past : Replies}
    (hserves : Serves advertised c₀.session) (hprogress : Progress setting c₀ past c)
    (hnumbered : c₀.session.mode = .numberedV3 → NumberedProgress c₀ c (deliveries past))
    (hdirect : c₀.session.mode = .directLegacy → DirectProgress c₀ c (deliveries past))
    (hend : AtEnd c.session) :
    Complete advertised c₀ (deliveries past) (deliveredRows past) c := by
  obtain ⟨hreconciles, hdrained⟩ := hprogress.exhausted hend.reconciled
  have hchunks : c.session.hasExpectedChunks = c₀.session.hasExpectedChunks :=
    congrArg Terms.hasExpectedChunks hprogress.terms
  have hexpected : c.session.expectedChunks = c₀.session.expectedChunks :=
    congrArg Terms.expectedChunks hprogress.terms
  have hhasRows : c.session.hasExpectedRows = c₀.session.hasExpectedRows :=
    congrArg Terms.hasExpectedRows hprogress.terms
  have hrows : c.session.expectedRows = c₀.session.expectedRows :=
    congrArg Terms.expectedRows hprogress.terms
  refine ⟨fun hmode => ?_, fun hmode => ?_, fun hcount => ?_, hprogress.widths⟩
  · have hmode' := hprogress.mode.trans hmode
    rcases hserves.chunks with ⟨-, hhas, hadvertised⟩ | ⟨hother, -⟩
    · have hnumbered := hnumbered hmode
      obtain ⟨requests, hrequested⟩ := hnumbered.requested
      have hall : c.session.nextChunkIndex = advertised.chunkCount := by
        rw [← hnumbered.counted, hreconciles.chunks hmode' (hchunks.trans hhas), hexpected,
          hadvertised]
      rw [hall, pending_of_idle hend.idle, Nat.add_zero] at hrequested
      exact ⟨requests, hrequested⟩
    · exact absurd (hmode.symm.trans hother) (by decide)
  · have hmode' := hprogress.mode.trans hmode
    rcases hserves.chunks with ⟨hother, -⟩ | ⟨-, hbuffered⟩
    · exact absurd (hmode.symm.trans hother) (by decide)
    · cases hdirect hmode with
      | unread _ buffered _ _ =>
          have hnone := buffered.symm.trans (hdrained hmode')
          cases hbuffered.symm.trans hnone
      | reading first rest requests handedOut buffered _ chain distinct nonempty requested =>
          cases hbuffered.symm.trans buffered
          rw [hreconciles.chain hmode'] at chain
          exact ⟨rest, _, requests, handedOut, chain, distinct, nonempty, requested⟩
  · have hhas : c.session.hasExpectedRows = true := hhasRows.trans (hserves.hasRows.trans hcount)
    rw [← hprogress.rows, hreconciles.rows hhas, hrows, hserves.rows]

theorem atEnd_of_returns {c c' : Client} {call : CursorCall} (h : c.Sound setting)
    (hreturns : Returns c c' call call.atEnd) (hnext : call.IsNext) : AtEnd c'.session := by
  generalize hvalue : call.atEnd = value at hreturns
  cases hreturns with
  | again _ _ reconciled same =>
      rw [same]
      refine ⟨reconciled, ?_⟩
      by_contra houtstanding
      exact absurd (reconciled.symm.trans (h.session.arrow (by simpa using houtstanding)).2)
        (by decide)
  | finished _ _ _ idle _ _ session _ =>
      rw [session]
      exact ⟨rfl, idle⟩
  | buffered => cases hvalue
  | numbered => cases hvalue
  | direct => cases hvalue
  | arrow => cases hvalue
  | reported => exact hnext.elim

/-! ## `Execute` -/

theorem program_nextChunk_ret {c c' : Client} {next : Option ResultChunk}
    (h : QueryCursor.nextChunk env c = (.ret next, c')) :
    CursorCall.nextChunk.program env c = (.ret (.chunk next), c') := by
  show Prog.bind (QueryCursor.nextChunk env) _ c = _
  rw [Prog.bind, h]
  rfl

/-- The loop of `Execute` is a run of `NextChunk` calls. -/
theorem executeLoop_served {fuel : Nat} {c₀ c c' : Client} {past : Replies}
    {chunks result : List ResultChunk} (h : Served env c₀ past c)
    (hdelivered : deliveries past = chunks.map .chunk)
    (hrows : deliveredRows past = (chunks.map (·.rows.length)).sum)
    (hrun : QueryApiV3Client.executeLoop env fuel chunks c = (.ret result, c')) :
    ∃ past' c'', Served env c₀ past' c'' ∧
      QueryCursor.nextChunk env c'' = (.ret none, c') ∧
      deliveries past' = result.map .chunk ∧
      deliveredRows past' = (result.map (·.rows.length)).sum := by
  induction fuel generalizing past chunks c with
  | zero => cases hrun
  | succ fuel ih =>
      obtain ⟨next, c₁, hnext, hrest⟩ := bind_eq_ret hrun
      cases next with
      | none =>
          cases hrest
          exact ⟨past, c, h, hnext, hdelivered, hrows⟩
      | some chunk =>
          refine ih (h.call (program_nextChunk_ret hnext)) ?_ ?_ hrest
          · rw [deliveries_concat, hdelivered, List.map_append]
            rfl
          · rw [deliveredRows_concat, hrows, List.map_append, List.sum_append]
            rfl

/-! ## The result -/

/-- A query has ended cleanly: a call has returned `false` after calls that all
returned, or `Execute` has returned. -/
inductive EndsCleanly (env : QueryEnv) (sql : Bytes) (credentials : QueryCredentials)
    (options : QueryOptions) : Client → List Delivery → Nat → Client → Prop
  | cursor {fuel : Nat} {metadataOnly : Bool} {c₀ c c' : Client} {past : Replies}
      {call : CursorCall}
      (prepared : QueryApiV3Client.prepareInternal env fuel sql credentials metadataOnly options {}
        = (.ret (), c₀))
      (served : Served env c₀ past c) (next : call.IsNext)
      (ended : call.program env c = (.ret call.atEnd, c')) :
      EndsCleanly env sql credentials options c₀ (deliveries past) (deliveredRows past) c'
  | execute {fuel : Nat} {result : QueryResult} {c' : Client}
      (executed : QueryApiV3Client.execute env fuel sql credentials options {}
        = (.ret result, c')) :
      EndsCleanly env sql credentials options
        (QueryApiV3Client.prepareInternal env fuel sql credentials false options {}).2
        (result.chunks.map .chunk) (result.chunks.map (·.rows.length)).sum c'

/-- Every clean end is the end of calls on a cursor. -/
theorem EndsCleanly.as_cursor {sql : Bytes} {credentials : QueryCredentials}
    {options : QueryOptions} {c₀ c' : Client} {delivered : List Delivery} {rows : Nat}
    (h : EndsCleanly env sql credentials options c₀ delivered rows c') :
    ∃ fuel metadataOnly past c call,
      QueryApiV3Client.prepareInternal env fuel sql credentials metadataOnly options {}
        = (.ret (), c₀) ∧
      Served env c₀ past c ∧ CursorCall.IsNext call ∧
      delivered = deliveries past ∧ rows = deliveredRows past ∧
      ∃ c₁, call.program env c = (.ret call.atEnd, c₁) ∧ (c' = c₁ ∨ c' = cancel env c₁) := by
  cases h with
  | @cursor fuel metadataOnly _ c _ past call prepared served next ended =>
      exact ⟨fuel, metadataOnly, past, c, call, prepared, served, next, rfl, rfl, c',
        ended, .inl rfl⟩
  | @execute fuel result _ executed =>
      obtain ⟨_, c₀, hprepared, hscope⟩ := bind_eq_ret executed
      obtain ⟨c₁, hcollect, hc'⟩ := withDestructor_eq_ret hscope
      obtain ⟨metadata, c₂, hlook, hrest⟩ := bind_eq_ret hcollect
      cases hlook
      obtain ⟨chunks, c₃, hloop, hresult⟩ := bind_eq_ret hrest
      cases hresult
      have hopened : Served env c₀ [] c₀ := .opened
      obtain ⟨past, c, hserved, hlast, hdelivered, hrows⟩ :=
        executeLoop_served hopened rfl rfl hloop
      rw [hprepared]
      exact ⟨fuel, false, past, c, .nextChunk, hprepared, hserved, trivial, hdelivered.symm,
        hrows.symm, c₁, program_nextChunk_ret hlast, .inr hc'⟩

theorem cancel_of_reconciled {c : Client} (h : c.session.reconciled = true) : cancel env c = c := by
  rw [cancel, if_pos (.inr (.inl h))]

/-- A query that ends cleanly has requested and handed out everything that the
service advertised, once and in order, and stays at its end.  Before, it has
requested no chunk. -/
theorem clean_end_complete {sql : Bytes} {credentials : QueryCredentials}
    {options : QueryOptions} {c₀ c' : Client} {delivered : List Delivery} {rows : Nat}
    (h : EndsCleanly env sql credentials options c₀ delivered rows c') :
    (∀ r ∈ sends c₀.log, ¬ IsChunkGet c₀.session.origin r) ∧
      (∃ advertised, HasDecoded advertised c₀.log ∧ Serves advertised c₀.session ∧
        Complete advertised c₀ delivered rows c') ∧
      StaysAtEnd env c' := by
  obtain ⟨fuel, metadataOnly, past, c, call, hprepared, hserved, hnext, rfl, rfl, c₁,
    hended, hc'⟩ :=
    h.as_cursor
  obtain ⟨setting, -, hprepared'⟩ :=
    (wp_iff.mp (wp_prepareInternal fuel sql credentials metadataOnly options)).1 _ _ hprepared
  have hpreparing :=
    (wp_iff.mp (wp_prepareInternal_requests fuel sql credentials metadataOnly options)).1 _ _
      hprepared
  obtain ⟨hprogress, -, -⟩ := served_progress hprepared' hserved
  have hreturns : Returns c c₁ call call.atEnd :=
    (wp_iff.mp (wp_cursorCall_returns hprogress.sound call)).1 _ c₁ hended
  have hatEnd : AtEnd c₁.session := atEnd_of_returns hprogress.sound hreturns hnext
  obtain rfl : c' = c₁ := by
    rcases hc' with heq | heq
    · exact heq
    · exact heq.trans (cancel_of_reconciled hatEnd.reconciled)
  have hdeliveries : deliveries (past ++ [(call, call.atEnd)]) = deliveries past := by
    rw [deliveries_concat, delivery_atEnd, Option.toList_none, List.append_nil]
  have hrows : deliveredRows (past ++ [(call, call.atEnd)]) = deliveredRows past := by
    rw [deliveredRows_concat, rowsOf_atEnd hnext, Nat.add_zero]
  obtain ⟨hprogress', hnumbered, hdirect⟩ := served_progress hprepared' (hserved.call hended)
  obtain ⟨advertised, hdecoded, hserves⟩ := hprepared'.serves
  have hcomplete := complete_of_progress hserves hprogress' hnumbered hdirect hatEnd
  rw [hdeliveries, hrows] at hcomplete
  refine ⟨fun r hr => ?_, ⟨advertised, hdecoded, hserves, hcomplete⟩, staysAtEnd_of_atEnd hatEnd⟩
  rw [hpreparing.session.tenant]
  exact hpreparing.log r hr

/-- Surroundings that answer a query with a row count of two, and each of its
two numbered chunks with one row. -/
def numberedEnv : QueryEnv :=
  scriptedEnv (fun _ => 0) (fun _ => some { status := 200 }) fun n => .response
    { state := .complete
      queryId := ascii "q-1"
      hasChunkCount := true
      chunkCount := 2
      hasRowCount := true
      rowCount := 2
      metadata := [⟨ascii "id", ascii "bigint", false, false, false, 0, 0⟩]
      chunk := { rows := if n ≤ 2 then [] else [[some (ascii "1")]] } }

/-- What `Execute` returns in them. -/
def numberedResult : QueryResult where
  metadata := [⟨ascii "id", ascii "bigint", false, false, false, 0, 0⟩]
  chunks := [{ rows := [[some (ascii "1")]] }, { rows := [[some (ascii "1")]] }]

/-- `Execute` in them. -/
def numberedExecuted : Outcome QueryError QueryResult × Client :=
  QueryApiV3Client.execute numberedEnv 5 (ascii "SELECT 1") sampleCredentials {} {}

/-- `Execute` returns two chunks, and they are complete. -/
theorem clean_end_complete_numbered :
    numberedExecuted.1 = .ret numberedResult ∧
      (∃ c₀ advertised, HasDecoded advertised c₀.log ∧ Serves advertised c₀.session ∧
        Complete advertised c₀ (numberedResult.chunks.map .chunk) 2 numberedExecuted.2) ∧
      StaysAtEnd numberedEnv numberedExecuted.2 := by
  have hreturns : numberedExecuted.1 = .ret numberedResult := by decide +kernel
  have hexecuted : numberedExecuted = (.ret numberedResult, numberedExecuted.2) :=
    run_eq_of_fst hreturns
  have hends : EndsCleanly numberedEnv (ascii "SELECT 1") sampleCredentials {} _
      (numberedResult.chunks.map .chunk) 2 numberedExecuted.2 := .execute hexecuted
  obtain ⟨-, ⟨advertised, hdecoded, hserves, hcomplete⟩, hstays⟩ := clean_end_complete hends
  exact ⟨hreturns, ⟨_, advertised, hdecoded, hserves, hcomplete⟩, hstays⟩

end Data360
