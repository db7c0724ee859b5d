import Data360.QueryApi.Returns

/-!
# Failures of a cursor

A failed call ends in `cancel`, which makes the session terminal only when it
has an id.  This module says when a failure is final.

* `keeps_queryId`: an id that is known does not change.
* `Stuck` is the state after a final failure; `stuck_step` says that it stays
  and that no later call gets a chunk or the end of the data.
* `failure_sticky_iff` finds the failures that are final.
-/

namespace Data360

open Lib Lib.ByteString Lib.Prog Session

variable {env : QueryEnv} {setting : Setting}

/-- A `std::logic_error`: the caller misused the cursor. -/
def QueryError.Misuse (e : QueryError) : Prop := ∃ message, e = .logicError message

/-! ## The id -/

/-- The id of the session. -/
def HasId (id : Bytes) (s : Session) : Prop := s.queryId = id

/-- A session with this id. -/
abbrev Client.HasId (id : Bytes) : Client → Prop := Ongoing (fun _ => True) (Data360.HasId id)

theorem keeps_rememberQueryId {id : Bytes} (hid : id ≠ []) (response : QueryResponse) :
    Keeps (Client.HasId id) (rememberQueryId response) := by
  intro c hc
  have hsame : ∀ new, Learns c.session.queryId response new → new = id := fun new h => by
    rw [h.kept (hc.session ▸ hid)]
    exact hc.session
  refine wp_mono (wp_rememberQueryId response c) (fun _ c' h => ?_) (fun _ c' h => ?_)
    fun _ h => h.elim
  · obtain ⟨new, rfl, hnew⟩ := h
    exact ⟨trivial, hsame new hnew.toLearns⟩
  · obtain ⟨new, rfl, hnew⟩ := h
    exact ⟨trivial, hsame new hnew⟩

theorem keeps_sendDecode_id (id : Bytes) : Keeps (Client.HasId id) (do
    let response ← send env
    decode env response) :=
  keeps_sendDecode_lasting lasting_true fun _ _ _ h => h

theorem keeps_accept_id (id : Bytes) (response : QueryResponse) :
    Keeps (Client.HasId id) (accept response) :=
  keeps_accept (fun _ _ _ _ h => h) response

theorem keeps_finished_id {α : Type} (id : Bytes) :
    Keeps (Client.HasId id) (QueryCursor.finished : Query (Option α)) :=
  fun _ hc => wp_finished_of (fun _ => ⟨trivial, hc.session⟩) fun _ _ => hc

theorem keeps_deliver_id {id : Bytes} (hid : id ≠ []) (response : QueryResponse) :
    Keeps (Client.HasId id) (QueryCursor.deliver env response) := by
  refine keeps_bind (keeps_rememberQueryId hid response) fun _ =>
    keeps_bind (keeps_checkActive lasting_true.idle) fun _ =>
    keeps_bind (keeps_accept_id id response) fun accepted =>
    keeps_bind (keeps_modify fun s h => ?_) fun _ => keeps_pure _
  unfold QueryCursor.follow
  split
  · exact h
  · exact h

/-- A cursor call does not change an id that is known. -/
theorem keeps_nextChunkBody_id {id : Bytes} (hid : id ≠ []) :
    Keeps (Client.HasId id) (QueryCursor.nextChunkBody env) := by
  have hdirect : ∀ s, HasId id s → HasId id (QueryCursor.directRequest s) := by
    intro s h
    have hne : s.queryId ≠ [] := h ▸ hid
    simp only [HasId, QueryCursor.directRequest, if_neg hne]
    exact h
  refine keeps_bind (keeps_look _) fun s => keeps_ite _ ?_ ?_
  · refine keeps_bind (keeps_look _) fun s => keeps_ite _ (keeps_finished_id id) ?_
    exact keeps_bind (keeps_bind (keeps_modify fun _ h => h) fun _ => keeps_sendDecode_id id)
      fun response => keeps_deliver_id hid response
  · refine keeps_bind (keeps_look _) fun s => ?_
    cases s.bufferedDirect with
    | some response =>
        exact keeps_bind (keeps_modify fun _ h => h) fun _ => keeps_deliver_id hid response
    | none =>
        refine keeps_ite _ (keeps_finished_id id) ?_
        refine keeps_bind (keeps_bind (keeps_look _) fun _ => keeps_bind (keeps_raiseIf _ _)
          fun _ => keeps_bind (keeps_modify hdirect) fun _ => keeps_sendDecode_id id)
          fun response => keeps_deliver_id hid response

theorem keeps_nextArrowBody_id (id : Bytes) :
    Keeps (Client.HasId id) (QueryCursor.nextArrowBody env) := by
  have hactive : Keeps (Client.HasId id) (checkActive env) := keeps_checkActive lasting_true.idle
  refine keeps_bind hactive fun _ => keeps_bind (keeps_look _) fun s =>
    keeps_ite _ (keeps_finished_id id) ?_
  refine keeps_bind (keeps_modify fun _ h => h) fun _ =>
    keeps_bind (keeps_send_lasting lasting_true fun _ _ _ h => h) fun response =>
    keeps_ite _ (keeps_bind (keeps_arrowFailed lasting_true.idle response) fun _ => keeps_pure _) ?_
  exact keeps_bind hactive fun _ => keeps_bind (keeps_modify fun _ h => h) fun _ => keeps_pure _

/-! ## Stuck cursors -/

/-- A direct session without an id that cannot go on. -/
structure Dead (s : Session) : Prop where
  mode : s.mode = .directLegacy
  id : s.queryId = []
  idle : s.arrowResponseOutstanding = false
  buffer : s.bufferedDirect = none
  refuses : (s.nextUrl ≠ [] ∧ isSafeChunkPath s.nextUrl = false) ∨
    (s.nextUrl = [] ∧ s.hasExpectedRows = true ∧ s.rows ≠ s.expectedRows)

/-- A session that never delivers a chunk or the end of the data again. -/
def Stuck (s : Session) : Prop := s.reconciled = false ∧ (s.terminal = true ∨ Dead s)

theorem stuck_cancel {c : Client} (h : Stuck c.session) : Stuck (cancel env c).session := by
  unfold cancel
  split
  · exact h
  · exact ⟨h.1, .inl rfl⟩

/-- The failures that are final in a session with an id. -/
theorem stuck_of_known {c : Client} (hsafe : isSafeQueryId c.session.queryId = true)
    (hopen : c.session.reconciled = false) : Stuck (cancel env c).session :=
  ⟨(cancel_reconciled c).trans hopen, .inl (cancel_terminal hsafe hopen)⟩

theorem wp_finished_of_not {α : Type} {c : Client} (h : ¬ Reconciles c.session)
    {Q : Option α → Client → Prop} {C : Client → Prop} :
    wp (QueryCursor.finished : Query (Option α)) Q (fun _ c' => c' = c) C c :=
  wp_finished_of (fun hreconciles => (h hreconciles).elim) fun _ _ => rfl

/-- What a dead session does with `NextChunk`: it throws and stays. -/
theorem wp_nextChunkBody_dead {c : Client} (h : Dead c.session) :
    wp (QueryCursor.nextChunkBody env) (fun _ _ => False) (fun _ c' => c' = c) (fun _ => False)
      c := by
  rw [QueryCursor.nextChunkBody, wp_bind, wp_look, wp_ite]
  refine ⟨fun hmode => absurd (h.mode.symm.trans hmode) (by decide), fun _ => ?_⟩
  rw [QueryCursor.nextDirect, wp_bind, wp_look]
  simp only [id_eq, h.buffer]
  rw [wp_ite]
  rcases h.refuses with ⟨hnext, hrefused⟩ | ⟨hnext, hhas, hrows⟩
  · refine ⟨fun hempty => (hnext hempty).elim, fun _ => ?_⟩
    rw [wp_bind, QueryCursor.fetchDirect, wp_bind, wp_look, wp_bind, wp_raiseIf]
    exact ⟨fun _ => rfl, fun hsafe => (hsafe (.inl (by simp [hrefused]))).elim⟩
  · exact ⟨fun _ => wp_finished_of_not fun hreconciles => hrows (hreconciles.rows hhas),
      fun hne => (hne hnext).elim⟩

theorem wp_nextChunk_stuck {c : Client} (h : Stuck c.session) :
    wp (QueryCursor.nextChunk env) (fun _ _ => False) (fun _ c' => Stuck c'.session)
      (fun _ => False) c := by
  rw [QueryCursor.nextChunk, wp_bind, wp_look, wp_bind, wp_raiseIf]
  refine ⟨fun _ => h, fun _ => ?_⟩
  rw [wp_ite]
  refine ⟨fun hreconciled => ?_, fun _ => ?_⟩
  · rw [id_eq, h.1] at hreconciled
    cases hreconciled
  · rw [wp_bind, wp_raiseIf]
    refine ⟨fun _ => h, fun hactive => ?_⟩
    have hdead : Dead c.session := h.2.resolve_left hactive
    rw [wp_onRaise]
    refine wp_mono (wp_nextChunkBody_dead hdead) (fun _ _ h' => h') (fun _ c' h' => ?_)
      fun _ h' => h'
    rw [h']
    exact stuck_cancel h

theorem wp_nextArrowChunk_stuck {c : Client} (h : Stuck c.session) :
    wp (QueryCursor.nextArrowChunk env) (fun _ _ => False) (fun _ c' => Stuck c'.session)
      (fun _ => False) c := by
  rw [QueryCursor.nextArrowChunk, wp_bind, wp_look, wp_bind, wp_raiseIf]
  refine ⟨fun _ => h, fun hmode => ?_⟩
  rw [wp_bind, wp_raiseIf]
  refine ⟨fun _ => h, fun _ => ?_⟩
  rw [wp_ite]
  refine ⟨fun hreconciled => ?_, fun _ => ?_⟩
  · rw [id_eq, h.1] at hreconciled
    cases hreconciled
  · rw [wp_bind, wp_raiseIf]
    refine ⟨fun _ => h, fun hactive => ?_⟩
    have hdead : Dead c.session := h.2.resolve_left hactive
    exact absurd (hdead.mode.symm.trans (Decidable.not_not.mp hmode)) (by decide)

theorem wp_reportArrowChunk_stuck {c : Client} (h : Stuck c.session) (decodedRows : UInt64) :
    wp (QueryCursor.reportArrowChunk env decodedRows) (fun _ c' => Stuck c'.session)
      (fun _ c' => Stuck c'.session) (fun _ => False) c := by
  rw [QueryCursor.reportArrowChunk, wp_bind, wp_look, wp_bind, wp_raiseIf]
  refine ⟨fun _ => h, fun houtstanding => ?_⟩
  have hterminal : c.session.terminal = true :=
    h.2.resolve_right fun hdead => houtstanding hdead.idle
  rw [wp_onRaise, QueryCursor.reportBody, wp_bind]
  have hstart : Ongoing (fun _ => True) (· = c.session) c := ⟨trivial, rfl⟩
  refine wp_mono (wp_checkActive lasting_true.idle hstart) (fun _ c' h' => ?_)
    (fun _ c' h' => ?_) fun _ h' => h'
  · have hsession := h'.1.session
    simp only [wp_bind, wp_look, wp_raiseIf, wp_modify]
    refine ⟨fun _ => ?_, fun _ => ⟨fun _ => ?_, fun _ => ⟨?_, .inl ?_⟩⟩⟩
    · exact stuck_cancel (hsession ▸ h)
    · exact stuck_cancel (hsession ▸ h)
    · show c'.session.reconciled = false
      rw [hsession]
      exact h.1
    · show c'.session.terminal = true
      rw [hsession]
      exact hterminal
  · exact stuck_cancel (h'.session ▸ h)

/-- A stuck cursor stays stuck, and a call for a chunk throws. -/
theorem stuck_step {c : Client} (h : Stuck c.session) (call : CursorCall) :
    wp (call.program env) (fun _ c' => Stuck c'.session ∧ ¬ call.IsNext)
      (fun _ c' => Stuck c'.session) (fun _ => False) c := by
  cases call with
  | nextChunk =>
      rw [CursorCall.program, wp_bind]
      exact wp_mono (wp_nextChunk_stuck h) (fun _ _ h => h.elim) (fun _ _ h => h) fun _ h => h
  | nextArrowChunk =>
      rw [CursorCall.program, wp_bind]
      exact wp_mono (wp_nextArrowChunk_stuck h) (fun _ _ h => h.elim) (fun _ _ h => h) fun _ h => h
  | reportArrowChunk decodedRows =>
      rw [CursorCall.program, wp_bind]
      exact wp_mono (wp_reportArrowChunk_stuck h decodedRows) (fun _ _ h => ⟨h, fun h => h⟩)
        (fun _ _ h => h) fun _ h => h

/-- Every later call for a chunk throws. -/
def Sticky (env : QueryEnv) (c : Client) : Prop :=
  ∀ later, ∀ event ∈ (cursorMachine env).trace c later,
    event.input.IsNext → ∃ e, event.output = .raise e

theorem sticky_of_stuck {c : Client} (h : Stuck c.session) : Sticky env c := by
  intro later
  induction later generalizing c with
  | nil => simp
  | cons call rest ih =>
      have hstep := wp_iff.mp (show wp (call.program env) _ _ _ c from stuck_step h call)
      have hafter : Stuck ((cursorMachine env).step call c).2.session :=
        wp_final.mp (wp_mono (stuck_step h call) (fun _ _ h => h.1) (fun _ _ h => h)
          fun _ h => h.elim)
      intro event hevent hnext
      rcases List.mem_cons.mp hevent with rfl | hevent
      · show ∃ e, (call.program env c).1 = .raise e
        rcases hrun : call.program env c with ⟨outcome, c'⟩
        cases outcome with
        | ret value => exact ((hstep.1 value c' hrun).2 hnext).elim
        | raise e => exact ⟨e, rfl⟩
        | cut => exact (hstep.2.2 c' hrun).elim
      · exact ih hafter event hevent hnext

/-! ## Failures that are not final -/

/-- The next chunk is the buffered first response of a direct query without an
id, and no row count stands in the way of a clean end. -/
structure Unguarded (s : Session) : Prop where
  mode : s.mode = .directLegacy
  id : s.queryId = []
  buffered : s.bufferedDirect.isSome = true
  rows : s.hasExpectedRows = true → s.expectedRows = 0

/-- A session that has lost its first response and ends cleanly at once. -/
structure Drained (s : Session) : Prop where
  mode : s.mode = .directLegacy
  idle : s.arrowResponseOutstanding = false
  active : s.terminal = false
  open' : s.reconciled = false
  buffer : s.bufferedDirect = none
  nextUrl : s.nextUrl = []
  rows : s.hasExpectedRows = true → s.rows = s.expectedRows

/-- A response that names no query can only change the number of cells when it
is not delivered. -/
theorem wp_deliver_anonymous {response : QueryResponse} (h : Anonymous response) (c : Client) :
    wp (QueryCursor.deliver env response) (fun _ _ => True)
      (fun _ c' => ∃ cells, c'.session = { c.session with cells }) (fun _ => True) c := by
  have hsame : ∀ {id}, Learns c.session.queryId response id →
      c.onSession (fun s => { s with queryId := id }) = c := by
    intro id hlearns
    rw [hlearns.anonymous h.id h.path]
    rfl
  rw [QueryCursor.deliver, wp_bind]
  refine wp_mono (wp_rememberQueryId response c) (fun _ c₁ h₁ => ?_) (fun _ c₁ h₁ => ?_)
    fun _ _ => trivial
  · obtain ⟨id, rfl, hlearned⟩ := h₁
    rw [hsame hlearned.toLearns, wp_bind]
    have hstart : Ongoing (fun _ => True) (· = c.session) c := ⟨trivial, rfl⟩
    refine wp_mono (keeps_checkActive lasting_true.idle c hstart) (fun _ c₂ h₂ => ?_)
      (fun _ c₂ h₂ => ⟨c.session.cells, h₂.session⟩) fun _ _ => trivial
    rw [wp_bind]
    refine wp_mono (wp_accept response c₂) (fun _ _ _ => trivial) (fun _ c₃ h₃ => ?_)
      fun _ _ => trivial
    obtain ⟨cells, rfl⟩ := h₃
    exact ⟨cells, by rw [onSession_session, h₂.session]⟩
  · obtain ⟨id, rfl, hlearns⟩ := h₁
    rw [hsame hlearns]
    exact ⟨c.session.cells, rfl⟩

/-- What a failed delivery of the first response of a query without an id
leaves behind. -/
theorem wp_nextChunkBody_buffered {c : Client} (h : c.Working setting) {response : QueryResponse}
    (hmode : c.session.mode = .directLegacy) (hid : c.session.queryId = [])
    (hbuffer : c.session.bufferedDirect = some response) :
    wp (QueryCursor.nextChunkBody env) (fun _ _ => True)
      (fun _ c' => ∃ cells, c'.session = { c.session with bufferedDirect := none, cells })
      (fun _ => True) c := by
  rw [QueryCursor.nextChunkBody, wp_bind, wp_look, wp_ite]
  refine ⟨fun hnumbered => absurd (hmode.symm.trans hnumbered) (by decide), fun _ => ?_⟩
  rw [QueryCursor.nextDirect, wp_bind, wp_look]
  simp only [id_eq, hbuffer]
  rw [wp_bind, wp_modify]
  exact wp_deliver_anonymous ((h.session.buffered response hbuffer).2.2 hid) _

/-- `NextChunk` has come to the end, and `Finish` finds nothing missing. -/
theorem wp_nextChunkBody_end {c : Client} (hmode : c.session.mode = .directLegacy)
    (hbuffer : c.session.bufferedDirect = none) (hnext : c.session.nextUrl = [])
    (hrows : c.session.hasExpectedRows = true → c.session.rows = c.session.expectedRows) :
    wp (QueryCursor.nextChunkBody env) (fun next _ => next = none) (fun _ _ => False)
      (fun _ => False) c := by
  have hreconciles : Reconciles c.session :=
    ⟨fun hnumbered => absurd (hmode.symm.trans hnumbered) (by decide), hrows, fun _ => hnext⟩
  rw [QueryCursor.nextChunkBody, wp_bind, wp_look, wp_ite]
  refine ⟨fun hnumbered => absurd (hmode.symm.trans hnumbered) (by decide), fun _ => ?_⟩
  rw [QueryCursor.nextDirect, wp_bind, wp_look]
  simp only [id_eq, hbuffer]
  rw [wp_ite]
  refine ⟨fun _ => ?_, fun hne => (hne hnext).elim⟩
  exact wp_finished_of (fun _ => rfl) fun _ hbroken => hbroken hreconciles

/-- Every other failure of `NextChunk` leaves a stuck session. -/
theorem wp_nextChunkBody_failed {c : Client} (h : c.Working setting)
    (hguarded : ¬ Unguarded c.session) :
    wp (QueryCursor.nextChunkBody env) (fun _ _ => True)
      (fun _ c' => Stuck (cancel env c').session) (fun _ => True) c := by
  have hs := h.session
  by_cases hid : c.session.queryId = []
  · have hmode : c.session.mode = .directLegacy := by
      cases hmode : c.session.mode with
      | numberedV3 => exact ((hs.numbered hmode).1 hid).elim
      | directLegacy => rfl
    cases hbuffer : c.session.bufferedDirect with
    | some response =>
        -- the row count that was advertised stands in the way of a clean end
        obtain ⟨hnext, hzero, -⟩ := hs.buffered response hbuffer
        have hcount :
            c.session.hasExpectedRows = true ∧ c.session.rows ≠ c.session.expectedRows := by
          by_contra hno
          refine hguarded ⟨hmode, hid, by rw [hbuffer]; rfl, fun hhas => ?_⟩
          by_contra hrows
          exact hno ⟨hhas, fun heq => hrows (heq.symm.trans hzero)⟩
        refine wp_mono (wp_nextChunkBody_buffered h hmode hid hbuffer) (fun _ _ _ => trivial)
          (fun _ c' h' => stuck_cancel ?_) fun _ _ => trivial
        obtain ⟨cells, hsession⟩ := h'
        rw [hsession]
        exact ⟨hs.open', .inr ⟨hmode, hid, hs.idle, rfl, .inr ⟨hnext, hcount⟩⟩⟩
    | none =>
        by_cases hdead : Dead c.session
        · refine wp_mono (wp_nextChunkBody_dead hdead) (fun _ _ _ => trivial)
            (fun _ c' h' => stuck_cancel ?_) fun _ _ => trivial
          rw [h']
          exact ⟨hs.open', .inr hdead⟩
        · have hnext : c.session.nextUrl = [] := by
            by_contra hne
            refine hdead ⟨hmode, hid, hs.idle, hbuffer, .inl ⟨hne, ?_⟩⟩
            by_contra hsafe
            exact hs.chain (by simpa using hsafe) hid
          have hrows : c.session.hasExpectedRows = true →
              c.session.rows = c.session.expectedRows := by
            intro hhas
            by_contra hne
            exact hdead ⟨hmode, hid, hs.idle, hbuffer, .inr ⟨hnext, hhas, hne⟩⟩
          exact wp_mono (wp_nextChunkBody_end hmode hbuffer hnext hrows) (fun _ _ _ => trivial)
            (fun _ _ h' => h'.elim) fun _ _ => trivial
  · refine wp_mono (wp_and (wp_nextChunkBody h) (keeps_nextChunkBody_id hid c ⟨trivial, rfl⟩))
      (fun _ _ _ => trivial) (fun _ c' h' => ?_) fun _ _ => trivial
    have hknown : c'.session.queryId ≠ [] := by
      rw [show c'.session.queryId = c.session.queryId from h'.2.session]
      exact hid
    exact stuck_of_known (h'.1.session.safe hknown) h'.1.session.open'

/-- A failure in an unguarded session loses the first response. -/
theorem wp_nextChunkBody_unguarded {c : Client} (h : c.Working setting)
    (hunguarded : Unguarded c.session) :
    wp (QueryCursor.nextChunkBody env) (fun _ _ => True)
      (fun _ c' => Drained (cancel env c').session) (fun _ => True) c := by
  obtain ⟨response, hbuffer⟩ := Option.isSome_iff_exists.mp hunguarded.buffered
  refine wp_mono (wp_nextChunkBody_buffered h hunguarded.mode hunguarded.id hbuffer)
    (fun _ _ _ => trivial) (fun _ c' h' => ?_) fun _ _ => trivial
  obtain ⟨cells, hsession⟩ := h'
  obtain ⟨hnext, hzero, -⟩ := h.session.buffered response hbuffer
  have hid : c'.session.queryId = [] := by
    rw [hsession]
    exact hunguarded.id
  rw [cancel_of_empty hid, hsession]
  exact ⟨hunguarded.mode, h.session.idle, h.session.active, h.session.open', rfl, hnext,
    fun hhas => hzero.trans (hunguarded.rows hhas).symm⟩

theorem not_sticky_of_drained {c : Client} (h : Drained c.session) : ¬ Sticky env c := by
  intro hsticky
  have hend : wp (CursorCall.nextChunk.program env) (fun _ _ => True) (fun _ _ => False)
      (fun _ => False) c := by
    rw [CursorCall.program, wp_bind, QueryCursor.nextChunk, wp_bind, wp_look, wp_bind, wp_raiseIf]
    refine ⟨fun houtstanding => absurd (h.idle.symm.trans houtstanding) (by decide), fun _ => ?_⟩
    rw [wp_ite]
    refine ⟨fun hreconciled => absurd (h.open'.symm.trans hreconciled) (by decide), fun _ => ?_⟩
    rw [wp_bind, wp_raiseIf]
    refine ⟨fun hterminal => absurd (h.active.symm.trans hterminal) (by decide), fun _ => ?_⟩
    rw [wp_onRaise]
    exact wp_mono (wp_nextChunkBody_end h.mode h.buffer h.nextUrl h.rows) (fun _ _ _ => trivial)
      (fun _ _ h' => h'.elim) fun _ h' => h'.elim
  obtain ⟨e, he⟩ := hsticky [.nextChunk] _ List.mem_cons_self trivial
  exact (wp_iff.mp hend).2.1 e _ (Prod.ext he rfl)

/-! ## Every failure -/

/-- What a failure makes of the session. -/
inductive Aftermath (s s' : Session) : Prop where
  | lost (unguarded : Unguarded s) (drained : Drained s')
  | final (guarded : ¬ Unguarded s) (stuck : Stuck s')

theorem not_unguarded_of_numbered {s : Session} (hmode : s.mode = .numberedV3) :
    ¬ Unguarded s := fun h => absurd (h.mode.symm.trans hmode) (by decide)

theorem wp_nextChunk_failed {c : Client} (h : c.Sound setting) :
    wp (QueryCursor.nextChunk env) (fun _ _ => True)
      (fun e c' => e.Misuse ∨ Aftermath c.session c'.session) (fun _ => True) c := by
  rw [QueryCursor.nextChunk, wp_bind, wp_look, wp_bind, wp_raiseIf]
  refine ⟨fun _ => .inl ⟨_, rfl⟩, fun hidle => ?_⟩
  rw [wp_ite]
  refine ⟨fun _ => trivial, fun hopen => ?_⟩
  rw [wp_bind, wp_raiseIf]
  refine ⟨fun _ => .inl ⟨_, rfl⟩, fun hactive => ?_⟩
  have hworking := h.working (by simpa using hactive) (by simpa using hopen) (by simpa using hidle)
  rw [wp_onRaise]
  by_cases hunguarded : Unguarded c.session
  · exact wp_mono (wp_nextChunkBody_unguarded hworking hunguarded) (fun _ _ h => h)
      (fun _ _ h => .inr (.lost hunguarded h)) fun _ h => h
  · exact wp_mono (wp_nextChunkBody_failed hworking hunguarded) (fun _ _ h => h)
      (fun _ _ h => .inr (.final hunguarded h)) fun _ h => h

/-- `NextArrowChunk` fails on a session that still has its id, and is not reconciled. -/
theorem wp_nextArrowBody_known {c : Client} (h : c.Numbered setting) :
    wp (QueryCursor.nextArrowBody env) (fun _ _ => True)
      (fun _ c' => isSafeQueryId c'.session.queryId = true ∧ c'.session.reconciled = false)
      (fun _ => True) c := by
  have hid := ((Client.Numbered.working h).session.toSound.numbered h.session.2).1
  refine wp_mono (wp_and (wp_nextArrowBody h) (keeps_nextArrowBody_id _ c ⟨trivial, rfl⟩))
    (fun _ _ _ => trivial) (fun _ c' h' => ?_) fun _ _ => trivial
  have hknown : c'.session.queryId ≠ [] := by
    rw [show c'.session.queryId = c.session.queryId from h'.2.session]
    exact hid
  exact ⟨h'.1.session.safe hknown, h'.1.session.open'⟩

theorem wp_nextArrowChunk_failed {c : Client} (h : c.Sound setting) :
    wp (QueryCursor.nextArrowChunk env) (fun _ _ => True)
      (fun e c' => e.Misuse ∨ Aftermath c.session c'.session) (fun _ => True) c := by
  rw [QueryCursor.nextArrowChunk, wp_bind, wp_look, wp_bind, wp_raiseIf]
  refine ⟨fun _ => .inl ⟨_, rfl⟩, fun hother => ?_⟩
  rw [wp_bind, wp_raiseIf]
  refine ⟨fun _ => .inl ⟨_, rfl⟩, fun hidle => ?_⟩
  rw [wp_ite]
  refine ⟨fun _ => trivial, fun hopen => ?_⟩
  rw [wp_bind, wp_raiseIf]
  refine ⟨fun _ => .inl ⟨_, rfl⟩, fun hactive => ?_⟩
  have hworking := h.working (by simpa using hactive) (by simpa using hopen) (by simpa using hidle)
  have hmode : c.session.mode = .numberedV3 := Decidable.not_not.mp hother
  rw [wp_onRaise]
  refine wp_mono (wp_nextArrowBody_known ⟨hworking.log, hworking.session, hmode⟩)
    (fun _ _ _ => trivial) (fun _ c' h' => ?_) fun _ _ => trivial
  exact .inr (.final (not_unguarded_of_numbered hmode) (stuck_of_known h'.1 h'.2))

theorem wp_reportArrowChunk_failed {c : Client} (h : c.Sound setting) (decodedRows : UInt64) :
    wp (QueryCursor.reportArrowChunk env decodedRows) (fun _ _ => True)
      (fun e c' => e.Misuse ∨ Aftermath c.session c'.session) (fun _ => True) c := by
  rw [QueryCursor.reportArrowChunk, wp_bind, wp_look, wp_bind, wp_raiseIf]
  refine ⟨fun _ => .inl ⟨_, rfl⟩, fun houtstanding => ?_⟩
  obtain ⟨hmode, hopen⟩ := h.session.arrow (by simpa using houtstanding)
  have hsafe := h.session.safe (h.session.numbered hmode).1
  have hfinal : ∀ c' : Client, c'.session = c.session →
      Aftermath c.session (cancel env c').session := by
    intro c' hsession
    refine .final (not_unguarded_of_numbered hmode) (stuck_of_known ?_ ?_)
    · rw [hsession]
      exact hsafe
    · rw [hsession]
      exact hopen
  rw [wp_onRaise, QueryCursor.reportBody, wp_bind]
  have hstart : Ongoing (fun _ => True) (· = c.session) c := ⟨trivial, rfl⟩
  refine wp_mono (keeps_checkActive lasting_true.idle c hstart) (fun _ c' h' => ?_)
    (fun _ c' h' => .inr (hfinal c' h'.session)) fun _ _ => trivial
  simp only [wp_bind, wp_look, wp_raiseIf, wp_modify]
  exact ⟨fun _ => .inr (hfinal c' h'.session), fun _ =>
    ⟨fun _ => .inr (hfinal c' h'.session), fun _ => trivial⟩⟩

/-- A call on a sound client that throws misused the cursor, lost the first
response, or failed for good. -/
theorem wp_cursorCall_failed {c : Client} (h : c.Sound setting) (call : CursorCall) :
    wp (call.program env) (fun _ _ => True)
      (fun e c' => e.Misuse ∨ Aftermath c.session c'.session) (fun _ => True) c := by
  cases call with
  | nextChunk =>
      rw [CursorCall.program, wp_bind]
      exact wp_mono (wp_nextChunk_failed h) (fun _ _ h => h) (fun _ _ h => h) fun _ h => h
  | nextArrowChunk =>
      rw [CursorCall.program, wp_bind]
      exact wp_mono (wp_nextArrowChunk_failed h) (fun _ _ h => h) (fun _ _ h => h) fun _ h => h
  | reportArrowChunk decodedRows =>
      rw [CursorCall.program, wp_bind]
      exact wp_mono (wp_reportArrowChunk_failed h decodedRows) (fun _ _ h => h) (fun _ _ h => h)
        fun _ h => h

/-- What a cursor finds after any calls is sound. -/
theorem cursor_sound {fuel : Nat} {sql : Bytes} {credentials : QueryCredentials}
    {metadataOnly : Bool} {options : QueryOptions} {c₀ : Client}
    (hprepared : QueryApiV3Client.prepareInternal env fuel sql credentials metadataOnly options {}
      = (.ret (), c₀)) (calls : List CursorCall) :
    ∃ setting : Setting, ((cursorMachine env).run c₀ calls).Sound setting := by
  obtain ⟨setting, -, hprepared⟩ :=
    (wp_iff.mp (wp_prepareInternal fuel sql credentials metadataOnly options)).1 _ _ hprepared
  refine ⟨setting, (cursorMachine env).run_keeps (I := Client.Sound setting) (fun c call hc => ?_)
    hprepared.working.sound calls⟩
  exact wp_final.mp (keeps_cursorCall call c hc)

/-- In every run of a cursor, a call that fails by no misuse is final exactly
when it does not lose the first response of an unguarded session. -/
theorem failure_sticky_iff {fuel : Nat} {sql : Bytes} {credentials : QueryCredentials}
    {metadataOnly : Bool} {options : QueryOptions} {c₀ c c' : Client} {calls : List CursorCall}
    {call : CursorCall} {e : QueryError}
    (hprepared : QueryApiV3Client.prepareInternal env fuel sql credentials metadataOnly options {}
      = (.ret (), c₀))
    (hrun : (cursorMachine env).run c₀ calls = c)
    (hfailed : call.program env c = (.raise e, c')) (hmisuse : ¬ e.Misuse) :
    Sticky env c' ↔ ¬ Unguarded c.session := by
  obtain ⟨setting, hsound⟩ := cursor_sound hprepared calls
  rw [hrun] at hsound
  have hafter : Aftermath c.session c'.session :=
    ((wp_iff.mp (wp_cursorCall_failed hsound call)).2.1 e c' hfailed).resolve_left hmisuse
  constructor
  · intro hsticky hunguarded
    cases hafter with
    | lost _ drained => exact not_sticky_of_drained drained hsticky
    | final guarded _ => exact guarded hunguarded
  · intro hguarded
    cases hafter with
    | lost unguarded _ => exact (hguarded unguarded).elim
    | final _ stuck => exact sticky_of_stuck stuck

/-! ## A query that times out -/

theorem program_nextChunk_raise {c c' : Client} {e : QueryError}
    (h : QueryCursor.nextChunk env c = (.raise e, c')) :
    CursorCall.nextChunk.program env c = (.raise e, c') := by
  show Prog.bind (QueryCursor.nextChunk env) _ c = _
  rw [Prog.bind, h]

/-- Surroundings that complete a query with one direct response, and whose
clock passes the deadline right after it. -/
def timeoutEnv (queryId : Bytes) : QueryEnv :=
  scriptedEnv (fun n => if n < 4 then 0 else 1000000) (fun _ => some { status := 200 }) fun _ =>
    .response
      { state := .complete
        queryId
        metadata := [⟨ascii "id", ascii "bigint", false, false, false, 0, 0⟩]
        chunk := { rows := [[some (ascii "1")]] } }

/-- A query that is prepared in them. -/
def timeoutPrepared (queryId : Bytes) : Outcome QueryError Unit × Client :=
  QueryApiV3Client.prepareInternal (timeoutEnv queryId) 1 (ascii "SELECT 1") sampleCredentials
    false {} {}

/-- Its first `NextChunk`. -/
def timeoutChunk (queryId : Bytes) : Outcome QueryError (Option ResultChunk) × Client :=
  QueryCursor.nextChunk (timeoutEnv queryId) (timeoutPrepared queryId).2

/-- With an id, the timeout is final. -/
theorem failure_sticky_timeout :
    Sticky (timeoutEnv (ascii "q-1")) (timeoutChunk (ascii "q-1")).2 := by
  have hprepared : timeoutPrepared (ascii "q-1") = (.ret (), (timeoutPrepared (ascii "q-1")).2) :=
    run_eq_of_fst (by decide +kernel)
  have hfailed : timeoutChunk (ascii "q-1") =
      (.raise (.runtimeError "Data 360 query timed out"), (timeoutChunk (ascii "q-1")).2) :=
    run_eq_of_fst (by decide +kernel)
  have hid : (timeoutPrepared (ascii "q-1")).2.session.queryId ≠ [] := by decide +kernel
  have hrun : (cursorMachine (timeoutEnv (ascii "q-1"))).run (timeoutPrepared (ascii "q-1")).2 []
      = (timeoutPrepared (ascii "q-1")).2 := rfl
  refine (failure_sticky_iff hprepared hrun (program_nextChunk_raise hfailed) ?_).mpr
    fun h => hid h.id
  intro h
  obtain ⟨message, hmessage⟩ := h
  cases hmessage

/-- Without an id, the next `NextChunk` reports the end of the data, although
the only chunk was never delivered. -/
theorem failure_forgotten :
    QueryOptions.Valid {} ∧
      (timeoutPrepared []).1 = .ret () ∧
      (timeoutChunk []).1 = .raise (.runtimeError "Data 360 query timed out") ∧
      (QueryCursor.nextChunk (timeoutEnv []) (timeoutChunk []).2).1 = .ret none ∧
      ¬ Sticky (timeoutEnv []) (timeoutChunk []).2 := by
  have hend : (QueryCursor.nextChunk (timeoutEnv []) (timeoutChunk []).2).1 = .ret none := by
    decide +kernel
  refine ⟨by decide, by decide +kernel, by decide +kernel, hend, fun hsticky => ?_⟩
  obtain ⟨e, he⟩ := hsticky [.nextChunk] _ List.mem_cons_self trivial
  have hreturns : (CursorCall.nextChunk.program (timeoutEnv []) (timeoutChunk []).2).1
      = .ret (.chunk none) := by
    show (Prog.bind (QueryCursor.nextChunk (timeoutEnv [])) _ (timeoutChunk []).2).1 = _
    rw [Prog.bind, show QueryCursor.nextChunk (timeoutEnv []) (timeoutChunk []).2
      = (.ret none, _) from run_eq_of_fst hend]
    rfl
  cases hreturns.symm.trans he

end Data360
