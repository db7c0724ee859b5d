import Data360.QueryApi.Delivery

/-!
# Rules for whole calls

The programs of the client are built from a few blocks: an exchange, a poll, the
metadata, the delivery of a chunk.  A property that every block keeps, each
under the guards that stand before it in the source, is kept by every call.

* `total_nextChunk` and its neighbours: only the loops can be cut off.
* `PrepareRules`, `ChunkRules` and `CursorRules` ask for the blocks.
* `PrepareRules.wp_prepareInternal` and `CursorRules.cursorCall` give the calls,
  `queryRun_of_rules` the runs, and `unfailedRun_of_rules` the runs in which no
  call has failed.
-/

namespace Data360

open Lib Lib.ByteString Lib.Prog Session

variable {env : QueryEnv} {I J : Client → Prop} {E : QueryError → Client → Prop}

/-! ## Programs that finish -/

theorem total_raiseIf (condition : Prop) [Decidable condition] (e : QueryError) :
    Total (raiseIf condition e : Query Unit) :=
  fun _ => (wp_raiseIf condition e).mpr ⟨fun _ => trivial, fun _ => trivial⟩

theorem total_look {α : Type} (f : Session → α) : Total (look f) := total_read _

theorem total_modify (f : Session → Session) : Total (modify f) := total_update _

theorem total_checkCancelled : Total (checkCancelled env) :=
  total_bind (fun _ => wp_isCancelled (fun _ _ => trivial) trivial) fun _ => total_raiseIf _ _

theorem total_nowMs : Total (nowMs env) := fun _ => wp_nowMs (fun _ _ => trivial) trivial

theorem total_checkActive : Total (checkActive env) :=
  total_bind total_checkCancelled fun _ => total_bind total_nowMs fun _ =>
    total_bind (total_look _) fun _ => total_raiseIf _ _

theorem total_send : Total (send env) :=
  total_bind total_checkActive fun _ => total_bind total_nowMs fun _ =>
  total_bind (total_look _) fun _ => total_bind (total_modify _) fun _ =>
  total_bind (total_look _) fun _ => total_bind
    (total_catchAll (fun _ => wp_transportSend (fun _ _ => trivial) trivial) fun _ =>
      total_bind total_checkActive fun _ => total_raise _) fun _ =>
  total_bind (total_raiseIf _ _) fun _ => total_bind (total_modify _) fun _ => total_pure _

theorem total_codecDecode (response : HttpResponse) : Total (codecDecode env response) :=
  fun _ => wp_codecDecode (fun _ _ => trivial) trivial trivial

theorem total_decode (response : HttpResponse) : Total (decode env response) := by
  refine total_catchAll (total_codecDecode response) fun e => ?_
  unfold decodeFailed
  split
  · exact total_raise _
  · exact total_bind total_checkCancelled fun _ => total_raise _

theorem total_rememberQueryId (response : QueryResponse) : Total (rememberQueryId response) :=
  fun c => wp_mono (wp_rememberQueryId response c) (fun _ _ _ => trivial) (fun _ _ _ => trivial)
    fun _ h => h

theorem total_accept (response : QueryResponse) : Total (accept response) :=
  fun c => wp_mono (wp_accept response c) (fun _ _ _ => trivial) (fun _ _ _ => trivial)
    fun _ h => h

theorem total_exchange : Total (QueryApiV3Client.exchange env) :=
  total_bind total_send fun response => total_bind (total_decode response) fun decoded =>
  total_bind (total_rememberQueryId decoded) fun _ => total_bind total_checkActive fun _ =>
    total_pure _

theorem total_openCompleted (decoded : QueryResponse) :
    Total (QueryApiV3Client.openCompleted env decoded) := by
  refine total_bind (total_raiseIf _ _) fun _ => total_ite _ ?_ (total_modify _)
  refine total_bind (total_look _) fun _ => total_bind (total_raiseIf _ _) fun _ =>
    total_bind (total_modify _) fun _ => total_bind (total_raiseIf _ _) fun _ =>
    total_bind (total_raiseIf _ _) fun _ => total_bind (total_modify _) fun _ =>
    total_bind total_send fun response => total_bind (total_decode response) fun _ =>
    total_bind (total_raiseIf _ _) fun _ => total_bind (total_modify _) fun _ =>
    total_raiseIf _ _

theorem total_finished {α : Type} : Total (QueryCursor.finished : Query (Option α)) :=
  total_bind (fun c => wp_mono (wp_finish c) (fun _ _ _ => trivial) (fun _ _ _ => trivial)
    fun _ h => h) fun _ => total_pure _

theorem total_deliver (response : QueryResponse) : Total (QueryCursor.deliver env response) :=
  total_bind (total_rememberQueryId response) fun _ => total_bind total_checkActive fun _ =>
    total_bind (total_accept response) fun _ => total_bind (total_modify _) fun _ => total_pure _

theorem total_nextChunk : Total (QueryCursor.nextChunk env) := by
  refine total_bind (total_look _) fun _ => total_bind (total_raiseIf _ _) fun _ =>
    total_ite _ (total_pure _) (total_bind (total_raiseIf _ _) fun _ =>
    total_onRaise (total_bind (total_look _) fun _ => ?_) (total_update _))
  apply total_ite
  · refine total_bind (total_look _) fun _ => total_ite _ total_finished ?_
    exact total_bind (total_bind (total_modify _) fun _ =>
      total_bind total_send fun response => total_decode response) fun response =>
      total_deliver response
  · refine total_bind (total_look _) fun s => ?_
    cases s.bufferedDirect with
    | some response => exact total_bind (total_modify _) fun _ => total_deliver response
    | none =>
        refine total_ite _ total_finished (total_bind (total_bind (total_look _) fun _ => ?_)
          fun response => total_deliver response)
        exact total_bind (total_raiseIf _ _) fun _ => total_bind (total_modify _) fun _ =>
          total_bind total_send fun response => total_decode response

/-- The handler of a chunk that could not be fetched throws. -/
theorem wp_arrowFailed_throws (response : HttpResponse) (c : Client) :
    wp (QueryCursor.arrowFailed env response) (fun _ _ => False) (fun _ _ => True)
      (fun _ => False) c := by
  rw [QueryCursor.arrowFailed, wp_bind]
  refine total_catchAll (total_codecDecode response) (fun e => ?_) c
  cases e with
  | reauthRequired => exact total_raise _
  | logicError | invalidArgument | runtimeError | hook => exact total_pure _

theorem total_arrowFailed (response : HttpResponse) :
    Total (QueryCursor.arrowFailed env response) := fun c =>
  wp_mono (wp_arrowFailed_throws response c) (fun _ _ _ => trivial) (fun _ _ h => h) fun _ h => h

theorem total_nextArrowChunk : Total (QueryCursor.nextArrowChunk env) := by
  refine total_bind (total_look _) fun _ => total_bind (total_raiseIf _ _) fun _ =>
    total_bind (total_raiseIf _ _) fun _ => total_ite _ (total_pure _)
    (total_bind (total_raiseIf _ _) fun _ => total_onRaise
      (total_bind total_checkActive fun _ => total_bind (total_look _) fun _ =>
        total_ite _ total_finished ?_) (total_update _))
  refine total_bind (total_modify _) fun _ => total_bind total_send fun response =>
    total_ite _ (total_bind (total_arrowFailed response) fun _ => total_pure _) ?_
  exact total_bind total_checkActive fun _ => total_bind (total_modify _) fun _ => total_pure _

theorem total_reportArrowChunk (decodedRows : UInt64) :
    Total (QueryCursor.reportArrowChunk env decodedRows) := by
  refine total_bind (total_look _) fun _ => total_bind (total_raiseIf _ _) fun _ =>
    total_onRaise (total_bind total_checkActive fun _ => ?_) (total_update _)
  exact total_bind (total_look _) fun _ => total_bind (total_raiseIf _ _) fun _ =>
    total_bind (total_raiseIf _ _) fun _ => total_modify _

/-- Every call on a cursor ends. -/
theorem total_cursorCall (call : CursorCall) : Total (call.program env) := by
  cases call with
  | nextChunk => exact total_bind total_nextChunk fun _ => total_pure _
  | nextArrowChunk => exact total_bind total_nextArrowChunk fun _ => total_pure _
  | reportArrowChunk decodedRows =>
      exact total_bind (total_reportArrowChunk decodedRows) fun _ => total_pure _

/-! ## Preparing -/

variable (env I J E) in
/-- What the end of `PrepareInternal` does to a property: from `I`, the session
is handed out in `J`. -/
structure OpenRules : Prop where
  fails : ∀ e c, I c → E e c
  numbered : ∀ decoded c, I c → isSafeQueryId c.session.queryId = true →
    decoded.chunkCount ≤ c.session.options.maxChunks →
    wp (QueryApiV3Client.fetchMetadata env) (fun _ => J) E I
      (c.onSession (QueryApiV3Client.numberedSession decoded))
  refuses : ∀ decoded e c, I c → E e (c.onSession (QueryApiV3Client.numberedSession decoded))
  direct : ∀ decoded c, I c → J (c.onSession (QueryApiV3Client.directSession decoded))
  columns : ∀ e c, J c → c.session.options.maxColumns.toNat < c.session.metadata.length → E e c

variable (env I J E) in
/-- What the blocks of `PrepareInternal` do to a property. -/
structure PrepareRules : Prop extends OpenRules env I J E where
  exchange : Leads I E (QueryApiV3Client.exchange env)
  sleeps : ∀ milliseconds, Leads I E (sleepMs env milliseconds)
  checks : Leads I E (checkActive env)
  polls : ∀ c, I c → I (c.onSession fun s => { s with request := s.getRequest s.queryUrl })

/-- What `PrepareInternal` hands out. -/
def Opens (J : Client → Prop) (c : Client) : Prop :=
  J c ∧ c.session.metadata.length ≤ c.session.options.maxColumns.toNat

namespace OpenRules

variable (rules : OpenRules env I J E)

include rules

theorem openNumbered (decoded : QueryResponse) {c : Client} (hc : I c) :
    wp (QueryApiV3Client.openNumbered env decoded) (fun _ => J) E I c := by
  rw [QueryApiV3Client.openNumbered, wp_bind, wp_look, wp_bind, wp_raiseIf]
  refine ⟨fun _ => rules.fails _ c hc, fun hsafe => ?_⟩
  simp only [id_eq, Bool.not_eq_true, Bool.not_eq_false] at hsafe
  rw [wp_bind, wp_modify, wp_bind, wp_raiseIf]
  refine ⟨fun _ => rules.refuses _ _ c hc, fun hfew => ?_⟩
  rw [wp_bind, wp_raiseIf]
  refine ⟨fun _ => rules.refuses _ _ c hc, fun _ => ?_⟩
  exact rules.numbered decoded c hc hsafe (UInt64.not_lt.mp hfew)

theorem openCompleted (decoded : QueryResponse) {c : Client} (hc : I c) :
    wp (QueryApiV3Client.openCompleted env decoded) (fun _ => J) E I c := by
  rw [QueryApiV3Client.openCompleted, wp_bind, wp_raiseIf]
  refine ⟨fun _ => rules.fails _ c hc, fun _ => ?_⟩
  rw [wp_ite]
  refine ⟨fun _ => rules.openNumbered decoded hc, fun _ => ?_⟩
  rw [wp_modify]
  exact rules.direct decoded c hc

/-- The body, from what the polling leaves. -/
theorem wp_prepareBody {C : Client → Prop} {fuel : Nat} {c : Client}
    (h : wp (do
      let submitted ← QueryApiV3Client.exchange env
      QueryApiV3Client.poll env fuel submitted) (fun _ => I) E C c) :
    wp (QueryApiV3Client.prepareBody env fuel) (fun _ => Opens J) E C c := by
  rw [wp_bind] at h
  rw [QueryApiV3Client.prepareBody, wp_bind]
  refine wp_mono h (fun submitted c₁ h₁ => ?_) (fun _ _ h => h) fun _ h => h
  rw [wp_bind]
  refine wp_mono h₁ (fun decoded c₂ h₂ => ?_) (fun _ _ h => h) fun _ h => h
  rw [wp_bind]
  refine wp_mono (wp_and (rules.openCompleted decoded h₂) (total_openCompleted decoded c₂))
    (fun _ c₃ h₃ => ?_) (fun _ _ h => h.1) fun _ h => h.2.elim
  rw [wp_bind, wp_look, wp_raiseIf]
  exact ⟨fun hmany => rules.columns _ c₃ h₃.1 hmany, fun hfew => ⟨h₃.1, Nat.not_lt.mp hfew⟩⟩

end OpenRules

/-- `PrepareInternal`, from the first reading of the clock on.  What it throws before
it has sent something does not ask to log in again. -/
theorem wp_prepareInternal_of_body {Q : Unit → Client → Prop} {C : Client → Prop} {sql : Bytes}
    {credentials : QueryCredentials} {options : QueryOptions} {metadataOnly : Bool} {fuel : Nat}
    (cancels : ∀ e c, E e c → E e (cancel env c))
    (body : ∀ flag now, wp (QueryApiV3Client.prepareBody env fuel) Q E C
      { session :=
          { options, credentials
            startedAtMs := now
            request := QueryApiV3Client.submitRequest sql credentials metadataOnly options }
        log := [.isCancelled flag, .nowMs (some now)] })
    (unsent : ∀ e c, e ≠ .reauthRequired → Unsent c →
      c.session = {} ∨ c.session = { options, credentials } → E e c) :
    wp (QueryApiV3Client.prepareInternal env fuel sql credentials metadataOnly options)
      Q E C {} := by
  rw [QueryApiV3Client.prepareInternal, wp_bind, checkCancelled, wp_bind]
  refine wp_isCancelled (fun flag _ => ?_)
    (unsent _ _ (by simp) ⟨by simp [QueryEvent.Quiet], rfl⟩ (.inl rfl))
  have hunsent (e : QueryError) (he : e ≠ .reauthRequired) :
      E e (({} : Client).record (.isCancelled (some flag))) :=
    unsent e _ he ⟨by simp [QueryEvent.Quiet], rfl⟩ (.inl rfl)
  simp only [wp_bind, wp_raiseIf, wp_modify, wp_onRaise, QueryApiV3Client.prepareSession]
  refine ⟨fun _ => hunsent _ (by simp [cancelled]), fun _ => ⟨fun _ => hunsent _ (by simp), fun _ =>
    ⟨fun _ => hunsent _ (by simp), fun _ => ⟨fun _ => hunsent _ (by simp), fun _ =>
      wp_nowMs (fun now _ => ?_) ?_⟩⟩⟩⟩
  · refine wp_mono (body _ now) (fun _ _ h => h) (fun e c' h => ?_) fun _ h => h
    exact cancels e _ (cancels e c' h)
  · show E _ (cancel env _)
    rw [cancel_of_empty rfl]
    exact unsent _ _ (by simp) ⟨by simp [QueryEvent.Quiet], rfl⟩ (.inr rfl)

namespace PrepareRules

variable (rules : PrepareRules env I J E)

include rules

theorem poll (fuel : Nat) (decoded : QueryResponse) :
    Leads I E (QueryApiV3Client.poll env fuel decoded) := by
  induction fuel generalizing decoded with
  | zero => exact leads_outOfFuel
  | succ fuel ih =>
      apply leads_ite
      · exact leads_pure _
      · exact leads_bind (leads_read _) fun s =>
          leads_bind (leads_raiseIf _ _ (rules.fails _)) fun _ =>
          leads_bind (rules.sleeps _) fun _ =>
          leads_bind rules.checks fun _ =>
          leads_bind rules.polls fun _ =>
          leads_bind rules.exchange fun next => ih next

theorem wp_prepareInternal {sql : Bytes} {credentials : QueryCredentials} {options : QueryOptions}
    {metadataOnly : Bool} (fuel : Nat) (cancels : ∀ e c, E e c → E e (cancel env c))
    (start : ∀ flag now, I
      { session :=
          { options, credentials
            startedAtMs := now
            request := QueryApiV3Client.submitRequest sql credentials metadataOnly options }
        log := [.isCancelled flag, .nowMs (some now)] })
    (unsent : ∀ e c, Unsent c → c.session = {} ∨ c.session = { options, credentials } → E e c) :
    wp (QueryApiV3Client.prepareInternal env fuel sql credentials metadataOnly options)
      (fun _ => Opens J) E I {} :=
  wp_prepareInternal_of_body cancels
    (fun flag now => rules.wp_prepareBody
      ((leads_bind rules.exchange fun submitted => rules.poll fuel submitted) _ (start flag now)))
    fun e c _ => unsent e c

end PrepareRules

/-! ## Calls on a cursor -/

/-- A session that is asked for its next chunk. -/
structure Session.Ready (s : Session) : Prop where
  idle : s.arrowResponseOutstanding = false
  open' : s.reconciled = false
  active : s.terminal = false

variable (env I J E) in
/-- What the blocks of `NextChunk` do to a property: from `I`, a decoded chunk is
handed out in `J`. -/
structure ChunkRules : Prop where
  fails : ∀ e c, I c → E e c
  cancels : ∀ e c, E e c → E e (cancel env c)
  numbered : ∀ c, I c → c.session.Ready → c.session.mode = .numberedV3 →
    c.session.nextChunkIndex < c.session.expectedChunks →
    wp (do
        let response ← QueryCursor.fetchNumbered env
        QueryCursor.deliver env response) (fun _ => J) E I c
  buffered : ∀ response c, I c → c.session.Ready → c.session.mode = .directLegacy →
    c.session.bufferedDirect = some response →
    wp (QueryCursor.deliver env response) (fun _ => J) E I
      (c.onSession fun s => { s with bufferedDirect := none })
  direct : ∀ c, I c → c.session.Ready → c.session.mode = .directLegacy →
    c.session.bufferedDirect = none →
    wp (do
        let response ← QueryCursor.fetchDirect env
        QueryCursor.deliver env response) (fun _ => J) E I c
  finishes : ∀ α : Type, ∀ c, I c → c.session.Ready →
    wp (QueryCursor.finished : Query (Option α)) (fun next c' => next = none ∧ I c') E I c

variable (env I J E) in
/-- What the blocks of the cursor's calls do to a property. -/
structure CursorRules : Prop extends ChunkRules env I J E where
  arrow : ∀ c, I c → c.session.Ready → c.session.mode = .numberedV3 →
    c.session.nextChunkIndex < c.session.expectedChunks →
    wp (QueryCursor.fetchArrow env) (fun _ => I) E I c
  /-- `CheckActive` of `NextArrowChunk`. -/
  checks : Leads I E (checkActive env)
  reports : ∀ decodedRows c, I c → c.session.arrowResponseOutstanding = true →
    wp (QueryCursor.reportBody env decodedRows) (fun _ => I) E I c

/-- `CheckActive` leaves the session as it is. -/
theorem keeps_session_checkActive (s : Session) :
    Keeps (fun c : Client => c.session = s) (checkActive env) := by
  intro c hc
  have hidle : Idle fun _ => True := ⟨fun _ _ => trivial, fun _ _ => trivial⟩
  have hstart : Ongoing (fun _ => True) (· = s) c := ⟨trivial, hc⟩
  exact wp_mono (keeps_checkActive hidle c hstart) (fun _ _ h => h.session) (fun _ _ h => h.session)
    fun _ h => h.session

/-- What `NextChunk` leaves: the end in `I`, or a chunk in `J`. -/
def HandsOut (I J : Client → Prop) (next : Option ResultChunk) (c : Client) : Prop :=
  (next = none ∧ I c) ∨ J c

namespace ChunkRules

variable (rules : ChunkRules env I J E)

include rules

theorem onRaise {α : Type} {Q : α → Client → Prop} {body : Query α} {c : Client}
    (h : wp body Q E I c) : wp (onRaise body (update (cancel env))) Q E I c := by
  rw [wp_onRaise]
  exact wp_mono h (fun _ _ h => h) (fun e c' h => rules.cancels e c' h) fun _ h => h

theorem nextChunkBody {c : Client} (hc : I c) (ready : c.session.Ready) :
    wp (QueryCursor.nextChunkBody env) (fun next => HandsOut I J next) E I c := by
  have hfinished {c : Client} (hc : I c) (ready : c.session.Ready) :
      wp (QueryCursor.finished : Query (Option ResultChunk))
        (fun next => HandsOut I J next) E I c := by
    refine wp_mono (rules.finishes _ c hc ready) (fun next c' h => ?_) (fun _ _ h => h) fun _ h => h
    obtain ⟨rfl, h⟩ := h
    exact .inl ⟨rfl, h⟩
  have hdelivered {prog : Query (Option ResultChunk)} {c : Client}
      (h : wp prog (fun _ => J) E I c) : wp prog (fun next => HandsOut I J next) E I c :=
    wp_mono h (fun _ _ h => .inr h) (fun _ _ h => h) fun _ h => h
  rw [QueryCursor.nextChunkBody, wp_bind, wp_look, wp_ite]
  refine ⟨fun hmode => ?_, fun hmode => ?_⟩
  · rw [QueryCursor.nextNumbered, wp_bind, wp_look, wp_ite]
    refine ⟨fun _ => hfinished hc ready, fun hmore => hdelivered ?_⟩
    exact rules.numbered c hc ready hmode (UInt64.not_le.mp hmore)
  · have hdirect : c.session.mode = .directLegacy := by
      cases h : c.session.mode with
      | numberedV3 => exact absurd h hmode
      | directLegacy => rfl
    rw [QueryCursor.nextDirect, wp_bind, wp_look]
    cases hbuffer : c.session.bufferedDirect with
    | some response =>
        simp only [id_eq, hbuffer]
        rw [wp_bind, wp_modify]
        exact hdelivered (rules.buffered response c hc ready hdirect hbuffer)
    | none =>
        simp only [id_eq, hbuffer]
        rw [wp_ite]
        exact ⟨fun _ => hfinished hc ready, fun _ =>
          hdelivered (rules.direct c hc ready hdirect hbuffer)⟩

theorem nextChunk {c : Client} (hc : I c) :
    wp (QueryCursor.nextChunk env) (fun next => HandsOut I J next) E I c := by
  rw [QueryCursor.nextChunk, wp_bind, wp_look, wp_bind, wp_raiseIf]
  refine ⟨fun _ => rules.fails _ c hc, fun hidle => ?_⟩
  rw [wp_ite]
  refine ⟨fun _ => .inl ⟨rfl, hc⟩, fun hopen => ?_⟩
  rw [wp_bind, wp_raiseIf]
  refine ⟨fun _ => rules.fails _ c hc, fun hactive => ?_⟩
  have ready : c.session.Ready :=
    ⟨by simpa using hidle, by simpa using hopen, by simpa using hactive⟩
  exact rules.onRaise (rules.nextChunkBody hc ready)

/-- `NextChunk`, when it hands out chunks in what it starts from. -/
theorem leads_nextChunk (stays : ∀ c, J c → I c) : Leads I E (QueryCursor.nextChunk env) := by
  intro c hc
  refine wp_mono (rules.nextChunk hc) (fun next c' h => ?_) (fun _ _ h => h) fun _ h => h
  rcases h with ⟨-, h⟩ | h
  · exact h
  · exact stays c' h

end ChunkRules

namespace CursorRules

variable (rules : CursorRules env I J E)

include rules

theorem nextArrowChunk : Leads I E (QueryCursor.nextArrowChunk env) := by
  intro c hc
  rw [QueryCursor.nextArrowChunk, wp_bind, wp_look, wp_bind, wp_raiseIf]
  refine ⟨fun _ => rules.fails _ c hc, fun hmode => ?_⟩
  rw [wp_bind, wp_raiseIf]
  refine ⟨fun _ => rules.fails _ c hc, fun hidle => ?_⟩
  rw [wp_ite]
  refine ⟨fun _ => hc, fun hopen => ?_⟩
  rw [wp_bind, wp_raiseIf]
  refine ⟨fun _ => rules.fails _ c hc, fun hactive => ?_⟩
  have ready : c.session.Ready :=
    ⟨by simpa using hidle, by simpa using hopen, by simpa using hactive⟩
  apply rules.onRaise
  rw [QueryCursor.nextArrowBody, wp_bind]
  refine wp_mono (wp_and (rules.checks c hc) (keeps_session_checkActive _ c rfl)) ?_
    (fun _ _ h => h.1) fun _ h => h.1
  intro _ c' h
  obtain ⟨hc', hsession⟩ := h
  rw [← hsession] at ready hmode
  rw [wp_bind, wp_look, wp_ite]
  refine ⟨fun _ => ?_, fun hmore => ?_⟩
  · exact wp_mono (rules.finishes _ c' hc' ready) (fun _ _ h => h.2) (fun _ _ h => h) fun _ h => h
  exact rules.arrow c' hc' ready (Decidable.not_not.mp hmode) (UInt64.not_le.mp hmore)

theorem reportArrowChunk (decodedRows : UInt64) :
    Leads I E (QueryCursor.reportArrowChunk env decodedRows) := by
  intro c hc
  rw [QueryCursor.reportArrowChunk, wp_bind, wp_look, wp_bind, wp_raiseIf]
  refine ⟨fun _ => rules.fails _ c hc, fun houtstanding => ?_⟩
  exact rules.onRaise (rules.reports decodedRows c hc (by simpa using houtstanding))

/-- Every call on a cursor. -/
theorem cursorCall (stays : ∀ c, J c → I c) (call : CursorCall) :
    Leads I E (call.program env) := by
  cases call with
  | nextChunk => exact leads_bind (rules.leads_nextChunk stays) fun _ => leads_pure _
  | nextArrowChunk => exact leads_bind rules.nextArrowChunk fun _ => leads_pure _
  | reportArrowChunk decodedRows =>
      exact leads_bind (rules.reportArrowChunk decodedRows) fun _ => leads_pure _

end CursorRules

/-! ## What lasts -/

section Lasts

variable {L : List QueryEvent → Prop}

theorem keeps_deliver_lasting (hL : Lasting L) (response : QueryResponse) :
    Keeps (Ongoing L fun _ => True) (QueryCursor.deliver env response) :=
  keeps_deliver_of hL.idle (fun _ _ h => h) (fun _ _ _ _ h => h) (fun _ _ h => h) response

theorem keeps_fetchNumbered_lasting (hL : Lasting L) :
    Keeps (Ongoing L fun _ => True) (QueryCursor.fetchNumbered env) :=
  keeps_bind (keeps_modify fun _ h => h) fun _ => keeps_sendDecode_lasting hL fun _ _ _ h => h

theorem keeps_fetchDirect_lasting (hL : Lasting L) :
    Keeps (Ongoing L fun _ => True) (QueryCursor.fetchDirect env) :=
  keeps_bind (keeps_look _) fun _ => keeps_bind (keeps_raiseIf _ _) fun _ =>
    keeps_bind (keeps_modify fun _ h => h) fun _ => keeps_sendDecode_lasting hL fun _ _ _ h => h

theorem keeps_fetchArrow_lasting (hL : Lasting L) :
    Keeps (Ongoing L fun _ => True) (QueryCursor.fetchArrow env) :=
  keeps_bind (keeps_modify fun _ h => h) fun _ =>
    keeps_bind (keeps_send_lasting hL fun _ _ _ h => h) fun response => keeps_ite _
      (keeps_bind (keeps_arrowFailed hL.idle response) fun _ => keeps_pure _)
      (keeps_bind (keeps_checkActive hL.idle) fun _ =>
        keeps_bind (keeps_modify fun _ h => h) fun _ => keeps_pure _)

/-- A call on a cursor keeps what lasts. -/
theorem cursorRules_lasting (hL : Lasting L) :
    CursorRules env (Ongoing L fun _ => True) (Ongoing L fun _ => True)
      (fun _ => Ongoing L fun _ => True) where
  fails _ _ h := h
  cancels _ c h := by
    unfold cancel
    split
    · exact h
    · exact ⟨hL _ _ h.log, trivial⟩
  numbered c h _ _ _ := keeps_bind (keeps_fetchNumbered_lasting hL) (keeps_deliver_lasting hL) c h
  buffered response _ h _ _ _ := keeps_deliver_lasting hL response _ ⟨h.log, trivial⟩
  direct c h _ _ _ := keeps_bind (keeps_fetchDirect_lasting hL) (keeps_deliver_lasting hL) c h
  finishes α c h _ := wp_finished_of (fun _ => ⟨rfl, h.log, trivial⟩) fun _ _ => h
  arrow c h _ _ _ := keeps_fetchArrow_lasting hL c h
  checks := keeps_checkActive hL.idle
  reports decodedRows c h _ := by
    rw [QueryCursor.reportBody, wp_bind]
    refine wp_mono (keeps_checkActive hL.idle c h) ?_ (fun _ _ h => h) fun _ h => h
    intro _ c₁ h₁
    simp only [wp_bind, wp_look, wp_raiseIf, wp_modify]
    exact ⟨fun _ => h₁, fun _ => ⟨fun _ => ⟨h₁.log, trivial⟩, fun _ => ⟨h₁.log, trivial⟩⟩⟩

/-- What has happened stays in the log. -/
theorem lasting_past (past : List QueryEvent) : Lasting (past <+: ·) :=
  fun _ _ h => h.trans (List.prefix_append _ _)

/-- A program that keeps all that lasts goes on with the log. -/
theorem log_prefix_of_keeps {α : Type} (prog : Query α)
    (h : ∀ {L : List QueryEvent → Prop}, Lasting L → Keeps (Ongoing L fun _ => True) prog)
    (c : Client) : c.log <+: (prog c).2.log :=
  (wp_final.mp (h (lasting_past c.log) c ⟨List.prefix_refl _, trivial⟩)).log

end Lasts

/-! ## Runs -/

section Runs

variable {sql : Bytes} {credentials : QueryCredentials} {options : QueryOptions} {R : Client → Prop}

theorem leads_nextChunk_of_call (h : Leads I E (CursorCall.nextChunk.program env)) :
    Leads I E (QueryCursor.nextChunk env) := by
  intro c hc
  have hcall := h c hc
  rw [show CursorCall.nextChunk.program env = (QueryCursor.nextChunk env >>= fun next =>
    pure (.chunk next)) from rfl, wp_bind] at hcall
  exact hcall

/-- The loop of `Execute` keeps what `NextChunk` keeps. -/
theorem leads_executeLoop (h : Leads I E (QueryCursor.nextChunk env)) (fuel : Nat)
    (chunks : List ResultChunk) : Leads I E (QueryApiV3Client.executeLoop env fuel chunks) := by
  induction fuel generalizing chunks with
  | zero => exact leads_outOfFuel
  | succ fuel ih =>
      refine leads_bind h fun next => ?_
      cases next with
      | some chunk => exact ih _
      | none => exact leads_pure _

/-- Calls on handles keep what the calls on a cursor keep, and leave `R` when
the session goes. -/
theorem handles_keep_of_calls (calls : ∀ call : CursorCall, Keeps I (call.program env))
    (ended : ∀ c, I c → R (cancel env c)) {w : QueryWorld}
    (h : if w.owner.isSome then I w.client else R w.client) (call : HandleCall) :
    if ((handleMachine env).step call w).2.owner.isSome then
      I ((handleMachine env).step call w).2.client
    else R ((handleMachine env).step call w).2.client := by
  have hdestroy (handle : Handle) : if (destroyHandle env handle w).owner.isSome then
      I (destroyHandle env handle w).client else R (destroyHandle env handle w).client := by
    unfold destroyHandle
    split
    · rename_i howner
      rw [howner] at h
      exact ended w.client h
    · exact h
  have hmove (source target : Handle) : if (moveHandle env source target w).owner.isSome then
      I (moveHandle env source target w).client else R (moveHandle env source target w).client := by
    unfold moveHandle
    split
    · rename_i howner
      rw [howner] at h
      exact h
    · exact hdestroy target
  have hcall (handle : Handle) (unavailable : QueryError) {program : Query HandleValue}
      (hprogram : Keeps I program) :
      if (callHandle handle unavailable program w).2.owner.isSome then
        I (callHandle handle unavailable program w).2.client
      else R (callHandle handle unavailable program w).2.client := by
    unfold callHandle
    split
    · rename_i howner
      rw [howner] at h ⊢
      exact wp_final.mp (hprogram w.client h)
    · exact h
  cases call with
  | movePrepared source target => exact hmove _ _
  | moveCursor source target => exact hmove _ _
  | metadata slot => exact hcall _ _ (keeps_read _)
  | openCursor source target =>
      simp only [handleMachine, HandleCall.step]
      split
      · rename_i howner
        rw [howner] at h
        exact h
      · exact h
  | isNumberedV3 slot => exact hcall _ _ (keeps_read _)
  | cursorCall slot call => exact hcall _ _ (keeps_bind (calls call) fun _ => keeps_pure _)
  | destroy handle => exact hdestroy handle

/-- What a run of the client leaves, from the rules for its calls: `I` while the
session lives, and `R` after it. -/
theorem queryRun_of_rules
    (prepares : ∀ fuel metadataOnly,
      wp (QueryApiV3Client.prepareInternal env fuel sql credentials metadataOnly options)
        (fun _ => I) (fun _ => R) I {})
    (calls : ∀ call : CursorCall, Keeps I (call.program env)) (ended : ∀ c, I c → R (cancel env c))
    {alive : Bool} {c : Client} (run : QueryRun env sql credentials options alive c) :
    if alive then I c else R c := by
  have hscope {α : Type} {fuel : Nat} {metadataOnly : Bool} {body : Query α}
    (hbody : Keeps I body) :
      wp (do
          QueryApiV3Client.prepareInternal env fuel sql credentials metadataOnly options
          withDestructor body (update (cancel env)))
        (fun _ => R) (fun _ => R) I {} := by
    rw [wp_bind]
    refine wp_mono (prepares fuel metadataOnly) (fun _ c' h => ?_) (fun _ _ h => h) fun _ h => h
    rw [withDestructor, wp_bind, wp_onRaise]
    exact wp_mono (hbody c' h) (fun _ c'' h => ended c'' h)
      (fun _ c'' h => ended c'' h) fun _ h => h
  have hloop (fuel : Nat) (chunks : List ResultChunk) :
      Keeps I (QueryApiV3Client.executeLoop env fuel chunks) :=
    leads_executeLoop (leads_nextChunk_of_call (calls .nextChunk)) fuel chunks
  have hexecute (fuel : Nat) :
      wp (QueryApiV3Client.execute env fuel sql credentials options) (fun _ => R)
        (fun _ => R) I {} :=
    hscope (keeps_bind (keeps_read _) fun _ => keeps_bind (hloop fuel []) fun _ => keeps_pure _)
  have hmetadata (fuel : Nat) :
      wp (QueryApiV3Client.executeMetadata env fuel sql credentials options)
        (fun _ => R) (fun _ => R) I {} :=
    hscope (keeps_bind (keeps_read _) fun _ => keeps_pure _)
  have hends {prog : Query QueryResult} {outcome : Outcome QueryError QueryResult} {c : Client}
      (h : wp prog (fun _ => R) (fun _ => R) I {}) (run : prog {} = (outcome, c))
      (ended : outcome ≠ .cut) : R c := by
    cases outcome with
    | ret value => exact (wp_iff.mp h).1 _ _ run
    | raise e => exact (wp_iff.mp h).2.1 _ _ run
    | cut => exact absurd rfl ended
  cases run with
  | @preparing fuel metadataOnly _ run => exact (wp_iff.mp (prepares fuel metadataOnly)).2.2 _ run
  | @refused fuel metadataOnly e _ run =>
      exact (wp_iff.mp (prepares fuel metadataOnly)).2.1 _ _ run
  | @handled fuel metadataOnly c₀ slot run handles =>
      have hstart : I c₀ := (wp_iff.mp (prepares fuel metadataOnly)).1 _ _ run
      exact (handleMachine env).run_keeps
        (I := fun w => if w.owner.isSome then I w.client else R w.client)
        (fun w call h => handles_keep_of_calls calls ended h call)
        (s := ⟨c₀, some (.prepared slot)⟩) hstart handles
  | @executing fuel _ run => exact (wp_iff.mp (hexecute fuel)).2.2 _ run
  | @executed fuel outcome _ run ended => exact hends (hexecute fuel) run ended
  | @describing fuel _ run => exact (wp_iff.mp (hmetadata fuel)).2.2 _ run
  | @described fuel outcome _ run ended => exact hends (hmetadata fuel) run ended

variable (env sql credentials options) in
/-- A run of the client in which no call has failed. -/
inductive UnfailedRun : Client → Prop
  | preparing {fuel : Nat} {metadataOnly : Bool} {c : Client}
      (run : QueryApiV3Client.prepareInternal env fuel sql credentials metadataOnly options {}
        = (.cut, c)) : UnfailedRun c
  | served {fuel : Nat} {metadataOnly : Bool} {c₀ c : Client} {past : Replies}
      (run : QueryApiV3Client.prepareInternal env fuel sql credentials metadataOnly options {}
        = (.ret (), c₀)) (served : Served env c₀ past c) : UnfailedRun c
  | executing {fuel : Nat} {outcome : Outcome QueryError QueryResult} {c : Client}
      (run : QueryApiV3Client.execute env fuel sql credentials options {} = (outcome, c))
      (unfailed : ∀ e, outcome ≠ .raise e) : UnfailedRun c
  | describing {fuel : Nat} {outcome : Outcome QueryError QueryResult} {c : Client}
      (run : QueryApiV3Client.executeMetadata env fuel sql credentials options {} = (outcome, c))
      (unfailed : ∀ e, outcome ≠ .raise e) : UnfailedRun c

/-- What holds as long as no call fails. -/
theorem unfailedRun_of_rules
    (prepares : ∀ fuel metadataOnly,
      wp (QueryApiV3Client.prepareInternal env fuel sql credentials metadataOnly options)
        (fun _ => I) (fun _ _ => True) I {})
    (calls : ∀ call : CursorCall, Leads I (fun _ _ => True) (call.program env))
    (cancels : ∀ c, I c → I (cancel env c)) {c : Client}
    (run : UnfailedRun env sql credentials options c) : I c := by
  have hscope {α : Type} {fuel : Nat} {metadataOnly : Bool} {body : Query α}
      {outcome : Outcome QueryError α} {c : Client} (hbody : Leads I (fun _ _ => True) body)
      (run : (do
          QueryApiV3Client.prepareInternal env fuel sql credentials metadataOnly options
          withDestructor body (update (cancel env))) {} = (outcome, c))
      (unfailed : ∀ e, outcome ≠ .raise e) : I c := by
    have hwp : wp (do
        QueryApiV3Client.prepareInternal env fuel sql credentials metadataOnly options
        withDestructor body (update (cancel env))) (fun _ => I) (fun _ _ => True) I {} := by
      rw [wp_bind]
      refine wp_mono (prepares fuel metadataOnly) (fun _ c' h => ?_) (fun _ _ h => h) fun _ h => h
      rw [withDestructor, wp_bind, wp_onRaise]
      exact wp_mono (hbody c' h) (fun _ c'' h => cancels c'' h) (fun _ _ _ => trivial) fun _ h => h
    cases outcome with
    | ret value => exact (wp_iff.mp hwp).1 _ _ run
    | raise e => exact absurd rfl (unfailed e)
    | cut => exact (wp_iff.mp hwp).2.2 _ run
  cases run with
  | @preparing fuel metadataOnly _ run => exact (wp_iff.mp (prepares fuel metadataOnly)).2.2 _ run
  | @served fuel metadataOnly c₀ _ past run served =>
      induction served with
      | opened => exact (wp_iff.mp (prepares fuel metadataOnly)).1 _ _ run
      | @call past c c' call value _ returned ih =>
          exact (wp_iff.mp (calls call c ih)).1 _ _ returned
  | executing run unfailed =>
      refine hscope (leads_bind (leads_read _) fun _ => leads_bind ?_ fun _ => leads_pure _) run
        unfailed
      exact leads_executeLoop (leads_nextChunk_of_call (calls .nextChunk)) _ _
  | describing run unfailed =>
      exact hscope (leads_bind (leads_read _) fun _ => leads_pure _) run unfailed

end Runs

end Data360
