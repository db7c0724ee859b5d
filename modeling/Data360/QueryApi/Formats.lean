import Data360.QueryApi.Identity

/-!
# The formats that a session asks for

All requests of a session are one `HttpRequest` that the methods of
`src/query_api.cpp` rewrite.  `NextArrowChunk` sets its `Accept` header, and no
other method sets it back.

* `SendsSince` says which requests were sent since a point of the log.
* `chunkRules_asks` is the step lemma of `NextChunk`: it asks for the format
  that it finds.  `wp_nextArrowChunk_turn` is the one of `NextArrowChunk`.
* `formats_match_iff` finds the runs in which every chunk is asked for in the
  format that its consumer reads.
-/

namespace Data360

open Lib Lib.ByteString Lib.Prog Session

variable {env : QueryEnv} {setting : Setting} {base log : List QueryEvent}

/-! ## Formats -/

/-- The formats of a response. -/
inductive Format where
  | json
  | arrow
  deriving DecidableEq, Repr

/-- What stands in the `Accept` header. -/
def Format.mediaType : Format → Bytes
  | .json => ascii "application/json"
  | .arrow => ascii "application/vnd.apache.arrow.stream"

/-- The format that the consumer of a call reads. -/
def CursorCall.format : CursorCall → Format
  | .nextArrowChunk => .arrow
  | .nextChunk | .reportArrowChunk _ => .json

/-- The `Accept` header of a request. -/
def HttpRequest.accept (r : HttpRequest) : Option Bytes := r.headers[ascii "Accept"]?

/-- The request of a session that asks for a format. -/
structure Asks (format : Format) (r : HttpRequest) : Prop where
  accept : r.accept = some format.mediaType
  cleanupRequest : r.cleanupRequest = false

/-- A request that a session sends while it asks for a format: in that format,
but the cleanup asks for JSON. -/
def Carries (format : Format) (r : HttpRequest) : Prop :=
  r.accept = some (if r.cleanupRequest then Format.json else format).mediaType

theorem Asks.carries {format : Format} {r : HttpRequest} (h : Asks format r) :
    Carries format r := by
  rw [Carries, h.cleanupRequest]
  exact h.accept

theorem Carries.own {format : Format} {r : HttpRequest} (h : Carries format r)
    (hown : r.cleanupRequest = false) : r.accept = some format.mediaType := by
  rw [Carries, hown] at h
  exact h

/-- A request that asks for JSON if it is a cleanup. -/
def Tidy (r : HttpRequest) : Prop :=
  r.cleanupRequest = true → r.accept = some Format.json.mediaType

theorem Carries.tidy {format : Format} {r : HttpRequest} (h : Carries format r) : Tidy r := by
  intro hcleanup
  rw [Carries, hcleanup] at h
  exact h

theorem carries_json {r : HttpRequest} :
    Carries .json r ↔ r.accept = some Format.json.mediaType := by
  rw [Carries, ite_self]

theorem Asks.sent {format : Format} {s s' : Session} (h : Asks format s.request)
    (hsent : Sent s s') :
    Asks format s'.request := by
  obtain ⟨_, _, _, rfl⟩ := hsent
  exact ⟨h.accept, h.cleanupRequest⟩

/-- A cleanup asks for JSON. -/
theorem accept_cancellation (s : Session) :
    s.cancellation.accept = some Format.json.mediaType ∧ s.cancellation.cleanupRequest = true :=
  ⟨by simp [HttpRequest.accept, cancellation, Format.mediaType], rfl⟩

/-- An Arrow request asks for Arrow. -/
theorem asks_arrowRequest {s : Session} (h : s.request.cleanupRequest = false) :
    Asks .arrow (QueryCursor.arrowRequest s).request :=
  ⟨by simp [HttpRequest.accept, QueryCursor.arrowRequest, Format.mediaType], h⟩

theorem asks_submitRequest (sql : Bytes) (credentials : QueryCredentials) (metadataOnly : Bool)
    (options : QueryOptions) :
    Asks .json (QueryApiV3Client.submitRequest sql credentials metadataOnly options) :=
  ⟨by simp [HttpRequest.accept, QueryApiV3Client.submitRequest, Format.mediaType], rfl⟩

/-! ## What was sent since -/

/-- The log has grown from `base`, and only requests in `R` were sent. -/
def SendsSince (R : HttpRequest → Prop) (base log : List QueryEvent) : Prop :=
  ∃ more, log = base ++ more ∧ ∀ r ∈ sends more, R r

theorem SendsSince.refl (R : HttpRequest → Prop) (log : List QueryEvent) : SendsSince R log log :=
  ⟨[], (List.append_nil _).symm, nofun⟩

theorem SendsSince.mono {R S : HttpRequest → Prop} (h : SendsSince R base log)
    (hRS : ∀ r, R r → S r) : SendsSince S base log := by
  obtain ⟨more, hlog, hmore⟩ := h
  exact ⟨more, hlog, fun r hr => hRS r (hmore r hr)⟩

theorem SendsSince.trans {R : HttpRequest → Prop} {log' : List QueryEvent}
    (h : SendsSince R base log)
    (h' : SendsSince R log log') : SendsSince R base log' := by
  obtain ⟨more, rfl, hmore⟩ := h
  obtain ⟨rest, rfl, hrest⟩ := h'
  refine ⟨more ++ rest, List.append_assoc _ _ _, fun r hr => ?_⟩
  rw [sends_append] at hr
  exact (List.mem_append.mp hr).elim (hmore r) (hrest r)

theorem SendsSince.concat {R : HttpRequest → Prop} (h : SendsSince R base log) {e : QueryEvent}
    (he : ∀ r, e.sent = some r → R r) : SendsSince R base (log ++ [e]) := by
  obtain ⟨more, rfl, hmore⟩ := h
  exact ⟨more ++ [e], List.append_assoc _ _ _, lastingOn_sends R more e he hmore⟩

theorem lastingOn_sendsSince (R : HttpRequest → Prop) (base : List QueryEvent) :
    LastingOn R (SendsSince R base) := fun _ _ he h => h.concat he

/-- The requests of the new part of a log. -/
def sendsAfter (base log : List QueryEvent) : List HttpRequest := sends (log.drop base.length)

theorem sendsSince_iff {R : HttpRequest → Prop} :
    SendsSince R base log ↔ base <+: log ∧ ∀ r ∈ sendsAfter base log, R r := by
  constructor
  · rintro ⟨more, rfl, hmore⟩
    exact ⟨List.prefix_append _ _, by rwa [sendsAfter, List.drop_left]⟩
  · rintro ⟨⟨more, rfl⟩, hmore⟩
    exact ⟨more, rfl, by rwa [sendsAfter, List.drop_left] at hmore⟩

/-- The cleanup of a session goes along with any format. -/
theorem SendsSince.cancel {R : HttpRequest → Prop} {c : Client} (h : SendsSince R base c.log)
    (hR : R c.session.cancellation) : SendsSince R base (cancel env c).log := by
  rw [Session.cancel]
  split
  · exact h
  · exact h.concat fun r hr => by
      obtain rfl := Option.some.inj hr
      exact hR

/-- Cancelling does not rewrite the request. -/
@[simp] theorem cancel_request (c : Client) :
    (cancel env c).session.request = c.session.request := by
  rw [Session.cancel]
  split
  · rfl
  · rfl

/-! ## Calls that leave the format alone -/

/-- A session that asks for a format, and has since `base`. -/
abbrev Client.Asking (format : Format) (base : List QueryEvent) : Client → Prop :=
  Ongoing (SendsSince (Carries format) base) fun s => Asks format s.request

section Asking

variable (format : Format) (base : List QueryEvent)

theorem idle_asking : Idle (SendsSince (Carries format) base) :=
  LastingOn.idle (lastingOn_sendsSince _ base)

theorem keeps_send_asks : Keeps (Client.Asking format base) (send env) :=
  keeps_send_on (lastingOn_sendsSince _ base) (fun _ h => h.carries) fun _ _ h hsent => h.sent hsent

theorem keeps_sendDecode_asks : Keeps (Client.Asking format base) (do
    let response ← send env
    decode env response) :=
  keeps_bind (keeps_send_asks format base) fun response =>
    keeps_decode (idle_asking format base) response

theorem keeps_deliver_asks (response : QueryResponse) :
    Keeps (Client.Asking format base) (QueryCursor.deliver env response) :=
  keeps_deliver_of (idle_asking format base) (fun _ _ h => h) (fun _ _ _ _ h => h)
    (fun _ _ h => h) response

theorem asking_cancel {c : Client} (h : c.Asking format base) :
    (cancel env c).Asking format base := by
  obtain ⟨haccept, hcleanup⟩ := accept_cancellation c.session
  refine ⟨h.log.cancel ?_, ?_⟩
  · rw [Carries, hcleanup]
    exact haccept
  · rw [cancel_request]
    exact h.session

theorem keeps_finished_asks {α : Type} (c : Client) (h : c.Asking format base) :
    wp (QueryCursor.finished : Query (Option α))
      (fun next c' => next = none ∧ c'.Asking format base)
      (fun _ c' => c'.Asking format base) (fun _ => False) c :=
  wp_finished_of (fun _ => ⟨rfl, h.log, h.session⟩) fun _ _ => h

/-- `NextChunk` asks for what the session asks for. -/
theorem chunkRules_asks : ChunkRules env (Client.Asking format base) (Client.Asking format base)
    (fun _ => Client.Asking format base) where
  fails _ _ h := h
  cancels _ _ h := asking_cancel format base h
  numbered c h _ _ _ := by
    have hfetch : Keeps (Client.Asking format base) (QueryCursor.fetchNumbered env) :=
      keeps_bind (keeps_modify fun _ h => ⟨h.accept, h.cleanupRequest⟩) fun _ =>
        keeps_sendDecode_asks format base
    exact keeps_bind hfetch (fun response => keeps_deliver_asks format base response) c h
  buffered response c h _ _ _ := keeps_deliver_asks format base response _ ⟨h.log, h.session⟩
  direct c h _ _ _ := by
    have hfetch : Keeps (Client.Asking format base) (QueryCursor.fetchDirect env) :=
      keeps_bind (keeps_look _) fun _ => keeps_bind (keeps_raiseIf _ _) fun _ =>
        keeps_bind (keeps_modify fun _ h => ⟨h.accept, h.cleanupRequest⟩) fun _ =>
        keeps_sendDecode_asks format base
    exact keeps_bind hfetch (fun response => keeps_deliver_asks format base response) c h
  finishes α c h _ := wp_mono (keeps_finished_asks format base c h) (fun _ _ h => h)
    (fun _ _ h => h) fun _ h => h.elim

end Asking

/-- `PrepareInternal` asks for JSON, up to its cleanup. -/
theorem prepareRules_asks : PrepareRules env (Client.Asking .json []) (Client.Asking .json [])
    (fun _ c => SendsSince (Carries .json) [] c.log) where
  fails _ _ h := h.log
  refuses _ _ _ h := h.log
  direct _ _ h := ⟨h.log, h.session⟩
  columns _ _ h _ := h.log
  polls _ h := ⟨h.log, h.session.accept, h.session.cleanupRequest⟩
  sleeps milliseconds :=
    (keeps_sleepMs (idle_asking .json []) milliseconds).leads fun _ _ h => h.log
  checks := (keeps_checkActive (idle_asking .json [])).leads fun _ _ h => h.log
  numbered decoded c h _ _ := by
    have hfetch : Keeps (Client.Asking .json []) (QueryApiV3Client.fetchMetadata env) :=
      keeps_bind (keeps_modify fun _ h => ⟨h.accept, h.cleanupRequest⟩) fun _ =>
        keeps_bind (keeps_send_asks .json []) fun response =>
        keeps_bind (keeps_decode (idle_asking .json []) response) fun _ =>
        keeps_bind (keeps_raiseIf _ _) fun _ =>
        keeps_bind (keeps_modify fun _ h => h) fun _ => keeps_raiseIf _ _
    exact hfetch.leads (fun _ _ h => h.log) _ ⟨h.log, h.session⟩
  exchange := by
    have hexchange : Keeps (Client.Asking .json []) (QueryApiV3Client.exchange env) :=
      keeps_bind (keeps_send_asks .json []) fun response =>
        keeps_bind (keeps_decode (idle_asking .json []) response) fun decoded =>
        keeps_bind (keeps_remember (fun _ _ h => h) decoded) fun _ =>
        keeps_bind (keeps_checkActive (idle_asking .json [])) fun _ => keeps_pure _
    exact hexchange.leads fun _ _ h => h.log

/-! ## Calls that ask for Arrow -/

/-- A cleanup, which asks for JSON. -/
def CleansJson (r : HttpRequest) : Prop :=
  r.cleanupRequest = true ∧ r.accept = some Format.json.mediaType

theorem CleansJson.carries {format : Format} {r : HttpRequest} (h : CleansJson r) :
    Carries format r := by
  rw [Carries, h.1]
  exact h.2

/-- A request for a chunk was sent since `base`. -/
def RequestsSince (base log : List QueryEvent) : Prop :=
  ∃ r ∈ sendsAfter base log, r.cleanupRequest = false

theorem RequestsSince.concat (h : RequestsSince base log) (hbase : base <+: log) (e : QueryEvent) :
    RequestsSince base (log ++ [e]) := by
  obtain ⟨more, rfl⟩ := hbase
  obtain ⟨r, hr, hown⟩ := h
  refine ⟨r, ?_, hown⟩
  rw [sendsAfter, List.drop_left] at hr
  rw [sendsAfter, List.append_assoc, List.drop_left, sends_append]
  exact List.mem_append_left _ hr

/-- A call that has sent nothing but a cleanup. -/
structure OnlyCleans (c c' : Client) : Prop where
  sends : SendsSince CleansJson c.log c'.log
  request : c'.session.request = c.session.request
  terminal : c.session.terminal = true → c'.session.terminal = true

theorem OnlyCleans.refl (c : Client) : OnlyCleans c c := ⟨.refl _ _, rfl, id⟩

theorem OnlyCleans.cancel {c c' : Client} (h : OnlyCleans c c') : OnlyCleans c (cancel env c') := by
  obtain ⟨haccept, hcleanup⟩ := accept_cancellation c'.session
  refine ⟨h.sends.cancel ⟨hcleanup, haccept⟩, by rw [cancel_request]; exact h.request, fun hc => ?_⟩
  rw [Session.cancel, if_pos (.inl (h.terminal hc))]
  exact h.terminal hc

/-- What a call that may ask for Arrow has done: it has rewritten the request, and
it has sent it or ended the session. -/
inductive ArrowTurn (c c' : Client) : Prop where
  | quiet (cleans : OnlyCleans c c')
  | ended (sends : SendsSince (Carries .arrow) c.log c'.log)
      (terminal : c'.session.terminal = true)
  | asked (sends : SendsSince (Carries .arrow) c.log c'.log) (asks : Asks .arrow c'.session.request)
      (requested : RequestsSince c.log c'.log)

/-- `ReportArrowChunk` sends nothing but a cleanup. -/
theorem wp_reportArrowChunk_cleans (decodedRows : UInt64) (c : Client) :
    wp (QueryCursor.reportArrowChunk env decodedRows) (fun _ c' => OnlyCleans c c')
      (fun _ c' => OnlyCleans c c') (fun _ => True) c := by
  let Same (s : Session) : Prop :=
    s.request = c.session.request ∧ (c.session.terminal = true → s.terminal = true)
  have hidle : Idle (SendsSince CleansJson c.log) := LastingOn.idle (lastingOn_sendsSince _ _)
  have hbody : Keeps (Ongoing (SendsSince CleansJson c.log) Same)
      (QueryCursor.reportBody env decodedRows) :=
    keeps_bind (keeps_checkActive hidle) fun _ => keeps_bind (keeps_look _) fun _ =>
      keeps_bind (keeps_raiseIf _ _) fun _ => keeps_bind (keeps_raiseIf _ _) fun _ =>
      keeps_modify fun _ h => h
  have hcleans (c' : Client) (h : Ongoing (SendsSince CleansJson c.log) Same c') :
      OnlyCleans c c' := ⟨h.log, h.session.1, h.session.2⟩
  rw [QueryCursor.reportArrowChunk, wp_bind, wp_look, wp_bind, wp_raiseIf]
  refine ⟨fun _ => .refl c, fun _ => ?_⟩
  rw [wp_onRaise]
  exact wp_mono (hbody c ⟨.refl _ _, rfl, id⟩) (fun _ c' h => hcleans c' h)
    (fun _ c' h => (hcleans c' h).cancel) fun _ _ => trivial

/-- A response that `NextArrowChunk` fetches was asked for in Arrow. -/
theorem wp_fetchArrow_turn {c c₁ : Client} (hlog : SendsSince CleansJson c.log c₁.log)
    (hown : c₁.session.request.cleanupRequest = false) :
    wp (QueryCursor.fetchArrow env) (fun _ c' => ArrowTurn c c')
      (fun _ c' => SendsSince (Carries .arrow) c.log c'.log) (fun _ => True) c₁ := by
  let L (log : List QueryEvent) : Prop := SendsSince (Carries .arrow) c.log log ∧
    RequestsSince c.log log
  have hsince : Idle (SendsSince (Carries .arrow) c.log) := idle_asking .arrow c.log
  have hidle : Idle L :=
    ⟨fun h hquiet => ⟨hsince.quiet h.1 hquiet, h.2.concat (sendsSince_iff.mp h.1).1 _⟩,
      fun h hrests => ⟨hsince.reading h.1 hrests, h.2.concat (sendsSince_iff.mp h.1).1 _⟩⟩
  have hlooks : Looks (SendsSince (Carries .arrow) c.log) :=
    ⟨fun h => h.concat nofun, fun h => h.concat nofun⟩
  have hstart : (c₁.onSession QueryCursor.arrowRequest).Asking .arrow c.log :=
    ⟨hlog.mono fun _ h => h.carries, asks_arrowRequest hown⟩
  rw [QueryCursor.fetchArrow, wp_bind, wp_modify, wp_bind]
  refine wp_mono (wp_and (keeps_send_asks .arrow c.log _ hstart)
    (wp_send_log hlooks (fun _ _ h hsent => h.sent hsent) hstart)) (fun response c₂ h₂ => ?_)
    (fun _ _ h => h.1.log) fun _ _ => trivial
  obtain ⟨h₂, -, log, hbefore, hsent⟩ := h₂
  have hrequested : RequestsSince c.log c₂.log := by
    obtain ⟨⟨more, rfl⟩, -⟩ := sendsSince_iff.mp hbefore
    refine ⟨c₂.session.request, ?_, h₂.session.cleanupRequest⟩
    rw [sendsAfter, hsent, List.append_assoc, List.drop_left, sends_append]
    exact List.mem_append_right _ List.mem_cons_self
  have hasked : Ongoing L (fun s => Asks .arrow s.request) c₂ := ⟨⟨h₂.log, hrequested⟩, h₂.session⟩
  rw [wp_ite]
  refine ⟨fun _ => ?_, fun _ => ?_⟩
  · rw [wp_bind]
    exact wp_mono (keeps_arrowFailed hidle response c₂ hasked)
      (fun _ _ h => .asked h.log.1 h.session h.log.2) (fun _ _ h => h.log.1) fun _ _ => trivial
  · rw [wp_bind]
    exact wp_mono (keeps_checkActive hidle c₂ hasked)
      (fun _ _ h => .asked h.log.1 h.session h.log.2) (fun _ _ h => h.log.1) fun _ _ => trivial

/-- `NextArrowChunk` asks for Arrow; when it does not get so far, the session
ends. -/
theorem wp_nextArrowChunk_turn {c : Client} (h : c.Sound setting) :
    wp (QueryCursor.nextArrowChunk env) (fun _ c' => ArrowTurn c c') (fun _ c' => ArrowTurn c c')
      (fun _ => True) c := by
  have hsame : ArrowTurn c c := .quiet (.refl c)
  rw [QueryCursor.nextArrowChunk, wp_bind, wp_look, wp_bind, wp_raiseIf]
  refine ⟨fun _ => hsame, fun hmode => ?_⟩
  rw [wp_bind, wp_raiseIf]
  refine ⟨fun _ => hsame, fun hidle => ?_⟩
  rw [wp_ite]
  refine ⟨fun _ => hsame, fun hopen => ?_⟩
  rw [wp_bind, wp_raiseIf]
  refine ⟨fun _ => hsame, fun hactive => ?_⟩
  have hworking := h.working (by simpa using hactive) (by simpa using hopen) (by simpa using hidle)
  have hnumbered : c.session.mode = .numberedV3 := Decidable.not_not.mp hmode
  have hbody : wp (QueryCursor.nextArrowBody env) (fun _ c' => ArrowTurn c c')
      (fun _ c' => SendsSince (Carries .arrow) c.log c'.log) (fun _ => True) c := by
    have hstart : Ongoing (SendsSince CleansJson c.log) (· = c.session) c := ⟨.refl _ _, rfl⟩
    rw [QueryCursor.nextArrowBody, wp_bind]
    refine wp_mono (keeps_checkActive (LastingOn.idle (lastingOn_sendsSince _ _)) c hstart)
      (fun _ c₁ h₁ => ?_) (fun _ _ h => h.log.mono fun _ h => h.carries) fun _ _ => trivial
    have hrequest : c₁.session.request = c.session.request := by rw [h₁.session]
    rw [wp_bind, wp_look, wp_ite]
    refine ⟨fun _ => ?_, fun _ => wp_fetchArrow_turn h₁.log ?_⟩
    · exact wp_finished_of (fun _ => .quiet ⟨h₁.log, hrequest, fun _ => rfl⟩) fun _ _ =>
        h₁.log.mono fun _ h => h.carries
    · rw [hrequest]
      exact h.session.request.cleanupRequest
  rw [wp_onRaise]
  refine wp_mono
    (wp_and hbody (wp_and (wp_nextArrowBody ⟨hworking.log, hworking.session, hnumbered⟩)
    (keeps_nextArrowBody_id _ c ⟨trivial, rfl⟩))) (fun _ _ h => h.1) (fun _ c' h' => ?_)
    fun _ _ => trivial
  obtain ⟨hsince, hended, hid⟩ := h'
  -- the session has an id, so the failure ends it
  have hknown : c'.session.queryId ≠ [] := by
    rw [show c'.session.queryId = c.session.queryId from hid.session]
    exact (h.session.numbered hnumbered).1
  obtain ⟨haccept, hcleanup⟩ := accept_cancellation c'.session
  exact .ended (hsince.cancel (CleansJson.carries ⟨hcleanup, haccept⟩))
    (cancel_terminal (hended.session.safe hknown) hended.session.open')

/-- A session that has ended sends nothing but a cleanup. -/
theorem wp_nextChunk_terminal {c : Client} (h : c.session.terminal = true) :
    wp (QueryCursor.nextChunk env) (fun _ c' => OnlyCleans c c') (fun _ c' => OnlyCleans c c')
      (fun _ => True) c := by
  rw [QueryCursor.nextChunk, wp_bind, wp_look, wp_bind, wp_raiseIf]
  refine ⟨fun _ => .refl c, fun _ => ?_⟩
  rw [wp_ite]
  refine ⟨fun _ => .refl c, fun _ => ?_⟩
  rw [wp_bind, wp_raiseIf]
  exact ⟨fun _ => .refl c, fun hactive => (hactive h).elim⟩

theorem wp_nextArrowChunk_terminal {c : Client} (h : c.session.terminal = true) :
    wp (QueryCursor.nextArrowChunk env) (fun _ c' => OnlyCleans c c') (fun _ c' => OnlyCleans c c')
      (fun _ => True) c := by
  rw [QueryCursor.nextArrowChunk, wp_bind, wp_look, wp_bind, wp_raiseIf]
  refine ⟨fun _ => .refl c, fun _ => ?_⟩
  rw [wp_bind, wp_raiseIf]
  refine ⟨fun _ => .refl c, fun _ => ?_⟩
  rw [wp_ite]
  refine ⟨fun _ => .refl c, fun _ => ?_⟩
  rw [wp_bind, wp_raiseIf]
  exact ⟨fun _ => .refl c, fun hactive => (hactive h).elim⟩

/-! ## Calls in a row -/

/-- An event of a cursor. -/
abbrev CursorEvent : Type := Event Client CursorCall (Outcome QueryError CursorValue)

/-- The requests of a call. -/
def issued (env : QueryEnv) (e : CursorEvent) : List HttpRequest :=
  sendsAfter e.before.log ((cursorMachine env).step e.input e.before).2.log

/-- The call has requested a chunk. -/
def RequestsChunk (env : QueryEnv) (e : CursorEvent) : Prop :=
  ∃ r ∈ issued env e, r.cleanupRequest = false

/-- What every way to end a call gives, the call has done. -/
theorem step_of_wp {c : Client} {call : CursorCall} {I : Client → Prop}
    (h : wp (call.program env) (fun _ => I) (fun _ => I) (fun _ => True) c) :
    I ((cursorMachine env).step call c).2 :=
  wp_final.mp (wp_mono (wp_and h (total_cursorCall call c)) (fun _ _ h => h.1) (fun _ _ h => h.1)
    fun _ h => h.2.elim)

theorem nextChunk_asking {format : Format} {c : Client} (h : Asks format c.session.request) :
    ((cursorMachine env).step .nextChunk c).2.Asking format c.log := by
  apply step_of_wp
  rw [CursorCall.program, wp_bind]
  exact wp_mono ((chunkRules_asks format c.log).leads_nextChunk (fun _ h => h) c ⟨.refl _ _, h⟩)
    (fun _ _ h => h) (fun _ _ h => h) fun _ _ => trivial

theorem nextArrowChunk_turn {c : Client} (h : c.Sound setting) :
    ArrowTurn c ((cursorMachine env).step .nextArrowChunk c).2 := by
  apply step_of_wp
  rw [CursorCall.program, wp_bind]
  exact wp_mono (wp_nextArrowChunk_turn h) (fun _ _ h => h) (fun _ _ h => h) fun _ h => h

theorem reportArrowChunk_cleans (decodedRows : UInt64) (c : Client) :
    OnlyCleans c ((cursorMachine env).step (.reportArrowChunk decodedRows) c).2 := by
  apply step_of_wp
  rw [CursorCall.program, wp_bind]
  exact wp_mono (wp_reportArrowChunk_cleans decodedRows c) (fun _ _ h => h) (fun _ _ h => h)
    fun _ h => h

theorem terminal_cleans {c : Client} (h : c.session.terminal = true) (call : CursorCall) :
    OnlyCleans c ((cursorMachine env).step call c).2 := by
  cases call with
  | nextChunk =>
      apply step_of_wp
      rw [CursorCall.program, wp_bind]
      exact wp_mono (wp_nextChunk_terminal h) (fun _ _ h => h) (fun _ _ h => h) fun _ h => h
  | nextArrowChunk =>
      apply step_of_wp
      rw [CursorCall.program, wp_bind]
      exact wp_mono (wp_nextArrowChunk_terminal h) (fun _ _ h => h) (fun _ _ h => h) fun _ h => h
  | reportArrowChunk decodedRows => exact reportArrowChunk_cleans decodedRows c

/-- A call that only cleans up has requested no chunk. -/
theorem OnlyCleans.not_requests {c : Client} {call : CursorCall}
    (h : OnlyCleans c ((cursorMachine env).step call c).2) :
    ¬ RequestsChunk env ((cursorMachine env).event c call) := by
  rintro ⟨r, hr, hown⟩
  have hcleans := (sendsSince_iff.mp h.sends).2 r hr
  exact absurd (hcleans.1.symm.trans hown) (by decide)

/-- An Arrow chunk was requested. -/
def ArrowRequested (env : QueryEnv) (past : List CursorEvent) : Prop :=
  ∃ e ∈ past, e.input = .nextArrowChunk ∧ RequestsChunk env e

/-- What a session asks for, after the events of the past. -/
inductive Phase (env : QueryEnv) (past : List CursorEvent) (s : Session) : Prop where
  | json (asks : Asks .json s.request) (none : ¬ ArrowRequested env past)
  | arrow (asks : Asks .arrow s.request) (some : ArrowRequested env past)
  | terminated (terminal : s.terminal = true)

theorem arrowRequested_concat {past : List CursorEvent} {e : CursorEvent} :
    ArrowRequested env (past ++ [e]) ↔
      ArrowRequested env past ∨ (e.input = .nextArrowChunk ∧ RequestsChunk env e) := by
  simp only [ArrowRequested, List.mem_append, List.mem_singleton, or_and_right, exists_or,
    exists_eq_left]

/-- A call that only cleans up stays in its phase. -/
theorem Phase.cleans {past : List CursorEvent} {c : Client} {call : CursorCall}
    (h : Phase env past c.session) (hcleans : OnlyCleans c ((cursorMachine env).step call c).2) :
    Phase env (past ++ [(cursorMachine env).event c call])
      ((cursorMachine env).step call c).2.session := by
  have hnone := hcleans.not_requests
  cases h with
  | json asks none =>
      refine .json (hcleans.request ▸ asks) fun hsome => ?_
      rcases arrowRequested_concat.mp hsome with hsome | ⟨-, hsome⟩
      · exact none hsome
      · exact hnone hsome
  | arrow asks some => exact .arrow (hcleans.request ▸ asks) (arrowRequested_concat.mpr (.inl some))
  | terminated terminal => exact .terminated (hcleans.terminal terminal)

/-- One call. -/
theorem Phase.step {past : List CursorEvent} {c : Client} (h : Phase env past c.session)
    (hsound : c.Sound setting) (call : CursorCall) :
    Phase env (past ++ [(cursorMachine env).event c call])
      ((cursorMachine env).step call c).2.session := by
  cases call with
  | nextChunk =>
      have hno (hsome : ArrowRequested env (past ++ [(cursorMachine env).event c .nextChunk])) :
          ArrowRequested env past := by
        rcases arrowRequested_concat.mp hsome with hsome | ⟨hinput, -⟩
        · exact hsome
        · cases hinput
      cases h with
      | json asks none => exact .json (nextChunk_asking asks).session fun hsome => none (hno hsome)
      | arrow asks some =>
          exact .arrow (nextChunk_asking asks).session (arrowRequested_concat.mpr (.inl some))
      | terminated terminal => exact .terminated ((terminal_cleans terminal _).terminal terminal)
  | nextArrowChunk =>
      cases nextArrowChunk_turn hsound with
      | quiet cleans => exact h.cleans cleans
      | ended sends terminal => exact .terminated terminal
      | asked sends asks requested =>
          exact .arrow asks (arrowRequested_concat.mpr (.inr ⟨rfl, requested⟩))
  | reportArrowChunk decodedRows => exact h.cleans (reportArrowChunk_cleans decodedRows c)

theorem mediaType_inj {f g : Format} (h : f.mediaType = g.mediaType) : f = g := by
  cases f <;> cases g <;> first | rfl | exact absurd h (by decide)

/-- What a call asks for: what its consumer reads, except when `NextChunk` comes
behind a request for Arrow. -/
theorem Phase.requests {past : List CursorEvent} {c : Client} (h : Phase env past c.session)
    (hsound : c.Sound setting) (call : CursorCall) :
    ∃ format, SendsSince (Carries format) c.log ((cursorMachine env).step call c).2.log ∧
      (RequestsChunk env ((cursorMachine env).event c call) →
        (format = call.format ↔ ¬ (call = .nextChunk ∧ ArrowRequested env past))) := by
  have hquiet (hcleans : OnlyCleans c ((cursorMachine env).step call c).2) :
      ∃ format, SendsSince (Carries format) c.log ((cursorMachine env).step call c).2.log ∧
        (RequestsChunk env ((cursorMachine env).event c call) →
          (format = call.format ↔ ¬ (call = .nextChunk ∧ ArrowRequested env past))) :=
    ⟨.json, hcleans.sends.mono fun _ h => h.carries, fun hsome => (hcleans.not_requests hsome).elim⟩
  cases call with
  | nextChunk =>
      cases h with
      | json asks none =>
          exact ⟨.json, (nextChunk_asking asks).log, fun _ => iff_of_true rfl fun h => none h.2⟩
      | arrow asks some =>
          exact ⟨.arrow, (nextChunk_asking asks).log,
            fun _ => iff_of_false nofun (not_not_intro ⟨rfl, some⟩)⟩
      | terminated terminal => exact hquiet (terminal_cleans terminal _)
  | nextArrowChunk =>
      have hown : ¬ (CursorCall.nextArrowChunk = .nextChunk ∧ ArrowRequested env past) := nofun
      cases nextArrowChunk_turn hsound with
      | quiet cleans => exact hquiet cleans
      | ended sends terminal => exact ⟨.arrow, sends, fun _ => iff_of_true rfl hown⟩
      | asked sends asks requested => exact ⟨.arrow, sends, fun _ => iff_of_true rfl hown⟩
  | reportArrowChunk decodedRows => exact hquiet (reportArrowChunk_cleans decodedRows c)

variable (env) in
/-- Any calls. -/
theorem phase_run {c₀ : Client} (hsound : c₀.Sound setting) (hasks : Asks .json c₀.session.request)
    (calls : List CursorCall) :
    Phase env ((cursorMachine env).trace c₀ calls) ((cursorMachine env).run c₀ calls).session ∧
      ((cursorMachine env).run c₀ calls).Sound setting ∧
      SendsSince Tidy c₀.log ((cursorMachine env).run c₀ calls).log := by
  have hnone : ¬ ArrowRequested env [] := fun ⟨_, hmem, _⟩ => List.not_mem_nil hmem
  refine (cursorMachine env).history_induction
    (P := fun past c => Phase env past c.session ∧ c.Sound setting ∧ SendsSince Tidy c₀.log c.log)
    ⟨.json hasks hnone, hsound, .refl _ _⟩ (fun past c call h => ?_) calls
  obtain ⟨hphase, hsound, htidy⟩ := h
  obtain ⟨format, hsends, -⟩ := hphase.requests hsound call
  exact ⟨hphase.step hsound call, wp_final.mp (keeps_cursorCall call c hsound),
    htidy.trans (hsends.mono fun _ h => h.tidy)⟩

/-! ## The result -/

/-- Every request of a session asks for the format that is going to be read. -/
structure FormatsMatch (env : QueryEnv) (c₀ : Client) (calls : List CursorCall) : Prop where
  /-- The submission, the polls and the metadata. -/
  prepared : ∀ r ∈ sends c₀.log, r.accept = some Format.json.mediaType
  chunks : ∀ e ∈ (cursorMachine env).trace c₀ calls, ∀ r ∈ issued env e, r.cleanupRequest = false →
    r.accept = some e.input.format.mediaType
  cleanups : ∀ r ∈ sends (cancel env ((cursorMachine env).run c₀ calls)).log,
    r.cleanupRequest = true → r.accept = some Format.json.mediaType

/-- No `NextChunk` requests a chunk after `NextArrowChunk` has requested one. -/
def JsonFirst (env : QueryEnv) (c₀ : Client) (calls : List CursorCall) : Prop :=
  ∀ past e rest, (cursorMachine env).trace c₀ calls = past ++ e :: rest →
    ¬ (e.input = .nextChunk ∧ RequestsChunk env e ∧ ArrowRequested env past)

/-- What `PrepareInternal` sends asks for JSON, however it ends. -/
theorem prepared_asks {fuel : Nat} {sql : Bytes} {credentials : QueryCredentials}
    {metadataOnly : Bool} {options : QueryOptions} {outcome : Outcome QueryError Unit} {c₀ : Client}
    (hprepared : QueryApiV3Client.prepareInternal env fuel sql credentials metadataOnly options {}
      = (outcome, c₀)) :
    SendsSince (Carries .json) [] c₀.log ∧
      (outcome = .ret () → Asks .json c₀.session.request) := by
  have hwp : wp (QueryApiV3Client.prepareInternal env fuel sql credentials metadataOnly options)
      (fun _ => Opens (Client.Asking .json [])) (fun _ c => SendsSince (Carries .json) [] c.log)
      (Client.Asking .json []) {} :=
    prepareRules_asks.wp_prepareInternal fuel
      (fun _ c h => h.cancel (carries_json.mpr (accept_cancellation c.session).1))
      (fun flag now => ⟨⟨_, rfl, nofun⟩, asks_submitRequest sql credentials metadataOnly options⟩)
      fun _ c hunsent _ => ⟨c.log, rfl, by rw [sends_of_quiet hunsent.log]; exact nofun⟩
  have hrun := wp_iff.mp hwp
  cases outcome with
  | ret value =>
      obtain ⟨hopens, -⟩ := hrun.1 value c₀ hprepared
      exact ⟨hopens.log, fun _ => hopens.session⟩
  | raise e => exact ⟨hrun.2.1 e c₀ hprepared, nofun⟩
  | cut => exact ⟨(hrun.2.2 c₀ hprepared).log, nofun⟩

/-- In every run, the formats match exactly when no `NextChunk` requests a chunk
after `NextArrowChunk` has requested one. -/
theorem formats_match_iff {fuel : Nat} {sql : Bytes} {credentials : QueryCredentials}
    {metadataOnly : Bool} {options : QueryOptions} {outcome : Outcome QueryError Unit} {c₀ : Client}
    (hprepared : QueryApiV3Client.prepareInternal env fuel sql credentials metadataOnly options {}
      = (outcome, c₀)) {calls : List CursorCall} (hcalls : outcome = .ret () ∨ calls = []) :
    FormatsMatch env c₀ calls ↔ JsonFirst env c₀ calls := by
  obtain ⟨hsends, hasks⟩ := prepared_asks hprepared
  have hjson : ∀ r ∈ sends c₀.log, r.accept = some Format.json.mediaType := fun r hr =>
    carries_json.mp ((sendsSince_iff.mp hsends).2 r hr)
  have hcalls : SendsSince Tidy c₀.log ((cursorMachine env).run c₀ calls).log ∧
      ∀ past e rest, (cursorMachine env).trace c₀ calls = past ++ e :: rest →
        ∃ format, (∀ r ∈ issued env e, Carries format r) ∧ (RequestsChunk env e →
          (format = e.input.format ↔ ¬ (e.input = .nextChunk ∧ ArrowRequested env past))) := by
    rcases hcalls with rfl | rfl
    · obtain ⟨setting, -, hready⟩ :=
        (wp_iff.mp (wp_prepareInternal fuel sql credentials metadataOnly options)).1 _ _ hprepared
      have hrun := phase_run env hready.working.sound (hasks rfl)
      refine ⟨(hrun calls).2.2, fun past e rest htrace => ?_⟩
      obtain ⟨first, call, second, -, rfl, rfl⟩ := (cursorMachine env).trace_eq_append_cons htrace
      obtain ⟨hphase, hsound, -⟩ := hrun first
      obtain ⟨format, hsends, hformat⟩ := hphase.requests hsound call
      exact ⟨format, (sendsSince_iff.mp hsends).2, hformat⟩
    · exact ⟨.refl _ _, fun past e rest htrace => by simp at htrace⟩
  obtain ⟨htidy, hevents⟩ := hcalls
  constructor
  · rintro hmatch past e rest htrace ⟨hnext, hrequests, harrow⟩
    obtain ⟨format, hcarries, hformat⟩ := hevents past e rest htrace
    obtain ⟨r, hr, hown⟩ := hrequests
    have haccept := hmatch.chunks e (htrace ▸ List.mem_append_right _ List.mem_cons_self) r hr hown
    rw [(hcarries r hr).own hown] at haccept
    exact (hformat ⟨r, hr, hown⟩).mp (mediaType_inj (Option.some.inj haccept)) ⟨hnext, harrow⟩
  · intro hfirst
    refine ⟨hjson, fun e he r hr hown => ?_, fun r hr => ?_⟩
    · obtain ⟨past, rest, htrace⟩ := List.append_of_mem he
      obtain ⟨format, hcarries, hformat⟩ := hevents past e rest htrace
      have hsame := (hformat ⟨r, hr, hown⟩).mpr fun h =>
        hfirst past e rest htrace ⟨h.1, ⟨r, hr, hown⟩, h.2⟩
      rw [← hsame]
      exact (hcarries r hr).own hown
    · obtain ⟨more, hlog, hmore⟩ := htidy.cancel fun _ => (accept_cancellation _).1
      rw [hlog, sends_append] at hr
      rcases List.mem_append.mp hr with hr | hr
      · exact fun _ => hjson r hr
      · exact hmore r hr

/-- Surroundings with a numbered query of two chunks. -/
def twoChunksEnv : QueryEnv :=
  scriptedEnv (fun _ => 0) (fun _ => some { status := 200 }) fun _ => .response
    { state := .complete
      queryId := ascii "q1"
      chunkCount := 2
      hasChunkCount := true
      metadata := [⟨ascii "id", ascii "bigint", false, false, false, 0, 0⟩] }

/-- The query, prepared in them. -/
def twoChunks : Outcome QueryError Unit × Client :=
  QueryApiV3Client.prepareInternal twoChunksEnv 1 (ascii "SELECT 1") sampleCredentials false {} {}

theorem twoChunks_prepared : QueryApiV3Client.prepareInternal twoChunksEnv 1 (ascii "SELECT 1")
    sampleCredentials false {} {} = (.ret (), twoChunks.2) :=
  Prod.ext (by decide +kernel) rfl

/-- A chunk as JSON and then one as Arrow. -/
theorem formats_match_jsonFirst :
    FormatsMatch twoChunksEnv twoChunks.2 [.nextChunk, .nextArrowChunk] := by
  refine (formats_match_iff twoChunks_prepared (.inl rfl)).mpr ?_
  rintro past e rest htrace ⟨hnext, -, other, hmem, -⟩
  obtain ⟨first, call, second, hcalls, rfl, rfl⟩ :=
    (cursorMachine twoChunksEnv).trace_eq_append_cons htrace
  obtain rfl : call = .nextChunk := hnext
  -- the only `NextChunk` is the first call
  match first, hcalls with
  | [], _ => exact List.not_mem_nil hmem
  | [_], hcalls => simp at hcalls
  | _ :: _ :: _, hcalls => simp at hcalls

/-- The other way round, the JSON decoder gets an Arrow chunk. -/
theorem nextChunk_asks_arrow :
    QueryOptions.Valid {} ∧ twoChunks.1 = .ret () ∧
      ¬ FormatsMatch twoChunksEnv twoChunks.2 [.nextArrowChunk,
        .reportArrowChunk 0, .nextChunk] := by
  refine ⟨by decide, by decide +kernel, fun hmatch => ?_⟩
  let last : CursorEvent := (cursorMachine twoChunksEnv).event
    ((cursorMachine twoChunksEnv).run twoChunks.2 [.nextArrowChunk, .reportArrowChunk 0]) .nextChunk
  have hlast : last ∈ (cursorMachine twoChunksEnv).trace twoChunks.2
      [.nextArrowChunk, .reportArrowChunk 0, .nextChunk] := by
    simp [last, Machine.trace, Machine.run]
  have harrow : (issued twoChunksEnv last).any (fun r =>
      !r.cleanupRequest && r.accept == some Format.arrow.mediaType) = true := by
    decide +kernel
  obtain ⟨r, hr, hasks⟩ := List.any_eq_true.mp harrow
  rw [Bool.and_eq_true, Bool.not_eq_true', beq_iff_eq] at hasks
  have haccept := hmatch.chunks last hlast r hr hasks.1
  rw [hasks.2] at haccept
  exact absurd (Option.some.inj haccept) (by decide)

end Data360
