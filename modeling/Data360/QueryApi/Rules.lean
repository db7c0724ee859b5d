import Data360.QueryApi.Log

/-!
# Rules for the operations of a session

A rule for each operation of `Session`, for proofs by `wp` and `Keeps`.

`Ongoing L P` is an invariant of a client: `L` of its log and `P` of its
session.  The `keeps_*` rules say what `L` and `P` must be closed under for an
operation to keep it; with `P` an equation, such a rule says that the session
stays as it is.  `wp_send` is the rule for the one operation that sends.
-/

namespace Data360

open Lib Lib.ByteString Lib.Prog

variable {env : QueryEnv} {α : Type}

/-! ## Interactions -/

section Interactions

variable {E : QueryError → Client → Prop} {C : Client → Prop} {c : Client}

theorem wp_isCancelled {Q : Bool → Client → Prop}
    (hret : ∀ flag,
      env.isCancelled c.log = some flag → Q flag (c.record (.isCancelled (some flag))))
    (hraise : E .hook (c.record (.isCancelled none))) : wp (isCancelled env) Q E C c := by
  unfold wp isCancelled
  cases h : env.isCancelled c.log with
  | none => exact hraise
  | some flag => exact hret flag h

theorem wp_nowMs {Q : UInt64 → Client → Prop}
    (hret : ∀ now, env.nowMs c.log = some now → Q now (c.record (.nowMs (some now))))
    (hraise : E .hook (c.record (.nowMs none))) : wp (nowMs env) Q E C c := by
  unfold wp nowMs
  cases h : env.nowMs c.log with
  | none => exact hraise
  | some now => exact hret now h

theorem wp_sleepMs {Q : Unit → Client → Prop} {milliseconds : UInt64}
    (hret : Q () (c.record (.sleepMs milliseconds true)))
    (hraise : E .hook (c.record (.sleepMs milliseconds false))) :
    wp (sleepMs env milliseconds) Q E C c := by
  unfold wp sleepMs
  cases env.sleepMs c.log milliseconds with
  | false => exact hraise
  | true => exact hret

theorem wp_transportSend {Q : HttpResponse → Client → Prop} {request : HttpRequest}
    (hret : ∀ response, env.send c.log request = some response →
      Q response (c.record (.send request (some response))))
    (hraise : E .hook (c.record (.send request none))) :
    wp (transportSend env request) Q E C c := by
  unfold wp transportSend
  cases h : env.send c.log request with
  | none => exact hraise
  | some response => exact hret response h

theorem wp_codecDecode {Q : QueryResponse → Client → Prop} {response : HttpResponse}
    (hret : ∀ decoded, env.decode c.log response = .response decoded →
      Q decoded (c.record (.decode response (.response decoded))))
    (hreauth : E .reauthRequired (c.record (.decode response .reauthRequired)))
    (hraise : E .hook (c.record (.decode response .failure))) :
    wp (codecDecode env response) Q E C c := by
  unfold wp codecDecode
  cases h : env.decode c.log response with
  | response decoded => exact hret decoded h
  | reauthRequired => exact hreauth
  | failure => exact hraise

@[simp] theorem wp_look {Q : α → Client → Prop} (f : Session → α) :
    wp (Session.look f) Q E C c ↔ Q (f c.session) c := Iff.rfl

@[simp] theorem wp_modify {Q : Unit → Client → Prop} (f : Session → Session) :
    wp (Session.modify f) Q E C c ↔ Q () (c.onSession f) := Iff.rfl

@[simp] theorem onSession_log (f : Session → Session) : (c.onSession f).log = c.log := rfl

@[simp] theorem onSession_session (f : Session → Session) :
    (c.onSession f).session = f c.session := rfl

@[simp] theorem record_log (e : QueryEvent) : (c.record e).log = c.log ++ [e] := rfl

@[simp] theorem record_session (e : QueryEvent) : (c.record e).session = c.session := rfl

end Interactions

/-! ## Operations that send nothing -/

/-- A property of logs that quiet events and readings keep. -/
structure Idle (L : List QueryEvent → Prop) : Prop where
  quiet : ∀ {log e}, L log → e.Quiet → L (log ++ [e])
  reading : ∀ {log now}, L log → ClockRests log → L (log ++ [.nowMs (some now)])

theorem idle_queryLog (setting : Setting) (closed : Option Bytes) :
    Idle (QueryLog setting closed) := ⟨.quiet, .reading⟩

theorem idle_grows (log : List QueryEvent) : Idle (Grows log) :=
  ⟨fun h hquiet => h.concat (sends_quiet hquiet), fun h _ => h.concat rfl⟩

theorem Idle.and {L L' : List QueryEvent → Prop} (h : Idle L) (h' : Idle L') :
    Idle fun log => L log ∧ L' log where
  quiet := fun hlog hquiet => ⟨h.quiet hlog.1 hquiet, h'.quiet hlog.2 hquiet⟩
  reading := fun hlog hsettled => ⟨h.reading hlog.1 hsettled, h'.reading hlog.2 hsettled⟩

/-- `L` of the log and `P` of the session. -/
structure Ongoing (L : List QueryEvent → Prop) (P : Session → Prop) (c : Client) : Prop where
  log : L c.log
  session : P c.session

section Keeps

variable {L : List QueryEvent → Prop} {P : Session → Prop}

theorem Ongoing.quiet (hL : Idle L) {c : Client} (h : Ongoing L P c) {e : QueryEvent}
    (hquiet : e.Quiet) : Ongoing L P (c.record e) := ⟨hL.quiet h.log hquiet, h.session⟩

theorem keeps_look (f : Session → α) : Keeps (Ongoing L P) (Session.look f) := keeps_read _

theorem keeps_modify {f : Session → Session} (h : ∀ s, P s → P (f s)) :
    Keeps (Ongoing L P) (Session.modify f) := fun _ hc => ⟨hc.log, h _ hc.session⟩

theorem keeps_isCancelled (hL : Idle L) : Keeps (Ongoing L P) (isCancelled env) := by
  intro c hc
  exact wp_isCancelled (fun _ _ => hc.quiet hL trivial) (hc.quiet hL trivial)

theorem keeps_sleepMs (hL : Idle L) (milliseconds : UInt64) :
    Keeps (Ongoing L P) (sleepMs env milliseconds) := by
  intro c hc
  exact wp_sleepMs (hc.quiet hL trivial) (hc.quiet hL trivial)

theorem keeps_codecDecode (hL : Idle L) (response : HttpResponse) :
    Keeps (Ongoing L P) (codecDecode env response) := by
  intro c hc
  exact wp_codecDecode (fun _ _ => hc.quiet hL trivial) (hc.quiet hL trivial)
    (hc.quiet hL trivial)

theorem keeps_checkCancelled (hL : Idle L) : Keeps (Ongoing L P) (Session.checkCancelled env) :=
  keeps_bind (keeps_isCancelled hL) fun _ => keeps_raiseIf _ _

/-- When `CheckActive` returns, the last event is a reading of the clock before
the deadline. -/
theorem wp_checkActive (hL : Idle L) {c : Client} (h : Ongoing L P c) :
    wp (Session.checkActive env)
      (fun _ c' => Ongoing L P c' ∧ c'.session = c.session ∧
        ∃ log now, c'.log = log ++ [.nowMs (some now)] ∧
          now - c.session.startedAtMs < c.session.options.overallTimeoutMs)
      (fun _ c' => Ongoing L P c') (fun _ => False) c := by
  rw [Session.checkActive, wp_bind, Session.checkCancelled, wp_bind]
  refine wp_isCancelled (fun flag _ => ?_) (h.quiet hL trivial)
  have hflag : Ongoing L P (c.record (.isCancelled (some flag))) := h.quiet hL trivial
  rw [wp_raiseIf]
  refine ⟨fun _ => hflag, fun _ => ?_⟩
  rw [Session.checkDeadline, wp_bind]
  refine wp_nowMs (fun now _ => ?_) (hflag.quiet hL trivial)
  have hsettled := clockRests_concat c.log (e := .isCancelled (some flag)) (by simp)
  have hnow : Ongoing L P ((c.record (.isCancelled (some flag))).record (.nowMs (some now))) :=
    ⟨hL.reading hflag.log hsettled, h.session⟩
  rw [wp_bind, wp_look, wp_raiseIf]
  exact ⟨fun _ => hnow, fun hlate => ⟨hnow, rfl, _, now, rfl, UInt64.not_le.mp hlate⟩⟩

/-- When `CheckActive` returns, it found no cancellation and a time before the
deadline. -/
theorem wp_checkActive_returns (c : Client) :
    wp (Session.checkActive env)
      (fun _ c' => ∃ now, c' = (c.record (.isCancelled (some false))).record (.nowMs (some now)) ∧
        env.isCancelled c.log = some false ∧
        env.nowMs (c.log ++ [.isCancelled (some false)]) = some now ∧
        now - c.session.startedAtMs < c.session.options.overallTimeoutMs)
      (fun _ _ => True) (fun _ => False) c := by
  rw [Session.checkActive, wp_bind, Session.checkCancelled, wp_bind]
  refine wp_isCancelled (fun flag hcancelled => ?_) trivial
  rw [wp_raiseIf]
  refine ⟨fun _ => trivial, fun hflag => ?_⟩
  rw [Bool.not_eq_true] at hflag
  rw [hflag] at hcancelled ⊢
  rw [Session.checkDeadline, wp_bind]
  refine wp_nowMs (fun now hnow => ?_) trivial
  rw [wp_bind, wp_look, wp_raiseIf]
  exact ⟨fun _ => trivial, fun hlate => ⟨now, rfl, hcancelled, hnow, UInt64.not_le.mp hlate⟩⟩

theorem keeps_checkActive (hL : Idle L) : Keeps (Ongoing L P) (Session.checkActive env) := by
  intro c hc
  exact wp_mono (wp_checkActive hL hc) (fun _ _ h => h.1) (fun _ _ h => h) fun _ h => h.elim

theorem keeps_decode (hL : Idle L) (response : HttpResponse) :
    Keeps (Ongoing L P) (Session.decode env response) := by
  have hother : Keeps (Ongoing L P) (do
      Session.checkCancelled env
      raise (.runtimeError "Data 360 response decoding failed") : Query QueryResponse) :=
    keeps_bind (keeps_checkCancelled hL) fun _ => keeps_raise _
  refine keeps_catchAll (keeps_codecDecode hL response) fun e => ?_
  cases e with
  | reauthRequired => exact keeps_raise _
  | logicError => exact hother
  | invalidArgument => exact hother
  | runtimeError => exact hother
  | hook => exact hother

/-- What `NextArrowChunk` does with a response that is no success. -/
theorem keeps_arrowFailed (hL : Idle L) (response : HttpResponse) :
    Keeps (Ongoing L P) (QueryCursor.arrowFailed env response) := by
  refine keeps_bind (keeps_catchAll (keeps_codecDecode hL response) fun e => ?_)
    fun _ => keeps_raise _
  cases e with
  | reauthRequired => exact keeps_raise _
  | logicError => exact keeps_pure _
  | invalidArgument => exact keeps_pure _
  | runtimeError => exact keeps_pure _
  | hook => exact keeps_pure _

/-- What `Decode` returns, the codec has decoded just now. -/
theorem wp_decode_returns (response : HttpResponse) (c : Client) :
    wp (Session.decode env response)
      (fun decoded c' => c' = c.record (.decode response (.response decoded))) (fun _ _ => True)
      (fun _ => True) c := by
  have hother : ∀ c' : Client, wp (do
      Session.checkCancelled env
      raise (.runtimeError "Data 360 response decoding failed") : Query QueryResponse)
      (fun decoded c' => c' = c.record (.decode response (.response decoded))) (fun _ _ => True)
      (fun _ => True) c' := by
    intro c'
    rw [wp_bind]
    exact wp_iff.mpr ⟨fun _ _ _ => trivial, fun _ _ _ => trivial, fun _ _ => trivial⟩
  rw [Session.decode, wp_catchAll]
  exact wp_codecDecode (fun _ _ => rfl) trivial (hother _)

/-- What `Decode` leaves in the log. -/
theorem wp_decode_log (response : HttpResponse) (c : Client) :
    wp (Session.decode env response)
      (fun decoded c' => c' = c.record (.decode response (.response decoded)))
      (fun _ c' => c'.session = c.session ∧ ∃ answer tail, (∀ decoded, answer ≠ .response decoded) ∧
        sends tail = [] ∧ c'.log = c.log ++ .decode response answer :: tail)
      (fun _ => False) c := by
  rw [Session.decode, wp_catchAll]
  refine wp_codecDecode (fun _ _ => rfl) ?_ ?_
  · exact ⟨rfl, .reauthRequired, [], by simp, rfl, rfl⟩
  · rw [Session.decodeFailed, wp_bind, Session.checkCancelled, wp_bind]
    · refine wp_isCancelled (fun flag _ => ?_) ?_
      · have hlast : (c.record (.decode response .failure)).log ++ [.isCancelled (some flag)]
            = c.log ++ .decode response .failure :: [.isCancelled (some flag)] := by simp
        rw [wp_raiseIf]
        exact ⟨fun _ => ⟨rfl, .failure, _, by simp, rfl, hlast⟩,
          fun _ => ⟨rfl, .failure, _, by simp, rfl, hlast⟩⟩
      · exact ⟨rfl, .failure, [.isCancelled none], by simp, rfl, by simp⟩
    · simp

/-! ## Sending -/

/-- A property of logs that looks at the flag and at the clock keep. -/
structure Looks (L : List QueryEvent → Prop) : Prop where
  flag : ∀ {log answer}, L log → L (log ++ [.isCancelled answer])
  clock : ∀ {log answer}, L log → L (log ++ [.nowMs answer])

theorem keeps_checkActive_looks (hL : Looks L) : Keeps (Ongoing L P) (Session.checkActive env) := by
  intro c hc
  rw [Session.checkActive, wp_bind, Session.checkCancelled, wp_bind]
  refine wp_isCancelled (fun flag _ => ?_) ⟨hL.flag hc.log, hc.session⟩
  have hflag : L (c.log ++ [.isCancelled (some flag)]) := hL.flag hc.log
  rw [wp_raiseIf]
  refine ⟨fun _ => ⟨hflag, hc.session⟩, fun _ => ?_⟩
  rw [Session.checkDeadline, wp_bind]
  refine wp_nowMs (fun now _ => ?_) ⟨hL.clock hflag, hc.session⟩
  rw [wp_bind, wp_look, wp_raiseIf]
  exact ⟨fun _ => ⟨hL.clock hflag, hc.session⟩, fun _ => ⟨hL.clock hflag, hc.session⟩⟩

/-- The handler of a transport that threw throws. -/
theorem wp_transportFailed (c : Client) :
    wp (Session.transportFailed env) (fun _ _ => False) (fun _ _ => True) (fun _ => False) c := by
  have hidle : Idle fun _ => True := ⟨fun _ _ => trivial, fun _ _ => trivial⟩
  have hstart : Ongoing (fun _ => True) (fun _ => True) c := ⟨trivial, trivial⟩
  rw [Session.transportFailed, wp_bind]
  exact wp_mono (wp_checkActive hidle hstart) (fun _ _ _ => trivial) (fun _ _ _ => trivial)
    fun _ h => h

/-- What `Session::Send` does to the session. -/
def Sent (s s' : Session) : Prop :=
  ∃ timeoutMs maxResponseBytes total,
    s' = { s with
      request := { s.request with timeoutMs, maxResponseBytes }
      totalResponseBytes := total }

theorem SessionRequest.limited {setting : Setting} {r : HttpRequest} (h : SessionRequest setting r)
    (timeoutMs maxResponseBytes : UInt64) :
    SessionRequest setting { r with timeoutMs, maxResponseBytes } :=
  ⟨h.url, h.followRedirects, h.cleanupRequest, h.method⟩

/-- `Session::Send` sends the session's request, in its limits, and nothing
else.  The log stays one of a session. -/
theorem wp_send {setting : Setting} {c : Client} (hsetting : c.session.setting = setting)
    (hrequest : SessionRequest setting c.session.request) (hlog : QueryLog setting none c.log) :
    wp (Session.send env)
      (fun response c' => QueryLog setting none c'.log ∧ Sent c.session c'.session ∧
        ∃ log, Grows c.log log ∧ c'.log = log ++ [.send c'.session.request (some response)])
      (fun _ c' => QueryLog setting none c'.log ∧ Sent c.session c'.session)
      (fun _ => False) c := by
  have hidle := (idle_queryLog setting none).and (idle_grows c.log)
  have hsame : Sent c.session c.session :=
    ⟨c.session.request.timeoutMs, c.session.request.maxResponseBytes,
      c.session.totalResponseBytes, rfl⟩
  have hstart : Ongoing (fun log => QueryLog setting none log ∧ Grows c.log log)
      (· = c.session) c := ⟨⟨hlog, .refl _⟩, rfl⟩
  rw [Session.send, wp_bind]
  refine wp_mono (wp_checkActive hidle hstart) ?_ ?_ fun _ h => h
  · intro _ c₁ hactive
    obtain ⟨⟨⟨hlog₁, hgrows₁⟩, hsession₁⟩, -, log, first, hfirst, hintime⟩ := hactive
    obtain ⟨session, log₁⟩ := c₁
    obtain rfl : session = c.session := hsession₁
    rw [wp_bind]
    refine wp_nowMs (fun second _ => ?_) ⟨hlog₁.quiet trivial, hsame⟩
    rw [wp_bind, wp_look, wp_bind, wp_modify, wp_bind, wp_look, wp_bind, wp_catchAll]
    -- the request that is sent, and the log with it
    let limited := c.session.limitedRequest second
    have hlimited : SessionRequest setting limited := hrequest.limited _ _
    have htimed : Timed setting first second limited := by
      rw [← hsetting]
      exact ⟨hintime, rfl⟩
    have hsent : ∀ answer, QueryLog setting none
        (log₁ ++ [.nowMs (some second)] ++ [.send limited answer]) := by
      intro answer
      rw [show log₁ = _ from hfirst] at hlog₁ ⊢
      exact .request hlog₁ hlimited htimed
    have hgrows : Grows c.log (log₁ ++ [.nowMs (some second)]) := hgrows₁.concat rfl
    have hsession : ∀ total, Sent c.session
        { c.session with request := limited, totalResponseBytes := total } :=
      fun total => ⟨_, _, total, rfl⟩
    refine wp_transportSend (fun response _ => ?_) ?_
    · rw [wp_bind]
      refine (wp_raiseIf _ _).mpr ⟨fun _ => ⟨hsent _, hsession _⟩, fun _ => ?_⟩
      exact ⟨hsent _, hsession _, _, hgrows, rfl⟩
    · have hfailed : Keeps (Ongoing (QueryLog setting none) (Sent c.session))
          (Session.transportFailed env) :=
        keeps_bind (keeps_checkActive (idle_queryLog setting none)) fun _ => keeps_raise _
      refine wp_mono (wp_and (hfailed _ ?_) (wp_transportFailed _)) (fun _ _ h => h.2.elim)
        (fun _ _ h => ⟨h.1.log, h.1.session⟩) fun _ h => h.2
      exact ⟨hsent none, hsession _⟩
  · intro e c' hfailed
    exact ⟨hfailed.log.1, hfailed.session ▸ hsame⟩

/-- What a `Send` that throws leaves in the log: no request, or a response that
is refused, or a request without response. -/
inductive SendFails (L : List QueryEvent → Prop) : List QueryEvent → Prop
  | unsent {log : List QueryEvent} (before : L log) : SendFails L log
  | refused {log : List QueryEvent} {r : HttpRequest} {response : HttpResponse} (before : L log) :
      SendFails L (log ++ [.send r (some response)])
  | failed {log tail : List QueryEvent} {r : HttpRequest} (before : L log)
      (silent : sends tail = []) : SendFails L (log ++ .send r none :: tail)

/-- What `Send` leaves in the log. -/
theorem wp_send_log (hL : Looks L) (hP : ∀ s s', P s → Sent s s' → P s') {c : Client}
    (h : Ongoing L P c) :
    wp (Session.send env)
      (fun response c' => P c'.session ∧
        ∃ log, L log ∧ c'.log = log ++ [.send c'.session.request (some response)])
      (fun _ => Ongoing (SendFails L) P) (fun _ => False) c := by
  have htrue : Idle fun _ => True := ⟨fun _ _ => trivial, fun _ _ => trivial⟩
  have hstart : Ongoing (fun _ => True) (fun _ => True) c := ⟨trivial, trivial⟩
  rw [Session.send, wp_bind]
  refine wp_mono (wp_and (keeps_checkActive_looks hL c h) (wp_checkActive htrue hstart)) ?_
    (fun _ _ h => ⟨.unsent h.1.log, h.1.session⟩) fun _ h => h.2
  intro _ c₁ hactive
  obtain ⟨h₁, -⟩ := hactive
  rw [wp_bind]
  refine wp_nowMs (fun now _ => ?_) ⟨.unsent (hL.clock h₁.log), h₁.session⟩
  rw [wp_bind, wp_look, wp_bind, wp_modify, wp_bind, wp_look, wp_bind, wp_catchAll]
  have hlog : L (c₁.log ++ [.nowMs (some now)]) := hL.clock h₁.log
  have hsession : P { c₁.session with request := c₁.session.limitedRequest now } :=
    hP _ _ h₁.session ⟨_, _, _, rfl⟩
  refine wp_transportSend (fun response _ => ?_) ?_
  · rw [wp_bind, wp_raiseIf]
    refine ⟨fun _ => ⟨.refused hlog, hsession⟩, fun _ => ?_⟩
    rw [wp_bind, wp_modify]
    exact ⟨hP _ _ h₁.session ⟨_, _, _, rfl⟩, _, hlog, rfl⟩
  · -- the request stays without response
    let sent := c₁.log ++ [.nowMs (some now)] ++ [.send (c₁.session.limitedRequest now) none]
    have hlooks : Looks (Grows sent) := ⟨fun h => h.concat rfl, fun h => h.concat rfl⟩
    have hfailed : Keeps (Ongoing (Grows sent) P) (Session.transportFailed env) :=
      keeps_bind (keeps_checkActive_looks hlooks) fun _ => keeps_raise _
    refine wp_mono (wp_and (hfailed _ ⟨.refl _, hsession⟩) (wp_transportFailed _))
      (fun _ _ h => h.2.elim) (fun _ c₂ h => ?_) fun _ h => h.2
    obtain ⟨⟨tail, hlog₂, htail⟩, hsession₂⟩ := h.1
    rw [show sent ++ tail = (c₁.log ++ [.nowMs (some now)])
      ++ .send (c₁.session.limitedRequest now) none :: tail by simp [sent]] at hlog₂
    exact ⟨hlog₂ ▸ .failed hlog htail, hsession₂⟩

/-- What `Session::Send` relies on, and what it does to the session. -/
structure Sendable (setting : Setting) (P : Session → Prop) : Prop where
  constant : ∀ s, P s → s.setting = setting
  request : ∀ s, P s → SessionRequest setting s.request
  sent : ∀ s s', P s → Sent s s' → P s'

theorem keeps_send {setting : Setting} (hP : Sendable setting P) :
    Keeps (Ongoing (QueryLog setting none) P) (Session.send env) := by
  intro c hc
  refine wp_mono (wp_send (hP.constant _ hc.session) (hP.request _ hc.session) hc.log)
    (fun _ c' h => ⟨h.1, ?_⟩) (fun _ c' h => ⟨h.1, ?_⟩) fun _ h => h.elim
  · exact hP.sent _ _ hc.session h.2.1
  · exact hP.sent _ _ hc.session h.2

/-- A property of logs that lasts while only requests in `R` are sent. -/
def LastingOn (R : HttpRequest → Prop) (L : List QueryEvent → Prop) : Prop :=
  ∀ log e, (∀ r, e.sent = some r → R r) → L log → L (log ++ [e])

theorem LastingOn.idle {R : HttpRequest → Prop} (hL : LastingOn R L) : Idle L where
  quiet := fun h hquiet => by
    refine hL _ _ (fun r hr => ?_) h
    have hnone := sends_quiet hquiet
    rw [sends, List.filterMap_cons_some hr] at hnone
    cases hnone
  reading := fun h _ => hL _ _ (fun _ hr => by cases hr) h

/-- What holds of every request lasts while only such requests are sent. -/
theorem lastingOn_sends (R : HttpRequest → Prop) : LastingOn R fun log => ∀ r ∈ sends log, R r := by
  intro log e he h r hr
  rw [sends_append] at hr
  rcases List.mem_append.mp hr with hr | hr
  · exact h r hr
  · obtain ⟨e', he', hsent⟩ := List.mem_filterMap.mp hr
    rw [List.mem_singleton.mp he'] at hsent
    exact he r hsent

/-- Sending keeps what lasts while the session's request is sent. -/
theorem keeps_send_on {R : HttpRequest → Prop} (hL : LastingOn R L)
    (hR : ∀ s, P s → R s.request) (hP : ∀ s s', P s → Sent s s' → P s') :
    Keeps (Ongoing L P) (Session.send env) := by
  have hactive : Keeps (Ongoing L P) (Session.checkActive env) :=
    keeps_checkActive (LastingOn.idle hL)
  have hnow : Keeps (Ongoing L P) (nowMs env) := by
    intro c hc
    exact wp_nowMs (fun _ _ => ⟨hL _ _ (fun _ hr => by cases hr) hc.log, hc.session⟩)
      ⟨hL _ _ (fun _ hr => by cases hr) hc.log, hc.session⟩
  have htransport : ∀ request, R request → Keeps (Ongoing L P) (transportSend env request) := by
    intro request hrequest c hc
    exact wp_transportSend
      (fun _ _ => ⟨hL _ _ (fun _ hr => by cases hr; exact hrequest) hc.log, hc.session⟩)
      ⟨hL _ _ (fun _ hr => by cases hr; exact hrequest) hc.log, hc.session⟩
  refine keeps_bind hactive fun _ => keeps_bind hnow fun now => keeps_bind (keeps_look _) fun _ =>
    keeps_bind (keeps_modify fun s h => hP s _ h ⟨_, _, _, rfl⟩) fun _ => ?_
  -- the request that is sent is the one of the session
  intro c hc
  rw [wp_bind, wp_look]
  refine keeps_bind (keeps_catchAll (htransport _ (hR _ hc.session)) fun _ =>
    keeps_bind hactive fun _ => keeps_raise _) (fun _ => keeps_bind (keeps_raiseIf _ _) fun _ =>
    keeps_bind (keeps_modify fun s h => hP s _ h ⟨_, _, _, rfl⟩) fun _ => keeps_pure _) c hc

/-- A property of logs that lasts. -/
def Lasting (L : List QueryEvent → Prop) : Prop := ∀ log e, L log → L (log ++ [e])

theorem Lasting.on (hL : Lasting L) : LastingOn (fun _ => True) L := fun _ _ _ h => hL _ _ h

theorem Lasting.idle (hL : Lasting L) : Idle L := LastingOn.idle (Lasting.on hL)

theorem lasting_true : Lasting fun _ => True := fun _ _ _ => trivial

/-- Sending keeps what lasts, and what does not depend on the request. -/
theorem keeps_send_lasting (hL : Lasting L)
    (hP : ∀ s request total, P s → P { s with request, totalResponseBytes := total }) :
    Keeps (Ongoing L P) (Session.send env) := by
  refine keeps_send_on (Lasting.on hL) (fun _ _ => trivial) fun s s' h hsent => ?_
  obtain ⟨_, _, _, rfl⟩ := hsent
  exact hP s _ _ h

theorem keeps_sendDecode_lasting (hL : Lasting L)
    (hP : ∀ s request total, P s → P { s with request, totalResponseBytes := total }) :
    Keeps (Ongoing L P) (do
      let response ← Session.send env
      Session.decode env response) :=
  keeps_bind (keeps_send_lasting hL hP) fun response => keeps_decode hL.idle response

end Keeps

/-! ## The id -/

/-- How a response may change the id of the session. -/
structure Learns (old : Bytes) (response : QueryResponse) (new : Bytes) : Prop where
  kept : old ≠ [] → new = old
  safe : new = old ∨ isSafeQueryId new = true
  anonymous : response.queryId = [] → isSafeChunkPath response.chunk.nextUrl = false → new = old

/-- How a response that passes `RememberQueryId` changes it. -/
structure Learned (old : Bytes) (response : QueryResponse) (new : Bytes) : Prop
    extends Learns old response new where
  own : response.queryId ≠ [] → new = response.queryId
  path : isSafeChunkPath response.chunk.nextUrl = true →
    new = queryIdFromChunkPath response.chunk.nextUrl

theorem wp_rememberOwnId (response : QueryResponse) (c : Client) :
    wp (Session.rememberOwnId response)
      (fun _ c' => ∃ id, c' = c.onSession (fun s => { s with queryId := id }) ∧
        (c.session.queryId ≠ [] → id = c.session.queryId) ∧
        (id = c.session.queryId ∨ isSafeQueryId id = true) ∧
        (response.queryId = [] → id = c.session.queryId) ∧
        (response.queryId ≠ [] → id = response.queryId))
      (fun _ c' => c' = c) (fun _ => False) c := by
  unfold Session.rememberOwnId
  split
  · rename_i hempty
    exact ⟨c.session.queryId, rfl, fun _ => rfl, .inl rfl, fun _ => rfl, fun h => (h hempty).elim⟩
  · rename_i hown
    rw [wp_bind, wp_raiseIf]
    refine ⟨fun _ => rfl, fun hsafe => ?_⟩
    rw [wp_bind, wp_look, wp_bind, wp_raiseIf]
    refine ⟨fun _ => rfl, fun hsame => ?_⟩
    rw [wp_modify]
    refine ⟨response.queryId, rfl, fun hold => ?_, .inr (Decidable.not_not.mp hsafe),
      fun h => (hown h).elim, fun _ => rfl⟩
    by_contra hne
    exact hsame ⟨hold, hne⟩

/-- `RememberQueryId` changes nothing but the id. -/
theorem wp_rememberQueryId (response : QueryResponse) (c : Client) :
    wp (Session.rememberQueryId response)
      (fun _ c' => ∃ id, c' = c.onSession (fun s => { s with queryId := id }) ∧
        Learned c.session.queryId response id)
      (fun _ c' => ∃ id, c' = c.onSession (fun s => { s with queryId := id }) ∧
        Learns c.session.queryId response id)
      (fun _ => False) c := by
  rw [Session.rememberQueryId, wp_bind]
  refine wp_mono (wp_rememberOwnId response c) ?_ ?_ fun _ h => h
  · intro _ c₁ hown
    obtain ⟨id, rfl, hkept, hsafe, hnone, hid⟩ := hown
    unfold Session.rememberPathId
    split
    · rename_i hpath
      have hlearns : Learns c.session.queryId response id :=
        ⟨hkept, hsafe, fun h _ => hnone h⟩
      rw [wp_bind, wp_look, wp_bind, wp_raiseIf]
      refine ⟨fun _ => ⟨id, rfl, hlearns⟩, fun hsame => ?_⟩
      rw [wp_modify]
      by_cases hempty : id = []
      · subst hempty
        obtain ⟨_, hnext, -⟩ := chunkPath_form hpath
        refine ⟨queryIdFromChunkPath response.chunk.nextUrl, by simp [Client.onSession],
          ⟨fun hold => (hold (hkept hold).symm).elim, .inr hnext,
            fun _ h => by rw [hpath] at h; cases h⟩, fun h => (h (hid h).symm).elim, fun _ => rfl⟩
      · have hsame' : queryIdFromChunkPath response.chunk.nextUrl = id := by
          by_contra hne
          exact hsame ⟨hempty, hne⟩
        exact ⟨id, by simp [Client.onSession, hempty], hlearns, hid, fun _ => hsame'.symm⟩
    · rename_i hpath
      exact ⟨id, rfl, ⟨hkept, hsafe, fun h _ => hnone h⟩, hid, fun h => (hpath h).elim⟩
  · intro _ c' hsame
    exact ⟨c.session.queryId, hsame, fun _ => rfl, .inl rfl, fun _ _ => rfl⟩

/-- It keeps what does not depend on the id. -/
theorem keeps_remember {L : List QueryEvent → Prop} {P : Session → Prop}
    (hP : ∀ s id, P s → P { s with queryId := id }) (response : QueryResponse) :
    Keeps (Ongoing L P) (Session.rememberQueryId response) := by
  intro c hc
  refine wp_mono (wp_rememberQueryId response c) ?_ ?_ fun _ h => h.elim
  · rintro _ _ ⟨id, rfl, -⟩
    exact ⟨hc.log, hP _ id hc.session⟩
  · rintro _ _ ⟨id, rfl, -⟩
    exact ⟨hc.log, hP _ id hc.session⟩

/-! ## Accepting a chunk -/

/-- What `Session::Accept` finds out about a chunk. -/
structure Accepts (s : Session) (chunk : ResultChunk) : Prop where
  fits : chunk.rows.length ≤ (s.options.maxRows - min s.rows s.options.maxRows).toNat
  expected : s.hasExpectedRows = true →
    chunk.rows.length ≤ (s.expectedRows - min s.rows s.expectedRows).toNat
  widths : ∀ row ∈ chunk.rows, row.length = s.metadata.length

theorem wp_acceptRows (rows : List (List Cell)) (c : Client) :
    wp (Session.acceptRows rows)
      (fun _ c' => (∃ cells, c' = c.onSession fun s => { s with cells }) ∧
        ∀ row ∈ rows, row.length = c.session.metadata.length)
      (fun _ c' => ∃ cells, c' = c.onSession fun s => { s with cells }) (fun _ => False) c := by
  induction rows generalizing c with
  | nil => exact ⟨⟨c.session.cells, rfl⟩, by simp⟩
  | cons row rest ih =>
      rw [Session.acceptRows, wp_bind, Session.acceptRow]
      simp only [wp_bind, wp_look, wp_raiseIf, wp_modify]
      refine ⟨fun _ => ⟨c.session.cells, rfl⟩, fun hwidth => ⟨fun _ => ⟨c.session.cells, rfl⟩,
        fun _ => ?_⟩⟩
      refine wp_mono (ih _) (fun _ c' h => ?_) (fun _ c' h => ?_) fun _ h => h
      · obtain ⟨⟨cells, hc'⟩, hrest⟩ := h
        exact ⟨⟨cells, hc'⟩, List.forall_mem_cons.mpr ⟨Decidable.not_not.mp hwidth, hrest⟩⟩
      · obtain ⟨cells, hc'⟩ := h
        exact ⟨cells, hc'⟩

/-- `Accept` hands out the chunk of the response and counts it, or changes
nothing but the number of cells. -/
theorem wp_accept (response : QueryResponse) (c : Client) :
    wp (Session.accept response)
      (fun chunk c' => chunk = response.chunk ∧ Accepts c.session chunk ∧ ∃ cells,
        c' = c.onSession fun s => { s with
          cells
          rows := s.rows + UInt64.ofNat chunk.rows.length
          fetchedChunks := s.fetchedChunks + 1 })
      (fun _ c' => ∃ cells, c' = c.onSession fun s => { s with cells }) (fun _ => False) c := by
  have hsame : ∃ cells, c = c.onSession fun s => { s with cells } := ⟨c.session.cells, rfl⟩
  rw [Session.accept, wp_bind, Session.acceptChecks]
  simp only [wp_bind, wp_look, wp_raiseIf, id_eq]
  refine ⟨fun _ => hsame, fun _ => ⟨fun _ => hsame, fun _ => ⟨fun _ => hsame, fun _ =>
    ⟨fun _ => hsame, fun _ => ⟨fun _ => hsame, fun hfits => ?_⟩⟩⟩⟩⟩
  refine wp_mono (wp_acceptRows response.chunk.rows c) ?_ (fun _ _ h => h) fun _ h => h
  intro _ c' hrows
  obtain ⟨⟨cells, rfl⟩, hwidths⟩ := hrows
  refine ⟨fun _ => ⟨cells, rfl⟩, fun hexpected => ?_⟩
  refine ⟨rfl, ⟨Nat.not_lt.mp hfits, fun hhas => ?_, hwidths⟩, cells, rfl⟩
  by_contra hmore
  exact hexpected ⟨hhas, Nat.not_le.mp hmore⟩

/-- It keeps what does not depend on the counters. -/
theorem keeps_accept {L : List QueryEvent → Prop} {P : Session → Prop}
    (hP : ∀ s cells rows fetchedChunks, P s → P { s with cells, rows, fetchedChunks })
    (response : QueryResponse) : Keeps (Ongoing L P) (Session.accept response) := by
  intro c hc
  refine wp_mono (wp_accept response c) ?_ ?_ fun _ h => h.elim
  · rintro _ _ ⟨-, -, cells, rfl⟩
    exact ⟨hc.log, hP _ _ _ _ hc.session⟩
  · rintro _ _ ⟨cells, rfl⟩
    exact ⟨hc.log, hP _ cells c.session.rows c.session.fetchedChunks hc.session⟩

/-- Handing out a chunk keeps what depends neither on them nor on the id or the next page. -/
theorem keeps_deliver_of {L : List QueryEvent → Prop} {P : Session → Prop} (hL : Idle L)
    (hid : ∀ s id, P s → P { s with queryId := id })
    (hcounters : ∀ s cells rows fetchedChunks, P s → P { s with cells, rows, fetchedChunks })
    (hnext : ∀ s url, P s → P { s with nextUrl := url }) (response : QueryResponse) :
    Keeps (Ongoing L P) (QueryCursor.deliver env response) := by
  refine keeps_bind (keeps_remember hid response) fun _ => keeps_bind (keeps_checkActive hL)
    fun _ => keeps_bind (keeps_accept hcounters response) fun accepted =>
    keeps_bind (keeps_modify fun s h => ?_) fun _ => keeps_pure _
  unfold QueryCursor.follow
  split
  · exact hnext s _ h
  · exact h

/-! ## The end -/

/-- What `Session::Finish` asks for. -/
structure Reconciles (s : Session) : Prop where
  chunks : s.mode = .numberedV3 → s.hasExpectedChunks = true → s.fetchedChunks = s.expectedChunks
  rows : s.hasExpectedRows = true → s.rows = s.expectedRows
  chain : s.mode = .directLegacy → s.nextUrl = []

theorem wp_finish (c : Client) :
    wp Session.finish
      (fun _ c' => Reconciles c.session ∧
        c' = c.onSession fun s => { s with reconciled := true, terminal := true })
      (fun _ c' => c' = c ∧ ¬ Reconciles c.session) (fun _ => False) c := by
  unfold Session.finish
  simp only [wp_bind, wp_look, wp_raiseIf, wp_modify, id_eq]
  refine ⟨fun hchunks => ⟨trivial, fun h => ?_⟩,
    fun hchunks => ⟨fun hrows => ⟨trivial, fun h => ?_⟩,
    fun hrows => ⟨fun hchain => ⟨trivial, fun h => ?_⟩, fun hchain => ⟨⟨?_, ?_, ?_⟩, trivial⟩⟩⟩⟩
  · exact hchunks.2.2 (h.chunks hchunks.1 hchunks.2.1)
  · exact hrows.2 (h.rows hrows.1)
  · exact hchain.2 (h.chain hchain.1)
  · intro hmode hhas
    by_contra hne
    exact hchunks ⟨hmode, hhas, hne⟩
  · intro hhas
    by_contra hne
    exact hrows ⟨hhas, hne⟩
  · intro hmode
    by_contra hne
    exact hchain ⟨hmode, hne⟩

/-- `return session.Finish();` ends a session that is reconciled, and leaves any
other as it is. -/
theorem wp_finished_of {α : Type} {Q : Option α → Client → Prop}
    {E : QueryError → Client → Prop} {C : Client → Prop} {c : Client}
    (returns : Reconciles c.session →
      Q none (c.onSession fun s => { s with reconciled := true, terminal := true }))
    (throws : ∀ e, ¬ Reconciles c.session → E e c) :
    wp (QueryCursor.finished : Query (Option α)) Q E C c := by
  rw [QueryCursor.finished, wp_bind]
  refine wp_mono (wp_finish c) (fun _ _ h => ?_) (fun e _ h => ?_) fun _ h => h.elim
  · obtain ⟨hreconciles, rfl⟩ := h
    exact returns hreconciles
  · obtain ⟨rfl, hbroken⟩ := h
    exact throws e hbroken

end Data360
