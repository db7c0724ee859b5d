import Data360.QueryApi.Cursor

/-!
# The log of a session

`QueryLog` is the grammar of what a session does to its surroundings: it
looks at the flag and the clock, it sends a request right after two readings
of the clock, and it sends at most one cleanup request, after which it sends
nothing.

* `QueryLog.sends_open` and `QueryLog.sends_closed` list the requests of a log
  without and with a cleanup request.
* `QueryLog.request_split` says what stands before a request, and
  `QueryLog.readings_split` what stands behind two readings in a row.
-/

namespace Data360

open Lib Lib.ByteString Lib.Prog

/-! ## Requests -/

/-- What never changes in the life of a session. -/
structure Setting where
  options : QueryOptions
  credentials : QueryCredentials
  startedAtMs : UInt64

/-- The setting of a session. -/
def Session.setting (s : Session) : Setting := ⟨s.options, s.credentials, s.startedAtMs⟩

/-- The origin of the tenant. -/
def Setting.origin (setting : Setting) : Bytes :=
  trimTrailingSlash setting.credentials.instanceUrl

/-- The paths of the Query API. -/
inductive QueryTarget : Bytes → Prop
  | submit : QueryTarget (ascii "/api/v3/query")
  | query {id : Bytes} (isId : QueryId id) : QueryTarget (queryPath ++ id)
  | metadata {id : Bytes} (isId : QueryId id) :
      QueryTarget (queryPath ++ id ++ ascii "/metadata")
  | chunk {id digits : Bytes} (isId : QueryId id) (nonempty : digits ≠ [])
      (isDigits : ∀ c ∈ digits, isDigit c = true) :
      QueryTarget (queryPath ++ id ++ chunksSeparator ++ digits)

/-- A request of the session that is no cleanup. -/
structure SessionRequest (setting : Setting) (r : HttpRequest) : Prop where
  url : ∃ path, QueryTarget path ∧ r.url = setting.origin ++ path
  followRedirects : r.followRedirects = false
  cleanupRequest : r.cleanupRequest = false
  method : r.method = ascii "POST" ∨ r.method = ascii "GET"

/-- The cleanup request of the query `id`. -/
structure Cleanup (setting : Setting) (id : Bytes) (r : HttpRequest) : Prop where
  safe : isSafeQueryId id = true
  method : r.method = ascii "DELETE"
  url : r.url = setting.origin ++ queryPath ++ id
  cleanupRequest : r.cleanupRequest = true
  timeoutMs : r.timeoutMs = setting.options.cleanupTimeoutMs
  followRedirects : r.followRedirects = false

/-- The limits of a request that is built between the readings `first` and
`second`. -/
structure Timed (setting : Setting) (first second : UInt64) (r : HttpRequest) : Prop where
  active : first - setting.startedAtMs < setting.options.overallTimeoutMs
  timeoutMs : r.timeoutMs = min setting.options.requestTimeoutMs
    (setting.options.overallTimeoutMs - (second - setting.startedAtMs))

/-! ## The grammar -/

/-- An event that neither sends nor reads the clock. -/
def QueryEvent.Quiet : QueryEvent → Prop
  | .send _ _ | .nowMs (some _) => False
  | .decode _ _ | .isCancelled _ | .nowMs none | .sleepMs _ _ => True

/-- The last event of the log is no reading of the clock. -/
def ClockRests (log : List QueryEvent) : Prop :=
  ∀ front now, log ≠ front ++ [.nowMs (some now)]

/-- The log of a session, with the id that it has cleaned up. -/
inductive QueryLog (setting : Setting) : Option Bytes → List QueryEvent → Prop
  | opened {flag : Option Bool} :
      QueryLog setting none [.isCancelled flag, .nowMs (some setting.startedAtMs)]
  | quiet {closed : Option Bytes} {log : List QueryEvent} {e : QueryEvent}
      (before : QueryLog setting closed log) (isQuiet : e.Quiet) :
      QueryLog setting closed (log ++ [e])
  | reading {closed : Option Bytes} {log : List QueryEvent} {now : UInt64}
      (before : QueryLog setting closed log) (rests : ClockRests log) :
      QueryLog setting closed (log ++ [.nowMs (some now)])
  | request {log : List QueryEvent} {first second : UInt64} {r : HttpRequest}
      {answer : Option HttpResponse} (before : QueryLog setting none (log ++ [.nowMs (some first)]))
      (isRequest : SessionRequest setting r) (timed : Timed setting first second r) :
      QueryLog setting none
        (log ++ [.nowMs (some first)] ++ [.nowMs (some second)] ++ [.send r answer])
  | cleanup {log : List QueryEvent} {id : Bytes} {r : HttpRequest} {answer : Option HttpResponse}
      (before : QueryLog setting none log) (isCleanup : Cleanup setting id r) :
      QueryLog setting (some id) (log ++ [.send r answer])

/-- The request of an event, if it is one. -/
def QueryEvent.sent : QueryEvent → Option HttpRequest
  | .send r _ => some r
  | _ => none

/-- The requests handed to the transport, in order. -/
def sends (log : List QueryEvent) : List HttpRequest := log.filterMap QueryEvent.sent

/-- The reading of an event, if it is one. -/
def QueryEvent.reading : QueryEvent → Option UInt64
  | .nowMs now => now
  | _ => none

/-- The readings of the clock, in order. -/
def readings (log : List QueryEvent) : List UInt64 := log.filterMap QueryEvent.reading

@[simp] theorem sends_nil : sends [] = [] := rfl

@[simp] theorem sends_append (left right : List QueryEvent) :
    sends (left ++ right) = sends left ++ sends right := List.filterMap_append

@[simp] theorem sends_send (r : HttpRequest) (answer : Option HttpResponse)
    (rest : List QueryEvent) : sends (.send r answer :: rest) = r :: sends rest := rfl

@[simp] theorem sends_isCancelled (flag : Option Bool) (rest : List QueryEvent) :
    sends (.isCancelled flag :: rest) = sends rest := rfl

@[simp] theorem sends_nowMs (now : Option UInt64) (rest : List QueryEvent) :
    sends (.nowMs now :: rest) = sends rest := rfl

theorem sends_quiet {e : QueryEvent} (h : e.Quiet) : sends [e] = [] := by
  cases e with
  | send r answer => exact h.elim
  | decode => rfl
  | isCancelled => rfl
  | nowMs => rfl
  | sleepMs => rfl

theorem sends_of_quiet {log : List QueryEvent} (h : ∀ e ∈ log, e.Quiet) : sends log = [] := by
  refine List.filterMap_eq_nil_iff.mpr fun e he => ?_
  have := h e he
  cases e with
  | send => exact this.elim
  | decode => rfl
  | isCancelled => rfl
  | nowMs => rfl
  | sleepMs => rfl

/-- The log has grown, and nothing was sent. -/
def Grows (log log' : List QueryEvent) : Prop := ∃ more, log' = log ++ more ∧ sends more = []

theorem Grows.refl (log : List QueryEvent) : Grows log log := ⟨[], by simp, rfl⟩

theorem Grows.trans {log log' log'' : List QueryEvent} (h : Grows log log')
    (h' : Grows log' log'') : Grows log log'' := by
  obtain ⟨more, rfl, hmore⟩ := h
  obtain ⟨rest, rfl, hrest⟩ := h'
  exact ⟨more ++ rest, List.append_assoc _ _ _, by rw [sends_append, hmore, hrest]; rfl⟩

theorem Grows.concat {log log' : List QueryEvent} (h : Grows log log') {e : QueryEvent}
    (hnone : sends [e] = []) : Grows log (log' ++ [e]) := h.trans ⟨[e], rfl, hnone⟩

theorem Grows.sends_eq {log log' : List QueryEvent} (h : Grows log log') :
    sends log' = sends log := by
  obtain ⟨more, rfl, hmore⟩ := h
  rw [sends_append, hmore, List.append_nil]

/-! ## What the grammar says -/

theorem clockRests_concat (log : List QueryEvent) {e : QueryEvent}
    (h : ∀ now, e ≠ .nowMs (some now)) : ClockRests (log ++ [e]) := fun _ now heq =>
  h now (List.cons.inj (List.append_inj' heq rfl).2).1

namespace QueryLog

variable {setting : Setting} {closed : Option Bytes} {log : List QueryEvent}

/-- The requests of a log: those of the session, and then the cleanup. -/
theorem sends_cases (h : QueryLog setting closed log) :
    ∃ requests, (∀ r ∈ requests, SessionRequest setting r) ∧
      ((closed = none ∧ sends log = requests) ∨
        ∃ id r, closed = some id ∧ Cleanup setting id r ∧ sends log = requests ++ [r]) := by
  induction h with
  | opened => exact ⟨[], by simp, .inl ⟨rfl, rfl⟩⟩
  | quiet _ isQuiet ih =>
      rw [sends_append, sends_quiet isQuiet, List.append_nil]
      exact ih
  | reading _ _ ih => simpa using ih
  | @request _ _ _ r _ _ isRequest _ ih =>
      obtain ⟨requests, hrequests, ⟨-, hsends⟩ | ⟨id, _, hclosed, -⟩⟩ := ih
      · refine ⟨requests ++ [r], ?_, .inl ⟨rfl, ?_⟩⟩
        · intro other hother
          rcases List.mem_append.mp hother with hother | hother
          · exact hrequests other hother
          · rw [List.mem_singleton.mp hother]
            exact isRequest
        · rw [sends_append, sends_append, hsends]
          simp
      · cases hclosed
  | cleanup _ isCleanup ih =>
      obtain ⟨requests, hrequests, ⟨-, hsends⟩ | ⟨id, r, hclosed, -⟩⟩ := ih
      · exact ⟨requests, hrequests, .inr ⟨_, _, rfl, isCleanup, by rw [sends_append, hsends]; rfl⟩⟩
      · cases hclosed

/-- A session that has not cleaned up has sent its own requests only. -/
theorem sends_open (h : QueryLog setting none log) :
    ∀ r ∈ sends log, SessionRequest setting r := by
  obtain ⟨requests, hrequests, ⟨-, hsends⟩ | ⟨id, r, hclosed, -⟩⟩ := h.sends_cases
  · rw [hsends]
    exact hrequests
  · cases hclosed

/-- A session that has cleaned up has sent one cleanup request, last of all. -/
theorem sends_closed {id : Bytes} (h : QueryLog setting (some id) log) :
    ∃ requests r, sends log = requests ++ [r] ∧ Cleanup setting id r ∧
      ∀ other ∈ requests, SessionRequest setting other := by
  obtain ⟨requests, hrequests, ⟨hclosed, -⟩ | ⟨id', r, hclosed, hcleanup, hsends⟩⟩ :=
    h.sends_cases
  · cases hclosed
  · cases hclosed
    exact ⟨requests, r, hsends, hcleanup, hrequests⟩

/-- Every request is one of the session's or its cleanup. -/
theorem of_mem_sends (h : QueryLog setting closed log) {r : HttpRequest} (hr : r ∈ sends log) :
    SessionRequest setting r ∨ ∃ id, Cleanup setting id r := by
  obtain ⟨requests, hrequests, ⟨-, hsends⟩ | ⟨id, last, -, hcleanup, hsends⟩⟩ := h.sends_cases
  · exact .inl (hrequests r (hsends ▸ hr))
  · rw [hsends] at hr
    rcases List.mem_append.mp hr with hr | hr
    · exact .inl (hrequests r hr)
    · rw [List.mem_singleton.mp hr]
      exact .inr ⟨id, hcleanup⟩

/-- The first reading of the clock is the start of the session. -/
theorem starts (h : QueryLog setting closed log) :
    ∃ flag rest, log = .isCancelled flag :: .nowMs (some setting.startedAtMs) :: rest := by
  induction h with
  | opened => exact ⟨_, [], rfl⟩
  | quiet _ _ ih =>
      obtain ⟨flag, rest, rfl⟩ := ih
      exact ⟨flag, _, rfl⟩
  | reading _ _ ih =>
      obtain ⟨flag, rest, rfl⟩ := ih
      exact ⟨flag, _, rfl⟩
  | request _ _ _ ih =>
      obtain ⟨flag, rest, hlog⟩ := ih
      rw [hlog]
      exact ⟨flag, _, rfl⟩
  | cleanup _ _ ih =>
      obtain ⟨flag, rest, rfl⟩ := ih
      exact ⟨flag, _, rfl⟩

/-- A request stands behind two readings of the clock, or is the cleanup. -/
theorem request_split (h : QueryLog setting closed log) {past rest : List QueryEvent}
    {r : HttpRequest} {answer : Option HttpResponse} (hlog : log = past ++ .send r answer :: rest) :
    (SessionRequest setting r ∧ ∃ before first second,
      past = before ++ [.nowMs (some first)] ++ [.nowMs (some second)] ∧
      Timed setting first second r) ∨ ∃ id, Cleanup setting id r := by
  induction h generalizing rest with
  | opened => rcases past with _ | ⟨_, _ | ⟨_, past⟩⟩ <;> simp at hlog
  | quiet _ isQuiet ih =>
      rcases concat_eq_append_cons hlog with ⟨-, -, rfl⟩ | ⟨rest', -, hfront⟩
      · exact isQuiet.elim
      · exact ih hfront
  | reading _ _ ih =>
      rcases concat_eq_append_cons hlog with ⟨-, -, heq⟩ | ⟨rest', -, hfront⟩
      · cases heq
      · exact ih hfront
  | request _ isRequest timed ih =>
      rcases concat_eq_append_cons hlog with ⟨-, hpast, heq⟩ | ⟨rest', -, hfront⟩
      · cases heq
        exact .inl ⟨isRequest, _, _, _, hpast.symm, timed⟩
      · rcases concat_eq_append_cons hfront with ⟨-, -, heq⟩ | ⟨rest'', -, hfront'⟩
        · cases heq
        · exact ih hfront'
  | cleanup _ isCleanup ih =>
      rcases concat_eq_append_cons hlog with ⟨-, -, heq⟩ | ⟨rest', -, hfront⟩
      · cases heq
        exact .inr ⟨_, isCleanup⟩
      · exact ih hfront

private theorem append_request {first second : UInt64} {rest : List QueryEvent} {e : QueryEvent}
    (h : ∃ r answer rest', rest = .send r answer :: rest' ∧ SessionRequest setting r ∧
      Timed setting first second r) :
    ∃ r answer rest', rest ++ [e] = .send r answer :: rest' ∧ SessionRequest setting r ∧
      Timed setting first second r := by
  obtain ⟨r, answer, rest', rfl, hr, htimed⟩ := h
  exact ⟨r, answer, rest' ++ [e], rfl, hr, htimed⟩

/-- Behind two readings in a row stands a request. -/
theorem readings_split (h : QueryLog setting closed log) {past rest : List QueryEvent}
    {first second : UInt64}
    (hlog : log = past ++ .nowMs (some first) :: .nowMs (some second) :: rest) :
    ∃ r answer rest', rest = .send r answer :: rest' ∧ SessionRequest setting r ∧
      Timed setting first second r := by
  induction h generalizing rest with
  | opened => rcases past with _ | ⟨_, _ | ⟨_, past⟩⟩ <;> simp at hlog
  | quiet _ isQuiet ih =>
      rcases concat_eq_append_cons_cons hlog with ⟨-, -, rfl⟩ | ⟨rest', rfl, hfront⟩
      · exact isQuiet.elim
      · exact append_request (ih hfront)
  | reading _ settled ih =>
      rcases concat_eq_append_cons_cons hlog with ⟨-, hfront, -⟩ | ⟨rest', rfl, hfront⟩
      · exact (settled past first hfront).elim
      · exact append_request (ih hfront)
  | request _ isRequest timed ih =>
      rcases concat_eq_append_cons_cons hlog with ⟨-, -, heq⟩ | ⟨rest', rfl, hfront⟩
      · cases heq
      · rcases concat_eq_append_cons_cons hfront with ⟨rfl, hpast, heq⟩ | ⟨rest'', rfl, hfront'⟩
        · cases heq
          obtain ⟨-, hfirst⟩ := List.append_inj' hpast rfl
          cases hfirst
          exact ⟨_, _, [], rfl, isRequest, timed⟩
        · exact append_request (append_request (ih hfront'))
  | cleanup _ _ ih =>
      rcases concat_eq_append_cons_cons hlog with ⟨-, -, heq⟩ | ⟨rest', rfl, hfront⟩
      · cases heq
      · exact append_request (ih hfront)

end QueryLog

/-! ## Scripted surroundings -/

/-- Surroundings that follow a script: the readings of the clock, and what the
transport and the codec make of each request. -/
def scriptedEnv (clock : Nat → UInt64) (reply : Nat → Option HttpResponse)
    (decoded : Nat → Decoded) : QueryEnv where
  send log _ := reply (sends log).length
  decode log _ := decoded (sends log).length
  isCancelled _ := some false
  nowMs log := some (clock (readings log).length)
  sleepMs _ _ := true

/-- Credentials of a tenant. -/
def sampleCredentials : QueryCredentials :=
  ⟨ascii "https://t.c360a.salesforce.com", ascii "token"⟩

end Data360
