import Data360.LibcurlTransport.Transfer
import Data360.QueryApi.Accounting

/-!
# Queries over the transport

What the client of `src/query_api.cpp` and the transport of
`src/libcurl_transport.cpp` make of each other, in every run of the client.

* `Shaped` is what all requests of a session have in common: their headers, and
  a body only for a `POST`.  `queryRun_shaped` is the run lemma.
* `requests_admitted`: which requests of the client the transport lets through
  its checks, and what it is asked to do for them.
* `budget_covers_transfers`: what a query holds in memory stays within its
  budget, also while a transfer is running and when it fails.
-/

namespace Data360

open Lib Lib.ByteString Lib.Prog Session

namespace LibcurlTransport

/-! ## The shape of the requests -/

/-- The headers of a session's requests, with what it accepts. -/
def queryHeaders (token accept : Bytes) : StringMap Bytes :=
  (((∅ : StringMap Bytes).insert (ascii "Authorization") (ascii "Bearer " ++ token)).insert
    (ascii "Content-Type") (ascii "application/json")).insert (ascii "Accept") accept

/-- The media types that a session asks for. -/
def acceptedTypes : List Bytes :=
  [ascii "application/json", ascii "application/vnd.apache.arrow.stream"]

/-- The method and the body of a request belong together, and only the cleanup deletes. -/
inductive Payload (sql : Bytes) (options : QueryOptions) (r : HttpRequest) : Prop
  | submit (metadataOnly : Bool) (method : r.method = ascii "POST")
      (body : r.body = QueryApiV3Client.submitBody sql metadataOnly options)
      (own : r.cleanupRequest = false)
  | get (method : r.method = ascii "GET") (body : r.body = []) (own : r.cleanupRequest = false)
  | delete (method : r.method = ascii "DELETE") (body : r.body = [])
      (cleanup : r.cleanupRequest = true) (bytes : r.maxResponseBytes = 65536)

/-- What the requests of a session have in common. -/
structure Shaped (sql : Bytes) (credentials : QueryCredentials) (options : QueryOptions)
    (r : HttpRequest) : Prop where
  headers : ∃ accept ∈ acceptedTypes, r.headers.Equiv (queryHeaders credentials.accessToken accept)
  payload : Payload sql options r

theorem toList_queryHeaders (token accept : Bytes) :
    (queryHeaders token accept).toList = [(ascii "Accept", accept),
      (ascii "Authorization", ascii "Bearer " ++ token),
      (ascii "Content-Type", ascii "application/json")] := rfl

/-- Another media type replaces the one that was there. -/
theorem insert_accept {headers : StringMap Bytes} {token accept : Bytes}
    (h : headers.Equiv (queryHeaders token accept)) (other : Bytes) :
    (headers.insert (ascii "Accept") other).Equiv (queryHeaders token other) := by
  refine (h.insert (ascii "Accept") other).trans (Std.TreeMap.equiv_iff_toList_eq.mpr ?_)
  rfl

section Shape

variable {env : QueryEnv} {sql : Bytes} {credentials : QueryCredentials} {options : QueryOptions}
  {s : Session}

variable (sql credentials options) in
/-- The request of a session itself, which is no cleanup. -/
structure Own (r : HttpRequest) : Prop extends Shaped sql credentials options r where
  own : r.cleanupRequest = false

theorem Own.get (h : Own sql credentials options s.request) (url : Bytes) :
    Own sql credentials options (s.getRequest url) := ⟨⟨h.headers, .get rfl rfl h.own⟩, h.own⟩

theorem Own.sent {s' : Session} (h : Own sql credentials options s.request)
    (hsent : Sent s s') : Own sql credentials options s'.request := by
  obtain ⟨_, _, _, rfl⟩ := hsent
  refine ⟨⟨h.headers, ?_⟩, h.own⟩
  cases h.payload with
  | submit metadataOnly method body own => exact .submit metadataOnly method body own
  | get method body own => exact .get method body own
  | delete _ _ cleanup _ => cases h.own.symm.trans cleanup

theorem Own.arrow (h : Own sql credentials options s.request) :
    Own sql credentials options (QueryCursor.arrowRequest s).request := by
  obtain ⟨accept, -, heq⟩ := h.headers
  exact ⟨⟨⟨_, by simp [acceptedTypes], insert_accept heq _⟩, .get rfl rfl h.own⟩, h.own⟩

theorem Own.cancellation (h : Own sql credentials options s.request) :
    Shaped sql credentials options s.cancellation := by
  obtain ⟨accept, -, heq⟩ := h.headers
  exact ⟨⟨_, by simp [acceptedTypes], insert_accept heq _⟩, .delete rfl rfl rfl rfl⟩

theorem own_submit (sql : Bytes) (credentials : QueryCredentials) (metadataOnly : Bool)
    (options : QueryOptions) : Own sql credentials options
      (QueryApiV3Client.submitRequest sql credentials metadataOnly options) :=
  ⟨⟨⟨ascii "application/json", by simp [acceptedTypes], .rfl⟩, .submit metadataOnly rfl rfl rfl⟩,
    rfl⟩

/-! ## What the log tells -/

variable (env) in
/-- The log tells which requests were sent, all of them in `R`, and what the transport
answered. -/
def Tells (R : HttpRequest → Prop) (log : List QueryEvent) : Prop :=
  ∀ past r answer rest, log = past ++ .send r answer :: rest → R r ∧ answer = env.send past r

theorem Tells.silent {R : HttpRequest → Prop} {log : List QueryEvent} (h : Tells env R log)
    {e : QueryEvent} (he : sends [e] = []) : Tells env R (log ++ [e]) := by
  intro past r answer rest hlog
  rcases concat_eq_append_cons hlog with ⟨-, -, rfl⟩ | ⟨rest', -, hfront⟩
  · cases he
  · exact h past r answer rest' hfront

theorem Tells.send {R : HttpRequest → Prop} {log : List QueryEvent} (h : Tells env R log)
    {r : HttpRequest} (hr : R r) : Tells env R (log ++ [.send r (env.send log r)]) := by
  intro past other answer rest hlog
  rcases concat_eq_append_cons hlog with ⟨-, rfl, heq⟩ | ⟨rest', -, hfront⟩
  · cases heq
    exact ⟨hr, rfl⟩
  · exact h past other answer rest' hfront

theorem tells_of_quiet {R : HttpRequest → Prop} {log : List QueryEvent} (h : sends log = []) :
    Tells env R log := by
  rintro past r answer rest rfl
  simp at h

theorem idle_tells (R : HttpRequest → Prop) : Idle (Tells env R) :=
  ⟨fun h hquiet => h.silent (sends_quiet hquiet), fun h _ => h.silent rfl⟩

/-- Sending keeps what the log tells. -/
theorem keeps_send_tells {R : HttpRequest → Prop} {P : Session → Prop}
    (hR : ∀ s, P s → R s.request) (hP : ∀ s s', P s → Sent s s' → P s') :
    Keeps (Ongoing (Tells env R) P) (Session.send env) := by
  have hactive : Keeps (Ongoing (Tells env R) P) (checkActive env) :=
    keeps_checkActive (idle_tells R)
  have hnow : Keeps (Ongoing (Tells env R) P) (nowMs env) := by
    intro c hc
    exact wp_nowMs (fun _ _ => ⟨hc.log.silent rfl, hc.session⟩) ⟨hc.log.silent rfl, hc.session⟩
  have htransport : ∀ request, R request →
      Keeps (Ongoing (Tells env R) P) (transportSend env request) := by
    intro request hrequest c hc
    have hsent : Ongoing (Tells env R) P (c.record (.send request (env.send c.log request))) :=
      ⟨hc.log.send hrequest, hc.session⟩
    unfold wp transportSend
    cases h : env.send c.log request with
    | none =>
        rw [h] at hsent
        exact hsent
    | some response =>
        rw [h] at hsent
        exact hsent
  refine keeps_bind hactive fun _ => keeps_bind hnow fun now => keeps_bind (keeps_look _) fun _ =>
    keeps_bind (keeps_modify fun s h => hP s _ h ⟨_, _, _, rfl⟩) fun _ => ?_
  -- the request that is sent is the one of the session
  intro c hc
  rw [wp_bind, wp_look]
  refine keeps_bind (keeps_catchAll (htransport _ (hR _ hc.session)) fun _ =>
    keeps_bind hactive fun _ => keeps_raise _) (fun _ => keeps_bind (keeps_raiseIf _ _) fun _ =>
    keeps_bind (keeps_modify fun s h => hP s _ h ⟨_, _, _, rfl⟩) fun _ => keeps_pure _) c hc

/-! ## The shape of a run -/

variable (env sql credentials options) in
/-- A client whose requests have had the shape so far, as the next one has. -/
abbrev ShapedSoFar : Client → Prop :=
  Ongoing (Tells env (Shaped sql credentials options))
    fun s => Own sql credentials options s.request

theorem shapedSoFar_idle : Idle (Tells env (Shaped sql credentials options)) := idle_tells _

theorem keeps_send_shaped : Keeps (ShapedSoFar env sql credentials options) (Session.send env) :=
  keeps_send_tells (fun _ h => h.toShaped) fun _ _ h hsent => h.sent hsent

theorem keeps_sendDecode_shaped : Keeps (ShapedSoFar env sql credentials options) (do
    let response ← Session.send env
    decode env response) :=
  keeps_bind keeps_send_shaped fun response => keeps_decode shapedSoFar_idle response

theorem keeps_deliver_shaped (response : QueryResponse) :
    Keeps (ShapedSoFar env sql credentials options) (QueryCursor.deliver env response) :=
  keeps_deliver_of shapedSoFar_idle (fun _ _ h => h) (fun _ _ _ _ h => h) (fun _ _ h => h) response

theorem shapedSoFar_cancel {c : Client} (h : ShapedSoFar env sql credentials options c) :
    ShapedSoFar env sql credentials options (cancel env c) := by
  unfold cancel
  split
  · exact h
  · exact ⟨h.log.send h.session.cancellation, h.session⟩

variable (env sql credentials options) in
/-- What a preparation that fails leaves: the shape, or a session that sent nothing. -/
def ShapedOrUnsent (c : Client) : Prop :=
  ShapedSoFar env sql credentials options c ∨ sends c.log = [] ∧ c.session.queryId = []

theorem shapedOrUnsent_cancel {c : Client} (h : ShapedOrUnsent env sql credentials options c) :
    ShapedOrUnsent env sql credentials options (cancel env c) := by
  rcases h with h | h
  · exact .inl (shapedSoFar_cancel h)
  · rw [cancel_of_empty h.2]
    exact .inr h

/-- A program that keeps the shape, in a preparation. -/
theorem leads_shaped {α : Type} {prog : Query α}
    (h : Keeps (ShapedSoFar env sql credentials options) prog) :
    Leads (ShapedSoFar env sql credentials options)
      (fun _ => ShapedOrUnsent env sql credentials options) prog :=
  h.leads fun _ _ h => .inl h

/-- What the blocks of a preparation do to the shape. -/
theorem prepareRules_shaped : PrepareRules env (ShapedSoFar env sql credentials options)
    (ShapedSoFar env sql credentials options) fun _ =>
    ShapedOrUnsent env sql credentials options where
  fails := fun _ _ h => .inl h
  numbered := fun decoded c hc _ _ => by
    have hfetch : Keeps (ShapedSoFar env sql credentials options)
        (QueryApiV3Client.fetchMetadata env) :=
      keeps_bind (keeps_modify fun s h => h.get _) fun _ =>
        keeps_bind keeps_send_shaped fun response =>
        keeps_bind (keeps_decode shapedSoFar_idle response) fun _ =>
        keeps_bind (keeps_raiseIf _ _) fun _ =>
        keeps_bind (keeps_modify fun _ h => h) fun _ => keeps_raiseIf _ _
    exact leads_shaped hfetch _ ⟨hc.log, hc.session⟩
  refuses := fun _ _ _ h => .inl ⟨h.log, h.session⟩
  direct := fun _ _ h => ⟨h.log, h.session⟩
  columns := fun _ _ h _ => .inl h
  exchange := leads_shaped (keeps_bind keeps_send_shaped fun response =>
    keeps_bind (keeps_decode shapedSoFar_idle response) fun decoded =>
    keeps_bind (keeps_remember (fun _ _ h => h) decoded) fun _ =>
    keeps_bind (keeps_checkActive shapedSoFar_idle) fun _ => keeps_pure _)
  sleeps := fun milliseconds => leads_shaped (keeps_sleepMs shapedSoFar_idle milliseconds)
  checks := leads_shaped (keeps_checkActive shapedSoFar_idle)
  polls := fun _ h => ⟨h.log, h.session.get _⟩

/-- What the blocks of the cursor's calls do to it. -/
theorem cursorRules_shaped : CursorRules env (ShapedSoFar env sql credentials options)
    (ShapedSoFar env sql credentials options) fun _ => ShapedSoFar env sql credentials options where
  fails := fun _ _ h => h
  cancels := fun _ _ h => shapedSoFar_cancel h
  numbered := fun c hc _ _ _ => keeps_bind
    (keeps_bind (keeps_modify fun s h => h.get _) fun _ => keeps_sendDecode_shaped)
    (fun response => keeps_deliver_shaped response) c hc
  buffered := fun response _ hc _ _ _ => keeps_deliver_shaped response _ ⟨hc.log, hc.session⟩
  direct := fun c hc _ _ _ => keeps_bind
    (keeps_bind (keeps_look _) fun _ => keeps_bind (keeps_raiseIf _ _) fun _ =>
      keeps_bind (keeps_modify fun s h => h.get _) fun _ => keeps_sendDecode_shaped)
    (fun response => keeps_deliver_shaped response) c hc
  finishes := fun _ c hc _ => wp_finished_of (fun _ => ⟨rfl, hc.log, hc.session⟩) fun _ _ => hc
  arrow := fun c hc _ _ _ => by
    refine keeps_bind (keeps_modify fun _ h => h.arrow) (fun _ =>
      keeps_bind keeps_send_shaped fun response => ?_) c hc
    refine keeps_ite _ ?_ ?_
    · exact keeps_bind (keeps_arrowFailed shapedSoFar_idle response) fun _ => keeps_pure _
    · exact keeps_bind (keeps_checkActive shapedSoFar_idle) fun _ =>
        keeps_bind (keeps_modify fun _ h => h) fun _ => keeps_pure _
  checks := keeps_checkActive shapedSoFar_idle
  reports := fun decodedRows c hc _ => by
    have hreport : Keeps (ShapedSoFar env sql credentials options)
        (QueryCursor.reportBody env decodedRows) :=
      keeps_bind (keeps_checkActive shapedSoFar_idle) fun _ => keeps_bind (keeps_look _) fun _ =>
        keeps_bind (keeps_raiseIf _ _) fun _ => keeps_bind (keeps_raiseIf _ _) fun _ =>
        keeps_modify fun _ h => h
    exact hreport c hc

/-- In every run, every request has the shape, and the log tells the answers. -/
theorem queryRun_tells {alive : Bool} {c : Client}
    (run : QueryRun env sql credentials options alive c) :
    Tells env (Shaped sql credentials options) c.log := by
  have hlog {c : Client} (h : ShapedOrUnsent env sql credentials options c) :
      Tells env (Shaped sql credentials options) c.log := by
    rcases h with h | h
    · exact h.log
    · exact tells_of_quiet h.1
  have hrun := queryRun_of_rules (I := ShapedSoFar env sql credentials options)
    (R := fun c => Tells env (Shaped sql credentials options) c.log)
    (fun fuel metadataOnly => ?_)
    (fun call => cursorRules_shaped.cursorCall (fun _ h => h) call)
    (fun c h => (shapedSoFar_cancel h).log) run
  · cases alive with
    | true => exact hrun.log
    | false => exact hrun
  · refine wp_mono (prepareRules_shaped.wp_prepareInternal fuel
      (fun _ _ h => shapedOrUnsent_cancel h) (fun flag now => ?_) fun _ c hunsent _ => ?_)
      (fun _ _ h => h.1) (fun _ _ h => hlog h) fun _ h => h
    · exact ⟨tells_of_quiet rfl, own_submit sql credentials metadataOnly _⟩
    · exact .inr ⟨sends_of_quiet hunsent.log, hunsent.id⟩

/-- A request of a run. -/
theorem queryRun_shaped {alive : Bool} {c : Client}
    (run : QueryRun env sql credentials options alive c) {r : HttpRequest} (hr : r ∈ sends c.log) :
    Shaped sql credentials options r := by
  obtain ⟨e, he, hsent⟩ := List.mem_filterMap.mp hr
  obtain ⟨past, rest, hlog⟩ := List.append_of_mem he
  cases e with
  | send other answer =>
      obtain rfl := Option.some.inj hsent
      exact (queryRun_tells run past other answer rest hlog).1
  | decode | isCancelled | nowMs | sleepMs => cases hsent

end Shape

/-! ## The checks -/

/-- A text that the checks let through. -/
def Clean (value : Bytes) : Prop := ∀ c ∈ value, c ≠ 13 ∧ c ≠ 10 ∧ c ≠ 0

instance (value : Bytes) : Decidable (Clean value) :=
  inferInstanceAs (Decidable (∀ c ∈ value, c ≠ 13 ∧ c ≠ 10 ∧ c ≠ 0))

theorem clean_append {left right : Bytes} :
    Clean (left ++ right) ↔ Clean left ∧ Clean right := List.forall_mem_append

theorem clean_id {id : Bytes} (h : QueryId id) : Clean id := by
  intro c hc
  have hchar := h.characters c hc
  refine ⟨?_, ?_, ?_⟩
  all_goals
    rintro rfl
    exact absurd hchar (by decide)

theorem clean_digits {digits : Bytes} (h : ∀ c ∈ digits, isDigit c = true) : Clean digits := by
  intro c hc
  have hdigit := h c hc
  refine ⟨?_, ?_, ?_⟩
  all_goals
    rintro rfl
    exact absurd hdigit (by decide)

/-- The paths of the Query API hold no byte that the transport refuses. -/
theorem clean_target {path : Bytes} (h : QueryTarget path) : Clean path := by
  have hquery : Clean queryPath := by decide +kernel
  cases h with
  | submit => decide +kernel
  | query isId => exact clean_append.mpr ⟨hquery, clean_id isId⟩
  | metadata isId =>
      exact clean_append.mpr ⟨clean_append.mpr ⟨hquery, clean_id isId⟩, by decide +kernel⟩
  | chunk isId _ isDigits =>
      have hseparator : Clean chunksSeparator := by decide +kernel
      exact clean_append.mpr ⟨clean_append.mpr ⟨clean_append.mpr ⟨hquery, clean_id isId⟩,
        hseparator⟩, clean_digits isDigits⟩

/-- What the transport asks of a request that has the shape. -/
structure Admissible (credentials : QueryCredentials) (r : HttpRequest) : Prop where
  time : r.timeoutMs ≠ 0 ∧ r.timeoutMs.toNat ≤ longMax
  bytes : r.maxResponseBytes ≠ 0
  bearer : BearerFits credentials.accessToken
  body : r.body.length ≤ 1024 * 1024

/-- The sizes of the headers depend on the token. -/
theorem checkHeaderSizes_query {token accept : Bytes} (haccept : accept ∈ acceptedTypes) :
    checkHeaderSizes [(ascii "Accept", accept), (ascii "Authorization", ascii "Bearer " ++ token),
      (ascii "Content-Type", ascii "application/json")] 0 = .ok () ↔ token.length ≤ 8168 := by
  have hshort : ∀ type ∈ acceptedTypes, type.length ≤ 35 := by decide +kernel
  have hname := hshort accept haccept
  have hfixed : (ascii "Accept").length = 6 ∧ (ascii "application/json").length = 16 ∧
      (ascii "Authorization").length = 13 ∧ (ascii "Bearer ").length = 7 ∧
      (ascii "Content-Type").length = 12 := by decide
  simp only [checkHeaderSizes, List.length_append, hfixed]
  by_cases htoken : token.length ≤ 8168
  · rw [if_neg (by omega), if_neg (by omega), if_neg (by omega)]
    exact iff_of_true rfl htoken
  · rw [if_neg (by omega), if_pos (by omega)]
    exact iff_of_false (by simp) htoken

/-- The checks, of a request that has the shape and goes to an `https` address. -/
theorem checkRequest_shaped {sql : Bytes} {credentials : QueryCredentials}
    {options : QueryOptions} {r : HttpRequest} (h : Shaped sql credentials options r)
    (hredirects : r.followRedirects = false)
    (hscheme : (ascii "https://").isPrefixOf r.url = true) (hurl : Clean r.url) :
    checkRequest r = .ok () ↔ Admissible credentials r := by
  obtain ⟨accept, haccept, hheaders⟩ := h.headers
  have hlist := Std.TreeMap.equiv_iff_toList_eq.mp hheaders
  rw [toList_queryHeaders] at hlist
  have hsize : r.headers.size = 3 := by
    rw [← Std.TreeMap.length_toList, hlist]
    rfl
  have hmethod : ¬ (r.method ≠ ascii "GET" ∧ r.method ≠ ascii "POST" ∧
      r.method ≠ ascii "DELETE") := by
    rintro ⟨hget, hpost, hdelete⟩
    cases h.payload with
    | submit _ method _ _ => exact hpost method
    | get method _ _ => exact hget method
    | delete method _ _ _ => exact hdelete method
  have hforbidden : containsForbidden r.url = false := containsForbidden_eq_false.mpr hurl
  have htype : containsForbidden accept = false := by
    have htypes : ∀ type ∈ acceptedTypes, containsForbidden type = false := by decide +kernel
    exact htypes accept haccept
  have hnames : containsForbidden (ascii "Accept") = false ∧
      containsForbidden (ascii "application/json") = false ∧
      containsForbidden (ascii "Authorization") = false ∧
      containsForbidden (ascii "Content-Type") = false ∧
      (find [58] (ascii "Accept")).isSome = false ∧
      (find [58] (ascii "Authorization")).isSome = false ∧
      (find [58] (ascii "Content-Type")).isSome = false ∧ ascii "Accept" ≠ [] ∧
      ascii "Authorization" ≠ [] ∧ ascii "Content-Type" ≠ [] := by decide
  have hbearer : containsForbidden (ascii "Bearer " ++ credentials.accessToken) = false ↔
      Clean credentials.accessToken := by
    have hfixed : Clean (ascii "Bearer ") := by decide +kernel
    rw [containsForbidden_eq_false]
    exact clean_append.trans (and_iff_right hfixed)
  -- of the first check, only the limits are left
  have hlimits : (r.followRedirects = true ∨ r.timeoutMs = 0 ∨ r.timeoutMs.toNat > longMax ∨
      r.maxResponseBytes = 0 ∨ r.body.length > 1024 * 1024 ∨
      ¬ (ascii "https://").isPrefixOf r.url ∨ containsForbidden r.url ∨
      (r.method ≠ ascii "GET" ∧ r.method ≠ ascii "POST" ∧ r.method ≠ ascii "DELETE")) ↔
      (r.timeoutMs = 0 ∨ r.timeoutMs.toNat > longMax ∨ r.maxResponseBytes = 0 ∨
        r.body.length > 1024 * 1024) := by
    constructor
    · rintro (h | h | h | h | h | h | h | h)
      · cases hredirects.symm.trans h
      · exact .inl h
      · exact .inr (.inl h)
      · exact .inr (.inr (.inl h))
      · exact .inr (.inr (.inr h))
      · exact absurd hscheme h
      · cases hforbidden.symm.trans h
      · exact absurd h hmethod
    · rintro (h | h | h | h)
      · exact .inr (.inl h)
      · exact .inr (.inr (.inl h))
      · exact .inr (.inr (.inr (.inl h)))
      · exact .inr (.inr (.inr (.inr (.inl h))))
  unfold checkRequest
  by_cases hfirst : r.timeoutMs = 0 ∨ r.timeoutMs.toNat > longMax ∨ r.maxResponseBytes = 0 ∨
      r.body.length > 1024 * 1024
  · rw [if_pos (hlimits.mpr hfirst)]
    refine iff_of_false (by simp) fun hadmissible => ?_
    rcases hfirst with h | h | h | h
    · exact hadmissible.time.1 h
    · exact Nat.not_le.mpr h hadmissible.time.2
    · exact hadmissible.bytes h
    · exact Nat.not_le.mpr h hadmissible.body
  · rw [if_neg fun h => hfirst (hlimits.mp h), hlist, hsize]
    simp only [not_or] at hfirst
    obtain ⟨htime, hlong, hbytes, hbody⟩ := hfirst
    have hany : (List.any [(ascii "Accept", accept),
        (ascii "Authorization", ascii "Bearer " ++ credentials.accessToken),
        (ascii "Content-Type", ascii "application/json")] fun header => header.1 = [] ||
          containsForbidden header.1 || containsForbidden header.2 ||
          (find [58] header.1).isSome)
        = containsForbidden (ascii "Bearer " ++ credentials.accessToken) := by
      simp [hnames, htype]
    rw [hany]
    by_cases hclean : containsForbidden (ascii "Bearer " ++ credentials.accessToken) = true
    · rw [if_pos hclean]
      refine iff_of_false (by simp) fun hadmissible => ?_
      rw [hbearer.mpr hadmissible.bearer.clean] at hclean
      cases hclean
    · rw [if_neg hclean, if_neg (show ¬ 3 > 64 by decide), checkHeaderSizes_query haccept]
      rw [Bool.not_eq_true, hbearer] at hclean
      exact ⟨fun hshort => ⟨⟨htime, Nat.not_lt.mp hlong⟩, hbytes, ⟨hclean, hshort⟩,
        Nat.not_lt.mp hbody⟩, fun h => h.bearer.short⟩

/-- The header lines of a session's request. -/
def queryLines (token accept : Bytes) : List Bytes :=
  [ascii "Expect:", ascii "Accept: " ++ accept, ascii "Authorization: Bearer " ++ token,
    ascii "Content-Type: application/json"]

theorem requestLines_query {r : HttpRequest} {token accept : Bytes}
    (h : r.headers.Equiv (queryHeaders token accept)) :
    requestLines r = queryLines token accept := by
  rw [requestLines, Std.TreeMap.equiv_iff_toList_eq.mp h, toList_queryHeaders]
  simp only [List.map_cons, List.map_nil, ← List.append_assoc]
  rfl

/-- What the transport is asked to do with a method: with a `POST` it sends the submission, and
with any other no body. -/
inductive PerformsMethod (sql : Bytes) (options : QueryOptions) (r : HttpRequest) : Prop
  | submit (metadataOnly : Bool) (method : r.method = ascii "POST")
      (set : methodOptions r = [.post 1,
        .postFields (QueryApiV3Client.submitBody sql metadataOnly options),
        .postFieldSize (QueryApiV3Client.submitBody sql metadataOnly options).length])
  | get (method : r.method = ascii "GET") (set : methodOptions r = [.httpGet 1])
  | delete (method : r.method = ascii "DELETE")
      (set : methodOptions r = [.customRequest (ascii "DELETE")])

/-- What the transport is asked to do for a request: to send the session's token, the media
type of the request and no other header, and to perform its method. -/
structure Performs (sql : Bytes) (credentials : QueryCredentials) (options : QueryOptions)
    (r : HttpRequest) : Prop where
  header : ∃ accept ∈ acceptedTypes, r.headers[ascii "Accept"]? = some accept ∧
    ∀ host, transferOptions host r = connectionOptions host r ++
      .httpHeader (queryLines credentials.accessToken accept) :: methodOptions r
  method : PerformsMethod sql options r

theorem Payload.performs {sql : Bytes} {options : QueryOptions} {r : HttpRequest}
    (h : Payload sql options r) : PerformsMethod sql options r := by
  have hdistinct : ascii "POST" ≠ ascii "GET" ∧ ascii "DELETE" ≠ ascii "GET" ∧
      ascii "DELETE" ≠ ascii "POST" ∧ ascii "GET" ≠ ascii "POST" := by decide
  cases h with
  | submit metadataOnly method body _ =>
      refine .submit metadataOnly method ?_
      rw [methodOptions, method, body, if_neg hdistinct.1, if_pos rfl, if_pos (.inl rfl)]
      rfl
  | get method body _ =>
      refine .get method ?_
      rw [methodOptions, method, body, if_pos rfl, if_neg (by simp [hdistinct.2.2.2])]
      rfl
  | delete method body _ _ =>
      refine .delete method ?_
      rw [methodOptions, method, body, if_neg hdistinct.2.1, if_neg hdistinct.2.2.1,
        if_neg (by simp [hdistinct.2.2.1])]
      rfl

theorem Shaped.performs {sql : Bytes} {credentials : QueryCredentials} {options : QueryOptions}
    {r : HttpRequest} (h : Shaped sql credentials options r) :
    Performs sql credentials options r := by
  obtain ⟨accept, haccept, hheaders⟩ := h.headers
  have hasked : r.headers[ascii "Accept"]? = some accept := by
    rw [hheaders.getElem?_eq, queryHeaders, Std.TreeMap.getElem?_insert_self]
  refine ⟨⟨accept, haccept, hasked, fun host => ?_⟩, h.payload.performs⟩
  rw [transferOptions, requestLines_query hheaders]

section Runs

variable {env : QueryEnv} {sql : Bytes} {credentials : QueryCredentials} {options : QueryOptions}
  {alive : Bool} {c : Client}

/-- The addresses of a run. -/
theorem queryRun_addresses (run : QueryRun env sql credentials options alive c) {r : HttpRequest}
    (hr : r ∈ sends c.log) :
    r.followRedirects = false ∧ (ascii "https://").isPrefixOf r.url = true ∧ Clean r.url := by
  rcases queryRun_leaves run with ⟨-, hunsent⟩ | ⟨setting, hof, hworld⟩
  · rw [sends_of_quiet hunsent.log] at hr
    exact absurd hr List.not_mem_nil
  have hsound := hworld.client
  obtain ⟨host, hhost, -, htrim⟩ := tenantHost_of_isTrustedTenantUrl hsound.session.trusted
  have horigin : setting.origin = ascii "https://" ++ host := htrim
  have hclean {path : Bytes} (htarget : QueryTarget path) :
      (ascii "https://").isPrefixOf (setting.origin ++ path) = true ∧
        Clean (setting.origin ++ path) := by
    rw [horigin, List.isPrefixOf_iff_prefix, List.append_assoc]
    exact ⟨List.prefix_append _ _, clean_append.mpr ⟨by decide +kernel, clean_append.mpr
      ⟨fun c hc => host_character hhost hc, clean_target htarget⟩⟩⟩
  rcases hsound.log.of_mem_sends hr with hrequest | ⟨id, hcleanup⟩
  · obtain ⟨path, htarget, hpath⟩ := hrequest.url
    exact ⟨hrequest.followRedirects, hpath ▸ hclean htarget⟩
  · refine ⟨hcleanup.followRedirects, ?_⟩
    rw [hcleanup.url, List.append_assoc]
    exact hclean (.query (queryId_of_isSafeQueryId hcleanup.safe))

/-- Whatever the servers answer, the transport refuses a request of the client only because no
time or no byte is left for it, its timeout is too long, its token does not fit into a header,
or the submission is too long; and the library is asked for the headers of a query and for the
method of the request, with the body of a submission and no other. -/
theorem requests_admitted (run : QueryRun env sql credentials options alive c) :
    ∀ r ∈ sends c.log,
      (checkRequest r = .ok () ↔ Admissible credentials r) ∧
        Performs sql credentials options r := by
  intro r hr
  obtain ⟨hredirects, hscheme, hurl⟩ := queryRun_addresses run hr
  have hshaped := queryRun_shaped run hr
  exact ⟨checkRequest_shaped hshaped hredirects hscheme hurl, hshaped.performs⟩

/-- An abandoned query: a submission and a cleanup. -/
theorem requests_admitted_abandoned :
    (sends sampleWorld.client.log).map (fun r => decide (checkRequest r = .ok ())) = [true, true] ∧
      ∀ r ∈ sends sampleWorld.client.log,
        (checkRequest r = .ok () ↔ Admissible sampleCredentials r) ∧
          Performs (ascii "SELECT 1") sampleCredentials {} r :=
  ⟨by decide +kernel, requests_admitted sampleRun⟩

/-! ## The budget -/

/-- The client talks to the curl library through this transport. -/
structure OverLibcurl (env : QueryEnv) (curl : List QueryEvent → Curl) (host : Host) : Prop where
  send : ∀ log r, env.send log r = (LibcurlTransport.send (curl log) host true r).toOption

/-- The bytes that an event brings, unless it answers a cleanup. -/
def QueryEvent.bytes : QueryEvent → Nat
  | .send r (some response) => if r.cleanupRequest then 0 else response.body.length
  | .send _ none | .decode _ _ | .isCancelled _ | .nowMs _ | .sleepMs _ _ => 0

/-- The bytes of all responses to requests that are no cleanup. -/
def receivedBytes (log : List QueryEvent) : Nat := (log.map QueryEvent.bytes).sum

/-- What the transfer of a request holds after some of its callbacks. -/
def held (r : HttpRequest) (callbacks : List Callback) : Nat :=
  (transferMachine.run (openTransfer true r) callbacks).body.length

theorem held_le (r : HttpRequest) (callbacks : List Callback) :
    held r callbacks ≤ r.maxResponseBytes.toNat := by
  obtain ⟨hbounded, hlimit⟩ := run_bounded true r callbacks
  exact hlimit ▸ hbounded.body

/-- A response is what the transfer holds in the end. -/
theorem length_of_send {curl : Curl} {host : Host} {r : HttpRequest} {response : HttpResponse}
    (h : send curl host true r = .ok response) :
    response.body.length = held r (curl.perform (transferOptions host r)).callbacks := by
  obtain ⟨_, -, hconclude⟩ := except_bind_eq_ok.mp h
  unfold conclude at hconclude
  dsimp only at hconclude
  split_ifs at hconclude
  obtain ⟨_, -, hcode⟩ := except_bind_eq_ok.mp hconclude
  obtain ⟨_, -, hresponse⟩ := except_bind_eq_ok.mp hcode
  rw [← Except.ok.inj hresponse]
  rfl

theorem OverLibcurl.fits {curl : List QueryEvent → Curl} {host : Host}
    (onCurl : OverLibcurl env curl host) {log : List QueryEvent} {r : HttpRequest}
    {response : HttpResponse} (h : env.send log r = some response) :
    response.body.length ≤ r.maxResponseBytes.toNat := by
  rw [onCurl.send] at h
  cases hsend : LibcurlTransport.send (curl log) host true r with
  | error message =>
      rw [hsend] at h
      cases h
  | ok answer =>
      rw [hsend] at h
      obtain rfl := Option.some.inj h
      rw [length_of_send hsend]
      exact held_le r _

theorem Tells.front {R : HttpRequest → Prop} {front rest : List QueryEvent}
    (h : Tells env R (front ++ rest)) : Tells env R front := fun past r answer tail hfront =>
  h past r answer (tail ++ rest) (by rw [hfront, List.append_assoc, List.cons_append])

theorem budgeted_front {limit : Nat} {front rest : List QueryEvent}
    (h : Budgeted limit (front ++ rest)) : Budgeted limit front := fun past r answer tail hfront =>
  h past r answer (tail ++ rest) (by rw [hfront, List.append_assoc, List.cons_append])

/-- Over this transport, the session accepts every response: none is larger than what is left
of its budget. -/
theorem acceptedBytes_eq {curl : List QueryEvent → Curl} {host : Host}
    (onCurl : OverLibcurl env curl host) {R : HttpRequest → Prop} {limit : Nat}
    {log : List QueryEvent} (htells : Tells env R log) (hbudget : Budgeted limit log) :
    acceptedBytes limit log = receivedBytes log := by
  induction log using List.reverseRecOn with
  | nil => rfl
  | append_singleton log e ih =>
      have hfront := ih htells.front (budgeted_front hbudget)
      rw [receivedBytes, List.map_append, List.sum_append, ← receivedBytes, ← hfront,
        acceptedBytes_concat]
      cases e with
      | decode | isCancelled | nowMs | sleepMs => rfl
      | send r answer =>
          cases answer with
          | none => rfl
          | some response =>
              have hanswer := (htells log r (some response) [] rfl).2
              have hfits := onCurl.fits hanswer.symm
              cases hcleanup : r.cleanupRequest with
              | true => simp [receive, hcleanup, QueryEvent.bytes, acceptedBytes]
              | false =>
                  have hroom := hbudget log r (some response) [] rfl hcleanup
                  rw [receive, if_pos ⟨hcleanup, hfits.trans hroom⟩]
                  simp [bodyBytes, acceptedBytes, QueryEvent.bytes, hcleanup]

/-- A session accepts no more than its limit. -/
theorem acceptedBytes_le (limit : Nat) (log : List QueryEvent) :
    acceptedBytes limit log ≤ limit := by
  induction log using List.reverseRecOn with
  | nil => exact Nat.zero_le _
  | append_singleton log e ih =>
      rw [acceptedBytes_concat]
      cases e with
      | decode | isCancelled | nowMs | sleepMs => exact ih
      | send r answer =>
          cases answer with
          | none => exact ih
          | some response =>
              rw [receive]
              split
              · rename_i hfits
                have hroom := hfits.2
                simp only [bodyBytes, List.map_append, List.sum_append, List.map_singleton,
                  List.sum_singleton]
                simp only [acceptedBytes, bodyBytes] at ih hroom
                omega
              · exact ih

/-- A cleanup brings at most 64 KiB. -/
theorem Payload.cleanup_bytes {r : HttpRequest} (h : Payload sql options r)
    (hcleanup : r.cleanupRequest = true) : r.maxResponseBytes = 65536 := by
  cases h with
  | submit _ _ _ own => cases own.symm.trans hcleanup
  | get _ _ own => cases own.symm.trans hcleanup
  | delete _ _ _ bytes => exact bytes

/-- What a query over this transport holds in memory stays within its budget: what it has
received so far and what a running transfer holds at any moment, whether the transfer
succeeds or not.  So the session counts every response that it gets, none is too large for
it, and only a cleanup comes on top, with 64 KiB. -/
theorem budget_covers_transfers {curl : List QueryEvent → Curl} {host : Host}
    (onCurl : OverLibcurl env curl host) (run : QueryRun env sql credentials options alive c) :
    c.session.totalResponseBytes.toNat = receivedBytes c.log ∧
      ∀ past r answer rest, c.log = past ++ .send r answer :: rest →
        (∀ callbacks, if r.cleanupRequest then held r callbacks ≤ 65536
          else receivedBytes past + held r callbacks ≤ options.maxTotalResponseBytes.toNat) ∧
        ∀ response, answer = some response → response.body.length =
          held r ((curl past).perform (transferOptions host r)).callbacks := by
  have htells := queryRun_tells run
  have hcounted : LogAt options.maxTotalResponseBytes.toNat c.session.totalResponseBytes c.log := by
    have hmetered := queryRun_metered run
    cases alive with
    | true => exact hmetered.log
    | false => exact hmetered.log
  have hbudget := hcounted.budget
  refine ⟨hcounted.accepted.trans (acceptedBytes_eq onCurl htells hbudget), ?_⟩
  intro past r answer rest hlog
  obtain ⟨hshaped, hanswer⟩ := htells past r answer rest hlog
  refine ⟨fun callbacks => ?_, fun response hresponse => ?_⟩
  · have hheld := held_le r callbacks
    cases hcleanup : r.cleanupRequest with
    | true =>
        rw [hshaped.payload.cleanup_bytes hcleanup] at hheld
        exact hheld
    | false =>
        have hroom := hbudget past r answer rest hlog hcleanup
        rw [hlog] at htells hbudget
        have haccepted := acceptedBytes_eq onCurl htells.front (budgeted_front hbudget)
        have hle := acceptedBytes_le options.maxTotalResponseBytes.toNat past
        show receivedBytes past + held r callbacks ≤ _
        omega
  · rw [hresponse, onCurl.send] at hanswer
    cases hsend : LibcurlTransport.send (curl past) host true r with
    | error message =>
        rw [hsend] at hanswer
        cases hanswer
    | ok sent =>
        rw [hsend] at hanswer
        obtain rfl := Option.some.inj hanswer
        exact length_of_send hsend

end Runs

/-- Surroundings in which every request is performed by the sample library. -/
def libcurlEnv : QueryEnv :=
  { sampleEnv with
    send := fun _ r => (LibcurlTransport.send sampleCurl sampleHost true r).toOption }

/-- A query that is prepared in them. -/
def libcurlPrepared : Outcome QueryError Unit × Client :=
  QueryApiV3Client.prepareInternal libcurlEnv 1 (ascii "SELECT 1") sampleCredentials false {} {}

/-- The query, destroyed. -/
def libcurlWorld : QueryWorld :=
  (handleMachine libcurlEnv).run ⟨libcurlPrepared.2, some (.prepared 0)⟩ [.destroy (.prepared 0)]

theorem libcurlRun :
    QueryRun libcurlEnv (ascii "SELECT 1") sampleCredentials {} false libcurlWorld.client := by
  have hreturns : libcurlPrepared = (.ret (), libcurlPrepared.2) :=
    run_eq_of_fst (by decide +kernel)
  have hended : libcurlWorld.owner.isSome = false := by decide +kernel
  have hrun : QueryRun libcurlEnv (ascii "SELECT 1") sampleCredentials {}
      libcurlWorld.owner.isSome libcurlWorld.client := .handled hreturns _
  rw [hended] at hrun
  exact hrun

/-- The query of the sample, with its cleanup. -/
theorem budget_covers_transfers_sample :
    receivedBytes libcurlWorld.client.log = 2 ∧
      libcurlWorld.client.session.totalResponseBytes.toNat = receivedBytes libcurlWorld.client.log ∧
      ∀ past r answer rest, libcurlWorld.client.log = past ++ .send r answer :: rest →
        (∀ callbacks, if r.cleanupRequest then held r callbacks ≤ 65536
          else receivedBytes past + held r callbacks ≤ 268435456) ∧
        ∀ response, answer = some response → response.body.length =
          held r (sampleCurl.perform (transferOptions sampleHost r)).callbacks :=
  ⟨by decide +kernel, @budget_covers_transfers _ _ _ _ _ _ (fun _ => sampleCurl) sampleHost
    ⟨fun _ _ => rfl⟩ libcurlRun⟩

end LibcurlTransport

end Data360
