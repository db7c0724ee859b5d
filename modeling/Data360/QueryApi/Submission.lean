import Data360.QueryApi.Calls

/-!
# The submission of a query

The first request of `PrepareInternal` is a `POST`, and it is the only one.

* `Submits` says when a client gets as far as to send it, and which time it computes
  the limits of the request at.
* `prepareInternal_posts` says that a run sends the one `POST` then, and else none.
* `prepareInternal_accepts` says that a query with credentials that pass the checks is
  not refused as an invalid argument.
-/

namespace Data360

open Lib Lib.ByteString Lib.Prog Session

/-- The `POST` requests of a log. -/
def posts (log : List QueryEvent) : List HttpRequest :=
  (sends log).filter fun r => r.method = ascii "POST"

/-- From `log`, `Session::Send` gets to the transport, and computes the limits of the
request at the time `now`. -/
structure Reaches (env : QueryEnv) (options : QueryOptions) (startedAtMs : UInt64)
    (log : List QueryEvent) (now : UInt64) : Prop where
  active : env.isCancelled log = some false
  reading : ∃ first, env.nowMs (log ++ [.isCancelled (some false)]) = some first ∧
    first - startedAtMs < options.overallTimeoutMs ∧
    env.nowMs (log ++ [.isCancelled (some false)] ++ [.nowMs (some first)]) = some now

/-- The log of a query whose session starts. -/
def startLog (startedAtMs : UInt64) : List QueryEvent :=
  [.isCancelled (some false), .nowMs (some startedAtMs)]

/-- A session that is about to submit its query. -/
def startSession (sql : Bytes) (credentials : QueryCredentials) (options : QueryOptions)
    (startedAtMs : UInt64) : Session where
  options := options
  credentials := credentials
  startedAtMs := startedAtMs
  request := QueryApiV3Client.submitRequest sql credentials false options

variable {env : QueryEnv} {options : QueryOptions}

/-! ## The first request -/

theorem isCancelled_eq {c : Client} {flag : Bool} (h : env.isCancelled c.log = some flag) :
    isCancelled env c = (.ret flag, c.record (.isCancelled (some flag))) := by
  simp only [isCancelled, h]

theorem nowMs_eq {c : Client} {now : UInt64} (h : env.nowMs c.log = some now) :
    nowMs env c = (.ret now, c.record (.nowMs (some now))) := by
  simp only [nowMs, h]

/-- A session that gets to the transport sends its request, in its limits. -/
theorem wp_send_reached {c : Client} {now : UInt64}
    (h : Reaches env c.session.options c.session.startedAtMs c.log now) :
    wp (send env)
      (fun _ c' => sends c'.log = sends c.log ++ [c.session.limitedRequest now])
      (fun _ c' => sends c'.log = sends c.log ++ [c.session.limitedRequest now])
      (fun _ => False) c := by
  obtain ⟨hactive, first, hfirst, hintime, hnow⟩ := h
  simp only [send, checkActive, checkCancelled, checkDeadline, wp_bind]
  rw [wp_of_ret (isCancelled_eq hactive), wp_raiseIf]
  refine ⟨fun h => absurd h Bool.false_ne_true, fun _ => ?_⟩
  rw [wp_of_ret (nowMs_eq hfirst), wp_look, wp_raiseIf]
  refine ⟨fun hlate => absurd hintime (UInt64.not_lt.mpr hlate), fun _ => ?_⟩
  rw [wp_of_ret (nowMs_eq hnow), wp_look, wp_modify, wp_look, wp_catchAll]
  -- whatever the transport answers, nothing is sent behind the request
  have hsent (answer : Option HttpResponse) {log : List QueryEvent}
      (hgrows : Grows (c.log ++ [.isCancelled (some false)] ++ [.nowMs (some first)] ++
        [.nowMs (some now)] ++ [.send (c.session.limitedRequest now) answer]) log) :
      sends log = sends c.log ++ [c.session.limitedRequest now] := by
    rw [hgrows.sends_eq]
    simp only [sends_append, List.append_assoc]
    rfl
  refine wp_transportSend (fun response _ => ?_) ?_
  · rw [wp_raiseIf]
    exact ⟨fun _ => hsent (some response) (.refl _), fun _ => hsent (some response) (.refl _)⟩
  · have hfailed (base : List QueryEvent) :
        Keeps (Ongoing (Grows base) fun _ => True) (transportFailed env) :=
      keeps_bind (keeps_checkActive (idle_grows base)) fun _ => keeps_raise _
    exact wp_mono (wp_and (hfailed _ _ ⟨.refl _, trivial⟩) (wp_transportFailed _))
      (fun _ _ h => h.2.elim) (fun _ _ h => hsent none h.1.log) fun _ h => h.2

/-- A session that does not get to the transport throws, and sends nothing. -/
theorem wp_send_unreached {c : Client}
    (h : ∀ now, ¬ Reaches env c.session.options c.session.startedAtMs c.log now) :
    wp (send env) (fun _ _ => False) (fun _ c' => sends c'.log = sends c.log)
      (fun _ => False) c := by
  have hstart : Ongoing (Grows c.log) (fun _ => True) c := ⟨.refl _, trivial⟩
  rw [send, wp_bind]
  refine wp_mono
    (wp_and (wp_checkActive_returns c) (keeps_checkActive (idle_grows c.log) c hstart)) ?_
    (fun _ _ hfailed => hfailed.2.log.sends_eq) fun _ hcut => hcut.1
  rintro _ _ ⟨⟨first, rfl, hactive, hfirst, hintime⟩, hgrows⟩
  rw [wp_bind]
  refine wp_nowMs (fun now hnow => ?_) ?_
  · exact (h now ⟨hactive, first, hfirst, hintime, hnow⟩).elim
  · exact (hgrows.log.concat rfl).sends_eq

/-! ## The other requests -/

/-- The log of a session that has posted `expected`. -/
def Posted (expected : List HttpRequest) (log : List QueryEvent) : Prop := posts log = expected

theorem lastingOn_posted (expected : List HttpRequest) :
    LastingOn (fun r => r.method ≠ ascii "POST") (Posted expected) := by
  intro log e he h
  have hother : (sends [e]).filter (fun r => r.method = ascii "POST") = [] := by
    refine List.filter_eq_nil_iff.mpr fun r hr => ?_
    obtain ⟨e', he', hsent⟩ := List.mem_filterMap.mp hr
    rw [List.mem_singleton.mp he'] at hsent
    simpa using he r hsent
  rw [Posted, posts, sends_append, List.filter_append, hother, List.append_nil]
  exact h

variable {expected : List HttpRequest}

/-- A session whose request is no `POST` posts nothing. -/
theorem keeps_send_posted :
    Keeps (Ongoing (Posted expected) fun s => s.request.method ≠ ascii "POST") (send env) := by
  refine keeps_send_on (lastingOn_posted expected) (fun _ h => h) fun s s' h hsent => ?_
  obtain ⟨_, _, _, rfl⟩ := hsent
  exact h

/-- A `GET` is no `POST`. -/
theorem get_ne_post : ascii "GET" ≠ ascii "POST" := by decide

theorem keeps_exchange_posted :
    Keeps (Ongoing (Posted expected) fun s => s.request.method ≠ ascii "POST")
      (QueryApiV3Client.exchange env) := by
  have hidle := LastingOn.idle (lastingOn_posted expected)
  exact keeps_bind keeps_send_posted fun response => keeps_bind (keeps_decode hidle response)
    fun decoded => keeps_bind (keeps_remember (fun _ _ h => h) decoded) fun _ =>
    keeps_bind (keeps_checkActive hidle) fun _ => keeps_pure _

/-- The polls are `GET`s. -/
theorem keeps_poll_posted (fuel : Nat) (decoded : QueryResponse) :
    Keeps (Ongoing (Posted expected) fun _ => True) (QueryApiV3Client.poll env fuel decoded) := by
  have hidle := LastingOn.idle (lastingOn_posted expected)
  induction fuel generalizing decoded with
  | zero => exact keeps_outOfFuel
  | succ fuel ih =>
      refine keeps_ite _ (keeps_pure _) (keeps_bind (keeps_look _) fun s =>
        keeps_bind (keeps_raiseIf _ _) fun _ => keeps_bind (keeps_sleepMs hidle _) fun _ =>
        keeps_bind (keeps_checkActive hidle) fun _ c hc => ?_)
      rw [wp_bind, wp_modify, wp_bind]
      exact wp_mono (keeps_exchange_posted _ ⟨hc.log, get_ne_post⟩)
        (fun next c' h => ih next c' ⟨h.log, trivial⟩) (fun _ _ h => ⟨h.log, trivial⟩)
        fun _ h => ⟨h.log, trivial⟩

/-- The metadata is fetched with a `GET`. -/
theorem keeps_fetchMetadata_posted :
    Keeps (Ongoing (Posted expected) fun _ => True) (QueryApiV3Client.fetchMetadata env) := by
  have hidle := LastingOn.idle (lastingOn_posted expected)
  intro c hc
  rw [QueryApiV3Client.fetchMetadata, wp_bind, wp_modify]
  have hrest : Keeps (Ongoing (Posted expected) fun s => s.request.method ≠ ascii "POST") (do
      let response ← send env
      let decoded ← decode env response
      raiseIf (decoded.state ≠ .complete ∨ decoded.metadata = [])
        (.runtimeError "Data 360 Query API metadata retrieval failed")
      modify fun s => { s with metadata := decoded.metadata }
      raiseIf (QueryApiV3Client.numericIncomplete decoded.metadata = true)
        (.runtimeError "Data 360 Query API numeric metadata was incomplete")) :=
    keeps_bind keeps_send_posted fun response => keeps_bind (keeps_decode hidle response)
      fun _ => keeps_bind (keeps_raiseIf _ _) fun _ => keeps_bind (keeps_modify fun _ h => h)
      fun _ => keeps_raiseIf _ _
  exact wp_mono (hrest _ ⟨hc.log, get_ne_post⟩) (fun _ _ h => ⟨h.log, trivial⟩)
    (fun _ _ h => ⟨h.log, trivial⟩) fun _ h => ⟨h.log, trivial⟩

theorem keeps_openCompleted_posted (decoded : QueryResponse) :
    Keeps (Ongoing (Posted expected) fun _ => True)
      (QueryApiV3Client.openCompleted env decoded) :=
  keeps_bind (keeps_raiseIf _ _) fun _ => keeps_ite _
    (keeps_bind (keeps_look _) fun _ => keeps_bind (keeps_raiseIf _ _) fun _ =>
      keeps_bind (keeps_modify fun _ h => h) fun _ => keeps_bind (keeps_raiseIf _ _) fun _ =>
      keeps_bind (keeps_raiseIf _ _) fun _ => keeps_fetchMetadata_posted)
    (keeps_modify fun _ h => h)

theorem posts_of_sends {log log' : List QueryEvent} {requests : List HttpRequest}
    (h : sends log' = sends log ++ requests) :
    posts log' = posts log ++ requests.filter fun r => r.method = ascii "POST" := by
  rw [posts, h, List.filter_append]
  rfl

/-- The body of a session that gets to the transport posts its request. -/
theorem wp_prepareBody_reached (fuel : Nat) {c : Client} {now : UInt64}
    (hmethod : c.session.request.method = ascii "POST")
    (h : Reaches env c.session.options c.session.startedAtMs c.log now) :
    wp (QueryApiV3Client.prepareBody env fuel)
      (fun _ c' => posts c'.log = posts c.log ++ [c.session.limitedRequest now])
      (fun _ c' => posts c'.log = posts c.log ++ [c.session.limitedRequest now])
      (fun c' => posts c'.log = posts c.log ++ [c.session.limitedRequest now]) c := by
  have hpost {log : List QueryEvent}
    (hlog : sends log = sends c.log ++ [c.session.limitedRequest now]) :
      Posted (posts c.log ++ [c.session.limitedRequest now]) log := by
    rw [Posted, posts_of_sends hlog, List.filter_cons_of_pos, List.filter_nil]
    exact decide_eq_true hmethod
  have hidle := LastingOn.idle (lastingOn_posted (posts c.log ++ [c.session.limitedRequest now]))
  have hlearn (response : HttpResponse) : Keeps
      (Ongoing (Posted (posts c.log ++ [c.session.limitedRequest now])) fun _ => True) (do
        let decoded ← decode env response
        rememberQueryId decoded
        checkActive env
        pure decoded) :=
    keeps_bind (keeps_decode hidle response) fun decoded =>
      keeps_bind (keeps_remember (fun _ _ h => h) decoded) fun _ =>
      keeps_bind (keeps_checkActive hidle) fun _ => keeps_pure _
  have hrest (submitted : QueryResponse) : Keeps
      (Ongoing (Posted (posts c.log ++ [c.session.limitedRequest now])) fun _ => True) (do
        let decoded ← QueryApiV3Client.poll env fuel submitted
        QueryApiV3Client.openCompleted env decoded
        let s ← look id
        raiseIf (s.options.maxColumns.toNat < s.metadata.length)
          (.runtimeError "Data 360 Query API returned too many columns")) :=
    keeps_bind (keeps_poll_posted fuel submitted) fun decoded =>
      keeps_bind (keeps_openCompleted_posted decoded) fun _ =>
      keeps_bind (keeps_look _) fun _ => keeps_raiseIf _ _
  rw [QueryApiV3Client.prepareBody, wp_bind, QueryApiV3Client.exchange, wp_bind]
  refine wp_mono (wp_send_reached h) (fun response c₁ hsent => ?_) (fun _ _ hsent => hpost hsent)
    fun _ hcut => hcut.elim
  refine wp_mono (hlearn response c₁ ⟨hpost hsent, trivial⟩) (fun submitted c₂ h₂ => ?_)
    (fun _ _ h => h.log) fun _ h => h.log
  exact wp_mono (hrest submitted c₂ h₂) (fun _ _ h => h.log) (fun _ _ h => h.log) fun _ h => h.log

/-- The body of a session that does not get to the transport throws. -/
theorem wp_prepareBody_unreached (fuel : Nat) {c : Client}
    (h : ∀ now, ¬ Reaches env c.session.options c.session.startedAtMs c.log now) :
    wp (QueryApiV3Client.prepareBody env fuel) (fun _ _ => False)
      (fun _ c' => posts c'.log = posts c.log) (fun _ => False) c := by
  rw [QueryApiV3Client.prepareBody, wp_bind, QueryApiV3Client.exchange, wp_bind]
  refine wp_mono (wp_send_unreached h) (fun _ _ hret => hret.elim)
    (fun _ c' hsent => ?_) fun _ h => h
  rw [posts, hsent, posts]

theorem posts_cancel (c : Client) : posts (cancel env c).log = posts c.log := by
  unfold cancel
  split
  · rfl
  · have hdelete : c.session.cancellation.method ≠ ascii "POST" := by
      show ascii "DELETE" ≠ ascii "POST"
      decide
    exact lastingOn_posted (posts c.log) c.log _ (fun r hr => Option.some.inj hr ▸ hdelete) rfl

/-! ## The runs -/

/-- The credentials that `PrepareInternal` takes. -/
structure Trusted (credentials : QueryCredentials) : Prop where
  token : credentials.accessToken ≠ []
  url : isTrustedTenantUrl credentials.instanceUrl = true

variable {sql : Bytes} {credentials : QueryCredentials}

theorem Trusted.nonempty (h : Trusted credentials) : credentials.instanceUrl ≠ [] := by
  intro hnil
  have hurl := h.url
  rw [hnil] at hurl
  exact absurd hurl (by decide)

/-- The error of an argument that is refused. -/
def QueryError.IsRefusal : QueryError → Prop
  | .invalidArgument _ => True
  | _ => False

/-- The hooks let the session start, at the time `startedAtMs`. -/
structure Starts (env : QueryEnv) (startedAtMs : UInt64) : Prop where
  active : env.isCancelled [] = some false
  started : env.nowMs [.isCancelled (some false)] = some startedAtMs

/-- A query whose arguments pass the checks runs its body when its session starts. -/
theorem wp_prepareInternal_started {Q : Unit → Client → Prop} {E : QueryError → Client → Prop}
    {C : Client → Prop} {fuel : Nat} {startedAtMs : UInt64} (hsql : sql ≠ [])
    (hcredentials : Trusted credentials) (h : Starts env startedAtMs)
    (body : wp (QueryApiV3Client.prepareBody env fuel) Q
      (fun e c => E e (cancel env (cancel env c))) C
      { session := startSession sql credentials options startedAtMs, log := startLog startedAtMs })
        :
    wp (QueryApiV3Client.prepareInternal env fuel sql credentials false options) Q E C {} := by
  rw [QueryApiV3Client.prepareInternal, wp_bind, checkCancelled, wp_bind,
    wp_of_ret (isCancelled_eq h.active), wp_raiseIf]
  refine ⟨fun hfalse => absurd hfalse Bool.false_ne_true, fun _ => ?_⟩
  simp only [wp_bind, wp_raiseIf, wp_modify, wp_onRaise, wp_update, QueryApiV3Client.prepareSession]
  refine ⟨fun hnil => (hsql hnil).elim,
    fun _ => ⟨fun hnil => ?_, fun _ => ⟨fun hurl => ?_, fun _ => ?_⟩⟩⟩
  · exact (hnil.elim hcredentials.nonempty hcredentials.token).elim
  · exact (hurl hcredentials.url).elim
  · rw [wp_of_ret (nowMs_eq h.started)]
    exact body

/-- A query whose session does not start is stopped by a hook. -/
theorem wp_prepareInternal_unstarted {fuel : Nat} (hsql : sql ≠ [])
    (hcredentials : Trusted credentials) (h : ∀ startedAtMs, ¬ Starts env startedAtMs) :
    wp (QueryApiV3Client.prepareInternal env fuel sql credentials false options) (fun _ _ => False)
      (fun e c => ¬ e.IsRefusal ∧ posts c.log = []) (fun _ => False) {} := by
  rw [QueryApiV3Client.prepareInternal, wp_bind, checkCancelled, wp_bind]
  refine wp_isCancelled (fun flag hflag => ?_) ⟨id, rfl⟩
  rw [wp_raiseIf]
  refine ⟨fun _ => ⟨id, rfl⟩, fun hactive => ?_⟩
  rw [Bool.not_eq_true] at hactive
  subst hactive
  simp only [wp_bind, wp_raiseIf, wp_modify, wp_onRaise, wp_update, QueryApiV3Client.prepareSession]
  refine ⟨fun hnil => (hsql hnil).elim,
    fun _ => ⟨fun hnil => ?_, fun _ => ⟨fun hurl => ?_, fun _ => ?_⟩⟩⟩
  · exact (hnil.elim hcredentials.nonempty hcredentials.token).elim
  · exact (hurl hcredentials.url).elim
  · refine wp_nowMs (fun startedAtMs hstarted => (h startedAtMs ⟨hflag, hstarted⟩).elim) ?_
    rw [cancel_of_empty rfl]
    exact ⟨id, rfl⟩

/-- The client gets to submit the query that it starts at the time `startedAtMs`, and
computes the limits of the request at the time `now`. -/
structure Submits (env : QueryEnv) (options : QueryOptions) (startedAtMs now : UInt64) : Prop
    extends Starts env startedAtMs where
  reaches : Reaches env options startedAtMs (startLog startedAtMs) now

/-- A client that submits its query posts it once. -/
theorem prepareInternal_posts (fuel : Nat) (hsql : sql ≠ []) (hcredentials : Trusted credentials)
    {startedAtMs now : UInt64} (h : Submits env options startedAtMs now) :
    posts (QueryApiV3Client.prepareInternal env fuel sql credentials false options {}).2.log
      = [(startSession sql credentials options startedAtMs).limitedRequest now] := by
  refine wp_final (I := fun c : Client => posts c.log = _).mp
    (wp_prepareInternal_started hsql hcredentials h.toStarts ?_)
  refine wp_mono (wp_prepareBody_reached fuel rfl h.reaches) (fun _ _ h => h) (fun _ c hposts => ?_)
    fun _ h => h
  rw [posts_cancel, posts_cancel]
  exact hposts

/-- A client that does not submit its query posts nothing. -/
theorem prepareInternal_posts_none (fuel : Nat) (hsql : sql ≠ [])
    (hcredentials : Trusted credentials)
    (h : ∀ startedAtMs now, ¬ Submits env options startedAtMs now) :
    posts (QueryApiV3Client.prepareInternal env fuel sql credentials
      false options {}).2.log = [] := by
  refine wp_final (I := fun c : Client => posts c.log = []).mp ?_
  by_cases hstarts : ∃ startedAtMs, Starts env startedAtMs
  · obtain ⟨startedAtMs, hstarts⟩ := hstarts
    refine wp_prepareInternal_started hsql hcredentials hstarts (wp_mono
      (wp_prepareBody_unreached fuel fun now hreaches => h startedAtMs now ⟨hstarts, hreaches⟩)
      (fun _ _ h => h.elim) (fun _ c hposts => ?_) fun _ h => h.elim)
    rw [posts_cancel, posts_cancel, hposts]
    rfl
  · exact wp_mono (wp_prepareInternal_unstarted hsql hcredentials fun startedAtMs h =>
      hstarts ⟨startedAtMs, h⟩) (fun _ _ h => h.elim) (fun _ _ h => h.2) fun _ h => h.elim

/-! ## The errors -/

/-- The program refuses no argument. -/
abbrev NoRefusal {α : Type} (prog : Query α) : Prop :=
  Leads (fun _ => True) (fun e _ => ¬ e.IsRefusal) prog

theorem noRefusal_checkCancelled : NoRefusal (checkCancelled env) :=
  leads_bind (fun _ _ => wp_isCancelled (fun _ _ => trivial) id) fun _ =>
    leads_raiseIf _ _ fun _ _ => id

theorem noRefusal_nowMs : NoRefusal (nowMs env) := fun _ _ => wp_nowMs (fun _ _ => trivial) id

theorem noRefusal_checkActive : NoRefusal (checkActive env) :=
  leads_bind noRefusal_checkCancelled fun _ => leads_bind noRefusal_nowMs fun _ =>
    leads_bind (leads_read _) fun _ => leads_raiseIf _ _ fun _ _ => id

theorem noRefusal_modify (f : Session → Session) : NoRefusal (modify f) := fun _ _ => trivial

theorem noRefusal_send : NoRefusal (send env) := by
  refine leads_bind noRefusal_checkActive fun _ => leads_bind noRefusal_nowMs fun _ =>
    leads_bind (leads_read _) fun _ => leads_bind (noRefusal_modify _) fun _ =>
    leads_bind (leads_read _) fun request => leads_bind (fun c _ => ?_) fun response =>
    leads_bind (leads_raiseIf _ _ fun _ _ => id) fun _ => leads_bind (noRefusal_modify _) fun _ =>
    leads_pure _
  have hfailed : NoRefusal (transportFailed env) := leads_bind noRefusal_checkActive fun _ _ _ => id
  rw [wp_catchAll]
  exact wp_transportSend (fun _ _ => trivial) (hfailed _ trivial)

theorem noRefusal_decode (response : HttpResponse) : NoRefusal (decode env response) := by
  intro c _
  have hfailed : NoRefusal (decodeFailed env .hook) :=
    leads_bind noRefusal_checkCancelled fun _ _ _ => id
  rw [decode, wp_catchAll]
  exact wp_codecDecode (fun _ _ => trivial) id (hfailed _ trivial)

theorem noRefusal_remember (response : QueryResponse) : NoRefusal (rememberQueryId response) := by
  refine leads_bind (leads_ite _ (leads_pure _) ?_) fun _ => leads_ite _ ?_ (leads_pure _)
  · exact leads_bind (leads_raiseIf _ _ fun _ _ => id) fun _ => leads_bind (leads_read _) fun _ =>
      leads_bind (leads_raiseIf _ _ fun _ _ => id) fun _ => noRefusal_modify _
  · exact leads_bind (leads_read _) fun _ => leads_bind (leads_raiseIf _ _ fun _ _ => id) fun _ =>
      noRefusal_modify _

theorem noRefusal_exchange : NoRefusal (QueryApiV3Client.exchange env) :=
  leads_bind noRefusal_send fun response => leads_bind (noRefusal_decode response) fun decoded =>
    leads_bind (noRefusal_remember decoded) fun _ => leads_bind noRefusal_checkActive fun _ =>
    leads_pure _

theorem noRefusal_poll (fuel : Nat) (decoded : QueryResponse) :
    NoRefusal (QueryApiV3Client.poll env fuel decoded) := by
  induction fuel generalizing decoded with
  | zero => exact leads_outOfFuel
  | succ fuel ih =>
      exact leads_ite _ (leads_pure _) (leads_bind (leads_read _) fun _ =>
        leads_bind (leads_raiseIf _ _ fun _ _ => id) fun _ =>
        leads_bind (fun _ _ => wp_sleepMs trivial id) fun _ =>
        leads_bind noRefusal_checkActive fun _ => leads_bind (noRefusal_modify _) fun _ =>
        leads_bind noRefusal_exchange fun next => ih next)

theorem noRefusal_fetchMetadata : NoRefusal (QueryApiV3Client.fetchMetadata env) :=
  leads_bind (noRefusal_modify _) fun _ => leads_bind noRefusal_send fun response =>
    leads_bind (noRefusal_decode response) fun _ =>
      leads_bind (leads_raiseIf _ _ fun _ _ => id) fun _ =>
    leads_bind (noRefusal_modify _) fun _ => leads_raiseIf _ _ fun _ _ => id

theorem noRefusal_prepareBody (fuel : Nat) : NoRefusal (QueryApiV3Client.prepareBody env fuel) := by
  refine leads_bind noRefusal_exchange fun submitted => leads_bind (noRefusal_poll fuel submitted)
    fun decoded => leads_bind ?_ fun _ => leads_bind (leads_read _) fun _ =>
    leads_raiseIf _ _ fun _ _ => id
  refine leads_bind (leads_raiseIf _ _ fun _ _ => id) fun _ => leads_ite _ ?_ (noRefusal_modify _)
  exact leads_bind (leads_read _) fun _ => leads_bind (leads_raiseIf _ _ fun _ _ => id) fun _ =>
    leads_bind (noRefusal_modify _) fun _ => leads_bind (leads_raiseIf _ _ fun _ _ => id) fun _ =>
    leads_bind (leads_raiseIf _ _ fun _ _ => id) fun _ => noRefusal_fetchMetadata

/-- A query with SQL text and trusted credentials is not refused. -/
theorem prepareInternal_accepts (fuel : Nat) (hsql : sql ≠ []) (hcredentials : Trusted credentials)
    {e : QueryError}
    (h : (QueryApiV3Client.prepareInternal env fuel sql credentials false options {}).1 = .raise e)
    :
    ¬ e.IsRefusal := by
  have hwp : wp (QueryApiV3Client.prepareInternal env fuel sql credentials false options)
      (fun _ _ => True) (fun e _ => ¬ e.IsRefusal) (fun _ => True) {} := by
    by_cases hstarts : ∃ startedAtMs, Starts env startedAtMs
    · obtain ⟨startedAtMs, hstarts⟩ := hstarts
      exact wp_prepareInternal_started hsql hcredentials hstarts
        (noRefusal_prepareBody fuel _ trivial)
    · exact wp_mono (wp_prepareInternal_unstarted hsql hcredentials fun startedAtMs h =>
        hstarts ⟨startedAtMs, h⟩) (fun _ _ h => h.elim) (fun _ _ h => h.1) fun _ _ => trivial
  exact (wp_iff.mp hwp).2.1 e _ (run_eq_of_fst h)

end Data360
