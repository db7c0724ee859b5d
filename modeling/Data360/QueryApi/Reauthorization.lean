import Data360.JsonQueryResponseCodec
import Data360.QueryApi.Accounting

/-!
# Requests to log in again

`JsonQueryResponseCodec` throws a `ReauthRequiredException` when a response asks
to log in again.  On its way out of a call, the exception passes the handlers of
`Session::Decode` and of `NextArrowChunk`.

* `AsksLogin` says which responses ask, and `AskedSince` that one has arrived
  within the bytes that were left.
* `Relays` is what every part of a call does: it throws the exception exactly
  when it was asked to.  `relays_sendDecode` is the step lemma.
* `reauth_reported_iff` is the result for every call.
-/

namespace Data360

open Lib Lib.ByteString Lib.Prog Session

/-! ## Responses that ask -/

/-- The response asks to log in again: 401, or 403 with an error object that says so. -/
def AsksLogin (readers : JsonReaders) (response : HttpResponse) : Prop :=
  response.status = 401 ∨ (response.status = 403 ∧ ∃ object,
    (readers.plain response.body = some (.object object) ∨
      readers.plain response.body = some (.array [.object object])) ∧
    object.lookup (ascii "errorCode") = some (.string (ascii "INVALID_SESSION_ID")))

theorem stringMember_eq_some {object : List (Bytes × Json.Value)} {key text : Bytes} :
    JsonQueryResponseCodec.stringMember object key = some text ↔
      object.lookup key = some (.string text) := by
  rw [JsonQueryResponseCodec.stringMember]
  split
  · next hlookup => rw [hlookup]; simp
  · next hother =>
      refine iff_of_false nofun fun hlookup => ?_
      exact hother text hlookup

/-- `HasInvalidSessionCode`, over the value that the body is read into. -/
theorem hasInvalidSessionCode_iff {readers : JsonReaders} {body : Bytes} :
    JsonQueryResponseCodec.hasInvalidSessionCode readers body = true ↔ ∃ object,
      (readers.plain body = some (.object object) ∨
        readers.plain body = some (.array [.object object])) ∧
      object.lookup (ascii "errorCode") = some (.string (ascii "INVALID_SESSION_ID")) := by
  rw [JsonQueryResponseCodec.hasInvalidSessionCode]
  cases readers.plain body with
  | none => simp
  | some root =>
      cases root with
      | object members => simp [stringMember_eq_some]
      | array items =>
          match items with
          | [] => simp
          | [first] => cases first <;> simp [stringMember_eq_some]
          | _ :: _ :: _ => simp
      | null | bool | number | string => simp

/-- The codec throws a `ReauthRequiredException` at the responses that ask. -/
theorem decode_asksLogin_iff {readers : JsonReaders} {response : HttpResponse} :
    JsonQueryResponseCodec.decode readers response = .error .reauthRequired ↔
      AsksLogin readers response := by
  rw [JsonQueryResponseCodec.decode_reauthRequired_iff, hasInvalidSessionCode_iff, AsksLogin]

/-- What the codec answers. -/
def codecAnswer : Except CodecError QueryResponse → Decoded
  | .ok response => .response response
  | .error .reauthRequired => .reauthRequired
  | .error (.runtimeError _) => .failure

/-- Surroundings with a `JsonQueryResponseCodec`. -/
def codecEnv (readers : JsonReaders) (env : QueryEnv) : QueryEnv :=
  { env with decode := fun _ response => codecAnswer (JsonQueryResponseCodec.decode
    readers response) }

variable {readers : JsonReaders} {env : QueryEnv} {options : QueryOptions}
  {base log : List QueryEvent} {α : Type}

/-- A response has arrived since `base` that was within the bytes left of the limit
and asks to log in again. -/
def AskedSince (readers : JsonReaders) (limit : Nat) (base log : List QueryEvent) : Prop :=
  ∃ past r response, base <+: past ∧ past ++ [.send r (some response)] <+: log ∧
    r.cleanupRequest = false ∧ response.body.length ≤ limit - acceptedBytes limit past ∧
    AsksLogin readers response

/-- One more event. -/
theorem askedSince_concat {limit : Nat} {e : QueryEvent} :
    AskedSince readers limit base (log ++ [e]) ↔ AskedSince readers limit base log ∨
      (base <+: log ∧ ∃ r response, e = .send r (some response) ∧ r.cleanupRequest = false ∧
        response.body.length ≤ limit - acceptedBytes limit log ∧ AsksLogin readers response) := by
  constructor
  · rintro ⟨past, r, response, hbase, hsent, hown, hfits, hasks⟩
    rcases List.prefix_concat_iff.mp hsent with hsame | hpast
    · obtain ⟨rfl, hlast⟩ := List.append_inj' hsame rfl
      exact .inr ⟨hbase, r, response, (List.cons.inj hlast).1.symm, hown, hfits, hasks⟩
    · exact .inl ⟨past, r, response, hbase, hpast, hown, hfits, hasks⟩
  · rintro (⟨past, r, response, hbase, hpast, hown, hfits, hasks⟩ |
      ⟨hbase, r, response, rfl, hown, hfits, hasks⟩)
    · exact ⟨past, r, response, hbase, hpast.trans (List.prefix_append _ _), hown, hfits, hasks⟩
    · exact ⟨log, r, response, hbase, List.prefix_rfl, hown, hfits, hasks⟩

theorem askedSince_unsent {limit : Nat} {e : QueryEvent} (he : sends [e] = []) :
    AskedSince readers limit base (log ++ [e]) ↔ AskedSince readers limit base log := by
  rw [askedSince_concat]
  refine or_iff_left ?_
  rintro ⟨-, r, response, rfl, -⟩
  cases he

/-- Nobody has asked before a call begins. -/
theorem not_askedSince_self (limit : Nat) (log : List QueryEvent) :
    ¬ AskedSince readers limit log log := by
  rintro ⟨past, r, response, hbase, hsent, -⟩
  have hlength := (hsent.trans hbase).length_le
  rw [List.length_append] at hlength
  exact Nat.not_succ_le_self _ hlength

/-! ## Programs that relay the request -/

/-- The session counts its bytes, and nobody has asked since `base`. -/
structure Unasked (readers : JsonReaders) (options : QueryOptions) (base : List QueryEvent)
    (c : Client) : Prop where
  metered : Metered options (Tally.Receives options) c
  since : base <+: c.log
  unasked : ¬ AskedSince readers options.maxTotalResponseBytes.toNat base c.log

/-- A throw asks to log in again exactly when somebody has asked. -/
def Reports (readers : JsonReaders) (options : QueryOptions) (base : List QueryEvent)
    (e : QueryError) (c : Client) : Prop :=
  e = .reauthRequired ↔ AskedSince readers options.maxTotalResponseBytes.toNat base c.log

/-- A program that throws a `ReauthRequiredException` exactly when somebody asks. -/
abbrev Relays (readers : JsonReaders) (options : QueryOptions) (base : List QueryEvent)
    (prog : Query α) : Prop :=
  Leads (Unasked readers options base) (Reports readers options base) prog

theorem Unasked.reports {c : Client} (h : Unasked readers options base c) {e : QueryError}
    (he : e ≠ .reauthRequired) : Reports readers options base e c :=
  iff_of_false he h.unasked

/-- A change of the session that leaves its options, its bytes and the kind of its
request alone. -/
theorem Unasked.edit {c : Client} (h : Unasked readers options base c) {f : Session → Session}
    (hoptions : (f c.session).options = c.session.options)
    (hbytes : (f c.session).totalResponseBytes = c.session.totalResponseBytes)
    (hcleanup : (f c.session).request.cleanupRequest = c.session.request.cleanupRequest) :
    Unasked readers options base (c.onSession f) := by
  obtain ⟨⟨hlog, hown, hkind, hle⟩, hsince, hunasked⟩ := h
  refine ⟨⟨?_, hoptions.trans hown, hcleanup.trans hkind, ?_⟩, hsince, hunasked⟩
  · rw [onSession_session, hbytes]
    exact hlog
  · show (f c.session).totalResponseBytes ≤ options.maxTotalResponseBytes
    rw [hbytes]
    exact hle

theorem relays_modify {f : Session → Session} (hoptions : ∀ s, (f s).options = s.options)
    (hbytes : ∀ s, (f s).totalResponseBytes = s.totalResponseBytes)
    (hcleanup : ∀ s, (f s).request.cleanupRequest = s.request.cleanupRequest) :
    Relays readers options base (modify f) :=
  fun _ h => h.edit (hoptions _) (hbytes _) (hcleanup _)

theorem relays_raiseIf (condition : Prop) [Decidable condition] {e : QueryError}
    (he : e ≠ .reauthRequired) : Relays readers options base (raiseIf condition e) :=
  leads_raiseIf _ _ fun _ h => h.reports he

theorem idle_unasked (limit : Nat) (bytes : UInt64) (base : List QueryEvent) :
    Idle fun log => LogAt limit bytes log ∧ base <+: log ∧ ¬ AskedSince readers limit base log where
  quiet h hquiet :=
    ⟨(idle_logAt limit bytes).quiet h.1 hquiet, h.2.1.trans (List.prefix_append _ _),
    fun hasked => h.2.2 ((askedSince_unsent (sends_quiet hquiet)).mp hasked)⟩
  reading h hrests := ⟨(idle_logAt limit bytes).reading h.1 hrests,
    h.2.1.trans (List.prefix_append _ _), fun hasked => h.2.2 ((askedSince_unsent rfl).mp hasked)⟩

/-- A program that leaves the session alone, sends nothing and has its own errors. -/
theorem relays_of_idle {prog : Query α}
    (hkeeps : ∀ (L : List QueryEvent → Prop) (s : Session), Idle L → Keeps (Ongoing L (· = s)) prog)
    (herror : Leads (fun _ => True) (fun e _ => e ≠ .reauthRequired) prog) :
    Relays readers options base prog := by
  intro c h
  let L (log : List QueryEvent) : Prop :=
    LogAt options.maxTotalResponseBytes.toNat c.session.totalResponseBytes log ∧ base <+: log ∧
      ¬ AskedSince readers options.maxTotalResponseBytes.toNat base log
  have hidle : Idle L := idle_unasked _ _ _
  have hsame (c' : Client) (h' : Ongoing L (· = c.session) c') :
      Unasked readers options base c' := by
    obtain ⟨⟨hlog, hsince, hunasked⟩, hsession⟩ := h'
    refine ⟨⟨?_, ?_⟩, hsince, hunasked⟩
    · rw [hsession]
      exact hlog
    · rw [hsession]
      exact h.metered.tally
  refine wp_mono (wp_and (hkeeps _ c.session hidle c ⟨⟨h.metered.log, h.since, h.unasked⟩, rfl⟩)
    (herror c trivial)) (fun _ c' h => hsame c' h.1) (fun _ c' h => (hsame c' h.1).reports h.2)
    fun c' h => hsame c' h.1

/-! ## The parts of a call -/

theorem isCancelled_own :
    Leads (fun _ => True) (fun e _ => e ≠ .reauthRequired) (isCancelled env) :=
  fun _ _ => wp_isCancelled (fun _ _ => trivial) nofun

theorem checkActive_own :
    Leads (fun _ => True) (fun e _ => e ≠ .reauthRequired) (checkActive env) :=
  leads_bind (leads_bind isCancelled_own fun _ => leads_raiseIf _ _ fun _ _ => nofun) fun _ =>
    leads_bind (fun _ _ => wp_nowMs (fun _ _ => trivial) nofun) fun _ =>
    leads_bind (leads_read _) fun _ => leads_raiseIf _ _ fun _ _ => nofun

theorem relays_checkActive : Relays readers options base (checkActive env) :=
  relays_of_idle (fun _ _ hL => keeps_checkActive hL) checkActive_own

theorem relays_checkCancelled : Relays readers options base (checkCancelled env) :=
  relays_of_idle (fun _ _ hL => keeps_checkCancelled hL)
    (leads_bind isCancelled_own fun _ => leads_raiseIf _ _ fun _ _ => nofun)

theorem relays_sleepMs (milliseconds : UInt64) :
    Relays readers options base (sleepMs env milliseconds) :=
  relays_of_idle (fun _ _ hL => keeps_sleepMs hL milliseconds)
    fun _ _ => wp_sleepMs trivial nofun

theorem relays_remember (response : QueryResponse) :
    Relays readers options base (rememberQueryId response) := by
  refine leads_bind ?_ fun _ => ?_
  · exact leads_ite _ (leads_pure _) (leads_bind (relays_raiseIf _ nofun) fun _ =>
      leads_bind (leads_read _) fun _ => leads_bind (relays_raiseIf _ nofun) fun _ =>
      relays_modify (fun _ => rfl) (fun _ => rfl) fun _ => rfl)
  · refine leads_ite _ (leads_bind (leads_read _) fun _ =>
      leads_bind (relays_raiseIf _ nofun) fun _ => ?_) (leads_pure _)
    refine relays_modify (fun s => ?_) (fun s => ?_) fun s => ?_
    all_goals
      split
      · rfl
      · rfl

theorem relays_acceptRows (rows : List (List Cell)) :
    Relays readers options base (acceptRows rows) := by
  induction rows with
  | nil => exact leads_pure _
  | cons row rest ih =>
      exact leads_bind
        (leads_bind (leads_read _) fun _ => leads_bind (relays_raiseIf _ nofun) fun _ =>
        leads_bind (relays_raiseIf _ nofun) fun _ =>
        relays_modify (fun _ => rfl) (fun _ => rfl) fun _ => rfl) fun _ => ih

theorem relays_accept (response : QueryResponse) :
    Relays readers options base (accept response) := by
  refine leads_bind ?_ fun _ => leads_bind (relays_acceptRows _) fun _ => ?_
  · exact leads_bind (leads_read _) fun _ => leads_bind (relays_raiseIf _ nofun) fun _ =>
      leads_bind (relays_raiseIf _ nofun) fun _ => leads_bind (relays_raiseIf _ nofun) fun _ =>
      leads_bind (relays_raiseIf _ nofun) fun _ => relays_raiseIf _ nofun
  · exact leads_bind (leads_read _) fun _ => leads_bind (relays_raiseIf _ nofun) fun _ =>
      leads_bind (relays_modify (fun _ => rfl) (fun _ => rfl) fun _ => rfl) fun _ => leads_pure _

theorem relays_finished :
    Relays readers options base (QueryCursor.finished : Query (Option α)) := by
  refine leads_bind ?_ fun _ => leads_pure _
  exact leads_bind (leads_read _) fun _ => leads_bind (relays_raiseIf _ nofun) fun _ =>
    leads_bind (relays_raiseIf _ nofun) fun _ => leads_bind (relays_raiseIf _ nofun) fun _ =>
    relays_modify (fun _ => rfl) (fun _ => rfl) fun _ => rfl

/-- A response in hand, of a session in which nobody has asked before it. -/
structure InHands (readers : JsonReaders) (options : QueryOptions) (base : List QueryEvent)
    (response : HttpResponse) (c : Client) : Prop where
  metered : Metered options (Tally.Receives options) c
  since : base <+: c.log
  asks : AskedSince readers options.maxTotalResponseBytes.toNat base c.log ↔
    AsksLogin readers response

theorem InHands.decoded {response : HttpResponse} {c : Client}
    (h : InHands readers options base response c) (answer : Decoded) :
    InHands readers options base response (c.record (.decode response answer)) :=
  ⟨⟨h.metered.log.unsent rfl, h.metered.tally⟩, h.since.trans (List.prefix_append _ _),
    (askedSince_unsent rfl).trans h.asks⟩

/-- `Send` returns what has arrived within the bytes that are left; what it throws are
its own errors. -/
theorem wp_send_unasked {c : Client} (h : Unasked readers options base c) :
    wp (send env)
      (fun response => InHands readers options base response) (Reports readers options base)
      (fun _ => False) c := by
  have hmetered : Keeps (Metered options (Tally.Receives options)) (send env) :=
    keeps_send_metered (fun _ h => h) fun _ _ h hle => ⟨h.own, h.cleanup, hle⟩
  suffices hlog : wp (send env)
      (fun response c' => base <+: c'.log ∧
        (AskedSince readers options.maxTotalResponseBytes.toNat base c'.log ↔
          AsksLogin readers response))
      (Reports readers options base) (fun _ => False) c from
    wp_mono (wp_and (hmetered c h.metered) hlog) (fun _ _ h => ⟨h.1, h.2.1, h.2.2⟩)
      (fun _ _ h => h.2) fun _ h => h.2
  rw [send, wp_bind]
  refine wp_mono (wp_and (relays_checkActive c h) (total_checkActive c)) ?_ (fun _ _ h => h.1)
    fun _ h => h.2
  intro _ c₁ h₁
  obtain ⟨h₁, -⟩ := h₁
  rw [wp_bind]
  refine wp_nowMs (fun now _ => ?_) ?_
  · have h₂ : Unasked readers options base (c₁.record (.nowMs (some now))) :=
      ⟨⟨h₁.metered.log.unsent rfl, h₁.metered.tally⟩, h₁.since.trans (List.prefix_append _ _),
        fun hasked => h₁.unasked ((askedSince_unsent rfl).mp hasked)⟩
    have hremaining := h₂.metered.remaining
    rw [wp_bind, wp_look, wp_bind, wp_modify, wp_bind, wp_look, wp_bind, wp_catchAll]
    refine wp_transportSend (fun response _ => ?_) ?_
    · rw [wp_bind, wp_raiseIf]
      refine ⟨fun hmore => iff_of_false (by simp) fun hasked => ?_, fun hfits => ?_⟩
      · rcases askedSince_concat.mp hasked with hbefore | ⟨-, _, _, hsent, -, hfits, -⟩
        · exact h₂.unasked hbefore
        · cases hsent
          exact Nat.not_lt.mpr hfits (hremaining ▸ hmore)
      · rw [wp_bind, wp_modify]
        refine ⟨h₂.since.trans (List.prefix_append _ _),
          askedSince_concat.trans ⟨?_, fun hasks => ?_⟩⟩
        · rintro (hbefore | ⟨-, _, _, hsent, -, -, hasks⟩)
          · exact (h₂.unasked hbefore).elim
          · cases hsent
            exact hasks
        · exact .inr ⟨h₂.since, _, _, rfl, h₁.metered.tally.cleanup,
            hremaining ▸ Nat.not_lt.mp hfits, hasks⟩
    · -- the request stays without response
      let L (log : List QueryEvent) : Prop :=
        ¬ AskedSince readers options.maxTotalResponseBytes.toNat base log
      have hidle : Idle L :=
        ⟨fun h hquiet hasked => h ((askedSince_unsent (sends_quiet hquiet)).mp hasked),
        fun h _ hasked => h ((askedSince_unsent rfl).mp hasked)⟩
      have hkeeps : Keeps (Ongoing L fun _ => True) (transportFailed env) :=
        keeps_bind (keeps_checkActive hidle) fun _ => keeps_raise _
      have herror : Leads (fun _ => True) (fun e _ => e ≠ .reauthRequired) (transportFailed env) :=
        leads_bind checkActive_own fun _ _ _ => by simp
      refine wp_mono (wp_and (hkeeps _ ⟨fun hasked => ?_, trivial⟩)
        (wp_and (herror _ trivial) (wp_transportFailed _))) (fun _ _ h => h.2.2.elim)
        (fun _ _ h => iff_of_false h.2.1 h.1.log) fun _ h => h.2.2
      rcases askedSince_concat.mp hasked with hbefore | ⟨-, _, _, hsent, -⟩
      · exact h₂.unasked hbefore
      · cases hsent
  · exact iff_of_false (by simp) fun hasked => h₁.unasked ((askedSince_unsent rfl).mp hasked)

/-- What the codec answers to a response: it asks to log in again exactly when the
response does. -/
theorem wp_codecDecode_asks (response : HttpResponse) (c : Client) :
    wp (codecDecode (codecEnv readers env) response)
      (fun _ c' => ¬ AsksLogin readers response ∧ ∃ answer, c' = c.record (.decode response answer))
      (fun e c' => (e = .reauthRequired ↔ AsksLogin readers response) ∧
        ∃ answer, c' = c.record (.decode response answer)) (fun _ => False) c := by
  rw [← decode_asksLogin_iff]
  unfold wp codecDecode
  rw [show (codecEnv readers env).decode c.log response
    = codecAnswer (JsonQueryResponseCodec.decode readers response) from rfl]
  cases JsonQueryResponseCodec.decode readers response with
  | ok decoded => exact ⟨nofun, _, rfl⟩
  | error e =>
      cases e with
      | reauthRequired => exact ⟨iff_of_true rfl rfl, _, rfl⟩
      | runtimeError message => exact ⟨iff_of_false nofun nofun, _, rfl⟩

/-- `Decode` lets the exception of the codec pass, and turns the others into its own. -/
theorem wp_decode_inHands {response : HttpResponse} {c : Client}
    (h : InHands readers options base response c) :
    wp (decode (codecEnv readers env) response) (fun _ => Unasked readers options base)
      (Reports readers options base) (Unasked readers options base) c := by
  have hother : Relays readers options base (do
      checkCancelled (codecEnv readers env)
      raise (.runtimeError "Data 360 response decoding failed") : Query QueryResponse) :=
    leads_bind relays_checkCancelled fun _ _ h => h.reports (by simp)
  rw [decode, wp_catchAll]
  refine wp_mono (wp_codecDecode_asks response c) (fun _ _ h' => ?_) (fun e _ h' => ?_)
    fun _ h => h.elim
  · obtain ⟨hasks, answer, rfl⟩ := h'
    obtain ⟨hmetered, hsince, hasked⟩ := h.decoded answer
    exact ⟨hmetered, hsince, fun h => hasks (hasked.mp h)⟩
  · obtain ⟨hasks, answer, rfl⟩ := h'
    obtain ⟨hmetered, hsince, hasked⟩ := h.decoded answer
    cases e with
    | reauthRequired => exact hasks.trans hasked.symm
    | logicError | invalidArgument | runtimeError | hook =>
        have hunasked : Unasked readers options base (c.record (.decode response answer)) :=
          ⟨hmetered, hsince, fun h => absurd (hasks.mpr (hasked.mp h)) (by simp)⟩
        exact hother _ hunasked

/-- Sending a request and decoding its response. -/
theorem relays_sendDecode : Relays readers options base (do
    let response ← send (codecEnv readers env)
    decode (codecEnv readers env) response) := by
  intro c h
  rw [wp_bind]
  exact wp_mono (wp_send_unasked h) (fun _ _ h => wp_decode_inHands h) (fun _ _ h => h)
    fun _ h => h.elim

/-- The handler of `NextArrowChunk` asks the codec only whether to log in again. -/
theorem wp_arrowFailed_inHands {response : HttpResponse} {c : Client}
    (h : InHands readers options base response c) :
    wp (QueryCursor.arrowFailed (codecEnv readers env) response)
      (fun _ => Unasked readers options base)
      (Reports readers options base) (Unasked readers options base) c := by
  rw [QueryCursor.arrowFailed, wp_bind, wp_catchAll]
  refine wp_mono (wp_codecDecode_asks response c) (fun _ _ h' => ?_) (fun e _ h' => ?_)
    fun _ h => h.elim
  · obtain ⟨hasks, answer, rfl⟩ := h'
    exact iff_of_false (by simp [QueryCursor.chunkFailed]) fun hasked =>
      hasks ((h.decoded answer).asks.mp hasked)
  · obtain ⟨hasks, answer, rfl⟩ := h'
    have hreports := hasks.trans (h.decoded answer).asks.symm
    cases e with
    | reauthRequired => exact hreports
    | logicError | invalidArgument | runtimeError | hook =>
        exact iff_of_false (by simp [QueryCursor.chunkFailed]) fun hasked =>
          absurd (hreports.mpr hasked) (by simp)

/-! ## Preparing -/

/-- A request, its response, and the rest. -/
theorem relays_received {next : QueryResponse → Query α}
    (hnext : ∀ decoded, Relays readers options base (next decoded)) :
    Relays readers options base (do
      let response ← send (codecEnv readers env)
      let decoded ← decode (codecEnv readers env) response
      next decoded) := by
  intro c h
  rw [wp_bind]
  refine wp_mono (wp_send_unasked h) (fun response c₁ h₁ => ?_) (fun _ _ h => h) fun _ h => h.elim
  rw [wp_bind]
  exact wp_mono (wp_decode_inHands h₁) (fun decoded c₂ h₂ => hnext decoded c₂ h₂) (fun _ _ h => h)
    fun _ h => h

theorem relays_exchange :
    Relays readers options base (QueryApiV3Client.exchange (codecEnv readers env)) :=
  relays_received fun decoded => leads_bind (relays_remember decoded) fun _ =>
    leads_bind relays_checkActive fun _ => leads_pure _

theorem relays_poll (fuel : Nat) (decoded : QueryResponse) :
    Relays readers options base (QueryApiV3Client.poll (codecEnv readers env) fuel decoded) := by
  induction fuel generalizing decoded with
  | zero => exact leads_outOfFuel
  | succ fuel ih =>
      apply leads_ite
      · exact leads_pure _
      · exact leads_bind (leads_read _) fun _ => leads_bind (relays_raiseIf _ nofun) fun _ =>
          leads_bind (relays_sleepMs _) fun _ => leads_bind relays_checkActive fun _ =>
          leads_bind (relays_modify (fun _ => rfl) (fun _ => rfl) fun _ => rfl) fun _ =>
          leads_bind relays_exchange fun next => ih next

theorem relays_fetchMetadata :
    Relays readers options base (QueryApiV3Client.fetchMetadata (codecEnv readers env)) :=
  leads_bind (relays_modify (fun _ => rfl) (fun _ => rfl) fun _ => rfl) fun _ =>
    relays_received fun _ => leads_bind (relays_raiseIf _ nofun) fun _ =>
    leads_bind (relays_modify (fun _ => rfl) (fun _ => rfl) fun _ => rfl) fun _ =>
    relays_raiseIf _ nofun

theorem relays_prepareBody (fuel : Nat) :
    Relays readers options base (QueryApiV3Client.prepareBody (codecEnv readers env) fuel) := by
  refine leads_bind relays_exchange fun submitted => leads_bind (relays_poll fuel submitted)
    fun decoded => leads_bind ?_ fun _ => leads_bind (leads_read _) fun _ => relays_raiseIf _ nofun
  refine leads_bind (relays_raiseIf _ nofun) fun _ => leads_ite _ ?_
    (relays_modify (fun _ => rfl) (fun _ => rfl) fun _ => rfl)
  exact leads_bind (leads_read _) fun _ => leads_bind (relays_raiseIf _ nofun) fun _ =>
    leads_bind (relays_modify (fun _ => rfl) (fun _ => rfl) fun _ => rfl) fun _ =>
    leads_bind (relays_raiseIf _ nofun) fun _ => leads_bind (relays_raiseIf _ nofun) fun _ =>
    relays_fetchMetadata

/-- A cleanup is no request that asks. -/
theorem askedSince_cancel {limit : Nat} {c : Client} :
    AskedSince readers limit base (cancel env c).log ↔ AskedSince readers limit base c.log := by
  rw [cancel]
  split
  · exact Iff.rfl
  · refine askedSince_concat.trans (or_iff_left ?_)
    rintro ⟨-, r, response, hsent, hown, -⟩
    obtain ⟨rfl, -⟩ := QueryEvent.send.inj hsent
    cases hown

theorem Reports.cancel {e : QueryError} {c : Client} (h : Reports readers options base e c) :
    Reports readers options base e (cancel env c) := h.trans askedSince_cancel.symm

theorem relays_onRaise {body : Query α} (h : Relays readers options base body) :
    Relays readers options base (onRaise body (update (cancel env))) := by
  intro c hc
  rw [wp_onRaise]
  exact wp_mono (h c hc) (fun _ _ h => h) (fun _ _ h => h.cancel) fun _ h => h

/-! ## Calls -/

theorem relays_deliver (response : QueryResponse) :
    Relays readers options base (QueryCursor.deliver env response) := by
  refine leads_bind (relays_remember response) fun _ => leads_bind relays_checkActive fun _ =>
    leads_bind (relays_accept response) fun accepted => leads_bind ?_ fun _ => leads_pure _
  refine relays_modify (fun s => ?_) (fun s => ?_) fun s => ?_
  all_goals
    unfold QueryCursor.follow
    split
    · rfl
    · rfl

theorem relays_nextChunk :
    Relays readers options base (QueryCursor.nextChunk (codecEnv readers env)) := by
  refine leads_bind (leads_read _) fun _ => leads_bind (relays_raiseIf _ nofun) fun _ =>
    leads_ite _ (leads_pure _) (leads_bind (relays_raiseIf _ nofun) fun _ =>
    relays_onRaise (leads_bind (leads_read _) fun _ => leads_ite _ ?_ ?_))
  · refine leads_bind (leads_read _) fun _ => leads_ite _ relays_finished ?_
    exact leads_bind (leads_bind (relays_modify (fun _ => rfl) (fun _ => rfl) fun _ => rfl) fun _ =>
      relays_sendDecode) fun response => relays_deliver response
  · refine leads_bind (leads_read _) fun s => ?_
    cases s.bufferedDirect with
    | some response =>
        exact leads_bind (relays_modify (fun _ => rfl) (fun _ => rfl) fun _ => rfl) fun _ =>
          relays_deliver response
    | none =>
        refine leads_ite _ relays_finished (leads_bind ?_ fun response => relays_deliver response)
        exact leads_bind (leads_read _) fun _ => leads_bind (relays_raiseIf _ nofun) fun _ =>
          leads_bind (relays_modify (fun _ => rfl) (fun _ => rfl) fun _ => rfl) fun _ =>
          relays_sendDecode

/-- A response of `NextArrowChunk`: what the codec would refuse is shown to it. -/
theorem relays_fetchArrow :
    Relays readers options base (QueryCursor.fetchArrow (codecEnv readers env)) := by
  refine leads_bind (relays_modify (fun _ => rfl) (fun _ => rfl) fun _ => rfl) fun _ c h => ?_
  rw [wp_bind]
  refine wp_mono (wp_send_unasked h) (fun response c₁ h₁ => ?_) (fun _ _ h => h) fun _ h => h.elim
  rw [wp_ite]
  refine ⟨fun _ => ?_, fun hsuccess => ?_⟩
  · rw [wp_bind]
    exact wp_mono (wp_arrowFailed_inHands h₁) (fun _ _ h => h) (fun _ _ h => h) fun _ h => h
  · have hunasked : Unasked readers options base c₁ := by
      refine ⟨h₁.metered, h₁.since, fun hasked => hsuccess ?_⟩
      rcases h₁.asks.mp hasked with hstatus | ⟨hstatus, -⟩
      · omega
      · omega
    have hrest : Relays readers options base (do
        checkActive (codecEnv readers env)
        modify fun s => { s with arrowResponseOutstanding := true }
        pure (some response)) :=
      leads_bind relays_checkActive fun _ =>
        leads_bind (relays_modify (fun _ => rfl) (fun _ => rfl) fun _ => rfl) fun _ => leads_pure _
    exact hrest c₁ hunasked

theorem relays_nextArrowChunk :
    Relays readers options base (QueryCursor.nextArrowChunk (codecEnv readers env)) :=
  leads_bind (leads_read _) fun _ => leads_bind (relays_raiseIf _ nofun) fun _ =>
    leads_bind (relays_raiseIf _ nofun) fun _ => leads_ite _ (leads_pure _)
    (leads_bind (relays_raiseIf _ nofun) fun _ => relays_onRaise
    (leads_bind relays_checkActive fun _ => leads_bind (leads_read _) fun _ =>
    leads_ite _ relays_finished relays_fetchArrow))

theorem relays_reportArrowChunk (decodedRows : UInt64) :
    Relays readers options base (QueryCursor.reportArrowChunk env decodedRows) :=
  leads_bind (leads_read _) fun _ => leads_bind (relays_raiseIf _ nofun) fun _ =>
    relays_onRaise (leads_bind relays_checkActive fun _ => leads_bind (leads_read _) fun _ =>
    leads_bind (relays_raiseIf _ nofun) fun _ => leads_bind (relays_raiseIf _ nofun) fun _ =>
    relays_modify (fun _ => rfl) (fun _ => rfl) fun _ => rfl)

theorem relays_cursorCall (call : CursorCall) :
    Relays readers options base (call.program (codecEnv readers env)) := by
  cases call with
  | nextChunk => exact leads_bind relays_nextChunk fun _ => leads_pure _
  | nextArrowChunk => exact leads_bind relays_nextArrowChunk fun _ => leads_pure _
  | reportArrowChunk decodedRows =>
      exact leads_bind (relays_reportArrowChunk decodedRows) fun _ => leads_pure _

/-- `PrepareInternal`, from its start. -/
theorem wp_prepareInternal_relays (fuel : Nat) (sql : Bytes) (credentials : QueryCredentials)
    (metadataOnly : Bool) :
    wp (QueryApiV3Client.prepareInternal (codecEnv readers env) fuel sql credentials metadataOnly
        options)
      (fun _ => Unasked readers options []) (Reports readers options [])
      (Unasked readers options [])
      {} := by
  have hunsent {log : List QueryEvent} (h : sends log = []) :
      ¬ AskedSince readers options.maxTotalResponseBytes.toNat [] log := by
    rintro ⟨past, r, response, -, ⟨rest, rfl⟩, -⟩
    simp at h
  refine wp_prepareInternal_of_body (fun _ _ h => h.cancel)
    (fun flag now => relays_prepareBody fuel _ ?_)
    fun e c he h _ => iff_of_false he (hunsent (sends_of_quiet h.log))
  exact ⟨⟨logAt_unsent rfl, rfl, rfl, UInt64.le_iff_toNat_le.mpr (Nat.zero_le _)⟩, List.nil_prefix,
    hunsent rfl⟩

/-- A call with a session that goes when the call ends. -/
theorem wp_scope_relays {fuel : Nat} {sql : Bytes} {credentials : QueryCredentials}
    {metadataOnly : Bool} {body : Query α} (hbody : Relays readers options [] body) :
    wp (do
        QueryApiV3Client.prepareInternal (codecEnv readers env) fuel sql credentials
          metadataOnly options
        withDestructor body (update (cancel (codecEnv readers env))))
      (fun _ => Unasked readers options []) (Reports readers options [])
      (Unasked readers options [])
      {} := by
  have hcancel : Relays readers options [] (update (cancel (codecEnv readers env))) := by
    intro c h
    refine ⟨metered_cancel h.metered, List.nil_prefix, ?_⟩
    exact fun hasked => h.unasked (askedSince_cancel.mp hasked)
  rw [wp_bind]
  refine wp_mono (wp_prepareInternal_relays fuel sql credentials metadataOnly) (fun _ c h => ?_)
    (fun _ _ h => h) fun _ h => h
  exact leads_bind (relays_onRaise hbody)
    (fun value => leads_bind hcancel fun _ => leads_pure value)
    c h

/-! ## The result -/

/-- How a call ends: it throws a `ReauthRequiredException` exactly when a response
has asked for it. -/
def EndsAsAsked (readers : JsonReaders) (options : QueryOptions) (base : List QueryEvent)
    (outcome : Outcome QueryError α) (c : Client) : Prop :=
  outcome = .raise .reauthRequired ↔
    AskedSince readers options.maxTotalResponseBytes.toNat base c.log

theorem endsAsAsked_of_wp {prog : Query α} {c c' : Client} {outcome : Outcome QueryError α}
    (h : wp prog (fun _ => Unasked readers options base) (Reports readers options base)
      (Unasked readers options base) c) (run : prog c = (outcome, c')) :
    EndsAsAsked readers options base outcome c' := by
  rw [wp_iff] at h
  cases outcome with
  | ret value => exact iff_of_false nofun (h.1 value c' run).unasked
  | raise e =>
      rw [EndsAsAsked, Outcome.raise.injEq]
      exact h.2.1 e c' run
  | cut => exact iff_of_false nofun (h.2.2 c' run).unasked

/-- With a `JsonQueryResponseCodec`, every call throws a `ReauthRequiredException`
exactly when a response to one of its requests has arrived within the bytes that
were left and asks for it: `PrepareInternal`, the calls on a cursor in every run,
`Execute` and `ExecuteMetadata`. -/
theorem reauth_reported_iff (readers : JsonReaders) (env : QueryEnv) (sql : Bytes)
    (credentials : QueryCredentials) (options : QueryOptions) :
    (∀ fuel metadataOnly outcome c,
      QueryApiV3Client.prepareInternal (codecEnv readers env) fuel sql credentials
        metadataOnly options {}
        = (outcome, c) → EndsAsAsked readers options [] outcome c) ∧
    (∀ c, QueryRun (codecEnv readers env) sql credentials options true c →
      ∀ (call : CursorCall) outcome c', call.program (codecEnv readers env) c = (outcome, c') →
        EndsAsAsked readers options c.log outcome c') ∧
    (∀ fuel outcome c,
      QueryApiV3Client.execute (codecEnv readers env) fuel sql credentials options
        {} = (outcome, c) →
        EndsAsAsked readers options [] outcome c) ∧
    ∀ fuel outcome c,
      QueryApiV3Client.executeMetadata (codecEnv readers env) fuel sql credentials options {}
        = (outcome, c) → EndsAsAsked readers options [] outcome c := by
  refine ⟨fun fuel metadataOnly outcome c run => ?_, fun c hrun call outcome c' run => ?_,
    fun fuel outcome c run => ?_, fun fuel outcome c run => ?_⟩
  · exact endsAsAsked_of_wp (wp_prepareInternal_relays fuel sql credentials metadataOnly) run
  · have hstart : Unasked readers options c.log c :=
      ⟨(queryRun_metered hrun).mono fun _ h => h.toReceives, List.prefix_rfl,
        not_askedSince_self _ _⟩
    exact endsAsAsked_of_wp (relays_cursorCall call c hstart) run
  · exact endsAsAsked_of_wp (wp_scope_relays (leads_bind (leads_read _) fun _ =>
      leads_bind (leads_executeLoop relays_nextChunk fuel []) fun _ => leads_pure _)) run
  · exact endsAsAsked_of_wp (wp_scope_relays (leads_bind (leads_read _) fun _ => leads_pure _)) run

/-- The answer to a token that is no longer valid. -/
def expiredResponse : HttpResponse where
  status := 403
  body := ascii "\x7b\"errorCode\":\"INVALID_SESSION_ID\"\x7d"

def expiredReaders : JsonReaders :=
  JsonQueryResponseCodec.readersOf expiredResponse.body
    [(ascii "errorCode", .string (ascii "INVALID_SESSION_ID"))]

/-- Surroundings in which every request is answered so. -/
def expiredEnv :
    QueryEnv := scriptedEnv (fun _ => 0) (fun _ => some expiredResponse) fun _ => .failure

/-- The query is submitted once. -/
def expiredRun : Outcome QueryError Unit × Client :=
  QueryApiV3Client.prepareInternal (codecEnv expiredReaders expiredEnv) 1 (ascii "SELECT 1")
    sampleCredentials false {} {}

theorem reauth_reported_iff_expired :
    expiredRun.1 = .raise .reauthRequired ∧
      AskedSince expiredReaders (QueryOptions.maxTotalResponseBytes {}).toNat []
        expiredRun.2.log := by
  have hraised : expiredRun.1 = .raise .reauthRequired := by decide +kernel
  have hreported : EndsAsAsked expiredReaders {} [] expiredRun.1 expiredRun.2 :=
    (reauth_reported_iff expiredReaders expiredEnv
      (ascii "SELECT 1") sampleCredentials {}).1 1 false
      expiredRun.1 expiredRun.2 rfl
  exact ⟨hraised, hreported.mp hraised⟩

end Data360
