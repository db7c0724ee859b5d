import Data360.QueryApi.Sound

/-!
# Preparing a query

What `PrepareInternal` hands out, and what it leaves behind when it throws.

* `Prepared` is a session that no chunk was taken from, with the counts that a
  completed response advertised.
* `wp_prepareInternal` is the specification: a prepared session, or a session
  that was destroyed, or no request at all.
-/

namespace Data360

open Lib Lib.ByteString Lib.Prog Session

variable {env : QueryEnv} {setting : Setting}

/-! ## Events that stay in the log -/

/-- The codec has decoded a response as `decoded`. -/
def HasDecoded (decoded : QueryResponse) (log : List QueryEvent) : Prop :=
  ∃ response, .decode response (.response decoded) ∈ log

theorem lasting_hasDecoded (decoded : QueryResponse) : Lasting (HasDecoded decoded) :=
  fun _ _ h => h.imp fun _ hmem => List.mem_append_left _ hmem

theorem wp_decode_hasDecoded (response : HttpResponse) (c : Client) :
    wp (decode env response) (fun decoded c' => HasDecoded decoded c'.log) (fun _ _ => True)
      (fun _ => True) c := by
  refine wp_mono (wp_decode_returns response c) (fun decoded c' h => ?_) (fun _ _ h => h)
    fun _ h => h
  rw [h]
  exact ⟨response, by simp⟩

/-! ## Prepared sessions -/

/-- No chunk was taken from the session. -/
structure Unread (s : Session) : Prop where
  nextUrl : s.nextUrl = []
  rows : s.rows = 0
  cells : s.cells = 0
  fetchedChunks : s.fetchedChunks = 0
  nextChunkIndex : s.nextChunkIndex = 0
  visitedUrls : s.visitedUrls = []

/-- The session serves what the completed response advertised. -/
structure Serves (decoded : QueryResponse) (s : Session) : Prop where
  complete : decoded.state = .complete
  hasRows : s.hasExpectedRows = decoded.hasRowCount
  rows : s.expectedRows = decoded.rowCount
  chunks : (s.mode = .numberedV3 ∧ s.hasExpectedChunks = true ∧
      s.expectedChunks = decoded.chunkCount) ∨
    (s.mode = .directLegacy ∧ s.bufferedDirect = some decoded)

/-- What `PrepareInternal` hands out. -/
structure Prepared (setting : Setting) (c : Client) : Prop where
  working : c.Working setting
  unread : Unread c.session
  serves : ∃ decoded, HasDecoded decoded c.log ∧ Serves decoded c.session

/-- A session that waits for its query. -/
structure Fresh (setting : Setting) (s : Session) : Prop extends Working setting s, Unread s where
  mode : s.mode = .directLegacy
  buffer : s.bufferedDirect = none

abbrev Client.Fresh (setting : Setting) : Client → Prop :=
  Ongoing (QueryLog setting none) (Data360.Fresh setting)

theorem Client.Fresh.working {c : Client} (h : c.Fresh setting) : c.Working setting :=
  ⟨h.log, h.session.toWorking⟩

theorem sendable_fresh : Sendable setting (Fresh setting) where
  constant := fun _ h => h.constant
  request := fun _ h => h.request
  sent := fun _ s' h hsent => by
    have hworking := h.toWorking.sent hsent
    obtain ⟨_, _, _, rfl⟩ := hsent
    exact ⟨hworking, ⟨h.nextUrl, h.rows, h.cells, h.fetchedChunks, h.nextChunkIndex,
      h.visitedUrls⟩, h.mode, h.buffer⟩

/-- The response that the client has in hand, and its session. -/
structure InHand (setting : Setting) (decoded : QueryResponse) (c : Client) : Prop where
  fresh : c.Fresh setting
  anonymous : c.session.queryId = [] → Anonymous decoded
  hasDecoded : HasDecoded decoded c.log

theorem wp_exchange {c : Client} (h : c.Fresh setting) :
    wp (QueryApiV3Client.exchange env) (fun decoded c' => InHand setting decoded c')
      (fun _ => Client.Working setting) (Client.Working setting) c := by
  have hidle := idle_queryLog setting none
  rw [QueryApiV3Client.exchange, wp_bind]
  refine wp_mono (keeps_send sendable_fresh c h) ?_ (fun _ _ h => Client.Fresh.working h)
    fun _ h => Client.Fresh.working h
  intro response c₁ h₁
  rw [wp_bind]
  refine wp_mono (wp_and (keeps_decode hidle response c₁ h₁) (wp_decode_hasDecoded response c₁)) ?_
    (fun _ _ h => Client.Fresh.working h.1) fun _ h => Client.Fresh.working h.1
  intro decoded c₂ h₂
  obtain ⟨h₂, hdecoded⟩ := h₂
  rw [wp_bind]
  refine wp_mono (wp_rememberQueryId decoded c₂) ?_ ?_ fun _ h => h.elim
  · intro _ c₃ hlearned
    obtain ⟨id, rfl, hid⟩ := hlearned
    have hs := h₂.session
    have hanonymous : id = [] → Anonymous decoded := by
      intro hempty
      refine ⟨?_, ?_⟩
      · by_contra hown
        exact hown ((hid.own hown).symm.trans hempty)
      · by_contra hpath
        have hpath' : isSafeChunkPath decoded.chunk.nextUrl = true := by simpa using hpath
        obtain ⟨_, hsafe, -⟩ := chunkPath_form hpath'
        exact ne_nil_of_isSafeQueryId hsafe ((hid.path hpath').symm.trans hempty)
    have hstart : Ongoing (fun log => QueryLog setting none log ∧ HasDecoded decoded log)
        (fun s => Fresh setting s ∧ (s.queryId = [] → Anonymous decoded))
        (c₂.onSession fun s => { s with queryId := id }) :=
      ⟨⟨h₂.log, hdecoded⟩, ⟨hs.toWorking.learns hid.toLearns, ⟨hs.nextUrl, hs.rows, hs.cells,
        hs.fetchedChunks, hs.nextChunkIndex, hs.visitedUrls⟩, hs.mode,
        hs.buffer⟩, hanonymous⟩
    rw [wp_bind]
    refine wp_mono
      (keeps_checkActive (hidle.and (Lasting.idle (lasting_hasDecoded decoded))) _ hstart)
      (fun _ c₄ h₄ => ?_) (fun _ c₄ h₄ => ⟨h₄.log.1, h₄.session.1.toWorking⟩)
      fun c₄ h₄ => ⟨h₄.log.1, h₄.session.1.toWorking⟩
    exact ⟨⟨h₄.log.1, h₄.session.1⟩, h₄.session.2, h₄.log.2⟩
  · intro _ c₃ hlearns
    obtain ⟨id, rfl, hid⟩ := hlearns
    exact ⟨h₂.log, h₂.session.toWorking.learns hid⟩

/-! ## Polling -/

theorem wp_poll (fuel : Nat) {decoded : QueryResponse} {c : Client}
    (h : InHand setting decoded c) :
    wp (QueryApiV3Client.poll env fuel decoded) (fun decoded c' => InHand setting decoded c')
      (fun _ => Client.Working setting) (Client.Working setting) c := by
  have hidle := idle_queryLog setting none
  induction fuel generalizing decoded c with
  | zero => exact Client.Fresh.working h.fresh
  | succ fuel ih =>
      rw [QueryApiV3Client.poll, wp_ite]
      refine ⟨fun _ => h, fun _ => ?_⟩
      rw [wp_bind, wp_look, wp_bind, wp_raiseIf]
      refine ⟨fun _ => Client.Fresh.working h.fresh, fun hsafe => ?_⟩
      simp only [id_eq, Bool.not_eq_true, Bool.not_eq_false] at hsafe
      have hstart : Ongoing (QueryLog setting none)
          (fun s => Fresh setting s ∧ isSafeQueryId s.queryId = true) c :=
        ⟨h.fresh.log, h.fresh.session, hsafe⟩
      have hworking : ∀ c', Ongoing (QueryLog setting none)
          (fun s => Fresh setting s ∧ isSafeQueryId s.queryId = true) c' →
          Client.Working setting c' := fun _ h => ⟨h.log, h.session.1.toWorking⟩
      rw [wp_bind]
      refine wp_mono (keeps_sleepMs hidle _ c hstart) ?_ (fun _ => hworking) hworking
      intro _ c₁ h₁
      rw [wp_bind]
      refine wp_mono (keeps_checkActive hidle c₁ h₁) ?_ (fun _ => hworking) hworking
      intro _ c₂ h₂
      obtain ⟨hlog, hs, hid⟩ := h₂
      rw [wp_bind, wp_modify, wp_bind]
      have hget := hs.toWorking.get (.query (queryId_of_isSafeQueryId hid))
        c₂.session.request.headers
      have hfresh : Client.Fresh setting
          (c₂.onSession fun s => { s with request := s.getRequest s.queryUrl }) := by
        refine ⟨hlog, ?_, ⟨hs.nextUrl, hs.rows, hs.cells, hs.fetchedChunks, hs.nextChunkIndex,
          hs.visitedUrls⟩, hs.mode, hs.buffer⟩
        rw [← List.append_assoc] at hget
        exact hget
      exact wp_mono (wp_exchange hfresh) (fun decoded c₃ h₃ => ih h₃) (fun _ _ h => h) fun _ h => h

/-! ## The completed query -/

/-- A numbered session that serves `decoded`. -/
structure Opened (setting : Setting) (decoded : QueryResponse) (s : Session) : Prop
    extends Working setting s, Unread s where
  serves : Serves decoded s
  mode : s.mode = .numberedV3

theorem sendable_opened (decoded : QueryResponse) : Sendable setting (Opened setting decoded) where
  constant := fun _ h => h.constant
  request := fun _ h => h.request
  sent := fun _ s' h hsent => by
    have hworking := h.toWorking.sent hsent
    obtain ⟨_, _, _, rfl⟩ := hsent
    exact ⟨hworking, ⟨h.nextUrl, h.toUnread.rows, h.cells, h.fetchedChunks, h.nextChunkIndex,
      h.visitedUrls⟩, ⟨h.serves.complete, h.serves.hasRows, h.serves.rows,
      h.serves.chunks⟩, h.mode⟩

theorem Opened.metadataRequest {decoded : QueryResponse} {s : Session}
    (h : Opened setting decoded s) :
    Opened setting decoded
      { s with request := s.getRequest (s.queryUrl ++ ascii "/metadata") } := by
  have hget := h.toWorking.get (.metadata (queryId_of_isSafeQueryId (h.safe (h.numbered h.mode).1)))
    s.request.headers
  rw [← List.append_assoc, ← List.append_assoc] at hget
  exact ⟨hget, ⟨h.nextUrl, h.toUnread.rows, h.cells, h.fetchedChunks, h.nextChunkIndex,
    h.visitedUrls⟩, ⟨h.serves.complete, h.serves.hasRows, h.serves.rows,
    h.serves.chunks⟩, h.mode⟩

theorem Opened.metadata {decoded : QueryResponse} {s : Session} (h : Opened setting decoded s)
    (metadata : List ColumnMetadata) : Opened setting decoded { s with metadata } :=
  ⟨⟨⟨h.constant, h.trusted, h.request, h.id, h.numbered, h.buffered, h.chain, h.arrow⟩, h.active,
    h.open', h.idle⟩, ⟨h.nextUrl, h.toUnread.rows, h.cells, h.fetchedChunks, h.nextChunkIndex,
    h.visitedUrls⟩, ⟨h.serves.complete, h.serves.hasRows, h.serves.rows,
    h.serves.chunks⟩, h.mode⟩

theorem keeps_fetchMetadata (decoded : QueryResponse) :
    Keeps (Ongoing (QueryLog setting none) (Opened setting decoded))
      (QueryApiV3Client.fetchMetadata env) :=
  keeps_bind (keeps_modify fun _ h => h.metadataRequest) fun _ =>
    keeps_bind (keeps_send (sendable_opened decoded)) fun response =>
    keeps_bind (keeps_decode (idle_queryLog setting none) response) fun _ =>
    keeps_bind (keeps_raiseIf _ _) fun _ =>
    keeps_bind (keeps_modify fun _ h => h.metadata _) fun _ => keeps_raiseIf _ _

theorem keeps_fetchMetadata_lasting {L : List QueryEvent → Prop} (hL : Lasting L) :
    Keeps (Ongoing L fun _ => True) (QueryApiV3Client.fetchMetadata env) :=
  keeps_bind (keeps_modify fun _ => id) fun _ =>
    keeps_bind (keeps_send_lasting hL fun _ _ _ => id) fun response =>
    keeps_bind (keeps_decode (Lasting.idle hL) response) fun _ =>
    keeps_bind (keeps_raiseIf _ _) fun _ =>
    keeps_bind (keeps_modify fun _ => id) fun _ => keeps_raiseIf _ _

theorem wp_openNumbered {decoded : QueryResponse} {c : Client} (h : InHand setting decoded c)
    (hstate : decoded.state = .complete) :
    wp (QueryApiV3Client.openNumbered env decoded) (fun _ c' => Prepared setting c')
      (fun _ => Client.Working setting) (Client.Working setting) c := by
  have hs := h.fresh.session
  rw [QueryApiV3Client.openNumbered, wp_bind, wp_look, wp_bind, wp_raiseIf]
  refine ⟨fun _ => Client.Fresh.working h.fresh, fun hsafe => ?_⟩
  simp only [id_eq, Bool.not_eq_true, Bool.not_eq_false] at hsafe
  have hknown := ne_nil_of_isSafeQueryId hsafe
  have hopened : Opened setting decoded (QueryApiV3Client.numberedSession decoded c.session) :=
    ⟨⟨⟨hs.constant, hs.trusted, hs.request, hs.id, fun _ => ⟨hknown, hs.buffer⟩, hs.buffered,
      hs.chain, fun _ => ⟨rfl, hs.open'⟩⟩, hs.active, hs.open', hs.idle⟩,
      ⟨hs.nextUrl, hs.rows, hs.cells,
      hs.fetchedChunks, hs.nextChunkIndex, hs.visitedUrls⟩,
      ⟨hstate, rfl, rfl, .inl ⟨rfl, rfl, rfl⟩⟩, rfl⟩
  have hworking : Client.Working setting
      (c.onSession (QueryApiV3Client.numberedSession decoded)) :=
    ⟨h.fresh.log, hopened.toWorking⟩
  rw [wp_bind, wp_modify, wp_bind, wp_raiseIf]
  refine ⟨fun _ => hworking, fun _ => ?_⟩
  rw [wp_bind, wp_raiseIf]
  refine ⟨fun _ => hworking, fun _ => ?_⟩
  refine wp_mono (wp_and (keeps_fetchMetadata decoded _ ⟨h.fresh.log, hopened⟩)
    (keeps_fetchMetadata_lasting (lasting_hasDecoded decoded) _ ⟨h.hasDecoded, trivial⟩))
    (fun _ c' h' => ?_) (fun _ c' h' => ⟨h'.1.log, h'.1.session.toWorking⟩)
    fun c' h' => ⟨h'.1.log, h'.1.session.toWorking⟩
  exact ⟨⟨h'.1.log, h'.1.session.toWorking⟩, h'.1.session.toUnread, decoded, h'.2.log,
    h'.1.session.serves⟩

theorem wp_openCompleted {decoded : QueryResponse} {c : Client} (h : InHand setting decoded c) :
    wp (QueryApiV3Client.openCompleted env decoded) (fun _ c' => Prepared setting c')
      (fun _ => Client.Working setting) (Client.Working setting) c := by
  rw [QueryApiV3Client.openCompleted, wp_bind, wp_raiseIf]
  refine ⟨fun _ => Client.Fresh.working h.fresh, fun hstate => ?_⟩
  have hcomplete := Decidable.not_not.mp hstate
  rw [wp_ite]
  refine ⟨fun _ => wp_openNumbered h hcomplete, fun _ => ?_⟩
  have hs := h.fresh.session
  refine ⟨⟨h.fresh.log, ⟨⟨hs.constant, hs.trusted, hs.request, hs.id, fun hmode => ?_, ?_, hs.chain,
    fun houtstanding => ?_⟩, hs.active, hs.open', hs.idle⟩⟩,
    ⟨hs.nextUrl, hs.rows, hs.cells, hs.fetchedChunks,
    hs.nextChunkIndex, hs.visitedUrls⟩, decoded, h.hasDecoded,
    ⟨hcomplete, rfl, rfl, .inr ⟨rfl, rfl⟩⟩⟩
  · cases hmode
  · intro response hresponse
    cases hresponse
    exact ⟨hs.nextUrl, hs.rows, h.anonymous⟩
  · exact absurd (hs.idle.symm.trans houtstanding) (by decide)

theorem wp_prepareBody (fuel : Nat) {c : Client} (h : c.Fresh setting) :
    wp (QueryApiV3Client.prepareBody env fuel) (fun _ c' => Prepared setting c')
      (fun _ => Client.Working setting) (Client.Working setting) c := by
  rw [QueryApiV3Client.prepareBody, wp_bind]
  refine wp_mono (wp_exchange h) (fun submitted c₁ h₁ => ?_) (fun _ _ h => h) fun _ h => h
  rw [wp_bind]
  refine wp_mono (wp_poll fuel h₁) (fun decoded c₂ h₂ => ?_) (fun _ _ h => h) fun _ h => h
  rw [wp_bind]
  refine wp_mono (wp_openCompleted h₂) (fun _ c₃ h₃ => ?_) (fun _ _ h => h) fun _ h => h
  rw [wp_bind, wp_look, wp_raiseIf]
  exact ⟨fun _ => h₃.working, fun _ => h₃⟩

/-! ## The whole of `PrepareInternal` -/

/-- The session has been destroyed. -/
def Destroyed (env : QueryEnv) (setting : Setting) (c : Client) : Prop :=
  ∃ c₀ : Client, c₀.Sound setting ∧ c = cancel env c₀

/-- Nothing was sent, and the clock was not read. -/
structure Unsent (c : Client) : Prop where
  log : ∀ e ∈ c.log, e.Quiet
  id : c.session.queryId = []

/-- The setting of a session that `PrepareInternal` made. -/
structure Setting.Of (options : QueryOptions) (credentials : QueryCredentials)
    (setting : Setting) : Prop where
  options : setting.options = options
  credentials : setting.credentials = credentials

theorem Setting.Of.origin {options : QueryOptions} {credentials : QueryCredentials}
    {setting : Setting} (h : setting.Of options credentials) :
    setting.origin = trimTrailingSlash credentials.instanceUrl := by
  rw [Setting.origin, h.credentials]

theorem prepareSession_fresh {options : QueryOptions} {credentials : QueryCredentials}
    (sql : Bytes) (metadataOnly : Bool) {log : List QueryEvent} {now : UInt64}
    (htrusted : isTrustedTenantUrl credentials.instanceUrl = true)
    (hlog : QueryLog ⟨options, credentials, now⟩ none log) :
    Client.Fresh ⟨options, credentials, now⟩
      { session :=
          { options, credentials
            startedAtMs := now
            request := QueryApiV3Client.submitRequest sql credentials metadataOnly options }
        log } where
  log := hlog
  session :=
    { constant := rfl
      trusted := htrusted
      request := ⟨⟨_, .submit, rfl⟩, rfl, rfl, .inl rfl⟩
      id := .inl rfl
      numbered := fun h => by cases h
      buffered := fun _ h => by cases h
      chain := fun h => absurd (show isSafeChunkPath [] = true from h) (by decide)
      arrow := fun h => by cases h
      active := rfl
      open' := rfl
      idle := rfl
      nextUrl := rfl
      rows := rfl
      cells := rfl
      fetchedChunks := rfl
      nextChunkIndex := rfl
      visitedUrls := rfl
      mode := rfl
      buffer := rfl }

/-- `PrepareInternal` hands out a prepared session of its options and
credentials; when it throws, it sent nothing or destroyed such a session. -/
theorem wp_prepareInternal (fuel : Nat) (sql : Bytes) (credentials : QueryCredentials)
    (metadataOnly : Bool) (options : QueryOptions) :
    wp (QueryApiV3Client.prepareInternal env fuel sql credentials metadataOnly options)
      (fun _ c' => ∃ setting : Setting, setting.Of options credentials ∧ Prepared setting c')
      (fun _ c' => Unsent c' ∨
        ∃ setting : Setting, setting.Of options credentials ∧ Destroyed env setting c')
      (fun c' => ∃ setting : Setting, setting.Of options credentials ∧ c'.Working setting)
      {} := by
  rw [QueryApiV3Client.prepareInternal, wp_bind, checkCancelled, wp_bind]
  refine wp_isCancelled (fun flag _ => ?_) (.inl ⟨by simp [QueryEvent.Quiet], rfl⟩)
  have hunsent : Unsent (({} : Client).record (.isCancelled (some flag))) :=
    ⟨by simp [QueryEvent.Quiet], rfl⟩
  rw [wp_raiseIf]
  refine ⟨fun _ => .inl hunsent, fun _ => ?_⟩
  rw [wp_bind, wp_raiseIf]
  refine ⟨fun _ => .inl hunsent, fun _ => ?_⟩
  rw [wp_bind, wp_raiseIf]
  refine ⟨fun _ => .inl hunsent, fun _ => ?_⟩
  rw [wp_bind, wp_raiseIf]
  refine ⟨fun _ => .inl hunsent, fun htrusted => ?_⟩
  simp only [Bool.not_eq_true, Bool.not_eq_false] at htrusted
  rw [wp_bind, wp_modify, wp_onRaise, QueryApiV3Client.prepareSession, wp_bind]
  refine wp_nowMs (fun now _ => ?_) ?_
  · have hsetting : (⟨options, credentials, now⟩ : Setting).Of options credentials := ⟨rfl, rfl⟩
    have hopened : QueryLog ⟨options, credentials, now⟩ none
        [.isCancelled (some flag), .nowMs (some now)] := .opened
    have hfresh := prepareSession_fresh sql metadataOnly htrusted hopened
    rw [wp_bind, wp_modify, wp_onRaise]
    refine wp_mono (wp_prepareBody fuel hfresh) (fun _ c' h => ⟨_, hsetting, h⟩)
      (fun _ c' h => ?_) fun c' h => ⟨_, hsetting, h⟩
    exact .inr ⟨_, hsetting, cancel env c', cancel_sound h.sound, rfl⟩
  · refine .inl ?_
    rw [cancel_of_empty rfl]
    exact ⟨by simp [QueryEvent.Quiet], rfl⟩

/-! ## The requests of a preparation -/

/-- A `GET` of a chunk. -/
def IsChunkGet (origin : Bytes) (r : HttpRequest) : Prop :=
  r.method = ascii "GET" ∧ ∃ id chunk, r.url = origin ++ queryPath ++ id ++ chunksSeparator ++ chunk

/-- The path of a chunk has two more slashes than the path of the queries. -/
theorem not_isChunkGet {origin tail : Bytes} {r : HttpRequest}
    (hurl : r.url = origin ++ queryPath ++ tail) (hslashes : tail.count 47 < 2) :
    ¬ IsChunkGet origin r := by
  intro h
  obtain ⟨-, id, chunk, hchunk⟩ := h
  rw [hurl, List.append_assoc _ id, List.append_assoc _ (id ++ _)] at hchunk
  have htail := List.append_cancel_left hchunk
  have hseparator : chunksSeparator.count 47 = 2 := by decide
  rw [htail, List.count_append, List.count_append, hseparator] at hslashes
  omega

/-- The session of a query that is not prepared yet. -/
structure Preparing (origin : Bytes) (s : Session) : Prop where
  tenant : s.origin = origin
  id : s.queryId = [] ∨ isSafeQueryId s.queryId = true
  request : ¬ IsChunkGet origin s.request

theorem Preparing.slashes {origin : Bytes} {s : Session} (h : Preparing origin s) :
    s.queryId.count 47 = 0 := by
  rcases h.id with hempty | hsafe
  · rw [hempty]
    rfl
  · refine List.count_eq_zero.mpr fun hslash => ?_
    exact absurd ((queryId_of_isSafeQueryId hsafe).characters 47 hslash) (by decide)

theorem Preparing.get {origin : Bytes} {s : Session} (h : Preparing origin s) {suffix : Bytes}
    (hslashes : suffix.count 47 < 2) :
    Preparing origin { s with request := s.getRequest (s.queryUrl ++ suffix) } := by
  have hurl : (s.getRequest (s.queryUrl ++ suffix)).url
      = origin ++ queryPath ++ (s.queryId ++ suffix) := by
    show s.origin ++ queryPath ++ s.queryId ++ suffix = _
    rw [h.tenant, List.append_assoc _ s.queryId]
  refine ⟨h.tenant, h.id, not_isChunkGet hurl ?_⟩
  rw [List.count_append, h.slashes]
  omega

theorem Preparing.sent {origin : Bytes} {s s' : Session} (h : Preparing origin s)
    (hsent : Sent s s') : Preparing origin s' := by
  obtain ⟨_, _, _, rfl⟩ := hsent
  exact ⟨h.tenant, h.id, h.request⟩

/-- No chunk was requested. -/
def NoChunkGet (origin : Bytes) (log : List QueryEvent) : Prop :=
  ∀ r ∈ sends log, ¬ IsChunkGet origin r

theorem lastingOn_noChunkGet (origin : Bytes) :
    LastingOn (fun r => ¬ IsChunkGet origin r) (NoChunkGet origin) := lastingOn_sends _

/-- A session that is being prepared, and its log. -/
abbrev Client.Preparing (origin : Bytes) : Client → Prop :=
  Ongoing (NoChunkGet origin) (Data360.Preparing origin)

theorem keeps_send_preparing (origin : Bytes) :
    Keeps (Client.Preparing origin) (send env) :=
  keeps_send_on (lastingOn_noChunkGet origin) (fun _ h => h.request) fun _ _ h => h.sent

theorem keeps_rememberQueryId_preparing (origin : Bytes) (response : QueryResponse) :
    Keeps (Client.Preparing origin) (rememberQueryId response) := by
  intro c hc
  have hs := hc.session
  have hid : ∀ {id}, Learns c.session.queryId response id → id = [] ∨ isSafeQueryId id = true := by
    intro id hlearns
    rcases hlearns.safe with hsame | hsafe
    · exact hsame ▸ hs.id
    · exact .inr hsafe
  refine wp_mono (wp_rememberQueryId response c) (fun _ c' h => ?_) (fun _ c' h => ?_)
    fun _ h => h.elim
  · obtain ⟨id, rfl, hlearned⟩ := h
    exact ⟨hc.log, hs.tenant, hid hlearned.toLearns, hs.request⟩
  · obtain ⟨id, rfl, hlearns⟩ := h
    exact ⟨hc.log, hs.tenant, hid hlearns, hs.request⟩

theorem keeps_exchange_preparing (origin : Bytes) :
    Keeps (Client.Preparing origin) (QueryApiV3Client.exchange env) := by
  have hidle := LastingOn.idle (lastingOn_noChunkGet origin)
  exact keeps_bind (keeps_send_preparing origin) fun response =>
    keeps_bind (keeps_decode hidle response) fun decoded =>
    keeps_bind (keeps_rememberQueryId_preparing origin decoded) fun _ =>
    keeps_bind (keeps_checkActive hidle) fun _ => keeps_pure _

theorem keeps_poll_preparing (origin : Bytes) (fuel : Nat) (decoded : QueryResponse) :
    Keeps (Client.Preparing origin) (QueryApiV3Client.poll env fuel decoded) := by
  have hidle := LastingOn.idle (lastingOn_noChunkGet origin)
  induction fuel generalizing decoded with
  | zero => exact keeps_outOfFuel
  | succ fuel ih =>
      refine keeps_ite _ (keeps_pure _) (keeps_bind (keeps_look _) fun s =>
        keeps_bind (keeps_raiseIf _ _) fun _ => keeps_bind (keeps_sleepMs hidle _) fun _ =>
        keeps_bind (keeps_checkActive hidle) fun _ => keeps_bind (keeps_modify fun s h => ?_)
        fun _ => keeps_bind (keeps_exchange_preparing origin) fun next => ih next)
      have hget := h.get (show ([] : Bytes).count 47 < 2 by decide)
      rw [List.append_nil] at hget
      exact hget

theorem keeps_openCompleted_preparing (origin : Bytes) (decoded : QueryResponse) :
    Keeps (Client.Preparing origin) (QueryApiV3Client.openCompleted env decoded) := by
  have hidle := LastingOn.idle (lastingOn_noChunkGet origin)
  refine keeps_bind (keeps_raiseIf _ _) fun _ => keeps_ite _ ?_
    (keeps_modify fun _ h => ⟨h.tenant, h.id, h.request⟩)
  refine keeps_bind (keeps_look _) fun s => keeps_bind (keeps_raiseIf _ _) fun _ =>
    keeps_bind (keeps_modify fun _ h => ⟨h.tenant, h.id, h.request⟩) fun _ =>
    keeps_bind (keeps_raiseIf _ _) fun _ => keeps_bind (keeps_raiseIf _ _) fun _ => ?_
  exact keeps_bind (keeps_modify fun _ h => h.get (by decide)) fun _ =>
    keeps_bind (keeps_send_preparing origin) fun response =>
    keeps_bind (keeps_decode hidle response) fun metadata =>
    keeps_bind (keeps_raiseIf _ _) fun _ =>
    keeps_bind (keeps_modify fun _ h => ⟨h.tenant, h.id, h.request⟩) fun _ => keeps_raiseIf _ _

theorem keeps_prepareBody_preparing (origin : Bytes) (fuel : Nat) :
    Keeps (Client.Preparing origin) (QueryApiV3Client.prepareBody env fuel) :=
  keeps_bind (keeps_exchange_preparing origin) fun submitted =>
    keeps_bind (keeps_poll_preparing origin fuel submitted) fun decoded =>
    keeps_bind (keeps_openCompleted_preparing origin decoded) fun _ =>
    keeps_bind (keeps_look _) fun _ => keeps_raiseIf _ _

/-- A session that is handed out has requested no chunk. -/
theorem wp_prepareInternal_requests (fuel : Nat) (sql : Bytes) (credentials : QueryCredentials)
    (metadataOnly : Bool) (options : QueryOptions) :
    wp (QueryApiV3Client.prepareInternal env fuel sql credentials metadataOnly options)
      (fun _ c' => Client.Preparing (trimTrailingSlash credentials.instanceUrl) c')
      (fun _ _ => True) (fun _ => True) {} := by
  have hpost : ascii "POST" ≠ ascii "GET" := by decide
  rw [QueryApiV3Client.prepareInternal, wp_bind, checkCancelled, wp_bind]
  refine wp_isCancelled (fun flag _ => ?_) trivial
  simp only [wp_bind, wp_raiseIf, wp_modify, wp_onRaise, QueryApiV3Client.prepareSession]
  refine ⟨fun _ => trivial, fun _ => ⟨fun _ => trivial, fun _ => ⟨fun _ => trivial, fun _ =>
    ⟨fun _ => trivial, fun _ => wp_nowMs (fun now _ => ?_) trivial⟩⟩⟩⟩
  refine wp_mono (keeps_prepareBody_preparing (trimTrailingSlash credentials.instanceUrl) fuel _ ?_)
    (fun _ _ h => h) (fun _ _ _ => trivial) fun _ _ => trivial
  refine ⟨fun r hr => ?_, rfl, .inl rfl, fun h => hpost h.1⟩
  cases hr

end Data360
