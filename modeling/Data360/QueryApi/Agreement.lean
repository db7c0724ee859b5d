import Data360.QueryApi.Accounting

/-!
# The two ways to read a numbered query

A numbered query is read chunk by chunk, by `NextChunk` as JSON or by
`NextArrowChunk` and `ReportArrowChunk` as Arrow streams.  Both count rows,
cells and chunks against the same limits, in different ways.

* `Account` is what they count, in plain numbers, and `Account.charge` one chunk.
  `accept_iff_allows` and `report_iff_allows` say that each way counts like it.
* `Account.take` counts a list of chunks up to the first one that is refused.
  `jsonTakes_eq` and `arrowTakes_eq` are the runs of the two cursors.
* `arrow_agrees_with_json` puts them together.
-/

namespace Data360

open Lib Lib.ByteString Lib.Prog Lib.Quota Session

variable {env : QueryEnv}

/-! ## What is counted -/

/-- The counters of a query with its limits, as numbers. -/
structure Account where
  numbered : Bool
  maxRows : Nat
  maxCells : Nat
  maxChunks : Nat
  expectedRows : Option Nat
  expectedChunks : Option Nat
  width : Nat
  rows : Nat
  cells : Nat
  chunks : Nat
  deriving DecidableEq, Repr

namespace Account

/-- The limits allow `count` more rows. -/
def Allows (a : Account) (count : Nat) : Prop :=
  count ≤ a.maxRows - a.rows ∧ count * a.width ≤ a.maxCells - a.cells ∧
    ∀ expected ∈ a.expectedRows, count ≤ expected - a.rows

instance (a : Account) (count : Nat) : Decidable (a.Allows count) :=
  inferInstanceAs (Decidable (_ ∧ _ ∧ _))

/-- The account with one more chunk. -/
def add (a : Account) (count : Nat) : Account :=
  { a with
    rows := a.rows + count
    cells := a.cells + count * a.width
    chunks := a.chunks + 1 }

/-- One more chunk, if the limits allow it. -/
def charge (a : Account) (count : Nat) : Option Account :=
  if a.Allows count then some (a.add count) else none

/-- The chunks up to the first one that is refused, and the account after them. -/
def take (a : Account) : List UInt64 → List UInt64 × Account
  | [] => ([], a)
  | count :: rest =>
      match a.charge count.toNat with
      | none => ([], a)
      | some a' => (count :: (take a' rest).1, (take a' rest).2)

/-- The advertised numbers of chunks and rows have come. -/
def Reconciled (a : Account) : Prop :=
  (∀ expected ∈ a.expectedChunks, a.chunks = expected) ∧
    ∀ expected ∈ a.expectedRows, a.rows = expected

end Account

/-- Counting chunks leaves the mode alone. -/
theorem Account.take_numbered (a : Account) (counts : List UInt64) :
    (a.take counts).2.numbered = a.numbered := by
  induction counts generalizing a with
  | nil => rfl
  | cons count rest ih =>
      rw [take, charge]
      split
      · rfl
      · rename_i a' hcharge
        split at hcharge
        · cases hcharge
          exact ih _
        · cases hcharge

/-- The account of a session. -/
def Session.account (s : Session) : Account where
  numbered := s.mode = .numberedV3
  maxRows := s.options.maxRows.toNat
  maxCells := s.options.maxCells.toNat
  maxChunks := s.options.maxChunks.toNat
  expectedRows := if s.hasExpectedRows then some s.expectedRows.toNat else none
  expectedChunks := if s.hasExpectedChunks then some s.expectedChunks.toNat else none
  width := s.metadata.length
  rows := s.rows.toNat
  cells := s.cells.toNat
  chunks := s.fetchedChunks.toNat

theorem admits_iff_allows {s : Session} {count : Nat} :
    Admits s count ↔ s.account.Allows count := by
  have hallows : s.account.Allows count ↔
      count ≤ s.options.maxRows.toNat - s.rows.toNat ∧
        count * s.metadata.length ≤ s.options.maxCells.toNat - s.cells.toNat ∧
        (s.hasExpectedRows = true → count ≤ s.expectedRows.toNat - s.rows.toNat) := by
    simp only [Account.Allows, Session.account]
    cases s.hasExpectedRows <;> simp
  rw [hallows]
  exact ⟨fun h => ⟨h.rows, h.cells, h.expected⟩, fun ⟨hrows, hcells, hexpected⟩ =>
    ⟨hrows, hcells, hexpected⟩⟩

/-- The counters of a session follow its account. -/
theorem account_count {s : Session} {count : Nat} (h : Admits s count)
    (hchunks : s.fetchedChunks < s.options.maxChunks) :
    (s.count count).account = s.account.add count := by
  rw [Session.account, Account.add, Account.mk.injEq]
  exact ⟨rfl, rfl, rfl, rfl, rfl, rfl, rfl, toNat_add h.rows_left, toNat_add h.cells_left,
    toNat_succ hchunks⟩

/-- The counters of two sessions with the same account. -/
theorem counters_of_account {s s' : Session} (h : s.account = s'.account) :
    s.rows = s'.rows ∧ s.cells = s'.cells ∧ s.fetchedChunks = s'.fetchedChunks :=
  ⟨UInt64.toNat_inj.mp (congrArg Account.rows h), UInt64.toNat_inj.mp (congrArg Account.cells h),
    UInt64.toNat_inj.mp (congrArg Account.chunks h)⟩

/-- `Finish` of a numbered session asks whether the account is reconciled. -/
theorem finish_iff_reconciled {c : Client} (hnumbered : c.session.account.numbered = true) :
    (∃ c', finish c = (.ret (), c')) ↔ c.session.account.Reconciled := by
  have hmode : c.session.mode = .numberedV3 := of_decide_eq_true hnumbered
  have hreconciles : Reconciles c.session ↔ c.session.account.Reconciled := by
    constructor
    · intro h
      refine ⟨fun expected hexpected => ?_, fun expected hexpected => ?_⟩
      · simp only [account, Option.mem_ite_none_right, Option.mem_some_iff] at hexpected
        exact (congrArg UInt64.toNat (h.chunks hmode hexpected.1)).trans hexpected.2
      · simp only [account, Option.mem_ite_none_right, Option.mem_some_iff] at hexpected
        exact (congrArg UInt64.toNat (h.rows hexpected.1)).trans hexpected.2
    · intro h
      refine ⟨fun _ hhas => ?_, fun hhas => ?_, fun hdirect => ?_⟩
      · exact UInt64.toNat_inj.mp (h.1 c.session.expectedChunks.toNat (by simp [account, hhas]))
      · exact UInt64.toNat_inj.mp (h.2 c.session.expectedRows.toNat (by simp [account, hhas]))
      · cases hmode.symm.trans hdirect
  have hfinish := wp_iff.mp (wp_finish c)
  rw [← hreconciles]
  refine ⟨fun ⟨c', hrun⟩ => (hfinish.1 _ c' hrun).1, fun h => ?_⟩
  rcases hrun : finish c with ⟨outcome, c'⟩
  cases outcome with
  | ret => exact ⟨c', rfl⟩
  | raise e => exact absurd h (hfinish.2.1 e c' hrun).2
  | cut => exact (hfinish.2.2 c' hrun).elim

/-! ## One chunk -/

/-- A chunk of `count` rows of the session's width that says nothing else about
the result. -/
structure PlainChunk (s : Session) (count : UInt64) (response : QueryResponse) : Prop where
  complete : response.state = .complete
  metadata : response.metadata = []
  returned : response.hasReturnedRows = true → response.returnedRows = count
  rows : response.chunk.rows.length = count.toNat
  widths : ∀ row ∈ response.chunk.rows, row.length = s.metadata.length

theorem acceptable_iff {s : Session} {count : UInt64} {response : QueryResponse}
    (plain : PlainChunk s count response) (hchunks : s.fetchedChunks < s.options.maxChunks) :
    Acceptable s response ↔ Admits s count.toNat := by
  constructor
  · intro h
    rw [← plain.rows]
    exact h.admits
  · intro h
    refine ⟨plain.complete, .inl plain.metadata, hchunks, fun hhas => ?_, plain.widths, ?_⟩
    · rw [plain.returned hhas, plain.rows]
    · rw [plain.rows]
      exact h

/-- `Accept` takes the plain chunks that the account allows. -/
theorem accept_iff_allows {c : Client} {count : UInt64} {response : QueryResponse}
    (plain : PlainChunk c.session count response)
    (hchunks : c.session.fetchedChunks < c.session.options.maxChunks) :
    ((∃ c', accept response c = (.ret response.chunk, c')) ↔
        c.session.account.Allows count.toNat) ∧
      ∀ chunk c', accept response c = (.ret chunk, c') → c'.log = c.log ∧
        c'.session = c.session.count count.toNat ∧
        c'.session.account = c.session.account.add count.toNat := by
  have hexact := wp_iff.mp (wp_accept_exact response c)
  have hiff := acceptable_iff plain hchunks
  rw [← admits_iff_allows, ← hiff]
  refine ⟨⟨fun ⟨c', hrun⟩ => (hexact.1 _ c' hrun).1, fun h => ?_⟩, fun chunk c' hrun => ?_⟩
  · rcases hrun : accept response c with ⟨outcome, c'⟩
    cases outcome with
    | ret chunk =>
        obtain ⟨-, rfl, -⟩ := hexact.1 _ c' hrun
        exact ⟨c', rfl⟩
    | raise e => exact absurd h (hexact.2.1 e c' hrun).1
    | cut => exact (hexact.2.2 c' hrun).elim
  · obtain ⟨hacceptable, rfl, rfl⟩ := hexact.1 _ c' hrun
    rw [plain.rows]
    exact ⟨rfl, rfl, account_count (hiff.mp hacceptable) hchunks⟩

/-- `ReportArrowChunk` takes the counts that the account allows. -/
theorem report_iff_allows {c : Client} (count : UInt64)
    (houtstanding : c.session.arrowResponseOutstanding = true)
    (hactive : ∃ c₁, checkActive env c = (.ret (), c₁))
    (hchunks : c.session.fetchedChunks < c.session.options.maxChunks) :
    ((∃ c', QueryCursor.reportArrowChunk env count c = (.ret (), c')) ↔
        c.session.account.Allows count.toNat) ∧
      ∀ c', QueryCursor.reportArrowChunk env count c = (.ret (), c') →
        c'.session = { c.session.count count.toNat with
          nextChunkIndex := c.session.nextChunkIndex + 1
          arrowResponseOutstanding := false } ∧
        c'.session.account = c.session.account.add count.toNat := by
  have hidle : Idle fun _ => True := lasting_true.idle
  have hreport : wp (QueryCursor.reportArrowChunk env count)
      (fun _ c' => Admits c.session count.toNat ∧
        c'.session = { c.session.count count.toNat with
          nextChunkIndex := c.session.nextChunkIndex + 1
          arrowResponseOutstanding := false })
      (fun _ _ => ¬ Admits c.session count.toNat) (fun _ => False) c := by
    rw [QueryCursor.reportArrowChunk, wp_bind, wp_look, wp_bind, wp_raiseIf]
    refine ⟨fun hidle => ?_, fun _ => ?_⟩
    · cases hidle.symm.trans houtstanding
    rw [wp_onRaise]
    refine wp_mono (wp_reportBody_exact hidle count trivial) (fun _ c' h => h.2) (fun e c' h => ?_)
      fun _ h => h
    -- the check of the session passes, so the limits have refused the count
    refine h.2.2.resolve_left fun hraises => ?_
    obtain ⟨c₁, hraise⟩ := hraises
    obtain ⟨c₂, hreturn⟩ := hactive
    cases hraise.symm.trans hreturn
  have hexact := wp_iff.mp hreport
  rw [← admits_iff_allows]
  refine ⟨⟨fun hreturns => ?_, fun h => ?_⟩, fun c' hrun => ?_⟩
  · obtain ⟨c', hrun⟩ := hreturns
    exact (hexact.1 _ c' hrun).1
  · rcases hrun : QueryCursor.reportArrowChunk env count c with ⟨outcome, c'⟩
    cases outcome with
    | ret => exact ⟨c', rfl⟩
    | raise e => exact absurd h (hexact.2.1 e c' hrun)
    | cut => exact (hexact.2.2 c' hrun).elim
  · obtain ⟨hadmits, hsession⟩ := hexact.1 _ c' hrun
    refine ⟨hsession, ?_⟩
    rw [hsession]
    exact account_count hadmits hchunks

/-! ## What a call leaves of the account -/

/-- The session still has the counters and the terms of `s`. -/
structure Still (s s' : Session) : Prop where
  terms : s'.terms = s.terms
  rows : s'.rows = s.rows
  cells : s'.cells = s.cells
  chunks : s'.fetchedChunks = s.fetchedChunks

theorem Still.refl (s : Session) : Still s s := ⟨rfl, rfl, rfl, rfl⟩

theorem Still.trans {s s' s'' : Session} (h' : Still s' s'') (h : Still s s') : Still s s'' :=
  ⟨h'.terms.trans h.terms, h'.rows.trans h.rows, h'.cells.trans h.cells, h'.chunks.trans h.chunks⟩

theorem Still.options {s s' : Session} (h : Still s s') : s'.options = s.options :=
  congrArg Terms.options h.terms

theorem Still.metadata {s s' : Session} (h : Still s s') : s'.metadata = s.metadata :=
  congrArg Terms.metadata h.terms

theorem Still.account {s s' : Session} (h : Still s s') : s'.account = s.account := by
  have hmode : s'.mode = s.mode := congrArg Terms.mode h.terms
  have hhasRows : s'.hasExpectedRows = s.hasExpectedRows := congrArg Terms.hasExpectedRows h.terms
  have hrows : s'.expectedRows = s.expectedRows := congrArg Terms.expectedRows h.terms
  have hhasChunks : s'.hasExpectedChunks = s.hasExpectedChunks :=
    congrArg Terms.hasExpectedChunks h.terms
  have hchunks : s'.expectedChunks = s.expectedChunks := congrArg Terms.expectedChunks h.terms
  simp only [Session.account, h.options, h.metadata, hmode, hhasRows, hrows, hhasChunks,
    hchunks, h.rows,
    h.cells, h.chunks]

theorem PlainChunk.still {s s' : Session} (h : Still s s') {count : UInt64}
    {response : QueryResponse} (plain : PlainChunk s count response) :
    PlainChunk s' count response := by
  refine { plain with widths := fun row hrow => ?_ }
  rw [h.metadata]
  exact plain.widths row hrow

/-- The client still has the counters and the terms of `c₀`, whose log it has
gone on with. -/
abbrev Client.Still (c₀ : Client) : Client → Prop :=
  Ongoing (c₀.log <+: ·) (Data360.Still c₀.session)

theorem Client.Still.refl (c : Client) : c.Still c := ⟨List.prefix_refl _, .refl _⟩

theorem keeps_send_still (c₀ : Client) : Keeps (Client.Still c₀) (send env) :=
  keeps_send_lasting (lasting_past _) fun _ _ _ h => ⟨h.terms, h.rows, h.cells, h.chunks⟩

theorem keeps_remember_still (c₀ : Client) (response : QueryResponse) :
    Keeps (Client.Still c₀) (rememberQueryId response) :=
  keeps_remember (fun _ _ h => ⟨h.terms, h.rows, h.cells, h.chunks⟩) response

theorem keeps_checkActive_still (c₀ : Client) : Keeps (Client.Still c₀) (checkActive env) :=
  keeps_checkActive (lasting_past _).idle

theorem keeps_fetchNumbered_still (c₀ : Client) :
    Keeps (Client.Still c₀) (QueryCursor.fetchNumbered env) :=
  keeps_bind (keeps_modify fun _ h => ⟨h.terms, h.rows, h.cells, h.chunks⟩) fun _ =>
    keeps_bind (keeps_send_still c₀) fun response =>
      keeps_decode (lasting_past _).idle response

theorem still_cancel {c₀ c : Client} (h : c₀.Still c) : c₀.Still (cancel env c) := by
  unfold cancel
  split
  · exact h
  · exact ⟨h.log.trans (List.prefix_append _ _), h.session.terms, h.session.rows, h.session.cells,
      h.session.chunks⟩

/-- An Arrow chunk is handed out before it is counted, and a failure counts
nothing. -/
theorem wp_nextArrowChunk_still (c : Client) :
    wp (QueryCursor.nextArrowChunk env)
      (fun next c' => next.isSome = true →
        c.Still c' ∧ c'.session.arrowResponseOutstanding = true)
      (fun _ c' => c.Still c') (fun _ => True) c := by
  have hfinished (c' : Client) (h : c.Still c') :
      wp (QueryCursor.finished : Query (Option HttpResponse))
        (fun next c' => next.isSome = true →
          c.Still c' ∧ c'.session.arrowResponseOutstanding = true)
        (fun _ c' => c.Still c') (fun _ => True) c' :=
    wp_finished_of (fun _ h => by cases h) fun _ _ => h
  have hfetch (c' : Client) (h : c.Still c') : wp (QueryCursor.fetchArrow env)
      (fun next c' => next.isSome = true →
        c.Still c' ∧ c'.session.arrowResponseOutstanding = true)
      (fun _ c' => c.Still c') (fun _ => True) c' := by
    have hstart : c.Still (c'.onSession QueryCursor.arrowRequest) :=
      ⟨h.log, h.session.terms, h.session.rows, h.session.cells, h.session.chunks⟩
    rw [QueryCursor.fetchArrow, wp_bind, wp_modify, wp_bind]
    refine wp_mono (keeps_send_still c _ hstart) (fun response c₁ h₁ => ?_)
      (fun _ _ h => h) fun _ _ => trivial
    rw [wp_ite]
    refine ⟨fun _ => ?_, fun _ => ?_⟩
    · rw [wp_bind]
      exact wp_mono (keeps_arrowFailed (lasting_past _).idle response c₁ h₁)
        (fun _ _ _ h => by cases h) (fun _ _ h => h) fun _ _ => trivial
    · rw [wp_bind]
      refine wp_mono (keeps_checkActive_still c c₁ h₁) (fun _ c₂ h₂ _ => ?_) (fun _ _ h => h)
        fun _ _ => trivial
      exact ⟨⟨h₂.log, h₂.session.terms, h₂.session.rows, h₂.session.cells, h₂.session.chunks⟩, rfl⟩
  have hsame := Client.Still.refl c
  rw [QueryCursor.nextArrowChunk]
  simp only [wp_bind, wp_look, wp_raiseIf, wp_ite, wp_pure, wp_onRaise, QueryCursor.nextArrowBody]
  refine ⟨fun _ => hsame, fun _ => ⟨fun _ => hsame, fun _ => ⟨fun _ h => (by cases h), fun _ =>
    ⟨fun _ => hsame, fun _ => ?_⟩⟩⟩⟩
  refine wp_mono (keeps_checkActive_still c c hsame) (fun _ c' h => ?_)
    (fun _ _ h => still_cancel h) fun _ _ => trivial
  refine ⟨fun _ => ?_, fun _ => ?_⟩
  · exact wp_mono (hfinished c' h) (fun _ _ h => h) (fun _ _ h => still_cancel h) fun _ h => h
  · exact wp_mono (hfetch c' h) (fun _ _ h => h) (fun _ _ h => still_cancel h) fun _ h => h

/-! ## Lists of chunks -/

/-- `NextChunk` asks for a chunk and gets a plain one, in time. -/
structure OffersJson (env : QueryEnv) (c : Client) (count : UInt64) : Prop where
  ready : c.session.Ready
  mode : c.session.mode = .numberedV3
  more : c.session.nextChunkIndex < c.session.expectedChunks
  offer : ∃ response c₁ c₂ c₃, QueryCursor.fetchNumbered env c = (.ret response, c₁) ∧
    rememberQueryId response c₁ = (.ret (), c₂) ∧ checkActive env c₂ = (.ret (), c₃) ∧
    PlainChunk c.session count response

/-- `NextArrowChunk` gets a chunk, and it is reported in time. -/
def OffersArrow (env : QueryEnv) (c : Client) : Prop :=
  ∃ response c₁ c₂, QueryCursor.nextArrowChunk env c = (.ret (some response), c₁) ∧
    checkActive env c₁ = (.ret (), c₂)

/-- The chunks that `NextChunk` hands out before it refuses one. -/
def jsonTakes (env : QueryEnv) (c : Client) : List UInt64 → List UInt64 × Client
  | [] => ([], c)
  | count :: rest =>
      match QueryCursor.nextChunk env c with
      | (.ret (some _), c') => (count :: (jsonTakes env c' rest).1, (jsonTakes env c' rest).2)
      | _ => ([], c)

/-- The chunks that `ReportArrowChunk` takes before it refuses one. -/
def arrowTakes (env : QueryEnv) (c : Client) : List UInt64 → List UInt64 × Client
  | [] => ([], c)
  | count :: rest =>
      match QueryCursor.nextArrowChunk env c with
      | (.ret (some _), c₁) =>
          match QueryCursor.reportArrowChunk env count c₁ with
          | (.ret (), c') => (count :: (arrowTakes env c' rest).1, (arrowTakes env c' rest).2)
          | _ => ([], c)
      | _ => ([], c)

/-- The surroundings offer these chunks to `NextChunk`, as long as it takes
them. -/
def FeedsJson (env : QueryEnv) (c : Client) : List UInt64 → Prop
  | [] => True
  | count :: rest => OffersJson env c count ∧
      ∀ chunk c', QueryCursor.nextChunk env c = (.ret (some chunk), c') → FeedsJson env c' rest

/-- The surroundings offer chunks to `NextArrowChunk`, as long as their counts
are taken. -/
def FeedsArrow (env : QueryEnv) (c : Client) : List UInt64 → Prop
  | [] => True
  | count :: rest => OffersArrow env c ∧
      ∀ response c₁ c', QueryCursor.nextArrowChunk env c = (.ret (some response), c₁) →
        QueryCursor.reportArrowChunk env count c₁ = (.ret (), c') → FeedsArrow env c' rest

/-- A session that is counted within its limits. -/
abbrev Client.Counting (options : QueryOptions) : Client → Prop :=
  Metered options (Tally.Serving options (fun _ => True) 0)

/-- While a chunk is to come, the limit on chunks is not reached. -/
theorem Tally.Serving.chunks_lt {options : QueryOptions} {exact : Tally → Prop} {s : Session}
    (h : s.tally.Serving options exact 0) (hmode : s.mode = .numberedV3)
    (hmore : s.nextChunkIndex < s.expectedChunks) : s.fetchedChunks < s.options.maxChunks := by
  have hahead : s.fetchedChunks.toNat ≤ s.nextChunkIndex.toNat := h.ahead hmode
  have hfew : s.expectedChunks ≤ options.maxChunks := h.few hmode
  have hown : s.options = options := h.own
  rw [UInt64.lt_iff_toNat_lt] at hmore ⊢
  rw [UInt64.le_iff_toNat_le] at hfew
  rw [hown]
  omega

/-- `NextChunk` takes an offered chunk when the account allows it. -/
theorem wp_nextChunk_offered {options : QueryOptions} {c : Client} {count : UInt64}
    (h : OffersJson env c count) (hcounting : c.Counting options) :
    wp (QueryCursor.nextChunk env)
      (fun next c' => next.isSome = true ∧ c.session.account.Allows count.toNat ∧
        c'.session.account = c.session.account.add count.toNat)
      (fun _ _ => ¬ c.session.account.Allows count.toNat) (fun _ => False) c := by
  obtain ⟨response, c₁, c₂, c₃, hfetch, hremember, hcheck, plain⟩ := h.offer
  have hchunks := hcounting.tally.chunks_lt h.mode h.more
  -- up to the count nothing changes
  have hstill₁ := (wp_of_ret hfetch).mp (keeps_fetchNumbered_still c c (.refl c))
  have hstill₂ := (wp_of_ret hremember).mp (keeps_remember_still c response c₁ hstill₁)
  have hstill := ((wp_of_ret hcheck).mp (keeps_checkActive_still c c₂ hstill₂)).session
  rw [QueryCursor.nextChunk, wp_bind, wp_look, wp_bind, wp_raiseIf]
  refine ⟨fun houtstanding => ?_, fun _ => ?_⟩
  · cases houtstanding.symm.trans h.ready.idle
  rw [wp_ite]
  refine ⟨fun hreconciled => ?_, fun _ => ?_⟩
  · cases hreconciled.symm.trans h.ready.open'
  rw [wp_bind, wp_raiseIf]
  refine ⟨fun hterminal => ?_, fun _ => ?_⟩
  · cases hterminal.symm.trans h.ready.active
  rw [wp_onRaise, QueryCursor.nextChunkBody, wp_bind, wp_look, wp_ite]
  refine ⟨fun _ => ?_, fun hmode => absurd h.mode hmode⟩
  rw [QueryCursor.nextNumbered, wp_bind, wp_look, wp_ite]
  refine ⟨fun hend => absurd h.more (UInt64.not_lt.mpr hend), fun _ => ?_⟩
  rw [wp_bind, wp_of_ret hfetch, QueryCursor.deliver, wp_bind, wp_of_ret hremember, wp_bind,
    wp_of_ret hcheck, wp_bind]
  have haccept := accept_iff_allows (plain.still hstill)
    (by rw [hstill.chunks, hstill.options]; exact hchunks)
  rw [hstill.account] at haccept
  rw [wp_iff]
  refine ⟨fun chunk c₄ hrun => ?_, fun e c₄ hrun => ?_, fun c₄ hrun => ?_⟩
  · obtain ⟨-, -, haccount⟩ := haccept.2 chunk c₄ hrun
    have hchunk : chunk = response.chunk :=
      ((wp_iff.mp (wp_accept_exact response c₃)).1 _ _ hrun).2.1
    rw [wp_bind, wp_modify, wp_pure]
    refine ⟨rfl, haccept.1.mp ⟨c₄, hchunk ▸ hrun⟩, ?_⟩
    rw [← haccount, onSession_session]
    unfold QueryCursor.follow
    split <;> rfl
  · intro hallows
    obtain ⟨c₅, hreturn⟩ := haccept.1.mpr hallows
    cases hrun.symm.trans hreturn
  · exact ((wp_iff.mp (wp_accept_exact response c₃)).2.2 _ hrun).elim

/-- The two calls of the Arrow way take an offered chunk when the account allows
it. -/
theorem reportArrowChunk_offered {options : QueryOptions} {c c₁ c₂ : Client} {count : UInt64}
    {response : HttpResponse} (hcounting : c.Counting options)
    (hfetch : QueryCursor.nextArrowChunk env c = (.ret (some response), c₁))
    (hcheck : checkActive env c₁ = (.ret (), c₂)) :
    ((∃ c', QueryCursor.reportArrowChunk env count c₁ = (.ret (), c')) ↔
        c.session.account.Allows count.toNat) ∧
      ∀ c', QueryCursor.reportArrowChunk env count c₁ = (.ret (), c') →
        c'.session.account = c.session.account.add count.toNat := by
  have hcounting₁ : c₁.Counting options := by
    have hrules : Keeps (Client.Counting options) (QueryCursor.nextArrowChunk env) :=
      (cursorRules_metered countedOn_true).nextArrowChunk
    exact (wp_of_ret hfetch).mp (hrules c hcounting)
  obtain ⟨hstill, houtstanding⟩ := (wp_of_ret hfetch).mp (wp_nextArrowChunk_still c) rfl
  obtain ⟨hmode, hmore⟩ := hcounting₁.tally.pending houtstanding
  obtain ⟨hiff, haccount⟩ := report_iff_allows count houtstanding ⟨c₂, hcheck⟩
    (hcounting₁.tally.chunks_lt hmode hmore)
  rw [hstill.session.account] at hiff haccount
  exact ⟨hiff, fun c' hrun => (haccount c' hrun).2⟩

/-- `NextChunk` takes the chunks that the account takes. -/
theorem jsonTakes_eq {options : QueryOptions} {counts : List UInt64} {c : Client}
    (hcounting : c.Counting options) (hfeeds : FeedsJson env c counts) :
    (jsonTakes env c counts).1 = (c.session.account.take counts).1 ∧
      (jsonTakes env c counts).2.session.account = (c.session.account.take counts).2 := by
  induction counts generalizing c with
  | nil => exact ⟨rfl, rfl⟩
  | cons count rest ih =>
      obtain ⟨hoffer, hrest⟩ := hfeeds
      have hnext := wp_iff.mp (wp_nextChunk_offered hoffer hcounting)
      rw [jsonTakes, Account.take]
      rcases hrun : QueryCursor.nextChunk env c with ⟨outcome, c'⟩
      cases outcome with
      | ret next =>
          obtain ⟨hsome, hallows, haccount⟩ := hnext.1 next c' hrun
          obtain ⟨chunk, rfl⟩ := Option.isSome_iff_exists.mp hsome
          have hrules : Keeps (Client.Counting options) (QueryCursor.nextChunk env) :=
            (cursorRules_metered countedOn_true).leads_nextChunk fun _ h => h
          obtain ⟨htaken, hlast⟩ :=
            ih ((wp_of_ret hrun).mp (hrules c hcounting)) (hrest chunk c' hrun)
          simp only [Account.charge, if_pos hallows]
          rw [haccount] at htaken hlast
          exact ⟨congrArg (count :: ·) htaken, hlast⟩
      | raise e =>
          simp only [Account.charge, if_neg (hnext.2.1 e c' hrun)]
          exact ⟨trivial, trivial⟩
      | cut => exact (hnext.2.2 c' hrun).elim

/-- `ReportArrowChunk` takes the counts that the account takes. -/
theorem arrowTakes_eq {options : QueryOptions} {counts : List UInt64} {c : Client}
    (hcounting : c.Counting options) (hfeeds : FeedsArrow env c counts) :
    (arrowTakes env c counts).1 = (c.session.account.take counts).1 ∧
      (arrowTakes env c counts).2.session.account = (c.session.account.take counts).2 := by
  induction counts generalizing c with
  | nil => exact ⟨rfl, rfl⟩
  | cons count rest ih =>
      obtain ⟨⟨response, c₁, c₂, hfetch, hcheck⟩, hrest⟩ := hfeeds
      obtain ⟨hiff, haccount⟩ :=
        @reportArrowChunk_offered _ _ _ _ _ count _ hcounting hfetch hcheck
      rw [arrowTakes, Account.take]
      simp only [hfetch]
      rcases hrun : QueryCursor.reportArrowChunk env count c₁ with ⟨outcome, c'⟩
      cases outcome with
      | ret =>
          have hallows := hiff.mp ⟨c', hrun⟩
          have hcounting' : c'.Counting options := by
            have hnext : Keeps (Client.Counting options) (QueryCursor.nextArrowChunk env) :=
              (cursorRules_metered countedOn_true).nextArrowChunk
            have hreport : Keeps (Client.Counting options)
                (QueryCursor.reportArrowChunk env count) :=
              (cursorRules_metered countedOn_true).reportArrowChunk count
            exact (wp_of_ret hrun).mp (hreport c₁ ((wp_of_ret hfetch).mp (hnext c hcounting)))
          obtain ⟨htaken, hlast⟩ := ih hcounting' (hrest response c₁ c' hfetch hrun)
          simp only [Account.charge, if_pos hallows]
          rw [haccount c' hrun] at htaken hlast
          exact ⟨congrArg (count :: ·) htaken, hlast⟩
      | raise | cut =>
          have hrefuses : ¬ c.session.account.Allows count.toNat := by
            intro hallows
            obtain ⟨c₃, hreturn⟩ := hiff.mpr hallows
            cases hrun.symm.trans hreturn
          simp only [Account.charge, if_neg hrefuses]
          exact ⟨trivial, trivial⟩

/-! ## The result -/

/-- A live session counts within its limits. -/
theorem QueryRun.counting {sql : Bytes} {credentials : QueryCredentials} {options : QueryOptions}
    {c : Client} (run : QueryRun env sql credentials options true c) : c.Counting options :=
  queryRun_metered run

/-- In two live numbered sessions with the same account, `Accept` takes a plain
chunk if and only if `ReportArrowChunk` takes its number of rows, and the
counters stay the same on both paths; over any list of chunks both paths take
the same ones, and `Finish` then decides the same. -/
theorem arrow_agrees_with_json {env₁ env₂ : QueryEnv} {sql₁ sql₂ : Bytes}
    {credentials₁ credentials₂ : QueryCredentials} {options₁ options₂ : QueryOptions}
    {c₁ c₂ : Client} (run₁ : QueryRun env₁ sql₁ credentials₁ options₁ true c₁)
    (run₂ : QueryRun env₂ sql₂ credentials₂ options₂ true c₂)
    (numbered : c₁.session.mode = .numberedV3)
    (same : c₁.session.account = c₂.session.account) :
    (∀ count response, PlainChunk c₁.session count response →
      c₂.session.arrowResponseOutstanding = true → (∃ c, checkActive env₂ c₂ = (.ret (), c)) →
      ((∃ chunk c₁', accept response c₁ = (.ret chunk, c₁')) ↔
          ∃ c₂', QueryCursor.reportArrowChunk env₂ count c₂ = (.ret (), c₂')) ∧
        ∀ chunk c₁' c₂', accept response c₁ = (.ret chunk, c₁') →
          QueryCursor.reportArrowChunk env₂ count c₂ = (.ret (), c₂') →
          c₁'.session.rows = c₂'.session.rows ∧ c₁'.session.cells = c₂'.session.cells ∧
            c₁'.session.fetchedChunks = c₂'.session.fetchedChunks) ∧
      ∀ counts, FeedsJson env₁ c₁ counts → FeedsArrow env₂ c₂ counts →
        (jsonTakes env₁ c₁ counts).1 = (arrowTakes env₂ c₂ counts).1 ∧
          (jsonTakes env₁ c₁ counts).2.session.rows
            = (arrowTakes env₂ c₂ counts).2.session.rows ∧
          (jsonTakes env₁ c₁ counts).2.session.cells
            = (arrowTakes env₂ c₂ counts).2.session.cells ∧
          (jsonTakes env₁ c₁ counts).2.session.fetchedChunks
            = (arrowTakes env₂ c₂ counts).2.session.fetchedChunks ∧
          ((∃ c, finish (jsonTakes env₁ c₁ counts).2 = (.ret (), c)) ↔
            ∃ c, finish (arrowTakes env₂ c₂ counts).2 = (.ret (), c)) := by
  have hcounting₁ := run₁.counting
  have hcounting₂ := run₂.counting
  have hnumbered : c₁.session.account.numbered = true := decide_eq_true numbered
  refine ⟨fun count response plain houtstanding hactive => ?_, fun counts hjson harrow => ?_⟩
  · obtain ⟨hmode₂, hmore⟩ := hcounting₂.tally.pending houtstanding
    have hchunks₂ := hcounting₂.tally.chunks_lt hmode₂ hmore
    have hchunks₁ : c₁.session.fetchedChunks < c₁.session.options.maxChunks := by
      have hlimit : c₁.session.options.maxChunks = c₂.session.options.maxChunks :=
        UInt64.toNat_inj.mp (congrArg Account.maxChunks same)
      rw [(counters_of_account same).2.2, hlimit]
      exact hchunks₂
    obtain ⟨haccept, haccepted⟩ := accept_iff_allows plain hchunks₁
    obtain ⟨hreport, hreported⟩ := report_iff_allows count houtstanding hactive hchunks₂
    rw [← same] at hreport hreported
    refine ⟨⟨fun ⟨chunk, c, hrun⟩ => ?_, fun hrun => ?_⟩, fun chunk c c' hrun hrun' => ?_⟩
    · have hchunk : chunk = response.chunk :=
        ((wp_iff.mp (wp_accept_exact response c₁)).1 _ _ hrun).2.1
      exact hreport.mpr (haccept.mp ⟨c, hchunk ▸ hrun⟩)
    · obtain ⟨c, hc⟩ := haccept.mpr (hreport.mp hrun)
      exact ⟨_, c, hc⟩
    · exact counters_of_account
        ((haccepted chunk c hrun).2.2.trans (hreported c' hrun').2.symm)
  · obtain ⟨htaken₁, haccount₁⟩ := jsonTakes_eq hcounting₁ hjson
    obtain ⟨htaken₂, haccount₂⟩ := arrowTakes_eq hcounting₂ harrow
    rw [← same] at htaken₂ haccount₂
    have haccount := haccount₁.trans haccount₂.symm
    have hlast : (c₁.session.account.take counts).2.numbered = true :=
      (Account.take_numbered _ _).trans hnumbered
    obtain ⟨hrows, hcells, hchunks⟩ := counters_of_account haccount
    refine ⟨htaken₁.trans htaken₂.symm, hrows, hcells, hchunks, ?_⟩
    rw [finish_iff_reconciled (haccount₁ ▸ hlast), finish_iff_reconciled (haccount₂ ▸ hlast),
      haccount]

/-- Surroundings with a numbered query of two rows in two chunks, which say
nothing about the result but their row. -/
def plainEnv : QueryEnv :=
  scriptedEnv (fun _ => 0) (fun _ => some { status := 200 }) fun n => .response <|
    if n ≤ 2 then
      { state := .complete
        queryId := ascii "q-1"
        hasChunkCount := true
        chunkCount := 2
        hasRowCount := true
        rowCount := 2
        metadata := [⟨ascii "id", ascii "bigint", false, false, false, 0, 0⟩] }
    else { state := .complete, chunk := { rows := [[some (ascii "1")]] } }

/-- A chunk of one row. -/
def plainResponse : QueryResponse :=
  { state := .complete, chunk := { rows := [[some (ascii "1")]] } }

/-- `Prepare` in them. -/
def plainPrepared : Outcome QueryError Unit × Client :=
  QueryApiV3Client.prepareInternal plainEnv 5 (ascii "SELECT 1") sampleCredentials false {} {}

/-- The first chunk of the query, asked for as Arrow. -/
def plainAsked : QueryWorld :=
  (handleMachine plainEnv).run ⟨plainPrepared.2, some (.prepared 0)⟩
    [.openCursor 0 0, .cursorCall 0 .nextArrowChunk]

/-- `NextChunk` is offered the next chunk after a call on `c`. -/
theorem FeedsJson.cons {c : Client} {count : UInt64} {rest : List UInt64}
    (offer : OffersJson env c count) (feeds : FeedsJson env (QueryCursor.nextChunk env c).2 rest) :
    FeedsJson env c (count :: rest) := by
  refine ⟨offer, fun chunk c' hrun => ?_⟩
  rw [hrun] at feeds
  exact feeds

/-- `NextArrowChunk` is offered the next chunk after two calls on `c`. -/
theorem FeedsArrow.cons {c : Client} {count : UInt64} {rest : List UInt64}
    (offer : OffersArrow env c)
    (feeds : FeedsArrow env
      (QueryCursor.reportArrowChunk env count (QueryCursor.nextArrowChunk env c).2).2 rest) :
    FeedsArrow env c (count :: rest) := by
  refine ⟨offer, fun response c₁ c' hfetch hreport => ?_⟩
  rw [hfetch, hreport] at feeds
  exact feeds

/-- The chunk is plain in a session of one column. -/
theorem plainChunk_one {s : Session} (width : s.metadata.length = 1) :
    PlainChunk s 1 plainResponse where
  complete := rfl
  metadata := rfl
  returned h := by cases h
  rows := rfl
  widths row hrow := by
    rw [List.mem_singleton.mp hrow, width]
    rfl

/-- A plain chunk in answer to `NextChunk`, run by run. -/
theorem offersJson_plain {c : Client} (ready : c.session.Ready)
    (mode : c.session.mode = .numberedV3)
    (more : c.session.nextChunkIndex < c.session.expectedChunks)
    (width : c.session.metadata.length = 1)
    (fetched : (QueryCursor.fetchNumbered env c).1 = .ret plainResponse)
    (remembered : (rememberQueryId plainResponse (QueryCursor.fetchNumbered env c).2).1 = .ret ())
    (active : (checkActive env
      (rememberQueryId plainResponse (QueryCursor.fetchNumbered env c).2).2).1 = .ret ()) :
    OffersJson env c 1 where
  ready := ready
  mode := mode
  more := more
  offer := ⟨plainResponse, _, _, _, run_eq_of_fst fetched, run_eq_of_fst remembered,
    run_eq_of_fst active, plainChunk_one width⟩

/-- A chunk in answer to `NextArrowChunk`, run by run. -/
theorem offersArrow_of_runs {c : Client}
    (fetched : ((QueryCursor.nextArrowChunk env c).1 matches .ret (some _)) = true)
    (active : (checkActive env (QueryCursor.nextArrowChunk env c).2).1 = .ret ()) :
    OffersArrow env c := by
  rcases hrun : QueryCursor.nextArrowChunk env c with ⟨outcome, c₁⟩
  rw [hrun] at fetched active
  cases outcome with
  | ret next =>
      cases next with
      | some response => exact ⟨response, c₁, _, hrun, run_eq_of_fst active⟩
      | none => cases fetched
  | raise e => cases fetched
  | cut => cases fetched

/-- Both paths take the first chunk of the query, and then both chunks. -/
theorem arrow_agrees_with_json_plain :
    ((∃ chunk c, accept plainResponse plainPrepared.2 = (.ret chunk, c)) ↔
        ∃ c, QueryCursor.reportArrowChunk plainEnv 1 plainAsked.client = (.ret (), c)) ∧
      (jsonTakes plainEnv plainPrepared.2 [1, 1]).1
        = (arrowTakes plainEnv plainPrepared.2 [1, 1]).1 := by
  have hprepared : plainPrepared = (.ret (), plainPrepared.2) :=
    run_eq_of_fst (by decide +kernel)
  have run₁ : QueryRun plainEnv (ascii "SELECT 1") sampleCredentials {} true plainPrepared.2 :=
    @QueryRun.handled plainEnv _ _ _ 5 false _ 0 hprepared []
  have run₂ : QueryRun plainEnv (ascii "SELECT 1") sampleCredentials {} true plainAsked.client :=
    @QueryRun.handled plainEnv _ _ _ 5 false _ 0 hprepared
      [.openCursor 0 0, .cursorCall 0 .nextArrowChunk]
  have numbered : plainPrepared.2.session.mode = .numberedV3 := by decide +kernel
  have active : (checkActive plainEnv plainAsked.client).1 = .ret () := by decide +kernel
  refine ⟨((arrow_agrees_with_json run₁ run₂ numbered (by decide +kernel)).1 1 plainResponse
    (plainChunk_one (by decide +kernel)) (by decide +kernel) ⟨_, run_eq_of_fst active⟩).1, ?_⟩
  refine ((arrow_agrees_with_json run₁ run₁ numbered rfl).2 [1, 1] ?_ ?_).1
  · refine .cons ?_ (.cons ?_ trivial)
    · exact offersJson_plain ⟨by decide +kernel, by decide +kernel, by decide +kernel⟩ numbered
        (by decide +kernel) (by decide +kernel) (by decide +kernel) (by decide +kernel)
        (by decide +kernel)
    · exact offersJson_plain ⟨by decide +kernel, by decide +kernel, by decide +kernel⟩
        (by decide +kernel) (by decide +kernel) (by decide +kernel) (by decide +kernel)
        (by decide +kernel) (by decide +kernel)
  · refine .cons ?_ (.cons ?_ trivial)
    · exact offersArrow_of_runs (by decide +kernel) (by decide +kernel)
    · exact offersArrow_of_runs (by decide +kernel) (by decide +kernel)

end Data360
