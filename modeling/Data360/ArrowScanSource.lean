import Data360.ArrowIpcChunkReader
import Data360.QueryApi.Agreement
import Data360.QueryApi.Sticky

/-!
# Scanning Arrow chunks

`ArrowScanSource` of `src/data360_extension.cpp`: it reads each response twice,
once to validate it and once to hand out its rows, and reports the number of
rows to the cursor in between.

* `ArrowScanSource.next` is its one operation, and `scanMachine` the machine of
  its calls.
* `Decodes` says what a response decodes to, and `Scanning` what has been
  accepted and handed out.  `wp_next` is the step lemma.
* `validate_before_emit` is the result for every sequence of calls.
-/

namespace Data360

open Lib Lib.ByteString Lib.Prog Session

variable {Row : Type} {env : QueryEnv} {library : ArrowLibrary Row}

/-! ## The source -/

/-- What a scan throws: what the query client throws, or an
`InvalidInputException`. -/
inductive ScanError where
  | query (error : QueryError)
  | invalidInput (message : String)
  deriving DecidableEq, Repr

/-- The loop of `ArrowContentType`, with the value found so far. -/
def contentTypeOf (result : Bytes) : List (Bytes × Bytes) → Except String Bytes
  | [] =>
      if result = [] then .error "Data 360 Arrow response headers were invalid" else .ok result
  | header :: rest =>
      if lower header.1 ≠ ascii "content-type" then contentTypeOf result rest
      else if result ≠ [] then .error "Data 360 Arrow response headers were invalid"
      else contentTypeOf header.2 rest

/-- `ArrowContentType`. -/
def arrowContentType (response : HttpResponse) : Except String Bytes :=
  contentTypeOf [] response.headers.toList

/-- `ArrowScanSource`.  The response is a local of `next` here: no call finds one
that it has not fetched itself. -/
structure ArrowScanSource (Row : Type) where
  client : Client
  expected : List ExpectedArrowField
  types : List LogicalType
  reader : Option (ArrowIpcChunkReader Row) := none

namespace ArrowScanSource

/-- The constructor. -/
def create (cursor : Client) (metadata : List ColumnMetadata) (boundTypes : List LogicalType) :
    Except String (ArrowScanSource Row) := do
  let expected ← expectedArrowSchema metadata
  return { client := cursor, expected, types := boundTypes }

/-- A program of `ArrowScanSource`. -/
abbrev Scan (Row α : Type) := Prog (ArrowScanSource Row) ScanError α

/-- A call on the cursor. -/
def onCursor {α : Type} (prog : Query α) : Scan Row α := fun source =>
  match prog source.client with
  | (.ret value, client) => (.ret value, { source with client })
  | (.raise error, client) => (.raise (.query error), { source with client })
  | (.cut, client) => (.cut, { source with client })

/-- A computation that returns or throws an `InvalidInputException`. -/
def orInvalid {α : Type} : Except String α → Scan Row α
  | .ok value => pure value
  | .error message => raise (.invalidInput message)

/-- `if (reader->Next(output)) return true; reader.reset();`, when there is a
reader. -/
def readOn : Scan Row (Option (List Row)) := fun source =>
  match source.reader with
  | none => (.ret none, source)
  | some reader =>
      match reader.next with
      | (.ok (some output), left) => (.ret (some output), { source with reader := some left })
      | (.ok none, _) => (.ret none, { source with reader := none })
      | (.error message, left) =>
          (.raise (.invalidInput message), { source with reader := some left })

/-- The loop over the validator, with the rows it has counted. -/
def countRows (validator : ArrowIpcChunkReader Row) (validatedRows : UInt64) :
    Except String UInt64 :=
  match _next : validator.next with
  | (.error message, _) => .error message
  | (.ok none, _) => .ok validatedRows
  | (.ok (some discarded), left) =>
      if (2 ^ 64 - 1) - discarded.length < validatedRows.toNat then
        .error "Data 360 Arrow response exceeded configured limits"
      else countRows left (validatedRows + UInt64.ofNat discarded.length)
termination_by validator.rowsLeft
decreasing_by
  obtain ⟨hnonempty, hleft⟩ := ArrowIpcChunkReader.next_rowsLeft _next
  have := List.length_pos_iff.mpr hnonempty
  omega

/-- A reader of the response with the bound types. -/
def openReader (library : ArrowLibrary Row) (expected : List ExpectedArrowField)
    (types : List LogicalType) (contentType : Bytes) (response : HttpResponse) :
    Except String (ArrowIpcChunkReader Row) :=
  match ArrowIpcChunkReader.create library contentType response.body expected
    (64 * 1024 * 1024) with
  | .error message => .error message
  | .ok reader =>
      if reader.types ≠ types then .error "Data 360 Arrow result schema changed" else .ok reader

/-- What happens to a response before the cursor hears of it: the number of its
rows, and the reader that is going to hand them out. -/
def validate (library : ArrowLibrary Row) (expected : List ExpectedArrowField)
    (types : List LogicalType) (response : HttpResponse) :
    Except String (UInt64 × ArrowIpcChunkReader Row) := do
  let contentType ← arrowContentType response
  let validator ← openReader library expected types contentType response
  let validatedRows ← countRows validator 0
  let validatedReader ← openReader library expected types contentType response
  return (validatedRows, validatedReader)

/-- The rest of a turn of the loop of `Next`: validate the response, report its
rows and keep the reader. -/
def takeResponse (env : QueryEnv) (library : ArrowLibrary Row) (response : HttpResponse) :
    Scan Row Unit := do
  let source ← read id
  let (validatedRows, reader) ← orInvalid (validate library source.expected source.types response)
  onCursor (QueryCursor.reportArrowChunk env validatedRows)
  update fun source => { source with reader := some reader }

/-- `ArrowScanSource::Next`: the rows of the output, or `none` for `false`. -/
def next (env : QueryEnv) (library : ArrowLibrary Row) : Nat → Scan Row (Option (List Row))
  | 0 => outOfFuel
  | fuel + 1 => do
      let output ← readOn
      match output with
      | some rows => pure (some rows)
      | none => do
          let response ← onCursor (QueryCursor.nextArrowChunk env)
          match response with
          | none => pure none
          | some response => do
              takeResponse env library response
              next env library fuel

end ArrowScanSource

/-- The machine of the calls of `Next`, each with its fuel. -/
def scanMachine (env : QueryEnv) (library : ArrowLibrary Row) :
    Machine (ArrowScanSource Row) Nat (Outcome ScanError (Option (List Row))) :=
  ⟨fun fuel source => ArrowScanSource.next env library fuel source⟩

/-! ## Validating -/

/-- The response is an Arrow stream of the bound types, and decodes to these
rows, all of it. -/
def Decodes (library : ArrowLibrary Row) (expected : List ExpectedArrowField)
    (types : List LogicalType) (response : HttpResponse) (rows : List Row) : Prop :=
  ∃ contentType reader, arrowContentType response = .ok contentType ∧
    ArrowIpcChunkReader.create library contentType response.body expected (64 * 1024 * 1024)
      = .ok reader ∧
    reader.types = types ∧ reader.decoded = some rows

/-- A validator that is counted to its end has decoded everything. -/
theorem decoded_of_countRows {validator : ArrowIpcChunkReader Row} {validatedRows total : UInt64}
    (h : ArrowScanSource.countRows validator validatedRows = .ok total) :
    ∃ rows, validator.decoded = some rows ∧
      total.toNat = validatedRows.toNat + rows.length := by
  fun_induction ArrowScanSource.countRows validator validatedRows with
  | case1 => cases h
  | case2 validator validatedRows left hnext =>
      cases h
      exact ⟨[], (ArrowIpcChunkReader.next_spec hnext).1, rfl⟩
  | case3 => cases h
  | case4 validator validatedRows discarded left hnext hfits ih =>
      obtain ⟨rows, hdecoded, htotal⟩ := ih h
      obtain ⟨-, hsize, hrest, -⟩ := ArrowIpcChunkReader.next_spec hnext
      have hvector : standardVectorSize < 2 ^ 64 := by decide
      refine ⟨discarded ++ rows, by rw [hrest, hdecoded]; rfl, ?_⟩
      have hsum : (validatedRows + UInt64.ofNat discarded.length).toNat
          = validatedRows.toNat + discarded.length := by
        rw [UInt64.toNat_add, UInt64.toNat_ofNat']
        omega
      rw [htotal, hsum, List.length_append, Nat.add_assoc]

/-- A reader with the bound types is one that the constructor has made. -/
theorem create_of_openReader {expected : List ExpectedArrowField} {types : List LogicalType}
    {contentType : Bytes} {response : HttpResponse} {reader : ArrowIpcChunkReader Row}
    (h : ArrowScanSource.openReader library expected types contentType response = .ok reader) :
    ArrowIpcChunkReader.create library contentType response.body expected (64 * 1024 * 1024)
      = .ok reader ∧ reader.types = types := by
  unfold ArrowScanSource.openReader at h
  split at h
  · cases h
  · rename_i hcreate
    split at h
    · cases h
    · rename_i htypes
      cases h
      exact ⟨hcreate, Decidable.not_not.mp htypes⟩

/-- What `validate` finds out. -/
theorem decodes_of_validate {expected : List ExpectedArrowField} {types : List LogicalType}
    {response : HttpResponse} {count : UInt64} {reader : ArrowIpcChunkReader Row}
    (h : ArrowScanSource.validate library expected types response = .ok (count, reader)) :
    ∃ rows, Decodes library expected types response rows ∧ reader.decoded = some rows ∧
      count.toNat = rows.length := by
  obtain ⟨contentType, hcontent, h⟩ := except_bind_eq_ok.mp h
  obtain ⟨validator, hopen, h⟩ := except_bind_eq_ok.mp h
  obtain ⟨total, hcount, h⟩ := except_bind_eq_ok.mp h
  obtain ⟨reader', hagain, h⟩ := except_bind_eq_ok.mp h
  cases h
  -- the second reader starts where the validator started
  cases hopen.symm.trans hagain
  obtain ⟨hcreate, htypes⟩ := create_of_openReader hopen
  obtain ⟨rows, hdecoded, htotal⟩ := decoded_of_countRows hcount
  exact ⟨rows, ⟨contentType, reader, hcontent, hcreate, htypes, hdecoded⟩, hdecoded,
    htotal.trans (Nat.zero_add _)⟩

/-! ## What a scan has accepted -/

/-- A response, with the rows it decodes to. -/
abbrev Accepted (Row : Type) := List (HttpResponse × List Row)

/-- The calls on the cursor that have accepted the responses. -/
def acceptances (accepted : Accepted Row) : Replies :=
  accepted.flatMap fun (response, rows) =>
    [(.nextArrowChunk, .arrow (some response)),
      (.reportArrowChunk (UInt64.ofNat rows.length), .reported)]

/-- The rows of the accepted responses, in order. -/
def acceptedRows (accepted : Accepted Row) : List Row := accepted.flatMap (·.2)

theorem acceptances_concat (accepted : Accepted Row) (response : HttpResponse) (rows : List Row) :
    acceptances (accepted ++ [(response, rows)])
      = acceptances accepted ++ [(.nextArrowChunk, .arrow (some response))]
        ++ [(.reportArrowChunk (UInt64.ofNat rows.length), .reported)] := by
  simp [acceptances]

theorem acceptedRows_concat (accepted : Accepted Row) (last : HttpResponse × List Row) :
    acceptedRows (accepted ++ [last]) = acceptedRows accepted ++ last.2 := by
  simp [acceptedRows]

/-- The cursor has counted the rows of the responses. -/
theorem deliveredRows_acceptances {accepted : Accepted Row}
    (h : ∀ p ∈ accepted, p.2.length < 2 ^ 64) :
    deliveredRows (acceptances accepted) = (acceptedRows accepted).length := by
  induction accepted using List.reverseRec with
  | nil => rfl
  | append_singleton accepted last ih =>
      obtain ⟨response, rows⟩ := last
      have hrows : rows.length < 2 ^ 64 := h (response, rows) (by simp)
      rw [acceptances_concat, deliveredRows_concat, deliveredRows_concat, acceptedRows_concat,
        List.length_append, ih fun p hp => h p (by simp [hp])]
      show _ + 0 + (UInt64.ofNat rows.length).toNat = _
      rw [UInt64.toNat_ofNat_of_lt' hrows, Nat.add_zero]

/-- Only rows of the last response are still to be handed out. -/
def InLast (accepted : Accepted Row) (unread : List Row) : Prop :=
  unread = [] ∨ ∃ front last, accepted = front ++ [last] ∧ unread <:+ last.2

/-- A cursor that hands out nothing more. -/
def Halted (s : Session) : Prop :=
  s.arrowResponseOutstanding = true ∨ (s.reconciled = false ∧ s.terminal = true)

/-- The cursor at `c` has accepted the responses. -/
structure Tracks (env : QueryEnv) (c₀ : Client) (accepted : Accepted Row) (c : Client) : Prop where
  served : Served env c₀ (acceptances accepted) c
  counted : c.session.fetchedChunks.toNat = accepted.length
  idle : c.session.arrowResponseOutstanding = false

/-- What a scan has accepted, and what it has handed out of it. -/
structure Scanning (env : QueryEnv) (library : ArrowLibrary Row)
    (expected : List ExpectedArrowField) (types : List LogicalType) (c₀ : Client)
    (accepted : Accepted Row) (emitted : List Row) (source : ArrowScanSource Row) : Prop where
  own : source.expected = expected ∧ source.types = types
  decodes : ∀ p ∈ accepted, Decodes library expected types p.1 p.2 ∧ p.2.length < 2 ^ 64
  /-- The scan goes on, or has come to the end, or has failed. -/
  cursor : ∃ c, Tracks env c₀ accepted c ∧ c.Still source.client ∧
    (source.client = c ∨
      (source.reader = none ∧ AtEnd source.client.session ∧ Reconciles c.session) ∨
      (source.reader = none ∧ Halted source.client.session))
  rows : ∃ unread, emitted ++ unread = acceptedRows accepted ∧ InLast accepted unread ∧
    (source.reader = none → unread = []) ∧
    ∀ reader, source.reader = some reader → reader.decoded = some unread

/-! ## The cursor's part -/

theorem program_nextArrowChunk_ret {c c' : Client} {next : Option HttpResponse}
    (h : QueryCursor.nextArrowChunk env c = (.ret next, c')) :
    CursorCall.nextArrowChunk.program env c = (.ret (.arrow next), c') := by
  show Prog.bind (QueryCursor.nextArrowChunk env) _ c = _
  rw [Prog.bind, h]
  rfl

theorem program_reportArrowChunk_ret {c c' : Client} {decodedRows : UInt64}
    (h : QueryCursor.reportArrowChunk env decodedRows c = (.ret (), c')) :
    (CursorCall.reportArrowChunk decodedRows).program env c = (.ret .reported, c') := by
  show Prog.bind (QueryCursor.reportArrowChunk env decodedRows) _ c = _
  rw [Prog.bind, h]
  rfl

/-- A halted cursor throws and stays as it is. -/
theorem wp_nextArrowChunk_halted {c : Client} (h : Halted c.session) :
    wp (QueryCursor.nextArrowChunk env) (fun _ _ => False) (fun _ c' => c' = c) (fun _ => False)
      c := by
  rw [QueryCursor.nextArrowChunk, wp_bind, wp_look, wp_bind, wp_raiseIf]
  refine ⟨fun _ => rfl, fun _ => ?_⟩
  rw [wp_bind, wp_raiseIf]
  refine ⟨fun _ => rfl, fun hidle => ?_⟩
  obtain ⟨hopen, hterminal⟩ := h.resolve_left hidle
  rw [wp_ite]
  refine ⟨fun hreconciled => ?_, fun _ => ?_⟩
  · cases hopen.symm.trans hreconciled
  · rw [wp_bind, wp_raiseIf]
    exact ⟨fun _ => rfl, fun hactive => (hactive hterminal).elim⟩

/-- A report that fails counts nothing, and the response stays unreported. -/
theorem wp_reportArrowChunk_still (c : Client) (decodedRows : UInt64) :
    wp (QueryCursor.reportArrowChunk env decodedRows) (fun _ _ => True)
      (fun _ c' => c.Still c' ∧
        c'.session.arrowResponseOutstanding = c.session.arrowResponseOutstanding)
      (fun _ => False) c := by
  rw [QueryCursor.reportArrowChunk, wp_bind, wp_look, wp_bind, wp_raiseIf]
  refine ⟨fun _ => ⟨.refl c, rfl⟩, fun _ => ?_⟩
  rw [wp_onRaise]
  refine wp_mono (wp_reportBody_exact (lasting_past c.log).idle decodedRows
    (List.prefix_refl _)) (fun _ _ _ => trivial) (fun _ c' h => ?_) fun _ h => h
  obtain ⟨hlog, hsession, -⟩ := h
  have hstill : c.Still c' := ⟨hlog, hsession ▸ .refl _⟩
  refine ⟨still_cancel hstill, ?_⟩
  rw [← hsession]
  unfold cancel
  split <;> rfl

/-- A failure of a numbered cursor is final. -/
theorem wp_nextArrowChunk_halts {setting : Setting} {c : Client} (h : c.Sound setting)
    (hmode : c.session.mode = .numberedV3) (hidle : c.session.arrowResponseOutstanding = false) :
    wp (QueryCursor.nextArrowChunk env) (fun _ _ => True) (fun _ c' => Halted c'.session)
      (fun _ => True) c := by
  rw [QueryCursor.nextArrowChunk, wp_bind, wp_look, wp_bind, wp_raiseIf]
  refine ⟨fun hother => absurd hmode hother, fun _ => ?_⟩
  rw [wp_bind, wp_raiseIf]
  refine ⟨fun houtstanding => .inl houtstanding, fun _ => ?_⟩
  rw [wp_ite]
  refine ⟨fun _ => trivial, fun hopen => ?_⟩
  rw [wp_bind, wp_raiseIf]
  refine ⟨fun hterminal => .inr ⟨by simpa using hopen, hterminal⟩, fun hactive => ?_⟩
  have hworking := h.working (by simpa using hactive) (by simpa using hopen) hidle
  rw [wp_onRaise]
  refine wp_mono (wp_nextArrowBody_known ⟨hworking.log, hworking.session, hmode⟩)
    (fun _ _ _ => trivial) (fun _ c' h' => ?_) fun _ _ => trivial
  exact .inr ⟨(cancel_reconciled c').trans h'.2, cancel_terminal h'.1 h'.2⟩

section Cursor

variable {setting : Setting} {c₀ c c₁ c₂ : Client} {accepted : Accepted Row}

/-- The cursor finds the end. -/
theorem Tracks.ended (h : Tracks env c₀ accepted c) (prepared : Prepared setting c₀)
    (hrun : QueryCursor.nextArrowChunk env c = (.ret none, c₁)) :
    c.Still c₁ ∧ AtEnd c₁.session ∧ Reconciles c.session := by
  obtain ⟨hprogress, -, -⟩ := served_progress prepared h.served
  have hreturns : Returns c c₁ .nextArrowChunk (CursorCall.nextArrowChunk.atEnd) :=
    (wp_iff.mp (wp_cursorCall_returns hprogress.sound .nextArrowChunk)).1 _ _
      (program_nextArrowChunk_ret hrun)
  refine ⟨?_, atEnd_of_returns hprogress.sound hreturns trivial, ?_⟩
  · generalize hvalue : CursorCall.nextArrowChunk.atEnd = value at hreturns
    cases hreturns with
    | again _ _ _ same => exact same ▸ .refl c
    | finished _ _ _ _ _ _ session log =>
        refine ⟨log.isPrefix, ?_⟩
        rw [session]
        exact ⟨rfl, rfl, rfl, rfl⟩
    | arrow => cases hvalue
  · generalize hvalue : CursorCall.nextArrowChunk.atEnd = value at hreturns
    cases hreturns with
    | again _ _ reconciled _ => exact (hprogress.exhausted reconciled).reconciles
    | finished _ _ _ _ _ reconciles _ _ => exact reconciles
    | arrow => cases hvalue

/-- The cursor fails. -/
theorem Tracks.failed (h : Tracks env c₀ accepted c) (prepared : Prepared setting c₀)
    (hmode : c₀.session.mode = .numberedV3) {e : QueryError}
    (hrun : QueryCursor.nextArrowChunk env c = (.raise e, c₁)) :
    c.Still c₁ ∧ Halted c₁.session := by
  obtain ⟨hprogress, -, -⟩ := served_progress prepared h.served
  refine ⟨(wp_of_raise hrun).mp (wp_nextArrowChunk_still c), ?_⟩
  exact (wp_of_raise hrun).mp
    (wp_nextArrowChunk_halts hprogress.sound (hprogress.mode.trans hmode) h.idle)

/-- The cursor takes a report. -/
theorem Tracks.reported (h : Tracks env c₀ accepted c) (prepared : Prepared setting c₀)
    (hmode : c₀.session.mode = .numberedV3) {response : HttpResponse} {rows : List Row}
    {count : UInt64} (hcount : count.toNat = rows.length)
    (hfetch : QueryCursor.nextArrowChunk env c = (.ret (some response), c₁))
    (hreport : QueryCursor.reportArrowChunk env count c₁ = (.ret (), c₂)) :
    Tracks env c₀ (accepted ++ [(response, rows)]) c₂ := by
  have hserved₁ := h.served.call (program_nextArrowChunk_ret hfetch)
  obtain ⟨hprogress₁, hnumbered₁, -⟩ := served_progress prepared hserved₁
  obtain ⟨hstill, houtstanding⟩ := (wp_of_ret hfetch).mp (wp_nextArrowChunk_still c) rfl
  have hreturns : Returns c₁ c₂ (.reportArrowChunk count) .reported :=
    (wp_iff.mp (wp_cursorCall_returns hprogress₁.sound _)).1 _ _
      (program_reportArrowChunk_ret hreport)
  have hsession : c₂.session = QueryCursor.countArrow count c₁.session := by
    generalize CursorValue.reported = value at hreturns
    cases hreturns with
    | again _ next _ _ => exact next.elim
    | finished _ next _ _ _ _ _ _ => exact next.elim
    | reported _ _ session _ => exact session
  have hrows : UInt64.ofNat rows.length = count := by
    rw [← hcount, UInt64.ofNat_toNat]
  refine ⟨?_, ?_, ?_⟩
  · rw [acceptances_concat, hrows]
    exact hserved₁.call (program_reportArrowChunk_ret hreport)
  · have hbound := (hnumbered₁ hmode).bound
    rw [← (hnumbered₁ hmode).counted, Session.pending, houtstanding, if_pos rfl] at hbound
    have hmore : c₁.session.fetchedChunks < c₁.session.expectedChunks :=
      UInt64.lt_iff_toNat_lt.mpr hbound
    have hcounted : c₁.session.fetchedChunks.toNat = accepted.length := by
      rw [hstill.session.chunks]
      exact h.counted
    rw [hsession]
    show (c₁.session.fetchedChunks + 1).toNat = _
    rw [Quota.toNat_succ hmore, hcounted, List.length_append, List.length_singleton]
  · rw [hsession]
    rfl

end Cursor

/-! ## One call -/

section Scanning

variable {setting : Setting} {c₀ : Client} {expected : List ExpectedArrowField}
  {types : List LogicalType} {accepted : Accepted Row} {emitted : List Row}
  {source : ArrowScanSource Row}

/-- A call on the cursor, by its precondition. -/
theorem wp_onCursor {α : Type} {prog : Query α} {Q : α → ArrowScanSource Row → Prop}
    {E : ScanError → ArrowScanSource Row → Prop} {C : ArrowScanSource Row → Prop} :
    wp (ArrowScanSource.onCursor prog) Q E C source ↔
      wp prog (fun a c => Q a { source with client := c })
        (fun e c => E (.query e) { source with client := c })
        (fun c => C { source with client := c }) source.client := by
  unfold wp ArrowScanSource.onCursor
  rcases prog source.client with ⟨outcome, c⟩
  cases outcome <;> exact Iff.rfl

/-- Reading on hands out the next rows of the last response, and goes on to the
next one when there are none left. -/
theorem Scanning.wp_readOn (h : Scanning env library expected types c₀ accepted emitted source) :
    wp ArrowScanSource.readOn
      (fun output source' => match output with
        | some rows => Scanning env library expected types c₀ accepted (emitted ++ rows) source'
        | none => Scanning env library expected types c₀ accepted emitted source' ∧
            source'.reader = none)
      (fun _ _ => False) (fun _ => False) source := by
  obtain ⟨unread, hunread, hlast, hnone, hsome⟩ := h.rows
  unfold wp ArrowScanSource.readOn
  cases hreader : source.reader with
  | none => exact ⟨h, hreader⟩
  | some reader =>
      have hcursor : ∃ c, Tracks env c₀ accepted c ∧ c.Still source.client ∧ source.client = c := by
        obtain ⟨c, htracks, hstill, hstands⟩ := h.cursor
        refine ⟨c, htracks, hstill, ?_⟩
        rcases hstands with hrunning | ⟨hended, -⟩ | ⟨hhalted, -⟩
        · exact hrunning
        · cases hreader.symm.trans hended
        · cases hreader.symm.trans hhalted
      obtain ⟨c, htracks, hstill, hrunning⟩ := hcursor
      obtain ⟨left, hnext, hleft⟩ := ArrowIpcChunkReader.next_of_decoded (hsome reader hreader)
      by_cases hempty : unread = []
      · simp only [hnext, if_pos hempty]
        refine ⟨⟨h.own, h.decodes, ⟨c, htracks, hstill, .inl hrunning⟩, unread, hunread, hlast,
          fun _ => hempty, fun _ hreader' => by cases hreader'⟩, trivial⟩
      · simp only [hnext, if_neg hempty]
        refine ⟨h.own, h.decodes, ⟨c, htracks, hstill, .inl hrunning⟩,
          unread.drop standardVectorSize, ?_, ?_, (fun hreader' => by cases hreader'),
          fun _ hreader' => ?_⟩
        · rw [List.append_assoc, List.take_append_drop]
          exact hunread
        · rcases hlast with hall | ⟨front, last, haccepted, hsuffix⟩
          · exact (hempty hall).elim
          · exact .inr ⟨front, last, haccepted, (List.drop_suffix _ _).trans hsuffix⟩
        · cases hreader'
          exact hleft

/-- Without a reader, everything that was accepted is handed out. -/
theorem Scanning.emitted_eq (h : Scanning env library expected types c₀ accepted emitted source)
    (hreader : source.reader = none) : emitted = acceptedRows accepted := by
  obtain ⟨unread, hunread, -, hnone, -⟩ := h.rows
  rw [← hunread, hnone hreader, List.append_nil]

/-- The end of a scan: nothing is missing. -/
def Ended (env : QueryEnv) (c₀ : Client) (accepted : Accepted Row) (emitted : List Row) : Prop :=
  ∃ c, Tracks env c₀ accepted c ∧ Reconciles c.session ∧ emitted = acceptedRows accepted

/-- A cursor that stands still, seen from the scan. -/
theorem Scanning.standing (h : Scanning env library expected types c₀ accepted emitted source)
    (hreader : source.reader = none) {c client : Client} (htracks : Tracks env c₀ accepted c)
    (hstill : c.Still client)
    (hstands : (AtEnd client.session ∧ Reconciles c.session) ∨ Halted client.session) :
    Scanning env library expected types c₀ accepted emitted { source with client } where
  own := h.own
  decodes := h.decodes
  cursor := by
    refine ⟨c, htracks, hstill, ?_⟩
    rcases hstands with hended | hhalted
    · exact .inr (.inl ⟨hreader, hended⟩)
    · exact .inr (.inr ⟨hreader, hhalted⟩)
  rows := by
    obtain ⟨unread, hunread, hlast, hnone, hsome⟩ := h.rows
    exact ⟨unread, hunread, hlast, hnone, hsome⟩

/-- Asking the cursor for the next response. -/
theorem Scanning.wp_fetch (h : Scanning env library expected types c₀ accepted emitted source)
    (prepared : Prepared setting c₀) (hmode : c₀.session.mode = .numberedV3)
    (hreader : source.reader = none) :
    wp (ArrowScanSource.onCursor (QueryCursor.nextArrowChunk env))
      (fun response source' => match response with
        | none => Scanning env library expected types c₀ accepted emitted source' ∧
            Ended env c₀ accepted emitted
        | some response => ∃ c, Tracks env c₀ accepted c ∧
            QueryCursor.nextArrowChunk env c = (.ret (some response), source'.client) ∧
            source' = { source with client := source'.client })
      (fun _ source' => Scanning env library expected types c₀ accepted emitted source')
      (fun _ => False) source := by
  obtain ⟨c, htracks, hstill, hstands⟩ := h.cursor
  rw [wp_onCursor]
  rcases hstands with hrunning | ⟨-, hend, hreconciles⟩ | ⟨-, hhalted⟩
  · rw [hrunning, wp_iff]
    refine ⟨fun response c₁ hrun => ?_, fun e c₁ hrun => ?_, fun c₁ hrun => ?_⟩
    · cases response with
      | none =>
          obtain ⟨hstill₁, hend⟩ := htracks.ended prepared hrun
          exact ⟨h.standing hreader htracks hstill₁ (.inl hend), c, htracks, hend.2,
            h.emitted_eq hreader⟩
      | some response => exact ⟨c, htracks, hrun, rfl⟩
    · obtain ⟨hstill₁, hhalted⟩ := htracks.failed prepared hmode hrun
      exact h.standing hreader htracks hstill₁ (.inr hhalted)
    · exact (wp_iff.mp (total_nextArrowChunk c)).2.2 _ hrun
  · -- the end is found again
    obtain ⟨hprogress, -, -⟩ := served_progress prepared htracks.served
    have hmode' : source.client.session.mode = .numberedV3 :=
      (congrArg Terms.mode hstill.session.terms).trans (hprogress.mode.trans hmode)
    have hstep := @atEnd_step env _ hend .nextArrowChunk
    rw [CursorCall.program, wp_bind] at hstep
    refine wp_mono hstep (fun response c₁ hsame => ?_) (fun _ c₁ hsame => ?_) fun _ h => h
    · rw [wp_pure] at hsame
      obtain ⟨rfl, hvalue⟩ := hsame
      cases hvalue
      exact ⟨h, c, htracks, hreconciles, h.emitted_eq hreader⟩
    · exact (hsame.2.2 hmode' rfl).elim
  · exact wp_mono (wp_nextArrowChunk_halted hhalted) (fun _ _ h => h.elim)
      (fun _ c₁ hsame => hsame ▸ h) fun _ h => h

/-- Taking the response that the cursor has handed out. -/
theorem Scanning.wp_takeResponse
    (h : Scanning env library expected types c₀ accepted emitted source)
    (prepared : Prepared setting c₀) (hmode : c₀.session.mode = .numberedV3)
    (hreader : source.reader = none) {c c₁ : Client} {response : HttpResponse}
    (htracks : Tracks env c₀ accepted c)
    (hfetch : QueryCursor.nextArrowChunk env c = (.ret (some response), c₁)) :
    wp (ArrowScanSource.takeResponse env library response)
      (fun _ source' => ∃ rows, Scanning env library expected types c₀
        (accepted ++ [(response, rows)]) emitted source')
      (fun _ source' => Scanning env library expected types c₀ accepted emitted source')
      (fun _ => False) { source with client := c₁ } := by
  obtain ⟨hstill, houtstanding⟩ := (wp_of_ret hfetch).mp (wp_nextArrowChunk_still c) rfl
  rw [ArrowScanSource.takeResponse, wp_bind, wp_read, wp_bind]
  rcases hvalidate : ArrowScanSource.validate library source.expected source.types response
    with message | ⟨count, reader⟩
  · -- the response stays unreported
    simp only [id_eq, hvalidate]
    exact h.standing hreader htracks hstill (.inr (.inl houtstanding))
  · obtain ⟨rows, hdecodes, hdecoded, hcount⟩ := decodes_of_validate hvalidate
    simp only [id_eq, hvalidate]
    show wp (do
      ArrowScanSource.onCursor (QueryCursor.reportArrowChunk env count)
      update fun source => { source with reader := some reader }) _ _ _ _
    rw [wp_bind, wp_onCursor, wp_iff]
    refine ⟨fun _ c₂ hreport => ?_, fun e c₂ hreport => ?_, fun c₂ hreport => ?_⟩
    · have htracks' := htracks.reported prepared hmode hcount hfetch hreport
      refine ⟨rows, h.own, ?_, ⟨c₂, htracks', .refl c₂, .inl rfl⟩, rows, ?_, ?_, ?_, ?_⟩
      · intro p hp
        rcases List.mem_append.mp hp with hold | hnew
        · exact h.decodes p hold
        · rw [List.mem_singleton.mp hnew]
          rw [h.own.1, h.own.2] at hdecodes
          exact ⟨hdecodes, hcount ▸ count.toNat_lt⟩
      · rw [acceptedRows_concat, h.emitted_eq hreader]
      · exact .inr ⟨accepted, (response, rows), rfl, List.suffix_refl _⟩
      · intro hnone
        cases hnone
      · intro reader' hreader'
        cases hreader'
        exact hdecoded
    · obtain ⟨hstill', houtstanding'⟩ :=
        (wp_of_raise hreport).mp (wp_reportArrowChunk_still c₁ count)
      have hstill₂ : c.Still c₂ :=
        ⟨hstill.log.trans hstill'.log, hstill'.session.trans hstill.session⟩
      exact h.standing hreader htracks hstill₂ (.inr (.inl (houtstanding'.trans houtstanding)))
    · exact (wp_iff.mp (wp_reportArrowChunk_still c₁ count)).2.2 _ hreport

/-- One call of `Next` keeps what it has accepted, accepts what it reports, and
hands out what it returns.  Each turn of its loop that does not end it accepts a
response. -/
theorem Scanning.wp_next (prepared : Prepared setting c₀)
    (hmode : c₀.session.mode = .numberedV3) (fuel : Nat)
    (h : Scanning env library expected types c₀ accepted emitted source) :
    wp (ArrowScanSource.next env library fuel)
      (fun output source' => ∃ accepted',
        Scanning env library expected types c₀ accepted' (emitted ++ output.getD []) source' ∧
          (output = none → Ended env c₀ accepted' emitted))
      (fun _ source' => ∃ accepted',
        Scanning env library expected types c₀ accepted' emitted source')
      (fun source' => ∃ accepted',
        Scanning env library expected types c₀ accepted' emitted source' ∧
          accepted'.length = accepted.length + fuel) source := by
  induction fuel generalizing accepted source with
  | zero => exact ⟨accepted, h, rfl⟩
  | succ fuel ih =>
      rw [ArrowScanSource.next, wp_bind]
      refine wp_mono h.wp_readOn ?_ (fun _ _ h => h.elim) fun _ h => h.elim
      intro output source₁ h₁
      cases output with
      | some rows => exact ⟨accepted, h₁, fun hnone => by cases hnone⟩
      | none =>
          obtain ⟨hscan, hreader⟩ := h₁
          rw [wp_bind]
          refine wp_mono (hscan.wp_fetch prepared hmode hreader) ?_ (fun _ _ h => ⟨accepted, h⟩)
            fun _ h => h.elim
          intro response source₂ h₂
          cases response with
          | none =>
              refine ⟨accepted, ?_, fun _ => h₂.2⟩
              rw [Option.getD_none, List.append_nil]
              exact h₂.1
          | some response =>
              obtain ⟨c, htracks, hfetch, hsource₂⟩ := h₂
              rw [hsource₂, wp_bind]
              refine wp_mono (hscan.wp_takeResponse prepared hmode hreader htracks hfetch) ?_
                (fun _ _ h => ⟨accepted, h⟩) fun _ h => h.elim
              intro _ source₃ h₃
              obtain ⟨rows, h₃⟩ := h₃
              refine wp_mono (ih h₃) (fun _ _ h => h) (fun _ _ h => h) fun _ hcut => ?_
              obtain ⟨accepted', hscan', hlength⟩ := hcut
              refine ⟨accepted', hscan', ?_⟩
              rw [hlength, List.length_append, List.length_singleton]
              omega

end Scanning

/-! ## Every sequence of calls -/

/-- The rows that a call hands out. -/
def emittedBy : Outcome ScanError (Option (List Row)) → List Row
  | .ret (some rows) => rows
  | _ => []

/-- The rows that the calls have handed out, in order. -/
def emittedRows
    (events : List (Event (ArrowScanSource Row) Nat (Outcome ScanError (Option (List Row))))) :
    List Row :=
  events.flatMap fun event => emittedBy event.output

theorem deliveries_acceptances (accepted : Accepted Row) :
    deliveries (acceptances accepted) = accepted.map fun p => .arrow p.1 := by
  induction accepted using List.reverseRec with
  | nil => rfl
  | append_singleton accepted last ih =>
      obtain ⟨response, rows⟩ := last
      rw [acceptances_concat, deliveries_concat, deliveries_concat, ih, List.map_append]
      exact List.append_nil _

/-- A scan has emitted rows of these responses and no others: each of them
decodes, as the bound types and to its end, each was an answer to the request of
its chunk, and the cursor has taken the number of its rows. -/
structure EmitsAccepted (env : QueryEnv) (library : ArrowLibrary Row) (c₀ : Client)
    (expected : List ExpectedArrowField) (types : List LogicalType) (accepted : Accepted Row)
    (emitted : List Row) (client : Client) : Prop where
  decodes : ∀ p ∈ accepted, Decodes library expected types p.1 p.2
  accepts : ∃ c requests, Served env c₀ (acceptances accepted) c ∧
    Requested c₀ c ((List.range accepted.length).map (chunkLine c₀.session))
      (accepted.map fun p => .arrow p.1) requests ∧
    c.log <+: client.log ∧ c.session.fetchedChunks = client.session.fetchedChunks
  /-- No other response was accepted. -/
  counted : accepted.length = client.session.fetchedChunks.toNat
  emits : ∃ unread, emitted ++ unread = acceptedRows accepted ∧ InLast accepted unread

/-- Everything that was advertised has been emitted. -/
structure EmitsAll (advertised : QueryResponse) (accepted : Accepted Row) (emitted : List Row) :
    Prop where
  all : emitted = acceptedRows accepted
  chunks : accepted.length = advertised.chunkCount.toNat
  rows : advertised.hasRowCount = true → emitted.length = advertised.rowCount.toNat

section Runs

variable {setting : Setting} {c₀ : Client} {expected : List ExpectedArrowField}
  {types : List LogicalType} {accepted : Accepted Row} {emitted : List Row}
  {source : ArrowScanSource Row}

/-- A scan starts with nothing. -/
theorem scanning_opened (prepared : Prepared setting c₀) (hclient : source.client = c₀)
    (hreader : source.reader = none) :
    Scanning env library source.expected source.types c₀ [] [] source where
  own := ⟨rfl, rfl⟩
  decodes := by simp
  cursor := ⟨c₀, ⟨.opened, by rw [prepared.unread.fetchedChunks]; rfl,
    prepared.working.session.idle⟩, hclient ▸ .refl _, .inl hclient⟩
  rows := ⟨[], rfl, .inl rfl, fun _ => rfl, fun _ h => by cases hreader.symm.trans h⟩

/-- The step lemma. -/
theorem Scanning.step (h : Scanning env library expected types c₀ accepted emitted source)
    (prepared : Prepared setting c₀) (hmode : c₀.session.mode = .numberedV3) (fuel : Nat) :
    ∃ accepted', Scanning env library expected types c₀ accepted'
        (emitted ++ emittedBy ((scanMachine env library).step fuel source).1)
        ((scanMachine env library).step fuel source).2 ∧
      (((scanMachine env library).step fuel source).1 = .ret none →
        Ended env c₀ accepted' emitted) := by
  have hnext := wp_iff.mp (h.wp_next prepared hmode fuel)
  rcases hrun : ArrowScanSource.next env library fuel source with ⟨outcome, source'⟩
  rw [show (scanMachine env library).step fuel source = (outcome, source') from hrun]
  cases outcome with
  | ret output =>
      obtain ⟨accepted', hscan, hended⟩ := hnext.1 output source' hrun
      refine ⟨accepted', ?_, fun hnone => hended (by cases hnone; rfl)⟩
      cases output with
      | none => exact hscan
      | some rows => exact hscan
  | raise e =>
      obtain ⟨accepted', hscan⟩ := hnext.2.1 e source' hrun
      refine ⟨accepted', ?_, fun hnone => by cases hnone⟩
      rw [emittedBy, List.append_nil]
      · exact hscan
      · simp
  | cut =>
      obtain ⟨accepted', hscan, -⟩ := hnext.2.2 source' hrun
      refine ⟨accepted', ?_, fun hnone => by cases hnone⟩
      rw [emittedBy, List.append_nil]
      · exact hscan
      · simp

/-- The run lemma. -/
theorem scanning_run (prepared : Prepared setting c₀) (hmode : c₀.session.mode = .numberedV3)
    (source₀ : ArrowScanSource Row) (hclient : source₀.client = c₀)
    (hreader : source₀.reader = none)
    (calls : List Nat) :
    ∃ accepted, Scanning env library source₀.expected source₀.types c₀ accepted
        (emittedRows ((scanMachine env library).trace source₀ calls))
        ((scanMachine env library).run source₀ calls) ∧
      ∀ e ∈ ((scanMachine env library).trace source₀ calls).getLast?, e.output = .ret none →
        Ended env c₀ accepted (emittedRows ((scanMachine env library).trace source₀ calls)) := by
  refine (scanMachine env library).history_induction
    (P := fun past source => ∃ accepted,
      Scanning env library source₀.expected source₀.types c₀ accepted (emittedRows past) source ∧
        ∀ e ∈ past.getLast?, e.output = .ret none → Ended env c₀ accepted (emittedRows past))
    ⟨[], scanning_opened prepared hclient hreader, fun _ h => by cases h⟩
    (fun past source fuel h => ?_) calls
  obtain ⟨accepted, h, -⟩ := h
  obtain ⟨accepted', h', hended⟩ := h.step prepared hmode fuel
  have hemitted : emittedRows (past ++ [(scanMachine env library).event source fuel])
      = emittedRows past ++ emittedBy ((scanMachine env library).step fuel source).1 := by
    rw [emittedRows, List.flatMap_append, List.flatMap_singleton]
    rfl
  refine ⟨accepted', hemitted ▸ h', fun e he hnone => ?_⟩
  rw [List.getLast?_concat] at he
  cases he
  have hnone' : ((scanMachine env library).step fuel source).1 = .ret none := hnone
  rw [hemitted, hnone', emittedBy, List.append_nil]
  · exact hended hnone'
  · simp

/-- What the invariant says of the emitted rows. -/
theorem Scanning.emitsAccepted
    (h : Scanning env library expected types c₀ accepted emitted source)
    (prepared : Prepared setting c₀) (hmode : c₀.session.mode = .numberedV3) :
    EmitsAccepted env library c₀ expected types accepted emitted source.client := by
  obtain ⟨c, htracks, hstill, -⟩ := h.cursor
  obtain ⟨unread, hunread, hlast, -⟩ := h.rows
  obtain ⟨-, hnumbered, -⟩ := served_progress prepared htracks.served
  obtain ⟨requests, hrequested⟩ := (hnumbered hmode).requested
  rw [pending_of_idle htracks.idle, Nat.add_zero, ← (hnumbered hmode).counted, htracks.counted,
    deliveries_acceptances] at hrequested
  refine ⟨fun p hp => (h.decodes p hp).1, ⟨c, requests, htracks.served, hrequested, hstill.log,
    hstill.session.chunks.symm⟩, ?_, unread, hunread, hlast⟩
  rw [hstill.session.chunks]
  exact htracks.counted.symm

/-- With fuel for every chunk, a call of `Next` is not cut off. -/
theorem Scanning.next_finishes
    (h : Scanning env library expected types c₀ accepted emitted source)
    (prepared : Prepared setting c₀) (hmode : c₀.session.mode = .numberedV3) {fuel : Nat}
    (hfuel : c₀.session.expectedChunks.toNat < fuel) :
    (ArrowScanSource.next env library fuel source).1 ≠ .cut := by
  intro hcut
  obtain ⟨accepted', hscan, hlength⟩ :=
    (wp_iff.mp (h.wp_next prepared hmode fuel)).2.2 _ (run_eq_of_fst hcut)
  obtain ⟨c, htracks, -⟩ := hscan.cursor
  obtain ⟨hprogress, hnumbered, -⟩ := served_progress prepared htracks.served
  have hbound := (hnumbered hmode).bound
  have hexpected : c.session.expectedChunks = c₀.session.expectedChunks :=
    congrArg Terms.expectedChunks hprogress.terms
  rw [← (hnumbered hmode).counted, htracks.counted, hexpected] at hbound
  omega

/-- What the end of a scan says of the emitted rows. -/
theorem Ended.emitsAll (h : Ended env c₀ accepted emitted) (prepared : Prepared setting c₀)
    (hmode : c₀.session.mode = .numberedV3) (hcountable : ∀ p ∈ accepted, p.2.length < 2 ^ 64)
    {advertised : QueryResponse} (hserves : Serves advertised c₀.session) :
    EmitsAll advertised accepted emitted := by
  obtain ⟨c, htracks, hreconciles, hemitted⟩ := h
  obtain ⟨hprogress, -, -⟩ := served_progress prepared htracks.served
  have hhasChunks : c.session.hasExpectedChunks = c₀.session.hasExpectedChunks :=
    congrArg Terms.hasExpectedChunks hprogress.terms
  have hchunks : c.session.expectedChunks = c₀.session.expectedChunks :=
    congrArg Terms.expectedChunks hprogress.terms
  have hhasRows : c.session.hasExpectedRows = c₀.session.hasExpectedRows :=
    congrArg Terms.hasExpectedRows hprogress.terms
  have hrows : c.session.expectedRows = c₀.session.expectedRows :=
    congrArg Terms.expectedRows hprogress.terms
  refine ⟨hemitted, ?_, fun hcount => ?_⟩
  · rcases hserves.chunks with ⟨-, hhas, hadvertised⟩ | ⟨hother, -⟩
    · rw [← htracks.counted,
        hreconciles.chunks (hprogress.mode.trans hmode) (hhasChunks.trans hhas),
        hchunks, hadvertised]
    · exact absurd (hmode.symm.trans hother) (by decide)
  · have hhas : c.session.hasExpectedRows = true := hhasRows.trans (hserves.hasRows.trans hcount)
    rw [hemitted, ← deliveredRows_acceptances hcountable, ← hprogress.rows, hreconciles.rows hhas,
      hrows, hserves.rows]

end Runs

/-- In every sequence of calls on a scan, what was emitted are the rows of the
accepted responses, in order and each once, the last response perhaps in part;
when a call has returned `false`, everything that the service advertised has
been emitted; and the next call comes to an end. -/
theorem validate_before_emit {fuel : Nat} {sql : Bytes} {credentials : QueryCredentials}
    {metadataOnly : Bool} {options : QueryOptions} {c₀ : Client} {types : List LogicalType}
    {source₀ : ArrowScanSource Row}
    (hprepared : QueryApiV3Client.prepareInternal env fuel sql credentials metadataOnly options {}
      = (.ret (), c₀))
    (hmode : c₀.session.mode = .numberedV3)
    (hcreated : ArrowScanSource.create c₀ c₀.session.metadata types = .ok source₀) :
    ∃ advertised, HasDecoded advertised c₀.log ∧ Serves advertised c₀.session ∧
      ∀ calls, ∃ accepted,
        EmitsAccepted env library c₀ source₀.expected source₀.types accepted
          (emittedRows ((scanMachine env library).trace source₀ calls))
          ((scanMachine env library).run source₀ calls).client ∧
        (∀ e ∈ ((scanMachine env library).trace source₀ calls).getLast?, e.output = .ret none →
          EmitsAll advertised accepted
            (emittedRows ((scanMachine env library).trace source₀ calls))) ∧
        ∀ bound, c₀.session.expectedChunks.toNat < bound →
          (ArrowScanSource.next env library bound ((scanMachine env library).run source₀ calls)).1
            ≠ .cut := by
  obtain ⟨setting, -, prepared⟩ :=
    (wp_iff.mp (wp_prepareInternal fuel sql credentials metadataOnly options)).1 _ _ hprepared
  obtain ⟨expected, -, hsource⟩ := except_bind_eq_ok.mp hcreated
  obtain ⟨advertised, hdecoded, hserves⟩ := prepared.serves
  refine ⟨advertised, hdecoded, hserves, fun calls => ?_⟩
  obtain ⟨accepted, hscan, hended⟩ := @scanning_run _ env library _ _ prepared hmode
    source₀ (by cases hsource; rfl) (by cases hsource; rfl) calls
  refine ⟨accepted, hscan.emitsAccepted prepared hmode, fun e he hnone => ?_,
    fun bound hbound => ?_⟩
  · exact (hended e he hnone).emitsAll prepared hmode (fun p hp => (hscan.decodes p hp).2) hserves
  · exact hscan.next_finishes prepared hmode hbound

/-! ## A scan of two chunks -/

/-- An Arrow stream up to the rows of its batch: the schema of a `bigint` column
`id`, and the header of a batch of two rows. -/
def idStreamHead : Bytes :=
  [255, 255, 255, 255, 120, 0, 0, 0, 16, 0, 0, 0, 0, 0, 10, 0, 12, 0, 6, 0,
   5, 0, 8, 0, 10, 0, 0, 0, 0, 1, 4, 0, 12, 0, 0, 0, 8, 0, 8, 0,
   0, 0, 4, 0, 8, 0, 0, 0, 4, 0, 0, 0, 1, 0, 0, 0, 20, 0, 0, 0,
   16, 0, 20, 0, 8, 0, 0, 0, 7, 0, 12, 0, 0, 0, 16, 0, 16, 0, 0, 0,
   0, 0, 0, 2, 16, 0, 0, 0, 28, 0, 0, 0, 4, 0, 0, 0, 0, 0, 0, 0,
   2, 0, 0, 0, 105, 100, 0, 0, 8, 0, 12, 0, 8, 0, 7, 0, 8, 0, 0, 0,
   0, 0, 0, 1, 64, 0, 0, 0, 255, 255, 255, 255, 136, 0, 0, 0, 20, 0, 0, 0,
   0, 0, 0, 0, 12, 0, 22, 0, 6, 0, 5, 0, 8, 0, 12, 0, 12, 0, 0, 0,
   0, 3, 4, 0, 24, 0, 0, 0, 16, 0, 0, 0, 0, 0, 0, 0, 0, 0, 10, 0,
   24, 0, 12, 0, 4, 0, 8, 0, 10, 0, 0, 0, 60, 0, 0, 0, 16, 0, 0, 0,
   2, 0, 0, 0, 0, 0, 0, 0, 0, 0, 0, 0, 2, 0, 0, 0, 0, 0, 0, 0,
   0, 0, 0, 0, 0, 0, 0, 0, 0, 0, 0, 0, 0, 0, 0, 0, 0, 0, 0, 0,
   16, 0, 0, 0, 0, 0, 0, 0, 0, 0, 0, 0, 1, 0, 0, 0, 2, 0, 0, 0,
   0, 0, 0, 0, 0, 0, 0, 0, 0, 0, 0, 0]

/-- The stream whose batch has these two rows. -/
def idStreamBody (first second : UInt8) : Bytes :=
  idStreamHead ++ [first, 0, 0, 0, 0, 0, 0, 0, second, 0, 0, 0, 0, 0, 0, 0] ++
    [255, 255, 255, 255, 0, 0, 0, 0]

/-- What nanoarrow and DuckDB make of it. -/
def idStream (rows : List Nat) : ArrowStream Nat where
  schema := ⟨some (ascii "+s"), [some ⟨some (ascii "id"), some (ascii "l"), false⟩]⟩
  types := some [.bigint]
  arrays := [⟨rows.length, 1, fun i => rows[i]?⟩]
  ending := some 296

/-- The streams of the two chunks. -/
def idStreamLibrary : ArrowLibrary Nat := fun body =>
  if body = idStreamBody 1 2 then some (idStream [1, 2])
  else if body = idStreamBody 3 4 then some (idStream [3, 4])
  else none

/-- Surroundings with a numbered query of two chunks. -/
def idStreamEnv : QueryEnv :=
  scriptedEnv (fun _ => 0)
    (fun n => some
      { status := 200
        body := if n = 2 then idStreamBody 1 2 else if n = 3 then idStreamBody 3 4 else []
        headers := (∅ : StringMap Bytes).insert (ascii "Content-Type") arrowMediaType })
    fun _ => .response
      { state := .complete
        queryId := ascii "q-1"
        hasChunkCount := true
        chunkCount := 2
        hasRowCount := true
        rowCount := 4
        metadata := [⟨ascii "id", ascii "bigint", false, false, false, 0, 0⟩] }

/-- `Prepare` in them. -/
def idStreamPrepared : Outcome QueryError Unit × Client :=
  QueryApiV3Client.prepareInternal idStreamEnv 5 (ascii "SELECT 1") sampleCredentials false {} {}

/-- The scan, when it starts. -/
def idStreamSource : ArrowScanSource Nat where
  client := idStreamPrepared.2
  expected := [⟨ascii "id", .int64, false, 0, 0⟩]
  types := [.bigint]

/-- Three calls: one for each chunk, and one that comes to the end. -/
def idStreamEvents :
    List (Event (ArrowScanSource Nat) Nat (Outcome ScanError (Option (List Nat)))) :=
  (scanMachine idStreamEnv idStreamLibrary).trace idStreamSource [3, 3, 3]

/-- The scan emits the rows of the first chunk and then those of the second, and
comes to the end with all that was advertised. -/
theorem validate_before_emit_ids :
    idStreamEvents.map (fun e => emittedBy e.output) = [[1, 2], [3, 4], []] ∧
      ∃ advertised accepted, Serves advertised idStreamPrepared.2.session ∧
        EmitsAccepted idStreamEnv idStreamLibrary idStreamPrepared.2 idStreamSource.expected
          idStreamSource.types accepted (emittedRows idStreamEvents)
          ((scanMachine idStreamEnv idStreamLibrary).run idStreamSource [3, 3, 3]).client ∧
        EmitsAll advertised accepted (emittedRows idStreamEvents) ∧
        (ArrowScanSource.next idStreamEnv idStreamLibrary 3
          ((scanMachine idStreamEnv idStreamLibrary).run idStreamSource [3, 3, 3])).1 ≠ .cut := by
  have hprepared : idStreamPrepared = (.ret (), idStreamPrepared.2) :=
    run_eq_of_fst (by decide +kernel)
  have hmetadata : idStreamPrepared.2.session.metadata
      = [⟨ascii "id", ascii "bigint", false, false, false, 0, 0⟩] := by decide +kernel
  have hcreated : ArrowScanSource.create idStreamPrepared.2
      idStreamPrepared.2.session.metadata [.bigint] = .ok idStreamSource := by
    rw [hmetadata]
    rfl
  have hended : idStreamEvents.getLast?.map (·.output) = some (.ret none) := by
    decide +kernel
  obtain ⟨advertised, -, hserves, hscan⟩ :=
    @validate_before_emit Nat idStreamEnv idStreamLibrary _ _ _ _ _ _ _ _ hprepared
      (by decide +kernel) hcreated
  obtain ⟨accepted, hemits, hend, hfinishes⟩ := hscan [3, 3, 3]
  refine ⟨by decide +kernel, advertised, accepted, hserves, hemits, ?_,
    hfinishes 3 (by decide +kernel)⟩
  obtain ⟨e, he, hnone⟩ := Option.map_eq_some_iff.mp hended
  exact hend e he hnone

end Data360
