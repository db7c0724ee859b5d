import Data360.ArrowScanSource
import Data360.ErrorCodes
import Data360.Lib.Batches

/-!
# Scanning JSON chunks

`src/scan_runtime.cpp`, and `Data360QueryInit` of `src/data360_extension.cpp`,
which opens a scan.  `FillDataChunk` cuts the rows of a chunk source into the
data chunks that DuckDB asks for.

A chunk source is behind an interface, so it may do anything.  What it answers,
and every row that the loop takes out of the buffer, is an event of the log.  The
loop has no bound of its own, as a source may hand out empty chunks for ever, so
it runs on fuel.

* `Pending` says which rows a scan still has before it, `wp_fillLoop` what a call
  does to them, and `drains_fill` that the calls cut them into batches.
* `Orderly` says when the source is asked, whatever the source does.
* `fill_rebatches` is the result for every sequence of calls, and for the scans
  that `Data360QueryInit` opens.
-/

namespace Data360

open Lib Lib.ByteString Lib.Prog

/-! ## The scan -/

/-- `ScanBuffer`. -/
structure ScanBuffer where
  currentChunk : ResultChunk := {}
  currentRow : Nat := 0
  exhausted : Bool := false
  deriving DecidableEq, Repr

/-- `ChunkSource`: what `NextChunk` returns or throws, what it leaves in the chunk
that it is given, which is empty, and the source after it. -/
abbrev ChunkSource (σ ε : Type) := σ → Except ε Bool × ResultChunk × σ

/-- What happens in a scan: the source is asked for a chunk, or a row is taken
out of the buffer. -/
inductive ScanEvent (ε : Type) where
  | nextChunk (answer : Except ε Bool) (chunk : ResultChunk)
  | row (cells : List Cell)

/-- A source, the buffer of its scan and the log. -/
structure ScanState (σ ε : Type) where
  source : σ
  buffer : ScanBuffer := {}
  log : List (ScanEvent ε) := []

/-- What `FillDataChunk` throws: what the source threw, or an
`InvalidInputException`.  A row that is shorter than the types is read out of its
bounds, which has no defined behaviour. -/
inductive FillError (ε : Type) where
  | source (error : ε)
  | invalidInput (message : Bytes)
  | outOfBounds
  deriving DecidableEq

variable {σ ε V : Type}

/-- A program of a scan. -/
abbrev Fill (σ ε α : Type) := Prog (ScanState σ ε) (FillError ε) α

/-- The error of a cell that does not convert. -/
def conversionFailed (name : Bytes) : FillError ε :=
  .invalidInput (ascii "Data 360 value conversion failed for column '" ++ name ++ ascii "'")

/-- The loop over the columns, from a column on.  A value is what DuckDB casts a
text to, and `none` is the null of the column's type. -/
def convertRow (castAs : LogicalType → Bytes → Option V) :
    List LogicalType → List Bytes → List Cell → Except (FillError ε) (List (Option V))
  | [], _, _ => .ok []
  | _ :: _, _, [] => .error .outOfBounds
  | _ :: types, names, none :: cells =>
      (convertRow castAs types names.tail cells).map (none :: ·)
  | type :: types, names, some text :: cells =>
      match castAs type text with
      | none => .error (conversionFailed (names.headD []))
      | some value => (convertRow castAs types names.tail cells).map (some value :: ·)

/-- The scan after the source was asked for its next chunk, with an empty
buffer. -/
def ScanState.fetched (source : ChunkSource σ ε) (s : ScanState σ ε) : ScanState σ ε where
  source := (source s.source).2.2
  buffer := { s.buffer with currentChunk := (source s.source).2.1, currentRow := 0 }
  log := s.log ++ [.nextChunk (source s.source).1 (source s.source).2.1]

/-- Empty the buffer and ask the source for its next chunk. -/
def fetchChunk (source : ChunkSource σ ε) : Fill σ ε Bool := fun s =>
  (match (source s.source).1 with
    | .ok more => .ret more
    | .error e => .raise (.source e), s.fetched source)

/-- The scan after the next row was taken out of the buffer. -/
def ScanState.taken (s : ScanState σ ε) : ScanState σ ε :=
  { s with
    buffer := { s.buffer with currentRow := s.buffer.currentRow + 1 }
    log := s.log ++ [.row (s.buffer.currentChunk.rows.getD s.buffer.currentRow [])] }

/-- `buffer.current_chunk.rows[buffer.current_row++]` -/
def takeRow : Fill σ ε (List Cell) := fun s =>
  (.ret (s.buffer.currentChunk.rows.getD s.buffer.currentRow []), s.taken)

/-- The scan after its source has ended. -/
def ScanState.exhausted (s : ScanState σ ε) : ScanState σ ε :=
  { s with buffer := { s.buffer with exhausted := true } }

/-- What the conversion of a row returned or threw. -/
def orThrow {α : Type} : Except (FillError ε) α → Fill σ ε α
  | .ok value => pure value
  | .error e => raise e

section Fill

variable (source : ChunkSource σ ε) (castAs : LogicalType → Bytes → Option V)
  (types : List LogicalType) (names : List Bytes) (capacity : Nat)

/-- The loop of `FillDataChunk`, with the rows that the output holds. -/
def fillLoop : Nat → List (List (Option V)) → Fill σ ε (List (List (Option V)))
  | 0, _ => outOfFuel
  | fuel + 1, output => do
      let buffer ← read (·.buffer)
      if capacity ≤ output.length ∨ buffer.exhausted = true then pure output
      else if buffer.currentChunk.rows.length ≤ buffer.currentRow then do
        let more ← fetchChunk source
        if more = true then fillLoop fuel output
        else do
          update ScanState.exhausted
          pure output
      else do
        let row ← takeRow
        let values ← orThrow (convertRow castAs types names row)
        fillLoop fuel (output ++ [values])

/-- `FillDataChunk`: the rows of the output. -/
def fillDataChunk (fuel : Nat) : Fill σ ε (List (List (Option V))) :=
  fillLoop source castAs types names capacity fuel []

end Fill

/-- A call of `FillDataChunk`. -/
structure FillCall where
  fuel : Nat
  capacity : Nat
  deriving DecidableEq, Repr

/-- The machine of the calls of `FillDataChunk` on one source and one buffer. -/
def fillMachine (source : ChunkSource σ ε) (castAs : LogicalType → Bytes → Option V)
    (types : List LogicalType) (names : List Bytes) :
    Machine (ScanState σ ε) FillCall (Outcome (FillError ε) (List (List (Option V)))) :=
  ⟨fun call => fillDataChunk source castAs types names call.capacity call.fuel⟩

/-! ## Opening a scan -/

/-- `MetadataCompatible`. -/
def metadataCompatible (bound execution : List ColumnMetadata) : Bool :=
  sameMetadata bound execution

/-- `NextChunk` of a cursor is never cut off. -/
theorem nextChunk_ne_cut {env : QueryEnv} {cursor left : Client}
    (h : QueryCursor.nextChunk env cursor = (.cut, left)) : False :=
  (wp_iff.mp (total_nextChunk cursor)).2.2 left h

/-- `CursorChunkSource`. -/
def cursorChunkSource (env : QueryEnv) : ChunkSource Client QueryError := fun cursor =>
  match h : QueryCursor.nextChunk env cursor with
  | (.ret (some chunk), left) => (.ok true, chunk, left)
  | (.ret none, left) => (.ok false, {}, left)
  | (.raise e, left) => (.error e, {}, left)
  | (.cut, _) => (nextChunk_ne_cut h).elim

/-- The source of a `Data360GlobalState`, with its buffer. -/
inductive Data360GlobalState (Row : Type) where
  | arrowSource (source : ArrowScanSource Row)
  | source (scan : ScanState Client QueryError)

/-- What the table function throws. -/
inductive TableFunctionError where
  | interrupted
  | invalidInput (message : String)
  deriving DecidableEq, Repr

/-- The handlers of `Data360QueryInit`, for a context that is interrupted or not. -/
def TableFunctionError.of (interrupted : Bool) : ScanError → TableFunctionError
  | .query .reauthRequired => .invalidInput (formatSafeFault .reauthRequired)
  | .invalidInput message => .invalidInput message
  | .query _ =>
      if interrupted then .interrupted else .invalidInput "Data 360 query execution failed"

/-- A call of the query client. -/
def onClient {α : Type} (prog : Query α) : Prog Client ScanError α := fun c =>
  match prog c with
  | (.ret value, left) => (.ret value, left)
  | (.raise e, left) => (.raise (.query e), left)
  | (.cut, left) => (.cut, left)

/-- What `Data360QueryInit` does with a prepared query. -/
def openScan {Row : Type} (bind : Data360BindData) :
    Prog Client ScanError (Data360GlobalState Row) := do
  let c ← read id
  raiseIf (¬ metadataCompatible bind.metadata c.session.metadata)
    (.invalidInput "Data 360 result schema changed after binding")
  if c.session.mode = .numberedV3 then
    match ArrowScanSource.create c c.session.metadata bind.types with
    | .ok source => pure (.arrowSource source)
    | .error message => raise (.invalidInput message)
  else pure (.source { source := c })

/-- The `try` block of `Data360QueryInit`, with the bound statement and the
credentials that were found for it. -/
def initBody {Row : Type} (env : QueryEnv) (fuel : Nat) (bind : Data360BindData) (sql : Bytes)
    (credentials : QueryCredentials) : Prog Client ScanError (Data360GlobalState Row) := do
  onClient (QueryApiV3Client.prepareInternal env fuel sql credentials false {})
  onRaise (openScan bind) (update (Session.cancel env))

/-- `Data360QueryInit`, behind the credentials. -/
def data360QueryInit {Row : Type} (env : QueryEnv) (fuel : Nat)
    (bind : Data360BindData) (sql : Bytes)
    (credentials : QueryCredentials) (interrupted : Bool) :
    Outcome TableFunctionError (Data360GlobalState Row) × Client :=
  match initBody env fuel bind sql credentials {} with
  | (.ret state, left) => (.ret state, left)
  | (.raise e, left) => (.raise (.of interrupted e), left)
  | (.cut, left) => (.cut, left)

/-! ## What a scan still has before it -/

/-- The rows of the current chunk that are not taken yet. -/
def ScanBuffer.left (buffer : ScanBuffer) : List (List Cell) :=
  buffer.currentChunk.rows.drop buffer.currentRow

/-- The source hands out these chunks and then ends. -/
inductive Yields (source : ChunkSource σ ε) : σ → List ResultChunk → Prop
  | ends {s : σ} (answer : (source s).1 = .ok false) : Yields source s []
  | chunk {s : σ} {chunks : List ResultChunk} (answer : (source s).1 = .ok true)
      (more : Yields source (source s).2.2 chunks) : Yields source s ((source s).2.1 :: chunks)

/-- The scan has these rows before it, in at most `limit` chunks besides the
current one. -/
inductive Pending (source : ChunkSource σ ε) (limit : Nat) : List (List Cell) → ScanState σ ε → Prop
  | ended {s : ScanState σ ε} (spent : s.buffer.exhausted = true) : Pending source limit [] s
  | more {s : ScanState σ ε} {chunks : List ResultChunk} (going : s.buffer.exhausted = false)
      (yields : Yields source s.source chunks) (few : chunks.length ≤ limit) :
      Pending source limit (s.buffer.left ++ chunks.flatMap (·.rows)) s

/-- The row has a cell for every type, and each is null or converts. -/
structure Convertible (castAs : LogicalType → Bytes → Option V) (types : List LogicalType)
    (row : List Cell) : Prop where
  width : row.length = types.length
  casts : ∀ entry ∈ types.zip row, ∀ text, entry.2 = some text → (castAs entry.1 text).isSome

/-- The row as DuckDB converts it. -/
def convert (castAs : LogicalType → Bytes → Option V) (types : List LogicalType) (row : List Cell) :
    List (Option V) :=
  List.zipWith (fun type cell => cell.bind (castAs type)) types row

theorem convertRow_of_convertible {castAs : LogicalType → Bytes → Option V}
    {types : List LogicalType}
    {row : List Cell} (h : Convertible castAs types row) (names : List Bytes) :
    (convertRow castAs types names row : Except (FillError ε) _) = .ok
    (convert castAs types row) := by
  induction types generalizing row names with
  | nil =>
      cases row with
      | nil => rfl
      | cons => cases h.width
  | cons type types ih =>
      cases row with
      | nil => cases h.width
      | cons cell cells =>
          have hrest : Convertible castAs types cells :=
            ⟨Nat.succ.inj h.width,
              fun entry hentry => h.casts entry (List.mem_cons_of_mem _ hentry)⟩
          cases cell with
          | none =>
              rw [convertRow, ih hrest]
              rfl
          | some text =>
              obtain ⟨value, hvalue⟩ := Option.isSome_iff_exists.mp
                (h.casts (type, some text) List.mem_cons_self text rfl)
              simp only [convertRow, hvalue, ih hrest, convert, List.zipWith_cons_cons,
                Option.bind_some]
              rfl

theorem Pending.mono {source : ChunkSource σ ε} {limit limit' : Nat} {rows : List (List Cell)}
    {s : ScanState σ ε} (h : Pending source limit rows s) (hle : limit ≤ limit') :
    Pending source limit' rows s := by
  cases h with
  | ended spent => exact .ended spent
  | more going yields few => exact .more going yields (few.trans hle)

/-! ## Rules -/

section Rules

variable {source : ChunkSource σ ε} {α : Type} {E : FillError ε → ScanState σ ε → Prop}
  {C : ScanState σ ε → Prop} {s : ScanState σ ε}

theorem wp_fetchChunk {Q : Bool → ScanState σ ε → Prop}
    (hret : ∀ more, (source s.source).1 = .ok more → Q more (s.fetched source))
    (hraise : ∀ e, (source s.source).1 = .error e → E (.source e) (s.fetched source)) :
    wp (fetchChunk source) Q E C s := by
  unfold wp fetchChunk
  cases h : (source s.source).1 with
  | ok more => exact hret more h
  | error e => exact hraise e h

@[simp] theorem wp_takeRow {Q : List Cell → ScanState σ ε → Prop} :
    wp takeRow Q E C s ↔
    Q (s.buffer.currentChunk.rows.getD s.buffer.currentRow []) s.taken := Iff.rfl

theorem wp_orThrow {Q : α → ScanState σ ε → Prop} {answer : Except (FillError ε) α} :
    wp (orThrow answer) Q E C s ↔ (∀ a, answer = .ok a → Q a s) ∧ ∀ e,
    answer = .error e → E e s := by
  cases answer <;> simp [orThrow]

end Rules

/-! ## What a call does to it -/

section Pending

variable {source : ChunkSource σ ε} {castAs : LogicalType → Bytes → Option V}
  {types : List LogicalType} {names : List Bytes} {capacity : Nat}

/-- With the current chunk used up, the source is asked. -/
theorem Pending.fetched {limit : Nat} {rows : List (List Cell)} {s : ScanState σ ε}
    (h : Pending source limit rows s) (going : s.buffer.exhausted = false)
    (used : s.buffer.currentChunk.rows.length ≤ s.buffer.currentRow) :
    ((source s.source).1 = .ok false ∧ rows = []) ∨
      (source s.source).1 = .ok true ∧ 0 < limit ∧
      Pending source (limit - 1) rows (s.fetched source) := by
  cases h with
  | ended spent => cases going.symm.trans spent
  | @more _ chunks _ yields few =>
      have hleft : s.buffer.left = [] := List.drop_eq_nil_of_le used
      cases yields with
      | ends answer => exact .inl ⟨answer, by rw [hleft]; rfl⟩
      | @chunk _ chunks answer yields =>
          rw [List.length_cons] at few
          have hfetched : Pending source (limit - 1)
              ((s.fetched source).buffer.left ++ chunks.flatMap (·.rows)) (s.fetched source) :=
            .more going yields (by omega)
          refine .inr ⟨answer, by omega, ?_⟩
          rw [hleft, List.nil_append, List.flatMap_cons]
          exact hfetched

/-- With a row at hand, the loop takes it. -/
theorem Pending.taken {limit : Nat} {rows : List (List Cell)} {s : ScanState σ ε}
    (h : Pending source limit rows s) (going : s.buffer.exhausted = false)
    (unused : s.buffer.currentRow < s.buffer.currentChunk.rows.length) :
    ∃ rest, rows = s.buffer.currentChunk.rows.getD s.buffer.currentRow [] :: rest ∧
      Pending source limit rest s.taken := by
  cases h with
  | ended spent => cases going.symm.trans spent
  | @more _ chunks _ yields few =>
      refine ⟨s.taken.buffer.left ++ chunks.flatMap (·.rows), ?_, .more going yields few⟩
      rw [← List.cons_append]
      congr 1
      rw [ScanBuffer.left, List.drop_eq_getElem_cons unused, List.getD_eq_getElem?_getD,
        List.getElem?_eq_getElem unused]
      rfl

/-- The loop fills the output from the rows before it, and throws nothing. -/
theorem wp_fillLoop {limit fuel : Nat} {rows : List (List Cell)} {output : List (List (Option V))}
    {s : ScanState σ ε} (h : Pending source limit rows s)
    (converts : ∀ row ∈ rows, Convertible castAs types row) (room : output.length ≤ capacity)
    (enough : limit + (capacity - output.length) + 2 ≤ fuel) :
    wp (fillLoop source castAs types names capacity fuel output)
      (fun filled s' =>
        filled = output ++ (rows.take (capacity - output.length)).map (convert castAs types) ∧
          Pending source limit (rows.drop (capacity - output.length)) s' ∧
          (rows.length < capacity - output.length → s'.buffer.exhausted = true))
      (fun _ _ => False) (fun _ => False) s := by
  induction fuel generalizing limit rows output s with
  | zero => omega
  | succ fuel ih =>
      rw [fillLoop, wp_bind, wp_read, wp_ite]
      refine ⟨fun hstop => ?_, fun hgo => ?_⟩
      · -- the output is full, or the source has ended and nothing is left
        rw [wp_pure]
        rcases hstop with hfull | hspent
        · have hroom : capacity - output.length = 0 := by omega
          rw [hroom]
          exact ⟨by simp, h, fun hless => absurd hless (Nat.not_lt_zero _)⟩
        · cases h with
          | ended spent => exact ⟨by simp, by simpa using .ended spent, fun _ => hspent⟩
          | more going => cases going.symm.trans hspent
      · obtain ⟨hroom, hspent⟩ := not_or.mp hgo
        have going : s.buffer.exhausted = false := by simpa using hspent
        rw [wp_ite]
        refine ⟨fun used => ?_, fun unused => ?_⟩
        · rw [wp_bind]
          rcases h.fetched going used with ⟨hends, rfl⟩ | ⟨hmore, hlimit, hrest⟩
          · refine wp_fetchChunk (fun more hanswer => ?_) fun e hanswer => ?_
            · cases hends.symm.trans hanswer
              rw [wp_ite]
              refine ⟨fun hfalse => (by cases hfalse), fun _ => ?_⟩
              rw [wp_bind, wp_update, wp_pure]
              exact ⟨by simp, by simpa using .ended rfl, fun _ => rfl⟩
            · cases hends.symm.trans hanswer
          · refine wp_fetchChunk (fun more hanswer => ?_) fun e hanswer => ?_
            · cases hmore.symm.trans hanswer
              rw [wp_ite]
              refine ⟨fun _ => ?_, fun hfalse => absurd rfl hfalse⟩
              refine wp_mono (ih hrest converts room (by omega)) (fun filled s' hfilled => ?_)
                (fun _ _ h => h) fun _ h => h
              exact ⟨hfilled.1, hfilled.2.1.mono (Nat.sub_le limit 1), hfilled.2.2⟩
            · cases hmore.symm.trans hanswer
        · obtain ⟨rest, rfl, hrest⟩ := h.taken going (Nat.not_le.mp unused)
          obtain ⟨hrow, hconverts⟩ := List.forall_mem_cons.mp converts
          rw [wp_bind, wp_takeRow, wp_bind, wp_orThrow, convertRow_of_convertible hrow]
          refine ⟨fun values hvalues => ?_, fun e he => (by cases he)⟩
          cases hvalues
          have hcount : capacity - output.length = (capacity - (output.length + 1)) + 1 := by omega
          have hlength (values : List (Option V)) :
              (output ++ [values]).length = output.length + 1 := by
            simp
          refine wp_mono (ih hrest hconverts (by rw [hlength]; omega) (by rw [hlength]; omega))
            (fun filled s' hfilled => ?_) (fun _ _ h => h) fun _ h => h
          rw [hlength] at hfilled
          obtain ⟨hout, hleft, hshort⟩ := hfilled
          rw [hcount, List.take_succ_cons, List.drop_succ_cons, List.length_cons]
          refine ⟨?_, hleft, fun hless => hshort (by omega)⟩
          rw [hout, List.map_cons, List.append_assoc, List.singleton_append]

/-- The call may run for as long as it takes. -/
structure FillCall.Runs (limit : Nat) (call : FillCall) : Prop where
  positive : 0 < call.capacity
  enough : limit + call.capacity + 2 ≤ call.fuel

/-- The scan has these rows before it, and they convert. -/
structure Reads (source : ChunkSource σ ε) (castAs : LogicalType → Bytes → Option V)
    (types : List LogicalType) (limit : Nat) (rows : List (List Cell)) (s : ScanState σ ε) :
    Prop where
  pending : Pending source limit rows s
  converts : ∀ row ∈ rows, Convertible castAs types row

/-- A call in a scan that reads these rows. -/
theorem Reads.fill {limit : Nat} {rows : List (List Cell)} {s : ScanState σ ε} {call : FillCall}
    (h : Reads source castAs types limit rows s) (names : List Bytes) (runs : call.Runs limit) :
    ∃ s', (fillMachine source castAs types names).step call s
        = (.ret ((rows.take call.capacity).map (convert castAs types)), s') ∧
      Reads source castAs types limit (rows.drop call.capacity) s' ∧
      (rows.length < call.capacity → s'.buffer.exhausted = true) := by
  have hwp : wp (fillDataChunk source castAs types names call.capacity call.fuel) _ _ _ s :=
    wp_fillLoop h.pending h.converts (Nat.zero_le call.capacity) runs.enough
  obtain ⟨filled, s', hrun, rfl, hleft, hshort⟩ := wp_returns.mp hwp
  exact ⟨s', hrun, ⟨hleft, fun row hrow => h.converts row (List.mem_of_mem_drop hrow)⟩, hshort⟩

/-- The calls cut the rows into batches. -/
theorem drains_fill (limit : Nat) :
    Drains (fillMachine source castAs types names) (FillCall.Runs limit) (·.capacity)
      (fun rows => .ret (rows.map (convert castAs types))) (Reads source castAs types limit) where
  output h runs := by
    obtain ⟨s', hrun, -, -⟩ := h.fill names runs
    rw [hrun]
  left h runs := by
    obtain ⟨s', hrun, hleft, -⟩ := h.fill names runs
    rw [hrun]
    exact hleft

end Pending

/-! ## When the source is asked -/

/-- The row that an event takes out of the buffer. -/
def ScanEvent.taken : ScanEvent ε → Option (List Cell)
  | .row cells => some cells
  | .nextChunk _ _ => none

/-- The rows that an event brings into the buffer. -/
def ScanEvent.brought : ScanEvent ε → List (List Cell)
  | .nextChunk (.ok false) _ => []
  | .nextChunk _ chunk => chunk.rows
  | .row _ => []

/-- The rows that were taken out of the buffer. -/
def takenRows (log : List (ScanEvent ε)) : List (List Cell) := log.filterMap (·.taken)

/-- The rows that came into the buffer. -/
def broughtRows (log : List (ScanEvent ε)) : List (List Cell) := log.flatMap (·.brought)

/-- The source has said that it has no more chunks. -/
def SourceEnded (log : List (ScanEvent ε)) : Prop :=
  ∃ chunk, ScanEvent.nextChunk (.ok false) chunk ∈ log

/-- Whenever the source was asked for a chunk, all rows of the chunks before had
been taken, and it had not ended. -/
def AskedInTurn (log : List (ScanEvent ε)) : Prop :=
  ∀ past answer chunk rest, log = past ++ .nextChunk answer chunk :: rest →
    takenRows past = broughtRows past ∧ ¬ SourceEnded past

/-- The log and the buffer of a scan belong together. -/
structure Orderly (s : ScanState σ ε) : Prop where
  balanced : s.buffer.exhausted = false → takenRows s.log ++ s.buffer.left = broughtRows s.log
  ended : s.buffer.exhausted = true ↔ SourceEnded s.log
  asked : AskedInTurn s.log

theorem sourceEnded_concat {log : List (ScanEvent ε)} {e : ScanEvent ε} :
    SourceEnded (log ++ [e]) ↔ SourceEnded log ∨ ∃ chunk, e = .nextChunk (.ok false) chunk := by
  simp only [SourceEnded, List.mem_append, List.mem_singleton, exists_or, eq_comm]

theorem orderly_start (s : σ) : Orderly ({ source := s } : ScanState σ ε) where
  balanced _ := rfl
  ended := by simp [SourceEnded]
  asked past answer chunk rest h := by simp at h

theorem AskedInTurn.concat {log : List (ScanEvent ε)} {e : ScanEvent ε} (h : AskedInTurn log)
    (last : ∀ answer chunk, e = .nextChunk answer chunk →
      takenRows log = broughtRows log ∧ ¬ SourceEnded log) : AskedInTurn (log ++ [e]) := by
  intro past answer chunk rest hlog
  rcases concat_eq_append_cons hlog with ⟨-, rfl, rfl⟩ | ⟨rest', -, hlog'⟩
  · exact last answer chunk rfl
  · exact h past answer chunk rest' hlog'

section Orderly

variable {source : ChunkSource σ ε} {castAs : LogicalType → Bytes → Option V}
  {types : List LogicalType} {names : List Bytes} {capacity : Nat} {s : ScanState σ ε}

/-- Taking a row keeps a scan orderly. -/
theorem Orderly.taken (h : Orderly s)
    (unused : s.buffer.currentRow < s.buffer.currentChunk.rows.length) :
    Orderly s.taken where
  balanced going := by
    have hbefore := h.balanced going
    rw [ScanBuffer.left, List.drop_eq_getElem_cons unused] at hbefore
    simp only [takenRows, broughtRows, ScanState.taken, List.filterMap_append, List.flatMap_append,
      ScanBuffer.left, List.getD_eq_getElem?_getD, List.getElem?_eq_getElem unused] at hbefore ⊢
    simpa [ScanEvent.taken, ScanEvent.brought] using hbefore
  ended := by
    rw [show s.taken.log = s.log ++ [_] from rfl, sourceEnded_concat]
    simpa [ScanState.taken] using h.ended
  asked := h.asked.concat fun _ _ hrow => by cases hrow

/-- Asking the source, with the current chunk used up. -/
theorem Orderly.fetched (h : Orderly s) (source : ChunkSource σ ε)
    (going : s.buffer.exhausted = false)
    (used : s.buffer.currentChunk.rows.length ≤ s.buffer.currentRow) :
    AskedInTurn (s.fetched source).log ∧
      ((source s.source).1 = .ok false → Orderly (s.fetched source).exhausted) ∧
      ((source s.source).1 ≠ .ok false → Orderly (s.fetched source)) := by
  have hunended : ¬ SourceEnded s.log := fun hended => by
    cases going.symm.trans (h.ended.mpr hended)
  have hbalanced : takenRows s.log = broughtRows s.log := by
    have hbefore := h.balanced going
    rwa [ScanBuffer.left, List.drop_eq_nil_of_le used, List.append_nil] at hbefore
  have hasked : AskedInTurn (s.fetched source).log :=
    h.asked.concat fun _ _ _ => ⟨hbalanced, hunended⟩
  refine ⟨hasked, fun hends => ⟨fun hgoing => (by cases hgoing), ?_, hasked⟩,
    fun hmore => ⟨fun _ => ?_, ?_, hasked⟩⟩
  · rw [show (s.fetched source).exhausted.log = s.log ++ [_] from rfl, sourceEnded_concat, hends]
    simp [ScanState.exhausted]
  · have hbrought : (ScanEvent.nextChunk (source s.source).1 (source s.source).2.1).brought
        = (source s.source).2.1.rows := by
      cases hanswer : (source s.source).1 with
      | ok more =>
          cases more with
          | false => exact absurd hanswer hmore
          | true => rfl
      | error e => rfl
    simp only [takenRows, broughtRows, ScanState.fetched, List.filterMap_append,
      List.flatMap_append, List.flatMap_singleton, hbrought, ScanBuffer.left,
      List.drop_zero] at hbalanced ⊢
    simpa [ScanEvent.taken] using hbalanced
  · rw [show (s.fetched source).log = s.log ++ [_] from rfl, sourceEnded_concat]
    simp only [ScanState.fetched, going, hunended, false_or]
    simpa using hmore

/-- The loop keeps a scan orderly, whatever the source does. -/
theorem keeps_orderly (fuel : Nat) (output : List (List (Option V))) :
    Keeps Orderly (fillLoop source castAs types names capacity fuel output) := by
  induction fuel generalizing output with
  | zero => exact keeps_outOfFuel
  | succ fuel ih =>
      intro s h
      rw [fillLoop, wp_bind, wp_read, wp_ite]
      refine ⟨fun _ => h, fun hgo => ?_⟩
      have going : s.buffer.exhausted = false := by simpa using (not_or.mp hgo).2
      rw [wp_ite]
      refine ⟨fun used => ?_, fun unused => ?_⟩
      · obtain ⟨-, hended, hmore⟩ := h.fetched source going used
        rw [wp_bind]
        refine wp_fetchChunk (fun more hanswer => ?_) fun e hanswer => hmore (by simp [hanswer])
        rw [wp_ite]
        refine ⟨fun htrue => ih output _ (hmore (by simp [hanswer, htrue])), fun hfalse => ?_⟩
        rw [Bool.not_eq_true] at hfalse
        rw [wp_bind, wp_update, wp_pure]
        exact hended (by rw [hanswer, hfalse])
      · have htaken := h.taken (Nat.not_le.mp unused)
        rw [wp_bind, wp_takeRow, wp_bind, wp_orThrow]
        exact ⟨fun values _ => ih _ _ htaken, fun e _ => htaken⟩

end Orderly

/-! ## Scans of a cursor -/

section Cursor

variable {env : QueryEnv} {metadata : List ColumnMetadata} {c : Client}

/-- The session has this metadata. -/
abbrev Client.HasMetadata (metadata : List ColumnMetadata) : Client → Prop :=
  Ongoing (fun _ => True) fun s => s.metadata = metadata

/-- The chunk has a cell for every column. -/
def ResultChunk.Wide (metadata : List ColumnMetadata) (chunk : ResultChunk) : Prop :=
  ∀ row ∈ chunk.rows, row.length = metadata.length

theorem keeps_sendDecode_metadata : Keeps (Client.HasMetadata metadata) (do
    let response ← Session.send env
    Session.decode env response) :=
  keeps_sendDecode_lasting lasting_true fun _ _ _ h => h

/-- A chunk that is handed out is as wide as the metadata. -/
theorem wp_deliver_wide (response : QueryResponse) (h : c.HasMetadata metadata) :
    wp (QueryCursor.deliver env response)
      (fun next c' => c'.HasMetadata metadata ∧ ∀ chunk ∈ next, chunk.Wide metadata)
      (fun _ => Client.HasMetadata metadata) (Client.HasMetadata metadata) c := by
  rw [QueryCursor.deliver, wp_bind]
  refine wp_mono (keeps_remember (fun _ _ h => h) response c h) (fun _ c₁ h₁ => ?_)
    (fun _ _ h => h) fun _ h => h
  rw [wp_bind]
  refine wp_mono (keeps_checkActive (Lasting.idle lasting_true) c₁ h₁) (fun _ c₂ h₂ => ?_)
    (fun _ _ h => h) fun _ h => h
  rw [wp_bind]
  refine wp_mono (wp_accept response c₂) (fun chunk c₃ haccepted => ?_) (fun _ c₃ hrejected => ?_)
    fun _ h => h.elim
  · obtain ⟨-, haccepts, cells, rfl⟩ := haccepted
    rw [wp_bind, wp_modify, wp_pure]
    refine ⟨⟨trivial, ?_⟩, fun next hnext => ?_⟩
    · show (QueryCursor.follow chunk _).metadata = metadata
      unfold QueryCursor.follow
      split
      · exact h₂.session
      · exact h₂.session
    · cases hnext
      rw [ResultChunk.Wide, ← h₂.session]
      exact haccepts.widths
  · obtain ⟨cells, rfl⟩ := hrejected
    exact ⟨trivial, h₂.session⟩

theorem wp_finished_metadata {α : Type} (h : c.HasMetadata metadata) :
    wp (QueryCursor.finished : Query (Option α))
      (fun next c' => c'.HasMetadata metadata ∧ next = none)
      (fun _ => Client.HasMetadata metadata) (Client.HasMetadata metadata) c :=
  wp_finished_of (fun _ => ⟨⟨trivial, h.session⟩, rfl⟩) fun _ _ => h

/-- The `try` block of `NextChunk` hands out chunks that are as wide as the
metadata. -/
theorem wp_nextChunkBody_wide (h : c.HasMetadata metadata) :
    wp (QueryCursor.nextChunkBody env)
      (fun next c' => c'.HasMetadata metadata ∧ ∀ chunk ∈ next, chunk.Wide metadata)
      (fun _ => Client.HasMetadata metadata) (Client.HasMetadata metadata) c := by
  have hfetched {fetch : Query QueryResponse} (hfetch : Keeps (Client.HasMetadata metadata) fetch)
      {c : Client} (h : c.HasMetadata metadata) :
      wp (do
          let response ← fetch
          QueryCursor.deliver env response)
        (fun next c' => c'.HasMetadata metadata ∧ ∀ chunk ∈ next, chunk.Wide metadata)
        (fun _ => Client.HasMetadata metadata) (Client.HasMetadata metadata) c := by
    rw [wp_bind]
    exact wp_mono (hfetch c h) (fun response _ h => wp_deliver_wide response h) (fun _ _ h => h)
      fun _ h => h
  have hfinished {c : Client} (h : c.HasMetadata metadata) :
      wp (QueryCursor.finished : Query (Option ResultChunk))
        (fun next c' => c'.HasMetadata metadata ∧ ∀ chunk ∈ next, chunk.Wide metadata)
        (fun _ => Client.HasMetadata metadata) (Client.HasMetadata metadata) c := by
    refine wp_mono (wp_finished_metadata h) (fun next c' hnext => ?_) (fun _ _ h => h) fun _ h => h
    obtain ⟨h', rfl⟩ := hnext
    exact ⟨h', fun _ hchunk => by cases hchunk⟩
  have hnumbered : Keeps (Client.HasMetadata metadata) (QueryCursor.fetchNumbered env) := by
    unfold QueryCursor.fetchNumbered
    exact keeps_bind (keeps_modify fun _ h => h) fun _ => keeps_sendDecode_metadata
  have hdirect : Keeps (Client.HasMetadata metadata) (QueryCursor.fetchDirect env) := by
    unfold QueryCursor.fetchDirect
    exact keeps_bind (keeps_look _) fun _ => keeps_bind (keeps_raiseIf _ _) fun _ =>
      keeps_bind (keeps_modify fun _ h => h) fun _ => keeps_sendDecode_metadata
  rw [QueryCursor.nextChunkBody, wp_bind, wp_look, wp_ite]
  refine ⟨fun _ => ?_, fun _ => ?_⟩
  · rw [QueryCursor.nextNumbered, wp_bind, wp_look, wp_ite]
    exact ⟨fun _ => hfinished h, fun _ => hfetched hnumbered h⟩
  · rw [QueryCursor.nextDirect, wp_bind, wp_look]
    cases hbuffer : c.session.bufferedDirect with
    | some response =>
        simp only [id_eq, hbuffer]
        rw [wp_bind, wp_modify]
        exact wp_deliver_wide response ⟨trivial, h.session⟩
    | none =>
        simp only [id_eq, hbuffer]
        rw [wp_ite]
        exact ⟨fun _ => hfinished h, fun _ => hfetched hdirect h⟩

theorem cancel_metadata (h : c.HasMetadata metadata) :
    (Session.cancel env c).HasMetadata metadata := by
  unfold Session.cancel
  split
  · exact h
  · exact ⟨trivial, h.session⟩

/-- What the cursor of a scan hands out is as wide as its metadata. -/
theorem cursorChunkSource_wide (env : QueryEnv) (h : c.HasMetadata metadata) :
    (cursorChunkSource env c).2.1.Wide metadata ∧
    (cursorChunkSource env c).2.2.HasMetadata metadata := by
  have hnext : wp (QueryCursor.nextChunk env)
      (fun next c' => c'.HasMetadata metadata ∧ ∀ chunk ∈ next, chunk.Wide metadata)
      (fun _ => Client.HasMetadata metadata) (Client.HasMetadata metadata) c := by
    rw [QueryCursor.nextChunk, wp_bind, wp_look, wp_bind, wp_raiseIf]
    refine ⟨fun _ => h, fun _ => ?_⟩
    rw [wp_ite]
    refine ⟨fun _ => ⟨h, fun _ hchunk => by cases hchunk⟩, fun _ => ?_⟩
    rw [wp_bind, wp_raiseIf]
    refine ⟨fun _ => h, fun _ => ?_⟩
    rw [wp_onRaise]
    exact wp_mono (wp_nextChunkBody_wide h) (fun _ _ h => h) (fun _ _ h => cancel_metadata h)
      fun _ h => h
  have hempty : ResultChunk.Wide metadata {} := fun _ hrow => by cases hrow
  unfold cursorChunkSource
  unfold wp at hnext
  split
  · rename_i chunk left hrun
    rw [hrun] at hnext
    exact ⟨hnext.2 chunk rfl, hnext.1⟩
  · rename_i left hrun
    rw [hrun] at hnext
    exact ⟨hempty, hnext.1⟩
  · rename_i e left hrun
    rw [hrun] at hnext
    exact ⟨hempty, hnext⟩
  · rename_i left hrun
    exact (nextChunk_ne_cut hrun).elim

/-- All that came into the buffer of a scan, and what is in it, is as wide as the
metadata of its cursor. -/
structure Wide (metadata : List ColumnMetadata) (s : ScanState Client QueryError) : Prop where
  source : s.source.HasMetadata metadata
  buffer : s.buffer.currentChunk.Wide metadata
  brought : ∀ row ∈ broughtRows s.log, row.length = metadata.length

theorem ScanEvent.brought_subset {answer : Except ε Bool} {chunk : ResultChunk} {row : List Cell}
    (h : row ∈ (ScanEvent.nextChunk answer chunk).brought) : row ∈ chunk.rows := by
  unfold ScanEvent.brought at h
  split at h
  · cases h
  · rename_i heq
    cases heq
    exact h
  · rename_i heq
    cases heq

theorem Wide.fetched {s : ScanState Client QueryError} (h : Wide metadata s) :
    Wide metadata (s.fetched (cursorChunkSource env)) := by
  obtain ⟨hchunk, hleft⟩ := cursorChunkSource_wide env h.source
  refine ⟨hleft, hchunk, fun row hrow => ?_⟩
  rw [broughtRows, ScanState.fetched, List.flatMap_append, List.mem_append] at hrow
  rcases hrow with hrow | hrow
  · exact h.brought row hrow
  · rw [List.flatMap_singleton] at hrow
    exact hchunk row (ScanEvent.brought_subset hrow)

theorem Wide.taken {s : ScanState Client QueryError} (h : Wide metadata s) :
    Wide metadata s.taken := by
  refine ⟨h.source, h.buffer, fun row hrow => h.brought row ?_⟩
  rw [broughtRows, ScanState.taken, List.flatMap_append, List.mem_append] at hrow
  rcases hrow with hrow | hrow
  · exact hrow
  · cases hrow

/-- A row that is as wide as the types is not read out of its bounds. -/
theorem convertRow_inBounds {castAs : LogicalType → Bytes → Option V} {types : List LogicalType}
    {names : List Bytes} {row : List Cell} {e : FillError ε} (width : row.length = types.length)
    (h : convertRow castAs types names row = .error e) : e ≠ .outOfBounds := by
  induction types generalizing row names with
  | nil => cases h
  | cons type types ih =>
      cases row with
      | nil => cases width
      | cons cell cells =>
          have hrest {values : List (Option V) → List (Option V)}
              (h : (convertRow castAs types names.tail cells).map values = .error e) :
              e ≠ .outOfBounds := by
            cases hcells : convertRow (ε := ε) castAs types names.tail cells with
            | ok => rw [hcells] at h; cases h
            | error =>
                rw [hcells] at h
                cases h
                exact ih (Nat.succ.inj width) hcells
          cases cell with
          | none => exact hrest h
          | some text =>
              rw [convertRow] at h
              split at h
              · cases h
                exact nofun
              · exact hrest h

variable {castAs : LogicalType → Bytes → Option V} {types : List LogicalType} {names : List Bytes}

/-- A call keeps a scan of a cursor wide and never reads a row out of its
bounds. -/
theorem wp_fillLoop_wide (width : metadata.length = types.length) {capacity fuel : Nat}
    {output : List (List (Option V))} {s : ScanState Client QueryError} (h : Wide metadata s) :
    wp (fillLoop (cursorChunkSource env) castAs types names capacity fuel output)
      (fun _ => Wide metadata) (fun e s' => e ≠ .outOfBounds ∧ Wide metadata s')
      (Wide metadata) s := by
  induction fuel generalizing output s with
  | zero => exact h
  | succ fuel ih =>
      rw [fillLoop, wp_bind, wp_read, wp_ite]
      refine ⟨fun _ => h, fun _ => ?_⟩
      rw [wp_ite]
      refine ⟨fun _ => ?_, fun unused => ?_⟩
      · rw [wp_bind]
        refine wp_fetchChunk (fun more _ => ?_) fun e _ => ⟨nofun, h.fetched⟩
        rw [wp_ite]
        refine ⟨fun _ => ih h.fetched, fun _ => ?_⟩
        rw [wp_bind, wp_update, wp_pure]
        exact ⟨h.fetched.source, h.fetched.buffer, h.fetched.brought⟩
      · have hunused := Nat.not_le.mp unused
        rw [wp_bind, wp_takeRow, wp_bind, wp_orThrow]
        refine ⟨fun values _ => ih h.taken, fun e he => ⟨?_, h.taken⟩⟩
        refine convertRow_inBounds ?_ he
        rw [← width]
        apply h.buffer
        rw [List.getD_eq_getElem?_getD, List.getElem?_eq_getElem hunused]
        exact List.getElem_mem _

end Cursor

/-! ## Every sequence of calls -/

/-- The rows that a call puts out. -/
def filledRows
    (e : Event (ScanState σ ε) FillCall (Outcome (FillError ε) (List (List (Option V))))) :
    List (List (Option V)) :=
  match e.output with
  | .ret rows => rows
  | _ => []

/-- What the calls on a scan make of the rows of its source. -/
structure Rebatches (source : ChunkSource σ ε) (castAs : LogicalType → Bytes → Option V)
    (types : List LogicalType) (names : List Bytes) (rows : List (List Cell)) (s : ScanState σ ε)
    (calls : List FillCall) : Prop where
  /-- No call throws. -/
  returns :
    ∀ e ∈ (fillMachine source castAs types names).trace s calls, ∃ batch, e.output = .ret batch
  /-- The calls put out the converted rows in order, none twice and none left out. -/
  inOrder : ((fillMachine source castAs types names).trace s calls).flatMap filledRows
    <+: rows.map (convert castAs types)
  /-- Only a call behind which the source has ended puts out less than it may. -/
  full : ∀ e ∈ (fillMachine source castAs types names).trace s calls,
    (filledRows e).length = e.input.capacity ∨ (filledRows e).length < e.input.capacity ∧
      SourceEnded ((fillMachine source castAs types names).step e.input e.before).2.log
  /-- A call that puts out nothing comes after all rows and the end of the source. -/
  empty : ∀ past e rest, (fillMachine source castAs types names).trace s calls = past ++ e :: rest →
    filledRows e = [] → past.flatMap filledRows = rows.map (convert castAs types) ∧
      SourceEnded ((fillMachine source castAs types names).step e.input e.before).2.log
  /-- The source is asked between its chunks, and not after its end. -/
  asked : AskedInTurn ((fillMachine source castAs types names).run s calls).log

theorem orderly_run (source : ChunkSource σ ε) (castAs : LogicalType → Bytes → Option V)
    (types : List LogicalType) (names : List Bytes) (s : σ) (calls : List FillCall) :
    Orderly ((fillMachine source castAs types names).run { source := s } calls) :=
  (fillMachine source castAs types names).run_keeps
    (fun t call h => wp_final.mp (keeps_orderly call.fuel [] t h)) (orderly_start s) calls

theorem flatMap_filledRows {past : List (Event (ScanState σ ε) FillCall
      (Outcome (FillError ε) (List (List (Option V)))))} {pieces : List (List (List Cell))}
    {castAs : LogicalType → Bytes → Option V} {types : List LogicalType}
    (h : past.map (·.output) = pieces.map fun rows => .ret (rows.map (convert castAs types))) :
    past.flatMap filledRows = pieces.flatten.map (convert castAs types) := by
  induction past generalizing pieces with
  | nil =>
      cases pieces with
      | nil => rfl
      | cons => cases h
  | cons e past ih =>
      cases pieces with
      | nil => cases h
      | cons rows pieces =>
          obtain ⟨hfirst, hrest⟩ := List.cons.inj h
          have hrows : filledRows e = rows.map (convert castAs types) := by
            unfold filledRows
            rw [show e.output = _ from hfirst]
          rw [List.flatMap_cons, ih hrest, hrows, List.flatten_cons, List.map_append]

/-- A scan over a source that ends cuts its rows into batches. -/
theorem rebatches_of_yields {source : ChunkSource σ ε} {castAs : LogicalType → Bytes → Option V}
    {types : List LogicalType} {names : List Bytes} {s : σ} {chunks : List ResultChunk}
    (yields : Yields source s chunks)
    (converts : ∀ row ∈ chunks.flatMap (·.rows), Convertible castAs types row)
    {calls : List FillCall} (runs : ∀ call ∈ calls, call.Runs chunks.length) :
    Rebatches source castAs types names (chunks.flatMap (·.rows)) { source := s } calls := by
  let machine := fillMachine source castAs types names
  let rows := chunks.flatMap (·.rows)
  let start : ScanState σ ε := { source := s }
  have hdrains : Drains machine (FillCall.Runs chunks.length) (·.capacity) _
    (Reads source castAs types chunks.length) := drains_fill chunks.length
  have hpending :
      Pending source chunks.length (start.buffer.left ++ chunks.flatMap (·.rows)) start :=
    .more rfl yields (Nat.le_refl _)
  have hstart : Reads source castAs types chunks.length rows start := ⟨hpending, converts⟩
  -- an event has its place between the rows before it and the rows after it
  have hevent {past rest : List (Event (ScanState σ ε) FillCall _)} {e : Event _ _ _}
      (htrace : machine.trace start calls = past ++ e :: rest) :
      ∃ taken, past.flatMap filledRows = (rows.take taken).map (convert castAs types) ∧
        filledRows e = ((rows.drop taken).take e.input.capacity).map (convert castAs types) ∧
        e.output = .ret (filledRows e) ∧ 0 < e.input.capacity ∧
        ((rows.drop taken).length < e.input.capacity →
          SourceEnded (machine.step e.input e.before).2.log) := by
    obtain ⟨taken, hpast, hleft, hruns, -, houtput⟩ := hdrains.event hstart runs htrace
    obtain ⟨first, input, second, rfl, -, hat⟩ := machine.trace_eq_append_cons htrace
    obtain ⟨s', hstep, -, hshort⟩ := hleft.fill names hruns
    have hrows : filledRows e
        = ((rows.drop taken.sum).take e.input.capacity).map (convert castAs types) := by
      rw [filledRows, houtput]
    refine ⟨taken.sum, ?_, hrows, hrows ▸ houtput, hruns.positive, fun hless => ?_⟩
    · rw [← flatten_batches]
      exact flatMap_filledRows hpast
    · have horderly : Orderly (machine.step e.input e.before).2 := by
        rw [hat]
        have hrun := orderly_run source castAs types names s (first ++ [input])
        rw [Machine.run_concat] at hrun
        exact hrun
      apply horderly.ended.mp
      rw [show machine.step e.input e.before = _ from hstep]
      exact hshort hless
  have hmember {e : Event _ _ _} (he : e ∈ machine.trace start calls) : ∃ past rest,
      machine.trace start calls = past ++ e :: rest := List.append_of_mem he
  constructor
  case returns =>
    intro e he
    obtain ⟨past, rest, htrace⟩ := hmember he
    obtain ⟨taken, -, -, houtput, -⟩ := hevent htrace
    exact ⟨_, houtput⟩
  case inOrder =>
    have houtputs := hdrains.outputs hstart runs
    rw [flatMap_filledRows houtputs, flatten_batches]
    exact (List.take_prefix _ _).map _
  case full =>
    intro e he
    obtain ⟨past, rest, htrace⟩ := hmember he
    obtain ⟨taken, -, hrows, -, -, hshort⟩ := hevent htrace
    have hlength : (filledRows e).length = min e.input.capacity (rows.drop taken).length := by
      rw [hrows, List.length_map, List.length_take]
    rcases Nat.lt_or_ge (rows.drop taken).length e.input.capacity with hless | hmore
    · exact .inr ⟨by omega, hshort hless⟩
    · exact .inl (by omega)
  case empty =>
    intro past e rest htrace hempty
    obtain ⟨taken, hpast, hrows, -, hpositive, hshort⟩ := hevent htrace
    have hnone : (rows.drop taken).length = 0 := by
      have hlength := congrArg List.length (hrows.symm.trans hempty)
      rw [List.length_map, List.length_take, List.length_nil] at hlength
      omega
    refine ⟨?_, hshort (by omega)⟩
    rw [List.length_drop] at hnone
    rw [hpast, List.take_of_length_le (by omega)]
  case asked => exact (orderly_run source castAs types names s calls).asked

/-- Binding keeps the metadata and finds a type for every column. -/
theorem bind_width {metadata : List ColumnMetadata} {bind : Data360BindData}
    (h : data360QueryBind metadata = .ok bind) : bind.metadata.length = bind.types.length := by
  have htypes := (data360QueryBind_ok h).length_eq
  have hmetadata : bind.metadata = metadata := by
    unfold data360QueryBind at h
    split at h
    · cases h
    · cases hmap : metadata.mapM bindColumn with
      | error e =>
          rw [hmap] at h
          cases h
      | ok types =>
          rw [hmap] at h
          cases h
          rfl
  rw [hmetadata, htypes]

/-- A scan that `Data360QueryInit` opens over a direct cursor starts with that
cursor, whose metadata are as long as the bound ones. -/
theorem openScan_source {Row : Type} {bind : Data360BindData} {c c' : Client}
    {scan : ScanState Client QueryError}
    (h : (openScan bind : Prog Client ScanError (Data360GlobalState Row))
      c = (.ret (.source scan), c')) :
    scan = { source := c } ∧ bind.metadata.length = c.session.metadata.length := by
  have hwp : wp (openScan bind : Prog Client ScanError (Data360GlobalState Row))
      (fun state _ => ∀ scan, state = .source scan →
        scan = { source := c } ∧ bind.metadata.length = c.session.metadata.length)
      (fun _ _ => True) (fun _ => True) c := by
    rw [openScan, wp_bind, wp_read, wp_bind, wp_raiseIf]
    refine ⟨fun _ => trivial, fun hcompatible => ?_⟩
    have hlength : bind.metadata.length = c.session.metadata.length := by
      have hsame := not_not.mp hcompatible
      simp only [metadataCompatible, sameMetadata, Bool.and_eq_true, decide_eq_true_eq] at hsame
      exact hsame.1
    rw [wp_ite]
    refine ⟨fun _ => ?_, fun _ => ?_⟩
    · cases hsource : (ArrowScanSource.create c c.session.metadata bind.types :
          Except String (ArrowScanSource Row)) with
      | error message =>
          simp only [id_eq, hsource]
          trivial
      | ok source =>
          simp only [id_eq, hsource]
          exact fun _ h => by cases h
    · rw [wp_pure]
      intro scan hscan
      cases hscan
      exact ⟨rfl, hlength⟩
  exact (wp_iff.mp hwp).1 _ _ h scan rfl

/-- A scan that `Data360QueryInit` opens over a direct cursor is wide. -/
theorem init_wide {Row : Type} {env : QueryEnv} {fuel : Nat} {bind : Data360BindData} {sql : Bytes}
    {credentials : QueryCredentials} {interrupted : Bool} {c : Client}
    {scan : ScanState Client QueryError}
    (h : (data360QueryInit env fuel bind sql credentials interrupted :
      Outcome TableFunctionError (Data360GlobalState Row) × Client) = (.ret (.source scan), c)) :
    ∃ metadata, Wide metadata scan ∧ bind.metadata.length = metadata.length := by
  unfold data360QueryInit at h
  split at h
  · rename_i state left hbody
    cases h
    obtain ⟨_, c₀, -, hopen⟩ := bind_eq_ret hbody
    have hscan : (openScan bind : Prog Client ScanError (Data360GlobalState Row)) c₀
        = (.ret (.source scan), c) := by
      unfold onRaise catchAll at hopen
      split at hopen
      · rename_i e c₁ _
        obtain ⟨_, _, -, hraise⟩ := bind_eq_ret hopen
        cases hraise
      · exact hopen
    obtain ⟨rfl, hlength⟩ := openScan_source hscan
    exact ⟨c₀.session.metadata, ⟨⟨trivial, rfl⟩, nofun, nofun⟩, hlength⟩
  · cases h
  · cases h

/-- A scan of a cursor stays wide, and reads no row out of its bounds. -/
theorem Wide.run {env : QueryEnv} {castAs : LogicalType → Bytes → Option V}
    {types : List LogicalType}
    {names : List Bytes} {metadata : List ColumnMetadata} {scan : ScanState Client QueryError}
    (h : Wide metadata scan) (width : metadata.length = types.length) (calls : List FillCall) :
    Wide metadata ((fillMachine (cursorChunkSource env) castAs types names).run scan calls) ∧
      ∀ e ∈ (fillMachine (cursorChunkSource env) castAs types names).trace scan calls,
        e.output ≠ .raise .outOfBounds := by
  let machine := fillMachine (cursorChunkSource env) castAs types names
  have hcall (s : ScanState Client QueryError) (call : FillCall) (h : Wide metadata s) :
      wp (fillDataChunk (cursorChunkSource env) castAs types names call.capacity call.fuel)
        (fun _ => Wide metadata) (fun e s' => e ≠ .outOfBounds ∧ Wide metadata s')
        (Wide metadata) s :=
    wp_fillLoop_wide width h
  have hrun (calls : List FillCall) : Wide metadata (machine.run scan calls) := by
    refine machine.run_keeps (fun s call h => ?_) h calls
    exact wp_final.mp (wp_mono (hcall s call h) (fun _ _ h => h) (fun _ _ h => h.2) fun _ h => h)
  refine ⟨hrun calls, fun e he hbounds => ?_⟩
  obtain ⟨past, rest, htrace⟩ := List.append_of_mem he
  obtain ⟨first, call, second, -, -, rfl⟩ := machine.trace_eq_append_cons htrace
  exact ((wp_iff.mp (hcall _ call (hrun first))).2.1 _ _ (run_eq_of_fst hbounds)).1 rfl

/-- `FillDataChunk` re-batches the rows of every source that ends, in order and
without loss.  In a scan that `Data360QueryInit` opens over a direct cursor, every
row that the cursor delivers has a cell for every bound type. -/
theorem fill_rebatches :
    (∀ {σ ε V : Type} (source : ChunkSource σ ε) (castAs : LogicalType → Bytes → Option V)
      (types : List LogicalType) (names : List Bytes) (s : σ) (chunks : List ResultChunk),
      Yields source s chunks →
      (∀ row ∈ chunks.flatMap (·.rows), Convertible castAs types row) →
      ∀ calls : List FillCall, (∀ call ∈ calls, call.Runs chunks.length) →
        Rebatches source castAs types names (chunks.flatMap (·.rows)) { source := s } calls) ∧
    (∀ {Row V : Type} (env : QueryEnv) (fuel : Nat) (bound : List ColumnMetadata)
      (bind : Data360BindData) (sql : Bytes) (credentials : QueryCredentials) (interrupted : Bool)
      (scan : ScanState Client QueryError) (c : Client) (castAs : LogicalType → Bytes → Option V),
      data360QueryBind bound = .ok bind →
      (data360QueryInit env fuel bind sql credentials interrupted :
        Outcome TableFunctionError (Data360GlobalState Row) × Client) = (.ret (.source scan), c) →
      ∀ calls : List FillCall,
        let machine := fillMachine (cursorChunkSource env) castAs bind.types bind.names
        (∀ row ∈ broughtRows (machine.run scan calls).log, row.length = bind.types.length) ∧
          ∀ e ∈ machine.trace scan calls, e.output ≠ .raise .outOfBounds) := by
  constructor
  · intro σ ε V source castAs types names s chunks yields converts calls runs
    exact rebatches_of_yields yields converts runs
  · intro Row V env fuel bound bind sql credentials interrupted scan c castAs hbind hinit calls
    obtain ⟨metadata, hwide, hlength⟩ := init_wide hinit
    have hwidth : metadata.length = bind.types.length := hlength.symm.trans (bind_width hbind)
    obtain ⟨hrun, hbounds⟩ := hwide.run hwidth calls
    exact ⟨fun row hrow => (hrun.brought row hrow).trans hwidth, hbounds⟩

/-! ## A scan in batches of two -/

/-- A source that hands out a list of chunks. -/
def listSource : ChunkSource (List ResultChunk) Unit
  | [] => (.ok false, {}, [])
  | chunk :: rest => (.ok true, chunk, rest)

theorem yields_listSource (chunks : List ResultChunk) : Yields listSource chunks chunks := by
  induction chunks with
  | nil => exact .ends rfl
  | cons chunk rest ih => exact .chunk rfl ih

/-- Numbers and nulls, with empty chunks in between. -/
def sampleChunks : List ResultChunk :=
  [{}, { rows := [[some (ascii "1")], [none]] }, {}, { rows := [[some (ascii "3")]] }]

/-- A cast of digits. -/
def castDigits (_ : LogicalType) (text : Bytes) : Option Nat :=
  if text.all isDigit then some (ofDecimal text) else none

/-- What is bound for the sample query. -/
def sampleBind : Data360BindData where
  types := [.bigint]
  names := [ascii "id"]
  metadata := [⟨ascii "id", ascii "bigint", false, false, false, 0, 0⟩]

/-- Three calls, two rows each. -/
def sampleCalls : List FillCall := [⟨8, 2⟩, ⟨8, 2⟩, ⟨8, 2⟩]

theorem sampleChunks_convertible :
    ∀ row ∈ sampleChunks.flatMap (·.rows), Convertible castDigits [.bigint] row := by
  have hrows : ∀ row ∈ sampleChunks.flatMap (·.rows), row.length = 1 ∧
      ∀ cell ∈ row, ∀ text ∈ cell, text.all isDigit = true := by decide
  intro row hrow
  obtain ⟨hwidth, hcells⟩ := hrows row hrow
  refine ⟨hwidth, fun entry hentry text htext => ?_⟩
  rw [castDigits, if_pos (hcells entry.2 (List.of_mem_zip hentry).2 text htext)]
  rfl

/-- The sample query, opened. -/
theorem sampleScan_opens :
    (data360QueryInit sampleEnv 1 sampleBind (ascii "SELECT 1") sampleCredentials false :
    Outcome TableFunctionError (Data360GlobalState Unit) × Client)
      = (.ret (.source { source := samplePrepared.2 }), samplePrepared.2) := by
  have hprepared : samplePrepared = (.ret (), samplePrepared.2) := run_eq_of_fst (by decide +kernel)
  have hcompatible :
      metadataCompatible sampleBind.metadata samplePrepared.2.session.metadata = true := by
    decide +kernel
  have hmode : samplePrepared.2.session.mode = .directLegacy := by decide +kernel
  have hclient : onClient (QueryApiV3Client.prepareInternal sampleEnv 1 (ascii "SELECT 1")
      sampleCredentials false {}) {} = (.ret (), samplePrepared.2) := by
    unfold onClient
    rw [show QueryApiV3Client.prepareInternal sampleEnv 1
      (ascii "SELECT 1") sampleCredentials false {} {}
      = (.ret (), samplePrepared.2) from hprepared]
  have hopen : wp (initBody sampleEnv 1 sampleBind (ascii "SELECT 1") sampleCredentials :
      Prog Client ScanError (Data360GlobalState Unit))
      (fun state c => state = .source { source := samplePrepared.2 } ∧ c = samplePrepared.2)
      (fun _ _ => False) (fun _ => False) {} := by
    rw [initBody, wp_bind]
    refine (wp_of_ret hclient).mpr ?_
    rw [wp_onRaise, openScan, wp_bind, wp_read, wp_bind, wp_raiseIf]
    refine ⟨fun hnot => absurd hcompatible hnot, fun _ => ?_⟩
    rw [wp_ite]
    refine ⟨fun hnumbered => ?_, fun _ => ⟨rfl, rfl⟩⟩
    cases hmode.symm.trans hnumbered
  obtain ⟨_, _, hrun, rfl, rfl⟩ := wp_returns.mp hopen
  rw [data360QueryInit, hrun]

theorem fill_rebatches_sample :
    Rebatches listSource castDigits [.bigint] [ascii "id"] (sampleChunks.flatMap (·.rows))
        { source := sampleChunks } sampleCalls ∧
      (∀ row ∈ broughtRows ((fillMachine (cursorChunkSource sampleEnv) castDigits sampleBind.types
          sampleBind.names).run { source := samplePrepared.2 } sampleCalls).log,
        row.length = sampleBind.types.length) := by
  have hruns : ∀ call ∈ sampleCalls, call.Runs sampleChunks.length := by
    intro call hcall
    have hall : ∀ call ∈ sampleCalls,
      0 < call.capacity ∧ sampleChunks.length + call.capacity + 2 ≤ call.fuel := by
      decide
    exact ⟨(hall call hcall).1, (hall call hcall).2⟩
  have hbind : data360QueryBind sampleBind.metadata = .ok sampleBind := by decide +kernel
  exact ⟨fill_rebatches.1 _ _ _ _ _ _
    (yields_listSource sampleChunks) sampleChunks_convertible _ hruns,
    (fill_rebatches.2 sampleEnv 1 _ _ _ _ _ _ _ castDigits hbind sampleScan_opens sampleCalls).1⟩

end Data360
