import Data360.QueryApi.Session
import Data360.Lib.Runs

/-!
# Cursors and the client

`QueryCursor` and `QueryApiV3Client` of `src/query_api.cpp`.  A cursor call on
a session that is there is a program; what happens to a handle without a
session is in the module about handles.

The polling loop and the loop of `Execute` have no bound of their own in the
source, so they run on fuel, and a run without fuel is cut off.
-/

namespace Data360

open Lib Lib.ByteString Lib.Prog

variable (env : QueryEnv)

namespace QueryCursor

open Session

/-- The request of the next numbered chunk; the index goes on before the
request is sent. -/
def numberedRequest (s : Session) : Session :=
  { s with
    request := s.getRequest (s.chunkUrl s.nextChunkIndex)
    nextChunkIndex := s.nextChunkIndex + 1 }

/-- Fetch the next numbered chunk, decoded. -/
def fetchNumbered : Query QueryResponse := do
  modify numberedRequest
  let response ← send env
  decode env response

/-- The error of a chunk URL that is unsafe or was visited before. -/
def unsafeChunkUrl : QueryError :=
  .runtimeError "Data 360 Query API returned an unsafe chunk URL"

/-- Mark the next URL as visited, learn its id, and request it. -/
def directRequest (s : Session) : Session :=
  { s with
    visitedUrls := s.visitedUrls ++ [s.nextUrl]
    queryId := if s.queryId = [] then queryIdFromChunkPath s.nextUrl else s.queryId
    request := s.getRequest (s.origin ++ s.nextUrl) }

/-- Fetch the next chunk of a direct chain. -/
def fetchDirect : Query QueryResponse := do
  let s ← look id
  raiseIf (¬ isSafeChunkPath s.nextUrl ∨ s.nextUrl ∈ s.visitedUrls) unsafeChunkUrl
  modify directRequest
  let response ← send env
  decode env response

/-- In direct mode, the chunk says where the next one is. -/
def follow (accepted : ResultChunk) (s : Session) : Session :=
  if s.mode = .directLegacy then { s with nextUrl := accepted.nextUrl } else s

/-- Check a response and hand out its chunk. -/
def deliver (response : QueryResponse) : Query (Option ResultChunk) := do
  rememberQueryId response
  checkActive env
  let accepted ← accept response
  modify (follow accepted)
  pure (some accepted)

/-- `return session.Finish();` -/
def finished {α : Type} : Query (Option α) := do
  finish
  pure none

/-- The `try` block of `NextChunk` in numbered mode. -/
def nextNumbered : Query (Option ResultChunk) := do
  let s ← look id
  if s.expectedChunks ≤ s.nextChunkIndex then finished
  else do
    let response ← fetchNumbered env
    deliver env response

/-- The `try` block of `NextChunk` in direct mode. -/
def nextDirect : Query (Option ResultChunk) := do
  let s ← look id
  match s.bufferedDirect with
  | some response => do
      modify fun s => { s with bufferedDirect := none }
      deliver env response
  | none =>
      if s.nextUrl = [] then finished
      else do
        let response ← fetchDirect env
        deliver env response

/-- The `try` block of `NextChunk`. -/
def nextChunkBody : Query (Option ResultChunk) := do
  let s ← look id
  if s.mode = .numberedV3 then nextNumbered env else nextDirect env

/-- The error of a cursor that has failed. -/
def terminalCursor : QueryError := .logicError "Data 360 query cursor is terminal"

/-- `QueryCursor::NextChunk`, of a cursor with a session; `none` is `false`. -/
def nextChunk : Query (Option ResultChunk) := do
  let s ← look id
  raiseIf (s.arrowResponseOutstanding = true)
    (.logicError "Data 360 Arrow response must be reported before another cursor operation")
  if s.reconciled then pure none
  else do
    raiseIf (s.terminal = true) terminalCursor
    onRaise (nextChunkBody env) (update (cancel env))

/-- The request of the next chunk as an Arrow stream. -/
def arrowRequest (s : Session) : Session :=
  { s with
    request := { s.getRequest (s.chunkUrl s.nextChunkIndex) with
      headers := s.request.headers.insert (ascii "Accept")
        (ascii "application/vnd.apache.arrow.stream") } }

/-- The error of a chunk that could not be fetched. -/
def chunkFailed : QueryError := .runtimeError "Data 360 Query API chunk retrieval failed"

/-- What `NextArrowChunk` does with a response that is no success: it lets the
codec find a request for reauthorization. -/
def arrowFailed (response : HttpResponse) : Query Unit := do
  let _ ← catchAll (codecDecode env response) fun e =>
    match e with
    | .reauthRequired => raise .reauthRequired
    | _ => pure {}
  raise chunkFailed

/-- Fetch the next chunk as an Arrow stream. -/
def fetchArrow : Query (Option HttpResponse) := do
  modify arrowRequest
  let response ← send env
  if response.status < 200 ∨ response.status ≥ 300 then do
    arrowFailed env response
    pure none
  else do
    checkActive env
    modify fun s => { s with arrowResponseOutstanding := true }
    pure (some response)

/-- The `try` block of `NextArrowChunk`. -/
def nextArrowBody : Query (Option HttpResponse) := do
  checkActive env
  let s ← look id
  if s.expectedChunks ≤ s.nextChunkIndex then finished else fetchArrow env

/-- `QueryCursor::NextArrowChunk`, of a cursor with a session. -/
def nextArrowChunk : Query (Option HttpResponse) := do
  let s ← look id
  raiseIf (s.mode ≠ .numberedV3)
    (.logicError "Data 360 Arrow cursor requires a numbered V3 query")
  raiseIf (s.arrowResponseOutstanding = true)
    (.logicError "Data 360 Arrow response must be reported before fetching another chunk")
  if s.reconciled then pure none
  else do
    raiseIf (s.terminal = true) terminalCursor
    onRaise (nextArrowBody env) (update (cancel env))

/-- The counters after an Arrow chunk of `decodedRows` rows. -/
def countArrow (decodedRows : UInt64) (s : Session) : Session :=
  { s with
    rows := s.rows + decodedRows
    cells := s.cells + decodedRows * UInt64.ofNat s.metadata.length
    fetchedChunks := s.fetchedChunks + 1
    nextChunkIndex := s.nextChunkIndex + 1
    arrowResponseOutstanding := false }

/-- The `try` block of `ReportArrowChunk`. -/
def reportBody (decodedRows : UInt64) : Query Unit := do
  checkActive env
  let s ← look id
  let remainingRows := s.options.maxRows - min s.rows s.options.maxRows
  let remainingCells := s.options.maxCells - min s.cells s.options.maxCells
  raiseIf (remainingRows < decodedRows ∨ (s.metadata.length ≠ 0 ∧
      remainingCells.toNat / s.metadata.length < decodedRows.toNat)) limitExceeded
  raiseIf (s.hasExpectedRows ∧ s.expectedRows - min s.rows s.expectedRows < decodedRows)
    rowCountMismatch
  modify (countArrow decodedRows)

/-- `QueryCursor::ReportArrowChunk`, of a cursor with a session. -/
def reportArrowChunk (decodedRows : UInt64) : Query Unit := do
  let s ← look id
  raiseIf (s.arrowResponseOutstanding = false)
    (.logicError "Data 360 Arrow response row count was not expected")
  onRaise (reportBody env decodedRows) (update (cancel env))

end QueryCursor

/-! ## Calls on a cursor -/

/-- A call on a cursor that has a session. -/
inductive CursorCall where
  | nextChunk
  | nextArrowChunk
  | reportArrowChunk (decodedRows : UInt64)
  deriving DecidableEq, Repr

/-- What a call on a cursor returns; without a chunk it is `false`. -/
inductive CursorValue where
  | chunk (next : Option ResultChunk)
  | arrow (next : Option HttpResponse)
  | reported

/-- The program of a call. -/
def CursorCall.program : CursorCall → Query CursorValue
  | .nextChunk => do
      let next ← QueryCursor.nextChunk env
      pure (.chunk next)
  | .nextArrowChunk => do
      let next ← QueryCursor.nextArrowChunk env
      pure (.arrow next)
  | .reportArrowChunk decodedRows => do
      QueryCursor.reportArrowChunk env decodedRows
      pure .reported

/-- The machine of the calls on one cursor. -/
def cursorMachine : Machine Client CursorCall (Outcome QueryError CursorValue) :=
  ⟨fun call => call.program env⟩

namespace QueryApiV3Client

open Session

/-- The body of the request that submits the query. -/
def submitBody (sql : Bytes) (metadataOnly : Bool) (options : QueryOptions) : Bytes :=
  ascii "\x7b\"sql\":\"" ++ jsonEscape sql ++
    ascii "\",\"transferMode\":\"ASYNC\",\"settings\":\x7b\"timezone\":\"Etc/UTC\",\"language\":\"en_US\"\x7d," ++
    ascii "\"queryRowLimit\":" ++ toDecimal (if metadataOnly then 1 else options.maxRows.toNat) ++
    ascii "\x7d"

/-- The request that submits the query. -/
def submitRequest (sql : Bytes) (credentials : QueryCredentials) (metadataOnly : Bool)
    (options : QueryOptions) : HttpRequest :=
  { method := ascii "POST"
    url := trimTrailingSlash credentials.instanceUrl ++ ascii "/api/v3/query"
    headers := (((∅ : StringMap Bytes).insert (ascii "Authorization")
      (ascii "Bearer " ++ credentials.accessToken)).insert
      (ascii "Content-Type") (ascii "application/json")).insert
      (ascii "Accept") (ascii "application/json")
    body := submitBody sql metadataOnly options
    timeoutMs := options.requestTimeoutMs }

/-- Send the session's request and learn the id of the response. -/
def exchange : Query QueryResponse := do
  let response ← send env
  let decoded ← decode env response
  rememberQueryId decoded
  checkActive env
  pure decoded

/-- The `while` loop of `PrepareInternal`. -/
def poll : Nat → QueryResponse → Query QueryResponse
  | 0, _ => outOfFuel
  | fuel + 1, decoded =>
      if decoded.state ≠ .running then pure decoded
      else do
        let s ← look id
        raiseIf (¬ isSafeQueryId s.queryId)
          (.runtimeError "Data 360 Query API returned an invalid async response")
        sleepMs env s.options.pollIntervalMs
        checkActive env
        modify fun s => { s with request := s.getRequest s.queryUrl }
        let next ← exchange env
        poll fuel next

/-- The loop over the metadata of a numbered query. -/
def numericIncomplete (metadata : List ColumnMetadata) : Bool :=
  metadata.any fun column =>
    lower column.type = ascii "numeric" && (!column.hasPrecision || !column.hasScale)

/-- Take over the counts of a completed numbered query. -/
def numberedSession (decoded : QueryResponse) (s : Session) : Session :=
  { s with
    mode := .numberedV3
    hasExpectedChunks := true
    expectedChunks := decoded.chunkCount
    hasExpectedRows := decoded.hasRowCount
    expectedRows := decoded.rowCount }

/-- Fetch the metadata of a numbered query. -/
def fetchMetadata : Query Unit := do
  modify fun s => { s with request := s.getRequest (s.queryUrl ++ ascii "/metadata") }
  let response ← send env
  let decoded ← decode env response
  raiseIf (decoded.state ≠ .complete ∨ decoded.metadata = [])
    (.runtimeError "Data 360 Query API metadata retrieval failed")
  modify fun s => { s with metadata := decoded.metadata }
  raiseIf (numericIncomplete decoded.metadata = true)
    (.runtimeError "Data 360 Query API numeric metadata was incomplete")

/-- The numbered branch of `PrepareInternal`. -/
def openNumbered (decoded : QueryResponse) : Query Unit := do
  let s ← look id
  raiseIf (¬ isSafeQueryId s.queryId)
    (.runtimeError "Data 360 Query API returned an invalid completed response")
  modify (numberedSession decoded)
  raiseIf (s.options.maxChunks < decoded.chunkCount) tooManyChunks
  raiseIf (decoded.hasRowCount ∧ s.options.maxRows < decoded.rowCount) limitExceeded
  fetchMetadata env

/-- The direct branch of `PrepareInternal`. -/
def directSession (decoded : QueryResponse) (s : Session) : Session :=
  { s with
    mode := .directLegacy
    metadata := decoded.metadata
    hasExpectedRows := decoded.hasRowCount
    expectedRows := decoded.rowCount
    bufferedDirect := some decoded }

/-- What `PrepareInternal` does with a response that no longer runs. -/
def openCompleted (decoded : QueryResponse) : Query Unit := do
  raiseIf (decoded.state ≠ .complete) (.runtimeError "Data 360 Query API did not complete")
  if decoded.hasChunkCount ∨ 0 < decoded.chunkCount then openNumbered env decoded
  else modify (directSession decoded)

/-- The `try` block of `PrepareInternal`. -/
def prepareBody (fuel : Nat) : Query Unit := do
  let submitted ← exchange env
  let decoded ← poll env fuel submitted
  openCompleted env decoded
  let s ← look id
  raiseIf (s.options.maxColumns.toNat < s.metadata.length)
    (.runtimeError "Data 360 Query API returned too many columns")

/-- The life of the session in `PrepareInternal`, up to the point where it is
handed out. -/
def prepareSession (fuel : Nat) (sql : Bytes) (credentials : QueryCredentials)
    (metadataOnly : Bool) (options : QueryOptions) : Query Unit := do
  let startedAtMs ← nowMs env
  modify fun s =>
    { s with startedAtMs, request := submitRequest sql credentials metadataOnly options }
  onRaise (prepareBody env fuel) (update (cancel env))

/-- `QueryApiV3Client::PrepareInternal`.  When it throws, the session goes with
it; when it returns, the session is the client's. -/
def prepareInternal (fuel : Nat) (sql : Bytes) (credentials : QueryCredentials)
    (metadataOnly : Bool) (options : QueryOptions) : Query Unit := do
  checkCancelled env
  raiseIf (sql = []) (.invalidArgument "Data 360 query SQL must not be empty")
  raiseIf (credentials.instanceUrl = [] ∨ credentials.accessToken = [])
    (.invalidArgument "Data 360 credentials are incomplete")
  raiseIf (¬ isTrustedTenantUrl credentials.instanceUrl)
    (.invalidArgument "Data 360 tenant URL is not trusted")
  modify fun _ => { options, credentials }
  onRaise (prepareSession env fuel sql credentials metadataOnly options) (update (cancel env))

/-- The loop of `Execute`. -/
def executeLoop : Nat → List ResultChunk → Query (List ResultChunk)
  | 0, _ => outOfFuel
  | fuel + 1, chunks => do
      let next ← QueryCursor.nextChunk env
      match next with
      | some chunk => executeLoop fuel (chunks ++ [chunk])
      | none => pure chunks

/-- The rest of `Execute`, with the cursor that owns the session. -/
def collectChunks (fuel : Nat) : Query QueryResult := do
  let metadata ← look (·.metadata)
  let chunks ← executeLoop env fuel []
  pure { metadata, chunks }

/-- `QueryApiV3Client::Execute`. -/
def execute (fuel : Nat) (sql : Bytes) (credentials : QueryCredentials)
    (options : QueryOptions) : Query QueryResult := do
  prepareInternal env fuel sql credentials false options
  withDestructor (collectChunks env fuel) (update (cancel env))

/-- `QueryApiV3Client::ExecuteMetadata`. -/
def executeMetadata (fuel : Nat) (sql : Bytes) (credentials : QueryCredentials)
    (options : QueryOptions) : Query QueryResult := do
  prepareInternal env fuel sql credentials true options
  withDestructor
    (do
      let metadata ← look (·.metadata)
      pure { metadata })
    (update (cancel env))

end QueryApiV3Client

end Data360
