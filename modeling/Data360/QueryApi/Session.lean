import Data360.QueryApi.Validators

/-!
# The operations of a session

The methods of `Session` in `src/query_api.cpp`, as programs over the session
and the log.  `cancel` does not throw, so it is a function on clients.

`send` works on `session.request`, the one request that every caller passes.
-/

namespace Data360

open Lib Lib.ByteString Lib.Prog

namespace Session

/-- The origin that the session talks to. -/
def origin (s : Session) : Bytes := trimTrailingSlash s.credentials.instanceUrl

/-- The address of the query. -/
def queryUrl (s : Session) : Bytes := s.origin ++ queryPath ++ s.queryId

/-- The address of a numbered chunk. -/
def chunkUrl (s : Session) (index : UInt64) : Bytes :=
  s.queryUrl ++ chunksSeparator ++ toDecimal index.toNat

/-- The session's request, turned into a `GET` of `url`. -/
def getRequest (s : Session) (url : Bytes) : HttpRequest :=
  { s.request with method := ascii "GET", body := [], url := url }

/-- The request of `Session::Cancel`. -/
def cancellation (s : Session) : HttpRequest :=
  { s.request with
    method := ascii "DELETE"
    url := s.queryUrl
    body := []
    headers := s.request.headers.insert (ascii "Accept") (ascii "application/json")
    timeoutMs := s.options.cleanupTimeoutMs
    maxResponseBytes := 65536
    cleanupRequest := true }

variable (env : QueryEnv)

/-- `Session::Cancel`.  What the transport answers is not looked at. -/
def cancel (c : Client) : Client :=
  if c.session.terminal ∨ c.session.reconciled ∨ ¬ isSafeQueryId c.session.queryId then c
  else
    { session := { c.session with terminal := true }
      log := c.log ++ [.send c.session.cancellation (env.send c.log c.session.cancellation)] }

/-- Read something off the session. -/
def look {α : Type} (f : Session → α) : Query α := read fun c => f c.session

/-- Change the session. -/
def modify (f : Session → Session) : Query Unit := update fun c => c.onSession f

/-- The error of a cancelled query. -/
def cancelled : QueryError := .runtimeError "Data 360 query cancelled"

/-- `if (runtime->IsCancelled()) throw …;` -/
def checkCancelled : Query Unit := do
  let flag ← isCancelled env
  raiseIf (flag = true) cancelled

/-- `if (runtime->NowMs() - started_at_ms >= options.overall_timeout_ms) throw …;` -/
def checkDeadline : Query Unit := do
  let now ← nowMs env
  let s ← look id
  raiseIf (s.options.overallTimeoutMs ≤ now - s.startedAtMs)
    (.runtimeError "Data 360 query timed out")

/-- `Session::CheckActive`. -/
def checkActive : Query Unit := do
  checkCancelled env
  checkDeadline env

/-- The handler of a transport that threw. -/
def transportFailed : Query HttpResponse := do
  checkActive env
  raise (.runtimeError "Data 360 transport failed")

/-- The bytes that the session may still receive. -/
def remainingBytes (s : Session) : UInt64 :=
  s.options.maxTotalResponseBytes - min s.totalResponseBytes s.options.maxTotalResponseBytes

/-- The session's request with its limits, at the time `now`. -/
def limitedRequest (s : Session) (now : UInt64) : HttpRequest :=
  let elapsed := now - s.startedAtMs
  { s.request with
    timeoutMs := min s.options.requestTimeoutMs (s.options.overallTimeoutMs - elapsed)
    maxResponseBytes := min s.request.maxResponseBytes s.remainingBytes }

/-- `Session::Send`, of the session's request. -/
def send : Query HttpResponse := do
  checkActive env
  let now ← nowMs env
  let remaining ← look remainingBytes
  modify fun s => { s with request := s.limitedRequest now }
  let outbound ← look (·.request)
  let response ← catchAll (transportSend env outbound) fun _ => transportFailed env
  raiseIf (remaining.toNat < response.body.length)
    (.runtimeError "Data 360 Query API cumulative response limit exceeded")
  modify fun s =>
    { s with totalResponseBytes := s.totalResponseBytes + UInt64.ofNat response.body.length }
  pure response

/-- The handler of a codec that threw. -/
def decodeFailed : QueryError → Query QueryResponse
  | .reauthRequired => raise .reauthRequired
  | _ => do
      checkCancelled env
      raise (.runtimeError "Data 360 response decoding failed")

/-- `Session::Decode`. -/
def decode (response : HttpResponse) : Query QueryResponse :=
  catchAll (codecDecode env response) (decodeFailed env)

/-- The error of a response that belongs to another query. -/
def identityChanged : QueryError := .runtimeError "Data 360 Query API query identity changed"

/-- The first half of `Session::RememberQueryId`: the id of the response. -/
def rememberOwnId (response : QueryResponse) : Query Unit :=
  if response.queryId = [] then pure ()
  else do
    raiseIf (¬ isSafeQueryId response.queryId)
      (.runtimeError "Data 360 Query API returned an invalid query ID")
    let queryId ← look (·.queryId)
    raiseIf (queryId ≠ [] ∧ response.queryId ≠ queryId) identityChanged
    modify fun s => { s with queryId := response.queryId }

/-- The second half: the id in the next chunk's path. -/
def rememberPathId (response : QueryResponse) : Query Unit :=
  if isSafeChunkPath response.chunk.nextUrl then do
    let nextQueryId := queryIdFromChunkPath response.chunk.nextUrl
    let queryId ← look (·.queryId)
    raiseIf (queryId ≠ [] ∧ nextQueryId ≠ queryId) identityChanged
    modify fun s => if s.queryId = [] then { s with queryId := nextQueryId } else s
  else pure ()

/-- `Session::RememberQueryId`. -/
def rememberQueryId (response : QueryResponse) : Query Unit := do
  rememberOwnId response
  rememberPathId response

/-- The error of a result that is larger than the options allow. -/
def limitExceeded : QueryError :=
  .runtimeError "Data 360 Query API materialization limit exceeded"

/-- The error of a result with the wrong number of rows. -/
def rowCountMismatch : QueryError := .runtimeError "Data 360 Query API row count mismatch"

/-- The error of a result with too many chunks. -/
def tooManyChunks : QueryError := .runtimeError "Data 360 Query API returned too many chunks"

/-- One turn of the loop of `Session::Accept`. -/
def acceptRow (row : List Cell) : Query Unit := do
  let s ← look id
  raiseIf (row.length ≠ s.metadata.length)
    (.runtimeError "Data 360 Query API returned an invalid row width")
  raiseIf ((s.options.maxCells - min s.cells s.options.maxCells).toNat < row.length) limitExceeded
  modify fun s => { s with cells := s.cells + UInt64.ofNat row.length }

/-- The loop of `Session::Accept`. -/
def acceptRows : List (List Cell) → Query Unit
  | [] => pure ()
  | row :: rest => do
      acceptRow row
      acceptRows rest

/-- The checks of `Session::Accept` before its loop. -/
def acceptChecks (response : QueryResponse) : Query Unit := do
  let s ← look id
  raiseIf (response.state ≠ .complete)
    (.runtimeError "Data 360 Query API chunk retrieval failed")
  raiseIf (response.metadata ≠ [] ∧ ¬ sameMetadata s.metadata response.metadata)
    (.runtimeError "Data 360 Query API result schema changed")
  raiseIf (s.options.maxChunks ≤ s.fetchedChunks) tooManyChunks
  raiseIf (response.hasReturnedRows ∧ response.returnedRows.toNat ≠ response.chunk.rows.length)
    (.runtimeError "Data 360 Query API chunk row count mismatch")
  raiseIf ((s.options.maxRows - min s.rows s.options.maxRows).toNat < response.chunk.rows.length)
    limitExceeded

/-- `Session::Accept`. -/
def accept (response : QueryResponse) : Query ResultChunk := do
  let chunkRows := response.chunk.rows.length
  acceptChecks response
  acceptRows response.chunk.rows
  let s ← look id
  raiseIf (s.hasExpectedRows ∧ (s.expectedRows - min s.rows s.expectedRows).toNat < chunkRows)
    rowCountMismatch
  modify fun s =>
    { s with rows := s.rows + UInt64.ofNat chunkRows, fetchedChunks := s.fetchedChunks + 1 }
  pure response.chunk

/-- `Session::Finish`. -/
def finish : Query Unit := do
  let s ← look id
  raiseIf (s.mode = .numberedV3 ∧ s.hasExpectedChunks ∧ s.fetchedChunks ≠ s.expectedChunks)
    (.runtimeError "Data 360 Query API chunk count mismatch")
  raiseIf (s.hasExpectedRows ∧ s.rows ≠ s.expectedRows) rowCountMismatch
  raiseIf (s.mode = .directLegacy ∧ s.nextUrl ≠ [])
    (.runtimeError "Data 360 Query API chunk chain was incomplete")
  modify fun s => { s with reconciled := true, terminal := true }

end Session

end Data360
