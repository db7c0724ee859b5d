import Data360.Lib.Bytes
import Data360.Lib.Prog

/-!
# The query client: data and surroundings

The data of `src/include/data360/query_api.hpp` and the `Session` of
`src/query_api.cpp`, with what the client talks to.

The transport, the codec and the runtime hooks are behind interfaces, so they
may do anything: `QueryEnv` gives the answer to each interaction as a function
of everything that happened before it, and an answer may be a throw.  Every
interaction, also one that throws, is an `QueryEvent` of the log.

The clock and the counters are 64-bit, as in the source.  The size of a
container is a natural number.
-/

namespace Data360

open Lib Lib.ByteString Lib.Prog

/-! ## Messages -/

/-- `HttpRequest`. -/
structure HttpRequest where
  method : Bytes := []
  url : Bytes := []
  headers : StringMap Bytes := ∅
  body : Bytes := []
  timeoutMs : UInt64 := 0
  followRedirects : Bool := false
  maxResponseBytes : UInt64 := 67108864
  cleanupRequest : Bool := false

/-- `HttpResponse`. -/
structure HttpResponse where
  status : Int
  body : Bytes := []
  headers : StringMap Bytes := ∅

/-- `ColumnMetadata`. -/
structure ColumnMetadata where
  name : Bytes
  type : Bytes
  nullable : Bool
  hasPrecision : Bool := false
  hasScale : Bool := false
  precision : UInt8 := 0
  scale : UInt8 := 0
  deriving DecidableEq, Repr

/-- `Cell`. -/
abbrev Cell := Option Bytes

/-- `ResultChunk`. -/
structure ResultChunk where
  rows : List (List Cell) := []
  nextUrl : Bytes := []
  deriving DecidableEq, Repr

/-- `QueryState`. -/
inductive QueryState where
  | running
  | complete
  | failed
  deriving DecidableEq, Repr

/-- `QueryResponse`. -/
structure QueryResponse where
  state : QueryState := .running
  queryId : Bytes := []
  chunkCount : UInt64 := 0
  rowCount : UInt64 := 0
  hasChunkCount : Bool := false
  hasRowCount : Bool := false
  returnedRows : UInt64 := 0
  hasReturnedRows : Bool := false
  metadata : List ColumnMetadata := []
  chunk : ResultChunk := {}
  deriving DecidableEq, Repr

/-- `QueryCredentials`. -/
structure QueryCredentials where
  instanceUrl : Bytes
  accessToken : Bytes
  deriving DecidableEq, Repr

/-- `QueryOptions`. -/
structure QueryOptions where
  requestTimeoutMs : UInt64 := 30000
  overallTimeoutMs : UInt64 := 120000
  pollIntervalMs : UInt64 := 250
  maxChunks : UInt64 := 1024
  cleanupTimeoutMs : UInt64 := 250
  maxRows : UInt64 := 100000
  maxColumns : UInt64 := 4096
  maxCells : UInt64 := 10000000
  maxTotalResponseBytes : UInt64 := 268435456
  deriving DecidableEq, Repr

/-- The options that the constructor of `QueryApiV3Client` accepts. -/
def QueryOptions.Valid (options : QueryOptions) : Prop :=
  ¬ (options.requestTimeoutMs = 0 ∨ options.overallTimeoutMs = 0 ∨ options.pollIntervalMs = 0 ∨
    options.maxChunks = 0 ∨ options.cleanupTimeoutMs = 0 ∨ options.cleanupTimeoutMs > 1000 ∨
    options.maxRows = 0 ∨ options.maxRows > 100000 ∨ options.maxColumns = 0 ∨
    options.maxCells = 0 ∨ options.maxTotalResponseBytes = 0 ∨
    options.pollIntervalMs > options.overallTimeoutMs)

instance (options : QueryOptions) : Decidable options.Valid :=
  inferInstanceAs (Decidable (¬ _))

/-- `QueryResult`. -/
structure QueryResult where
  metadata : List ColumnMetadata := []
  chunks : List ResultChunk := []
  deriving DecidableEq, Repr

/-! ## The session -/

/-- `QueryMode`. -/
inductive QueryMode where
  | numberedV3
  | directLegacy
  deriving DecidableEq, Repr

/-- `Session`, without the references to its surroundings.  The visited URLs
are kept in the order in which they were inserted. -/
structure Session where
  options : QueryOptions := {}
  credentials : QueryCredentials := ⟨[], []⟩
  request : HttpRequest := {}
  startedAtMs : UInt64 := 0
  totalResponseBytes : UInt64 := 0
  mode : QueryMode := .directLegacy
  metadata : List ColumnMetadata := []
  queryId : Bytes := []
  hasExpectedChunks : Bool := false
  expectedChunks : UInt64 := 0
  hasExpectedRows : Bool := false
  expectedRows : UInt64 := 0
  nextChunkIndex : UInt64 := 0
  bufferedDirect : Option QueryResponse := none
  nextUrl : Bytes := []
  visitedUrls : List Bytes := []
  fetchedChunks : UInt64 := 0
  rows : UInt64 := 0
  cells : UInt64 := 0
  reconciled : Bool := false
  terminal : Bool := false
  arrowResponseOutstanding : Bool := false

/-! ## The surroundings -/

/-- What `codec->Decode` does: it returns, throws `ReauthRequiredException`,
or throws anything else. -/
inductive Decoded where
  | response (response : QueryResponse)
  | reauthRequired
  | failure

/-- One interaction of the client.  `none` is a throw. -/
inductive QueryEvent where
  | send (request : HttpRequest) (answer : Option HttpResponse)
  | decode (response : HttpResponse) (answer : Decoded)
  | isCancelled (answer : Option Bool)
  | nowMs (answer : Option UInt64)
  | sleepMs (milliseconds : UInt64) (returned : Bool)

/-- The transport, the codec and the runtime hooks.  Each answer may depend on
everything that happened before. -/
structure QueryEnv where
  send : List QueryEvent → HttpRequest → Option HttpResponse
  decode : List QueryEvent → HttpResponse → Decoded
  isCancelled : List QueryEvent → Option Bool
  nowMs : List QueryEvent → Option UInt64
  sleepMs : List QueryEvent → UInt64 → Bool

/-- What the client throws: a `std::logic_error`, a `std::invalid_argument`, a
`std::runtime_error`, a `ReauthRequiredException`, or what a runtime hook
threw. -/
inductive QueryError where
  | logicError (message : String)
  | invalidArgument (message : String)
  | runtimeError (message : String)
  | reauthRequired
  | hook
  deriving DecidableEq, Repr

/-- The session and the log. -/
structure Client where
  session : Session := {}
  log : List QueryEvent := []

/-- A program of the client. -/
abbrev Query := Prog Client QueryError

variable (env : QueryEnv)

/-- Append an event to the log. -/
def Client.record (c : Client) (event : QueryEvent) : Client :=
  { c with log := c.log ++ [event] }

/-- Change the session. -/
def Client.onSession (c : Client) (f : Session → Session) : Client :=
  { c with session := f c.session }

/-- `runtime->IsCancelled()`. -/
def isCancelled : Query Bool := fun c =>
  let answer := env.isCancelled c.log
  (match answer with | some flag => .ret flag | none => .raise .hook,
    c.record (.isCancelled answer))

/-- `runtime->NowMs()`. -/
def nowMs : Query UInt64 := fun c =>
  let answer := env.nowMs c.log
  (match answer with | some now => .ret now | none => .raise .hook, c.record (.nowMs answer))

/-- `runtime->SleepMs(milliseconds)`. -/
def sleepMs (milliseconds : UInt64) : Query Unit := fun c =>
  let returned := env.sleepMs c.log milliseconds
  (if returned then .ret () else .raise .hook, c.record (.sleepMs milliseconds returned))

/-- `transport->Send(request)`.  The error it throws is never looked at. -/
def transportSend (request : HttpRequest) : Query HttpResponse := fun c =>
  let answer := env.send c.log request
  (match answer with | some response => .ret response | none => .raise .hook,
    c.record (.send request answer))

/-- `codec->Decode(response)`. -/
def codecDecode (response : HttpResponse) : Query QueryResponse := fun c =>
  let answer := env.decode c.log response
  (match answer with
    | .response decoded => .ret decoded
    | .reauthRequired => .raise .reauthRequired
    | .failure => .raise .hook,
    c.record (.decode response answer))

end Data360
