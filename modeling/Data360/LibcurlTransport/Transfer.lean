import Data360.Lib.Quota
import Data360.LibcurlTransport.Headers
import Mathlib.Data.List.Infix
import Mathlib.Data.Int.Bitwise

/-!
# A transfer

`LibcurlTransport::Send` of `src/libcurl_transport.cpp` as a whole: the options
that it sets, the callbacks that the curl library makes while it performs the
request, and the verdict on what they left behind.

The library is a parameter.  It may make the callbacks in any order, go on after
one that has refused something, and report any code in the end.

* `Transfer.Bounded` is the invariant of the state, and `transfer_bounded` says
  that no order of callbacks fills the memory.
* `Tracks` relates the state to what was delivered, and `tracks_run` is the run
  lemma.
* `send_eq` is the result: the answer depends on what was delivered and not on
  the order in which bodies, headers and ticks came in.
-/

namespace Data360

open Lib Lib.ByteString

namespace LibcurlTransport

/-! ## The callbacks -/

/-- `TransferState`. -/
structure Transfer extends TransferState where
  body : Bytes := []
  limit : UInt64 := 0
  hasRuntime : Bool := false
  cleanupRequest : Bool := false
  exceededLimit : Bool := false
  cancelled : Bool := false

/-- A piece of the body, delivered in the shape of a header line. -/
abbrev BodyPiece := HeaderLine

/-- `CURL_WRITEFUNC_ERROR`. -/
def writefuncError : UInt64 := 0xffffffff

/-- `WriteBody`. -/
def writeBody (piece : BodyPiece) (state : Transfer) : UInt64 × Transfer :=
  if piece.size ≠ 0 ∧ piece.count > sizeMax / piece.size then
    (writefuncError, { state with exceededLimit := true })
  else
    let bytes := piece.size * piece.count
    if bytes > state.limit - min (UInt64.ofNat state.body.length) state.limit then
      (writefuncError, { state with exceededLimit := true })
    else (bytes, { state with body := state.body ++ piece.pointer })

/-- `TransferProgress`.  `interrupted` is what the runtime answers if it is asked. -/
def transferProgress (interrupted : Bool) (state : Transfer) : UInt64 × Transfer :=
  if ¬ state.cleanupRequest ∧ state.hasRuntime ∧ interrupted then
    (1, { state with cancelled := true })
  else (0, state)

/-- A callback that the library makes. -/
inductive Callback where
  | header (line : HeaderLine)
  | body (piece : BodyPiece)
  | progress (interrupted : Bool)

/-- What a callback answers, and the state that it leaves. -/
def Callback.step : Callback → Transfer → UInt64 × Transfer
  | .header line, state =>
      let (taken, after) := writeHeader line state.toTransferState
      (taken, { state with toTransferState := after })
  | .body piece, state => writeBody piece state
  | .progress interrupted, state => transferProgress interrupted state

/-- The machine of the callbacks of one transfer. -/
def transferMachine : Machine Transfer Callback UInt64 := ⟨Callback.step⟩

/-! ## The options -/

/-- `CURLcode`, as far as `Send` tells the codes apart. -/
inductive CurlCode where
  | ok
  | abortedByCallback
  | peerFailedVerification
  | sslConnectError
  | sslCertproblem
  | sslCacertBadfile
  | other (code : Nat)
  deriving DecidableEq, Repr

/-- The options that `Send` sets, with their values. -/
inductive CurlOption where
  | url (value : Bytes)
  | protocols (value : Bytes)
  | redirProtocols (value : Bytes)
  | followLocation (value : Nat)
  | maxRedirs (value : Nat)
  | noSignal (value : Nat)
  | sslVerifyPeer (value : Nat)
  | sslVerifyHost (value : Nat)
  | proxy (value : Bytes)
  | connectTimeoutMs (value : UInt64)
  | timeoutMs (value : UInt64)
  | writeFunction
  | writeData
  | headerFunction
  | headerData
  | noProgress (value : Nat)
  | xferinfoFunction
  | xferinfoData
  | caInfo (value : Bytes)
  | httpHeader (lines : List Bytes)
  | httpGet (value : Nat)
  | post (value : Nat)
  | customRequest (value : Bytes)
  | postFields (value : Bytes)
  | postFieldSize (value : Nat)
  deriving DecidableEq

/-- The environment variables and the files that `SystemCaBundle` looks at. -/
structure Host where
  getenv : Bytes → Option Bytes
  readable : Bytes → Bool

/-- `SystemCaBundle`. -/
def systemCaBundle (host : Host) : Option Bytes :=
  let named := [ascii "CURL_CA_BUNDLE", ascii "SSL_CERT_FILE"].findSome? fun name =>
    (host.getenv name).filter fun value => value ≠ [] && !containsForbidden value
  named.or ([ascii "/etc/ssl/certs/ca-certificates.crt",
    ascii "/etc/pki/ca-trust/extracted/pem/tls-ca-bundle.pem",
    ascii "/etc/pki/tls/certs/ca-bundle.crt", ascii "/etc/ssl/ca-bundle.pem",
    ascii "/etc/ssl/cert.pem"].find? host.readable)

/-- The options that are set first. -/
def connectionOptions (host : Host) (request : HttpRequest) : List CurlOption := [
  .url request.url, .protocols (ascii "HTTPS"), .redirProtocols (ascii "HTTPS"),
  .followLocation 0, .maxRedirs 0, .noSignal 1, .sslVerifyPeer 1, .sslVerifyHost 2,
  .proxy [], .connectTimeoutMs request.timeoutMs, .timeoutMs request.timeoutMs,
  .writeFunction, .writeData, .headerFunction, .headerData, .noProgress 0,
  .xferinfoFunction, .xferinfoData] ++ (systemCaBundle host).toList.map .caInfo

/-- The lines of the request header. -/
def requestLines (request : HttpRequest) : List Bytes :=
  ascii "Expect:" :: request.headers.toList.map fun header =>
    header.1 ++ ascii ": " ++ header.2

/-- The options for the method and the body. -/
def methodOptions (request : HttpRequest) : List CurlOption :=
  (if request.method = ascii "GET" then [.httpGet 1]
    else if request.method = ascii "POST" then [.post 1]
    else [.customRequest (ascii "DELETE")]) ++
  if request.method = ascii "POST" ∨ request.body ≠ [] then
    [.postFields request.body, .postFieldSize request.body.length]
  else []

/-- All options of a transfer, in order. -/
def transferOptions (host : Host) (request : HttpRequest) : List CurlOption :=
  connectionOptions host request ++ .httpHeader (requestLines request) :: methodOptions request

/-! ## Sending -/

/-- What the library does while it performs a request. -/
structure Performed where
  callbacks : List Callback
  result : CurlCode

/-- The curl library, as one `Send` sees it. -/
structure Curl where
  globalInit : CurlCode
  easyInit : Bool
  setopt : CurlOption → CurlCode
  append : Bytes → Bool
  perform : List CurlOption → Performed
  responseCode : CurlCode × Int

/-- `throw std::runtime_error("D360-AUTH-008 NETWORK_UNAVAILABLE");` -/
def networkUnavailable : String := "D360-AUTH-008 NETWORK_UNAVAILABLE"

/-- `Check`. -/
def check (result : CurlCode) : Except String Unit :=
  if result = .ok then .ok () else .error networkUnavailable

/-- Every step must succeed. -/
def checkAll {α : Type} (step : α → CurlCode) : List α → Except String Unit
  | [] => .ok ()
  | first :: rest => do
      check (step first)
      checkAll step rest

/-- What `append_header` answers. -/
def Curl.appendCode (curl : Curl) (line : Bytes) : CurlCode :=
  if curl.append line then .ok else .other 0

/-- `Send`, up to the transfer. -/
def setUp (curl : Curl) (host : Host) (request : HttpRequest) : Except String Unit := do
  checkRequest request
  check curl.globalInit
  if curl.easyInit then .ok () else .error networkUnavailable
  checkAll curl.setopt (connectionOptions host request)
  checkAll curl.appendCode (requestLines request)
  checkAll curl.setopt (.httpHeader (requestLines request) :: methodOptions request)

/-- The codes that are reported as a failure of TLS. -/
def CurlCode.isTls : CurlCode → Bool
  | .peerFailedVerification | .sslConnectError | .sslCertproblem | .sslCacertBadfile => true
  | .ok | .abortedByCallback | .other _ => false

/-- `static_cast<int>(status)`. -/
def toInt32 (status : Int) : Int := status.bmod (2 ^ 32)

/-- What `Send` makes of a transfer that is over. -/
def conclude (transfer : Transfer) (result : CurlCode) (responseCode : CurlCode × Int) :
    Except String HttpResponse :=
  if transfer.exceededLimit then .error "Data 360 HTTPS response exceeded limit"
  else if transfer.exceededHeaders then .error "Data 360 HTTPS response headers exceeded limit"
  else if transfer.cancelled ∨ result = .abortedByCallback then
    .error "Data 360 query cancelled"
  else if result.isTls then .error "D360-AUTH-009 TLS_FAILURE"
  else do
    check result
    check responseCode.1
    .ok { status := toInt32 responseCode.2, body := transfer.body, headers := transfer.headers }

/-- The state before the first callback. -/
def openTransfer (hasRuntime : Bool) (request : HttpRequest) : Transfer :=
  { limit := request.maxResponseBytes, hasRuntime, cleanupRequest := request.cleanupRequest }

/-- `LibcurlTransport::Send`, of a transport with or without a runtime. -/
def send (curl : Curl) (host : Host) (hasRuntime : Bool) (request : HttpRequest) :
    Except String HttpResponse := do
  setUp curl host request
  let performed := curl.perform (transferOptions host request)
  conclude (transferMachine.run (openTransfer hasRuntime request) performed.callbacks)
    performed.result curl.responseCode

/-! ## What was delivered -/

/-- A callback hands over less than the memory there is. -/
def Callback.Real : Callback → Prop
  | .header line => line.pointer.length < 2 ^ 64
  | .body _ | .progress _ => True

/-- The part of a callback that belongs to the body. -/
def Callback.bodyOf : Callback → Bytes
  | .body piece => piece.pointer
  | .header _ | .progress _ => []

/-- The header line of a callback. -/
def Callback.lineOf : Callback → Option Bytes
  | .header line => some line.pointer
  | .body _ | .progress _ => none

/-- Whether a callback is a tick at which the runtime is interrupted. -/
def Callback.isInterruption : Callback → Bool
  | .progress interrupted => interrupted
  | .header _ | .body _ => false

/-- The body that was delivered. -/
def delivered (callbacks : List Callback) : Bytes := callbacks.flatMap Callback.bodyOf

/-- The header lines that were delivered. -/
def deliveredLines (callbacks : List Callback) : List Bytes := callbacks.filterMap Callback.lineOf

/-- The bytes of some lines. -/
def totalBytes (lines : List Bytes) : Nat := (lines.map List.length).sum

/-- The lines of each response fit: at most 64 of them, of 64 KiB together and of 8 KiB
each. -/
def HeadersFit (lines : List Bytes) : Prop :=
  LinesFit lines ∧ ∀ front ∈ lines.inits,
    (sinceStatus front).length ≤ 64 ∧ totalBytes (sinceStatus front) ≤ 64 * 1024

instance (lines : List Bytes) : Decidable (LinesFit lines) :=
  inferInstanceAs (Decidable (∀ line ∈ lines, isStatusLine line = false → line.length ≤ 8192))

instance (lines : List Bytes) : Decidable (HeadersFit lines) :=
  inferInstanceAs (Decidable (_ ∧ _))

/-- A line that `WriteHeader` takes after the lines. -/
def LineFits (lines : List Bytes) (line : Bytes) : Prop :=
  isStatusLine line = false → line.length ≤ 8192 ∧ (sinceStatus lines).length < 64 ∧
    totalBytes (sinceStatus lines) + line.length ≤ 64 * 1024

@[simp] theorem totalBytes_nil : totalBytes [] = 0 := rfl

@[simp] theorem totalBytes_concat (lines : List Bytes) (line : Bytes) :
    totalBytes (lines ++ [line]) = totalBytes lines + line.length := by
  simp [totalBytes]

theorem linesFit_concat {lines : List Bytes} {line : Bytes} :
    LinesFit (lines ++ [line]) ↔
      LinesFit lines ∧ (isStatusLine line = false → line.length ≤ 8192) := by
  simp [LinesFit, or_imp, forall_and]

theorem headersFit_nil : HeadersFit [] := ⟨by simp [LinesFit], by simp [sinceStatus]⟩

/-- The lines fit one by one. -/
theorem headersFit_concat {lines : List Bytes} {line : Bytes} :
    HeadersFit (lines ++ [line]) ↔ HeadersFit lines ∧ LineFits lines line := by
  have hinits (front : List Bytes) :
      front ∈ (lines ++ [line]).inits ↔ front ∈ lines.inits ∨ front = lines ++ [line] := by
    rw [List.mem_inits, List.mem_inits]
    exact ⟨fun h => (List.prefix_concat_iff.mp h).symm, fun h => List.prefix_concat_iff.mpr h.symm⟩
  simp only [HeadersFit, hinits, or_imp, forall_and, forall_eq, linesFit_concat, LineFits,
    sinceStatus_append]
  cases isStatusLine line with
  | true => simp
  | false =>
      simp only [forall_const, Bool.false_eq_true, if_false, List.length_append,
        List.length_singleton, totalBytes_concat]
      constructor
      · rintro ⟨⟨hlines, hline⟩, ⟨hcounts, hcount⟩, hsizes, hsize⟩
        exact ⟨⟨hlines, hcounts, hsizes⟩, hline, hcount, hsize⟩
      · rintro ⟨⟨hlines, hcounts, hsizes⟩, hline, hcount, hsize⟩
        exact ⟨⟨hlines, hline⟩, ⟨hcounts, hcount⟩, hsizes, hsize⟩

/-! ## One callback -/

namespace HeaderLine

/-- A product that does not overflow is the number of bytes. -/
theorem toNat_bytes {line : HeaderLine}
    (h : ¬ (line.size ≠ 0 ∧ line.count > sizeMax / line.size)) :
    (line.size * line.count).toNat = line.pointer.length := by
  have hlt : line.size.toNat * line.count.toNat < 2 ^ 64 := by
    by_cases hzero : line.size = 0
    · simp [hzero]
    · have hle : line.count.toNat ≤ (sizeMax / line.size).toNat :=
        UInt64.le_iff_toNat_le.mp (UInt64.not_lt.mp fun hgt => h ⟨hzero, hgt⟩)
      rw [UInt64.toNat_div] at hle
      have hmul := Nat.mul_le_of_le_div _ _ _ hle
      have hmax : sizeMax.toNat = 2 ^ 64 - 1 := by decide
      rw [Nat.mul_comm]
      omega
  rw [UInt64.toNat_mul, Nat.mod_eq_of_lt hlt, line.filled]

/-- A product that overflows is of more bytes than there are. -/
theorem overflows {line : HeaderLine}
    (h : line.size ≠ 0 ∧ line.count > sizeMax / line.size) : 2 ^ 64 ≤ line.pointer.length := by
  rw [line.filled]
  have hpos : 0 < line.size.toNat := UInt64.pos_iff_ne_zero.mpr h.1
  have hlt := UInt64.lt_iff_toNat_lt.mp h.2
  rw [UInt64.toNat_div, Nat.div_lt_iff_lt_mul hpos] at hlt
  have hmax : sizeMax.toNat = 2 ^ 64 - 1 := by decide
  rw [Nat.mul_comm]
  omega

end HeaderLine

/-- What `WriteBody` does: a piece that does not fit leaves its mark, and one that fits is
kept. -/
theorem writeBody_cases {state : Transfer} (hbody : state.body.length ≤ state.limit.toNat)
    (piece : BodyPiece) :
    (state.limit.toNat < state.body.length + piece.pointer.length ∧
        (writeBody piece state).2 = { state with exceededLimit := true }) ∨
      (state.body.length + piece.pointer.length ≤ state.limit.toNat ∧
        (writeBody piece state).2 = { state with body := state.body ++ piece.pointer }) := by
  have hlimit := state.limit.toNat_lt
  have hleft : (Quota.left state.limit (UInt64.ofNat state.body.length)).toNat =
      state.limit.toNat - state.body.length := by
    rw [Quota.toNat_left, UInt64.toNat_ofNat_of_lt' (lt_of_le_of_lt hbody hlimit)]
  rw [writeBody]
  by_cases hover : piece.size ≠ 0 ∧ piece.count > sizeMax / piece.size
  · have hmany := HeaderLine.overflows hover
    rw [if_pos hover]
    exact .inl ⟨by omega, rfl⟩
  · have hbytes := HeaderLine.toNat_bytes hover
    rw [if_neg hover]
    dsimp only
    by_cases hmore : piece.size * piece.count >
        state.limit - min (UInt64.ofNat state.body.length) state.limit
    · rw [if_pos hmore]
      have hlt := UInt64.lt_iff_toNat_lt.mp hmore
      rw [show state.limit - min (UInt64.ofNat state.body.length) state.limit
        = Quota.left state.limit (UInt64.ofNat state.body.length) from rfl, hleft, hbytes] at hlt
      exact .inl ⟨by omega, rfl⟩
    · rw [if_neg hmore]
      have hle := UInt64.le_iff_toNat_le.mp (UInt64.not_lt.mp hmore)
      rw [show state.limit - min (UInt64.ofNat state.body.length) state.limit
        = Quota.left state.limit (UInt64.ofNat state.body.length) from rfl, hleft, hbytes] at hle
      exact .inr ⟨by omega, rfl⟩

/-- The counters of the header lines are in their bounds. -/
structure CountersBounded (state : TransferState) : Prop where
  count : state.headerCount.toNat ≤ 64
  bytes : state.headerBytes.toNat ≤ 64 * 1024
  size : state.headers.size ≤ state.headerCount.toNat

/-- What `WriteHeader` does with a line. -/
inductive HeaderStep (line : HeaderLine) (state : TransferState) : TransferState → Prop
  | overflowing (huge : 2 ^ 64 ≤ line.pointer.length) : HeaderStep line state state
  | restarting (isStatus : isStatusLine line.pointer = true) :
      HeaderStep line state { state with headers := ∅, headerCount := 0, headerBytes := 0 }
  | refusing (isHeader : isStatusLine line.pointer = false)
      (excess : ¬ (line.pointer.length ≤ 8192 ∧ state.headerCount.toNat < 64 ∧
        state.headerBytes.toNat + line.pointer.length ≤ 64 * 1024)) :
      HeaderStep line state { state with exceededHeaders := true }
  | taking {count bytes : UInt64} (isHeader : isStatusLine line.pointer = false)
      (short : line.pointer.length ≤ 8192) (few : state.headerCount.toNat < 64)
      (small : state.headerBytes.toNat + line.pointer.length ≤ 64 * 1024)
      (counted : count.toNat = state.headerCount.toNat + 1)
      (summed : bytes.toNat = state.headerBytes.toNat + line.pointer.length) :
      HeaderStep line state { state with
        headerBytes := bytes
        headerCount := count
        headers := storeHeader line.pointer state.headers }

theorem writeHeader_step {state : TransferState} (h : CountersBounded state) (line : HeaderLine) :
    HeaderStep line state (writeHeader line state).2 := by
  have hcount := h.count
  have hbytes := h.bytes
  have hkib : (64 * 1024 : UInt64).toNat = 64 * 1024 := by decide
  have hleft : (Quota.left (64 * 1024) state.headerBytes).toNat =
      64 * 1024 - state.headerBytes.toNat := by rw [Quota.toNat_left, hkib]
  rw [writeHeader]
  by_cases hover : line.size ≠ 0 ∧ line.count > sizeMax / line.size
  · rw [if_pos hover]
    exact .overflowing (HeaderLine.overflows hover)
  have hlength := HeaderLine.toNat_bytes hover
  rw [if_neg hover]
  dsimp only
  cases hstatus : isStatusLine line.pointer with
  | true =>
      rw [if_pos rfl]
      exact .restarting hstatus
  | false =>
      rw [if_neg (by simp)]
      by_cases hrefused : line.size * line.count > 8192 ∨
          line.size * line.count > 64 * 1024 - min state.headerBytes (64 * 1024) ∨
          state.headerCount ≥ 64
      · rw [if_pos hrefused]
        refine .refusing hstatus fun hfits => ?_
        rcases hrefused with hlong | hmore | hmany
        · have hlt := UInt64.lt_iff_toNat_lt.mp hlong
          rw [hlength, show (8192 : UInt64).toNat = 8192 from rfl] at hlt
          omega
        · have hlt := UInt64.lt_iff_toNat_lt.mp hmore
          rw [show 64 * 1024 - min state.headerBytes (64 * 1024)
            = Quota.left (64 * 1024) state.headerBytes from rfl, hleft, hlength] at hlt
          omega
        · have hle := UInt64.le_iff_toNat_le.mp hmany
          rw [show (64 : UInt64).toNat = 64 from rfl] at hle
          omega
      · rw [if_neg hrefused]
        simp only [not_or] at hrefused
        obtain ⟨hshort, hsmall, hfew⟩ := hrefused
        replace hshort := UInt64.le_iff_toNat_le.mp (UInt64.not_lt.mp hshort)
        replace hsmall := UInt64.le_iff_toNat_le.mp (UInt64.not_lt.mp hsmall)
        replace hfew := UInt64.lt_iff_toNat_lt.mp (UInt64.not_le.mp hfew)
        rw [hlength, show (8192 : UInt64).toNat = 8192 from rfl] at hshort
        rw [show 64 * 1024 - min state.headerBytes (64 * 1024)
          = Quota.left (64 * 1024) state.headerBytes from rfl, hleft, hlength] at hsmall
        rw [show (64 : UInt64).toNat = 64 from rfl] at hfew
        refine .taking hstatus hshort hfew (by omega) ?_ ?_
        · rw [UInt64.toNat_add, show (1 : UInt64).toNat = 1 from rfl]
          omega
        · rw [UInt64.toNat_add, hlength]
          omega

/-! ## The memory of a transfer -/

/-- The map holds short names and short values. -/
def EntriesShort (headers : StringMap Bytes) : Prop :=
  ∀ name value : Bytes, headers[name]? = some value → name.length ≤ 256 ∧ value.length ≤ 8192

/-- What a transfer holds is bounded. -/
structure Transfer.Bounded (state : Transfer) : Prop where
  body : state.body.length ≤ state.limit.toNat
  counters : CountersBounded state.toTransferState
  entries : EntriesShort state.headers

theorem size_storeHeader_le (line : Bytes) (headers : StringMap Bytes) :
    (storeHeader line headers).size ≤ headers.size + 1 := by
  rw [storeHeader_eq]
  split
  · exact Nat.le_succ _
  · split
    · exact Std.TreeMap.size_insert_le
    · exact Nat.le_succ _

theorem entriesShort_storeHeader {headers : StringMap Bytes} (h : EntriesShort headers)
    (line : Bytes) : EntriesShort (storeHeader line headers) := by
  rw [storeHeader_eq]
  split
  · exact h
  · split
    · rename_i hshort
      intro name value hget
      rw [Std.TreeMap.getElem?_insert] at hget
      split at hget
      · rename_i heq
        obtain rfl := Std.LawfulEqCmp.compare_eq_iff_eq.mp heq
        obtain rfl := Option.some.inj hget
        exact hshort
      · exact h name value hget
    · exact h

theorem openTransfer_bounded (hasRuntime : Bool) (request : HttpRequest) :
    (openTransfer hasRuntime request).Bounded :=
  ⟨Nat.zero_le _, ⟨Nat.zero_le _, Nat.zero_le _, Nat.zero_le _⟩, by
    intro name value hget
    simp [openTransfer] at hget⟩

/-- Every callback keeps the bounds, also one behind a refusal. -/
theorem Callback.step_bounded {state : Transfer} (h : state.Bounded) (callback : Callback) :
    (callback.step state).2.Bounded := by
  cases callback with
  | header line =>
      show Transfer.Bounded { state with
        toTransferState := (writeHeader line state.toTransferState).2 }
      have hstep := writeHeader_step h.counters line
      generalize (writeHeader line state.toTransferState).2 = after at hstep ⊢
      cases hstep with
      | overflowing => exact h
      | restarting =>
          exact ⟨h.body, ⟨Nat.zero_le _, Nat.zero_le _, Nat.zero_le _⟩, by
            intro name value hget
            simp at hget⟩
      | refusing => exact ⟨h.body, ⟨h.counters.count, h.counters.bytes, h.counters.size⟩, h.entries⟩
      | @taking count bytes _ _ few small counted summed =>
          have hsize := size_storeHeader_le line.pointer state.headers
          have hmap := h.counters.size
          refine ⟨h.body, ⟨?_, ?_, ?_⟩, entriesShort_storeHeader h.entries _⟩
          · show count.toNat ≤ 64
            omega
          · show bytes.toNat ≤ 64 * 1024
            omega
          · show (storeHeader line.pointer state.headers).size ≤ count.toNat
            omega
  | body piece =>
      show (writeBody piece state).2.Bounded
      rcases writeBody_cases h.body piece with ⟨-, heq⟩ | ⟨hfits, heq⟩
      · rw [heq]
        exact ⟨h.body, h.counters, h.entries⟩
      · rw [heq]
        refine ⟨?_, h.counters, h.entries⟩
        rw [List.length_append]
        exact hfits
  | progress interrupted =>
      show (transferProgress interrupted state).2.Bounded
      rw [transferProgress]
      split
      · exact ⟨h.body, h.counters, h.entries⟩
      · exact h

/-- A transfer never changes what `Send` has set up for it. -/
theorem Callback.step_constant (state : Transfer) (callback : Callback) :
    (callback.step state).2.limit = state.limit ∧
      (callback.step state).2.hasRuntime = state.hasRuntime ∧
      (callback.step state).2.cleanupRequest = state.cleanupRequest := by
  cases callback with
  | header line => exact ⟨rfl, rfl, rfl⟩
  | body piece =>
      show (writeBody piece state).2.limit = _ ∧ (writeBody piece state).2.hasRuntime = _ ∧
        (writeBody piece state).2.cleanupRequest = _
      rw [writeBody]
      dsimp only
      split
      · exact ⟨rfl, rfl, rfl⟩
      · split <;> exact ⟨rfl, rfl, rfl⟩
  | progress interrupted =>
      show (transferProgress interrupted state).2.limit = _ ∧
        (transferProgress interrupted state).2.hasRuntime = _ ∧
        (transferProgress interrupted state).2.cleanupRequest = _
      rw [transferProgress]
      split <;> exact ⟨rfl, rfl, rfl⟩

/-- The bounds, of every state that the callbacks reach. -/
theorem run_bounded (hasRuntime : Bool) (request : HttpRequest) (callbacks : List Callback) :
    (transferMachine.run (openTransfer hasRuntime request) callbacks).Bounded ∧
      (transferMachine.run (openTransfer hasRuntime request) callbacks).limit =
        request.maxResponseBytes :=
  transferMachine.run_keeps
    (I := fun state => state.Bounded ∧ state.limit = request.maxResponseBytes)
    (fun state callback h => ⟨callback.step_bounded h.1,
      (callback.step_constant state).1.trans h.2⟩)
    ⟨openTransfer_bounded hasRuntime request, rfl⟩ callbacks

/-! ## What the state says about the delivery -/

/-- What the state says about the body that was delivered.  Refused pieces are not kept, so
what is kept may be less than what came. -/
structure TracksBody (body : Bytes) (state : Transfer) : Prop where
  atMost : state.body.length ≤ body.length
  all : state.exceededLimit = false → state.body = body
  excess : state.exceededLimit = true → state.limit.toNat < body.length

/-- What it says about the lines. -/
structure TracksLines (lines : List Bytes) (state : TransferState) : Prop where
  fewer : state.headerCount.toNat ≤ (sinceStatus lines).length
  smaller : state.headerBytes.toNat ≤ totalBytes (sinceStatus lines)
  all : state.exceededHeaders = false →
    state.headerCount.toNat = (sinceStatus lines).length ∧
      state.headerBytes.toNat = totalBytes (sinceStatus lines) ∧
      HeadersFit lines ∧ state.headers = collect lines
  excess : state.exceededHeaders = true → ¬ HeadersFit lines

/-- The state after some callbacks. -/
structure Tracks (hasRuntime : Bool) (request : HttpRequest) (callbacks : List Callback)
    (state : Transfer) : Prop where
  bounded : state.Bounded
  limit : state.limit = request.maxResponseBytes
  runtime : state.hasRuntime = hasRuntime
  cleanup : state.cleanupRequest = request.cleanupRequest
  body : TracksBody (delivered callbacks) state
  lines : TracksLines (deliveredLines callbacks) state.toTransferState
  cancelled : state.cancelled = true ↔
    request.cleanupRequest = false ∧ hasRuntime = true ∧ callbacks.any Callback.isInterruption

theorem collect_concat (lines : List Bytes) (line : Bytes) :
    collect (lines ++ [line]) = collectLine (collect lines) line := by
  rw [collect, List.foldl_concat, ← collect]

/-- A line keeps the relation. -/
theorem TracksLines.step {lines : List Bytes} {line : HeaderLine} {state after : TransferState}
    (h : TracksLines lines state) (hstep : HeaderStep line state after)
    (real : line.pointer.length < 2 ^ 64) : TracksLines (lines ++ [line.pointer]) after := by
  have hfewer := h.fewer
  have hsmaller := h.smaller
  cases hstep with
  | overflowing huge => exact absurd real (Nat.not_lt.mpr huge)
  | restarting isStatus =>
      refine ⟨Nat.zero_le _, Nat.zero_le _, fun hfits => ?_, fun hover hfits => ?_⟩
      · obtain ⟨-, -, hall, -⟩ := h.all hfits
        refine ⟨?_, ?_, headersFit_concat.mpr ⟨hall, ?_⟩, ?_⟩
        · rw [sinceStatus_append, if_pos isStatus]
          rfl
        · rw [sinceStatus_append, if_pos isStatus]
          rfl
        · intro hnot
          cases isStatus.symm.trans hnot
        · rw [collect_concat, collectLine, if_pos isStatus]
      · exact h.excess hover (headersFit_concat.mp hfits).1
  | refusing isHeader excess =>
      have hlines :
          sinceStatus (lines ++ [line.pointer]) = sinceStatus lines ++ [line.pointer] := by
        rw [sinceStatus_append, if_neg (by simp [isHeader])]
      refine ⟨?_, ?_, fun hfits => absurd hfits (by simp), fun _ hfits => ?_⟩
      · rw [hlines, List.length_append]
        exact hfewer.trans (Nat.le_add_right _ _)
      · rw [hlines, totalBytes_concat]
        exact hsmaller.trans (Nat.le_add_right _ _)
      · -- the line would fit behind the lines that were kept
        obtain ⟨hshort, hfew, hsmall⟩ := (headersFit_concat.mp hfits).2 isHeader
        exact excess ⟨hshort, by omega, by omega⟩
  | @taking count bytes isHeader short few small counted summed =>
      have hlines :
          sinceStatus (lines ++ [line.pointer]) = sinceStatus lines ++ [line.pointer] := by
        rw [sinceStatus_append, if_neg (by simp [isHeader])]
      refine ⟨?_, ?_, fun hfits => ?_, fun hover hfits => ?_⟩
      · rw [hlines, List.length_append, List.length_singleton]
        show count.toNat ≤ _
        omega
      · rw [hlines, totalBytes_concat]
        show bytes.toNat ≤ _
        omega
      · obtain ⟨hcount, hbytes, hall, hheaders⟩ := h.all hfits
        refine ⟨?_, ?_, headersFit_concat.mpr ⟨hall, fun _ => ⟨short, ?_, ?_⟩⟩, ?_⟩
        · rw [hlines, List.length_append, List.length_singleton, ← hcount]
          exact counted
        · rw [hlines, totalBytes_concat, ← hbytes]
          exact summed
        · rw [← hcount]
          exact few
        · rw [← hbytes]
          exact small
        · rw [collect_concat, collectLine, if_neg (by simp [isHeader]), ← hheaders]
      · exact h.excess hover (headersFit_concat.mp hfits).1

/-- A piece keeps the relation. -/
theorem TracksBody.step {body : Bytes} {state : Transfer} (h : TracksBody body state)
    (hfits : state.body.length ≤ state.limit.toNat) (piece : BodyPiece) :
    TracksBody (body ++ piece.pointer) (writeBody piece state).2 := by
  have hatMost := h.atMost
  rcases writeBody_cases hfits piece with ⟨hmore, heq⟩ | ⟨-, heq⟩
  · rw [heq]
    refine ⟨?_, fun hfalse => absurd hfalse (by simp), fun _ => ?_⟩
    · rw [List.length_append]
      exact hatMost.trans (Nat.le_add_right _ _)
    · rw [List.length_append]
      show state.limit.toNat < _
      omega
  · rw [heq]
    refine ⟨?_, fun hall => ?_, fun hover => ?_⟩
    · rw [List.length_append, List.length_append]
      exact Nat.add_le_add_right hatMost _
    · show state.body ++ piece.pointer = _
      rw [h.all hall]
    · have hlt := h.excess hover
      rw [List.length_append]
      exact Nat.lt_add_right _ hlt

theorem delivered_concat (callbacks : List Callback) (callback : Callback) :
    delivered (callbacks ++ [callback]) = delivered callbacks ++ callback.bodyOf := by
  simp [delivered]

theorem deliveredLines_concat (callbacks : List Callback) (callback : Callback) :
    deliveredLines (callbacks ++ [callback])
      = deliveredLines callbacks ++ callback.lineOf.toList := by
  rw [deliveredLines, List.filterMap_append, ← deliveredLines]
  cases h : callback.lineOf <;> simp [h]

theorem interrupted_concat (callbacks : List Callback) (callback : Callback) :
    (callbacks ++ [callback]).any Callback.isInterruption
      = (callbacks.any Callback.isInterruption || callback.isInterruption) := by simp

section Tracks

variable {hasRuntime : Bool} {request : HttpRequest} {callbacks : List Callback} {state : Transfer}

theorem tracks_nil : Tracks hasRuntime request [] (openTransfer hasRuntime request) where
  bounded := openTransfer_bounded hasRuntime request
  limit := rfl
  runtime := rfl
  cleanup := rfl
  body := ⟨Nat.le_refl _, fun _ => rfl, fun hover => absurd hover (by simp [openTransfer])⟩
  lines := ⟨Nat.zero_le _, Nat.zero_le _, fun _ => ⟨rfl, rfl, headersFit_nil, rfl⟩,
    fun hover => absurd hover (by simp [openTransfer])⟩
  cancelled := by simp [openTransfer]

/-- Every callback keeps the relation. -/
theorem Tracks.step (h : Tracks hasRuntime request callbacks state) {callback : Callback}
    (real : callback.Real) :
    Tracks hasRuntime request (callbacks ++ [callback]) (callback.step state).2 := by
  obtain ⟨hlimit, hruntime, hcleanup⟩ := callback.step_constant state
  refine ⟨callback.step_bounded h.bounded, hlimit.trans h.limit, hruntime.trans h.runtime,
    hcleanup.trans h.cleanup, ?_, ?_, ?_⟩
  · rw [delivered_concat]
    cases callback with
    | header line =>
        rw [show Callback.bodyOf (.header line) = [] from rfl, List.append_nil]
        exact ⟨h.body.atMost, h.body.all, h.body.excess⟩
    | body piece => exact h.body.step h.bounded.body piece
    | progress interrupted =>
        rw [show Callback.bodyOf (.progress interrupted) = [] from rfl, List.append_nil]
        show TracksBody _ (transferProgress interrupted state).2
        rw [transferProgress]
        split
        · exact ⟨h.body.atMost, h.body.all, h.body.excess⟩
        · exact h.body
  · rw [deliveredLines_concat]
    cases callback with
    | header line => exact h.lines.step (writeHeader_step h.bounded.counters line) real
    | body piece =>
        rw [show (Callback.lineOf (.body piece)).toList = [] from rfl, List.append_nil]
        have hsame : ((Callback.body piece).step state).2.toTransferState
            = state.toTransferState := by
          show (writeBody piece state).2.toTransferState = _
          rcases writeBody_cases h.bounded.body piece with ⟨-, heq⟩ | ⟨-, heq⟩ <;> rw [heq]
        rw [hsame]
        exact h.lines
    | progress interrupted =>
        rw [show (Callback.lineOf (.progress interrupted)).toList = [] from rfl, List.append_nil]
        have hsame : ((Callback.progress interrupted).step state).2.toTransferState
            = state.toTransferState := by
          show (transferProgress interrupted state).2.toTransferState = _
          rw [transferProgress]
          split <;> rfl
        rw [hsame]
        exact h.lines
  · rw [interrupted_concat]
    have hcancelled := h.cancelled
    cases callback with
    | header line =>
        rw [show Callback.isInterruption (.header line) = false from rfl, Bool.or_false]
        exact hcancelled
    | body piece =>
        rw [show Callback.isInterruption (.body piece) = false from rfl, Bool.or_false]
        have hsame : ((Callback.body piece).step state).2.cancelled = state.cancelled := by
          show (writeBody piece state).2.cancelled = _
          rcases writeBody_cases h.bounded.body piece with ⟨-, heq⟩ | ⟨-, heq⟩ <;> rw [heq]
        rw [hsame]
        exact hcancelled
    | progress interrupted =>
        show (transferProgress interrupted state).2.cancelled = true ↔ _
        rw [transferProgress, h.cleanup, h.runtime,
          show Callback.isInterruption (.progress interrupted) = interrupted from rfl]
        split
        · rename_i hnow
          obtain ⟨hnone, hsome, rfl⟩ := hnow
          simpa using ⟨by simpa using hnone, hsome⟩
        · rename_i hnot
          rw [hcancelled]
          cases interrupted with
          | false => simp
          | true => simp_all

/-- What the callbacks of a transfer leave behind. -/
theorem tracks_run (real : ∀ callback ∈ callbacks, callback.Real) :
    Tracks hasRuntime request callbacks
      (transferMachine.run (openTransfer hasRuntime request) callbacks) := by
  induction callbacks using List.reverseRecOn with
  | nil => exact tracks_nil
  | append_singleton callbacks callback ih =>
      rw [Machine.run_concat]
      refine Tracks.step (ih fun other hmem => real other (List.mem_append_left _ hmem)) ?_
      exact real callback (by simp)

end Tracks

/-! ## The answer -/

/-- No order of callbacks fills the memory: at no moment does a transfer hold more of a body
than its request allows, more than 64 headers, or a long one. -/
theorem transfer_bounded (hasRuntime : Bool) (request : HttpRequest) (callbacks : List Callback) :
    let state := transferMachine.run (openTransfer hasRuntime request) callbacks
    state.body.length ≤ request.maxResponseBytes.toNat ∧ state.headers.size ≤ 64 ∧
      EntriesShort state.headers := by
  obtain ⟨hbounded, hlimit⟩ := run_bounded hasRuntime request callbacks
  exact ⟨hlimit ▸ hbounded.body, hbounded.counters.size.trans hbounded.counters.count,
    hbounded.entries⟩

/-- What `Send` answers to what was delivered. -/
def verdict (hasRuntime : Bool) (request : HttpRequest) (performed : Performed)
    (responseCode : CurlCode × Int) : Except String HttpResponse :=
  if request.maxResponseBytes.toNat < (delivered performed.callbacks).length then
    .error "Data 360 HTTPS response exceeded limit"
  else if ¬ HeadersFit (deliveredLines performed.callbacks) then
    .error "Data 360 HTTPS response headers exceeded limit"
  else if (request.cleanupRequest = false ∧ hasRuntime = true ∧
      performed.callbacks.any Callback.isInterruption) ∨ performed.result = .abortedByCallback then
    .error "Data 360 query cancelled"
  else if performed.result.isTls then .error "D360-AUTH-009 TLS_FAILURE"
  else if performed.result ≠ .ok ∨ responseCode.1 ≠ .ok then .error networkUnavailable
  else .ok {
    status := toInt32 responseCode.2
    body := delivered performed.callbacks
    headers := collect (deliveredLines performed.callbacks) }

/-- Two checks and a value. -/
theorem checks_then {α : Type} (first second : CurlCode) (value : α) :
    (do
      check first
      check second
      .ok value : Except String α) =
      if first ≠ .ok ∨ second ≠ .ok then .error networkUnavailable else .ok value := by
  by_cases hfirst : first = .ok
  · by_cases hsecond : second = .ok
    · rw [if_neg (by simp [hfirst, hsecond]), check, if_pos hfirst, check, if_pos hsecond]
      rfl
    · rw [if_pos (.inr hsecond), check, if_pos hfirst, check, if_neg hsecond]
      rfl
  · rw [if_pos (.inl hfirst), check, if_neg hfirst]
    rfl

/-- The verdict on a state is the verdict on the delivery. -/
theorem conclude_eq {hasRuntime : Bool} {request : HttpRequest} {performed : Performed}
    {responseCode : CurlCode × Int} {state : Transfer}
    (h : Tracks hasRuntime request performed.callbacks state) :
    conclude state performed.result responseCode
      = verdict hasRuntime request performed responseCode := by
  rw [conclude, verdict]
  cases hover : state.exceededLimit with
  | true => rw [if_pos rfl, if_pos (h.limit ▸ h.body.excess hover)]
  | false =>
      have hbody := h.body.all hover
      have hfits := h.bounded.body
      rw [hbody, h.limit] at hfits
      rw [if_neg (by simp), if_neg (Nat.not_lt.mpr hfits)]
      cases hlines : state.exceededHeaders with
      | true => rw [if_pos rfl, if_pos (h.lines.excess hlines)]
      | false =>
          obtain ⟨-, -, hall, hheaders⟩ := h.lines.all hlines
          rw [if_neg (by simp), if_neg (not_not.mpr hall)]
          simp only [h.cancelled]
          split
          · rfl
          · split
            · rfl
            · rw [checks_then, hbody, hheaders]

/-- `Send` behind its checks: the answer is told by the body, the lines and the
interruptions that were delivered, in whatever order they came and whatever the library
did after a refusal. -/
theorem send_eq {curl : Curl} {host : Host} {hasRuntime : Bool} {request : HttpRequest}
    (ready : setUp curl host request = .ok ())
    (real : ∀ callback ∈ (curl.perform (transferOptions host request)).callbacks, callback.Real) :
    send curl host hasRuntime request = verdict hasRuntime request
      (curl.perform (transferOptions host request)) curl.responseCode := by
  rw [send, ready]
  exact conclude_eq (tracks_run real)

instance (callback : Callback) : Decidable callback.Real :=
  match callback with
  | .header line => inferInstanceAs (Decidable (line.pointer.length < 2 ^ 64))
  | .body _ | .progress _ => inferInstanceAs (Decidable True)

/-- A library that delivers a small response, with its body before a tick and a trailer
after it. -/
def sampleCurl : Curl where
  globalInit := .ok
  easyInit := true
  setopt := fun _ => .ok
  append := fun _ => true
  perform := fun _ => {
    callbacks := [.header (.ofBytes (ascii "HTTP/1.1 200 OK\r\n") (Nat.le_of_ble_eq_true rfl)),
      .header (.ofBytes (ascii "Content-Type: application/json\r\n") (Nat.le_of_ble_eq_true rfl)),
      .body (.ofBytes (ascii "[") (Nat.le_of_ble_eq_true rfl)), .progress false,
      .body (.ofBytes (ascii "]") (Nat.le_of_ble_eq_true rfl)),
      .header (.ofBytes (ascii "X-Trailer: 1\r\n") (Nat.le_of_ble_eq_true rfl))]
    result := .ok }
  responseCode := (.ok, 200)

/-- A host without a certificate bundle. -/
def sampleHost : Host := ⟨fun _ => none, fun _ => false⟩

/-- A request that the transport performs. -/
def sampleRequest : HttpRequest where
  method := ascii "GET"
  url := ascii "https://t.c360a.salesforce.com/api/v3/query/q-1"
  timeoutMs := 1000
  maxResponseBytes := 2

/-- A response that just fits. -/
theorem send_eq_sample :
    send sampleCurl sampleHost true sampleRequest = verdict true sampleRequest
        (sampleCurl.perform (transferOptions sampleHost sampleRequest)) (.ok, 200) ∧
      (send sampleCurl sampleHost true sampleRequest).isOk = true :=
  ⟨send_eq (by decide +kernel) (by decide +kernel), by decide +kernel⟩

end LibcurlTransport

end Data360
