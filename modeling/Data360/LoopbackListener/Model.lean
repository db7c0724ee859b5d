import Data360.AuthCallback
import Data360.Lib.Percent

/-!
# The callback parser

`ParseOAuthCallbackRequest` of `src/loopback_listener.cpp`: what the listener
makes of the bytes that a browser sent.  The parser reads the request line, the
header lines and the query with searches from a position, and throws a
`CallbackProtocolError` with a fixed text at everything that it does not expect.

A position is a `size_t` in the source.  It matters in one place, the length of
the headers, which wraps around when there are none.
-/

namespace Data360

open Lib Lib.ByteString

/-- `CallbackProtocolError`. -/
structure CallbackProtocolError where
  message : String
  deriving DecidableEq, Repr

/-- `CallbackResult`, as the parser makes it. -/
structure ParsedCallback extends CallbackResult where
  safeErrorCode : String := ""

/-- What the parser answers or throws. -/
abbrev Parsed (α : Type) := Except CallbackProtocolError α

/-- The error of a callback whose bytes make no sense. -/
def malformedCallback : CallbackProtocolError := ⟨"malformed OAuth callback"⟩

/-- `MAX_CALLBACK_REQUEST_BYTES`. -/
def maxCallbackRequestBytes : Nat := 8192

/-- `MAX_CALLBACK_VALUE_BYTES`. -/
def maxCallbackValueBytes : Nat := 2048

/-! ## The query -/

/-- `HexValue`; `none` is the negative answer. -/
def hexValue (value : UInt8) : Option UInt8 :=
  if 48 ≤ value ∧ value ≤ 57 then some (value - 48)
  else if 65 ≤ value ∧ value ≤ 70 then some (value - 65 + 10)
  else if 97 ≤ value ∧ value ≤ 102 then some (value - 97 + 10)
  else none

/-- The loop of `PercentDecode`. -/
def percentDecodeLoop : Bytes → Parsed Bytes
  | [] => .ok []
  | c :: rest =>
      if c = 37 then
        match rest with
        | first :: second :: rest =>
            match hexValue first, hexValue second with
            | some high, some low =>
                let decoded := high <<< 4 ||| low
                if decoded < 0x20 ∨ decoded = 0x7f then .error malformedCallback
                else (percentDecodeLoop rest).map (decoded :: ·)
            | _, _ => .error malformedCallback
        | _ => .error malformedCallback
      else if c = 43 ∨ c < 0x20 ∨ c = 0x7f then .error malformedCallback
      else (percentDecodeLoop rest).map (c :: ·)

/-- `PercentDecode`. -/
def percentDecode (value : Bytes) : Parsed Bytes := do
  let output ← percentDecodeLoop value
  if maxCallbackValueBytes < output.length then .error ⟨"oversized OAuth callback field"⟩
  else .ok output

/-- One item of the query, added to the fields. -/
def parseItem (values : StringMap Bytes) (item : Bytes) : Parsed (StringMap Bytes) :=
  match find [61] item with
  | none => .error malformedCallback
  | some equals =>
      if item = [] ∨ equals = 0 then .error malformedCallback
      else do
        let key ← percentDecode (substr item 0 equals)
        let value ← percentDecode (item.drop (equals + 1))
        if key ∈ values then .error ⟨"duplicate OAuth callback field"⟩
        else .ok (values.insert key value)

/-- The loop of `ParseQuery`, from the position `start` on.  A turn goes on
behind the next `&`, so the length of the query and one more is fuel enough. -/
def parseQueryFrom (query : Bytes) : Nat → Nat → StringMap Bytes → Parsed (StringMap Bytes)
  | 0, _, values => .ok values
  | fuel + 1, start, values =>
      if start ≤ query.length then do
        let stop := findFrom [38] query start
        let values ← parseItem values (substr query start (stop.getD query.length - start))
        match stop with
        | none => .ok values
        | some stop => parseQueryFrom query fuel (stop + 1) values
      else .ok values

/-- `ParseQuery`. -/
def parseQuery (query : Bytes) : Parsed (StringMap Bytes) :=
  parseQueryFrom query (query.length + 1) 0 ∅

/-! ## The headers -/

/-- The end of a line. -/
def crlf : Bytes := [13, 10]

/-- The error of a header line that makes no sense. -/
def malformedHeader : CallbackProtocolError := ⟨"malformed callback header"⟩

/-- The error of a missing, second or wrong host. -/
def invalidHost : CallbackProtocolError := ⟨"invalid callback host"⟩

/-- The error of a request that has a body. -/
def bodyForbidden : CallbackProtocolError := ⟨"callback request body forbidden"⟩

/-- One turn of the header loop: whether a host has been found after the line. -/
def parseHeaderLine (foundHost : Bool) (line : Bytes) : Parsed Bool :=
  match find [58] line with
  | none => .error malformedHeader
  | some colon =>
      if colon = 0 ∨ isBlank (line.getD (colon - 1) 0) then .error malformedHeader
      else if (substr line 0 colon).any fun c => !isAlnum c && c != 45 then .error malformedHeader
      else
        let key := lower (substr line 0 colon)
        let value := trimBlanks (line.drop (colon + 1))
        if value.any fun c => c < 0x20 && c != 9 then .error malformedHeader
        else if key = ascii "content-length" ∨ key = ascii "transfer-encoding" then
          .error bodyForbidden
        else if key = ascii "host" then
          if foundHost ∨ value ≠ ascii "localhost:8910" then .error invalidHost else .ok true
        else .ok foundHost

/-- The header loop, from the position `start` on.  A turn goes on behind the
next line end. -/
def parseHeadersFrom (headers : Bytes) : Nat → Nat → Bool → Parsed Bool
  | 0, _, foundHost => .ok foundHost
  | fuel + 1, start, foundHost =>
      if start < headers.length then do
        let stop := findFrom crlf headers start
        let foundHost ← parseHeaderLine foundHost
          (substr headers start (stop.getD headers.length - start))
        match stop with
        | none => .ok foundHost
        | some stop => parseHeadersFrom headers fuel (stop + 2) foundHost
      else .ok foundHost

/-! ## The request -/

/-- What a request line starts with. -/
def callbackPrefix : Bytes := ascii "GET /oauth/callback?"

/-- What a request line ends with. -/
def callbackSuffix : Bytes := ascii " HTTP/1.1"

/-- The result of the fields of a query. -/
def callbackResult (fields : StringMap Bytes) : Parsed ParsedCallback :=
  match fields[ascii "state"]? with
  | none => .error ⟨"OAuth callback state missing"⟩
  | some state =>
      if state = [] then .error ⟨"OAuth callback state missing"⟩
      else
        match fields[ascii "error"]?, fields[ascii "code"]? with
        | some error, code =>
            if code.isSome ∨ error ≠ ascii "access_denied" then
              .error ⟨"OAuth provider rejected callback"⟩
            else .ok { status := .accessDenied, state, safeErrorCode := "USER_DENIED" }
        | none, none => .error ⟨"authorization code missing"⟩
        | none, some code =>
            if code = [] then .error ⟨"authorization code missing"⟩
            else .ok { status := .codeReceived, state, code }

/-- The headers of a request: what is between the first line end and the blank
line.  The length is computed on `size_t`; without headers it wraps, and the
headers reach to the end of the request. -/
def callbackHeaders (request : Bytes) (lineEnd headerEnd : Nat) : Bytes :=
  substr request (lineEnd + 2) (UInt64.ofNat headerEnd - UInt64.ofNat (lineEnd + 2)).toNat

/-- `ParseOAuthCallbackRequest`. -/
def parseOAuthCallbackRequest (request : Bytes) : Parsed ParsedCallback :=
  if request = [] ∨ maxCallbackRequestBytes < request.length then
    .error ⟨"invalid or oversized callback request"⟩
  else
    match find (crlf ++ crlf) request with
    | none => .error bodyForbidden
    | some headerEnd =>
        if headerEnd + 4 ≠ request.length then .error bodyForbidden
        else
          match find crlf request with
          | none => .error malformedCallback
          | some lineEnd =>
              let requestLine := substr request 0 lineEnd
              if ¬ callbackPrefix.isPrefixOf requestLine ∨
                  requestLine.length ≤ callbackPrefix.length + callbackSuffix.length ∨
                  ¬ endsWith callbackSuffix requestLine then
                .error ⟨"invalid OAuth callback method or path"⟩
              else do
                let headers := callbackHeaders request lineEnd headerEnd
                let foundHost ← parseHeadersFrom headers headers.length 0 false
                if !foundHost then .error invalidHost
                else
                  let fields ← parseQuery (substr requestLine callbackPrefix.length
                    (requestLine.length - callbackPrefix.length - callbackSuffix.length))
                  callbackResult fields

end Data360
