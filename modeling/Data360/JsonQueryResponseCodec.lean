import Data360.OAuthPkce.TokenResponse
import Data360.QueryApi.Model

/-!
# Decoding responses of the Query API

`JsonQueryResponseCodec` of `src/native_runtime.cpp`.  A response is a request to
log in again, a failure, the id of a submitted query, the status of a query, or
rows or columns; which of them it is takes a look at the status code, at three
headers and at the members of the body.

yyjson is not part of the repository.  It reads a text into a value with a flag
or without one; with the flag it keeps numbers as their literals.  A member is
looked up by its first occurrence.

* `tryUnsigned_eq_some` says which members are counts.
* `decode_of_readsBody` says what `Decode` makes of a response without an id in its
  headers, and `decode_of_headerId` what it makes of the others.
-/

namespace Data360

open Lib Lib.ByteString

/-- `yyjson_read`, without a flag and with `YYJSON_READ_NUMBER_AS_RAW`. -/
structure JsonReaders where
  plain : JsonReader
  raw : JsonReader

/-- What `Decode` throws: a `ReauthRequiredException` or a `std::runtime_error`. -/
inductive CodecError where
  | reauthRequired
  | runtimeError (message : String)
  deriving DecidableEq, Repr

namespace JsonQueryResponseCodec

/-! ## Members -/

/-- A member that is a string. -/
def stringMember (object : List (Bytes × Json.Value)) (key : Bytes) : Option Bytes :=
  match object.lookup key with
  | some (.string text) => some text
  | _ => none

/-- `TryUnsigned`, of a value whose numbers are literals.  `std::stoull` throws when the
number does not fit. -/
def tryUnsigned : Json.Value → Option UInt64
  | .number raw =>
      if raw = [] ∨ raw.all isDigit = false then none
      else if ofDecimal raw < 2 ^ 64 then some (UInt64.ofNat (ofDecimal raw))
      else none
  | _ => none

/-- `OptionalUnsigned`; `none` is `false`. -/
def optionalUnsigned (object : List (Bytes × Json.Value)) (key : Bytes) :
    Except CodecError (Option UInt64) :=
  match object.lookup key with
  | none => .ok none
  | some value =>
      match tryUnsigned value with
      | some result => .ok (some result)
      | none => .error (.runtimeError "Data 360 response contained an invalid count")

/-- `JsonScalar`, of a value whose numbers are literals. -/
def jsonScalar : Json.Value → Except CodecError Bytes
  | .string text => .ok text
  | .bool flag => .ok (if flag then ascii "true" else ascii "false")
  | .number raw => .ok raw
  | _ => .error (.runtimeError "Data 360 result contained a non-scalar value")

/-! ## Headers -/

section Readers

variable (readers : JsonReaders)

/-- `Parse`: the members of the document. -/
def parse (body : Bytes) : Except CodecError (List (Bytes × Json.Value)) :=
  match readers.raw body with
  | some (.object members) => .ok members
  | _ => .error (.runtimeError "Data 360 response was invalid JSON")

/-- `HasInvalidSessionCode`. -/
def hasInvalidSessionCode (body : Bytes) : Bool :=
  match readers.plain body with
  | none => false
  | some root =>
      let error :=
        match root with
        | .array [first] => first
        | root => root
      match error with
      | .object members =>
          stringMember members (ascii "errorCode") = some (ascii "INVALID_SESSION_ID")
      | _ => false

/-- The id in a status header.  A header that does not parse is passed over. -/
def statusHeaderId (headers : StringMap Bytes) (name : Bytes) : Option Bytes :=
  match headers[name]? with
  | none => none
  | some text =>
      match parse readers text with
      | .error _ => none
      | .ok members =>
          match stringMember members (ascii "queryId") with
          | none => none
          | some queryId => if queryId = [] then none else some queryId

/-- The id in the location header. -/
def locationId (headers : StringMap Bytes) : Option Bytes :=
  let marker := ascii "/api/v3/query/"
  match headers[ascii "location"]? with
  | none => none
  | some location =>
      match find marker location with
      | none => none
      | some position =>
          let queryId := (location.drop (position + marker.length)).takeWhile fun c =>
            c ≠ 47 && c ≠ 63 && c ≠ 35
          if queryId = [] then none else some queryId

/-- The id in the headers. -/
def headerId (headers : StringMap Bytes) : Option Bytes :=
  statusHeaderId readers headers (ascii "x-hyperdb-status") <|>
    statusHeaderId readers headers (ascii "status") <|> locationId headers

end Readers

/-! ## Bodies -/

/-- The state that a completion status denotes. -/
def completionState (state : Bytes) : QueryState :=
  if state = ascii "FINISHED" ∨ state = ascii "RESULTS_PRODUCED" then .complete
  else if state = ascii "RUNNING" then .running
  else .failed

/-- A body with a completion status. -/
def decodeStatus (queryId state : Bytes) (root : List (Bytes × Json.Value)) :
    Except CodecError QueryResponse := do
  let chunkCount ← optionalUnsigned root (ascii "chunkCount")
  let rowCount ← optionalUnsigned root (ascii "rowCount")
  pure {
    state := completionState state, queryId
    chunkCount := chunkCount.getD 0, hasChunkCount := chunkCount.isSome
    rowCount := rowCount.getD 0, hasRowCount := rowCount.isSome }

/-- The precision and the scale of a column that has both. -/
def decodeNumeric (column : List (Bytes × Json.Value)) (decoded : ColumnMetadata) :
    Except CodecError ColumnMetadata := do
  let precision ← optionalUnsigned column (ascii "precision")
  let scale ← optionalUnsigned column (ascii "scale")
  match precision, scale with
  | some precision, some scale =>
      if precision = 0 ∨ precision > 38 ∨ scale > precision then
        .error (.runtimeError "Data 360 numeric metadata shape was invalid")
      else pure {
        decoded with
        hasPrecision := true, hasScale := true
        precision := precision.toUInt8, scale := scale.toUInt8 }
  | _, _ => .error (.runtimeError "Data 360 numeric metadata shape was invalid")

/-- One turn of the loop over the columns, with the members of the column. -/
def decodeColumnMembers (column : List (Bytes × Json.Value)) : Except CodecError ColumnMetadata :=
  let name := stringMember column (ascii "name") <|> stringMember column (ascii "columnName")
  let type := stringMember column (ascii "type") <|> stringMember column (ascii "typeName")
  match name, type, column.lookup (ascii "nullable") with
  | some name, some type, some (.bool nullable) =>
      let decoded : ColumnMetadata := { name, type, nullable }
      let precisionPresent := (column.lookup (ascii "precision")).isSome
      let scalePresent := (column.lookup (ascii "scale")).isSome
      if lower type ≠ ascii "numeric" ∧ (precisionPresent ∨ scalePresent) then
        .error (.runtimeError "Data 360 metadata column shape was unexpected")
      else if precisionPresent ≠ scalePresent then
        .error (.runtimeError "Data 360 numeric metadata shape was incomplete")
      else if precisionPresent then decodeNumeric column decoded
      else .ok decoded
  | _, _, _ => .error (.runtimeError "Data 360 metadata column was incomplete")

/-- One turn of the loop over the columns. -/
def decodeColumn : Json.Value → Except CodecError ColumnMetadata
  | .object column => decodeColumnMembers column
  | _ => .error (.runtimeError "Data 360 metadata column was invalid")

/-- The array of columns of a body. -/
def columnsOf (root : List (Bytes × Json.Value)) : List Json.Value :=
  let object :=
    match root.lookup (ascii "metadata") with
    | some (.object members) => members
    | _ => root
  match object.lookup (ascii "columns") with
  | some (.array columns) => columns
  | _ => []

/-- One turn of the loop over the cells of a row. -/
def decodeCell : Json.Value → Except CodecError Cell
  | .null => .ok none
  | cell => (jsonScalar cell).map some

/-- One turn of the loop over the rows. -/
def decodeRow : Json.Value → Except CodecError (List Cell)
  | .array row => row.mapM decodeCell
  | _ => .error (.runtimeError "Data 360 result row was invalid")

/-- A body with columns, rows or both. -/
def decodeResult (root : List (Bytes × Json.Value)) : Except CodecError QueryResponse := do
  let metadata ← (columnsOf root).mapM decodeColumn
  match root.lookup (ascii "data") with
  | some (.array data) => do
      let rows ← data.mapM decodeRow
      let returnedRows ← optionalUnsigned root (ascii "returnedRows")
      pure {
        state := .complete, metadata
        chunk := { rows, nextUrl := (stringMember root (ascii "next")).getD [] }
        returnedRows := returnedRows.getD 0, hasReturnedRows := returnedRows.isSome }
  | _ =>
      if metadata ≠ [] then pure { state := .complete, metadata }
      else .error (.runtimeError "Data 360 response shape was not recognized")

/-- The body of a response. -/
def decodeBody (root : List (Bytes × Json.Value)) : Except CodecError QueryResponse :=
  let queryId := (stringMember root (ascii "queryId")).getD []
  match stringMember root (ascii "completionStatus") with
  | some state => decodeStatus queryId state root
  | none => if queryId ≠ [] then .ok { state := .running, queryId } else decodeResult root

/-- `JsonQueryResponseCodec::Decode`, of a response with a status of success. -/
def decodeSuccess (readers : JsonReaders) (response : HttpResponse) :
    Except CodecError QueryResponse :=
  match headerId readers response.headers with
  | some queryId => .ok { state := .running, queryId }
  | none => do
      let root ← parse readers response.body
      decodeBody root

/-- `JsonQueryResponseCodec::Decode`. -/
def decode (readers : JsonReaders) (response : HttpResponse) : Except CodecError QueryResponse :=
  if response.status = 401 ∨
      (response.status = 403 ∧ hasInvalidSessionCode readers response.body = true) then
    .error .reauthRequired
  else if response.status < 200 ∨ 300 ≤ response.status then
    .error (.runtimeError "Data 360 Query API request failed")
  else decodeSuccess readers response

/-! ## What the functions return -/

/-- The value is a number of digits only that fits in 64 bits, and denotes `n`. -/
structure Denotes (value : Json.Value) (n : Nat) : Prop where
  literal :
    ∃ raw, value = .number raw ∧ raw ≠ [] ∧ (∀ c ∈ raw, isDigit c = true) ∧ ofDecimal raw = n
  fits : n < 2 ^ 64

theorem Denotes.number {value : Json.Value} {n : Nat} (h : Denotes value n) :
    ∃ raw, value = .number raw := by
  obtain ⟨raw, hvalue, -⟩ := h.literal
  exact ⟨raw, hvalue⟩

theorem denotes_number {raw : Bytes} {n : Nat} : Denotes (.number raw) n ↔
    raw ≠ [] ∧ raw.all isDigit = true ∧ ofDecimal raw = n ∧ n < 2 ^ 64 := by
  constructor
  · rintro ⟨⟨_, heq, hne, hall, hn⟩, hfits⟩
    cases heq
    exact ⟨hne, List.all_eq_true.mpr hall, hn, hfits⟩
  · rintro ⟨hne, hall, hn, hfits⟩
    exact ⟨⟨raw, rfl, hne, List.all_eq_true.mp hall, hn⟩, hfits⟩

/-- The counts are the numbers that denote one. -/
theorem tryUnsigned_eq_some {value : Json.Value} {n : UInt64} :
    tryUnsigned value = some n ↔ Denotes value n.toNat := by
  have hother (hnumber : ∀ raw, value ≠ .number raw) (hnone : tryUnsigned value = none) :
      tryUnsigned value = some n ↔ Denotes value n.toNat := by
    rw [hnone]
    refine iff_of_false (fun h => by cases h) fun h => ?_
    obtain ⟨raw, hraw⟩ := h.number
    exact hnumber raw hraw
  cases value with
  | number raw =>
      rw [denotes_number, tryUnsigned]
      split_ifs with hdigits hfits
      · refine iff_of_false (fun h => by cases h) fun ⟨hne, hall, _⟩ => ?_
        rw [hall] at hdigits
        simp [hne] at hdigits
      · rw [not_or, Bool.not_eq_false] at hdigits
        have hvalue : (UInt64.ofNat (ofDecimal raw)).toNat = ofDecimal raw :=
          UInt64.toNat_ofNat_of_lt hfits
        rw [Option.some_inj]
        constructor
        · rintro rfl
          rw [hvalue]
          exact ⟨hdigits.1, hdigits.2, rfl, hfits⟩
        · rintro ⟨-, -, hn, -⟩
          rw [hn, UInt64.ofNat_toNat]
      · exact iff_of_false (fun h => by cases h) fun ⟨_, _, hn, hlt⟩ => hfits (hn ▸ hlt)
  | null => exact hother (fun _ h => by cases h) rfl
  | bool flag => exact hother (fun _ h => by cases h) rfl
  | string text => exact hother (fun _ h => by cases h) rfl
  | array items => exact hother (fun _ h => by cases h) rfl
  | object members => exact hother (fun _ h => by cases h) rfl

/-- The member is there, and is no count. -/
def Malformed (object : List (Bytes × Json.Value)) (key : Bytes) : Prop :=
  ∃ value, object.lookup key = some value ∧ ∀ n, ¬ Denotes value n

/-- The count of a member, or that it has none. -/
inductive Counted (object : List (Bytes × Json.Value)) (key : Bytes) : Option UInt64 → Prop
  | absent (hlookup : object.lookup key = none) : Counted object key none
  | present {value : Json.Value} {n : UInt64} (hlookup : object.lookup key = some value)
      (hdenotes : Denotes value n.toNat) : Counted object key (some n)

theorem optionalUnsigned_cases (object : List (Bytes × Json.Value)) (key : Bytes) :
    (∃ count, optionalUnsigned object key = .ok count ∧ Counted object key count ∧
      ¬ Malformed object key) ∨
      optionalUnsigned object key = .error
        (.runtimeError "Data 360 response contained an invalid count") ∧
        Malformed object key := by
  unfold optionalUnsigned
  cases hlookup : object.lookup key with
  | none =>
      refine .inl ⟨none, rfl, .absent hlookup, fun ⟨value, hvalue, _⟩ => ?_⟩
      cases hlookup.symm.trans hvalue
  | some value =>
      simp only
      cases hcount : tryUnsigned value with
      | some n =>
          have hdenotes := tryUnsigned_eq_some.mp hcount
          refine .inl ⟨some n, rfl, .present hlookup hdenotes, fun ⟨_, hvalue, hnot⟩ => ?_⟩
          cases hlookup.symm.trans hvalue
          exact hnot _ hdenotes
      | none =>
          refine .inr ⟨rfl, value, hlookup, fun n hdenotes => ?_⟩
          have hn : (UInt64.ofNat n).toNat = n := UInt64.toNat_ofNat_of_lt hdenotes.fits
          cases hcount.symm.trans (tryUnsigned_eq_some.mpr (hn.symm ▸ hdenotes))

theorem optionalUnsigned_ok {object : List (Bytes × Json.Value)} {key : Bytes}
    {count : Option UInt64}
    (h : optionalUnsigned object key = .ok count) :
    Counted object key count ∧ ¬ Malformed object key := by
  rcases optionalUnsigned_cases object key with ⟨_, hok, hcounted⟩ | ⟨herror, -⟩
  · cases hok.symm.trans h
    exact hcounted
  · cases herror.symm.trans h

/-! ## Requests to log in again -/

/-- The program does not throw a `ReauthRequiredException`. -/
def NeverAsks {α : Type} (result : Except CodecError α) : Prop := result ≠ .error .reauthRequired

theorem neverAsks_ok {α : Type} (a : α) : NeverAsks (.ok a) := fun h => by cases h

theorem neverAsks_error {α : Type} (message : String) :
    NeverAsks (.error (.runtimeError message) : Except CodecError α) := fun h => by cases h

theorem neverAsks_bind {α β : Type} {result : Except CodecError α} {next : α → Except CodecError β}
    (h : NeverAsks result) (hnext : ∀ a, NeverAsks (next a)) : NeverAsks (result >>= next) := by
  intro herror
  rcases except_bind_eq_error.mp herror with hfirst | ⟨a, -, hsecond⟩
  · exact h hfirst
  · exact hnext a hsecond

theorem neverAsks_mapM {α β : Type} {f : α → Except CodecError β} (h : ∀ a, NeverAsks (f a))
    (xs : List α) :
    NeverAsks (xs.mapM f) := by
  induction xs with
  | nil => exact neverAsks_ok []
  | cons x xs ih =>
      rw [List.mapM_cons]
      exact neverAsks_bind (h x) fun _ => neverAsks_bind ih fun _ => neverAsks_ok _

theorem neverAsks_optionalUnsigned (object : List (Bytes × Json.Value)) (key : Bytes) :
    NeverAsks (optionalUnsigned object key) := by
  rcases optionalUnsigned_cases object key with ⟨count, hok, -⟩ | ⟨herror, -⟩
  · rw [hok]
    exact neverAsks_ok count
  · rw [herror]
    exact neverAsks_error _

theorem neverAsks_decodeColumn (value : Json.Value) : NeverAsks (decodeColumn value) := by
  cases value with
  | object column =>
      unfold decodeColumn decodeColumnMembers
      simp only
      split
      · split_ifs
        · exact neverAsks_error _
        · exact neverAsks_error _
        · unfold decodeNumeric
          refine neverAsks_bind (neverAsks_optionalUnsigned _ _) fun _ =>
            neverAsks_bind (neverAsks_optionalUnsigned _ _) fun _ => ?_
          split
          · split_ifs
            · exact neverAsks_error _
            · exact neverAsks_ok _
          · exact neverAsks_error _
        · exact neverAsks_ok _
      · exact neverAsks_error _
  | _ => exact neverAsks_error _

theorem neverAsks_decodeRow (value : Json.Value) : NeverAsks (decodeRow value) := by
  cases value with
  | array row =>
      refine neverAsks_mapM (fun cell => ?_) row
      cases cell with
      | object _ => exact neverAsks_error _
      | array _ => exact neverAsks_error _
      | _ => exact neverAsks_ok _
  | _ => exact neverAsks_error _

/-- No body asks to log in again. -/
theorem neverAsks_decodeBody (root : List (Bytes × Json.Value)) : NeverAsks (decodeBody root) := by
  unfold decodeBody
  simp only
  split
  · exact neverAsks_bind (neverAsks_optionalUnsigned _ _) fun _ =>
      neverAsks_bind (neverAsks_optionalUnsigned _ _) fun _ => neverAsks_ok _
  · split_ifs
    · exact neverAsks_ok _
    · unfold decodeResult
      refine neverAsks_bind (neverAsks_mapM neverAsks_decodeColumn _) fun metadata => ?_
      split
      · exact neverAsks_bind (neverAsks_mapM neverAsks_decodeRow _) fun _ =>
          neverAsks_bind (neverAsks_optionalUnsigned _ _) fun _ => neverAsks_ok _
      · split_ifs
        · exact neverAsks_ok _
        · exact neverAsks_error _

/-- Which responses ask to log in again. -/
theorem decode_reauthRequired_iff {readers : JsonReaders} {response : HttpResponse} :
    decode readers response = .error .reauthRequired ↔
      response.status = 401 ∨
        (response.status = 403 ∧ hasInvalidSessionCode readers response.body = true) := by
  unfold decode
  split_ifs with hasks hfailed
  · exact iff_of_true rfl hasks
  · exact iff_of_false (neverAsks_error _) hasks
  · refine iff_of_false ?_ hasks
    unfold decodeSuccess
    split
    · exact neverAsks_ok _
    · refine neverAsks_bind ?_ neverAsks_decodeBody
      unfold parse
      split
      · exact neverAsks_ok _
      · exact neverAsks_error _

/-! ## Which part of a response decides -/

/-- `Decode` comes to the body of the response, which has these members. -/
structure ReadsBody (readers : JsonReaders) (response : HttpResponse)
    (root : List (Bytes × Json.Value)) :
    Prop where
  success : 200 ≤ response.status ∧ response.status < 300
  headers : headerId readers response.headers = none
  body : readers.raw response.body = some (.object root)

variable {readers : JsonReaders} {response : HttpResponse} {root : List (Bytes × Json.Value)}

/-- Responses with a status of success are not refused. -/
theorem decode_success (h : 200 ≤ response.status ∧ response.status < 300) :
    decode readers response = decodeSuccess readers response := by
  have hreauth : ¬ (response.status = 401 ∨
      (response.status = 403 ∧ hasInvalidSessionCode readers response.body = true)) := by
    omega
  have hfailed : ¬ (response.status < 200 ∨ 300 ≤ response.status) := by
    omega
  rw [decode, if_neg hreauth, if_neg hfailed]

/-- Without an id in the headers, the body decides. -/
theorem decode_of_readsBody (h : ReadsBody readers response root) :
    decode readers response = decodeBody root := by
  rw [decode_success h.success, decodeSuccess, h.headers]
  simp only [parse, h.body]
  rfl

/-- An id in the headers decides. -/
theorem decode_of_headerId {queryId : Bytes}
    (hsuccess : 200 ≤ response.status ∧ response.status < 300)
    (h : headerId readers response.headers = some queryId) :
    decode readers response = .ok { state := .running, queryId } := by
  rw [decode_success hsuccess, decodeSuccess, h]

/-- What is accepted has an id in its headers, or a body with members. -/
theorem decode_ok {result : QueryResponse} (h : decode readers response = .ok result) :
    (∃ queryId, headerId readers response.headers = some queryId ∧
      result = { state := .running, queryId }) ∨
      ∃ root, ReadsBody readers response root ∧ decodeBody root = .ok result := by
  have hsuccess : 200 ≤ response.status ∧ response.status < 300 := by
    unfold decode at h
    split_ifs at h with hreauth hfailed
    omega
  cases hheaders : headerId readers response.headers with
  | some queryId =>
      rw [decode_of_headerId hsuccess hheaders] at h
      exact .inl ⟨queryId, rfl, (Except.ok.inj h).symm⟩
  | none =>
      rw [decode_success hsuccess, decodeSuccess, hheaders] at h
      obtain ⟨root, hparse, hbody⟩ := except_bind_eq_ok.mp h
      refine .inr ⟨root, ⟨hsuccess, hheaders, ?_⟩, hbody⟩
      unfold parse at hparse
      split at hparse
      · rename_i hraw
        cases hparse
        exact hraw
      · cases hparse

/-! ## Readers of one text -/

/-- Readers that read one text, into these members. -/
def readersOf (body : Bytes) (members : List (Bytes × Json.Value)) : JsonReaders where
  plain text := if text = body then some (.object members) else none
  raw text := if text = body then some (.object members) else none

theorem readersOf_raw {body : Bytes} {members : List (Bytes × Json.Value)} :
    (readersOf body members).raw body = some (.object members) := if_pos rfl

end JsonQueryResponseCodec

end Data360
