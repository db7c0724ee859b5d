import Data360.JsonQueryResponseCodec

/-!
# The numbers of a response

Counts, precisions and scales pass through a filter for digits, a conversion that
may overflow and, for a column, a cast to eight bits.  None of them changes a number.

* `StatusShape`, `ResultShape` and `RowsShape` are the bodies in which `Decode` reads
  them, and `decode_statusShape`, `decode_columns` and `decode_returnedRows` what it
  reads there.
* `decode_reads_numbers` is the result for every response.
-/

namespace Data360.JsonQueryResponseCodec

open Lib Lib.ByteString

/-! ## Shapes -/

/-- A body with a completion status. -/
def StatusShape (root : List (Bytes × Json.Value)) : Prop :=
  ∃ state, stringMember root (ascii "completionStatus") = some state

/-- A body with neither a completion status nor an id. -/
def ResultShape (root : List (Bytes × Json.Value)) : Prop :=
  stringMember root (ascii "completionStatus") = none ∧
  (stringMember root (ascii "queryId")).getD [] = []

/-- Such a body with an array of rows. -/
def RowsShape (root : List (Bytes × Json.Value)) : Prop :=
  ResultShape root ∧ ∃ data, root.lookup (ascii "data") = some (.array data)

/-- A response is refused with a message. -/
def Refused (result : Except CodecError QueryResponse) : Prop :=
  ∃ message, result = .error (.runtimeError message)

/-- A count of a response is the number of the member, and is absent with it. -/
structure CountRead (object : List (Bytes × Json.Value)) (key : Bytes) (has : Bool)
    (value : UInt64) :
    Prop where
  present : has = true → ∃ member, object.lookup key = some member ∧ Denotes member value.toNat
  absent : has = false → object.lookup key = none

theorem Counted.countRead {object : List (Bytes × Json.Value)} {key : Bytes} {count : Option UInt64}
    (h : Counted object key count) : CountRead object key count.isSome (count.getD 0) := by
  cases h with
  | absent hlookup => exact ⟨(fun h => by cases h), fun _ => hlookup⟩
  | present hlookup hdenotes => exact ⟨fun _ => ⟨_, hlookup, hdenotes⟩, fun h => by cases h⟩

/-! ## Columns -/

/-- What a column of the metadata says of its numbers. -/
structure ColumnRead (value : Json.Value) (column : ColumnMetadata) : Prop where
  both : column.hasPrecision = column.hasScale
  absent : column.hasPrecision = false → ∃ members, value = .object members ∧
    members.lookup (ascii "precision") = none ∧ members.lookup (ascii "scale") = none
  present : column.hasPrecision = true → lower column.type = ascii "numeric" ∧
    1 ≤ column.precision.toNat ∧ column.precision.toNat ≤ 38 ∧
    column.scale.toNat ≤ column.precision.toNat ∧
    ∃ members precision scale, value = .object members ∧
      members.lookup (ascii "precision") = some precision ∧
      Denotes precision column.precision.toNat ∧
      members.lookup (ascii "scale") = some scale ∧ Denotes scale column.scale.toNat

/-- A column whose numbers have another form, of which one is missing, or whose numbers
are out of range. -/
inductive SpoiledColumn : Json.Value → Prop
  | precision {members : List (Bytes × Json.Value)} (h : Malformed members (ascii "precision")) :
      SpoiledColumn (.object members)
  | scale {members : List (Bytes × Json.Value)} (h : Malformed members (ascii "scale")) :
      SpoiledColumn (.object members)
  | incomplete {members : List (Bytes × Json.Value)}
      (h : (members.lookup (ascii "precision")).isSome ≠ (members.lookup (ascii "scale")).isSome) :
      SpoiledColumn (.object members)
  | range {members : List (Bytes × Json.Value)} {precision scale : Json.Value} {p s : Nat}
      (hprecision : members.lookup (ascii "precision") = some precision) (hp : Denotes precision p)
      (hscale : members.lookup (ascii "scale") = some scale) (hs : Denotes scale s)
      (hrange : p = 0 ∨ 38 < p ∨ p < s) : SpoiledColumn (.object members)

theorem Denotes.unique {value : Json.Value} {m n : Nat} (hm : Denotes value m)
    (hn : Denotes value n) :
    m = n := by
  obtain ⟨raw, rfl, -, -, hvalue⟩ := hm.literal
  exact hvalue.symm.trans (denotes_number.mp hn).2.2.1

/-- The numbers of a column that has both. -/
theorem decodeNumeric_ok {members : List (Bytes × Json.Value)} {decoded column : ColumnMetadata}
    (h : decodeNumeric members decoded = .ok column) :
    ∃ precision scale : UInt64, Counted members (ascii "precision") (some precision) ∧
      Counted members (ascii "scale") (some scale) ∧
      ¬ Malformed members (ascii "precision") ∧ ¬ Malformed members (ascii "scale") ∧
      (precision.toNat ≠ 0 ∧ precision.toNat ≤ 38 ∧ scale.toNat ≤ precision.toNat) ∧
      column = { decoded with
        hasPrecision := true, hasScale := true
        precision := precision.toUInt8, scale := scale.toUInt8 } := by
  unfold decodeNumeric at h
  obtain ⟨precision?, hprecision, hrest⟩ := except_bind_eq_ok.mp h
  obtain ⟨scale?, hscale, hcolumn⟩ := except_bind_eq_ok.mp hrest
  obtain ⟨hcounted, hformed⟩ := optionalUnsigned_ok hprecision
  obtain ⟨hcounted', hformed'⟩ := optionalUnsigned_ok hscale
  split at hcolumn
  · rename_i precision scale
    split at hcolumn
    · cases hcolumn
    · rename_i hrange
      cases hcolumn
      simp only [not_or, UInt64.not_lt, gt_iff_lt] at hrange
      refine ⟨precision, scale, hcounted, hcounted', hformed, hformed',
        ⟨fun hzero => hrange.1 ?_, ?_, ?_⟩, rfl⟩
      · exact UInt64.toNat_inj.mp hzero
      · exact UInt64.le_iff_toNat_le.mp hrange.2.1
      · exact UInt64.le_iff_toNat_le.mp hrange.2.2
  · cases hcolumn

/-- The cast to eight bits keeps a number that is small. -/
theorem toNat_toUInt8_of_le {n : UInt64} (h : n.toNat ≤ 38) : n.toUInt8.toNat = n.toNat := by
  rw [UInt64.toNat_toUInt8]
  omega

/-- What is read from a column. -/
theorem decodeColumn_ok {value : Json.Value} {column : ColumnMetadata}
    (h : decodeColumn value = .ok column) : ColumnRead value column ∧ ¬ SpoiledColumn value := by
  cases value with
  | object members =>
      unfold decodeColumn decodeColumnMembers at h
      simp only at h
      split at h
      case h_2 => cases h
      rename_i name type nullable hname htype hnullable
      split_ifs at h with hunexpected hincomplete hpresent
      · -- both numbers
        obtain ⟨precision, scale, hprecision, hscale, hformed, hformed', hrange, rfl⟩ :=
          decodeNumeric_ok h
        rw [not_and_or, not_not] at hunexpected
        have hnumeric := hunexpected.resolve_right fun hnot => hnot (.inl hpresent)
        obtain ⟨hzero, hmax, hle⟩ := hrange
        have hp : precision.toUInt8.toNat = precision.toNat := toNat_toUInt8_of_le hmax
        have hs : scale.toUInt8.toNat = scale.toNat := toNat_toUInt8_of_le (hle.trans hmax)
        cases hprecision with
        | present hlookup hdenotes =>
            cases hscale with
            | present hlookup' hdenotes' =>
                refine ⟨⟨rfl, (fun h => by cases h), fun _ => ⟨hnumeric, ?_⟩⟩, fun hspoiled => ?_⟩
                · rw [hp, hs]
                  exact ⟨Nat.pos_of_ne_zero hzero, hmax, hle, members, _, _, rfl, hlookup, hdenotes,
                    hlookup', hdenotes'⟩
                · cases hspoiled with
                  | precision h => exact hformed h
                  | scale h => exact hformed' h
                  | incomplete h => exact h (by rw [hlookup, hlookup']; rfl)
                  | range hl hd hl' hd' hout =>
                      cases hlookup.symm.trans hl
                      cases hlookup'.symm.trans hl'
                      have hpEq := hdenotes.unique hd
                      have hsEq := hdenotes'.unique hd'
                      omega
      · -- no numbers
        cases h
        rw [Bool.not_eq_true, Option.isSome_eq_false_iff, Option.isNone_iff_eq_none] at hpresent
        have hscale : members.lookup (ascii "scale") = none := by
          rw [hpresent] at hincomplete
          cases hlookup : members.lookup (ascii "scale") with
          | none => rfl
          | some scale => simp [hlookup] at hincomplete
        refine ⟨⟨rfl, fun _ => ⟨members, rfl, hpresent, hscale⟩, fun h => by cases h⟩,
          fun hspoiled => ?_⟩
        cases hspoiled with
        | precision h =>
            obtain ⟨_, hlookup, -⟩ := h
            cases hpresent.symm.trans hlookup
        | scale h =>
            obtain ⟨_, hlookup, -⟩ := h
            cases hscale.symm.trans hlookup
        | incomplete h => exact h (by rw [hpresent, hscale])
        | range hlookup => cases hpresent.symm.trans hlookup
  | _ => cases h

/-! ## Bodies -/

section Bodies

variable {root : List (Bytes × Json.Value)}

/-- What is not accepted is refused with a message. -/
theorem refused_of_not_ok (h : ∀ result, decodeBody root ≠ .ok result) :
    Refused (decodeBody root) := by
  cases hbody : decodeBody root with
  | ok result => exact absurd hbody (h result)
  | error e =>
      cases e with
      | reauthRequired => exact absurd hbody (neverAsks_decodeBody root)
      | runtimeError message => exact ⟨message, rfl⟩

/-- The counts of a body with a completion status. -/
theorem decode_statusShape {result : QueryResponse} (hshape : StatusShape root)
    (h : decodeBody root = .ok result) :
    (CountRead root (ascii "chunkCount") result.hasChunkCount result.chunkCount ∧
      CountRead root (ascii "rowCount") result.hasRowCount result.rowCount) ∧
    ¬ Malformed root (ascii "chunkCount") ∧ ¬ Malformed root (ascii "rowCount") := by
  obtain ⟨state, hstate⟩ := hshape
  unfold decodeBody at h
  simp only [hstate] at h
  obtain ⟨chunkCount, hchunks, hrest⟩ := except_bind_eq_ok.mp h
  obtain ⟨rowCount, hrows, hresult⟩ := except_bind_eq_ok.mp hrest
  cases hresult
  obtain ⟨hchunkRead, hchunkFormed⟩ := optionalUnsigned_ok hchunks
  obtain ⟨hrowRead, hrowFormed⟩ := optionalUnsigned_ok hrows
  exact ⟨⟨hchunkRead.countRead, hrowRead.countRead⟩, hchunkFormed, hrowFormed⟩

/-- A body without a completion status and an id is read for its columns and rows. -/
theorem decodeBody_of_resultShape (h : ResultShape root) : decodeBody root = decodeResult root := by
  unfold decodeBody
  simp only [h.1, h.2]
  rfl

/-- The columns of a body. -/
theorem decode_columns {result : QueryResponse} (hshape : ResultShape root)
    (h : decodeBody root = .ok result) :
    List.Forall₂ ColumnRead (columnsOf root) result.metadata ∧
      ∀ column ∈ columnsOf root, ¬ SpoiledColumn column := by
  rw [decodeBody_of_resultShape hshape] at h
  unfold decodeResult at h
  obtain ⟨metadata, hmetadata, hrest⟩ := except_bind_eq_ok.mp h
  have hcolumns := mapM_eq_ok.mp hmetadata
  have hresult : result.metadata = metadata := by
    split at hrest
    · obtain ⟨rows, -, hrest⟩ := except_bind_eq_ok.mp hrest
      obtain ⟨returnedRows, -, hresult⟩ := except_bind_eq_ok.mp hrest
      cases hresult
      rfl
    · split_ifs at hrest
      cases hrest
      rfl
  rw [hresult]
  refine ⟨hcolumns.imp fun _ _ hcolumn => (decodeColumn_ok hcolumn).1, fun column hmem => ?_⟩
  obtain ⟨decoded, hdecoded⟩ := exists_of_mapM_eq_ok hmetadata hmem
  exact (decodeColumn_ok hdecoded).2

/-- The count of the rows of a body. -/
theorem decode_returnedRows {result : QueryResponse} (hshape : RowsShape root)
    (h : decodeBody root = .ok result) :
    CountRead root (ascii "returnedRows") result.hasReturnedRows result.returnedRows ∧
      ¬ Malformed root (ascii "returnedRows") := by
  obtain ⟨hresultShape, data, hdata⟩ := hshape
  rw [decodeBody_of_resultShape hresultShape] at h
  unfold decodeResult at h
  obtain ⟨metadata, -, hrest⟩ := except_bind_eq_ok.mp h
  simp only [hdata] at hrest
  obtain ⟨rows, -, hrest⟩ := except_bind_eq_ok.mp hrest
  obtain ⟨returnedRows, hreturned, hresult⟩ := except_bind_eq_ok.mp hrest
  cases hresult
  obtain ⟨hcounted, hformed⟩ := optionalUnsigned_ok hreturned
  exact ⟨hcounted.countRead, hformed⟩

/-- Where the numbers of a response come from. -/
theorem decodeBody_sources {result : QueryResponse} (h : decodeBody root = .ok result) :
    (result.hasChunkCount = true ∨ result.hasRowCount = true → StatusShape root) ∧
    (result.hasReturnedRows = true → RowsShape root) ∧
    (result.metadata ≠ [] → ResultShape root) := by
  unfold decodeBody at h
  cases hstate : stringMember root (ascii "completionStatus") with
  | some state =>
      simp only [hstate] at h
      obtain ⟨chunkCount, -, hrest⟩ := except_bind_eq_ok.mp h
      obtain ⟨rowCount, -, hresult⟩ := except_bind_eq_ok.mp hrest
      cases hresult
      exact ⟨fun _ => ⟨state, hstate⟩, (fun h => by cases h), fun h => absurd rfl h⟩
  | none =>
      simp only [hstate] at h
      split_ifs at h with hqueryId
      · cases h
        exact ⟨(fun h => by rcases h with h | h <;> cases h), (fun h => by cases h),
          fun h => absurd rfl h⟩
      · have hshape : ResultShape root := ⟨hstate, not_not.mp hqueryId⟩
        unfold decodeResult at h
        obtain ⟨metadata, -, hrest⟩ := except_bind_eq_ok.mp h
        split at hrest
        · rename_i data hdata
          obtain ⟨rows, -, hrest⟩ := except_bind_eq_ok.mp hrest
          obtain ⟨returnedRows, -, hresult⟩ := except_bind_eq_ok.mp hrest
          cases hresult
          exact ⟨(fun h => by rcases h with h | h <;> cases h), fun _ => ⟨hshape, data, hdata⟩,
            fun _ => hshape⟩
        · split_ifs at hrest
          cases hrest
          exact ⟨(fun h => by rcases h with h | h <;> cases h), (fun h => by cases h),
            fun _ => hshape⟩

end Bodies

/-! ## Every response -/

/-- The numbers of a response are those of its body, and a number in another form is
refused. -/
theorem decode_reads_numbers (readers : JsonReaders) (response : HttpResponse) :
    (∀ root, ReadsBody readers response root → StatusShape root →
      (∀ result, decode readers response = .ok result →
        CountRead root (ascii "chunkCount") result.hasChunkCount result.chunkCount ∧
          CountRead root (ascii "rowCount") result.hasRowCount result.rowCount) ∧
      (Malformed root (ascii "chunkCount") ∨ Malformed root (ascii "rowCount") →
        Refused (decode readers response))) ∧
    (∀ root, ReadsBody readers response root → RowsShape root →
      (∀ result, decode readers response = .ok result →
        CountRead root (ascii "returnedRows") result.hasReturnedRows result.returnedRows) ∧
      (Malformed root (ascii "returnedRows") → Refused (decode readers response))) ∧
    (∀ root, ReadsBody readers response root → ResultShape root →
      (∀ result, decode readers response = .ok result →
        List.Forall₂ ColumnRead (columnsOf root) result.metadata) ∧
      ((∃ column ∈ columnsOf root, SpoiledColumn column) → Refused (decode readers response))) ∧
    ∀ result, decode readers response = .ok result →
      (result.hasChunkCount = true ∨ result.hasRowCount = true →
        ∃ root, ReadsBody readers response root ∧ StatusShape root) ∧
      (result.hasReturnedRows = true → ∃ root, ReadsBody readers response root ∧ RowsShape root) ∧
      (result.metadata ≠ [] → ∃ root, ReadsBody readers response root ∧ ResultShape root) := by
  refine ⟨fun root hreads hshape => ?_, fun root hreads hshape => ?_, fun root hreads hshape => ?_,
    fun result hresult => ?_⟩
  · rw [decode_of_readsBody hreads]
    refine ⟨fun result hresult => (decode_statusShape hshape hresult).1, fun hmalformed => ?_⟩
    refine refused_of_not_ok fun result hresult => ?_
    obtain ⟨-, hchunks, hrows⟩ := decode_statusShape hshape hresult
    exact hmalformed.elim hchunks hrows
  · rw [decode_of_readsBody hreads]
    refine ⟨fun result hresult => (decode_returnedRows hshape hresult).1, fun hmalformed => ?_⟩
    exact refused_of_not_ok fun result hresult => (decode_returnedRows hshape hresult).2 hmalformed
  · rw [decode_of_readsBody hreads]
    refine ⟨fun result hresult => (decode_columns hshape hresult).1,
      fun ⟨column, hmem, hspoiled⟩ => ?_⟩
    exact refused_of_not_ok fun result hresult =>
      (decode_columns hshape hresult).2 column hmem hspoiled
  · rcases decode_ok hresult with ⟨queryId, -, rfl⟩ | ⟨root, hreads, hbody⟩
    · exact ⟨(fun h => by rcases h with h | h <;> cases h), (fun h => by cases h),
        fun h => absurd rfl h⟩
    · obtain ⟨hstatus, hrows, hcolumns⟩ := decodeBody_sources hbody
      exact ⟨fun h => ⟨root, hreads, hstatus h⟩, fun h => ⟨root, hreads, hrows h⟩,
        fun h => ⟨root, hreads, hcolumns h⟩⟩

/-- A finished query with `2 ^ 64 - 1` rows. -/
def finishedRoot : List (Bytes × Json.Value) :=
  [(ascii "completionStatus", .string (ascii "FINISHED")),
    (ascii "rowCount", .number (ascii "18446744073709551615"))]

def finishedResponse : HttpResponse where
  status := 200
  body := ascii "\x7b\"completionStatus\":\"FINISHED\",\"rowCount\":18446744073709551615\x7d"

/-- The same with a row more. -/
def overflowingRoot : List (Bytes × Json.Value) :=
  [(ascii "completionStatus", .string (ascii "FINISHED")),
    (ascii "rowCount", .number (ascii "18446744073709551616"))]

def overflowingResponse : HttpResponse where
  status := 200
  body := ascii "\x7b\"completionStatus\":\"FINISHED\",\"rowCount\":18446744073709551616\x7d"

theorem decode_reads_numbers_limit :
    (CountRead finishedRoot (ascii "chunkCount") false 0 ∧
      CountRead finishedRoot (ascii "rowCount") true 0xffffffffffffffff) ∧
    Refused (decode (readersOf overflowingResponse.body overflowingRoot) overflowingResponse) := by
  have hreads (response : HttpResponse) (root : List (Bytes × Json.Value))
      (hsuccess : 200 ≤ response.status ∧ response.status < 300)
      (hheaders : headerId (readersOf response.body root) response.headers = none) :
      ReadsBody (readersOf response.body root) response root :=
    ⟨hsuccess, hheaders, readersOf_raw⟩
  constructor
  · exact ((decode_reads_numbers (readersOf finishedResponse.body finishedRoot) finishedResponse).1
      finishedRoot (hreads _ _ (by decide) rfl) ⟨ascii "FINISHED", by decide⟩).1
      { state := .complete, rowCount := 0xffffffffffffffff, hasRowCount := true }
      (by decide +kernel)
  · refine ((decode_reads_numbers (readersOf overflowingResponse.body overflowingRoot)
      overflowingResponse).1 overflowingRoot (hreads _ _ (by decide) rfl)
      ⟨ascii "FINISHED", by decide⟩).2 (.inr ⟨_, rfl, fun n hdenotes => ?_⟩)
    obtain ⟨-, -, hvalue, hfits⟩ := denotes_number.mp hdenotes
    have hlarge : ofDecimal (ascii "18446744073709551616") = 2 ^ 64 := by decide +kernel
    omega

/-- Rows beside the id of a query. -/
def labelledRoot : List (Bytes × Json.Value) :=
  [(ascii "queryId", .string (ascii "q1")), (ascii "data", .array [.array [.number (ascii "1")]]),
    (ascii "returnedRows", .number (ascii "1"))]

def labelledResponse : HttpResponse where
  status := 200
  body := ascii "\x7b\"queryId\":\"q1\",\"data\":[[1]],\"returnedRows\":1\x7d"

/-- Beside an id the rows are not read: their count is reported absent, and its member is
there. -/
theorem decode_skips_labelled :
    Json.parse labelledResponse.body = some (.object labelledRoot) ∧
      (∃ data, labelledRoot.lookup (ascii "data") = some (.array data)) ∧
      ∃ result, decode ⟨Json.parse, Json.parse⟩ labelledResponse = .ok result ∧
        result.hasReturnedRows = false ∧
        ¬ CountRead labelledRoot (ascii "returnedRows") result.hasReturnedRows
          result.returnedRows := by
  have hdigit : Json.NumberLiteral (ascii "1") :=
    (show toDecimal 1 = ascii "1" by decide +kernel) ▸ Json.numberLiteral_toDecimal 1
  have hreadable : Json.Readable (.object labelledRoot) := by
    refine .object fun member hmember => ?_
    simp only [labelledRoot, List.mem_cons, List.not_mem_nil, or_false] at hmember
    rcases hmember with rfl | rfl | rfl
    · exact .string _
    · refine .array fun row hrow => ?_
      obtain rfl := List.mem_singleton.mp hrow
      refine .array fun cell hcell => ?_
      obtain rfl := List.mem_singleton.mp hcell
      exact .number hdigit
    · exact .number hdigit
  have hbody : labelledResponse.body = Json.write (.object labelledRoot) := by decide +kernel
  have hdecoded : decode ⟨Json.parse, Json.parse⟩ labelledResponse
      = .ok { state := .running, queryId := ascii "q1" } := by decide +kernel
  refine ⟨hbody ▸ Json.parse_write hreadable, ⟨_, rfl⟩, _, hdecoded, rfl, fun h => ?_⟩
  have habsent : labelledRoot.lookup (ascii "returnedRows") = none := h.absent rfl
  cases habsent

end Data360.JsonQueryResponseCodec
