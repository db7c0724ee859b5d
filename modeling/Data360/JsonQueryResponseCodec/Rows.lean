import Data360.JsonQueryResponseCodec.Counts

/-!
# The rows of a response

A body with an array of rows is decoded cell by cell.  Nothing is rounded or moved on the
way: a number is its literal, a string its text, and a null is an empty cell.

* `RowsOf` says which rows an array of JSON values stands for, and `mapM_decodeRow` that the
  loop over the rows finds exactly these.
* `ColumnShape` says which column a JSON value stands for; `decodeColumn_eq_ok` is the same
  for the loop over the columns.
* `decode_rows` is the result for every text of a body, of a yyjson that reads JSON.
-/

namespace Data360.JsonQueryResponseCodec

open Lib Lib.ByteString

/-! ## Rows -/

/-- The cell that a JSON value stands for.  An array and an object stand for none. -/
inductive CellOf : Json.Value → Cell → Prop
  | null : CellOf .null none
  | true : CellOf (.bool true) (some (ascii "true"))
  | false : CellOf (.bool false) (some (ascii "false"))
  | number (literal : Bytes) : CellOf (.number literal) (some literal)
  | string (text : Bytes) : CellOf (.string text) (some text)

/-- The row that a JSON value stands for. -/
inductive RowOf : Json.Value → List Cell → Prop
  | array {cells : List Json.Value} {row : List Cell} (h : List.Forall₂ CellOf cells row) :
      RowOf (.array cells) row

/-- The rows that the values stand for, in their order. -/
def RowsOf (data : List Json.Value) (rows : List (List Cell)) : Prop := List.Forall₂ RowOf data rows

/-- A value that is no cell. -/
inductive Nested : Json.Value → Prop
  | array (items : List Json.Value) : Nested (.array items)
  | object (members : List (Bytes × Json.Value)) : Nested (.object members)

/-- A value that is no row: it is no array, or it has an array or an object in it. -/
inductive SpoiledRow (value : Json.Value) : Prop
  | other (h : ∀ cells, value ≠ .array cells)
  | nested {cells : List Json.Value} {cell : Json.Value} (h : value = .array cells)
      (hmem : cell ∈ cells) (hnested : Nested cell)

theorem decodeCell_eq_ok {value : Json.Value} {cell : Cell} :
    decodeCell value = .ok cell ↔ CellOf value cell := by
  constructor
  · intro h
    cases value with
    | null => exact Except.ok.inj h ▸ .null
    | bool flag =>
        cases flag with
        | true => exact Except.ok.inj h ▸ .true
        | false => exact Except.ok.inj h ▸ .false
    | number literal => exact Except.ok.inj h ▸ .number literal
    | string text => exact Except.ok.inj h ▸ .string text
    | array | object => cases h
  · intro h
    cases h with
    | null | true | false | number | string => rfl

theorem decodeRow_eq_ok {value : Json.Value} {row : List Cell} :
    decodeRow value = .ok row ↔ RowOf value row := by
  constructor
  · intro h
    cases value with
    | array cells =>
        exact .array ((mapM_eq_ok.mp h).imp fun _ _ => decodeCell_eq_ok.mp)
    | null | bool | number | string | object => cases h
  · rintro ⟨hcells⟩
    exact mapM_eq_ok.mpr (hcells.imp fun _ _ => decodeCell_eq_ok.mpr)

/-- The loop over the rows. -/
theorem mapM_decodeRow {data : List Json.Value} {rows : List (List Cell)} :
    data.mapM decodeRow = .ok rows ↔ RowsOf data rows :=
  mapM_eq_ok.trans ⟨fun h => h.imp fun _ _ => decodeRow_eq_ok.mp,
    fun h => h.imp fun _ _ => decodeRow_eq_ok.mpr⟩

/-- A spoiled row is not decoded. -/
theorem SpoiledRow.decodeRow {value : Json.Value} (h : SpoiledRow value) (row : List Cell) :
    decodeRow value ≠ .ok row := by
  intro hrow
  cases decodeRow_eq_ok.mp hrow with
  | array hcells =>
      cases h with
      | other hother => exact hother _ rfl
      | nested hvalue hmem hnested =>
          obtain rfl := Json.Value.array.inj hvalue
          obtain ⟨cell, hcell⟩ := exists_of_mapM_eq_ok hrow hmem
          cases hnested with
          | array | object => cases hcell

/-! ## Columns -/

/-- The text of a column under its first name, or else under its second. -/
def columnText (column : List (Bytes × Json.Value)) (first second : String) : Option Bytes :=
  stringMember column (ascii first) <|> stringMember column (ascii second)

/-- The members that every column has. -/
structure NamedColumn (column : List (Bytes × Json.Value)) (name type : Bytes) (nullable : Bool) :
    Prop where
  name : columnText column "name" "columnName" = some name
  type : columnText column "type" "typeName" = some type
  nullable : column.lookup (ascii "nullable") = some (.bool nullable)

/-- The column that a JSON value stands for: it has neither a precision nor a scale, or it is
numeric and has both. -/
inductive ColumnShape : Json.Value → ColumnMetadata → Prop
  | plain {column : List (Bytes × Json.Value)} {name type : Bytes} {nullable : Bool}
      (h : NamedColumn column name type nullable)
      (hprecision : column.lookup (ascii "precision") = none)
      (hscale : column.lookup (ascii "scale") = none) :
      ColumnShape (.object column) { name, type, nullable }
  | numeric {column : List (Bytes × Json.Value)} {name type : Bytes} {nullable : Bool}
      {p s : Json.Value} {precision scale : UInt8} (h : NamedColumn column name type nullable)
      (hnumeric : lower type = ascii "numeric")
      (hprecision : column.lookup (ascii "precision") = some p) (hp : Denotes p precision.toNat)
      (hscale : column.lookup (ascii "scale") = some s) (hs : Denotes s scale.toNat)
      (hrange : 1 ≤ precision.toNat ∧ precision.toNat ≤ 38 ∧ scale.toNat ≤ precision.toNat) :
      ColumnShape (.object column)
        { name, type, nullable, hasPrecision := true, hasScale := true, precision, scale }

theorem optionalUnsigned_of_denotes {object : List (Bytes × Json.Value)} {key : Bytes}
    {value : Json.Value} {n : UInt8} (h : object.lookup key = some value)
    (hn : Denotes value n.toNat) : optionalUnsigned object key = .ok (some n.toUInt64) := by
  have hcount : tryUnsigned value = some n.toUInt64 := tryUnsigned_eq_some.mpr (by simpa using hn)
  unfold optionalUnsigned
  rw [h]
  simp only [hcount]

/-- A precision and a scale within their range are kept as they are. -/
theorem decodeNumeric_of_range {column : List (Bytes × Json.Value)} {decoded : ColumnMetadata}
    {p s : Json.Value} {precision scale : UInt8}
    (hprecision : column.lookup (ascii "precision") = some p) (hp : Denotes p precision.toNat)
    (hscale : column.lookup (ascii "scale") = some s) (hs : Denotes s scale.toNat)
    (hrange : 1 ≤ precision.toNat ∧ precision.toNat ≤ 38 ∧ scale.toNat ≤ precision.toNat) :
    decodeNumeric column decoded
      = .ok { decoded with hasPrecision := true, hasScale := true, precision, scale } := by
  have hvalid : ¬ (precision.toUInt64 = 0 ∨ precision.toUInt64 > 38 ∨
      scale.toUInt64 > precision.toUInt64) := by
    rw [← UInt64.toNat_inj, gt_iff_lt, gt_iff_lt, UInt64.lt_iff_toNat_lt, UInt64.lt_iff_toNat_lt,
      UInt8.toNat_toUInt64, UInt8.toNat_toUInt64]
    have hzero : (0 : UInt64).toNat = 0 := rfl
    have hmaximum : (38 : UInt64).toNat = 38 := rfl
    omega
  unfold decodeNumeric
  rw [optionalUnsigned_of_denotes hprecision hp, optionalUnsigned_of_denotes hscale hs]
  refine (if_neg hvalid).trans ?_
  rw [UInt8.toUInt8_toUInt64, UInt8.toUInt8_toUInt64]
  rfl

/-- A column is decoded as the column that it stands for. -/
theorem ColumnShape.decodeColumn {value : Json.Value} {column : ColumnMetadata}
    (h : ColumnShape value column) : decodeColumn value = .ok column := by
  cases h with
  | plain h hprecision hscale =>
      have hname := h.name
      have htype := h.type
      unfold columnText at hname htype
      unfold JsonQueryResponseCodec.decodeColumn decodeColumnMembers
      simp only [hname, htype, h.nullable, hprecision, hscale]
      simp
  | @numeric column name type nullable p s precision scale h hnumeric hprecision hp
        hscale hs hrange =>
      have hname := h.name
      have htype := h.type
      unfold columnText at hname htype
      unfold JsonQueryResponseCodec.decodeColumn decodeColumnMembers
      simp only [hname, htype, h.nullable, hprecision, hscale, hnumeric]
      exact decodeNumeric_of_range hprecision hp hscale hs hrange

/-- Whatever is decoded from a value is the column that it stands for. -/
theorem columnShape_of_decodeColumn {value : Json.Value} {column : ColumnMetadata}
    (h : decodeColumn value = .ok column) : ColumnShape value column := by
  cases value with
  | object members =>
      unfold JsonQueryResponseCodec.decodeColumn decodeColumnMembers at h
      dsimp only at h
      split at h
      case h_2 => cases h
      rename_i name type nullable hname htype hnullable
      have hnamed : NamedColumn members name type nullable := ⟨hname, htype, hnullable⟩
      split_ifs at h with hunexpected hincomplete hpresent
      · obtain ⟨precision, scale, hprecision, hscale, -, -, ⟨hzero, hmaximum, hle⟩, rfl⟩ :=
          decodeNumeric_ok h
        rw [not_and_or, not_not] at hunexpected
        have hnumeric := hunexpected.resolve_right fun hnot => hnot (.inl hpresent)
        have hp := toNat_toUInt8_of_le hmaximum
        have hs := toNat_toUInt8_of_le (hle.trans hmaximum)
        cases hprecision with
        | present hlookup hdenotes =>
            cases hscale with
            | present hlookup' hdenotes' =>
                exact .numeric hnamed hnumeric hlookup (hp.symm ▸ hdenotes) hlookup'
                  (hs.symm ▸ hdenotes') (by omega)
      · cases h
        rw [Bool.not_eq_true, Option.isSome_eq_false_iff, Option.isNone_iff_eq_none] at hpresent
        refine .plain hnamed hpresent ?_
        rw [hpresent] at hincomplete
        cases hlookup : members.lookup (ascii "scale") with
        | none => rfl
        | some scale => simp [hlookup] at hincomplete
  | _ => cases h

theorem decodeColumn_eq_ok {value : Json.Value} {column : ColumnMetadata} :
    decodeColumn value = .ok column ↔ ColumnShape value column :=
  ⟨columnShape_of_decodeColumn, ColumnShape.decodeColumn⟩

/-- The loop over the columns. -/
theorem mapM_decodeColumn {columns : List Json.Value} {metadata : List ColumnMetadata} :
    columns.mapM decodeColumn = .ok metadata ↔ List.Forall₂ ColumnShape columns metadata :=
  mapM_eq_ok.trans ⟨fun h => h.imp fun _ _ => decodeColumn_eq_ok.mp,
    fun h => h.imp fun _ _ => decodeColumn_eq_ok.mpr⟩

/-! ## Every text -/

/-- Bytes that are the UTF-8 form of a text. -/
def WellEncoded (text : Bytes) : Prop :=
  ∃ characters : List Char, text = characters.flatMap String.utf8EncodeChar

/-- With `YYJSON_READ_NUMBER_AS_RAW`, yyjson reads a JSON text into its value, in which a number
is its literal. -/
def ReadsJson (readers : JsonReaders) : Prop :=
  ∀ text value, WellEncoded text → Json.parse text = some value → readers.raw text = some value

/-- A response of success without an id in its headers, whose body is a JSON object with an
array `data`, and has neither a completion status nor an id. -/
structure RowsResponse (readers : JsonReaders) (response : HttpResponse)
    (root : List (Bytes × Json.Value)) (data : List Json.Value) : Prop where
  success : 200 ≤ response.status ∧ response.status < 300
  headers : headerId readers response.headers = none
  encoded : WellEncoded response.body
  body : Json.parse response.body = some (.object root)
  shape : ResultShape root
  data : root.lookup (ascii "data") = some (.array data)

section

variable {readers : JsonReaders} {response : HttpResponse} {root : List (Bytes × Json.Value)}
  {data : List Json.Value}

theorem RowsResponse.readsBody (hreaders : ReadsJson readers)
    (h : RowsResponse readers response root data) : ReadsBody readers response root :=
  ⟨h.success, h.headers, hreaders _ _ h.encoded h.body⟩

theorem optionalUnsigned_of_counted {object : List (Bytes × Json.Value)} {key : Bytes}
    {count : Option UInt64} (h : Counted object key count) :
    optionalUnsigned object key = .ok count := by
  unfold optionalUnsigned
  cases h with
  | absent hlookup => rw [hlookup]
  | present hlookup hdenotes =>
      rw [hlookup]
      simp only [tryUnsigned_eq_some.mpr hdenotes]

/-- Rows survive decoding.  The response of rows has these rows, its columns, the address of
the next chunk if it is a string, and the count.  A response with a spoiled row is refused. -/
theorem decode_rows (hreaders : ReadsJson readers) (h : RowsResponse readers response root data) :
    (∀ rows metadata count, RowsOf data rows →
      List.Forall₂ ColumnShape (columnsOf root) metadata →
      Counted root (ascii "returnedRows") count →
      decode readers response = .ok {
        state := .complete, metadata
        chunk := { rows, nextUrl := (stringMember root (ascii "next")).getD [] }
        returnedRows := count.getD 0, hasReturnedRows := count.isSome }) ∧
    ((∃ row ∈ data, SpoiledRow row) → Refused (decode readers response)) := by
  rw [decode_of_readsBody (h.readsBody hreaders)]
  constructor
  · intro rows metadata count hrows hcolumns hcount
    rw [decodeBody_of_resultShape h.shape, decodeResult, mapM_decodeColumn.mpr hcolumns, h.data]
    show (data.mapM decodeRow >>= _) = _
    rw [mapM_decodeRow.mpr hrows]
    show (optionalUnsigned root (ascii "returnedRows") >>= _) = _
    rw [optionalUnsigned_of_counted hcount]
    rfl
  · rintro ⟨row, hmem, hspoiled⟩
    refine refused_of_not_ok fun result hresult => ?_
    rw [decodeBody_of_resultShape h.shape] at hresult
    obtain ⟨metadata, -, hrest⟩ := except_bind_eq_ok.mp hresult
    rw [h.data] at hrest
    obtain ⟨rows, hrows, -⟩ := except_bind_eq_ok.mp hrest
    obtain ⟨cells, hcells⟩ := exists_of_mapM_eq_ok hrows hmem
    exact hspoiled.decodeRow cells hcells

end

/-- A table with a cell of each kind, and with an empty row. -/
def sampleRows : List (List Cell) :=
  [[none, some (ascii "true"), some (ascii "-12345678901234567890.500e-3"),
    some (ascii "a\"\nb")], []]

/-- Its document. -/
def sampleRoot : List (Bytes × Json.Value) := [
  (ascii "data", .array [.array [.null, .bool true, .number (ascii "-12345678901234567890.500e-3"),
    .string (ascii "a\"\nb")], .array []]),
  (ascii "next", .string (ascii "/api/v3/query/q/rows?offset=2"))]

theorem sampleRoot_readable : Json.Readable (.object sampleRoot) := by
  have hparts : Json.NumberParts (ascii "-12345678901234567890.500e-3") [45]
      (ascii "12345678901234567890") (46 :: ascii "500") (101 :: 45 :: ascii "3") :=
    ⟨by decide, .inr rfl, .digits (by decide +kernel) (by decide +kernel),
      .digits (by decide) (by decide +kernel),
      .signed (.inr rfl) (.inr rfl) (by decide) (by decide +kernel)⟩
  refine .object fun member hmember => ?_
  simp only [sampleRoot, List.mem_cons, List.not_mem_nil, or_false] at hmember
  rcases hmember with rfl | rfl
  · refine .array fun row hrow => ?_
    simp only [List.mem_cons, List.not_mem_nil, or_false] at hrow
    rcases hrow with rfl | rfl
    · refine .array fun cell hcell => ?_
      simp only [List.mem_cons, List.not_mem_nil, or_false] at hcell
      rcases hcell with rfl | rfl | rfl | rfl
      · exact .null
      · exact .bool true
      · exact .number hparts.literal
      · exact .string _
    · exact .array nofun
  · exact .string _

/-- The document, as it is sent. -/
def sampleResponse : HttpResponse where
  status := 200
  body := Json.write (.object sampleRoot)

theorem decode_rows_sample :
    decode ⟨Json.parse, Json.parse⟩ sampleResponse = .ok {
      state := .complete
      chunk := { rows := sampleRows, nextUrl := ascii "/api/v3/query/q/rows?offset=2" } } := by
  have hresponse : RowsResponse ⟨Json.parse, Json.parse⟩ sampleResponse sampleRoot _ := {
    success := by decide
    headers := rfl
    encoded := ⟨sampleResponse.body.map fun c => Char.ofNat c.toNat, by decide +kernel⟩
    body := Json.parse_write sampleRoot_readable
    shape := ⟨rfl, rfl⟩
    data := rfl }
  refine (decode_rows (fun _ _ _ h => h) hresponse).1 sampleRows [] none ?_ .nil (.absent rfl)
  refine .cons (.array ?_) (.cons (.array .nil) .nil)
  exact .cons .null (.cons .true (.cons (.number _) (.cons (.string _) .nil)))

end Data360.JsonQueryResponseCodec
