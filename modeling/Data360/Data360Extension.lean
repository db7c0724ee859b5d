import Data360.TypeMapping
import Data360.QueryApi.Model

/-!
# The types of the two scan paths

`src/data360_extension.cpp` gives a column its DuckDB type twice: binding maps
the type string with `mapData360Type` and `bindLogicalType`, and a scan of
Arrow chunks asks `expectedArrowSchema` for the Arrow field, whose format
(`src/arrow_ipc_chunk_reader.cpp`) DuckDB imports as a type of its own.

DuckDB's import of an Arrow format is not part of the repository.  It is a
function here, and `ArrowImport` says what is relied on.

* `columnAgrees_iff` finds the columns on which the two paths agree.
* `scan_types_agree_iff` is the same for a bound metadata list.
-/

namespace Data360

open Lib.ByteString

/-! ## Binding -/

/-- The `LogicalType`s that the extension binds. -/
inductive LogicalType where
  | varchar
  | boolean
  | date
  | timestamp
  | timestampTz
  | integer
  | bigint
  | double
  | decimal (width scale : UInt8)
  deriving DecidableEq, Repr

/-- What `strtoul` makes of a sign and a string of digits, cut to an
`unsigned int`. -/
def unsignedOf (negative : Bool) (digits : Bytes) : UInt32 :=
  let value := min (ofDecimal digits) (2 ^ 64 - 1)
  if negative then 0 - UInt32.ofNat value else UInt32.ofNat value

/-- The conversion `%u` of `sscanf`: white space, an optional sign, digits. -/
def scanUnsigned (value : Bytes) : Option (UInt32 × Bytes) := do
  let value := value.dropWhile isSpace
  let (negative, value) := match value with
    | 45 :: rest => (true, rest)
    | 43 :: rest => (false, rest)
    | _ => (false, value)
  let (digits, rest) ← takeDigits value
  some (unsignedOf negative digits, rest)

/-- `std::sscanf(value, "DECIMAL(%u,%u)", &width, &scale) == 2`. -/
def scanDecimal (value : Bytes) : Option (UInt32 × UInt32) := do
  let rest ← afterLiteral (ascii "DECIMAL(") value
  let (width, rest) ← scanUnsigned rest
  let rest ← afterLiteral (ascii ",") rest
  let (scale, _) ← scanUnsigned rest
  some (width, scale)

/-- `BindLogicalType`. -/
def bindLogicalType (mapping : TypeMapping) : Except String LogicalType :=
  if mapping.duckdbType = ascii "VARCHAR" then .ok .varchar
  else if mapping.duckdbType = ascii "BOOLEAN" then .ok .boolean
  else if mapping.duckdbType = ascii "DATE" then .ok .date
  else if mapping.duckdbType = ascii "TIMESTAMP" then .ok .timestamp
  else if mapping.duckdbType = ascii "TIMESTAMPTZ" then .ok .timestampTz
  else if mapping.duckdbType = ascii "INTEGER" then .ok .integer
  else if mapping.duckdbType = ascii "BIGINT" then .ok .bigint
  else if mapping.duckdbType = ascii "DOUBLE" then .ok .double
  else
    match scanDecimal mapping.duckdbType with
    | some (width, scale) =>
        if width ≤ 38 ∧ scale ≤ width then .ok (.decimal width.toUInt8 scale.toUInt8)
        else .error "Data 360 metadata contained an unsupported type"
    | none => .error "Data 360 metadata contained an unsupported type"

/-- The mapping that binding chooses for a column. -/
def columnMapping (column : ColumnMetadata) : TypeMapping :=
  if lower column.type = ascii "numeric" ∧ column.hasPrecision ∧ column.hasScale then
    mapData360Type (decimalType column.precision.toNat column.scale.toNat)
  else mapData360Type column.type

/-- One turn of the loop of `Data360QueryBind`. -/
def bindColumn (column : ColumnMetadata) : Except String LogicalType :=
  if column.name = [] then .error "Data 360 query returned an unnamed column"
  else bindLogicalType (columnMapping column)

/-- `Data360BindData`, without the statement and the credential. -/
structure Data360BindData where
  types : List LogicalType
  names : List Bytes
  metadata : List ColumnMetadata
  deriving DecidableEq, Repr

/-- `Data360QueryBind`, from the metadata that `ExecuteMetadata` returned. -/
def data360QueryBind (metadata : List ColumnMetadata) : Except String Data360BindData :=
  if metadata = [] then .error "Data 360 query returned no metadata"
  else do
    let types ← metadata.mapM bindColumn
    return { types := types, names := metadata.map (·.name), metadata := metadata }

/-! ## The Arrow path -/

/-- `ArrowFieldKind`. -/
inductive ArrowFieldKind where
  | bool
  | int32
  | int64
  | double
  | utf8
  | date32
  | date64
  | timestampUsUtc
  | decimal128
  deriving DecidableEq, Repr

/-- `ExpectedArrowField`. -/
structure ExpectedArrowField where
  name : Bytes
  kind : ArrowFieldKind
  nullable : Bool
  precision : UInt8 := 0
  scale : UInt8 := 0
  deriving DecidableEq, Repr

/-- One turn of the loop of `ExpectedArrowSchema`. -/
def expectedArrowField (column : ColumnMetadata) : Except String ExpectedArrowField :=
  let field : ExpectedArrowField := ⟨column.name, .utf8, column.nullable, 0, 0⟩
  let type := lower column.type
  if type = ascii "bool" ∨ type = ascii "boolean" then .ok { field with kind := .bool }
  else if type = ascii "integer" ∨ type = ascii "int" then .ok { field with kind := .int32 }
  else if type = ascii "bigint" then .ok { field with kind := .int64 }
  else if type = ascii "double" then .ok { field with kind := .double }
  else if type = ascii "varchar" ∨ type = ascii "string" then .ok { field with kind := .utf8 }
  else if type = ascii "date" then .ok { field with kind := .date64 }
  else if type = ascii "timestamp" ∨ type = ascii "timestamptz" ∨
      type = ascii "timestamp_with_time_zone" then .ok { field with kind := .timestampUsUtc }
  else if type = ascii "numeric" then
    if ¬ column.hasPrecision ∨ ¬ column.hasScale then
      .error "Data 360 numeric metadata was incomplete"
    else
      .ok { field with kind := .decimal128, precision := column.precision, scale := column.scale }
  else .error "Data 360 Arrow metadata contained an unsupported type"

/-- `ExpectedArrowSchema`. -/
def expectedArrowSchema (metadata : List ColumnMetadata) :
    Except String (List ExpectedArrowField) :=
  metadata.mapM expectedArrowField

/-- The Arrow format of a decimal. -/
def decimalFormat (precision scale : UInt8) : Bytes :=
  ascii "d:" ++ toDecimal precision.toNat ++ ascii "," ++ toDecimal scale.toNat

/-- `ExpectedFormat`. -/
def expectedFormat (field : ExpectedArrowField) : Bytes :=
  match field.kind with
  | .bool => ascii "b"
  | .int32 => ascii "i"
  | .int64 => ascii "l"
  | .double => ascii "g"
  | .utf8 => ascii "u"
  | .date32 => ascii "tdD"
  | .date64 => ascii "tdm"
  | .timestampUsUtc => ascii "tsu:UTC"
  | .decimal128 => decimalFormat field.precision field.scale

/-- `FormatMatches`, of a format that is there. -/
def formatMatches (field : ExpectedArrowField) (actual : Bytes) : Bool :=
  if field.kind = .timestampUsUtc then
    actual = ascii "tsu:UTC" || actual = ascii "tsu:Utc"
  else expectedFormat field = actual

/-! ## Agreement -/

/-- What DuckDB's import of Arrow formats is relied on for.  A decimal format
with a width or a scale that DuckDB does not have may have no type. -/
structure ArrowImport (importType : Bytes → Option LogicalType) : Prop where
  boolean : importType (ascii "b") = some .boolean
  integer : importType (ascii "i") = some .integer
  bigint : importType (ascii "l") = some .bigint
  double : importType (ascii "g") = some .double
  varchar : importType (ascii "u") = some .varchar
  date : importType (ascii "tdm") = some .date
  timestampTz : ∀ zone, zone ≠ [] → importType (ascii "tsu:" ++ zone) = some .timestampTz
  decimal : ∀ precision scale : UInt8, 1 ≤ precision → precision ≤ 38 → scale ≤ precision →
    importType (decimalFormat precision scale) = some (.decimal precision scale)
  decimal_only : ∀ (precision scale : UInt8) (type : LogicalType),
    importType (decimalFormat precision scale) = some type → type = .decimal precision scale

/-- Both paths give the column the type `type`, and so does every format that
passes for the expected one. -/
def ColumnAgrees (importType : Bytes → Option LogicalType) (column : ColumnMetadata)
    (type : LogicalType) : Prop :=
  ∃ field, expectedArrowField column = .ok field ∧
    importType (expectedFormat field) = some type ∧
    ∀ actual, formatMatches field actual = true → importType actual = some type

/-- `ExpectedArrowSchema` does not throw, the expected formats have the bound
types, and so do the formats of every response that passes for the expected
one: `validator.Types() != types` does not hold. -/
def ScanAgrees (importType : Bytes → Option LogicalType) (metadata : List ColumnMetadata)
    (types : List LogicalType) : Prop :=
  ∃ expected, expectedArrowSchema metadata = .ok expected ∧
    expected.map (fun field => importType (expectedFormat field)) = types.map some ∧
    ∀ actual : List Bytes,
      List.Forall₂ (fun field format => formatMatches field format = true) expected actual →
      actual.map importType = types.map some

/-- The type strings, in lower case, that both paths map alike. -/
def sharedTypes : List Bytes :=
  [ascii "bool", ascii "boolean", ascii "integer", ascii "int", ascii "bigint", ascii "double",
    ascii "varchar", ascii "string", ascii "date", ascii "timestamptz",
    ascii "timestamp_with_time_zone"]

/-- The column has a shared type, or is a decimal that DuckDB has. -/
def Shared (column : ColumnMetadata) : Prop :=
  lower column.type ∈ sharedTypes ∨
    (lower column.type = ascii "numeric" ∧ column.hasPrecision = true ∧ column.hasScale = true ∧
      1 ≤ column.precision ∧ column.precision ≤ 38 ∧ column.scale ≤ column.precision)

instance (column : ColumnMetadata) : Decidable (Shared column) :=
  inferInstanceAs (Decidable (_ ∨ _))

/-! ## What binding makes of a type -/

theorem mapData360Type_of_lower {type literal : Bytes} (hliteral : upper literal = literal)
    (h : lower type = lower literal) : mapData360Type type = mapNormalized literal := by
  rw [mapData360Type, (upper_eq_iff hliteral).mpr h]

/-- A column whose type is the literal, in any case, is bound as the literal. -/
theorem bindColumn_of_lower {column : ColumnMetadata} {literal : Bytes} (hname : column.name ≠ [])
    (hliteral : upper literal = literal) (hnumeric : lower literal ≠ ascii "numeric")
    (h : lower column.type = lower literal) :
    bindColumn column = bindLogicalType (mapNormalized literal) := by
  have hother : ¬ (lower column.type = ascii "numeric" ∧ column.hasPrecision ∧
      column.hasScale) := fun hnum => hnumeric (h.symm.trans hnum.1)
  rw [bindColumn, if_neg hname, columnMapping, if_neg hother, mapData360Type_of_lower hliteral h]

/-- `%u` reads the number that a string of digits denotes. -/
theorem scanUnsigned_digits {digits : Bytes} (h : Digits digits)
    (hsmall : ofDecimal digits < 2 ^ 32)
    {c : UInt8} (hc : isDigit c = false) (rest : Bytes) :
    scanUnsigned (digits ++ c :: rest) = some (UInt32.ofNat (ofDecimal digits), c :: rest) := by
  have htake : takeDigits (digits ++ c :: rest) = some (digits, c :: rest) :=
    takeDigits_append h hc
  have hvalue : unsignedOf false digits = UInt32.ofNat (ofDecimal digits) := by
    have hmin : min (ofDecimal digits) (2 ^ 64 - 1) = ofDecimal digits := by omega
    simp only [unsignedOf, hmin, Bool.false_eq_true, if_false]
  obtain ⟨d, more, hd⟩ := List.exists_cons_of_ne_nil h.nonempty
  have hdigit : isDigit d = true := h.decimal d (hd ▸ List.mem_cons_self)
  have hspace : isSpace d = false := forall_byte
    (P := fun c => isDigit c = true → isSpace c = false) (by decide +kernel) d hdigit
  have hminus : d ≠ 45 := by
    intro h
    rw [h] at hdigit
    exact absurd hdigit (by decide)
  have hplus : d ≠ 43 := by
    intro h
    rw [h] at hdigit
    exact absurd hdigit (by decide)
  rw [hd, List.cons_append] at htake
  simp only [scanUnsigned, hd, List.cons_append, List.dropWhile_cons, hspace, Bool.false_eq_true,
    if_false]
  rw [hd] at hvalue
  split
  · rename_i heq
    exact absurd (List.cons.inj heq).1 hminus
  · rename_i heq
    exact absurd (List.cons.inj heq).1 hplus
  · simp only [htake, Option.bind_eq_bind, Option.bind_some, hvalue]

theorem scanDecimal_decimalText {precision scale : Bytes} (hprecision : Digits precision)
    (hscale : Digits scale) (hp : ofDecimal precision < 2 ^ 32) (hs : ofDecimal scale < 2 ^ 32) :
    scanDecimal (decimalText precision scale)
      = some (UInt32.ofNat (ofDecimal precision), UInt32.ofNat (ofDecimal scale)) := by
  have hcomma : ascii "," = [44] := by decide
  have hclose : ascii ")" = [41] := by decide
  have hfirst : scanUnsigned (precision ++ (ascii "," ++ (scale ++ ascii ")")))
      = some (UInt32.ofNat (ofDecimal precision), ascii "," ++ (scale ++ ascii ")")) := by
    rw [hcomma]
    exact scanUnsigned_digits hprecision hp (by decide) _
  have hsecond : scanUnsigned (scale ++ ascii ")")
      = some (UInt32.ofNat (ofDecimal scale), ascii ")") := by
    rw [hclose]
    exact scanUnsigned_digits hscale hs (by decide) _
  simp only [scanDecimal, decimalText, List.append_assoc, afterLiteral_append, hfirst, hsecond,
    Option.bind_eq_bind, Option.bind_some]

/-- A decimal text that DuckDB has a type for is bound as its numbers. -/
theorem bindLogicalType_decimalText {mapping : TypeMapping} {precision scale : Bytes}
    (hprecision : Digits precision) (hscale : Digits scale)
    (h : mapping.duckdbType = decimalText precision scale) (hp : ofDecimal precision ≤ 38)
    (hs : ofDecimal scale ≤ ofDecimal precision) :
    bindLogicalType mapping = .ok
      (.decimal (UInt8.ofNat (ofDecimal precision)) (UInt8.ofNat (ofDecimal scale))) := by
  have hscan := scanDecimal_decimalText hprecision hscale (by omega) (by omega)
  have htoNat {n : Nat} (hn : n ≤ 38) : (UInt32.ofNat n).toNat = n :=
    UInt32.toNat_ofNat_of_lt' (by rw [UInt32.size]; omega)
  have hwidth : UInt32.ofNat (ofDecimal precision) ≤ 38 := by
    rw [UInt32.le_iff_toNat_le, htoNat hp]
    exact hp
  have hle : UInt32.ofNat (ofDecimal scale) ≤ UInt32.ofNat (ofDecimal precision) := by
    rw [UInt32.le_iff_toNat_le, htoNat hp, htoNat (hs.trans hp)]
    exact hs
  have hcut (n : Nat) : (UInt32.ofNat n).toUInt8 = UInt8.ofNat n := by simp
  have hne : ∀ literal ∈ [ascii "VARCHAR", ascii "BOOLEAN", ascii "DATE", ascii "TIMESTAMP",
      ascii "TIMESTAMPTZ", ascii "INTEGER", ascii "BIGINT", ascii "DOUBLE"],
      decimalText precision scale ≠ literal := by
    intro literal hliteral
    have hnone : ∀ literal ∈ [ascii "VARCHAR", ascii "BOOLEAN", ascii "DATE", ascii "TIMESTAMP",
      ascii "TIMESTAMPTZ", ascii "INTEGER", ascii "BIGINT", ascii "DOUBLE"],
      afterLiteral (ascii "DECIMAL(") literal = none := by decide
    simp only [decimalText, List.append_assoc]
    exact append_ne (hnone literal hliteral)
  simp only [List.forall_mem_cons] at hne
  simp only [bindLogicalType, h, hne, if_false, hscan, hwidth, hle, hcut, and_self, if_true]

/-- A decimal that DuckDB has is bound as itself. -/
theorem bindLogicalType_decimal {mapping : TypeMapping} {precision scale : UInt8}
    (h : mapping.duckdbType = decimalType precision.toNat scale.toNat)
    (hp : precision ≤ 38) (hs : scale ≤ precision) :
    bindLogicalType mapping = .ok (.decimal precision scale) := by
  have hbound := bindLogicalType_decimalText (digits_toDecimal precision.toNat)
    (digits_toDecimal scale.toNat) h
  simp only [ofDecimal_toDecimal, UInt8.ofNat_toNat] at hbound
  exact hbound (UInt8.le_iff_toNat_le.mp hp) (UInt8.le_iff_toNat_le.mp hs)

/-- How a numeric column with both numbers is bound. -/
theorem bindColumn_numeric {column : ColumnMetadata} (hname : column.name ≠ [])
    (h : lower column.type = ascii "numeric") (hp : column.hasPrecision = true)
    (hs : column.hasScale = true) :
    bindColumn column =
      if 1 ≤ column.precision ∧ column.precision ≤ 38 ∧ column.scale ≤ column.precision then
        .ok (.decimal column.precision column.scale)
      else .ok .varchar := by
  have hpb := column.precision.toNat_lt
  have hsb := column.scale.toNat_lt
  have hmap : (mapData360Type (decimalType column.precision.toNat column.scale.toNat)).duckdbType
      = _ := mapData360Type_decimal (by omega) (by omega)
  have hmapping : columnMapping column
      = mapData360Type (decimalType column.precision.toNat column.scale.toNat) := by
    rw [columnMapping, if_pos ⟨h, hp, hs⟩]
  rw [bindColumn, if_neg hname, hmapping]
  split
  · rename_i hvalid
    obtain ⟨hone, hmax, hle⟩ := hvalid
    have hone' := UInt8.le_iff_toNat_le.mp hone
    have hmax' := UInt8.le_iff_toNat_le.mp hmax
    have hle' := UInt8.le_iff_toNat_le.mp hle
    rw [if_neg (by simp at hone' hmax'; omega)] at hmap
    exact bindLogicalType_decimal hmap hmax hle
  · rename_i hinvalid
    have hlossy : column.precision.toNat = 0 ∨ column.precision.toNat > 38 ∨
        column.scale.toNat > column.precision.toNat := by
      simp only [UInt8.le_iff_toNat_le] at hinvalid
      simp at hinvalid
      omega
    rw [if_pos hlossy] at hmap
    rw [bindLogicalType, if_pos hmap]

/-! ## The columns on which the paths agree -/

variable {importType : Bytes → Option LogicalType}

/-- A format that passes for the expected one has its type. -/
theorem import_of_formatMatches (himport : ArrowImport importType) {field : ExpectedArrowField}
    {actual : Bytes} (h : formatMatches field actual = true) :
    importType actual = importType (expectedFormat field) := by
  unfold formatMatches at h
  split at h
  · rename_i hkind
    have hutc : expectedFormat field = ascii "tsu:" ++ ascii "UTC" := by
      rw [expectedFormat, hkind]
      rfl
    rw [hutc, himport.timestampTz _ (by decide)]
    simp only [Bool.or_eq_true, decide_eq_true_eq] at h
    rcases h with rfl | rfl
    · exact himport.timestampTz (ascii "UTC") (by decide)
    · exact himport.timestampTz (ascii "Utc") (by decide)
  · rw [of_decide_eq_true h]

/-- The two paths agree when the expected field has the bound type. -/
theorem columnAgrees_of_field (himport : ArrowImport importType) {column : ColumnMetadata}
    {field : ExpectedArrowField} {type : LogicalType}
    (hfield : expectedArrowField column = .ok field)
    (htype : importType (expectedFormat field) = some type) :
    ColumnAgrees importType column type :=
  ⟨field, hfield, htype, fun _ hactual => (import_of_formatMatches himport hactual).trans htype⟩

/-- The shared types as binding looks them up, with the kind that the Arrow
path expects and the bound type. -/
def sharedTable : List (Bytes × ArrowFieldKind × LogicalType) :=
  [(ascii "BOOL", .bool, .boolean), (ascii "BOOLEAN", .bool, .boolean),
    (ascii "INTEGER", .int32, .integer), (ascii "INT", .int32, .integer),
    (ascii "BIGINT", .int64, .bigint), (ascii "DOUBLE", .double, .double),
    (ascii "VARCHAR", .utf8, .varchar), (ascii "STRING", .utf8, .varchar),
    (ascii "DATE", .date64, .date), (ascii "TIMESTAMPTZ", .timestampUsUtc, .timestampTz),
    (ascii "TIMESTAMP_WITH_TIME_ZONE", .timestampUsUtc, .timestampTz)]

theorem sharedTable_lower : sharedTable.map (fun row => lower row.1) = sharedTypes := by decide

/-- Binding gives every row of the table its type. -/
theorem sharedTable_bind : ∀ row ∈ sharedTable, upper row.1 = row.1 ∧
    lower row.1 ≠ ascii "numeric" ∧
    bindLogicalType (mapNormalized row.1) = .ok row.2.2 := by decide

/-- The Arrow path gives every row of the table its kind. -/
theorem expectedArrowField_of_row {column : ColumnMetadata} {literal : Bytes}
    {kind : ArrowFieldKind} {type : LogicalType} (hrow : (literal, kind, type) ∈ sharedTable)
    (h : lower column.type = lower literal) :
    expectedArrowField column = .ok ⟨column.name, kind, column.nullable, 0, 0⟩ := by
  simp only [sharedTable, List.mem_cons, List.not_mem_nil, or_false, Prod.mk.injEq] at hrow
  rcases hrow with h' | h' | h' | h' | h' | h' | h' | h' | h' | h' | h' <;>
  · obtain ⟨rfl, rfl, -⟩ := h'
    rw [expectedArrowField, h]
    rfl

/-- DuckDB imports the format of every row of the table as its type. -/
theorem import_of_row (himport : ArrowImport importType) {literal : Bytes}
    {kind : ArrowFieldKind} {type : LogicalType} (hrow : (literal, kind, type) ∈ sharedTable)
    {field : ExpectedArrowField} (hkind : field.kind = kind) :
    importType (expectedFormat field) = some type := by
  have hutc : importType (ascii "tsu:UTC") = some .timestampTz :=
    himport.timestampTz (ascii "UTC") (by decide)
  simp only [sharedTable, List.mem_cons, List.not_mem_nil, or_false, Prod.mk.injEq] at hrow
  rcases hrow with h | h | h | h | h | h | h | h | h | h | h <;>
  · obtain ⟨-, rfl, rfl⟩ := h
    simp only [expectedFormat, hkind, himport.boolean, himport.integer, himport.bigint,
      himport.double, himport.varchar, himport.date, hutc]

theorem columnAgrees_of_shared (himport : ArrowImport importType) {column : ColumnMetadata}
    {type : LogicalType} (hbind : bindColumn column = .ok type) (hname : column.name ≠ [])
    (hshared : Shared column) : ColumnAgrees importType column type := by
  rcases hshared with hplain | ⟨hnumeric, hp, hs, hone, hmax, hle⟩
  · rw [← sharedTable_lower] at hplain
    obtain ⟨⟨literal, kind, bound⟩, hrow, hlower⟩ := List.mem_map.mp hplain
    obtain ⟨hupper, hother, hbound⟩ := sharedTable_bind _ hrow
    rw [bindColumn_of_lower hname hupper hother hlower.symm, hbound] at hbind
    cases hbind
    exact columnAgrees_of_field himport (expectedArrowField_of_row hrow hlower.symm)
      (import_of_row himport hrow rfl)
  · rw [bindColumn_numeric hname hnumeric hp hs, if_pos ⟨hone, hmax, hle⟩] at hbind
    cases hbind
    have hfield : expectedArrowField column = .ok
        ⟨column.name, .decimal128, column.nullable, column.precision, column.scale⟩ := by
      rw [expectedArrowField, hnumeric, hp, hs]
      rfl
    exact columnAgrees_of_field himport hfield (himport.decimal _ _ hone hmax hle)

/-- The types that the Arrow path takes: the shared ones, `timestamp`, and a
complete `numeric`. -/
theorem type_of_expectedArrowField {column : ColumnMetadata} {field : ExpectedArrowField}
    (h : expectedArrowField column = .ok field) :
    lower column.type ∈ sharedTypes ∨
    (lower column.type = ascii "timestamp" ∧ field.kind = .timestampUsUtc) ∨
    (lower column.type = ascii "numeric" ∧ column.hasPrecision = true ∧ column.hasScale = true ∧
      expectedFormat field = decimalFormat column.precision column.scale) := by
  have hmem : ∀ {type : Bytes}, lower column.type = type → type ∈ sharedTypes →
      lower column.type ∈ sharedTypes := fun heq => heq.symm ▸ id
  unfold expectedArrowField at h
  simp only at h
  split_ifs at h with h1 h2 h3 h4 h5 h6 h7 h8 h9
  · rcases h1 with h1 | h1 <;> exact .inl (hmem h1 (by decide))
  · rcases h2 with h2 | h2 <;> exact .inl (hmem h2 (by decide))
  · exact .inl (hmem h3 (by decide))
  · exact .inl (hmem h4 (by decide))
  · rcases h5 with h5 | h5 <;> exact .inl (hmem h5 (by decide))
  · exact .inl (hmem h6 (by decide))
  · cases h
    rcases h7 with h7 | h7 | h7
    · exact .inr (.inl ⟨h7, rfl⟩)
    · exact .inl (hmem h7 (by decide))
    · exact .inl (hmem h7 (by decide))
  · cases h
    simp only [not_or, Bool.not_eq_true, Bool.not_eq_false] at h9
    exact .inr (.inr ⟨h8, h9.1, h9.2, rfl⟩)

theorem shared_of_columnAgrees (himport : ArrowImport importType) {column : ColumnMetadata}
    {type : LogicalType} (hbind : bindColumn column = .ok type) (hname : column.name ≠ [])
    (hagrees : ColumnAgrees importType column type) : Shared column := by
  obtain ⟨field, hfield, htype, -⟩ := hagrees
  rcases type_of_expectedArrowField hfield with hplain | ⟨hlower, hkind⟩ | ⟨hlower, hp, hs, hformat⟩
  · exact .inl hplain
  · -- `timestamp` is bound without a zone, and scanned with one
    have hbound : bindColumn column = bindLogicalType (mapNormalized (ascii "TIMESTAMP")) :=
      bindColumn_of_lower hname (by decide) (by decide) hlower
    rw [hbound,
      show bindLogicalType (mapNormalized (ascii "TIMESTAMP")) = .ok .timestamp by decide] at hbind
    cases hbind
    have hutc : expectedFormat field = ascii "tsu:" ++ ascii "UTC" := by
      rw [expectedFormat, hkind]
      rfl
    rw [hutc, himport.timestampTz _ (by decide)] at htype
    cases htype
  · rw [bindColumn_numeric hname hlower hp hs] at hbind
    rw [hformat] at htype
    split at hbind
    · rename_i hvalid
      exact .inr ⟨hlower, hp, hs, hvalid⟩
    · -- a decimal that DuckDB does not have is bound as text
      cases hbind
      cases himport.decimal_only _ _ _ htype

/-- The columns on which the two paths agree. -/
theorem columnAgrees_iff (himport : ArrowImport importType) {column : ColumnMetadata}
    {type : LogicalType} (hbind : bindColumn column = .ok type) :
    ColumnAgrees importType column type ↔ Shared column := by
  have hname : column.name ≠ [] := by
    intro hname
    rw [bindColumn, if_pos hname] at hbind
    cases hbind
  exact ⟨shared_of_columnAgrees himport hbind hname, columnAgrees_of_shared himport hbind hname⟩

/-! ## Metadata lists -/

/-- Binding maps every column and keeps them in order. -/
theorem data360QueryBind_ok {metadata : List ColumnMetadata} {bind : Data360BindData}
    (h : data360QueryBind metadata = .ok bind) :
    List.Forall₂ (fun column type => bindColumn column = .ok type) metadata bind.types := by
  unfold data360QueryBind at h
  split at h
  · cases h
  · cases htypes : metadata.mapM bindColumn with
    | error e =>
        rw [htypes] at h
        cases h
    | ok types =>
        rw [htypes] at h
        cases h
        exact Lib.mapM_eq_ok.mp htypes

/-- The paths agree on a list when they agree on each column. -/
theorem scanAgrees_iff_columns (himport : ArrowImport importType)
    {metadata : List ColumnMetadata} {types : List LogicalType} :
    ScanAgrees importType metadata types ↔
      List.Forall₂ (ColumnAgrees importType) metadata types := by
  constructor
  · intro h
    obtain ⟨expected, hschema, htypes, -⟩ := h
    have hfields := Lib.mapM_eq_ok.mp hschema
    clear hschema
    induction hfields generalizing types with
    | nil =>
        rw [List.map_nil, eq_comm, List.map_eq_nil_iff] at htypes
        exact htypes ▸ .nil
    | cons hfield _ ih =>
        cases types with
        | nil => cases htypes
        | cons type types =>
            obtain ⟨hhead, htail⟩ := List.cons.inj htypes
            exact .cons (columnAgrees_of_field himport hfield hhead) (ih htail)
  · intro h
    induction h with
    | nil =>
        refine ⟨[], rfl, rfl, fun actual hactual => ?_⟩
        rw [List.forall₂_nil_left_iff.mp hactual]
        rfl
    | cons hcolumn _ ih =>
        obtain ⟨field, hfield, htype, hactual⟩ := hcolumn
        obtain ⟨expected, hschema, htypes, hrest⟩ := ih
        refine ⟨field :: expected,
          Lib.mapM_eq_ok.mpr (.cons hfield (Lib.mapM_eq_ok.mp hschema)), ?_, ?_⟩
        · rw [List.map_cons, List.map_cons, htype, htypes]
        · intro formats hformats
          cases hformats with
          | cons hfirst hothers =>
              rw [List.map_cons, List.map_cons, hactual _ hfirst, hrest _ hothers]

/-- The two scan paths agree on a bound metadata list exactly when every
column has a shared type or is a decimal that DuckDB has. -/
theorem scan_types_agree_iff (himport : ArrowImport importType) {metadata : List ColumnMetadata}
    {bind : Data360BindData} (hbind : data360QueryBind metadata = .ok bind) :
    ScanAgrees importType metadata bind.types ↔ ∀ column ∈ metadata, Shared column := by
  rw [scanAgrees_iff_columns himport]
  have hcolumns := data360QueryBind_ok hbind
  clear hbind
  generalize bind.types = types at hcolumns
  induction hcolumns with
  | nil => simp
  | cons hcolumn _ ih =>
      rw [List.forall₂_cons, List.forall_mem_cons, columnAgrees_iff himport hcolumn]
      exact and_congr_right fun _ => ih

/-! ## A concrete import -/

/-- The formats that are imported whole. -/
def fixedFormats : List Bytes :=
  [ascii "b", ascii "i", ascii "l", ascii "g", ascii "u", ascii "tdm"]

/-- The import of the formats of `ExpectedFormat`, as DuckDB does it. -/
def importFormat (format : Bytes) : Option LogicalType :=
  if format = ascii "b" then some .boolean
  else if format = ascii "i" then some .integer
  else if format = ascii "l" then some .bigint
  else if format = ascii "g" then some .double
  else if format = ascii "u" then some .varchar
  else if format = ascii "tdm" then some .date
  else
    match afterLiteral (ascii "tsu:") format with
    | some zone => if zone = [] then some .timestamp else some .timestampTz
    | none => do
        let rest ← afterLiteral (ascii "d:") format
        let (precision, rest) ← takeDigits rest
        let scale ← afterLiteral (ascii ",") rest
        if ofDecimal precision ≤ 38 then
          some (.decimal (UInt8.ofNat (ofDecimal precision)) (UInt8.ofNat (ofDecimal scale)))
        else none

theorem importFormat_decimal (precision scale : UInt8) :
    importFormat (decimalFormat precision scale) =
      if precision ≤ 38 then some (.decimal precision scale) else none := by
  have hcomma : ascii "," = [44] := by decide
  have htake : takeDigits (toDecimal precision.toNat ++ (ascii "," ++ toDecimal scale.toNat))
      = some (toDecimal precision.toNat, ascii "," ++ toDecimal scale.toNat) := by
    rw [hcomma]
    exact takeDigits_append (digits_toDecimal _) (by decide)
  have hzone : afterLiteral (ascii "tsu:") (decimalFormat precision scale) = none := by
    simp [afterLiteral, decimalFormat, ascii, List.isPrefixOf]
  have hne : ∀ format ∈ fixedFormats, decimalFormat precision scale ≠ format := by
    intro format hformat
    have hnone : ∀ format ∈ fixedFormats, afterLiteral (ascii "d:") format = none := by decide
    simp only [decimalFormat, List.append_assoc]
    exact append_ne (hnone format hformat)
  have hle : precision.toNat ≤ 38 ↔ precision ≤ 38 := by
    rw [UInt8.le_iff_toNat_le]
    rfl
  simp only [fixedFormats, List.forall_mem_cons] at hne
  simp only [importFormat, hne, if_false, hzone]
  simp only [decimalFormat, List.append_assoc, afterLiteral_append, htake, Option.bind_eq_bind,
    Option.bind_some, ofDecimal_toDecimal, hle, UInt8.ofNat_toNat]

theorem importFormat_zone {zone : Bytes} (hzone : zone ≠ []) :
    importFormat (ascii "tsu:" ++ zone) = some .timestampTz := by
  have hne : ∀ format ∈ fixedFormats, ascii "tsu:" ++ zone ≠ format := by
    intro format hformat
    have hnone : ∀ format ∈ fixedFormats, afterLiteral (ascii "tsu:") format = none := by decide
    exact append_ne (hnone format hformat)
  simp only [fixedFormats, List.forall_mem_cons] at hne
  simp only [importFormat, hne, if_false, afterLiteral_append, hzone]

theorem importFormat_table : ArrowImport importFormat where
  boolean := by decide
  integer := by decide
  bigint := by decide
  double := by decide
  varchar := by decide
  date := by decide
  timestampTz := fun _ hzone => importFormat_zone hzone
  decimal := fun precision scale _ hmax _ => by rw [importFormat_decimal, if_pos hmax]
  decimal_only := by
    intro precision scale type h
    rw [importFormat_decimal] at h
    split at h
    · exact (Option.some.inj h).symm
    · cases h

/-- The agreement at an integer and a decimal column. -/
theorem scan_types_agree_sample :
    ScanAgrees importFormat
      [⟨ascii "id", ascii "Int", false, false, false, 0, 0⟩,
        ⟨ascii "amount", ascii "NUMERIC", true, true, true, 18, 2⟩]
      [.integer, .decimal 18 2] := by
  have hbind : data360QueryBind
      [⟨ascii "id", ascii "Int", false, false, false, 0, 0⟩,
        ⟨ascii "amount", ascii "NUMERIC", true, true, true, 18, 2⟩]
      = .ok ⟨[.integer, .decimal 18 2], [ascii "id", ascii "amount"],
        [⟨ascii "id", ascii "Int", false, false, false, 0, 0⟩,
          ⟨ascii "amount", ascii "NUMERIC", true, true, true, 18, 2⟩]⟩ := by
    decide +kernel
  exact (scan_types_agree_iff importFormat_table hbind).mpr (by decide)

/-- Binding takes `timestamp` and `text`, and no import makes the Arrow path
agree: it expects a zone in the first, and throws on the second. -/
theorem scan_types_differ :
    (data360QueryBind [⟨ascii "at", ascii "timestamp", false, false, false, 0, 0⟩] = .ok
        ⟨[.timestamp], [ascii "at"],
          [⟨ascii "at", ascii "timestamp", false, false, false, 0, 0⟩]⟩ ∧
      ∀ importType, ArrowImport importType → ¬ ScanAgrees importType
        [⟨ascii "at", ascii "timestamp", false, false, false, 0, 0⟩] [.timestamp]) ∧
    (data360QueryBind [⟨ascii "note", ascii "text", false, false, false, 0, 0⟩] = .ok
        ⟨[.varchar], [ascii "note"], [⟨ascii "note", ascii "text", false, false, false, 0, 0⟩]⟩ ∧
      expectedArrowSchema [⟨ascii "note", ascii "text", false, false, false, 0, 0⟩]
        = .error "Data 360 Arrow metadata contained an unsupported type") := by
  refine ⟨⟨by decide +kernel, fun importType himport hagrees => ?_⟩, by decide +kernel,
    by decide +kernel⟩
  obtain ⟨expected, hschema, htypes, -⟩ := hagrees
  have hfield : expectedArrowSchema [⟨ascii "at", ascii "timestamp", false, false, false, 0, 0⟩]
      = .ok [⟨ascii "at", .timestampUsUtc, false, 0, 0⟩] := by decide +kernel
  rw [hfield] at hschema
  cases hschema
  have hzone : importType (ascii "tsu:UTC") = some .timestampTz :=
    himport.timestampTz (ascii "UTC") (by decide)
  rw [List.map_singleton, expectedFormat, hzone] at htypes
  cases htypes

end Data360
