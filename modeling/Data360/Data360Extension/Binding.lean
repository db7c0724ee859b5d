import Data360.Data360Extension

/-!
# Every type string binds

`BindLogicalType` throws at a type that it does not know.  `MapData360Type` never
gives it one: its answer is a name of the table, a decimal type whose numbers it
has checked, or `VARCHAR`.  A decimal type is read twice, by an expression with
`std::stoul` and by `std::sscanf`.

* `ArrowDenotes` is the meaning of an Arrow format, as the Arrow C data interface
  gives it.
* `MapsTo` says what a type string is mapped to and how that is bound.
* `bindLogicalType_total` is the result for every string.
-/

namespace Data360

open Lib.ByteString

/-! ## Formats and type strings -/

/-- The type that an Arrow format stands for. -/
inductive ArrowDenotes : Bytes → LogicalType → Prop where
  | boolean : ArrowDenotes (ascii "b") .boolean
  | integer : ArrowDenotes (ascii "i") .integer
  | bigint : ArrowDenotes (ascii "l") .bigint
  | double : ArrowDenotes (ascii "g") .double
  | varchar : ArrowDenotes (ascii "u") .varchar
  | date : ArrowDenotes (ascii "tdD") .date
  | timestamp : ArrowDenotes (ascii "tsu:") .timestamp
  | timestampTz {zone : Bytes} (h : zone ≠ []) : ArrowDenotes (ascii "tsu:" ++ zone) .timestampTz
  | decimal {precision scale : Bytes} {width places : UInt8} (hprecision : Digits precision)
      (hscale : Digits scale) (hwidth : ofDecimal precision = width.toNat)
      (hplaces : ofDecimal scale = places.toNat) :
      ArrowDenotes (ascii "d:" ++ precision ++ ascii "," ++ scale) (.decimal width places)

/-- The type string, in any case, is `NUMERIC`, or a decimal type with these numbers
that DuckDB has. -/
inductive DecimalString (type : Bytes) : UInt8 → UInt8 → Prop where
  | numeric (h : upper type = ascii "NUMERIC") : DecimalString type 38 18
  | decimal {precision scale : Bytes} {width places : UInt8} (hprecision : Digits precision)
      (hscale : Digits scale)
      (h : upper type = ascii "DECIMAL(" ++ precision ++ ascii "," ++ scale ++ ascii ")")
      (hwidth : ofDecimal precision = width.toNat) (hplaces : ofDecimal scale = places.toNat)
      (hrange : 1 ≤ width ∧ width ≤ 38 ∧ places ≤ width) : DecimalString type width places

/-- The names of the table, with their mappings and their types. -/
def namedTypes : List (Bytes × TypeMapping × LogicalType) := [
  (ascii "TIMESTAMP_WITH_TIME_ZONE", ⟨ascii "TIMESTAMPTZ", ascii "tsu:UTC", false⟩, .timestampTz),
  (ascii "TIMESTAMP_TZ", ⟨ascii "TIMESTAMPTZ", ascii "tsu:UTC", false⟩, .timestampTz),
  (ascii "TIMESTAMPTZ", ⟨ascii "TIMESTAMPTZ", ascii "tsu:UTC", false⟩, .timestampTz),
  (ascii "TIMESTAMP", ⟨ascii "TIMESTAMP", ascii "tsu:", false⟩, .timestamp),
  (ascii "DATETIME", ⟨ascii "TIMESTAMP", ascii "tsu:", false⟩, .timestamp),
  (ascii "BOOLEAN", ⟨ascii "BOOLEAN", ascii "b", false⟩, .boolean),
  (ascii "BOOL", ⟨ascii "BOOLEAN", ascii "b", false⟩, .boolean),
  (ascii "INTEGER", ⟨ascii "INTEGER", ascii "i", false⟩, .integer),
  (ascii "INT", ⟨ascii "INTEGER", ascii "i", false⟩, .integer),
  (ascii "BIGINT", ⟨ascii "BIGINT", ascii "l", false⟩, .bigint),
  (ascii "LONG", ⟨ascii "BIGINT", ascii "l", false⟩, .bigint),
  (ascii "DOUBLE", ⟨ascii "DOUBLE", ascii "g", false⟩, .double),
  (ascii "NUMBER", ⟨ascii "DOUBLE", ascii "g", false⟩, .double),
  (ascii "DATE", ⟨ascii "DATE", ascii "tdD", false⟩, .date),
  (ascii "VARCHAR", ⟨ascii "VARCHAR", ascii "u", false⟩, .varchar),
  (ascii "TEXT", ⟨ascii "VARCHAR", ascii "u", false⟩, .varchar),
  (ascii "STRING", ⟨ascii "VARCHAR", ascii "u", false⟩, .varchar)]

/-- The type string, in any case, is a name of the table. -/
def Named (type : Bytes) : Prop := ∃ row ∈ namedTypes, upper type = row.1

/-! ## What a string is mapped to -/

/-- What becomes of a type string: its mapping and the type that the mapping is bound to. -/
inductive MapsTo (normalized : Bytes) : TypeMapping → LogicalType → Prop where
  | named {mapping : TypeMapping} {type : LogicalType}
      (h : (normalized, mapping, type) ∈ namedTypes) : MapsTo normalized mapping type
  | numeric (h : normalized = ascii "NUMERIC") :
      MapsTo normalized ⟨ascii "DECIMAL(38,18)", ascii "d:38,18", false⟩ (.decimal 38 18)
  | decimal {precision scale : Bytes} {width places : UInt8} (hprecision : Digits precision)
      (hscale : Digits scale) (h : normalized = decimalText precision scale)
      (hwidth : ofDecimal precision = width.toNat) (hplaces : ofDecimal scale = places.toNat)
      (hrange : 1 ≤ width ∧ width ≤ 38 ∧ places ≤ width) :
      MapsTo normalized ⟨normalized, ascii "d:" ++ precision ++ ascii "," ++ scale, false⟩
        (.decimal width places)
  | lossy (hnamed : ∀ row ∈ namedTypes, normalized ≠ row.1)
        (hnumeric : normalized ≠ ascii "NUMERIC")
      (hdecimal : ∀ precision scale, Digits precision → Digits scale →
        normalized = decimalText precision scale →
        ¬ (1 ≤ ofDecimal precision ∧ ofDecimal precision ≤ 38 ∧
          ofDecimal scale ≤ ofDecimal precision)) :
      MapsTo normalized ⟨ascii "VARCHAR", ascii "u", true⟩ .varchar

/-- No name is a decimal type. -/
theorem decimalText_notMem (precision scale : Bytes) :
    (∀ row ∈ namedTypes, decimalText precision scale ≠ row.1) ∧
      decimalText precision scale ≠ ascii "NUMERIC" := by
  have hnames : (∀ row ∈ namedTypes, afterLiteral (ascii "DECIMAL(") row.1 = none) ∧
      afterLiteral (ascii "DECIMAL(") (ascii "NUMERIC") = none := by decide
  simp only [decimalText, List.append_assoc]
  exact ⟨fun row hrow => append_ne (hnames.1 row hrow), append_ne hnames.2⟩

/-- The checks of a decimal type.  Digits that `std::stoul` refuses denote a number that
is too large anyway. -/
theorem mapNormalized_decimalText {precision scale : Bytes} (hprecision : Digits precision)
    (hscale : Digits scale) :
    mapNormalized (decimalText precision scale) =
      if 1 ≤ ofDecimal precision ∧ ofDecimal precision ≤ 38 ∧
        ofDecimal scale ≤ ofDecimal precision then
        ⟨decimalText precision scale, ascii "d:" ++ precision ++ ascii "," ++ scale, false⟩
      else lossyMapping := by
  have hmatch := matchDecimal_eq_some.mpr ⟨hprecision, hscale, rfl⟩
  rw [mapNormalized, hmatch]
  simp only [stoul]
  by_cases hrange : 1 ≤ ofDecimal precision ∧ ofDecimal precision ≤ 38 ∧
      ofDecimal scale ≤ ofDecimal precision
  · have hfits : ¬ (ofDecimal precision = 0 ∨ ofDecimal precision > 38 ∨
        ofDecimal scale > ofDecimal precision) := by
      omega
    rw [if_pos (by omega : ofDecimal precision < 2 ^ 64),
      if_pos (by omega : ofDecimal scale < 2 ^ 64),
      if_pos hrange]
    simp only [if_neg hfits]
  · have hrefused : ofDecimal precision = 0 ∨ ofDecimal precision > 38 ∨
        ofDecimal scale > ofDecimal precision := by
      omega
    rw [if_neg hrange]
    split
    · next hp hs =>
        obtain ⟨-, hp⟩ := Option.ite_none_right_eq_some.mp hp
        obtain ⟨-, hs⟩ := Option.ite_none_right_eq_some.mp hs
        obtain rfl := Option.some.inj hp
        obtain rfl := Option.some.inj hs
        exact if_pos hrefused
    · rfl

/-- A string that is no decimal type and no name has no mapping of its own. -/
theorem mapNormalized_unknown {normalized : Bytes} (hmatch : matchDecimal normalized = none)
    (hnamed : ∀ row ∈ namedTypes, normalized ≠ row.1) (hnumeric : normalized ≠ ascii "NUMERIC") :
    mapNormalized normalized = lossyMapping := by
  simp only [namedTypes, List.forall_mem_cons] at hnamed
  simp only [mapNormalized, hmatch, hnamed, hnumeric, or_self, if_false]

/-- What `MapData360Type` makes of a string in upper case. -/
theorem mapsTo_mapNormalized (normalized : Bytes) :
    ∃ type, MapsTo normalized (mapNormalized normalized) type := by
  have htable : ∀ row ∈ namedTypes, mapNormalized row.1 = row.2.1 := by decide +kernel
  cases hmatch : matchDecimal normalized with
  | some numbers =>
      obtain ⟨precision, scale⟩ := numbers
      obtain ⟨hprecision, hscale, rfl⟩ := matchDecimal_eq_some.mp hmatch
      obtain ⟨hnamed, hnumeric⟩ := decimalText_notMem precision scale
      rw [mapNormalized_decimalText hprecision hscale]
      split
      · next hrange =>
          have htoNat {n : Nat} (hn : n ≤ 38) : (UInt8.ofNat n).toNat = n :=
            UInt8.toNat_ofNat_of_lt' (by rw [UInt8.size]; omega)
          have hwidth := htoNat hrange.2.1
          have hplaces := htoNat (hrange.2.2.trans hrange.2.1)
          refine ⟨_, .decimal hprecision hscale rfl hwidth.symm hplaces.symm ?_⟩
          simp only [UInt8.le_iff_toNat_le, hwidth, hplaces]
          exact hrange
      · next hrange =>
          refine ⟨_, .lossy hnamed hnumeric fun precision' scale' hprecision' hscale' hsame => ?_⟩
          have hagain := matchDecimal_eq_some.mpr ⟨hprecision', hscale', hsame⟩
          obtain ⟨rfl, rfl⟩ := Prod.mk.inj (Option.some.inj (hmatch.symm.trans hagain))
          exact hrange
  | none =>
      by_cases hnamed : ∃ row ∈ namedTypes, normalized = row.1
      · obtain ⟨⟨name, mapping, type⟩, hrow, rfl⟩ := hnamed
        rw [htable _ hrow]
        exact ⟨type, .named hrow⟩
      · simp only [not_exists, not_and] at hnamed
        by_cases hnumeric : normalized = ascii "NUMERIC"
        · have hmapped :
            mapNormalized (ascii "NUMERIC") = ⟨ascii "DECIMAL(38,18)", ascii "d:38,18", false⟩ := by
            decide
          refine ⟨.decimal 38 18, ?_⟩
          rw [hnumeric, hmapped]
          exact .numeric rfl
        · rw [mapNormalized_unknown hmatch hnamed hnumeric]
          refine ⟨_, .lossy hnamed hnumeric fun precision scale hprecision hscale hsame => ?_⟩
          cases hmatch.symm.trans (matchDecimal_eq_some.mpr ⟨hprecision, hscale, hsame⟩)

/-! ## How it is bound -/

/-- The formats of the table denote its types. -/
theorem namedTypes_denote : ∀ row ∈ namedTypes, ArrowDenotes row.2.1.arrowFormat row.2.2 := by
  have hutc : ArrowDenotes (ascii "tsu:" ++ ascii "UTC") .timestampTz := .timestampTz (by decide)
  simp only [namedTypes, List.forall_mem_cons]
  exact ⟨hutc, hutc, hutc, .timestamp, .timestamp, .boolean, .boolean, .integer, .integer, .bigint,
    .bigint, .double, .double, .date, .varchar, .varchar, .varchar, by simp⟩

/-- Every mapping is bound to its type, which its format denotes. -/
theorem MapsTo.binds {normalized : Bytes} {mapping : TypeMapping} {type : LogicalType}
    (h : MapsTo normalized mapping type) :
    bindLogicalType mapping = .ok type ∧ ArrowDenotes mapping.arrowFormat type := by
  have hnames : ∀ row ∈ namedTypes, bindLogicalType row.2.1 = .ok row.2.2 := by decide +kernel
  cases h with
  | named hrow => exact ⟨hnames _ hrow, namedTypes_denote _ hrow⟩
  | numeric =>
      have hdigits : Digits (ascii "38") ∧ Digits (ascii "18") :=
        ⟨⟨by decide, by decide +kernel⟩, ⟨by decide, by decide +kernel⟩⟩
      have hdenotes :
          ArrowDenotes (ascii "d:" ++ ascii "38" ++ ascii "," ++ ascii "18") (.decimal 38 18) :=
        .decimal hdigits.1 hdigits.2 (by decide) (by decide)
      exact ⟨by decide +kernel, hdenotes⟩
  | @decimal precision scale width places hprecision hscale h hwidth hplaces hrange =>
      obtain ⟨-, hmax, hle⟩ := hrange
      have hmax' : ofDecimal precision ≤ 38 := hwidth ▸ UInt8.le_iff_toNat_le.mp hmax
      have hle' : ofDecimal scale ≤ ofDecimal precision := by
        rw [hwidth, hplaces]
        exact UInt8.le_iff_toNat_le.mp hle
      refine ⟨?_, .decimal hprecision hscale hwidth hplaces⟩
      rw [bindLogicalType_decimalText hprecision hscale h hmax' hle', hwidth, hplaces,
        UInt8.ofNat_toNat, UInt8.ofNat_toNat]
  | lossy => exact ⟨by decide, .varchar⟩

/-- The decimal strings are what is mapped to a decimal type. -/
theorem decimalString_iff {type : Bytes} {bound : LogicalType}
    (h : MapsTo (upper type) (mapData360Type type) bound) (width places : UInt8) :
    bound = .decimal width places ↔ DecimalString type width places := by
  have hbound := h.binds.1
  constructor
  · rintro rfl
    generalize mapData360Type type = mapping at h
    cases h with
    | named hrow =>
        have hother : ∀ row ∈ namedTypes, ∀ w p, row.2.2 ≠ .decimal w p := by
          simp only [namedTypes, List.forall_mem_cons]
          simp
        exact absurd rfl (hother _ hrow width places)
    | numeric h => exact .numeric h
    | decimal hprecision hscale h hwidth hplaces hrange =>
        exact .decimal hprecision hscale h hwidth hplaces hrange
  · intro hdecimal
    have hmapped : MapsTo (upper type) (mapData360Type type) (.decimal width places) := by
      rw [mapData360Type]
      cases hdecimal with
      | numeric h =>
          have hnumeric : mapNormalized (ascii "NUMERIC")
              = ⟨ascii "DECIMAL(38,18)", ascii "d:38,18", false⟩ := by
            decide
          rw [h, hnumeric]
          exact .numeric rfl
      | @decimal precision scale _ _ hprecision hscale h hwidth hplaces hrange =>
          have hnumbers : 1 ≤ ofDecimal precision ∧ ofDecimal precision ≤ 38 ∧
              ofDecimal scale ≤ ofDecimal precision := by
            simp only [UInt8.le_iff_toNat_le] at hrange
            rw [hwidth, hplaces]
            exact hrange
          have hmapping := mapNormalized_decimalText hprecision hscale
          rw [if_pos hnumbers] at hmapping
          rw [h]
          change MapsTo (decimalText precision scale)
            (mapNormalized (decimalText precision scale)) _
          rw [hmapping]
          exact .decimal hprecision hscale rfl hwidth hplaces hrange
    exact Except.ok.inj (hbound.symm.trans hmapped.binds.1)

/-- `BindLogicalType` throws at no mapping that `MapData360Type` makes.  It answers a decimal
type at the decimal strings, with their numbers; a string that is neither such a string
nor a name of the table is mapped to `VARCHAR`, marked as lossy; and the Arrow format
denotes the type. -/
theorem bindLogicalType_total (type : Bytes) :
    (∃ bound, bindLogicalType (mapData360Type type) = .ok bound ∧
      ArrowDenotes (mapData360Type type).arrowFormat bound) ∧
    (∀ width places, bindLogicalType (mapData360Type type) = .ok (.decimal width places) ↔
      DecimalString type width places) ∧
    (mapData360Type type = ⟨ascii "VARCHAR", ascii "u", true⟩ ↔
      ¬ Named type ∧ ∀ width places, ¬ DecimalString type width places) := by
  obtain ⟨bound, hmaps⟩ := mapsTo_mapNormalized (upper type)
  change MapsTo (upper type) (mapData360Type type) bound at hmaps
  obtain ⟨hbinds, hdenotes⟩ := hmaps.binds
  have hdecimal := decimalString_iff hmaps
  refine ⟨⟨bound, hbinds, hdenotes⟩, fun width places => ?_, ?_⟩
  · rw [hbinds, Except.ok.injEq]
    exact hdecimal width places
  · generalize mapData360Type type = mapping at hmaps
    cases hmaps with
    | @named mapping _ hrow =>
        have hexact : ∀ row ∈ namedTypes, row.2.1.lossy = false := by decide
        refine iff_of_false (fun hlossy => ?_) fun h => h.1 ⟨_, hrow, rfl⟩
        have hnot := hexact _ hrow
        rw [hlossy] at hnot
        cases hnot
    | numeric =>
        exact iff_of_false (by decide) fun h => h.2 38 18 ((hdecimal 38 18).mp rfl)
    | @decimal _ _ width places =>
        exact iff_of_false (by simp) fun h => h.2 width places ((hdecimal width places).mp rfl)
    | lossy hnamed =>
        refine iff_of_true rfl ⟨fun ⟨row, hrow, hsame⟩ => hnamed row hrow hsame,
          fun width places h => ?_⟩
        cases (hdecimal width places).mpr h

end Data360
