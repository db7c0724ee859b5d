import Data360.Lib.Bytes

/-!
# The mapping of Data 360 types

`src/type_mapping.cpp`: `mapData360Type` maps a type string to a DuckDB type
and an Arrow format.  It looks at the upper-case form of the string only, so
`mapNormalized` is the table on that form.

* `upper_eq_iff` turns a test of the upper-case form into a test of the
  lower-case form, which is what the other type tables look at.
* `matchDecimal_eq_some` says which strings are decimal types, and
  `mapData360Type_decimal` what becomes of those that the extension writes itself.
-/

namespace Data360

open Lib.ByteString

/-- `TypeMapping`. -/
structure TypeMapping where
  duckdbType : Bytes
  arrowFormat : Bytes
  lossy : Bool
  deriving DecidableEq, Repr

/-! ## Reading a decimal type -/

/-- What follows `literal` at the front of `value`. -/
def afterLiteral (literal value : Bytes) : Option Bytes :=
  if literal.isPrefixOf value then some (value.drop literal.length) else none

/-- `[0-9]+` at the front of `value`. -/
def takeDigits (value : Bytes) : Option (Bytes × Bytes) :=
  let (digits, rest) := value.span isDigit
  if digits = [] then none else some (digits, rest)

/-- `std::regex_match` with `DECIMAL\(([0-9]+),([0-9]+)\)`: the two groups.  The
matcher is assumed to have stack enough for the string. -/
def matchDecimal (value : Bytes) : Option (Bytes × Bytes) := do
  let rest ← afterLiteral (ascii "DECIMAL(") value
  let (precision, rest) ← takeDigits rest
  let rest ← afterLiteral (ascii ",") rest
  let (scale, rest) ← takeDigits rest
  if rest = ascii ")" then some (precision, scale) else none

/-- `std::stoul` of a string of digits: it throws when the number does not fit
in 64 bits. -/
def stoul (digits : Bytes) : Option Nat :=
  if ofDecimal digits < 2 ^ 64 then some (ofDecimal digits) else none

/-! ## The table -/

/-- The mapping of a type that has no mapping of its own. -/
def lossyMapping : TypeMapping := ⟨ascii "VARCHAR", ascii "u", true⟩

/-- `MapData360Type`, after the transformation to upper case. -/
def mapNormalized (normalized : Bytes) : TypeMapping :=
  match matchDecimal normalized with
  | some (precisionDigits, scaleDigits) =>
      match stoul precisionDigits, stoul scaleDigits with
      | some precision, some scale =>
          if precision = 0 ∨ precision > 38 ∨ scale > precision then lossyMapping
          else
            { duckdbType := normalized
              arrowFormat := ascii "d:" ++ precisionDigits ++ ascii "," ++ scaleDigits
              lossy := false }
      | _, _ => lossyMapping
  | none =>
      if normalized = ascii "TIMESTAMP_WITH_TIME_ZONE" ∨ normalized = ascii "TIMESTAMP_TZ" ∨
          normalized = ascii "TIMESTAMPTZ" then
        ⟨ascii "TIMESTAMPTZ", ascii "tsu:UTC", false⟩
      else if normalized = ascii "TIMESTAMP" ∨ normalized = ascii "DATETIME" then
        ⟨ascii "TIMESTAMP", ascii "tsu:", false⟩
      else if normalized = ascii "BOOLEAN" ∨ normalized = ascii "BOOL" then
        ⟨ascii "BOOLEAN", ascii "b", false⟩
      else if normalized = ascii "NUMERIC" then
        ⟨ascii "DECIMAL(38,18)", ascii "d:38,18", false⟩
      else if normalized = ascii "INTEGER" ∨ normalized = ascii "INT" then
        ⟨ascii "INTEGER", ascii "i", false⟩
      else if normalized = ascii "BIGINT" ∨ normalized = ascii "LONG" then
        ⟨ascii "BIGINT", ascii "l", false⟩
      else if normalized = ascii "DOUBLE" ∨ normalized = ascii "NUMBER" then
        ⟨ascii "DOUBLE", ascii "g", false⟩
      else if normalized = ascii "DATE" then
        ⟨ascii "DATE", ascii "tdD", false⟩
      else if normalized = ascii "VARCHAR" ∨ normalized = ascii "TEXT" ∨
          normalized = ascii "STRING" then
        ⟨ascii "VARCHAR", ascii "u", false⟩
      else lossyMapping

/-- `MapData360Type`. -/
def mapData360Type (data360Type : Bytes) : TypeMapping := mapNormalized (upper data360Type)

/-! ## Upper and lower case -/

theorem toLower_toUpper (c : UInt8) : toLower (toUpper c) = toLower c :=
  forall_byte (P := fun c => toLower (toUpper c) = toLower c) (by decide +kernel) c

theorem toUpper_toLower (c : UInt8) : toUpper (toLower c) = toUpper c :=
  forall_byte (P := fun c => toUpper (toLower c) = toUpper c) (by decide +kernel) c

theorem lower_upper (value : Bytes) : lower (upper value) = lower value := by
  simp [lower, upper, Function.comp_def, toLower_toUpper]

theorem upper_lower (value : Bytes) : upper (lower value) = upper value := by
  simp [lower, upper, Function.comp_def, toUpper_toLower]

/-- An upper-case literal is the upper-case form of exactly the strings whose
lower-case form is its own. -/
theorem upper_eq_iff {value literal : Bytes} (h : upper literal = literal) :
    upper value = literal ↔ lower value = lower literal := by
  constructor
  · intro heq
    rw [← heq, lower_upper]
  · intro heq
    rw [← upper_lower, heq, upper_lower, h]

/-! ## Decimal types -/

theorem afterLiteral_append (literal rest : Bytes) :
    afterLiteral literal (literal ++ rest) = some rest := by
  rw [afterLiteral, if_pos (List.isPrefixOf_iff_prefix.mpr (List.prefix_append _ _)),
    List.drop_left]

theorem afterLiteral_eq_some {literal value rest : Bytes} :
    afterLiteral literal value = some rest ↔ value = literal ++ rest := by
  constructor
  · intro h
    unfold afterLiteral at h
    split at h
    · rename_i hpre
      obtain ⟨tail, rfl⟩ := List.isPrefixOf_iff_prefix.mp hpre
      rw [List.drop_left] at h
      rw [Option.some.inj h]
    · cases h
  · intro h
    rw [h, afterLiteral_append]

/-- What begins with a literal is none of the strings that do not. -/
theorem append_ne {literal rest value : Bytes} (h : afterLiteral literal value = none) :
    literal ++ rest ≠ value := by
  intro heq
  rw [← heq, afterLiteral_append] at h
  cases h

/-- A string of digits, with at least one of them. -/
structure Digits (text : Bytes) : Prop where
  nonempty : text ≠ []
  decimal : ∀ c ∈ text, isDigit c = true

theorem digits_toDecimal (n : Nat) : Digits (toDecimal n) :=
  ⟨toDecimal_ne_nil n, fun _ => isDigit_of_mem_toDecimal⟩

/-- Digits are read up to the first character that is none. -/
theorem takeDigits_append {digits rest : Bytes} {c : UInt8} (h : Digits digits)
    (hc : isDigit c = false) :
    takeDigits (digits ++ c :: rest) = some (digits, c :: rest) := by
  have hspan : (digits ++ c :: rest).span isDigit = (digits, c :: rest) := by
    rw [List.span_eq_takeWhile_dropWhile, List.takeWhile_append_of_pos h.decimal,
      List.dropWhile_append_of_pos h.decimal]
    simp [hc]
  simp only [takeDigits, hspan]
  rw [if_neg h.nonempty]

/-- What is read are digits, and the front of the string. -/
theorem takeDigits_eq_some {value digits rest : Bytes}
    (h : takeDigits value = some (digits, rest)) :
    Digits digits ∧ value = digits ++ rest := by
  simp only [takeDigits, List.span_eq_takeWhile_dropWhile] at h
  split at h
  · cases h
  · next hne =>
      obtain ⟨rfl, rfl⟩ := Prod.mk.inj (Option.some.inj h)
      exact ⟨⟨hne, fun c hc => List.all_eq_true.mp List.all_takeWhile c hc⟩,
        List.takeWhile_append_dropWhile.symm⟩

/-- A decimal type, with the digits of its precision and its scale. -/
def decimalText (precision scale : Bytes) : Bytes :=
  ascii "DECIMAL(" ++ precision ++ ascii "," ++ scale ++ ascii ")"

/-- The expression finds both numbers of a decimal type, and matches nothing else. -/
theorem matchDecimal_eq_some {value precision scale : Bytes} :
    matchDecimal value = some (precision, scale) ↔
      Digits precision ∧ Digits scale ∧ value = decimalText precision scale := by
  have hcomma : ascii "," = [44] := by decide
  have hclose : ascii ")" = [41] := by decide
  constructor
  · intro h
    simp only [matchDecimal, Option.bind_eq_bind, Option.bind_eq_some_iff, Prod.exists,
      Option.ite_none_right_eq_some, Option.some.injEq, Prod.mk.injEq] at h
    obtain ⟨rest, hopen, first, rest', hfirst, rest'', hbetween, second, last, hsecond, hlast,
      rfl, rfl⟩ := h
    obtain ⟨hprecision, rfl⟩ := takeDigits_eq_some hfirst
    obtain ⟨hscale, rfl⟩ := takeDigits_eq_some hsecond
    refine ⟨hprecision, hscale, ?_⟩
    rw [afterLiteral_eq_some.mp hopen, afterLiteral_eq_some.mp hbetween, hlast, decimalText]
    simp only [List.append_assoc]
  · rintro ⟨hprecision, hscale, rfl⟩
    have hfirst : takeDigits (precision ++ (ascii "," ++ (scale ++ ascii ")")))
        = some (precision, ascii "," ++ (scale ++ ascii ")")) := by
      rw [hcomma]
      exact takeDigits_append hprecision (by decide)
    have hsecond : takeDigits (scale ++ ascii ")") = some (scale, ascii ")") := by
      rw [hclose]
      exact takeDigits_append hscale (by decide)
    simp only [matchDecimal, decimalText, List.append_assoc, afterLiteral_append, hfirst, hsecond,
      Option.bind_eq_bind, Option.bind_some, if_true]

/-- The type string that the extension writes for a complete numeric column. -/
def decimalType (precision scale : Nat) : Bytes :=
  ascii "DECIMAL(" ++ toDecimal precision ++ ascii "," ++ toDecimal scale ++ ascii ")"

/-- The expression finds both numbers of such a type. -/
theorem matchDecimal_decimal (precision scale : Nat) :
    matchDecimal (decimalType precision scale) = some (toDecimal precision, toDecimal scale) :=
  matchDecimal_eq_some.mpr ⟨digits_toDecimal precision, digits_toDecimal scale, rfl⟩

theorem stoul_toDecimal {n : Nat} (h : n < 2 ^ 64) : stoul (toDecimal n) = some n := by
  rw [stoul, ofDecimal_toDecimal, if_pos h]

theorem upper_toDecimal (n : Nat) : upper (toDecimal n) = toDecimal n := by
  have hdigit : ∀ c ∈ toDecimal n, toUpper c = c := by
    intro c hc
    have hlow : isLower c = false := forall_byte
      (P := fun c => isDigit c = true → isLower c = false) (by decide +kernel) c
      (isDigit_of_mem_toDecimal hc)
    rw [toUpper, hlow]
    rfl
  exact (List.map_congr_left hdigit).trans (List.map_id _)

theorem upper_decimalType (precision scale : Nat) :
    upper (decimalType precision scale) = decimalType precision scale := by
  have happ : ∀ a b : Bytes, upper (a ++ b) = upper a ++ upper b := fun a b =>
    List.map_append
  have hopen : upper (ascii "DECIMAL(") = ascii "DECIMAL(" := by decide
  have hcomma : upper (ascii ",") = ascii "," := by decide
  have hclose : upper (ascii ")") = ascii ")" := by decide
  simp only [decimalType, happ, upper_toDecimal, hopen, hcomma, hclose]

/-- A decimal type maps to itself when DuckDB has it, and is lossy otherwise. -/
theorem mapData360Type_decimal {precision scale : Nat} (hp : precision < 2 ^ 64)
    (hs : scale < 2 ^ 64) :
    (mapData360Type (decimalType precision scale)).duckdbType =
      if precision = 0 ∨ precision > 38 ∨ scale > precision then ascii "VARCHAR"
      else decimalType precision scale := by
  simp only [mapData360Type, upper_decimalType, mapNormalized, matchDecimal_decimal,
    stoul_toDecimal hp, stoul_toDecimal hs]
  split <;> rfl

end Data360
