import Data360.Lib.Bytes

/-!
# Percent encoding

The encoding of bytes in the query of a URL and in a form body.  `encode`
leaves the unreserved characters alone and writes every other byte as `%` and
two hexadecimal digits; `decode` reads any string in which every `%` starts
such a triple.

* `decode_encode` says that decoding undoes encoding.
* `not_mem_encode` says that an encoded string holds no reserved character, so
  a field that holds one survives as the value of a list of fields.
* `parseFields` reads such a list: it splits at `&`, splits each item at its
  first `=`, and decodes both parts.  `parseFields_writeFields` says that it
  reads back what `writeFields` wrote.
-/

namespace Lib.Percent

open Lib.ByteString

/-! ## One string -/

/-- The unreserved characters: letters, digits, and `-._~`. -/
def unreserved (c : UInt8) : Bool :=
  isAlnum c || c = 45 || c = 46 || c = 95 || c = 126

/-- One encoded byte. -/
def encodeByte (c : UInt8) : Bytes :=
  if unreserved c then [c] else [37, hexDigit (c >>> 4), hexDigit (c &&& 15)]

/-- Percent encoding. -/
def encode (value : Bytes) : Bytes := value.flatMap encodeByte

/-- Percent decoding; `none` where a `%` does not start a triple. -/
def decode : Bytes → Option Bytes
  | [] => some []
  | c :: rest =>
      if c = 37 then
        match rest with
        | high :: low :: rest => do
            let high ← hexDigitValue high
            let low ← hexDigitValue low
            let rest ← decode rest
            pure ((high <<< 4 ||| low) :: rest)
        | _ => none
      else (decode rest).map (c :: ·)

theorem decode_cons {c : UInt8} (h : c ≠ 37) (rest : Bytes) :
    decode (c :: rest) = (decode rest).map (c :: ·) := by
  rw [decode.eq_def]
  simp [h]

theorem decode_triple {first second high low : UInt8} (hhigh : hexDigitValue first = some high)
    (hlow : hexDigitValue second = some low) (rest : Bytes) :
    decode (37 :: first :: second :: rest) = (decode rest).map ((high <<< 4 ||| low) :: ·) := by
  rw [decode.eq_def]
  simp only [if_true, hhigh, hlow, Option.bind_eq_bind, Option.bind_some]
  cases decode rest <;> rfl

/-- A `%` without two digits behind it is not decoded. -/
theorem decode_broken {first second : UInt8} {rest : Bytes}
    (h : ∀ high low, hexDigitValue first = some high → hexDigitValue second = some low → False) :
    decode (37 :: first :: second :: rest) = none := by
  rw [decode.eq_def]
  cases hhigh : hexDigitValue first with
  | none => simp [hhigh]
  | some high =>
      cases hlow : hexDigitValue second with
      | none => simp [hhigh, hlow]
      | some low => exact (h high low hhigh hlow).elim

theorem decode_short {rest : Bytes} (h : ∀ first second more,
    rest = first :: second :: more → False) :
    decode (37 :: rest) = none := by
  match rest, h with
  | [], _ => rfl
  | [_], _ => rfl
  | first :: second :: more, h => exact (h first second more rfl).elim

theorem unreserved_ne_percent {c : UInt8} (h : unreserved c = true) : c ≠ 37 := by
  rintro rfl
  exact absurd h (by decide)

/-- Decoding takes an encoded byte off the front. -/
theorem decode_encodeByte_append (c : UInt8) (rest : Bytes) :
    decode (encodeByte c ++ rest) = (decode rest).map (c :: ·) := by
  unfold encodeByte
  split
  · rename_i h
    exact decode_cons (unreserved_ne_percent h) rest
  · simp only [List.cons_append, List.nil_append]
    rw [decode_triple (hexDigitValue_high c) (hexDigitValue_low c), byte_of_halves]

/-- Decoding takes an encoded string off the front. -/
theorem decode_encode_append (value rest : Bytes) :
    decode (encode value ++ rest) = (decode rest).map (value ++ ·) := by
  induction value with
  | nil => simp [encode]
  | cons c value ih =>
      rw [encode, List.flatMap_cons, List.append_assoc, decode_encodeByte_append, ← encode, ih]
      simp [Option.map_map, Function.comp_def]

/-- Decoding undoes encoding. -/
theorem decode_encode (value : Bytes) : decode (encode value) = some value := by
  have h := decode_encode_append value []
  simpa [decode] using h

/-- A byte of an encoding is unreserved or a `%`. -/
theorem mem_encodeByte {c d : UInt8} (h : d ∈ encodeByte c) : unreserved d = true ∨ d = 37 := by
  have hhigh : unreserved (hexDigit (c >>> 4)) = true := forall_byte
    (P := fun c => unreserved (hexDigit (c >>> 4)) = true) (by decide +kernel) c
  have hlow : unreserved (hexDigit (c &&& 15)) = true := forall_byte
    (P := fun c => unreserved (hexDigit (c &&& 15)) = true) (by decide +kernel) c
  unfold encodeByte at h
  split at h
  · rename_i hc
    exact .inl (List.mem_singleton.mp h ▸ hc)
  · simp only [List.mem_cons, List.not_mem_nil, or_false] at h
    rcases h with rfl | rfl | rfl
    · exact .inr rfl
    · exact .inl hhigh
    · exact .inl hlow

theorem mem_encode {value : Bytes} {d : UInt8} (h : d ∈ encode value) :
    unreserved d = true ∨ d = 37 := by
  obtain ⟨c, -, hd⟩ := List.mem_flatMap.mp h
  exact mem_encodeByte hd

/-- An encoding holds no reserved character but `%`. -/
theorem not_mem_encode {d : UInt8} (h : unreserved d = false) (hd : d ≠ 37) (value : Bytes) :
    d ∉ encode value := by
  intro hmem
  rcases mem_encode hmem with hun | heq
  · rw [h] at hun
    cases hun
  · exact hd heq

/-! ## A list of fields -/

/-- One item of a list of fields: the parts before and behind the first `=`,
decoded. -/
def parseField (item : Bytes) : Option (Bytes × Bytes) := do
  let equals ← find [61] item
  let name ← decode (item.take equals)
  let value ← decode (item.drop (equals + 1))
  pure (name, value)

/-- A list of fields: split at `&`, and each item at its first `=`. -/
def parseFields (value : Bytes) : Option (List (Bytes × Bytes)) :=
  (value.splitOn 38).mapM parseField

/-- One field: the name, `=`, and the value. -/
def writeField (field : Bytes × Bytes) : Bytes := encode field.1 ++ 61 :: encode field.2

/-- The fields with `&` between them. -/
def writeFields (fields : List (Bytes × Bytes)) : Bytes :=
  [38].intercalate (fields.map writeField)

theorem parseField_writeField (field : Bytes × Bytes) :
    parseField (writeField field) = some field := by
  have hequals : find [61] (writeField field) = some (encode field.1).length := by
    refine find_byte_eq_some.mpr ⟨by simp [writeField], by simp [writeField], ?_⟩
    rw [writeField, List.take_left]
    exact not_mem_encode (by decide) (by decide) _
  have hvalue : (writeField field).drop ((encode field.1).length + 1) = encode field.2 :=
    drop_separator _ _ _
  rw [parseField, hequals]
  simp only [Option.bind_eq_bind, Option.bind_some, hvalue]
  rw [writeField, List.take_left, decode_encode, decode_encode]
  rfl

/-- An item holds no separator. -/
theorem not_mem_writeField (field : Bytes × Bytes) : 38 ∉ writeField field := by
  have hclean (value : Bytes) : 38 ∉ encode value :=
    not_mem_encode (by decide) (by decide) value
  simp [writeField, hclean]

/-- The items of what is written are the fields. -/
theorem splitOn_writeFields {fields : List (Bytes × Bytes)} (h : fields ≠ []) :
    (writeFields fields).splitOn 38 = fields.map writeField := by
  refine List.splitOn_intercalate _ (fun item hitem => ?_) (by simpa using h)
  obtain ⟨field, -, rfl⟩ := List.mem_map.mp hitem
  exact not_mem_writeField field

/-- A reserved character is in no list of fields, `%`, `&` and `=` apart. -/
theorem not_mem_writeFields {d : UInt8} (h : unreserved d = false) (hd : d ≠ 37 ∧ d ≠ 38 ∧ d ≠ 61)
    (fields : List (Bytes × Bytes)) : d ∉ writeFields fields := by
  obtain ⟨hpercent, hseparator, hequals⟩ := hd
  have hfield (field : Bytes × Bytes) : d ∉ writeField field := by
    simp [writeField, not_mem_encode h hpercent, hequals]
  induction fields with
  | nil => simp [writeFields]
  | cons field fields ih =>
      cases fields with
      | nil => simpa [writeFields] using hfield field
      | cons next rest =>
          rw [writeFields, List.map_cons, List.intercalate_cons_of_ne_nil (by simp), ← writeFields]
          simp [hfield field, hseparator, ih]

/-- Reading a list of fields gives back the fields that were written. -/
theorem parseFields_writeFields {fields : List (Bytes × Bytes)} (h : fields ≠ []) :
    parseFields (writeFields fields) = some fields := by
  rw [parseFields, splitOn_writeFields h]
  clear h
  induction fields with
  | nil => rfl
  | cons field fields ih =>
      rw [List.map_cons, List.mapM_cons, parseField_writeField, ih]
      rfl

end Lib.Percent
