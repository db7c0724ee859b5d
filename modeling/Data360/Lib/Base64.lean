import Data360.Lib.Bytes

/-!
# Base64url without padding

The encoding of RFC 4648 with the URL and filename safe alphabet.  Three bytes
are four letters of six bits; one or two bytes at the end are two or three
letters, whose last bits are zero.

* `sextet_letter` says that the alphabet has one letter for each value.
* `decode_encode` says that decoding undoes encoding, and `length_encode` how
  long an encoding is.

The decoder refuses a letter outside of the alphabet, a letter that stands
alone, and bits at the end that are not zero.
-/

namespace Lib.Base64

open Lib.ByteString

/-! ## The alphabet -/

/-- The letter of a value below 64. -/
def letter (value : Nat) : UInt8 :=
  if value < 26 then UInt8.ofNat (65 + value)
  else if value < 52 then UInt8.ofNat (97 + (value - 26))
  else if value < 62 then UInt8.ofNat (48 + (value - 52))
  else if value = 62 then 45
  else 95

/-- The letters: letters and digits of ASCII, `-` and `_`. -/
theorem letter_safe {value : Nat} (h : value < 64) :
    isAlnum (letter value) = true ∨ letter value = 45 ∨ letter value = 95 := by
  have hall : ∀ v : Fin 64, isAlnum (letter v) = true ∨ letter v = 45 ∨ letter v = 95 := by
    decide +kernel
  exact hall ⟨value, h⟩

/-- The value of a letter. -/
def sextet (c : UInt8) : Option Nat :=
  if isUpper c then some (c.toNat - 65)
  else if isLower c then some (c.toNat - 97 + 26)
  else if isDigit c then some (c.toNat - 48 + 52)
  else if c = 45 then some 62
  else if c = 95 then some 63
  else none

theorem sextet_letter {value : Nat} (h : value < 64) : sextet (letter value) = some value := by
  have hall : ∀ v : Fin 64, sextet (letter v) = some v.val := by decide +kernel
  exact hall ⟨value, h⟩

/-! ## Encoding -/

/-- The six-bit values of the bytes. -/
def sextets : Bytes → List Nat
  | [] => []
  | [x] => [x.toNat / 4, x.toNat % 4 * 16]
  | [x, y] => [x.toNat / 4, x.toNat % 4 * 16 + y.toNat / 16, y.toNat % 16 * 4]
  | x :: y :: z :: rest =>
      x.toNat / 4 :: (x.toNat % 4 * 16 + y.toNat / 16) :: (y.toNat % 16 * 4 + z.toNat / 64) ::
        z.toNat % 64 :: sextets rest

/-- The encoding of the bytes. -/
def encode (bytes : Bytes) : Bytes := (sextets bytes).map letter

theorem sextets_lt (bytes : Bytes) : ∀ value ∈ sextets bytes, value < 64 := by
  induction bytes using sextets.induct with
  | case1 => simp [sextets]
  | case2 x =>
      have hx := x.toNat_lt
      simp only [sextets, List.forall_mem_cons]
      exact ⟨by omega, by omega, by simp⟩
  | case3 x y =>
      have hx := x.toNat_lt
      have hy := y.toNat_lt
      simp only [sextets, List.forall_mem_cons]
      exact ⟨by omega, by omega, by omega, by simp⟩
  | case4 x y z rest ih =>
      have hx := x.toNat_lt
      have hy := y.toNat_lt
      have hz := z.toNat_lt
      simp only [sextets, List.forall_mem_cons]
      exact ⟨by omega, by omega, by omega, by omega, ih⟩

/-- Four letters for three bytes, rounded up. -/
theorem length_encode (bytes : Bytes) : (encode bytes).length = (4 * bytes.length + 2) / 3 := by
  rw [encode, List.length_map]
  induction bytes using sextets.induct with
  | case1 => rfl
  | case2 x => simp [sextets]
  | case3 x y => simp [sextets]
  | case4 x y z rest ih =>
      simp only [sextets, List.length_cons]
      omega

/-- What an encoding is made of. -/
theorem mem_encode {bytes : Bytes} {c : UInt8} (h : c ∈ encode bytes) :
    ∃ value < 64, c = letter value := by
  obtain ⟨value, hvalue, rfl⟩ := List.mem_map.mp h
  exact ⟨value, sextets_lt bytes value hvalue, rfl⟩

/-! ## Decoding -/

/-- The bytes of six-bit values. -/
def unsextets : List Nat → Option Bytes
  | [] => some []
  | [_] => none
  | [a, b] => if b % 16 = 0 then some [UInt8.ofNat (a * 4 + b / 16)] else none
  | [a, b, c] =>
      if c % 4 = 0 then some [UInt8.ofNat (a * 4 + b / 16), UInt8.ofNat (b % 16 * 16 + c / 4)]
      else none
  | a :: b :: c :: d :: rest =>
      (unsextets rest).map fun bytes =>
        UInt8.ofNat (a * 4 + b / 16) :: UInt8.ofNat (b % 16 * 16 + c / 4) ::
          UInt8.ofNat (c % 4 * 64 + d) :: bytes

/-- The bytes of an encoding. -/
def decode (text : Bytes) : Option Bytes := text.mapM sextet >>= unsextets

theorem mapM_sextet_letters {values : List Nat} (h : ∀ value ∈ values, value < 64) :
    (values.map letter).mapM sextet = some values := by
  induction values with
  | nil => rfl
  | cons value values ih =>
      obtain ⟨hvalue, hvalues⟩ := List.forall_mem_cons.mp h
      rw [List.map_cons, List.mapM_cons, sextet_letter hvalue, ih hvalues]
      rfl

theorem ofNat_toNat_of_eq {x : UInt8} {n : Nat} (h : n = x.toNat) : UInt8.ofNat n = x := by
  rw [h, UInt8.ofNat_toNat]

theorem unsextets_sextets (bytes : Bytes) : unsextets (sextets bytes) = some bytes := by
  induction bytes using sextets.induct with
  | case1 => rfl
  | case2 x =>
      have hx : UInt8.ofNat (x.toNat / 4 * 4 + x.toNat % 4 * 16 / 16) = x :=
        ofNat_toNat_of_eq (by omega)
      rw [sextets, unsextets, if_pos (by omega), hx]
  | case3 x y =>
      have hlt := y.toNat_lt
      have hx : UInt8.ofNat (x.toNat / 4 * 4 + (x.toNat % 4 * 16 + y.toNat / 16) / 16) = x :=
        ofNat_toNat_of_eq (by omega)
      have hy : UInt8.ofNat
          ((x.toNat % 4 * 16 + y.toNat / 16) % 16 * 16 + y.toNat % 16 * 4 / 4) = y :=
        ofNat_toNat_of_eq (by omega)
      rw [sextets, unsextets, if_pos (by omega), hx, hy]
  | case4 x y z rest ih =>
      have hlty := y.toNat_lt
      have hltz := z.toNat_lt
      have hx : UInt8.ofNat (x.toNat / 4 * 4 + (x.toNat % 4 * 16 + y.toNat / 16) / 16) = x :=
        ofNat_toNat_of_eq (by omega)
      have hy : UInt8.ofNat ((x.toNat % 4 * 16 + y.toNat / 16) % 16 * 16
          + (y.toNat % 16 * 4 + z.toNat / 64) / 4) = y :=
        ofNat_toNat_of_eq (by omega)
      have hz : UInt8.ofNat ((y.toNat % 16 * 4 + z.toNat / 64) % 4 * 64 + z.toNat % 64) = z :=
        ofNat_toNat_of_eq (by omega)
      rw [sextets, unsextets, ih, Option.map_some, hx, hy, hz]

/-- Decoding undoes encoding. -/
theorem decode_encode (bytes : Bytes) : decode (encode bytes) = some bytes := by
  rw [decode, encode, mapM_sextet_letters (sextets_lt bytes)]
  exact unsextets_sextets bytes

/-- Different bytes have different encodings. -/
theorem encode_injective : Function.Injective encode := by
  intro left right h
  have hdecoded := decode_encode left
  rw [h, decode_encode] at hdecoded
  exact (Option.some.inj hdecoded).symm

end Lib.Base64
