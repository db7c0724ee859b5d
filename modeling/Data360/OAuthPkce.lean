import Data360.Lib.Base64
import Mathlib.Data.Nat.Bitwise
import Mathlib.Tactic.Ring

/-!
# Opaque identifiers and the comparison of states

The parts of `src/oauth_pkce.cpp` that the session registry calls.

* `base64Url` and `generateOpaqueId` turn entropy into an opaque identifier.
  `base64Url_eq_encode` says that `Base64Url` is the encoding of the library, and
  `base64Url_ne_nil` that an identifier is never empty: the registry uses the
  empty string for "no identifier was free".
* `constantTimeEquals` compares the state of a callback with the expected
  one.  `constantTimeEquals_iff` says that it is equality of byte strings.
-/

namespace Data360

open Lib Lib.ByteString

/-! ## Base64Url -/

/-- The alphabet of `Base64Url`. -/
def base64Alphabet : Bytes :=
  ascii "ABCDEFGHIJKLMNOPQRSTUVWXYZabcdefghijklmnopqrstuvwxyz0123456789-_"

/-- `alphabet[value & 0x3fU]`. -/
def base64Char (value : UInt32) : UInt8 :=
  base64Alphabet.getD (value &&& 0x3f).toNat 0

/-- The inner loop of `Base64Url`: `while (bits >= 6)` emit the six bits on
top.  The answer is the output and the number of bits that stay. -/
def drainBits (accumulator : UInt32) : Nat → Bytes × Nat
  | bits + 6 =>
      let (output, left) := drainBits accumulator bits
      (base64Char (accumulator >>> UInt32.ofNat bits) :: output, left)
  | bits => ([], bits)

/-- The state of the outer loop of `Base64Url`. -/
structure Base64State where
  accumulator : UInt32 := 0
  bits : Nat := 0
  output : Bytes := []

/-- One iteration of the outer loop of `Base64Url`. -/
def base64Step (state : Base64State) (byte : UInt8) : Base64State :=
  let accumulator := (state.accumulator <<< 8) ||| byte.toUInt32
  let (output, bits) := drainBits accumulator (state.bits + 8)
  { accumulator, bits, output := state.output ++ output }

/-- `Base64Url`. -/
def base64Url (input : Bytes) : Bytes :=
  let state := input.foldl base64Step {}
  if state.bits > 0 then
    state.output ++ [base64Char (state.accumulator <<< UInt32.ofNat (6 - state.bits))]
  else state.output

/-! ## What `Base64Url` writes

The accumulator is never cut, so from the fifth byte on it loses its top.  What
counts are its low bits: `Unwritten` says that they are the bits of the input
that have not been written yet. -/

/-- Bits of the input that wait in the accumulator. -/
structure Unwritten (state : Base64State) (bits pending : Nat) : Prop where
  count : state.bits = bits
  low : state.accumulator.toNat % 2 ^ bits = pending

/-- A byte goes in below the bits of the accumulator. -/
theorem accumulate_toNat (accumulator : UInt32) (byte : UInt8) :
    (accumulator <<< 8 ||| byte.toUInt32).toNat = (accumulator.toNat * 256 + byte.toNat)
    % 2 ^ 32 := by
  have hbyte : byte.toNat < 2 ^ 8 := byte.toNat_lt
  have hshift : (accumulator <<< 8).toNat = (accumulator.toNat % 2 ^ 24) <<< 8 := by
    rw [UInt32.toNat_shiftLeft, Nat.shiftLeft_eq, Nat.shiftLeft_eq]
    simp only [UInt32.reduceToNat, Nat.reduceMod, Nat.reducePow]
    omega
  rw [UInt32.toNat_or, hshift, UInt8.toNat_toUInt32, ← Nat.shiftLeft_add_eq_or_of_lt hbyte,
    Nat.shiftLeft_eq]
  omega

/-- The alphabet of the code is the alphabet of the encoding. -/
theorem base64Char_eq (value : UInt32) : base64Char value = Base64.letter (value.toNat % 64) := by
  have hmask : (value &&& 0x3f).toNat = value.toNat % 64 := by
    rw [UInt32.toNat_and]
    exact Nat.and_two_pow_sub_one_eq_mod _ 6
  have halphabet : ∀ i : Fin 64, base64Alphabet.getD i 0 = Base64.letter i := by decide +kernel
  rw [base64Char, hmask]
  exact halphabet ⟨value.toNat % 64, Nat.mod_lt _ (by decide)⟩

theorem base64Char_shiftRight (value : UInt32) {count : Nat} (h : count < 32) :
    base64Char (value >>> UInt32.ofNat count) = Base64.letter (value.toNat / 2 ^ count % 64) := by
  have hcount : (UInt32.ofNat count).toNat % 32 = count := by
    rw [UInt32.toNat_ofNat_of_lt' (h.trans (by decide)), Nat.mod_eq_of_lt h]
  rw [base64Char_eq, UInt32.toNat_shiftRight, hcount, Nat.shiftRight_eq_div_pow]

/-- No bit waits: the inner loop writes one letter. -/
theorem base64Step_first {state : Base64State} {pending : Nat} (h : Unwritten state 0 pending)
    (byte : UInt8) : Unwritten (base64Step state byte) 2 (byte.toNat % 4) ∧
      (base64Step state byte).output = state.output ++ [Base64.letter (byte.toNat / 4)] := by
  have hbyte := byte.toNat_lt
  have hvalue := accumulate_toNat state.accumulator byte
  have hstep :
      base64Step state byte = ⟨state.accumulator <<< 8 ||| byte.toUInt32, 2, state.output ++
      [base64Char ((state.accumulator <<< 8 ||| byte.toUInt32) >>> UInt32.ofNat 2)]⟩ := by
    rw [base64Step, h.count]
    rfl
  have hletter : (state.accumulator.toNat * 256 + byte.toNat) % 2 ^ 32 / 2 ^ 2 % 64
      = byte.toNat / 4 := by
    omega
  rw [hstep, base64Char_shiftRight _ (by decide), hvalue, hletter]
  refine ⟨⟨rfl, ?_⟩, rfl⟩
  rw [hvalue]
  omega

/-- Two bits wait: the inner loop writes one letter. -/
theorem base64Step_second {state : Base64State} {pending : Nat} (h : Unwritten state 2 pending)
    (byte : UInt8) : Unwritten (base64Step state byte) 4 (byte.toNat % 16) ∧
      (base64Step state byte).output
        = state.output ++ [Base64.letter (pending * 16 + byte.toNat / 16)] := by
  obtain ⟨hcount, hlow⟩ := h
  have hbyte := byte.toNat_lt
  have hvalue := accumulate_toNat state.accumulator byte
  have hstep :
      base64Step state byte = ⟨state.accumulator <<< 8 ||| byte.toUInt32, 4, state.output ++
      [base64Char ((state.accumulator <<< 8 ||| byte.toUInt32) >>> UInt32.ofNat 4)]⟩ := by
    rw [base64Step, hcount]
    rfl
  have hletter : (state.accumulator.toNat * 256 + byte.toNat) % 2 ^ 32 / 2 ^ 4 % 64
      = pending * 16 + byte.toNat / 16 := by
    omega
  rw [hstep, base64Char_shiftRight _ (by decide), hvalue, hletter]
  refine ⟨⟨rfl, ?_⟩, rfl⟩
  rw [hvalue]
  omega

/-- Four bits wait: the inner loop writes two letters. -/
theorem base64Step_third {state : Base64State} {pending : Nat} (h : Unwritten state 4 pending)
    (byte : UInt8) : Unwritten (base64Step state byte) 0 0 ∧ (base64Step state byte).output
      = state.output ++ [Base64.letter (pending * 4 + byte.toNat / 64),
          Base64.letter (byte.toNat % 64)] := by
  obtain ⟨hcount, hlow⟩ := h
  have hbyte := byte.toNat_lt
  have hvalue := accumulate_toNat state.accumulator byte
  have hstep :
      base64Step state byte = ⟨state.accumulator <<< 8 ||| byte.toUInt32, 0, state.output ++ [
      base64Char ((state.accumulator <<< 8 ||| byte.toUInt32) >>> UInt32.ofNat 6),
      base64Char ((state.accumulator <<< 8 ||| byte.toUInt32) >>> UInt32.ofNat 0)]⟩ := by
    rw [base64Step, hcount]
    rfl
  have hhigh : (state.accumulator.toNat * 256 + byte.toNat) % 2 ^ 32 / 2 ^ 6 % 64
      = pending * 4 + byte.toNat / 64 := by
    omega
  have hlast : (state.accumulator.toNat * 256 + byte.toNat) % 2 ^ 32 / 2 ^ 0 % 64
      = byte.toNat % 64 := by
    omega
  rw [hstep, base64Char_shiftRight _ (by decide), base64Char_shiftRight _ (by decide),
    hvalue, hhigh,
    hlast]
  exact ⟨⟨rfl, Nat.mod_one _⟩, rfl⟩

/-- What is behind the loop: the letter of the bits that still wait. -/
def finishBase64 (state : Base64State) : Bytes :=
  if state.bits > 0 then
    state.output ++ [base64Char (state.accumulator <<< UInt32.ofNat (6 - state.bits))]
  else state.output

theorem finishBase64_eq {state : Base64State} {bits pending : Nat}
    (h : Unwritten state bits pending) (hbits : bits = 2 ∨ bits = 4) :
    finishBase64 state = state.output ++ [Base64.letter (pending * 2 ^ (6 - bits))] := by
  obtain ⟨hcount, hlow⟩ := h
  have hletter :
      (state.accumulator <<< UInt32.ofNat (6 - bits)).toNat % 64 = pending * 2 ^ (6 - bits) := by
    rw [UInt32.toNat_shiftLeft, Nat.shiftLeft_eq, ← hlow]
    rcases hbits with rfl | rfl
    · simp only [UInt32.reduceOfNat, UInt32.reduceToNat, Nat.reduceSub, Nat.reduceMod]
      omega
    · simp only [UInt32.reduceOfNat, UInt32.reduceToNat, Nat.reduceSub, Nat.reduceMod]
      omega
  rw [finishBase64, hcount, if_pos (by omega), base64Char_eq, hletter]

/-- The loop, from a state in which no bit waits. -/
theorem finishBase64_foldl (input : Bytes) {state : Base64State} (h : Unwritten state 0 0) :
    finishBase64 (input.foldl base64Step state) = state.output ++ Base64.encode input := by
  induction input using Base64.sextets.induct generalizing state with
  | case1 =>
      rw [List.foldl_nil, finishBase64, h.count]
      exact (List.append_nil _).symm
  | case2 x =>
      obtain ⟨hx, hout⟩ := base64Step_first h x
      rw [List.foldl_cons, List.foldl_nil, finishBase64_eq hx (.inl rfl), hout]
      simp [Base64.encode, Base64.sextets]
  | case3 x y =>
      obtain ⟨hx, hout⟩ := base64Step_first h x
      obtain ⟨hy, hout'⟩ := base64Step_second hx y
      rw [List.foldl_cons, List.foldl_cons, List.foldl_nil,
        finishBase64_eq hy (.inr rfl), hout', hout]
      simp [Base64.encode, Base64.sextets]
  | case4 x y z rest ih =>
      obtain ⟨hx, hout⟩ := base64Step_first h x
      obtain ⟨hy, hout'⟩ := base64Step_second hx y
      obtain ⟨hz, hout''⟩ := base64Step_third hy z
      rw [List.foldl_cons, List.foldl_cons, List.foldl_cons, ih hz, hout'', hout', hout]
      simp [Base64.encode, Base64.sextets]

/-- `Base64Url` is the encoding. -/
theorem base64Url_eq_encode (input : Bytes) : base64Url input = Base64.encode input :=
  finishBase64_foldl input ⟨rfl, Nat.mod_one _⟩

/-- `Base64Url` of a non-empty input is not empty. -/
theorem base64Url_ne_nil {input : Bytes} (h : input ≠ []) : base64Url input ≠ [] := by
  have hlength := Base64.length_encode input
  have hpos : 0 < input.length := List.length_pos_iff.mpr h
  rw [base64Url_eq_encode]
  intro hnil
  rw [hnil, List.length_nil] at hlength
  omega

/-! ## Identifiers -/

/-- What one `RandomSource::Fill` of an identifier's 16 bytes can do: fill
the buffer, or throw. -/
abbrev Entropy := Option (Vector UInt8 16)

/-- `GenerateOpaqueId` from the bytes of one `Fill`. -/
def generateOpaqueId (buffer : Vector UInt8 16) : Bytes := base64Url buffer.toList

theorem generateOpaqueId_ne_nil (buffer : Vector UInt8 16) : generateOpaqueId buffer ≠ [] :=
  base64Url_ne_nil fun h => by
    have := congrArg List.length h
    simp at this

/-! ## ConstantTimeEquals -/

/-- `ConstantTimeEquals`. -/
def constantTimeEquals (left right : Bytes) : Bool :=
  let count := if left.length > right.length then left.length else right.length
  let difference := (List.range count).foldl
    (fun difference i => difference ||| ((left.getD i 0).toNat ^^^ (right.getD i 0).toNat))
    (left.length ^^^ right.length)
  difference == 0

private theorem foldl_or_eq_zero (f : Nat → Nat) (indices : List Nat) (start : Nat) :
    indices.foldl (fun difference i => difference ||| f i) start = 0 ↔
      start = 0 ∧ ∀ i ∈ indices, f i = 0 := by
  induction indices generalizing start with
  | nil => simp
  | cons i rest ih =>
      rw [List.foldl_cons, ih, Nat.or_eq_zero_iff]
      simp [and_assoc]

/-- `ConstantTimeEquals` answers true exactly on equal strings. -/
theorem constantTimeEquals_iff (left right : Bytes) :
    constantTimeEquals left right = true ↔ left = right := by
  simp only [constantTimeEquals, beq_iff_eq]
  rw [foldl_or_eq_zero, Nat.xor_eq_zero_iff]
  constructor
  · rintro ⟨hlen, hall⟩
    refine List.ext_getElem hlen fun i hl hr => ?_
    have hmem : i ∈ List.range (if left.length > right.length then left.length
        else right.length) := by
      rw [List.mem_range]
      split <;> omega
    have hxor := hall i hmem
    rw [Nat.xor_eq_zero_iff] at hxor
    simpa [List.getD_eq_getElem?_getD, hl, hr] using UInt8.toNat_inj.mp hxor
  · rintro rfl
    exact ⟨rfl, fun i _ => Nat.xor_self _⟩

end Data360
