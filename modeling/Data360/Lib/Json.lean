import Data360.Lib.Bytes

/-!
# JSON texts

A reader and a writer of JSON over byte strings.  The reader accepts the
grammar of RFC 8259 with white space, and passes bytes from `0x80` on through
inside of strings.  A number is kept as its literal, and an object as the list
of its members, so duplicate names stay visible.

* `readString_escape` says that reading undoes the escaping of a string.
* `NumberParts` is the grammar of numbers, and `NumberParts.literal` says that the reader
  takes them as a whole.
* `readValue_write` says that the reader takes a written value off the front of
  a text, and `parse_write` that a written value is read back.

The reader counts its steps down from the length of the text.
-/

namespace Lib.Json

open Lib.ByteString

/-- A JSON value. -/
inductive Value where
  | null
  | bool (flag : Bool)
  | number (literal : Bytes)
  | string (text : Bytes)
  | array (items : List Value)
  | object (members : List (Bytes × Value))

/-- The number that a value of digits only denotes, when it fits in 64 bits. -/
def Value.uint : Value → Option UInt64
  | .number literal =>
      if literal.all isDigit ∧ ofDecimal literal < 2 ^ 64 then
        some (UInt64.ofNat (ofDecimal literal))
      else none
  | _ => none

/-- A printed number denotes itself. -/
theorem uint_toDecimal (n : UInt64) : (Value.number (toDecimal n.toNat)).uint = some n := by
  have hdigits : (toDecimal n.toNat).all isDigit = true :=
    List.all_eq_true.mpr fun c => isDigit_of_mem_toDecimal
  rw [Value.uint, ofDecimal_toDecimal, if_pos ⟨hdigits, n.toNat_lt⟩, UInt64.ofNat_toNat]

/-! ## Strings -/

/-- A piece of a string literal: a byte, or the code unit of a `\u` escape. -/
inductive Piece where
  | byte (c : UInt8)
  | unit (code : Nat)
  deriving DecidableEq, Repr

/-- The byte that a one-character escape stands for. -/
def unescapeByte (c : UInt8) : Option UInt8 :=
  if c = 34 ∨ c = 92 ∨ c = 47 then some c
  else if c = 98 then some 8
  else if c = 102 then some 12
  else if c = 110 then some 10
  else if c = 114 then some 13
  else if c = 116 then some 9
  else none

/-- The code unit that four hexadecimal digits denote. -/
def codeUnit (a b c d : UInt8) : Option Nat := do
  let a ← hexDigitValue a
  let b ← hexDigitValue b
  let c ← hexDigitValue c
  let d ← hexDigitValue d
  pure (a.toNat * 4096 + b.toNat * 256 + c.toNat * 16 + d.toNat)

/-- The pieces of a string literal, from behind its opening quote to its closing
quote. -/
def readPieces : Bytes → Option (List Piece × Bytes)
  | [] => none
  | c :: rest =>
      if c = 34 then some ([], rest)
      else if c = 92 then
        match rest with
        | [] => none
        | e :: rest =>
            if e = 117 then
              match rest with
              | a :: b :: c :: d :: rest => do
                  let code ← codeUnit a b c d
                  let (pieces, rest) ← readPieces rest
                  pure (.unit code :: pieces, rest)
              | _ => none
            else do
              let c ← unescapeByte e
              let (pieces, rest) ← readPieces rest
              pure (.byte c :: pieces, rest)
      else if c < 32 then none
      else do
        let (pieces, rest) ← readPieces rest
        pure (.byte c :: pieces, rest)

/-- The UTF-8 form of a code point. -/
def utf8 (point : Nat) : Bytes :=
  if point < 0x80 then [UInt8.ofNat point]
  else if point < 0x800 then
    [UInt8.ofNat (0xC0 + point / 64), UInt8.ofNat (0x80 + point % 64)]
  else if point < 0x10000 then
    [UInt8.ofNat (0xE0 + point / 4096), UInt8.ofNat (0x80 + point / 64 % 64),
      UInt8.ofNat (0x80 + point % 64)]
  else
    [UInt8.ofNat (0xF0 + point / 262144), UInt8.ofNat (0x80 + point / 4096 % 64),
      UInt8.ofNat (0x80 + point / 64 % 64), UInt8.ofNat (0x80 + point % 64)]

/-- The text of the pieces.  Two surrogates make one code point, and a surrogate
on its own is refused. -/
def joinPieces : List Piece → Option Bytes
  | [] => some []
  | .byte c :: rest => (joinPieces rest).map (c :: ·)
  | .unit high :: rest =>
      if high < 0xD800 ∨ 0xDFFF < high then (joinPieces rest).map (utf8 high ++ ·)
      else
        match rest with
        | .unit low :: rest =>
            if high < 0xDC00 ∧ 0xDC00 ≤ low ∧ low ≤ 0xDFFF then
              (joinPieces rest).map
                (utf8 (0x10000 + (high - 0xD800) * 1024 + (low - 0xDC00)) ++ ·)
            else none
        | _ => none

/-- A string literal, from behind its opening quote. -/
def readString (s : Bytes) : Option (Bytes × Bytes) := do
  let (pieces, rest) ← readPieces s
  let text ← joinPieces pieces
  pure (text, rest)

/-- The text of the string literal whose inside is `value`. -/
def unescape (value : Bytes) : Option Bytes :=
  match readString (value ++ [34]) with
  | some (text, []) => some text
  | _ => none

/-- One escaped byte of a string literal. -/
def escapeByte (c : UInt8) : Bytes :=
  if c = 34 ∨ c = 92 then [92, c]
  else if c = 8 then [92, 98]
  else if c = 12 then [92, 102]
  else if c = 10 then [92, 110]
  else if c = 13 then [92, 114]
  else if c = 9 then [92, 116]
  else if c < 32 then
    [92, 117, 48, 48, toLower (hexDigit (c >>> 4)), toLower (hexDigit (c &&& 15))]
  else [c]

/-- The inside of a string literal. -/
def escape (text : Bytes) : Bytes := text.flatMap escapeByte

/-- The piece as which an escaped byte is read. -/
def pieceOf (c : UInt8) : Piece :=
  if c < 32 ∧ c ≠ 8 ∧ c ≠ 12 ∧ c ≠ 10 ∧ c ≠ 13 ∧ c ≠ 9 then .unit c.toNat else .byte c

theorem readPieces_quote (rest : Bytes) : readPieces (34 :: rest) = some ([], rest) := by
  rw [readPieces.eq_def]
  rfl

/-- Reading takes an escaped byte off the front. -/
theorem readPieces_escapeByte (c : UInt8) (rest : Bytes) :
    readPieces (escapeByte c ++ rest) = (readPieces rest).map fun r => (pieceOf c :: r.1, r.2) := by
  have hpair (e d : UInt8) (he : e ≠ 117) (hd : unescapeByte e = some d) :
      readPieces (92 :: e :: rest) = (readPieces rest).map fun r => (.byte d :: r.1, r.2) := by
    rw [readPieces.eq_def]
    simp only [if_neg (by decide : ¬ (92 : UInt8) = 34), if_true, if_neg he, hd]
    cases readPieces rest <;> rfl
  by_cases hsafe : 32 ≤ c ∧ c ≠ 34 ∧ c ≠ 92
  · -- the byte stands for itself
    obtain ⟨hle, hquote, hslash⟩ := hsafe
    have hchecks : escapeByte c = [c] ∧ pieceOf c = .byte c ∧ ¬ c < 32 :=
      forall_byte (P := fun c => 32 ≤ c → c ≠ 34 → c ≠ 92 →
        escapeByte c = [c] ∧ pieceOf c = .byte c ∧ ¬ c < 32) (by decide +kernel) c hle hquote hslash
    rw [hchecks.1, hchecks.2.1, List.singleton_append, readPieces.eq_def]
    simp only [if_neg hquote, if_neg hslash, if_neg hchecks.2.2]
    cases readPieces rest <;> rfl
  · by_cases hshort : c = 34 ∨ c = 92 ∨ c = 8 ∨ c = 12 ∨ c = 10 ∨ c = 13 ∨ c = 9
    · -- an escape of one character
      rcases hshort with rfl | rfl | rfl | rfl | rfl | rfl | rfl
      · exact hpair 34 34 (by decide) rfl
      · exact hpair 92 92 (by decide) rfl
      · exact hpair 98 8 (by decide) rfl
      · exact hpair 102 12 (by decide) rfl
      · exact hpair 110 10 (by decide) rfl
      · exact hpair 114 13 (by decide) rfl
      · exact hpair 116 9 (by decide) rfl
    · -- a code unit
      have hchecks := forall_byte (P := fun c =>
        ¬ (32 ≤ c ∧ c ≠ 34 ∧ c ≠ 92) →
        ¬ (c = 34 ∨ c = 92 ∨ c = 8 ∨ c = 12 ∨ c = 10 ∨ c = 13 ∨ c = 9) →
        escapeByte c = [92, 117, 48, 48, toLower (hexDigit (c >>> 4)),
          toLower (hexDigit (c &&& 15))] ∧
          codeUnit 48 48 (toLower (hexDigit (c >>> 4)))
            (toLower (hexDigit (c &&& 15))) = some c.toNat ∧
          pieceOf c = .unit c.toNat) (by decide +kernel) c hsafe hshort
      obtain ⟨hescape, hunit, hpiece⟩ := hchecks
      rw [hescape, hpiece]
      simp only [List.cons_append, List.nil_append]
      rw [readPieces.eq_def]
      simp only [if_neg (by decide : ¬ (92 : UInt8) = 34), if_true, hunit]
      cases readPieces rest <;> rfl

theorem readPieces_escape (text rest : Bytes) :
    readPieces (escape text ++ 34 :: rest) = some (text.map pieceOf, rest) := by
  induction text with
  | nil => exact readPieces_quote rest
  | cons c text ih =>
      rw [escape, List.flatMap_cons, List.append_assoc, readPieces_escapeByte, ← escape, ih]
      rfl

theorem joinPieces_map (text : Bytes) : joinPieces (text.map pieceOf) = some text := by
  induction text with
  | nil => rfl
  | cons c text ih =>
      rw [List.map_cons]
      by_cases hunit : c < 32 ∧ c ≠ 8 ∧ c ≠ 12 ∧ c ≠ 10 ∧ c ≠ 13 ∧ c ≠ 9
      · have hlt : c.toNat < 32 := UInt8.lt_iff_toNat_lt.mp hunit.1
        have hutf8 : utf8 c.toNat = [c] := by
          rw [utf8, if_pos (by omega), UInt8.ofNat_toNat]
        rw [pieceOf, if_pos hunit, joinPieces.eq_def]
        simp only [if_pos (Or.inl (by omega : c.toNat < 0xD800)), hutf8, ih]
        rfl
      · rw [pieceOf, if_neg hunit, joinPieces.eq_def]
        simp only [ih]
        rfl

/-- Reading undoes the escaping of a string. -/
theorem readString_escape (text rest : Bytes) :
    readString (escape text ++ 34 :: rest) = some (text, rest) := by
  rw [readString, readPieces_escape]
  simp only [Option.bind_eq_bind, Option.bind_some, joinPieces_map]
  rfl

theorem unescape_escape (text : Bytes) : unescape (escape text) = some text := by
  rw [unescape, readString_escape]

/-! ## Numbers -/

/-- One or more digits. -/
def readDigits (s : Bytes) : Option (Bytes × Bytes) :=
  let (digits, rest) := s.span isDigit
  if digits = [] then none else some (digits, rest)

/-- The whole part of a number: a zero, or digits that start with another one. -/
def readWhole : Bytes → Option (Bytes × Bytes)
  | [] => none
  | c :: rest => if c = 48 then some ([48], rest) else readDigits (c :: rest)

/-- The fraction of a number, which may be absent. -/
def readFraction : Bytes → Option (Bytes × Bytes)
  | [] => some ([], [])
  | c :: rest =>
      if c = 46 then (readDigits rest).map fun (digits, rest) => (46 :: digits, rest)
      else some ([], c :: rest)

/-- The exponent of a number, which may be absent. -/
def readExponent : Bytes → Option (Bytes × Bytes)
  | [] => some ([], [])
  | c :: rest =>
      if c = 69 ∨ c = 101 then
        match rest with
        | [] => none
        | sign :: behind =>
            if sign = 43 ∨ sign = 45 then
              (readDigits behind).map fun (digits, rest) => (c :: sign :: digits, rest)
            else (readDigits rest).map fun (digits, rest) => (c :: digits, rest)
      else some ([], c :: rest)

/-- A number: its literal. -/
def readNumber (s : Bytes) : Option (Bytes × Bytes) := do
  let (sign, s) := if s.head? = some 45 then ([45], s.tail) else ([], s)
  let (whole, s) ← readWhole s
  let (fraction, s) ← readFraction s
  let (exponent, s) ← readExponent s
  pure (sign ++ whole ++ fraction ++ exponent, s)

/-- A number cannot go on here. -/
def Stops (rest : Bytes) : Prop :=
  ∀ c, rest.head? = some c → isDigit c = false ∧ c ≠ 46 ∧ c ≠ 69 ∧ c ≠ 101

/-- No digit comes next. -/
def NoDigit (rest : Bytes) : Prop := ∀ c, rest.head? = some c → isDigit c = false

theorem Stops.noDigit {rest : Bytes} (h : Stops rest) : NoDigit rest := fun c hc => (h c hc).1

theorem noDigit_cons {c : UInt8} (h : isDigit c = false) (rest : Bytes) : NoDigit (c :: rest) := by
  intro d hd
  rwa [← Option.some.inj hd]

theorem span_digits {digits rest : Bytes} (h : ∀ c ∈ digits, isDigit c = true)
    (hrest : NoDigit rest) : (digits ++ rest).span isDigit = (digits, rest) := by
  induction digits with
  | nil =>
      cases rest with
      | nil => rfl
      | cons c rest => simp [List.span_eq_takeWhile_dropWhile, hrest c rfl]
  | cons c digits ih =>
      obtain ⟨hc, hdigits⟩ := List.forall_mem_cons.mp h
      have hih := ih hdigits
      simp only [List.span_eq_takeWhile_dropWhile, Prod.mk.injEq] at hih ⊢
      simp [hc, hih]

theorem readDigits_append {digits rest : Bytes} (hne : digits ≠ [])
    (h : ∀ c ∈ digits, isDigit c = true) (hrest : NoDigit rest) :
    readDigits (digits ++ rest) = some (digits, rest) := by
  rw [readDigits, span_digits h hrest]
  exact if_neg hne

theorem readExponent_stops {rest : Bytes} (h : Stops rest) :
    readExponent rest = some ([], rest) := by
  cases rest with
  | nil => rfl
  | cons c rest =>
      rw [readExponent.eq_def]
      exact if_neg (not_or.mpr (h c rfl).2.2)

/-- A literal that the reader takes as a whole, wherever the text goes on with
something else. -/
structure NumberLiteral (literal : Bytes) : Prop where
  starts : ∃ c tail, literal = c :: tail ∧ (c = 45 ∨ isDigit c = true)
  whole : ∀ rest, Stops rest → readNumber (literal ++ rest) = some (literal, rest)

/-- The whole part of a literal. -/
inductive Whole : Bytes → Prop
  | zero : Whole [48]
  | digits {c : UInt8} {digits : Bytes} (h : ∀ d ∈ c :: digits, isDigit d = true) (hne : c ≠ 48) :
      Whole (c :: digits)

/-- The fraction of a literal. -/
inductive Fraction : Bytes → Prop
  | absent : Fraction []
  | digits {digits : Bytes} (hne : digits ≠ []) (h : ∀ d ∈ digits, isDigit d = true) :
      Fraction (46 :: digits)

/-- The exponent of a literal. -/
inductive Exponent : Bytes → Prop
  | absent : Exponent []
  | unsigned {e : UInt8} {digits : Bytes} (he : e = 69 ∨ e = 101) (hne : digits ≠ [])
      (h : ∀ d ∈ digits, isDigit d = true) : Exponent (e :: digits)
  | signed {e sign : UInt8} {digits : Bytes} (he : e = 69 ∨ e = 101) (hsign : sign = 43 ∨ sign = 45)
      (hne : digits ≠ []) (h : ∀ d ∈ digits, isDigit d = true) : Exponent (e :: sign :: digits)

/-- The grammar of a number. -/
structure NumberParts (literal sign whole fraction exponent : Bytes) : Prop where
  written : literal = sign ++ whole ++ fraction ++ exponent
  sign : sign = [] ∨ sign = [45]
  whole : Whole whole
  fraction : Fraction fraction
  exponent : Exponent exponent

theorem Whole.read {whole rest : Bytes} (h : Whole whole) (hrest : NoDigit rest) :
    readWhole (whole ++ rest) = some (whole, rest) := by
  cases h with
  | zero => rfl
  | digits hdigits hne =>
      rw [List.cons_append, readWhole, if_neg hne, ← List.cons_append,
        readDigits_append (by simp) hdigits hrest]

theorem Fraction.read {fraction rest : Bytes} (h : Fraction fraction) (hrest : NoDigit rest)
    (hdot : rest.head? ≠ some 46) : readFraction (fraction ++ rest) = some (fraction, rest) := by
  cases h with
  | absent =>
      cases rest with
      | nil => rfl
      | cons c rest =>
          have hne : c ≠ 46 := fun h => hdot (h ▸ rfl)
          rw [List.nil_append, readFraction, if_neg hne]
  | digits hne hdigits =>
      rw [List.cons_append, readFraction, if_pos rfl, readDigits_append hne hdigits hrest]
      rfl

theorem Exponent.read {exponent rest : Bytes} (h : Exponent exponent) (hrest : Stops rest) :
    readExponent (exponent ++ rest) = some (exponent, rest) := by
  cases h with
  | absent => exact readExponent_stops hrest
  | @unsigned e digits he hne hdigits =>
      obtain ⟨d, tail, rfl⟩ := List.exists_cons_of_ne_nil hne
      have hd : isDigit d = true := hdigits d List.mem_cons_self
      have hsign : ¬ (d = 43 ∨ d = 45) := by
        rintro (rfl | rfl)
        all_goals exact absurd hd (by decide)
      rw [List.cons_append, List.cons_append, readExponent.eq_def]
      simp only [if_pos he, if_neg hsign]
      rw [← List.cons_append, readDigits_append hne hdigits hrest.noDigit]
      rfl
  | signed he hsign hne hdigits =>
      rw [List.cons_append, List.cons_append, readExponent.eq_def]
      simp only [if_pos he, if_pos hsign]
      rw [readDigits_append hne hdigits hrest.noDigit]
      rfl

/-- What follows the digits of a number is no digit, and no dot behind its fraction. -/
theorem Exponent.starts {exponent rest : Bytes} (h : Exponent exponent) (hrest : Stops rest) :
    NoDigit (exponent ++ rest) ∧ (exponent ++ rest).head? ≠ some 46 := by
  cases h with
  | absent => exact ⟨hrest.noDigit, fun hdot => (hrest 46 hdot).2.1 rfl⟩
  | unsigned he | signed he =>
      rcases he with rfl | rfl
      all_goals exact ⟨noDigit_cons (by decide) _, by simp⟩

/-- Every literal of the grammar is read as a whole. -/
theorem NumberParts.literal {literal sign whole fraction exponent : Bytes}
    (h : NumberParts literal sign whole fraction exponent) : NumberLiteral literal := by
  obtain ⟨rfl, hsign, hwhole, hfraction, hexponent⟩ := h
  obtain ⟨c, tail, hcons, hdigit⟩ : ∃ c tail, whole = c :: tail ∧ isDigit c = true := by
    cases hwhole with
    | zero => exact ⟨48, [], rfl, by decide⟩
    | @digits c digits hdigits _ => exact ⟨c, digits, rfl, hdigits c List.mem_cons_self⟩
  refine ⟨?_, fun rest hrest => ?_⟩
  · rcases hsign with rfl | rfl
    · exact ⟨c, tail ++ fraction ++ exponent, by rw [hcons]; rfl, .inr hdigit⟩
    · exact ⟨45, whole ++ fraction ++ exponent, rfl, .inl rfl⟩
  · obtain ⟨hnoDigit, hdot⟩ := hexponent.starts hrest
    have hbehind : NoDigit (fraction ++ (exponent ++ rest)) := by
      cases hfraction with
      | absent => exact hnoDigit
      | digits _ _ => exact noDigit_cons (by decide) _
    have hread : (do
        let (whole', s) ← readWhole (whole ++ (fraction ++ (exponent ++ rest)))
        let (fraction, s) ← readFraction s
        let (exponent, s) ← readExponent s
        pure (sign ++ whole' ++ fraction ++ exponent, s) : Option (Bytes × Bytes))
        = some (sign ++ whole ++ fraction ++ exponent, rest) := by
      rw [hwhole.read hbehind]
      simp only [Option.bind_eq_bind, Option.bind_some, hfraction.read hnoDigit hdot,
        hexponent.read hrest]
      rfl
    have hassoc : sign ++ whole ++ fraction ++ exponent ++ rest
        = sign ++ (whole ++ (fraction ++ (exponent ++ rest))) := by
      simp only [List.append_assoc]
    rw [hassoc, readNumber]
    rcases hsign with rfl | rfl
    · have hminus :
        (([] : Bytes) ++ (whole ++ (fraction ++ (exponent ++ rest)))).head? ≠ some 45 := by
        rw [hcons]
        intro heq
        rw [Option.some.inj heq] at hdigit
        exact absurd hdigit (by decide)
      rw [if_neg hminus]
      exact hread
    · exact hread

/-- A printed number starts with a zero only if it is zero. -/
theorem whole_toDecimal (n : Nat) : Whole (toDecimal n) := by
  by_cases hn : n = 0
  · subst hn
    exact .zero
  · have hdigits : ∀ c ∈ toDecimal n, isDigit c = true := fun c => isDigit_of_mem_toDecimal
    obtain ⟨c, digits, hcons⟩ := List.exists_cons_of_ne_nil (toDecimal_ne_nil n)
    have hzero : c ≠ 48 := by
      have hlast := Nat.getLast_digit_ne_zero 10 hn
      have hlt := Nat.digits_lt_base (b := 10) (by decide)
        (List.getLast_mem (Nat.digits_ne_nil_iff_ne_zero.mpr hn))
      have hhead : (toDecimal n).head? = some (digitChar
          ((Nat.digits 10 n).getLast (Nat.digits_ne_nil_iff_ne_zero.mpr hn))) := by
        rw [toDecimal, if_neg hn, List.head?_map, List.head?_reverse,
          List.getLast?_eq_getLast_of_ne_nil (Nat.digits_ne_nil_iff_ne_zero.mpr hn)]
        rfl
      rw [hcons, List.head?_cons] at hhead
      intro heq
      have hval := digitChar_toNat hlt
      rw [← Option.some.inj hhead, heq] at hval
      have : (48 : UInt8).toNat = 48 := rfl
      omega
    rw [hcons] at hdigits ⊢
    exact .digits hdigits hzero

theorem numberLiteral_toDecimal (n : Nat) : NumberLiteral (toDecimal n) :=
  NumberParts.literal ⟨(by simp : toDecimal n = [] ++ toDecimal n ++ [] ++ []), .inl rfl,
    whole_toDecimal n, .absent, .absent⟩

/-! ## Values -/

/-- White space between the tokens. -/
def skipSpace (s : Bytes) : Bytes :=
  s.dropWhile fun c => c = 32 || c = 9 || c = 10 || c = 13

/-- What follows the byte `c`, with white space in front of it. -/
def expect (c : UInt8) (s : Bytes) : Option Bytes :=
  match skipSpace s with
  | [] => none
  | d :: rest => if d = c then some rest else none

/-- One or more elements with commas between them, up to the closing byte. -/
def readElements {α : Type} (element : Bytes → Option (α × Bytes)) (close : UInt8) :
    Nat → Bytes → Option (List α × Bytes)
  | 0, _ => none
  | fuel + 1, s => do
      let (first, rest) ← element s
      match expect close rest with
      | some rest => pure ([first], rest)
      | none => do
          let rest ← expect 44 rest
          let (more, rest) ← readElements element close fuel rest
          pure (first :: more, rest)

/-- A member of an object. -/
def readMember (value : Bytes → Option (Value × Bytes)) (s : Bytes) :
    Option ((Bytes × Value) × Bytes) := do
  let rest ← expect 34 s
  let (name, rest) ← readString rest
  let rest ← expect 58 rest
  let (member, rest) ← value rest
  pure ((name, member), rest)

/-- The literals of JSON. -/
def readWord (s : Bytes) : Option (Value × Bytes) :=
  if (ascii "null").isPrefixOf s then some (.null, s.drop 4)
  else if (ascii "true").isPrefixOf s then some (.bool true, s.drop 4)
  else if (ascii "false").isPrefixOf s then some (.bool false, s.drop 5)
  else none

/-- A value at the front of a text. -/
def readValue : Nat → Bytes → Option (Value × Bytes)
  | 0, _ => none
  | fuel + 1, s =>
      match skipSpace s with
      | [] => none
      | c :: rest =>
          if c = 34 then (readString rest).map fun (text, rest) => (.string text, rest)
          else if c = 123 then
            match expect 125 rest with
            | some rest => some (.object [], rest)
            | none => (readElements (readMember (readValue fuel)) 125 fuel rest).map
                fun (members, rest) => (.object members, rest)
          else if c = 91 then
            match expect 93 rest with
            | some rest => some (.array [], rest)
            | none => (readElements (readValue fuel) 93 fuel rest).map
                fun (items, rest) => (.array items, rest)
          else if c = 45 ∨ isDigit c then
            (readNumber (c :: rest)).map fun (literal, rest) => (.number literal, rest)
          else readWord (c :: rest)

/-- A JSON text: one value. -/
def parse (text : Bytes) : Option Value :=
  match readValue (text.length + 1) text with
  | some (value, rest) => if skipSpace rest = [] then some value else none
  | none => none

/-! ## Writing -/

mutual

/-- A value, without white space. -/
def write : Value → Bytes
  | .null => ascii "null"
  | .bool true => ascii "true"
  | .bool false => ascii "false"
  | .number literal => literal
  | .string text => 34 :: escape text ++ [34]
  | .array items => 91 :: writeItems items ++ [93]
  | .object members => 123 :: writeMembers members ++ [125]

/-- The items of an array. -/
def writeItems : List Value → Bytes
  | [] => []
  | [item] => write item
  | item :: next :: rest => write item ++ 44 :: writeItems (next :: rest)

/-- The members of an object. -/
def writeMembers : List (Bytes × Value) → Bytes
  | [] => []
  | [(name, value)] => 34 :: escape name ++ 34 :: 58 :: write value
  | (name, value) :: next :: rest =>
      34 :: escape name ++ 34 :: 58 :: write value ++ 44 :: writeMembers (next :: rest)

end

/-- One member of an object. -/
def writeMember (member : Bytes × Value) : Bytes :=
  34 :: escape member.1 ++ 34 :: 58 :: write member.2

/-- The values whose numbers are literals. -/
inductive Readable : Value → Prop where
  | null : Readable .null
  | bool (flag : Bool) : Readable (.bool flag)
  | number {literal : Bytes} (h : NumberLiteral literal) : Readable (.number literal)
  | string (text : Bytes) : Readable (.string text)
  | array {items : List Value} (h : ∀ item ∈ items, Readable item) : Readable (.array items)
  | object {members : List (Bytes × Value)} (h : ∀ member ∈ members, Readable member.2) :
      Readable (.object members)

/-- Two or more written elements: the first, a comma, and the others. -/
theorem intercalate_map_cons {α : Type} (written : α → Bytes) (x : α) {xs : List α} (h : xs ≠ []) :
    [44].intercalate ((x :: xs).map written)
      = written x ++ 44 :: [44].intercalate (xs.map written) := by
  rw [List.map_cons, List.intercalate_cons_of_ne_nil (by simpa using h), List.append_assoc]
  rfl

theorem writeItems_eq (items : List Value) :
    writeItems items = [44].intercalate (items.map write) := by
  induction items with
  | nil => rfl
  | cons item items ih =>
      cases items with
      | nil => simp [writeItems]
      | cons next rest =>
          rw [intercalate_map_cons write item (List.cons_ne_nil next rest), ← ih]
          rfl

theorem writeMembers_eq (members : List (Bytes × Value)) :
    writeMembers members = [44].intercalate (members.map writeMember) := by
  induction members with
  | nil => rfl
  | cons member members ih =>
      cases members with
      | nil => simp [writeMembers, writeMember]
      | cons next rest =>
          rw [intercalate_map_cons writeMember member (List.cons_ne_nil next rest), ← ih]
          rfl

/-! ## Reading what was written -/

/-- A byte that white space does not skip. -/
def Visible (c : UInt8) : Prop := c ≠ 32 ∧ c ≠ 9 ∧ c ≠ 10 ∧ c ≠ 13

instance (c : UInt8) : Decidable (Visible c) := inferInstanceAs (Decidable (_ ∧ _))

theorem skipSpace_visible {c : UInt8} (h : Visible c) (rest : Bytes) :
    skipSpace (c :: rest) = c :: rest := by
  simp [skipSpace, h.1, h.2.1, h.2.2.1, h.2.2.2]

theorem expect_self {c : UInt8} (h : Visible c) (rest : Bytes) :
    expect c (c :: rest) = some rest := by
  rw [expect, skipSpace_visible h]
  exact if_pos rfl

theorem expect_other {c d : UInt8} (h : Visible d) (hne : d ≠ c) (rest : Bytes) :
    expect c (d :: rest) = none := by
  rw [expect, skipSpace_visible h]
  exact if_neg hne

theorem stops_comma (rest : Bytes) : Stops (44 :: rest) := by
  intro c hc
  obtain rfl := Option.some.inj hc
  decide

theorem stops_close {close : UInt8} (h : close = 93 ∨ close = 125) (rest : Bytes) :
    Stops (close :: rest) := by
  intro c hc
  obtain rfl := Option.some.inj hc
  rcases h with rfl | rfl <;> decide

/-- Elements with commas between them are read back when each of them is. -/
theorem readElements_intercalate {α : Type} {element : Bytes → Option (α × Bytes)}
    {written : α → Bytes} {close : UInt8} (hclose : close = 93 ∨ close = 125) {xs : List α}
    (hne : xs ≠ []) {fuel : Nat} (hfuel : xs.length ≤ fuel) (rest : Bytes)
    (h : ∀ x ∈ xs, ∀ rest, Stops rest → element (written x ++ rest) = some (x, rest)) :
    readElements element close fuel ([44].intercalate (xs.map written) ++ close :: rest)
      = some (xs, rest) := by
  have hvisible : Visible close := by rcases hclose with rfl | rfl <;> decide
  have hcomma : (44 : UInt8) ≠ close := by rcases hclose with rfl | rfl <;> decide
  induction xs generalizing fuel with
  | nil => exact absurd rfl hne
  | cons x xs ih =>
      obtain ⟨hx, hxs⟩ := List.forall_mem_cons.mp h
      cases fuel with
      | zero => simp at hfuel
      | succ fuel =>
          by_cases hlast : xs = []
          · subst hlast
            rw [List.map_cons, List.map_nil, List.intercalate_singleton, readElements,
              hx _ (stops_close hclose rest)]
            simp only [Option.bind_eq_bind, Option.bind_some, expect_self hvisible]
            rfl
          · have hrest := ih hlast (by simpa using hfuel) hxs
            rw [intercalate_map_cons written x hlast, List.append_assoc, List.cons_append,
              readElements, hx _ (stops_comma _)]
            simp only [Option.bind_eq_bind, Option.bind_some,
              expect_other (by decide : Visible 44) hcomma,
              expect_self (by decide : Visible 44), hrest]
            rfl

theorem readElements_items {fuel : Nat} {items : List Value} (hne : items ≠ [])
    (hfuel : items.length ≤ fuel) (rest : Bytes)
    (h : ∀ item ∈ items, ∀ rest, Stops rest →
      readValue fuel (write item ++ rest) = some (item, rest)) :
    readElements (readValue fuel) 93 fuel (writeItems items ++ 93 :: rest) = some
      (items, rest) := by
  rw [writeItems_eq]
  exact readElements_intercalate (.inl rfl) hne hfuel rest h

/-- A written member is read back when its value is. -/
theorem readMember_writeMember {value : Bytes → Option (Value × Bytes)} {member : Bytes × Value}
    {rest : Bytes} (h : value (write member.2 ++ rest) = some (member.2, rest)) :
    readMember value (writeMember member ++ rest) = some (member, rest) := by
  have hquote : expect 34 (writeMember member ++ rest)
      = some (escape member.1 ++ 34 :: 58 :: (write member.2 ++ rest)) := by
    rw [writeMember, List.cons_append, List.cons_append, expect_self (by decide : Visible 34)]
    simp
  rw [readMember, hquote]
  simp only [Option.bind_eq_bind, Option.bind_some, readString_escape,
    expect_self (by decide : Visible 58), h]
  rfl

/-- A number starts with a byte that starts nothing else. -/
theorem numberStart_ne {c : UInt8} (h : c = 45 ∨ isDigit c = true) :
    Visible c ∧ c ≠ 34 ∧ c ≠ 123 ∧ c ≠ 91 ∧ c ≠ 93 := by
  rcases h with rfl | h
  · decide
  · exact forall_byte (P := fun c => isDigit c = true →
      Visible c ∧ c ≠ 34 ∧ c ≠ 123 ∧ c ≠ 91 ∧ c ≠ 93) (by decide +kernel) c h

/-- A written value starts with a byte that is no white space and closes no
array. -/
theorem write_starts {v : Value} (h : Readable v) :
    ∃ c tail, write v = c :: tail ∧ Visible c ∧ c ≠ 93 := by
  cases h with
  | null => exact ⟨110, _, rfl, by decide⟩
  | bool flag =>
      cases flag with
      | true => exact ⟨116, _, rfl, by decide⟩
      | false => exact ⟨102, _, rfl, by decide⟩
  | number h =>
      obtain ⟨c, tail, rfl, hc⟩ := h.starts
      obtain ⟨hvisible, -, -, -, hclose⟩ := numberStart_ne hc
      exact ⟨c, tail, rfl, hvisible, hclose⟩
  | string text => exact ⟨34, _, rfl, by decide⟩
  | array h => exact ⟨91, _, rfl, by decide⟩
  | object h => exact ⟨123, _, rfl, by decide⟩

/-- A written list is not shorter than its elements. -/
theorem length_element_le {α : Type} (written : α → Bytes) {xs : List α} {x : α} (h : x ∈ xs) :
    (written x).length ≤ ([44].intercalate (xs.map written)).length := by
  induction xs with
  | nil => cases h
  | cons y ys ih =>
      by_cases hlast : ys = []
      · subst hlast
        obtain rfl := List.mem_singleton.mp h
        rw [List.map_cons, List.map_nil, List.intercalate_singleton]
      · rw [intercalate_map_cons written y hlast, List.length_append, List.length_cons]
        rcases List.mem_cons.mp h with rfl | h
        · omega
        · have := ih h
          omega

/-- A written list has a comma between any two elements. -/
theorem length_list_le {α : Type} (written : α → Bytes) (xs : List α) :
    xs.length ≤ ([44].intercalate (xs.map written)).length + 1 := by
  induction xs with
  | nil => exact Nat.zero_le _
  | cons y ys ih =>
      by_cases hlast : ys = []
      · subst hlast
        simp
      · rw [intercalate_map_cons written y hlast, List.length_append, List.length_cons,
          List.length_cons]
        omega

/-- The reader takes a written value off the front of a text. -/
theorem readValue_write {v : Value} (h : Readable v) {fuel : Nat} (hfuel : (write v).length < fuel)
    {rest : Bytes} (hrest : Stops rest) : readValue fuel (write v ++ rest) = some (v, rest) := by
  induction h generalizing fuel rest with
  | null =>
      cases fuel with
      | zero => omega
      | succ fuel => rfl
  | bool flag =>
      cases fuel with
      | zero => omega
      | succ fuel => cases flag <;> rfl
  | number h =>
      obtain ⟨c, tail, rfl, hc⟩ := h.starts
      obtain ⟨hvisible, hquote, hbrace, hbracket, -⟩ := numberStart_ne hc
      have hread := h.whole rest hrest
      cases fuel with
      | zero => omega
      | succ fuel =>
          rw [write, List.cons_append] at *
          rw [readValue, skipSpace_visible hvisible]
          simp only [if_neg hquote, if_neg hbrace, if_neg hbracket, if_pos hc, hread]
          rfl
  | string text =>
      cases fuel with
      | zero => omega
      | succ fuel =>
          rw [write, List.cons_append, List.cons_append, readValue,
            skipSpace_visible (by decide : Visible 34)]
          simp only [if_true, List.append_assoc, List.singleton_append, readString_escape]
          rfl
  | @array items h ih =>
      cases fuel with
      | zero => omega
      | succ fuel =>
          rw [write, List.cons_append, List.cons_append, readValue,
            skipSpace_visible (by decide : Visible 91)]
          simp only [if_neg (by decide : ¬ (91 : UInt8) = 34),
            if_neg (by decide : ¬ (91 : UInt8) = 123),
            if_true, List.append_assoc, List.singleton_append]
          cases items with
          | nil => rfl
          | cons item items =>
              rw [write, writeItems_eq] at hfuel
              simp only [List.length_append, List.length_cons, List.length_nil] at hfuel
              have hcount := length_list_le write (item :: items)
              have hfirst : expect 93 (writeItems (item :: items) ++ 93 :: rest) = none := by
                obtain ⟨c, tail, hwrite, hvisible, hclose⟩ :=
                  write_starts (h item List.mem_cons_self)
                have hstart : ∃ tail, writeItems (item :: items) ++ 93 :: rest = c :: tail := by
                  cases items with
                  | nil => exact ⟨_, by rw [writeItems, hwrite]; rfl⟩
                  | cons next more => exact ⟨_, by rw [writeItems, hwrite]; rfl⟩
                obtain ⟨tail, hstart⟩ := hstart
                rw [hstart, expect_other hvisible hclose]
              rw [hfirst]
              simp only
              rw [readElements_items (List.cons_ne_nil _ _) (by omega) rest fun x hx rest hrest =>
                ih x hx (by have := length_element_le write hx; omega) hrest]
              rfl
  | @object members h ih =>
      cases fuel with
      | zero => omega
      | succ fuel =>
          rw [write, List.cons_append, List.cons_append, readValue,
            skipSpace_visible (by decide : Visible 123)]
          simp only [if_neg (by decide : ¬ (123 : UInt8) = 34), if_true, List.append_assoc,
            List.singleton_append]
          cases members with
          | nil => rfl
          | cons member members =>
              rw [write, writeMembers_eq] at hfuel
              simp only [List.length_append, List.length_cons, List.length_nil] at hfuel
              have hcount := length_list_le writeMember (member :: members)
              have hfirst :
                  expect 125 (writeMembers (member :: members) ++ 125 :: rest) = none := by
                have hstart :
                    ∃ tail, writeMembers (member :: members) ++ 125 :: rest = 34 :: tail := by
                  cases members with
                  | nil => exact ⟨_, rfl⟩
                  | cons next more => exact ⟨_, rfl⟩
                obtain ⟨tail, hstart⟩ := hstart
                rw [hstart, expect_other (by decide : Visible 34) (by decide)]
              rw [hfirst, writeMembers_eq]
              simp only
              rw [readElements_intercalate (.inr rfl) (List.cons_ne_nil _ _) (by omega) rest
                fun x hx rest hrest => readMember_writeMember (ih x hx ?_ hrest)]
              · rfl
              · have hpart := length_element_le writeMember hx
                have hvalue : (write x.2).length ≤ (writeMember x).length := by
                  simp only [writeMember, List.length_append, List.length_cons]
                  omega
                omega

/-- A written value is read back. -/
theorem parse_write {v : Value} (h : Readable v) : parse (write v) = some v := by
  have hend : Stops [] := fun c hc => by cases hc
  have hread := readValue_write h (Nat.lt_succ_self _) hend
  rw [List.append_nil] at hread
  rw [parse, hread]
  rfl

end Lib.Json
