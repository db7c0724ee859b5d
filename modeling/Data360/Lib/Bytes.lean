import Mathlib.Data.Nat.Digits.Lemmas
import Mathlib.Data.List.Basic
import Std.Data.TreeMap

/-!
# Byte strings

A C++ `std::string` is a list of bytes here.  The file collects the string
operations that the modelled code calls, each with the behaviour that the
C++ library documents, and the `<cctype>` predicates of the C locale.

* `ascii` writes a literal.
* `isDigit`, `isAlnum`, `toLower` and their neighbours are the C-locale
  character classes.
* `find`, `substr` and `trimBack` are the searches and cuts.
* `hexDigit` and `hexDigitValue` write and read a hexadecimal digit.
* `toDecimal` is `std::to_string` of an unsigned number, and `ofDecimal`
  is its inverse.

`StringMap` is `std::map<std::string, V>`: the key order of `Std.TreeMap`
over byte lists is the byte-wise order of `std::string`.
-/

namespace Lib.ByteString

/-- The bytes of a C++ string. -/
abbrev Bytes := List UInt8

/-- `std::map<std::string, V>`. -/
abbrev StringMap (V : Type) := Std.TreeMap Bytes V compare

/-- The bytes of an ASCII literal. -/
def ascii (text : String) : Bytes :=
  text.toList.map fun c => UInt8.ofNat c.toNat

/-! ## The character classes of the C locale -/

/-- `std::isdigit`. -/
def isDigit (c : UInt8) : Bool := 48 ≤ c && c ≤ 57

/-- `std::isupper`. -/
def isUpper (c : UInt8) : Bool := 65 ≤ c && c ≤ 90

/-- `std::islower`. -/
def isLower (c : UInt8) : Bool := 97 ≤ c && c ≤ 122

/-- `std::isalnum`. -/
def isAlnum (c : UInt8) : Bool := isDigit c || isUpper c || isLower c

/-- `std::iscntrl`. -/
def isCntrl (c : UInt8) : Bool := c < 32 || c = 127

/-- `std::isspace`. -/
def isSpace (c : UInt8) : Bool := c = 32 || (9 ≤ c && c ≤ 13)

/-- A space or a tab. -/
def isBlank (c : UInt8) : Bool := c = 32 || c = 9

/-- `std::tolower`. -/
def toLower (c : UInt8) : UInt8 := if isUpper c then c + 32 else c

/-- `std::toupper`. -/
def toUpper (c : UInt8) : UInt8 := if isLower c then c - 32 else c

/-- `std::transform` of a whole string with `std::tolower`. -/
def lower (value : Bytes) : Bytes := value.map toLower

/-- `std::transform` of a whole string with `std::toupper`. -/
def upper (value : Bytes) : Bytes := value.map toUpper

/-- A property of a byte is checked on the 256 values. -/
theorem forall_byte {P : UInt8 → Prop} (h : ∀ n : Fin 256, P (UInt8.ofFin n))
    (c : UInt8) : P c := h c.toFin

/-- A string in lower case stays as it is. -/
theorem lower_lower (value : Bytes) : lower (lower value) = lower value := by
  have hbyte : ∀ c, toLower (toLower c) = toLower c := forall_byte (by decide +kernel)
  simp [lower, Function.comp_def, hbyte]

/-! ## Searching and cutting -/

/-- `value.find(needle)`: the first position at which `needle` occurs. -/
def find (needle : Bytes) : Bytes → Option Nat
  | [] => if needle.isEmpty then some 0 else none
  | c :: rest =>
      if needle.isPrefixOf (c :: rest) then some 0
      else (find needle rest).map (· + 1)

/-- `value.find(needle, start)`. -/
def findFrom (needle value : Bytes) (start : Nat) : Option Nat :=
  (find needle (value.drop start)).map (· + start)

/-- `value.substr(start, count)`. -/
def substr (value : Bytes) (start count : Nat) : Bytes :=
  (value.drop start).take count

/-- `value.find_first_of(chars) != npos`. -/
def containsAny (chars value : Bytes) : Bool :=
  value.any fun c => chars.contains c

/-- Whether `suffix` ends `value`, as `value.compare(size - n, n, suffix)`
tests it. -/
def endsWith (suffix value : Bytes) : Bool :=
  suffix.isSuffixOf value

/-- `while (!value.empty() && value.back() == c) value.pop_back();` -/
def trimBack (c : UInt8) (value : Bytes) : Bytes :=
  (value.reverse.dropWhile (· == c)).reverse

/-- The loops that cut spaces and tabs off both ends. -/
def trimBlanks (value : Bytes) : Bytes :=
  ((value.dropWhile isBlank).reverse.dropWhile isBlank).reverse

/-- `find` answers a position at which the needle really starts. -/
theorem find_spec {needle value : Bytes} {i : Nat} (h : find needle value = some i) :
    value = value.take i ++ needle ++ value.drop (i + needle.length) := by
  induction value generalizing i with
  | nil =>
      by_cases hn : needle.isEmpty
      · simp only [find, hn, if_true, Option.some.injEq] at h
        subst h
        simp [List.isEmpty_iff.mp hn]
      · simp [find, hn] at h
  | cons c rest ih =>
      by_cases hp : needle.isPrefixOf (c :: rest)
      · simp only [find, hp, if_true, Option.some.injEq] at h
        subst h
        obtain ⟨tail, htail⟩ := List.isPrefixOf_iff_prefix.mp hp
        simp [← htail]
      · simp only [find, hp, if_false, Option.map_eq_some_iff, Bool.false_eq_true] at h
        obtain ⟨j, hj, rfl⟩ := h
        have hrest := ih hj
        have hlen : j + 1 + needle.length = (j + needle.length) + 1 := by omega
        rw [hlen, List.take_succ_cons, List.drop_succ_cons, List.cons_append,
          List.cons_append, ← hrest]

/-- `find` answers the first position at which the needle starts. -/
theorem find_eq_some_iff {needle value : Bytes} {i : Nat} :
    find needle value = some i ↔
      i ≤ value.length ∧ needle <+: value.drop i ∧ ∀ j < i, ¬ needle <+: value.drop j := by
  induction value generalizing i with
  | nil =>
      cases needle with
      | nil => cases i <;> simp [find]
      | cons d needle => simp [find]
  | cons c rest ih =>
      by_cases hstart : needle.isPrefixOf (c :: rest) = true
      · rw [find, if_pos hstart]
        rw [List.isPrefixOf_iff_prefix] at hstart
        constructor
        · intro h
          obtain rfl := Option.some.inj h
          exact ⟨Nat.zero_le _, hstart, fun j hj => absurd hj (Nat.not_lt_zero j)⟩
        · rintro ⟨-, -, hfirst⟩
          cases i with
          | zero => rfl
          | succ i => exact absurd hstart (hfirst 0 (Nat.succ_pos i))
      · rw [find, if_neg hstart]
        rw [List.isPrefixOf_iff_prefix] at hstart
        cases i with
        | zero => simp [hstart]
        | succ i =>
            have hshift :
                (find needle rest).map (· + 1) = some (i + 1) ↔ find needle rest = some i := by
              simp
            rw [hshift, ih]
            constructor
            · rintro ⟨hi, hthere, hfirst⟩
              refine ⟨Nat.succ_le_succ hi, hthere, fun j hj => ?_⟩
              cases j with
              | zero => exact hstart
              | succ j => exact hfirst j (by omega)
            · rintro ⟨hi, hthere, hfirst⟩
              exact ⟨Nat.le_of_succ_le_succ hi, hthere, fun j hj => hfirst (j + 1) (by omega)⟩

/-- `find` answers nothing when the needle starts nowhere. -/
theorem find_eq_none_iff {needle value : Bytes} :
    find needle value = none ↔ ¬ needle <:+: value := by
  rw [List.infix_iff_prefix_suffix]
  constructor
  · rintro hnone ⟨tail, hneedle, front, rfl⟩
    obtain ⟨i, hi⟩ : ∃ i, find needle (front ++ tail) = some i := by
      induction front with
      | nil =>
          cases tail with
          | nil => exact ⟨0, by simp [find, List.prefix_nil.mp hneedle]⟩
          | cons c tail =>
              exact ⟨0, if_pos (List.isPrefixOf_iff_prefix.mpr hneedle)⟩
      | cons c front ih =>
          rw [List.cons_append, find] at hnone ⊢
          by_cases hstart : needle.isPrefixOf (c :: (front ++ tail)) = true
          · exact ⟨0, if_pos hstart⟩
          · rw [if_neg hstart] at hnone ⊢
            obtain ⟨i, hi⟩ := ih (Option.map_eq_none_iff.mp hnone)
            exact ⟨i + 1, by rw [hi]; rfl⟩
    rw [hi] at hnone
    cases hnone
  · intro hno
    cases hfind : find needle value with
    | none => rfl
    | some i =>
        exact absurd ⟨_, (find_eq_some_iff.mp hfind).2.1, List.drop_suffix i value⟩ hno

theorem isSome_find {needle value : Bytes} : (find needle value).isSome ↔ needle <:+: value := by
  rw [← Option.ne_none_iff_isSome, ne_eq, find_eq_none_iff, not_not]

/-- In front of the position that `find` answers, the needle does not occur. -/
theorem not_infix_of_find {needle value : Bytes} {i : Nat} (hne : needle ≠ [])
    (h : find needle value = some i) : ¬ needle <:+: value.take i := by
  rintro ⟨front, back, heq⟩
  obtain ⟨hi, -, hfirst⟩ := find_eq_some_iff.mp h
  have hlength := congrArg List.length heq
  have hpos := List.length_pos_iff.mpr hne
  simp only [List.length_append, List.length_take] at hlength
  refine hfirst front.length (by omega) ?_
  have hvalue : value = front ++ (needle ++ back ++ value.drop i) := by
    rw [← List.append_assoc, ← List.append_assoc, heq, List.take_append_drop]
  rw [hvalue, List.drop_left, List.append_assoc]
  exact List.prefix_append _ _

/-- A byte that does not occur is not found. -/
theorem find_byte_eq_none {c : UInt8} {value : Bytes} : find [c] value = none ↔ c ∉ value := by
  induction value with
  | nil => simp [find]
  | cons d rest ih =>
      by_cases h : c = d
      · simp [find, h]
      · simp [find, h, ih]

/-- A byte is found where it occurs first. -/
theorem find_byte_eq_some {c : UInt8} {value : Bytes} {i : Nat} :
    find [c] value = some i ↔
      i < value.length ∧ value = value.take i ++ c :: value.drop (i + 1) ∧ c ∉ value.take i := by
  induction value generalizing i with
  | nil => simp [find]
  | cons d rest ih =>
      by_cases h : c = d
      · subst h
        cases i <;> simp [find]
      · cases i with
        | zero => simp [find, h, Ne.symm h]
        | succ i => simp [find, h, ih]

/-- A needle is found behind a front without its first byte. -/
theorem find_append_of_notMem {c : UInt8} {needle front rest : Bytes} (h : c ∉ front) :
    find (c :: needle) (front ++ (c :: needle) ++ rest) = some front.length := by
  rw [find_eq_some_iff, List.append_assoc, List.drop_left]
  refine ⟨by simp, List.prefix_append _ _, fun j hj hthere => ?_⟩
  rw [List.drop_append_of_le_length hj.le, List.drop_eq_getElem_cons hj, List.cons_append,
    List.cons_prefix_cons] at hthere
  exact h (hthere.1 ▸ List.getElem_mem hj)

/-- A needle is not found where its first byte does not occur. -/
theorem find_of_notMem {c : UInt8} {needle value : Bytes} (h : c ∉ value) :
    find (c :: needle) value = none :=
  find_eq_none_iff.mpr fun hinside => h (hinside.subset List.mem_cons_self)

/-- What follows a separator. -/
theorem drop_separator (front : Bytes) (c : UInt8) (rest : Bytes) :
    (front ++ c :: rest).drop (front.length + 1) = rest := by
  rw [List.append_cons]
  exact List.drop_left' (by simp)

/-- Splitting at a byte is finding it again and again. -/
theorem splitOn_eq_find (c : UInt8) (value : Bytes) :
    value.splitOn c
      = match find [c] value with
        | none => [value]
        | some i => value.take i :: (value.drop (i + 1)).splitOn c := by
  cases h : find [c] value with
  | none => exact List.splitOn_eq_singleton (find_byte_eq_none.mp h)
  | some i =>
      obtain ⟨-, hvalue, hfirst⟩ := find_byte_eq_some.mp h
      conv => lhs; rw [hvalue]
      exact List.splitOn_append_cons_self_of_not_mem hfirst _

/-- The pieces of a string: the first, and each of the others behind its separator. -/
theorem exists_splitOn (c : UInt8) (value : Bytes) :
    ∃ first items, value.splitOn c = first :: items ∧ c ∉ first ∧ (∀ item ∈ items, c ∉ item) ∧
      value = first ++ items.flatMap (c :: ·) := by
  induction hlength : value.length using Nat.strongRecOn generalizing value with
  | ind n ih =>
      rw [splitOn_eq_find]
      cases hfind : find [c] value with
      | none => exact ⟨value, [], rfl, find_byte_eq_none.mp hfind, by simp, by simp⟩
      | some i =>
          obtain ⟨hi, hvalue, hfirst⟩ := find_byte_eq_some.mp hfind
          obtain ⟨next, items, hsplit, hnext, hitems, hrest⟩ :=
            ih (value.drop (i + 1)).length (by rw [List.length_drop]; omega) _ rfl
          refine ⟨value.take i, next :: items, congrArg (value.take i :: ·) hsplit, hfirst,
            List.forall_mem_cons.mpr ⟨hnext, hitems⟩, ?_⟩
          rw [List.flatMap_cons, List.cons_append, ← hrest]
          exact hvalue

/-- Pieces without the separator are what the joined string is split into. -/
theorem splitOn_pieces {c : UInt8} {first : Bytes} {items : List Bytes} (hfirst : c ∉ first)
    (hitems : ∀ item ∈ items, c ∉ item) :
    (first ++ items.flatMap (c :: ·)).splitOn c = first :: items := by
  induction items generalizing first with
  | nil => simpa using List.splitOn_eq_singleton hfirst
  | cons item items ih =>
      obtain ⟨hitem, hrest⟩ := List.forall_mem_cons.mp hitems
      rw [List.flatMap_cons, List.cons_append, List.splitOn_append_cons_self_of_not_mem hfirst,
        ih hitem hrest]

/-- A string with no `c` at its end is left alone by `trimBack`. -/
theorem trimBack_of_getLast {c : UInt8} {value : Bytes}
    (h : value.getLast? ≠ some c) : trimBack c value = value := by
  unfold trimBack
  cases hrev : value.reverse with
  | nil => simpa using hrev
  | cons d rest =>
      have hd : value.getLast? = some d := by
        rw [← List.head?_reverse, hrev]
        rfl
      have hne : d ≠ c := fun he => h (by rw [hd, he])
      have hne' : (d == c) = false := by simpa using hne
      rw [List.dropWhile_cons, hne', if_neg (by simp), ← hrev, List.reverse_reverse]

/-- `trimBack` removes one `c` at the end and goes on. -/
theorem trimBack_append_self (c : UInt8) (value : Bytes) :
    trimBack c (value ++ [c]) = trimBack c value := by
  simp [trimBack]

/-- What is trimmed at both ends. -/
theorem trim_parts (p : UInt8 → Bool) (value : Bytes) :
    ∃ before after, (∀ c ∈ before, p c = true) ∧ (∀ c ∈ after, p c = true) ∧
      value = before ++ ((value.dropWhile p).reverse.dropWhile p).reverse ++ after := by
  refine ⟨value.takeWhile p, ((value.dropWhile p).reverse.takeWhile p).reverse,
    fun c hc => List.all_eq_true.mp List.all_takeWhile c hc,
    fun c hc => List.all_eq_true.mp List.all_takeWhile c (List.mem_reverse.mp hc), ?_⟩
  rw [List.append_assoc, ← List.reverse_append, List.takeWhile_append_dropWhile,
    List.reverse_reverse, List.takeWhile_append_dropWhile]

/-- Trimming leaves what holds nothing to be trimmed. -/
theorem trim_of_parts {p : UInt8 → Bool} {before middle after : Bytes}
    (hbefore : ∀ c ∈ before, p c = true) (hafter : ∀ c ∈ after, p c = true) (hne : middle ≠ [])
    (hmiddle : ∀ c ∈ middle, p c = false) :
    (((before ++ middle ++ after).dropWhile p).reverse.dropWhile p).reverse = middle := by
  have hkeep {text rest : Bytes} (hne : text ≠ []) (htext : ∀ c ∈ text, p c = false) :
      (text ++ rest).dropWhile p = text ++ rest := by
    obtain ⟨c, tail, rfl⟩ := List.exists_cons_of_ne_nil hne
    rw [List.cons_append, List.dropWhile_cons, htext c List.mem_cons_self]
    rfl
  have hreverse : ∀ c ∈ middle.reverse, p c = false :=
    fun c hc => hmiddle c (List.mem_reverse.mp hc)
  rw [List.append_assoc, List.dropWhile_append_of_pos hbefore, hkeep hne hmiddle,
    List.reverse_append,
    List.dropWhile_append_of_pos fun c hc => hafter c (List.mem_reverse.mp hc),
    ← List.append_nil middle.reverse, hkeep (by simpa using hne) hreverse, List.append_nil,
    List.reverse_reverse]

/-! ## Hexadecimal digits -/

/-- The hexadecimal digit of a number below sixteen, in upper case. -/
def hexDigit (value : UInt8) : UInt8 := if value < 10 then 48 + value else 55 + value

/-- The value of a hexadecimal digit, in either case. -/
def hexDigitValue (c : UInt8) : Option UInt8 :=
  if isDigit c then some (c - 48)
  else if 65 ≤ c && c ≤ 70 then some (c - 55)
  else if 97 ≤ c && c ≤ 102 then some (c - 87)
  else none

theorem hexDigitValue_high (c : UInt8) : hexDigitValue (hexDigit (c >>> 4)) = some (c >>> 4) :=
  forall_byte (P := fun c => hexDigitValue (hexDigit (c >>> 4)) = some (c >>> 4))
    (by decide +kernel) c

theorem hexDigitValue_low (c : UInt8) : hexDigitValue (hexDigit (c &&& 15)) = some (c &&& 15) :=
  forall_byte (P := fun c => hexDigitValue (hexDigit (c &&& 15)) = some (c &&& 15))
    (by decide +kernel) c

/-- The two halves of a byte. -/
theorem byte_of_halves (c : UInt8) : (c >>> 4) <<< 4 ||| c &&& 15 = c :=
  forall_byte (P := fun c => (c >>> 4) <<< 4 ||| c &&& 15 = c) (by decide +kernel) c

/-! ## Decimal numbers -/

/-- The digit character of a number below ten. -/
def digitChar (d : Nat) : UInt8 := UInt8.ofNat (48 + d)

/-- `std::to_string` of an unsigned number. -/
def toDecimal (n : Nat) : Bytes :=
  if n = 0 then [48] else (Nat.digits 10 n).reverse.map digitChar

/-- The number that a string of digits denotes. -/
def ofDecimal (digits : Bytes) : Nat :=
  Nat.ofDigits 10 (digits.reverse.map fun c => c.toNat - 48)

theorem digitChar_toNat {d : Nat} (h : d < 10) : (digitChar d).toNat = 48 + d := by
  rw [digitChar, UInt8.toNat_ofNat_of_lt' (by rw [UInt8.size]; omega)]

theorem isDigit_digitChar {d : Nat} (h : d < 10) : isDigit (digitChar d) = true := by
  have := digitChar_toNat h
  simp only [isDigit, Bool.and_eq_true, decide_eq_true_eq, UInt8.le_iff_toNat_le, this]
  constructor
  · show 48 ≤ 48 + d
    omega
  · show 48 + d ≤ 57
    omega

/-- Printing a number gives at least one character. -/
theorem toDecimal_ne_nil (n : Nat) : toDecimal n ≠ [] := by
  unfold toDecimal
  split
  · simp
  · rename_i hn
    simp [Nat.digits_eq_nil_iff_eq_zero, hn]

/-- Printing a number gives digits only. -/
theorem isDigit_of_mem_toDecimal {n : Nat} {c : UInt8} (h : c ∈ toDecimal n) :
    isDigit c = true := by
  unfold toDecimal at h
  split at h
  · rw [List.mem_singleton.mp h]
    decide
  · obtain ⟨d, hd, rfl⟩ := List.mem_map.mp h
    exact isDigit_digitChar (Nat.digits_lt_base (by decide) (List.mem_reverse.mp hd))

/-- Reading a printed number gives it back. -/
theorem ofDecimal_toDecimal (n : Nat) : ofDecimal (toDecimal n) = n := by
  unfold toDecimal ofDecimal
  split
  · rename_i hn
    subst hn
    decide
  · have hmap : ((Nat.digits 10 n).map digitChar).map (fun c => c.toNat - 48)
        = Nat.digits 10 n := by
      rw [List.map_map]
      conv => rhs; rw [← List.map_id (Nat.digits 10 n)]
      refine List.map_congr_left fun d hd => ?_
      have hlt : d < 10 := Nat.digits_lt_base (by decide) hd
      simp [Function.comp, digitChar_toNat hlt]
    simp only [List.map_reverse, List.reverse_reverse]
    rw [hmap, Nat.ofDigits_digits]

end Lib.ByteString
