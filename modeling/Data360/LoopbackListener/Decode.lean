import Data360.LoopbackListener.Model
import Data360.Lib.Collect

/-!
# What the callback parser decodes

`PercentDecode` and `ParseQuery` of `src/loopback_listener.cpp`, against the
percent encoding of the library.

* `percentDecode_eq_ok` says that `PercentDecode` is percent decoding of the
  strings without a bare `+` and without control bytes, up to a length.
* `parseQuery_eq_ok` says which queries `ParseQuery` reads, and as which fields.
-/

namespace Data360

open Lib Lib.ByteString

/-! ## One value -/

/-- A byte that a callback field may hold. -/
def Printable (c : UInt8) : Prop := ¬ (c < 0x20 ∨ c = 0x7f)

/-- `raw` is the percent encoding of `text` that the listener accepts. -/
structure DecodesTo (raw text : Bytes) : Prop where
  decoded : Percent.decode raw = some text
  bare : ∀ c ∈ raw, c ≠ 43 ∧ Printable c
  printable : ∀ c ∈ text, Printable c
  short : text.length ≤ maxCallbackValueBytes

theorem hexValue_eq (c : UInt8) : hexValue c = hexDigitValue c :=
  forall_byte (P := fun c => hexValue c = hexDigitValue c) (by decide +kernel) c

theorem printable_of_hexValue {c v : UInt8} (h : hexValue c = some v) : c ≠ 43 ∧ Printable c := by
  have hall :=
    forall_byte (P := fun c => (hexValue c).isSome = true → c ≠ 43 ∧ ¬ (c < 0x20 ∨ c = 0x7f))
    (by decide +kernel) c
  exact hall (by rw [h]; rfl)

/-- The loop of `PercentDecode`. -/
theorem percentDecodeLoop_eq_ok {raw text : Bytes} :
    percentDecodeLoop raw = .ok text ↔
      Percent.decode raw = some text ∧ (∀ c ∈ raw, c ≠ 43 ∧ Printable c) ∧
        ∀ c ∈ text, Printable c := by
  induction raw using percentDecodeLoop.induct generalizing text with
  | case1 =>
      simp only [percentDecodeLoop, Percent.decode, Except.ok.injEq, Option.some.injEq]
      constructor
      · rintro rfl
        simp
      · exact And.left
  | case2 first second rest high low hlow hhigh decoded =>
      rename_i hbad
      rw [Percent.decode_triple (hexValue_eq first ▸ hhigh) (hexValue_eq second ▸ hlow)]
      have hloop :
          percentDecodeLoop (37 :: first :: second :: rest) = .error malformedCallback := by
        rw [percentDecodeLoop.eq_def]
        simp only [if_true, hhigh, hlow]
        exact if_pos hbad
      rw [hloop]
      refine iff_of_false (by simp) ?_
      rintro ⟨hdecode, -, htext⟩
      obtain ⟨tail, -, rfl⟩ := Option.map_eq_some_iff.mp hdecode
      exact htext _ List.mem_cons_self hbad
  | case3 first second rest high low hlow hhigh decoded =>
      rename_i hgood ih
      rw [Percent.decode_triple (hexValue_eq first ▸ hhigh) (hexValue_eq second ▸ hlow)]
      have hloop : percentDecodeLoop (37 :: first :: second :: rest)
          = (percentDecodeLoop rest).map ((high <<< 4 ||| low) :: ·) := by
        rw [percentDecodeLoop.eq_def]
        simp only [if_true, hhigh, hlow]
        exact if_neg hgood
      have hpercent : (37 : UInt8) ≠ 43 ∧ ¬ ((37 : UInt8) < 0x20 ∨ (37 : UInt8) = 0x7f) := by decide
      rw [hloop, except_map_eq_ok]
      simp only [ih, Option.map_eq_some_iff, List.forall_mem_cons]
      constructor
      · rintro ⟨tail, ⟨hdecode, hbare, htail⟩, rfl⟩
        exact ⟨⟨tail, hdecode, rfl⟩, ⟨hpercent, printable_of_hexValue hhigh,
          printable_of_hexValue hlow, hbare⟩, List.forall_mem_cons.mpr ⟨hgood, htail⟩⟩
      · rintro ⟨⟨tail, hdecode, rfl⟩, ⟨-, -, -, hbare⟩, htext⟩
        exact ⟨tail, ⟨hdecode, hbare, (List.forall_mem_cons.mp htext).2⟩, rfl⟩
  | case4 first second rest hbroken =>
      have hloop :
          percentDecodeLoop (37 :: first :: second :: rest) = .error malformedCallback := by
        rw [percentDecodeLoop.eq_def]
        simp only [if_true]
      rw [hloop, Percent.decode_broken fun high low hhigh hlow =>
        hbroken high low (hexValue_eq first ▸ hhigh) (hexValue_eq second ▸ hlow)]
      simp
  | case5 rest hshort =>
      have hloop : percentDecodeLoop (37 :: rest) = .error malformedCallback := by
        rw [percentDecodeLoop.eq_def]
        simp only [if_true]
      rw [hloop, Percent.decode_short hshort]
      simp
  | case6 c rest hpercent hbad =>
      have hloop : percentDecodeLoop (c :: rest) = .error malformedCallback := by
        rw [percentDecodeLoop.eq_def]
        simp only [if_neg hpercent, if_pos hbad]
      rw [hloop]
      refine iff_of_false (by simp) ?_
      rintro ⟨-, hbare, -⟩
      obtain ⟨hplus, hprintable⟩ := hbare c List.mem_cons_self
      exact hbad.elim hplus hprintable
  | case7 c rest hpercent hgood ih =>
      obtain ⟨hplus, hprintable⟩ := not_or.mp hgood
      have hloop : percentDecodeLoop (c :: rest) = (percentDecodeLoop rest).map (c :: ·) := by
        rw [percentDecodeLoop.eq_def]
        simp only [if_neg hpercent, if_neg hgood]
      rw [hloop, except_map_eq_ok, Percent.decode_cons hpercent]
      simp only [ih, Option.map_eq_some_iff, List.forall_mem_cons]
      constructor
      · rintro ⟨tail, ⟨hdecode, hbare, htail⟩, rfl⟩
        exact ⟨⟨tail, hdecode, rfl⟩, ⟨⟨hplus, hprintable⟩, hbare⟩,
          List.forall_mem_cons.mpr ⟨hprintable, htail⟩⟩
      · rintro ⟨⟨tail, hdecode, rfl⟩, ⟨-, hbare⟩, htext⟩
        exact ⟨tail, ⟨hdecode, hbare, (List.forall_mem_cons.mp htext).2⟩, rfl⟩

/-- `PercentDecode` accepts the percent encodings of the listener. -/
theorem percentDecode_eq_ok {raw text : Bytes} :
    percentDecode raw = .ok text ↔ DecodesTo raw text := by
  rw [percentDecode, except_bind_eq_ok]
  constructor
  · rintro ⟨output, hloop, hlength⟩
    obtain ⟨hdecode, hbare, htext⟩ := percentDecodeLoop_eq_ok.mp hloop
    split_ifs at hlength with hlong
    obtain rfl := Except.ok.inj hlength
    exact ⟨hdecode, hbare, htext, not_lt.mp hlong⟩
  · rintro ⟨hdecode, hbare, htext, hshort⟩
    exact ⟨text, percentDecodeLoop_eq_ok.mpr ⟨hdecode, hbare, htext⟩, if_neg (not_lt.mpr hshort)⟩

/-! ## The fields of a query -/

/-- `item` is a field of a query: a name that is not empty, `=`, and a value. -/
structure QueryItem (item : Bytes) (field : Bytes × Bytes) : Prop where
  parts : ∃ name value, item = name ++ 61 :: value ∧ name ≠ [] ∧ 61 ∉ name ∧
    DecodesTo name field.1 ∧ DecodesTo value field.2

/-- The fields in the order of the query, in a map. -/
def fieldMap (values : StringMap Bytes) (fields : List (Bytes × Bytes)) : StringMap Bytes :=
  fields.foldl (fun values field => values.insert field.1 field.2) values

/-- One item. -/
theorem parseItem_eq_ok {values after : StringMap Bytes} {item : Bytes} :
    parseItem values item = .ok after ↔
      ∃ field, QueryItem item field ∧ field.1 ∉ values ∧ after = values.insert field.1 field.2 := by
  unfold parseItem
  cases hfind : find [61] item with
  | none =>
      refine iff_of_false (by simp) ?_
      rintro ⟨field, ⟨name, value, rfl, -⟩, -⟩
      exact find_byte_eq_none.mp hfind (by simp)
  | some equals =>
      obtain ⟨hlt, hitem, hfirst⟩ := find_byte_eq_some.mp hfind
      have hne : item ≠ [] := fun hnil => by simp [hnil] at hlt
      have htake : substr item 0 equals = item.take equals := rfl
      simp only [hne, false_or, htake]
      by_cases hzero : equals = 0
      · rw [if_pos hzero]
        refine iff_of_false (by simp) ?_
        rintro ⟨field, ⟨name, value, heq, hname, hequals, -⟩, -⟩
        have hfind' : find [61] item = some name.length :=
          find_byte_eq_some.mpr ⟨by simp [heq], by simp [heq], by simpa [heq] using hequals⟩
        rw [hfind] at hfind'
        exact hname (List.length_eq_zero_iff.mp ((Option.some.inj hfind').symm.trans hzero))
      · rw [if_neg hzero]
        simp only [except_bind_eq_ok, percentDecode_eq_ok]
        constructor
        · rintro ⟨name, hname, value, hvalue, hinsert⟩
          split_ifs at hinsert with hmem
          have hnonempty : item.take equals ≠ [] := fun hnil =>
            (List.take_eq_nil_iff.mp hnil).elim hzero hne
          exact ⟨(name, value), ⟨_, _, hitem, hnonempty, hfirst, hname, hvalue⟩, hmem,
            (Except.ok.inj hinsert).symm⟩
        · rintro ⟨⟨name, value⟩, ⟨rawName, rawValue, heq, -, hequals, hname, hvalue⟩, hmem, rfl⟩
          have hfind' : find [61] item = some rawName.length :=
            find_byte_eq_some.mpr ⟨by simp [heq], by simp [heq], by simpa [heq] using hequals⟩
          rw [hfind] at hfind'
          obtain rfl := Option.some.inj hfind'
          rw [heq, List.take_left, drop_separator]
          exact ⟨name, hname, value, hvalue, if_neg hmem⟩

/-- The loop of `ParseQuery` goes over the items between the separators. -/
theorem parseQueryFrom_eq {query : Bytes} {fuel start : Nat} (hstart : start ≤ query.length)
    (hfuel : query.length - start < fuel) (values : StringMap Bytes) :
    parseQueryFrom query fuel start values
      = ((query.drop start).splitOn 38).foldlM parseItem values := by
  induction fuel generalizing start values with
  | zero => omega
  | succ fuel ih =>
      rw [parseQueryFrom, if_pos hstart, splitOn_eq_find, findFrom]
      dsimp only
      cases hfind : find [38] (query.drop start) with
      | none =>
          have hall : substr query start (query.length - start) = query.drop start := by
            rw [substr, List.take_of_length_le (by rw [List.length_drop])]
          simp only [Option.map_none, Option.getD_none, hall, List.foldlM_cons, List.foldlM_nil]
          rfl
      | some i =>
          obtain ⟨hi, -, -⟩ := find_byte_eq_some.mp hfind
          rw [List.length_drop] at hi
          have hdrop : (query.drop start).drop (i + 1) = query.drop (i + start + 1) := by
            rw [List.drop_drop]
            congr 1
            omega
          simp only [Option.map_some, Option.getD_some, Nat.add_sub_cancel, List.foldlM_cons, hdrop]
          rw [substr]
          congr 1
          funext after
          exact ih (by omega) (by omega) after

/-- The items of a query are fields with different names. -/
theorem foldlM_parseItem_eq_ok {items : List Bytes} {values after : StringMap Bytes} :
    items.foldlM parseItem values = .ok after ↔
      ∃ fields, List.Forall₂ QueryItem items fields ∧ (fields.map Prod.fst).Nodup ∧
        (∀ field ∈ fields, field.1 ∉ values) ∧ after = fieldMap values fields := by
  induction items generalizing values with
  | nil =>
      simp only [List.foldlM_nil, List.forall₂_nil_left_iff, exists_eq_left]
      constructor
      · intro h
        exact ⟨List.nodup_nil, by simp, (Except.ok.inj h).symm⟩
      · rintro ⟨-, -, rfl⟩
        rfl
  | cons item items ih =>
      rw [List.foldlM_cons, except_bind_eq_ok]
      simp only [parseItem_eq_ok, ih]
      constructor
      · rintro ⟨_, ⟨field, hfield, hnew, rfl⟩, fields, hfields, hnodup, hothers, rfl⟩
        have hother (other) (h : other ∈ fields) : other.1 ≠ field.1 ∧ other.1 ∉ values := by
          have := hothers other h
          rw [Std.TreeMap.mem_insert, not_or] at this
          exact ⟨fun heq => this.1 (by simp [heq]), this.2⟩
        refine ⟨field :: fields, .cons hfield hfields, ?_, ?_, rfl⟩
        · refine List.nodup_cons.mpr ⟨fun hmem => ?_, hnodup⟩
          obtain ⟨other, hmem, heq⟩ := List.mem_map.mp hmem
          exact (hother other hmem).1 heq
        · exact List.forall_mem_cons.mpr ⟨hnew, fun other h => (hother other h).2⟩
      · rintro ⟨fields, hforall, hnodup, hothers, rfl⟩
        cases hforall with
        | @cons _ field _ fields hfield hfields =>
            obtain ⟨hnew, hothers⟩ := List.forall_mem_cons.mp hothers
            obtain ⟨hfresh, hnodup⟩ := List.nodup_cons.mp hnodup
            refine ⟨_, ⟨field, hfield, hnew, rfl⟩, fields, hfields, hnodup, fun other h => ?_, rfl⟩
            rw [Std.TreeMap.mem_insert, not_or]
            refine ⟨fun heq => hfresh ?_, hothers other h⟩
            exact List.mem_map.mpr ⟨other, h, (Std.LawfulEqCmp.compare_eq_iff_eq.mp heq).symm⟩

/-- A field of the map is the field of the list. -/
theorem getElem?_fieldMap {fields : List (Bytes × Bytes)} (hnodup : (fields.map Prod.fst).Nodup)
    (values : StringMap Bytes) (name : Bytes) :
    (fieldMap values fields)[name]? = (fields.lookup name).or values[name]? := by
  induction fields generalizing values with
  | nil => rfl
  | cons field fields ih =>
      obtain ⟨hfresh, hnodup⟩ := List.nodup_cons.mp hnodup
      have hih := ih hnodup (values.insert field.1 field.2)
      rw [fieldMap, List.foldl_cons, ← fieldMap, hih, List.lookup_cons]
      by_cases hname : name = field.1
      · subst hname
        have hnone : fields.lookup field.1 = none := by
          rw [List.lookup_eq_none_iff]
          exact fun other hmem => bne_iff_ne.mpr fun heq =>
            hfresh (List.mem_map.mpr ⟨other, hmem, heq.symm⟩)
        simp [hnone]
      · rw [show (name == field.1) = false from beq_eq_false_iff_ne.mpr hname]
        rw [getElem?_insert_ne _ _ (Ne.symm hname)]

/-- `ParseQuery` reads lists of fields with different names. -/
theorem parseQuery_eq_ok {query : Bytes} {values : StringMap Bytes} :
    parseQuery query = .ok values ↔
      ∃ fields, List.Forall₂ QueryItem (query.splitOn 38) fields ∧
        (fields.map Prod.fst).Nodup ∧ values = fieldMap ∅ fields := by
  rw [parseQuery, parseQueryFrom_eq (Nat.zero_le _) (by omega), List.drop_zero,
    foldlM_parseItem_eq_ok]
  simp

end Data360
