import Data360.ArrowIpcChunkReader

/-!
# The media type of an Arrow response

What `IsArrowMediaType` accepts, as a grammar: the type in any case, and any
number of parameters, each a name and a value that are tokens.  Spaces and tabs
may stand around the type and around a parameter, and nowhere else.

* `isMediaParameter_iff` is one parameter.
* `areMediaParameters_eq` says that the loop looks at the pieces between the
  semicolons, each of them once.
* `isArrowMediaType_iff` is the result.
-/

namespace Data360

open Lib.ByteString

/-! ## The grammar -/

/-- Spaces and tabs. -/
def Blanks (text : Bytes) : Prop := ∀ c ∈ text, c = 32 ∨ c = 9

/-- A token: letters, digits, and the marks that a token may hold. -/
structure Token (text : Bytes) : Prop where
  nonempty : text ≠ []
  characters : ∀ c ∈ text, isAlnum c = true ∨
    c ∈ [33, 35, 36, 37, 38, 39, 42, 43, 45, 46, 94, 95, 96, 124, 126]

/-- A parameter between two semicolons. -/
inductive MediaParameter : Bytes → Prop where
  | mk {before name value after : Bytes} (hbefore : Blanks before) (hname : Token name)
      (hvalue : Token value) (hafter : Blanks after) :
      MediaParameter (before ++ name ++ [61] ++ value ++ after)

/-- A media type whose type is the one of an Arrow stream. -/
inductive ArrowMediaType : Bytes → Prop where
  | mk {before type after : Bytes} {parameters : List Bytes} (hbefore : Blanks before)
      (htype : lower type = ascii "application/vnd.apache.arrow.stream") (hafter : Blanks after)
      (hparameters : ∀ parameter ∈ parameters, MediaParameter parameter) :
      ArrowMediaType (before ++ type ++ after ++ parameters.flatMap (59 :: ·))

/-! ## One piece -/

theorem isBlank_eq_true {c : UInt8} : isBlank c = true ↔ c = 32 ∨ c = 9 := by
  rw [isBlank, Bool.or_eq_true, decide_eq_true_eq, decide_eq_true_eq]

/-- What is cut off are blanks. -/
theorem trimBlanks_parts (value : Bytes) :
    ∃ before after, Blanks before ∧ Blanks after ∧ value = before ++ trimBlanks value ++ after := by
  obtain ⟨before, after, hbefore, hafter, hvalue⟩ := trim_parts isBlank value
  exact ⟨before, after, fun c hc => isBlank_eq_true.mp (hbefore c hc),
    fun c hc => isBlank_eq_true.mp (hafter c hc), hvalue⟩

theorem trimBlanks_of_parts {before middle after : Bytes} (hbefore : Blanks before)
    (hafter : Blanks after) (hne : middle ≠ []) (hmiddle : ∀ c ∈ middle, isBlank c = false) :
    trimBlanks (before ++ middle ++ after) = middle :=
  trim_of_parts (p := isBlank) (fun c hc => isBlank_eq_true.mpr (hbefore c hc))
    (fun c hc => isBlank_eq_true.mpr (hafter c hc)) hne hmiddle

/-- The characters of a token are those of `IsTokenCharacter`. -/
theorem isTokenCharacter_iff {c : UInt8} : isTokenCharacter c = true ↔ isAlnum c = true ∨
    c ∈ [33, 35, 36, 37, 38, 39, 42, 43, 45, 46, 94, 95, 96, 124, 126] :=
  forall_byte (P := fun c => isTokenCharacter c = true ↔ isAlnum c = true ∨
    c ∈ [33, 35, 36, 37, 38, 39, 42, 43, 45, 46, 94, 95, 96, 124, 126]) (by decide +kernel) c

theorem token_iff {text : Bytes} : Token text ↔ text ≠ [] ∧ text.all isTokenCharacter = true := by
  rw [List.all_eq_true]
  exact ⟨fun h => ⟨h.nonempty, fun c hc => isTokenCharacter_iff.mpr (h.characters c hc)⟩,
    fun h => ⟨h.1, fun c hc => isTokenCharacter_iff.mp (h.2 c hc)⟩⟩

/-- No character of a token is a blank, a semicolon or an equals sign. -/
theorem Token.plain {text : Bytes} (h : Token text) :
    ∀ c ∈ text, isBlank c = false ∧ c ≠ 59 ∧ c ≠ 61 := by
  have hplain : ∀ c : UInt8, isTokenCharacter c = true → isBlank c = false ∧ c ≠ 59 ∧ c ≠ 61 :=
    forall_byte (by decide +kernel)
  exact fun c hc => hplain c (isTokenCharacter_iff.mpr (h.characters c hc))

/-- The checks of a trimmed parameter. -/
theorem isMediaParameter_iff_token {parameter : Bytes} : isMediaParameter parameter = true ↔
    ∃ name value, Token name ∧ Token value ∧ parameter = name ++ [61] ++ value := by
  constructor
  · intro h
    unfold isMediaParameter at h
    split at h
    · cases h
    · next equals hfind =>
        obtain ⟨hlt, hparameter, -⟩ := find_byte_eq_some.mp hfind
        simp only [Bool.and_eq_true, decide_eq_true_eq] at h
        obtain ⟨⟨⟨hstart, hstop⟩, hname⟩, hvalue⟩ := h
        refine ⟨_, _, token_iff.mpr ⟨?_, hname⟩, token_iff.mpr ⟨?_, hvalue⟩, ?_⟩
        · exact List.ne_nil_of_length_pos (by rw [List.length_take]; omega)
        · exact List.ne_nil_of_length_pos (by rw [List.length_drop]; omega)
        · rw [List.append_assoc]
          exact hparameter
  · rintro ⟨name, value, hname, hvalue, rfl⟩
    have hfind : find [61] (name ++ [61] ++ value) = some name.length :=
      find_append_of_notMem fun hmem => (hname.plain 61 hmem).2.2 rfl
    have hdrop : (name ++ [61] ++ value).drop (name.length + 1) = value := by
      rw [List.append_assoc]
      exact drop_separator name 61 value
    have htake : (name ++ [61] ++ value).take name.length = name := by
      rw [List.append_assoc, List.take_left]
    obtain ⟨hname, hnames⟩ := token_iff.mp hname
    obtain ⟨hvalue, hvalues⟩ := token_iff.mp hvalue
    have hfirst := List.length_pos_iff.mpr hname
    have hsecond := List.length_pos_iff.mpr hvalue
    simp only [isMediaParameter, hfind, htake, hdrop, hnames, hvalues, List.length_append,
      List.length_singleton, Bool.and_true, Bool.and_eq_true, decide_eq_true_eq]
    omega

/-- One turn of the loop accepts the parameters. -/
theorem isMediaParameter_iff {item : Bytes} :
    isMediaParameter (trimBlanks item) = true ↔ MediaParameter item := by
  rw [isMediaParameter_iff_token]
  constructor
  · rintro ⟨name, value, hname, hvalue, htrimmed⟩
    obtain ⟨before, after, hbefore, hafter, hitem⟩ := trimBlanks_parts item
    rw [htrimmed, ← List.append_assoc, ← List.append_assoc] at hitem
    rw [hitem]
    exact .mk hbefore hname hvalue hafter
  · rintro ⟨hbefore, hname, hvalue, hafter⟩
    rename_i before name value after
    refine ⟨name, value, hname, hvalue, ?_⟩
    rw [List.append_assoc before, List.append_assoc before]
    refine trimBlanks_of_parts hbefore hafter (by simp) fun c hc => ?_
    simp only [List.mem_append, List.mem_singleton] at hc
    rcases hc with (hc | rfl) | hc
    · exact (hname.plain c hc).1
    · rfl
    · exact (hvalue.plain c hc).1

/-! ## The whole type -/

/-- The loop looks at every piece behind the separator. -/
theorem areMediaParameters_eq (value : Bytes) (separator : Nat) :
    areMediaParameters value separator
      = ((value.drop (separator + 1)).splitOn 59).all fun item =>
        isMediaParameter (trimBlanks item) := by
  induction separator using areMediaParameters.induct value with
  | case1 separator start hnext =>
      have hlast : find [59] (value.drop (separator + 1)) = none := Option.map_eq_none_iff.mp hnext
      rw [areMediaParameters, splitOn_eq_find, hlast]
      split
      · simp
      · next stop hsome => cases hnext.symm.trans hsome
  | case2 separator start stop hnext ih =>
      obtain ⟨offset, hoffset, rfl⟩ := Option.map_eq_some_iff.mp hnext
      have hstop : offset + start - start = offset := Nat.add_sub_cancel _ _
      have hdrop :
          (value.drop (separator + 1)).drop (offset + 1) = value.drop (offset + start + 1) := by
        rw [List.drop_drop]
        congr 1
        omega
      rw [areMediaParameters, splitOn_eq_find, hoffset]
      split
      · next hnone => cases hnext.symm.trans hnone
      · next stop hsome =>
          obtain rfl := Option.some.inj (hnext.symm.trans hsome)
          rw [List.all_cons, hdrop, ← ih, hstop, substr]

/-- `IsArrowMediaType` looks at the pieces of its argument. -/
theorem isArrowMediaType_eq {value first : Bytes} {items : List Bytes}
    (h : value.splitOn 59 = first :: items) : isArrowMediaType value = true ↔
      lower (trimBlanks first) = arrowMediaType ∧
        ∀ item ∈ items, isMediaParameter (trimBlanks item) = true := by
  rw [splitOn_eq_find] at h
  rw [isArrowMediaType]
  cases hfind : find [59] value with
  | none =>
      rw [hfind] at h
      obtain ⟨rfl, rfl⟩ := List.cons.inj h
      simp
  | some separator =>
      rw [hfind] at h
      obtain ⟨rfl, hitems⟩ := List.cons.inj h
      rw [Bool.and_eq_true, decide_eq_true_eq, areMediaParameters_eq, hitems, List.all_eq_true]

/-- The characters of the type are none of the separators. -/
theorem plain_of_arrowMediaType {text : Bytes} (h : lower text = arrowMediaType) :
    ∀ c ∈ text, isBlank c = false ∧ c ≠ 59 := by
  have hliteral : ∀ c ∈ arrowMediaType, isBlank c = false ∧ c ≠ 59 := by decide +kernel
  have hlower : ∀ c : UInt8, isBlank (toLower c) = false ∧ toLower c ≠ 59 →
      isBlank c = false ∧ c ≠ 59 := forall_byte (by decide +kernel)
  intro c hc
  have hmem : toLower c ∈ arrowMediaType := by
    rw [← h]
    exact List.mem_map_of_mem hc
  exact hlower c (hliteral _ hmem)

theorem Blanks.notMem {text : Bytes} (h : Blanks text) : (59 : UInt8) ∉ text := fun hmem =>
  absurd (h 59 hmem) (by decide)

theorem MediaParameter.notMem {item : Bytes} (h : MediaParameter item) : (59 : UInt8) ∉ item := by
  cases h with
  | mk hbefore hname hvalue hafter =>
      simp only [List.mem_append, List.mem_singleton, not_or]
      exact ⟨⟨⟨⟨hbefore.notMem, fun h => (hname.plain 59 h).2.1 rfl⟩, by decide⟩,
        fun h => (hvalue.plain 59 h).2.1 rfl⟩, hafter.notMem⟩

/-- `IsArrowMediaType` accepts the media types of the grammar, and no others.  The steps
of its loop from one semicolon to the next come to an end. -/
theorem isArrowMediaType_iff :
    (∀ value, isArrowMediaType value = true ↔ ArrowMediaType value) ∧
    ∀ value : Bytes,
    WellFounded fun next separator => findFrom [59] value (separator + 1) = some next := by
  refine ⟨fun value => ⟨fun h => ?_, fun h => ?_⟩, fun value => ?_⟩
  · obtain ⟨first, items, hsplit, -, -, hvalue⟩ := exists_splitOn 59 value
    obtain ⟨htype, hparameters⟩ := (isArrowMediaType_eq hsplit).mp h
    obtain ⟨before, after, hbefore, hafter, hfirst⟩ := trimBlanks_parts first
    rw [hvalue, hfirst]
    exact .mk hbefore htype hafter fun item hitem => isMediaParameter_iff.mp
      (hparameters item hitem)
  · cases h with
    | @mk before type after parameters hbefore htype hafter hparameters =>
        have hplain := plain_of_arrowMediaType htype
        have hfirst : (59 : UInt8) ∉ before ++ type ++ after := by
          simp only [List.mem_append, not_or]
          exact ⟨⟨hbefore.notMem, fun h => (hplain 59 h).2 rfl⟩, hafter.notMem⟩
        have hne : type ≠ [] := by
          rintro rfl
          exact absurd htype (by decide)
        rw [isArrowMediaType_eq
          (splitOn_pieces hfirst fun item hitem => (hparameters item hitem).notMem),
          trimBlanks_of_parts hbefore hafter hne fun c hc => (hplain c hc).1]
        exact ⟨htype, fun item hitem => isMediaParameter_iff.mpr (hparameters item hitem)⟩
  · refine Subrelation.wf
      (r := fun next separator => value.length - next < value.length - separator)
      (fun {next separator} hnext => ?_) (measure fun separator => value.length - separator).wf
    obtain ⟨hstart, hstop⟩ := findFrom_bounds hnext
    omega

example : isArrowMediaType (ascii " Application/vnd.apache.ARROW.stream ; codec=lz4") = true := by
  decide +kernel

end Data360
