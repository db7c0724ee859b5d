import Data360.Data360Extension.Binding
import Data360.Data360Extension.Query

/-!
# What a user is told

The errors of `data360_query` reach the user, and the log of the database.  What a
service answers must not come with them: its texts, its names, its tokens.

* `bindTexts`, `initTexts` and `scanTexts` are the texts that the program has for its
  errors.  They hold the name of the secret, which the user gave, and the names of the
  columns, which the result has anyway.
* `wp_fillLoop_texts` and `wp_next_texts` are the step lemmas of the two kinds of scans,
  and `WidthKept` is what the calls of a scan keep.
* `errors_confined` is the result for a statement, its scans and all their calls.
-/

namespace Data360

open Lib Lib.ByteString Lib.Prog Session

/-! ## The texts -/

/-- What binding says about a secret of this name. -/
def secretTexts (secretName : Bytes) : List Bytes := [
  ascii "Data 360 secret '" ++ secretName ++ ascii "' was not found",
  ascii "Secret '" ++ secretName ++ ascii "' is not a Data 360 secret",
  ascii "Data 360 secret '" ++ secretName ++ ascii "' uses an unsupported provider",
  ascii "Data 360 OAuth secret is invalid"]

/-- The texts of `Data360QueryBind`. -/
def bindTexts (secretName : Bytes) : List Bytes :=
  secretTexts secretName ++ [
    StatementError.reauthText,
    StatementError.failedText,
    ascii "Data 360 query returned no metadata",
    ascii "Data 360 query returned an unnamed column"]

/-- The texts of `Data360QueryInit`. -/
def initTexts : List Bytes := [
  StatementError.reauthText,
  StatementError.failedText,
  ascii "Data 360 result schema changed after binding",
  ascii "Data 360 numeric metadata was incomplete",
  ascii "Data 360 Arrow metadata contained an unsupported type"]

/-- The texts of an Arrow scan. -/
def arrowTexts : List String := [
  invalidArrowError,
  "Data 360 Arrow response headers were invalid",
  "Data 360 Arrow result schema changed",
  "Data 360 Arrow response exceeded configured limits"]

/-- The text of a value that does not convert. -/
def conversionText (name : Bytes) : Bytes :=
  ascii "Data 360 value conversion failed for column '" ++ name ++ ascii "'"

/-- The texts of `Data360QueryFunction`, for columns of these names. -/
def scanTexts (names : List Bytes) : List Bytes :=
  StatementError.reauthText :: StatementError.failedText :: arrowTexts.map ascii ++
    names.map conversionText

/-! ## Binding -/

/-- The error of a column is that it has no name. -/
theorem bindColumn_error {column : ColumnMetadata} {message : String}
    (h : bindColumn column = .error message) :
    message = "Data 360 query returned an unnamed column" := by
  rw [bindColumn] at h
  split at h
  · cases h
    rfl
  · have hmapped (type : Bytes) : bindLogicalType (mapData360Type type) ≠ .error message := by
      intro herror
      obtain ⟨bound, hmaps⟩ := mapsTo_mapNormalized (upper type)
      have hbinds : bindLogicalType (mapData360Type type) = .ok bound := hmaps.binds.1
      cases hbinds.symm.trans herror
    rw [columnMapping] at h
    split at h
    · exact absurd h (hmapped _)
    · exact absurd h (hmapped _)

/-- The first error of a list is the error of one of its elements. -/
theorem mapM_error {α β : Type} {f : α → Except String β} {l : List α} {message : String}
    (h : l.mapM f = .error message) : ∃ a ∈ l, f a = .error message := by
  induction l with
  | nil => cases h
  | cons a rest ih =>
      rw [List.mapM_cons] at h
      rcases except_bind_eq_error.mp h with hfirst | ⟨b, -, h⟩
      · exact ⟨a, List.mem_cons_self, hfirst⟩
      rcases except_bind_eq_error.mp h with hrest | ⟨bs, -, h⟩
      · obtain ⟨x, hx, herror⟩ := ih hrest
        exact ⟨x, List.mem_cons_of_mem a hx, herror⟩
      · cases h

theorem data360QueryBind_error {metadata : List ColumnMetadata} {message : String}
    (h : data360QueryBind metadata = .error message) :
    message = "Data 360 query returned no metadata" ∨
      message = "Data 360 query returned an unnamed column" := by
  rw [data360QueryBind] at h
  split at h
  · cases h
    exact .inl rfl
  · rcases except_bind_eq_error.mp h with hmap | ⟨types, -, h⟩
    · obtain ⟨column, -, herror⟩ := mapM_error hmap
      exact .inr (bindColumn_error herror)
    · cases h

/-- What binding throws: the context is interrupted, the secret manager threw, or there is
one of the texts. -/
inductive BindConfined (interrupted : Bool) (lookup : SecretLookup) (secretName : Bytes) :
    StatementError → Prop where
  | interrupted (h : interrupted = true) : BindConfined interrupted lookup secretName .interrupted
  | lookup (h : lookup = .throws) : BindConfined interrupted lookup secretName .lookup
  | binder {message : Bytes} (h : message ∈ bindTexts secretName) :
      BindConfined interrupted lookup secretName (.binder message)

/-- What a scan throws: the context is interrupted, or there is one of the texts. -/
inductive Confined (interrupted : Bool) (texts : List Bytes) : StatementError → Prop where
  | interrupted (h : interrupted = true) : Confined interrupted texts .interrupted
  | invalidInput {message : Bytes} (h : message ∈ texts) :
      Confined interrupted texts (.invalidInput message)

/-- An error behind which a handler asks for the interrupt. -/
theorem BindConfined.failed {interrupted : Bool} {lookup : SecretLookup} {secretName text : Bytes}
    (h : text ∈ bindTexts secretName) :
    BindConfined interrupted lookup secretName
      (if interrupted then .interrupted else .binder text) := by
  cases interrupted with
  | false => exact .binder h
  | true => exact .interrupted rfl

theorem Confined.failed {interrupted : Bool} {texts : List Bytes} {text : Bytes}
    (h : text ∈ texts) :
    Confined interrupted texts (if interrupted then .interrupted else .invalidInput text) := by
  cases interrupted with
  | false => exact .invalidInput h
  | true => exact .interrupted rfl

namespace Data360Query

theorem secretHandle_error {secretName : Bytes} {secret : CatalogSecret} {e : StatementError}
    (h : secretHandle secretName secret = .error e) :
    ∃ message ∈ secretTexts secretName, e = .binder message := by
  rw [secretHandle] at h
  split at h
  · cases h
    exact ⟨_, by simp [secretTexts], rfl⟩
  · split at h
    · cases h
      exact ⟨_, by simp [secretTexts], rfl⟩
    · split at h
      · cases h
        exact ⟨_, by simp [secretTexts], rfl⟩
      · cases h

theorem bindBody_raise {env : QueryEnv} {fuel : Nat} {sql : Bytes} {credentials : QueryCredentials}
    {e : BindThrow} {left : Client} (h : bindBody env fuel sql credentials = (.raise e, left)) :
    (∃ error, e = .query error) ∨ e = .binder "Data 360 query returned no metadata" ∨
      e = .binder "Data 360 query returned an unnamed column" := by
  rw [bindBody] at h
  split at h
  · split at h
    · cases h
    · rename_i hbind
      cases h
      rcases data360QueryBind_error hbind with rfl | rfl
      · exact .inr (.inl rfl)
      · exact .inr (.inr rfl)
  · cases h
    exact .inl ⟨_, rfl⟩
  · cases h

/-- The handlers around the second `try` block keep no text of a query error. -/
theorem ofBind_confined {interrupted : Bool} {lookup : SecretLookup} {secretName : Bytes}
    {e : BindThrow}
    (h : (∃ error, e = .query error) ∨ e = .binder "Data 360 query returned no metadata" ∨
      e = .binder "Data 360 query returned an unnamed column") :
    BindConfined interrupted lookup secretName (.ofBind interrupted e) := by
  rcases h with ⟨error, rfl⟩ | rfl | rfl
  · cases error with
    | reauthRequired => exact .binder (by simp [bindTexts])
    | _ => exact .failed (by simp [bindTexts])
  · exact .binder (by simp [bindTexts])
  · exact .binder (by simp [bindTexts])

theorem queryBind_confined {env : QueryEnv} {context : CallContext} {lookup : SecretLookup}
    {secretName sql : Bytes} {registry : Registry} {e : StatementError}
    (h : (queryBind env context lookup secretName sql registry).1 = .raise e) :
    BindConfined context.interrupted lookup secretName e := by
  unfold queryBind at h
  split at h
  · cases h
    exact .lookup rfl
  · cases h
    exact .binder (by simp [bindTexts, secretTexts])
  · split at h
    · rename_i hhandle
      cases h
      obtain ⟨message, hmessage, rfl⟩ := secretHandle_error hhandle
      exact .binder (List.mem_append_left _ hmessage)
    · dsimp only at h
      split at h
      · cases h
        exact .failed (by simp [bindTexts])
      · split at h
        · cases h
        · rename_i hbody
          cases h
          exact ofBind_confined (bindBody_raise hbody)
        · cases h

/-! ## Opening -/

theorem expectedArrowField_error {column : ColumnMetadata} {message : String}
    (h : expectedArrowField column = .error message) : ascii message ∈ initTexts := by
  unfold expectedArrowField at h
  dsimp only at h
  split_ifs at h <;> cases h <;> simp [initTexts]

/-- The errors of opening a scan, of a query that is prepared. -/
theorem wp_openScan_texts {Row : Type} (bind : Data360BindData) (c : Client) :
    wp (openScan bind : Prog Client ScanError (Data360GlobalState Row)) (fun _ _ => True)
      (fun e _ => ∃ message, e = .invalidInput message ∧ ascii message ∈ initTexts)
      (fun _ => True) c := by
  rw [openScan, wp_bind, wp_read, wp_bind, wp_raiseIf]
  refine ⟨fun _ => ⟨_, rfl, by simp [initTexts]⟩, fun _ => ?_⟩
  rw [wp_ite]
  refine ⟨fun _ => ?_, fun _ => trivial⟩
  cases hsource : (ArrowScanSource.create c c.session.metadata bind.types :
      Except String (ArrowScanSource Row)) with
  | ok source =>
      simp only [id_eq, hsource]
      trivial
  | error message =>
      simp only [id_eq, hsource]
      refine ⟨message, rfl, ?_⟩
      rw [ArrowScanSource.create] at hsource
      rcases except_bind_eq_error.mp hsource with hexpected | ⟨expected, -, h⟩
      · obtain ⟨column, -, herror⟩ := mapM_error hexpected
        exact expectedArrowField_error herror
      · cases h

/-- The handlers of the table function keep no text of a query error. -/
theorem ofTableFunction_confined {interrupted : Bool} {texts : List Bytes} {e : ScanError}
    (hfixed : StatementError.reauthText ∈ texts ∧ StatementError.failedText ∈ texts)
    (h : ∀ message, e = .invalidInput message → ascii message ∈ texts) :
    Confined interrupted texts (.ofTableFunction (.of interrupted e)) := by
  have hfailed : Confined interrupted texts (.ofTableFunction (if interrupted then .interrupted
      else .invalidInput "Data 360 query execution failed")) := by
    cases interrupted with
    | false => exact .invalidInput hfixed.2
    | true => exact .interrupted rfl
  cases e with
  | invalidInput message => exact .invalidInput (h message rfl)
  | query error =>
      cases error with
      | reauthRequired => exact .invalidInput hfixed.1
      | _ => exact hfailed

theorem initBody_texts {Row : Type} {env : QueryEnv} {fuel : Nat} {bind : Data360BindData}
    {sql : Bytes} {credentials : QueryCredentials} {e : ScanError} {left : Client}
    (h : (initBody env fuel bind sql credentials : Prog Client ScanError (Data360GlobalState Row))
      {} = (.raise e, left)) (message : String) (hmessage : e = .invalidInput message) :
    ascii message ∈ initTexts := by
  have hbody : wp (initBody env fuel bind sql credentials :
        Prog Client ScanError (Data360GlobalState Row)) (fun _ _ => True)
      (fun e _ => ∀ message, e = .invalidInput message → ascii message ∈ initTexts)
      (fun _ => True) {} := by
    rw [initBody, wp_bind]
    rcases hprepare : QueryApiV3Client.prepareInternal env fuel sql credentials false {} {} with
      ⟨outcome, c⟩
    cases outcome with
    | ret value =>
        have hrun :
            onClient (QueryApiV3Client.prepareInternal env fuel sql credentials false {}) {} =
            (.ret value, c) := by rw [onClient, hprepare]
        rw [wp_of_ret hrun, wp_onRaise]
        refine wp_mono (wp_openScan_texts bind c) (fun _ _ _ => trivial) (fun e _ h => ?_)
          fun _ _ => trivial
        obtain ⟨message, rfl, htext⟩ := h
        rw [wp_update]
        intro other hother
        cases hother
        exact htext
    | raise error =>
        have hrun :
            onClient (QueryApiV3Client.prepareInternal env fuel sql credentials false {}) {} =
            (.raise (.query error), c) := by rw [onClient, hprepare]
        rw [wp_of_raise hrun]
        exact fun message h => by cases h
    | cut =>
        have hrun :
            onClient (QueryApiV3Client.prepareInternal env fuel sql credentials false {}) {} =
            (.cut, c) := by rw [onClient, hprepare]
        rw [wp, hrun]
        trivial
  exact (wp_iff.mp hbody).2.1 _ _ h message hmessage

theorem queryInit_confined {Row : Type} {env : QueryEnv} {context : CallContext}
    {bound : BoundQuery} {registry : Registry} {e : StatementError}
    (h : (@queryInit Row env context bound registry).1 = .raise e) :
    Confined context.interrupted initTexts e := by
  have hfixed : StatementError.reauthText ∈ initTexts ∧ StatementError.failedText ∈ initTexts := by
    simp [initTexts]
  unfold queryInit at h
  dsimp only at h
  split at h
  · cases h
    exact .failed hfixed.1
  · split at h
    · cases h
    · rename_i hinit
      cases h
      unfold data360QueryInit at hinit
      split at hinit
      · cases hinit
      · rename_i hbody
        cases hinit
        exact ofTableFunction_confined hfixed (initBody_texts hbody)
      · cases hinit
    · cases h

end Data360Query

/-! ## Scanning -/

section Texts

variable {σ ε Row V : Type}

/-- A row does not convert because of one of its columns, or is too short. -/
theorem convertRow_error {castAs : LogicalType → Bytes → Option V} {types : List LogicalType}
    {names : List Bytes} {row : List Cell} {e : FillError ε} (named : types.length ≤ names.length)
    (h : convertRow castAs types names row = .error e) :
    e = .outOfBounds ∨ ∃ name ∈ names, e = conversionFailed name := by
  induction types generalizing row names with
  | nil => cases h
  | cons type types ih =>
      cases names with
      | nil => cases named
      | cons name names =>
          have hrest {cells : List Cell} {values : List (Option V) → List (Option V)}
              (h : (convertRow castAs types names cells).map values = .error e) :
              e = .outOfBounds ∨ ∃ other ∈ name :: names, e = conversionFailed other := by
            cases hcells : convertRow (ε := ε) castAs types names cells with
            | ok => rw [hcells] at h; cases h
            | error =>
                rw [hcells] at h
                cases h
                rcases ih (Nat.le_of_succ_le_succ named) hcells with hbounds | ⟨other, hother, heq⟩
                · exact .inl hbounds
                · exact .inr ⟨other, List.mem_cons_of_mem name hother, heq⟩
          cases row with
          | nil =>
              cases h
              exact .inl rfl
          | cons cell cells =>
              cases cell with
              | none => exact hrest h
              | some text =>
                  rw [convertRow] at h
                  split at h
                  · cases h
                    exact .inr ⟨name, List.mem_cons_self, rfl⟩
                  · exact hrest h

/-- A call of `FillDataChunk` throws what the source throws, or for a column, or it reads a
row out of its bounds. -/
theorem wp_fillLoop_texts {source : ChunkSource σ ε} {castAs : LogicalType → Bytes → Option V}
    {types : List LogicalType} {names : List Bytes} {capacity fuel : Nat}
    {output : List (List (Option V))} (named : types.length ≤ names.length) (s : ScanState σ ε) :
    wp (fillLoop source castAs types names capacity fuel output) (fun _ _ => True)
      (fun e _ => (∃ error, e = .source error) ∨ e = .outOfBounds ∨
        ∃ name ∈ names, e = conversionFailed name)
      (fun _ => True) s := by
  induction fuel generalizing output s with
  | zero => trivial
  | succ fuel ih =>
      rw [fillLoop, wp_bind, wp_read, wp_ite]
      refine ⟨fun _ => trivial, fun _ => ?_⟩
      rw [wp_ite]
      refine ⟨fun _ => ?_, fun _ => ?_⟩
      · rw [wp_bind]
        refine wp_fetchChunk (fun more _ => ?_) fun e _ => .inl ⟨e, rfl⟩
        rw [wp_ite]
        exact ⟨fun _ => ih _, fun _ => trivial⟩
      · rw [wp_bind, wp_takeRow, wp_bind, wp_orThrow]
        exact ⟨fun values _ => ih _, fun e he => .inr (convertRow_error named he)⟩

theorem reader_create_error {library : ArrowLibrary Row} {contentType body : Bytes}
    {expected : List ExpectedArrowField} {maxBodyBytes : UInt64} {message : String}
    (h : ArrowIpcChunkReader.create library contentType body expected maxBodyBytes =
      .error message) : message = invalidArrowError := by
  unfold ArrowIpcChunkReader.create at h
  split at h
  · cases h
    rfl
  · split at h
    · cases h
      rfl
    · split at h
      · split at h
        · cases h
          rfl
        · cases h
      · cases h
        rfl

theorem reader_next_error {reader left : ArrowIpcChunkReader Row} {message : String}
    (h : reader.next = (.error message, left)) : message = invalidArrowError := by
  unfold ArrowIpcChunkReader.next at h
  split at h
  · cases h
  · split at h
    · cases h
      rfl
    · cases h
    · cases h

namespace ArrowScanSource

theorem contentTypeOf_error {result : Bytes} {headers : List (Bytes × Bytes)} {message : String}
    (h : contentTypeOf result headers = .error message) : message ∈ arrowTexts := by
  induction headers generalizing result with
  | nil =>
      rw [contentTypeOf] at h
      split at h
      · cases h
        simp [arrowTexts]
      · cases h
  | cons header rest ih =>
      rw [contentTypeOf] at h
      split at h
      · exact ih h
      · split at h
        · cases h
          simp [arrowTexts]
        · exact ih h

theorem openReader_error {library : ArrowLibrary Row} {expected : List ExpectedArrowField}
    {types : List LogicalType} {contentType : Bytes} {response : HttpResponse} {message : String}
    (h : openReader library expected types contentType response = .error message) :
    message ∈ arrowTexts := by
  unfold openReader at h
  split at h
  · rename_i hcreate
    cases h
    rw [reader_create_error hcreate]
    simp [arrowTexts]
  · split at h
    · cases h
      simp [arrowTexts]
    · cases h

theorem countRows_error {validator : ArrowIpcChunkReader Row} {validatedRows : UInt64}
    {message : String} (h : countRows validator validatedRows = .error message) :
    message ∈ arrowTexts := by
  fun_induction countRows validator validatedRows with
  | case1 validator rows other left hnext =>
      cases h
      rw [reader_next_error hnext]
      simp [arrowTexts]
  | case2 => cases h
  | case3 =>
      cases h
      simp [arrowTexts]
  | case4 validator rows discarded left hnext hroom ih => exact ih h

theorem validate_error {library : ArrowLibrary Row} {expected : List ExpectedArrowField}
    {types : List LogicalType} {response : HttpResponse} {message : String}
    (h : validate library expected types response = .error message) : message ∈ arrowTexts := by
  rcases except_bind_eq_error.mp h with htype | ⟨contentType, -, h⟩
  · exact contentTypeOf_error htype
  rcases except_bind_eq_error.mp h with hopen | ⟨validator, -, h⟩
  · exact openReader_error hopen
  rcases except_bind_eq_error.mp h with hcount | ⟨validatedRows, -, h⟩
  · exact countRows_error hcount
  rcases except_bind_eq_error.mp h with hopen | ⟨reader, -, h⟩
  · exact openReader_error hopen
  · cases h

/-- A call of `Next` throws what the query client throws, or one of the texts. -/
theorem wp_next_texts (env : QueryEnv) (library : ArrowLibrary Row) (fuel : Nat)
    (source : ArrowScanSource Row) :
    wp (next env library fuel) (fun _ _ => True)
      (fun e _ => ∀ message, e = .invalidInput message → message ∈ arrowTexts) (fun _ => True)
      source := by
  have hcursor {α : Type} {prog : Query α} {source : ArrowScanSource Row}
      {Q : α → ArrowScanSource Row → Prop} (h : ∀ a source, Q a source) :
      wp (onCursor prog) Q (fun e _ => ∀ message, e = .invalidInput message → message ∈ arrowTexts)
        (fun _ => True) source := by
    rw [wp_onCursor, wp_iff]
    exact ⟨fun a c _ => h a _, fun e c _ message hmessage => (by cases hmessage),
      fun _ _ => trivial⟩
  induction fuel generalizing source with
  | zero => trivial
  | succ fuel ih =>
      rw [next, wp_bind]
      have hread : wp (readOn : Scan Row (Option (List Row))) (fun _ _ => True)
          (fun e _ => ∀ message, e = .invalidInput message → message ∈ arrowTexts) (fun _ => True)
          source := by
        rw [wp_iff]
        refine ⟨fun _ _ _ => trivial, fun e left h message hmessage => ?_, fun _ _ => trivial⟩
        unfold readOn at h
        split at h
        · cases h
        · split at h
          · cases h
          · cases h
          · rename_i hnext
            cases h
            cases hmessage
            rw [reader_next_error hnext]
            simp [arrowTexts]
      refine wp_mono hread (fun output source₁ _ => ?_) (fun _ _ h => h) fun _ h => h
      cases output with
      | some rows => trivial
      | none =>
          rw [wp_bind]
          refine hcursor fun response source₂ => ?_
          cases response with
          | none => trivial
          | some response =>
              rw [wp_bind, takeResponse, wp_bind, wp_read, wp_bind]
              cases hvalidate : validate library source₂.expected source₂.types response with
              | error text =>
                  simp only [id_eq, hvalidate]
                  intro message hmessage
                  cases hmessage
                  exact validate_error hvalidate
              | ok validated =>
                  simp only [id_eq, hvalidate]
                  rw [orInvalid, wp_pure, wp_bind]
                  exact hcursor fun _ source₃ => ih _

end ArrowScanSource

end Texts

/-! ## Every statement -/

section Statements

variable {Row V : Type}

/-- What the calls of a scan keep: the rows of a JSON scan are as wide as the bound
types. -/
def WidthKept (bound : BoundQuery) : Data360GlobalState Row → Prop
  | .arrowSource _ => True
  | .source scan => ∃ metadata, Wide metadata scan ∧ metadata.length = bound.types.length

namespace Data360Query

/-- A call of `Data360QueryFunction` keeps the widths of a scan, and throws one of the texts. -/
theorem queryFunction_confined {env : QueryEnv} {library : ArrowLibrary Row}
    {castAs : LogicalType → Bytes → Option V} {bound : BoundQuery} (call : ScanCall)
    {state : Data360GlobalState Row} (named : bound.types.length ≤ bound.names.length)
    (h : WidthKept bound state) :
    WidthKept bound (queryFunction env library castAs bound call state).2 ∧
      ∀ e, (queryFunction env library castAs bound call state).1 = .raise e →
        Confined call.interrupted (scanTexts bound.names) e := by
  have hfixed : StatementError.reauthText ∈ scanTexts bound.names ∧
      StatementError.failedText ∈ scanTexts bound.names := by
    simp [scanTexts]
  cases state with
  | arrowSource source =>
      have hnext := wp_iff.mp (ArrowScanSource.wp_next_texts env library call.fuel source)
      rw [queryFunction]
      split
      · exact ⟨trivial, fun _ herror => by cases herror⟩
      · rename_i e left hrun
        refine ⟨trivial, fun _ herror => ?_⟩
        cases herror
        refine ofTableFunction_confined hfixed fun message hmessage => ?_
        have htext := List.mem_map_of_mem (f := ascii) (hnext.2.1 _ _ hrun message hmessage)
        simp [scanTexts, htext]
      · exact ⟨trivial, fun _ herror => by cases herror⟩
  | source scan =>
      obtain ⟨metadata, hwide, hwidth⟩ := h
      have hinside : wp (fillLoop (cursorChunkSource env) castAs bound.types bound.names
          call.capacity call.fuel []) (fun _ => Wide metadata)
          (fun e s' => e ≠ .outOfBounds ∧ Wide metadata s') (Wide metadata) scan :=
        wp_fillLoop_wide hwidth hwide
      have hfill := wp_iff.mp (wp_and hinside (wp_fillLoop_texts named scan))
      rw [queryFunction, fillDataChunk]
      split
      · rename_i hrun
        exact ⟨⟨metadata, (hfill.1 _ _ hrun).1, hwidth⟩, fun _ herror => by cases herror⟩
      · rename_i e left hrun
        obtain ⟨⟨hbounds, hleft⟩, htexts⟩ := hfill.2.1 _ _ hrun
        refine ⟨⟨metadata, hleft, hwidth⟩, fun _ herror => ?_⟩
        cases herror
        rcases htexts with ⟨error, rfl⟩ | rfl | ⟨name, hname, rfl⟩
        · cases error with
          | reauthRequired => exact .invalidInput hfixed.1
          | _ => exact .failed hfixed.2
        · exact absurd rfl hbounds
        · refine .invalidInput ?_
          have htext := List.mem_map_of_mem (f := conversionText) hname
          exact List.mem_append_right _ htext
      · rename_i hrun
        exact ⟨⟨metadata, (hfill.2.2 _ hrun).1, hwidth⟩, fun _ herror => by cases herror⟩

/-- What binding returns has a name and a type for every column. -/
theorem queryBind_columns {env : QueryEnv} {context : CallContext} {lookup : SecretLookup}
    {secretName sql : Bytes} {registry : Registry} {bound : BoundQuery}
    (h : (queryBind env context lookup secretName sql registry).1 = .ret bound) :
    ∃ metadata, data360QueryBind metadata = .ok bound.toData360BindData := by
  unfold queryBind at h
  split at h
  · cases h
  · cases h
  · split at h
    · cases h
    · dsimp only at h
      split at h
      · cases h
      · split at h
        · rename_i hbody
          cases h
          rw [bindBody] at hbody
          split at hbody
          · split at hbody
            · rename_i hbind
              cases hbody
              exact ⟨_, hbind⟩
            · cases hbody
          · cases hbody
          · cases hbody
        · cases h
        · cases h

/-- A scan of what was bound starts with its widths. -/
theorem queryInit_widthKept {env : QueryEnv} {context : CallContext} {bound : BoundQuery}
    {registry : Registry} {state : Data360GlobalState Row}
    (width : bound.metadata.length = bound.types.length)
    (h : (queryInit env context bound registry).1 = .ret state) : WidthKept bound state := by
  cases state with
  | arrowSource source => trivial
  | source scan =>
      unfold queryInit at h
      dsimp only at h
      split at h
      · cases h
      · split at h
        · rename_i hinit
          cases h
          obtain ⟨metadata, hwide, hlength⟩ := init_wide hinit
          exact ⟨metadata, hwide, hlength.symm.trans width⟩
        · cases h
        · cases h

/-- The names of a statement are as many as its types. -/
theorem bind_named {metadata : List ColumnMetadata} {bind : Data360BindData}
    (h : data360QueryBind metadata = .ok bind) : bind.types.length = bind.names.length := by
  have htypes := (data360QueryBind_ok h).length_eq
  rw [data360QueryBind] at h
  split at h
  · cases h
  · obtain ⟨types, -, hbind⟩ := except_bind_eq_ok.mp h
    obtain rfl := Except.ok.inj hbind
    rw [List.length_map]
    exact htypes.symm

/-- The errors of a statement have no text of the service.  Binding, opening a scan and
every call on it throw an interrupt only when the context is interrupted, and otherwise one
of the texts of the program, with the name of the secret or of a bound column in it; and no
row is ever read out of its bounds. -/
theorem errors_confined {env : QueryEnv} {context : CallContext} {lookup : SecretLookup}
    {secretName sql : Bytes} {registry : Registry} :
    (∀ e, (queryBind env context lookup secretName sql registry).1 = .raise e →
      BindConfined context.interrupted lookup secretName e) ∧
    ∀ bound, (queryBind env context lookup secretName sql registry).1 = .ret bound →
      ∀ (env : QueryEnv) (context : CallContext) (registry : Registry),
        (∀ e, (@queryInit Row env context bound registry).1 = .raise e →
          Confined context.interrupted initTexts e) ∧
        ∀ (state : Data360GlobalState Row) (library : ArrowLibrary Row)
          (castAs : LogicalType → Bytes → Option V) (calls : List ScanCall),
          (queryInit env context bound registry).1 = .ret state →
            ∀ event ∈ (statementMachine env library castAs bound).trace state calls,
              ∀ e, event.output = .raise e →
                Confined event.input.interrupted (scanTexts bound.names) e := by
  refine ⟨fun e h => queryBind_confined h, fun bound hbound env context registry =>
    ⟨fun e h => queryInit_confined h, fun state library castAs calls hinit event hevent e he => ?_⟩⟩
  obtain ⟨metadata, hbind⟩ := queryBind_columns hbound
  have hnamed : bound.types.length ≤ bound.names.length := (bind_named hbind).le
  have hstart : WidthKept bound state := queryInit_widthKept (bind_width hbind) hinit
  obtain ⟨past, rest, htrace⟩ := List.append_of_mem hevent
  obtain ⟨first, call, second, -, -, rfl⟩ :=
    (statementMachine env library castAs bound).trace_eq_append_cons htrace
  have hkept : WidthKept bound ((statementMachine env library castAs bound).run state first) :=
    (statementMachine env library castAs bound).run_keeps (I := WidthKept bound)
      (fun _ call h => (queryFunction_confined call hnamed h).1) hstart first
  exact (queryFunction_confined call hnamed hkept).2 e he

end Data360Query

end Statements

/-- A service that answers with a number that is none. -/
def spoiledEnv : QueryEnv :=
  scriptedEnv (fun _ => 0) (fun _ => some { status := 200 }) fun _ => .response
    { state := .complete
      queryId := ascii "q-1"
      metadata := [⟨ascii "id", ascii "bigint", false, false, false, 0, 0⟩]
      chunk := { rows := [[some (ascii "token")]] } }

namespace Data360Query

/-- Opening a scan of that service. -/
def spoiledInit : Outcome StatementError (Data360GlobalState Unit) :=
  (queryInit spoiledEnv sampleContext sampleBound (registryMachine.run {} storedOnce)).1

/-- The machine of that scan. -/
def spoiledMachine :
    Machine (Data360GlobalState Unit) ScanCall (Outcome StatementError (ScanOutput Unit Nat)) :=
  statementMachine spoiledEnv (fun _ => none) castDigits sampleBound

/-- What its first call throws. -/
def spoiledError : Outcome StatementError (Data360GlobalState Unit) → Option StatementError
  | .ret state =>
      match (spoiledMachine.step ⟨2, 2048, false⟩ state).1 with
      | .raise e => some e
      | _ => none
  | _ => none

/-- The call throws, and the value of the service is not in the text. -/
theorem errors_confined_sample :
    spoiledError spoiledInit = some (.invalidInput (conversionText (ascii "id"))) ∧
      ∀ state, spoiledInit = .ret state →
        ∀ event ∈ spoiledMachine.trace state [⟨2, 2048, false⟩],
          ∀ e, event.output = .raise e →
            Confined event.input.interrupted (scanTexts [ascii "id"]) e := by
  have hbound : (queryBind spoiledEnv sampleContext (.found (sessionData360Secret loginId))
      (ascii "login") (ascii "SELECT 1") (registryMachine.run {} storedOnce)).1 =
        .ret sampleBound := by
    decide +kernel
  refine ⟨by decide +kernel, fun state hinit => ?_⟩
  exact ((errors_confined.2 sampleBound hbound spoiledEnv sampleContext
    (registryMachine.run {} storedOnce)).2 state (fun _ => none) castDigits _ hinit)

end Data360Query

end Data360
