import Data360.Data360Extension

/-!
# Reading an Arrow stream

`src/arrow_ipc_chunk_reader.cpp`: the media type of a response, the schema of
its stream, and the reader that hands out the rows in chunks of the size of a
DuckDB vector.

nanoarrow and DuckDB's conversion are not part of the repository.  What they
make of a body is an `ArrowStream`: a schema, a list of record batches whose
rows convert or do not, and the way the stream ends.

* `ArrowIpcChunkReader.create` and `ArrowIpcChunkReader.next` are the reader.
* `ArrowIpcChunkReader.decoded` is what is left of the stream, if all of it
  decodes.  `next_of_decoded` and `decoded_of_next` say that `next` takes its
  chunks off the front of it.
-/

namespace Data360

open Lib.ByteString

/-! ## The media type -/

/-- `ARROW_MEDIA_TYPE`. -/
def arrowMediaType : Bytes := ascii "application/vnd.apache.arrow.stream"

/-- `IsTokenCharacter`. -/
def isTokenCharacter (value : UInt8) : Bool :=
  isAlnum value || (ascii "!#$%&'*+-.^_\x60|~").contains value

/-- One turn of the parameter loop of `IsArrowMediaType`, on the trimmed
parameter. -/
def isMediaParameter (parameter : Bytes) : Bool :=
  match find [61] parameter with
  | none => false
  | some equals =>
      equals ≠ 0 && equals + 1 ≠ parameter.length &&
        (parameter.take equals).all isTokenCharacter &&
        (parameter.drop (equals + 1)).all isTokenCharacter

theorem findFrom_bounds {c : UInt8} {value : Bytes} {start position : Nat}
    (h : findFrom [c] value start = some position) :
    start ≤ position ∧ position < value.length := by
  obtain ⟨offset, hoffset, rfl⟩ := Option.map_eq_some_iff.mp h
  have hlength := congrArg List.length (find_spec hoffset)
  simp only [List.length_append, List.length_take, List.length_drop, List.length_singleton]
    at hlength
  omega

/-- The parameter loop of `IsArrowMediaType`, from a separator on. -/
def areMediaParameters (value : Bytes) (separator : Nat) : Bool :=
  let start := separator + 1
  match _next : findFrom [59] value start with
  | none => isMediaParameter (trimBlanks (value.drop start))
  | some stop =>
      isMediaParameter (trimBlanks (substr value start (stop - start))) &&
        areMediaParameters value stop
termination_by value.length - separator
decreasing_by
  have := findFrom_bounds _next
  omega

/-- `IsArrowMediaType`. -/
def isArrowMediaType (value : Bytes) : Bool :=
  match find [59] value with
  | none => lower (trimBlanks value) = arrowMediaType
  | some separator =>
      lower (trimBlanks (value.take separator)) = arrowMediaType &&
        areMediaParameters value separator

/-! ## Streams -/

/-- A column of an Arrow schema; `none` is a null pointer. -/
structure ArrowChild where
  name : Option Bytes
  format : Option Bytes
  nullable : Bool
  deriving DecidableEq, Repr

/-- An Arrow schema. -/
structure ArrowSchema where
  format : Option Bytes
  children : List (Option ArrowChild)
  deriving DecidableEq, Repr

/-- A record batch.  `row i` is its row `i` as DuckDB converts it, or `none`
when the conversion throws. -/
structure ArrowArray (Row : Type) where
  length : Int
  nChildren : Int
  row : Nat → Option Row

/-- The rows of a slice of a batch, or `none` when one does not convert. -/
def ArrowArray.slice {Row : Type} (array : ArrowArray Row) (offset : Nat) :
    Nat → Option (List Row)
  | 0 => some []
  | count + 1 => do
      let row ← array.row offset
      let rest ← array.slice (offset + 1) count
      some (row :: rest)

/-- What nanoarrow reads from a body.  `types` are the types that DuckDB gives
the schema, or `none` when it throws.  After the batches the next one is an
error, or there is none and the input stands at an offset. -/
structure ArrowStream (Row : Type) where
  schema : ArrowSchema
  types : Option (List LogicalType)
  arrays : List (ArrowArray Row)
  ending : Option Nat

/-- nanoarrow and DuckDB's conversion: the stream of a body, or `none` when it
has no schema. -/
abbrev ArrowLibrary (Row : Type) := Bytes → Option (ArrowStream Row)

/-- One turn of the loop of `ValidateSchema`. -/
def validChild (field : ExpectedArrowField) : Option ArrowChild → Bool
  | some ⟨some name, some format, nullable⟩ =>
      field.name = name && formatMatches field format && nullable = field.nullable &&
        !(field.kind = .decimal128 &&
          (field.precision = 0 || field.precision > 38 || field.scale > field.precision))
  | _ => false

/-- `ValidateSchema`. -/
def validSchema (schema : ArrowSchema) (expected : List ExpectedArrowField) : Bool :=
  schema.format = some (ascii "+s") && schema.children.length = expected.length &&
    (expected.zip schema.children).all fun (field, child) => validChild field child

/-! ## The reader -/

/-- `STANDARD_VECTOR_SIZE`. -/
def standardVectorSize : Nat := 2048

theorem standardVectorSize_pos : 0 < standardVectorSize := by decide

/-- `INVALID_ARROW_ERROR`. -/
def invalidArrowError : String := "Data 360 Arrow IPC response is invalid"

variable {Row : Type}

/-- `ArrowIpcChunkReader::Impl`, without its names. -/
structure ArrowIpcChunkReader (Row : Type) where
  expected : List ExpectedArrowField
  types : List LogicalType
  bodySize : Nat
  arrays : List (ArrowArray Row)
  ending : Option Nat
  current : Option (ArrowArray Row) := none
  currentOffset : Nat := 0
  eos : Bool := false

namespace ArrowIpcChunkReader

/-- The constructor. -/
def create (library : ArrowLibrary Row) (contentType body : Bytes)
    (expected : List ExpectedArrowField) (maxBodyBytes : UInt64) :
    Except String (ArrowIpcChunkReader Row) :=
  if ¬ isArrowMediaType contentType ∨ body = [] ∨ maxBodyBytes.toNat < body.length ∨
      2 ^ 63 - 1 < body.length then .error invalidArrowError
  else
    match library body with
    | none => .error invalidArrowError
    | some stream =>
        if validSchema stream.schema expected then
          match stream.types with
          | none => .error invalidArrowError
          | some types =>
              .ok { expected, types, bodySize := body.length, arrays := stream.arrays,
                    ending := stream.ending }
        else .error invalidArrowError

/-- The batch has the columns that are expected. -/
def wellShaped (reader : ArrowIpcChunkReader Row) (array : ArrowArray Row) : Bool :=
  0 ≤ array.length && array.nChildren = reader.expected.length

/-- `LoadBatch`; `none` is a throw. -/
def loadBatch (reader : ArrowIpcChunkReader Row) : Option Bool × ArrowIpcChunkReader Row :=
  match reader.arrays with
  | [] =>
      if reader.ending = some reader.bodySize then
        (some false, { reader with current := none, eos := true })
      else (none, { reader with current := none })
  | array :: rest =>
      if reader.wellShaped array then
        (some true, { reader with arrays := rest, current := some array, currentOffset := 0 })
      else (none, { reader with arrays := rest, current := none })

/-- The rows of the current batch that are not handed out yet. -/
def remaining (reader : ArrowIpcChunkReader Row) : Nat :=
  match reader.current with
  | none => 0
  | some array => array.length.toNat - reader.currentOffset

/-- The condition of the loop of `Next` for another batch, and the batch. -/
def prepareBatch (reader : ArrowIpcChunkReader Row) : Option Bool × ArrowIpcChunkReader Row :=
  if reader.remaining = 0 then reader.loadBatch else (some true, reader)

/-- `ConvertSlice`, from the current offset on; `none` is a throw. -/
def convertSlice (reader : ArrowIpcChunkReader Row) (count : Nat) : Option (List Row) :=
  match reader.current with
  | none => some []
  | some array => array.slice reader.currentOffset count

/-- The reader after `count` more rows of the current batch. -/
def advance (reader : ArrowIpcChunkReader Row) (count : Nat) : ArrowIpcChunkReader Row :=
  { reader with currentOffset := reader.currentOffset + count }

theorem length_slice {array : ArrowArray Row} {offset count : Nat} {rows : List Row}
    (h : array.slice offset count = some rows) : rows.length = count := by
  induction count generalizing offset rows with
  | zero =>
      cases h
      rfl
  | succ count ih =>
      obtain ⟨row, -, hrest⟩ := Option.bind_eq_some_iff.mp h
      obtain ⟨rest, hslice, hrows⟩ := Option.bind_eq_some_iff.mp hrest
      cases hrows
      exact congrArg Nat.succ (ih hslice)

/-- A slice is converted in two parts. -/
theorem slice_add (array : ArrowArray Row) (offset first second : Nat) :
    array.slice offset (first + second) = (array.slice offset first).bind fun front =>
      (array.slice (offset + first) second).map (front ++ ·) := by
  induction first generalizing offset with
  | zero => simp [ArrowArray.slice]
  | succ first ih =>
      rw [Nat.succ_add_eq_add_succ, Nat.add_succ, ArrowArray.slice, ArrowArray.slice, ih]
      rw [show offset + (first + 1) = offset + 1 + first by omega]
      cases array.row offset with
      | none => rfl
      | some row =>
          cases array.slice (offset + 1) first with
          | none => rfl
          | some front => cases array.slice (offset + 1 + first) second <;> rfl

theorem length_convertSlice {reader : ArrowIpcChunkReader Row} {count : Nat} {rows : List Row}
    (h : reader.convertSlice count = some rows) (hcount : count ≤ reader.remaining) :
    rows.length = count := by
  unfold convertSlice at h
  unfold remaining at hcount
  split at h
  · rename_i hcurrent
    rw [hcurrent] at hcount
    cases h
    exact (Nat.le_zero.mp hcount).symm
  · exact length_slice h

/-- A batch is there already, or it is the next one of the stream. -/
theorem prepareBatch_true {reader loaded : ArrowIpcChunkReader Row}
    (h : reader.prepareBatch = (some true, loaded)) :
    (reader.remaining ≠ 0 ∧ loaded = reader) ∨
      ∃ array rest, reader.remaining = 0 ∧ reader.arrays = array :: rest ∧
        reader.wellShaped array = true ∧
        loaded = { reader with arrays := rest, current := some array, currentOffset := 0 } := by
  unfold prepareBatch loadBatch at h
  split at h
  · rename_i hremaining
    split at h
    · split at h <;> cases h
    · rename_i array rest harrays
      split at h
      · rename_i hshaped
        cases h
        exact .inr ⟨array, rest, hremaining, harrays, hshaped, rfl⟩
      · cases h
  · rename_i hremaining
    cases h
    exact .inl ⟨hremaining, rfl⟩

/-- The loop of `Next`, with the rows that the output holds; `none` is a
throw. -/
def fill (reader : ArrowIpcChunkReader Row) (output : List Row) :
    Option (List Row) × ArrowIpcChunkReader Row :=
  if _room : output.length < standardVectorSize then
    match _load : reader.prepareBatch with
    | (none, loaded) => (none, loaded)
    | (some false, loaded) => (some output, loaded)
    | (some true, loaded) =>
        let count := min loaded.remaining (standardVectorSize - output.length)
        match _slice : loaded.convertSlice count with
        | none => (none, loaded)
        | some rows => fill (loaded.advance count) (output ++ rows)
  else (some output, reader)
termination_by reader.arrays.length + (standardVectorSize - output.length)
decreasing_by
  have hlength := length_convertSlice _slice (Nat.min_le_left _ _)
  rw [List.length_append, hlength]
  rcases prepareBatch_true _load with ⟨hremaining, rfl⟩ | ⟨array, rest, -, harrays, -, rfl⟩
  · simp only [advance]
    omega
  · simp only [advance, harrays, List.length_cons]
    omega

/-- `Next`: the rows of the output, or `none` when there are none left. -/
def next (reader : ArrowIpcChunkReader Row) :
    Except String (Option (List Row)) × ArrowIpcChunkReader Row :=
  if reader.eos then (.ok none, reader)
  else
    match reader.fill [] with
    | (none, reader) => (.error invalidArrowError, reader)
    | (some [], reader) => (.ok none, reader)
    | (some output, reader) => (.ok (some output), reader)

/-- The rows that are left, whether they convert or not. -/
def rowsLeft (reader : ArrowIpcChunkReader Row) : Nat :=
  reader.remaining + (reader.arrays.map (·.length.toNat)).sum

/-- The loop of `Next` moves rows into the output. -/
theorem fill_rowsLeft {reader left : ArrowIpcChunkReader Row} {output filled : List Row}
    (h : reader.fill output = (some filled, left)) :
    left.rowsLeft + filled.length = reader.rowsLeft + output.length := by
  fun_induction fill reader output with
  | case1 => cases h
  | case2 reader output room loaded load =>
      cases h
      unfold prepareBatch loadBatch at load
      split at load
      · rename_i hremaining
        split at load
        · rename_i harrays
          split at load <;> cases load
          simp [rowsLeft, remaining, harrays] at hremaining ⊢
          omega
        · split at load <;> cases load
      · cases load
  | case3 => cases h
  | case4 reader output room loaded load count rows slice ih =>
      rw [ih h, List.length_append, length_convertSlice slice (Nat.min_le_left _ _)]
      have hcount : count ≤ loaded.remaining := Nat.min_le_left _ _
      have hadvance : (loaded.advance count).rowsLeft + count = loaded.rowsLeft := by
        have hremaining : (loaded.advance count).remaining = loaded.remaining - count := by
          unfold remaining advance
          cases loaded.current with
          | none => simp
          | some array =>
              simp only
              omega
        rw [rowsLeft, rowsLeft, hremaining,
          show (loaded.advance count).arrays = loaded.arrays from rfl]
        omega
      have hloaded : loaded.rowsLeft = reader.rowsLeft := by
        rcases prepareBatch_true load with ⟨-, rfl⟩ | ⟨array, rest, hremaining, harrays, -, rfl⟩
        · rfl
        · rw [rowsLeft, rowsLeft, hremaining, harrays, List.map_cons, List.sum_cons, Nat.zero_add]
          rfl
      omega
  | case5 =>
      cases h
      rfl

/-- `Next` hands out rows of those that are left. -/
theorem next_rowsLeft {reader left : ArrowIpcChunkReader Row} {chunk : List Row}
    (h : reader.next = (.ok (some chunk), left)) :
    chunk ≠ [] ∧ left.rowsLeft + chunk.length = reader.rowsLeft := by
  unfold next at h
  split at h
  · cases h
  · split at h
    · cases h
    · cases h
    · rename_i hnonempty hrun
      cases h
      exact ⟨hnonempty, fill_rowsLeft hrun⟩

/-! ## What is left of a stream -/

/-- The rows of the batches, if all of them decode and the stream ends at the
end of the body. -/
def decodedArrays (reader : ArrowIpcChunkReader Row) : List (ArrowArray Row) → Option (List Row)
  | [] => if reader.ending = some reader.bodySize then some [] else none
  | array :: rest =>
      if reader.wellShaped array then
        (array.slice 0 array.length.toNat).bind fun front =>
          (reader.decodedArrays rest).map (front ++ ·)
      else none

/-- The rows that are left, if all of them decode and the stream ends at the end
of the body. -/
def decoded (reader : ArrowIpcChunkReader Row) : Option (List Row) :=
  if reader.eos then some []
  else
    (reader.convertSlice reader.remaining).bind fun front =>
      (reader.decodedArrays reader.arrays).map (front ++ ·)

/-- The rows of the batches do not depend on where the reader stands. -/
theorem decodedArrays_congr {reader reader' : ArrowIpcChunkReader Row}
    (hexpected : reader'.expected = reader.expected) (hsize : reader'.bodySize = reader.bodySize)
    (hending : reader'.ending = reader.ending) (arrays : List (ArrowArray Row)) :
    reader'.decodedArrays arrays = reader.decodedArrays arrays := by
  induction arrays with
  | nil => rw [decodedArrays, decodedArrays, hsize, hending]
  | cons array rest ih =>
      rw [decodedArrays, decodedArrays, ih, wellShaped, wellShaped, hexpected]

/-- Without a batch at hand there is nothing to convert. -/
theorem convertSlice_zero (reader : ArrowIpcChunkReader Row) : reader.convertSlice 0 = some [] := by
  unfold convertSlice
  split <;> rfl

/-- A part of the current batch is converted before the rest of it. -/
theorem decoded_advance {reader : ArrowIpcChunkReader Row} {count : Nat} {rows : List Row}
    (hopen : reader.eos = false) (hcount : count ≤ reader.remaining)
    (h : reader.convertSlice count = some rows) :
    reader.decoded = (reader.advance count).decoded.map (rows ++ ·) := by
  have harrays : (reader.advance count).decodedArrays reader.arrays
      = reader.decodedArrays reader.arrays := by
    apply decodedArrays_congr
    · rfl
    · rfl
    · rfl
  have hslice : reader.convertSlice reader.remaining
      = ((reader.advance count).convertSlice (reader.advance count).remaining).map (rows ++ ·) := by
    cases hcurrent : reader.current with
    | none =>
        simp only [convertSlice, advance, hcurrent] at h ⊢
        cases h
        rfl
    | some array =>
        simp only [convertSlice, remaining, advance, hcurrent] at h hcount ⊢
        have hsplit : array.length.toNat - reader.currentOffset
            = count + (array.length.toNat - (reader.currentOffset + count)) := by
          omega
        rw [hsplit, slice_add, h]
        rfl
  rw [decoded, decoded, if_neg (by simp [hopen]), if_neg (by simp [advance, hopen]), hslice,
    show (reader.advance count).arrays = reader.arrays from rfl, harrays]
  cases (reader.advance count).convertSlice (reader.advance count).remaining with
  | none => rfl
  | some front =>
      cases reader.decodedArrays reader.arrays with
      | none => rfl
      | some rest => simp

/-- A slice that does not convert spoils the rest. -/
theorem decoded_of_spoiled {reader : ArrowIpcChunkReader Row} {count : Nat}
    (hopen : reader.eos = false) (hcount : count ≤ reader.remaining)
    (h : reader.convertSlice count = none) : reader.decoded = none := by
  have hslice : reader.convertSlice reader.remaining = none := by
    cases hcurrent : reader.current with
    | none => simp [convertSlice, hcurrent] at h
    | some array =>
        simp only [convertSlice, remaining, hcurrent] at h hcount ⊢
        rw [← Nat.add_sub_of_le hcount, slice_add, h]
        rfl
  rw [decoded, if_neg (by simp [hopen]), hslice]
  rfl

/-- Without rows at hand, the rest is that of the batches. -/
theorem decoded_of_exhausted {reader : ArrowIpcChunkReader Row} (hopen : reader.eos = false)
    (hremaining : reader.remaining = 0) : reader.decoded = reader.decodedArrays reader.arrays := by
  rw [decoded, if_neg (by simp [hopen]), hremaining, convertSlice_zero]
  simp

/-- What getting a batch ready says of the rest. -/
theorem prepareBatch_spec {reader loaded : ArrowIpcChunkReader Row} {answer : Option Bool}
    (hopen : reader.eos = false) (h : reader.prepareBatch = (answer, loaded)) :
    match answer with
    | none => reader.decoded = none
    | some false => reader.decoded = some [] ∧ loaded.decoded = some []
    | some true => loaded.decoded = reader.decoded ∧ loaded.eos = false := by
  unfold prepareBatch loadBatch at h
  split at h
  · rename_i hremaining
    have hdecoded := decoded_of_exhausted hopen hremaining
    split at h
    · rename_i harrays
      rw [harrays, decodedArrays] at hdecoded
      split at h
      · rename_i hending
        cases h
        rw [if_pos hending] at hdecoded
        exact ⟨hdecoded, rfl⟩
      · rename_i hending
        cases h
        rw [if_neg hending] at hdecoded
        exact hdecoded
    · rename_i array rest harrays
      rw [harrays, decodedArrays] at hdecoded
      split at h
      · rename_i hshaped
        cases h
        rw [if_pos hshaped] at hdecoded
        refine ⟨?_, hopen⟩
        rw [hdecoded, decoded, if_neg (by simp [hopen])]
        simp only [convertSlice, remaining, Nat.sub_zero]
        congr 1
        funext front
        congr 1
        apply decodedArrays_congr
        · rfl
        · rfl
        · rfl
      · rename_i hshaped
        cases h
        rw [if_neg hshaped] at hdecoded
        exact hdecoded
  · cases h
    exact ⟨rfl, hopen⟩

/-- What the loop of `Next` takes off the rest. -/
theorem fill_spec (reader : ArrowIpcChunkReader Row) (output : List Row)
    (hopen : reader.eos = false) (hroom : output.length ≤ standardVectorSize) :
    match reader.fill output with
    | (none, _) => reader.decoded = none
    | (some filled, left) => ∃ rows, filled = output ++ rows ∧
        filled.length ≤ standardVectorSize ∧
        reader.decoded = left.decoded.map (rows ++ ·) ∧
        (filled.length < standardVectorSize → left.decoded = some []) := by
  fun_induction fill reader output with
  | case1 reader output room loaded load =>
      have hbatch := prepareBatch_spec hopen load
      exact hbatch
  | case2 reader output room loaded load =>
      have hbatch := prepareBatch_spec hopen load
      refine ⟨[], (List.append_nil _).symm, hroom, ?_, fun _ => hbatch.2⟩
      rw [hbatch.1, hbatch.2]
      rfl
  | case3 reader output room loaded load count slice =>
      have hbatch := prepareBatch_spec hopen load
      rw [← hbatch.1]
      exact decoded_of_spoiled hbatch.2 (Nat.min_le_left _ _) slice
  | case4 reader output room loaded load count rows slice ih =>
      have hbatch := prepareBatch_spec hopen load
      have hlength : rows.length = count := length_convertSlice slice (Nat.min_le_left _ _)
      have hadvance := decoded_advance hbatch.2 (Nat.min_le_left _ _) slice
      have hfill := ih hbatch.2 (by
        rw [List.length_append, hlength]
        omega)
      rw [← hbatch.1, hadvance]
      split at hfill
      · exact Option.map_eq_none_iff.mpr hfill
      · rename_i filled left hrun
        obtain ⟨more, hfilled, hsize, hrest, hlast⟩ := hfill
        refine ⟨rows ++ more, by rw [hfilled, List.append_assoc], hsize, ?_, hlast⟩
        show (loaded.advance count).decoded.map (rows ++ ·) = _
        rw [hrest, Option.map_map]
        congr 1
        funext tail
        exact (List.append_assoc rows more tail).symm
  | case5 reader output full =>
      refine ⟨[], (List.append_nil _).symm, hroom, by simp, fun h => absurd h full⟩

/-- What `Next` takes off the rest. -/
theorem next_spec {reader left : ArrowIpcChunkReader Row}
    {result : Except String (Option (List Row))}
    (h : reader.next = (result, left)) :
    match result with
    | .error _ => reader.decoded = none
    | .ok none => reader.decoded = some [] ∧ left.decoded = some []
    | .ok (some chunk) => chunk ≠ [] ∧ chunk.length ≤ standardVectorSize ∧
        reader.decoded = left.decoded.map (chunk ++ ·) ∧
        (chunk.length < standardVectorSize → left.decoded = some []) := by
  unfold next at h
  split at h
  · rename_i heos
    cases h
    have hdecoded : reader.decoded = some [] := by rw [decoded, if_pos heos]
    exact ⟨hdecoded, hdecoded⟩
  · rename_i hopen
    have hfill := fill_spec reader [] (by simpa using hopen) (Nat.zero_le _)
    split at h
    · rename_i hrun
      cases h
      rw [hrun] at hfill
      exact hfill
    · rename_i hrun
      cases h
      rw [hrun] at hfill
      obtain ⟨rows, hrows, -, hrest, hlast⟩ := hfill
      cases hrows
      have hleft : left.decoded = some [] := hlast standardVectorSize_pos
      rw [hleft] at hrest
      exact ⟨hrest, hleft⟩
    · rename_i output reader' hnonempty hrun
      cases h
      rw [hrun] at hfill
      obtain ⟨rows, rfl, hsize, hrest, hlast⟩ := hfill
      exact ⟨hnonempty, hsize, hrest, hlast⟩

/-- When everything decodes, `Next` hands out the next rows, as many as fit. -/
theorem next_of_decoded {reader : ArrowIpcChunkReader Row} {rows : List Row}
    (h : reader.decoded = some rows) :
    ∃ left, reader.next
        = (.ok (if rows = [] then none else some (rows.take standardVectorSize)), left) ∧
      left.decoded = some (rows.drop standardVectorSize) := by
  rcases hrun : reader.next with ⟨result, left⟩
  have hnext := next_spec hrun
  match result with
  | .error _ => cases h.symm.trans hnext
  | .ok none =>
      cases h.symm.trans hnext.1
      exact ⟨left, rfl, hnext.2⟩
  | .ok (some chunk) =>
      obtain ⟨hnonempty, hsize, hrest, hlast⟩ := hnext
      obtain ⟨tail, htail, rfl⟩ := Option.map_eq_some_iff.mp (hrest.symm.trans h)
      rw [if_neg (by simp [hnonempty])]
      -- either the output is full or nothing is left
      rcases Nat.lt_or_ge chunk.length standardVectorSize with hshort | hfull
      · cases htail.symm.trans (hlast hshort)
        refine ⟨left, ?_, ?_⟩
        · rw [List.append_nil, List.take_of_length_le hsize]
        · rw [List.append_nil, List.drop_eq_nil_of_le hsize]
          exact htail
      · have hlength : chunk.length = standardVectorSize := Nat.le_antisymm hsize hfull
        refine ⟨left, ?_, ?_⟩
        · rw [← hlength, List.take_left]
        · rw [← hlength, List.drop_left]
          exact htail

end ArrowIpcChunkReader

end Data360
