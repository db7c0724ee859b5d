import Data360.ArrowIpcChunkReader
import Data360.Lib.Batches

/-!
# Reading a whole Arrow stream

What successive calls of `ArrowIpcChunkReader::Next` make of the record batches of
a stream.

* `sliceRequests` lists the calls of `ConvertSlice` in one call of `Next`, and
  `sliceRequests_inBounds` says that none reaches over its batch or its output.
* `drains_next` says that the calls cut the rows of a stream that ends with its
  body into chunks, and `drains_unread` what happens at the end of any other.
* `Rebatched` and `CutOff` are what this comes to over a whole run, and
  `next_rebatches` is the result for every stream.
-/

namespace Data360

open Lib Lib.ByteString

variable {Row : Type}

/-! ## Slices -/

/-- A call of `ConvertSlice`: `count` rows of the batch from `offset` on go into the
output from `target` on. -/
structure SliceRequest (Row : Type) where
  batch : ArrowArray Row
  offset : Nat
  target : Nat
  count : Nat

/-- The slice lies in its batch, and fits in the output. -/
structure SliceRequest.InBounds (request : SliceRequest Row) : Prop where
  source : (request.offset + request.count : Int) ≤ request.batch.length
  target : request.target + request.count ≤ standardVectorSize

namespace ArrowIpcChunkReader

/-- The calls of `ConvertSlice` in the loop of `Next`. -/
def sliceRequests (reader : ArrowIpcChunkReader Row) (output : List Row) :
    List (SliceRequest Row) :=
  if _room : output.length < standardVectorSize then
    match _load : reader.prepareBatch with
    | (none, _) => []
    | (some false, _) => []
    | (some true, loaded) =>
        let count := min loaded.remaining (standardVectorSize - output.length)
        (loaded.current.map fun batch =>
          ⟨batch, loaded.currentOffset, output.length, count⟩).toList ++
          match _slice : loaded.convertSlice count with
          | none => []
          | some rows => sliceRequests (loaded.advance count) (output ++ rows)
  else []
termination_by reader.arrays.length + (standardVectorSize - output.length)
decreasing_by
  have hlength := length_convertSlice _slice (Nat.min_le_left _ _)
  rw [List.length_append, hlength]
  rcases prepareBatch_true _load with ⟨hremaining, rfl⟩ | ⟨array, rest, -, harrays, -, rfl⟩
  · simp only [advance]
    omega
  · simp only [advance, harrays, List.length_cons]
    omega

/-- A batch that is ready is there, and the offset lies in it. -/
theorem prepareBatch_current {reader loaded : ArrowIpcChunkReader Row}
    (h : reader.prepareBatch = (some true, loaded)) :
    ∃ batch, loaded.current = some batch ∧
    loaded.remaining = batch.length.toNat - loaded.currentOffset ∧
      (loaded.currentOffset : Int) ≤ batch.length := by
  rcases prepareBatch_true h with ⟨hremaining, rfl⟩ | ⟨batch, rest, -, -, hshaped, rfl⟩
  · cases hcurrent : loaded.current with
    | none => simp [remaining, hcurrent] at hremaining
    | some batch =>
        simp only [remaining, hcurrent] at hremaining ⊢
        exact ⟨batch, rfl, rfl, by omega⟩
  · simp only [wellShaped, Bool.and_eq_true, decide_eq_true_eq] at hshaped
    exact ⟨batch, rfl, rfl, hshaped.1⟩

/-- No slice reaches over its batch or over the output. -/
theorem sliceRequests_inBounds (reader : ArrowIpcChunkReader Row) (output : List Row) :
    ∀ request ∈ reader.sliceRequests output, request.InBounds := by
  fun_induction sliceRequests reader output with
  | case1 => simp
  | case2 => simp
  | case3 reader output room loaded load count ih =>
      obtain ⟨batch, hcurrent, hremaining, hoffset⟩ := prepareBatch_current load
      have hcount : count = min loaded.remaining (standardVectorSize - output.length) := rfl
      intro request hrequest
      rcases List.mem_append.mp hrequest with hfirst | hrest
      · rw [hcurrent, Option.map_some, Option.toList_some, List.mem_singleton] at hfirst
        subst hfirst
        constructor
        · show (loaded.currentOffset + count : Int) ≤ batch.length
          omega
        · show output.length + count ≤ standardVectorSize
          omega
      · split at hrest
        · cases hrest
        · rename_i rows slice
          exact ih rows slice request hrest
  | case4 => simp

/-- What the loop puts into the output are the slices that it asks for. -/
theorem fill_eq_slices {reader left : ArrowIpcChunkReader Row} {output filled : List Row}
    (h : reader.fill output = (some filled, left)) :
    ∃ slices, List.Forall₂ (fun (request : SliceRequest Row) rows =>
        request.batch.slice request.offset request.count = some rows)
          (reader.sliceRequests output) slices ∧
      filled = output ++ slices.flatten := by
  fun_induction fill reader output with
  | case1 => cases h
  | case2 reader output room loaded load =>
      cases h
      refine ⟨[], ?_, by simp⟩
      rw [sliceRequests, dif_pos room]
      split
      · exact .nil
      · exact .nil
      · rename_i loaded' load'
        cases load.symm.trans load'
  | case3 => cases h
  | case4 reader output room loaded load count rows slice ih =>
      obtain ⟨slices, hslices, hfilled⟩ := ih h
      obtain ⟨batch, hcurrent, -, -⟩ := prepareBatch_current load
      refine ⟨rows :: slices, ?_, by rw [hfilled, List.flatten_cons, List.append_assoc]⟩
      rw [sliceRequests, dif_pos room]
      split
      · rename_i loaded' load'
        cases load.symm.trans load'
      · rename_i loaded' load'
        cases load.symm.trans load'
      · rename_i loaded' load'
        cases load.symm.trans load'
        have hbatch : batch.slice loaded.currentOffset count = some rows := by
          rw [convertSlice, hcurrent] at slice
          exact slice
        simp only [hcurrent, Option.map_some, Option.toList_some, List.singleton_append]
        refine .cons hbatch ?_
        split
        · rename_i slice'
          cases slice.symm.trans slice'
        · rename_i rows' slice'
          cases slice.symm.trans slice'
          exact hslices
  | case5 reader output full =>
      cases h
      refine ⟨[], ?_, by simp⟩
      rw [sliceRequests, dif_neg full]
      exact .nil

/-- The calls of `ConvertSlice` in one call of `Next`. -/
def nextRequests (reader : ArrowIpcChunkReader Row) : List (SliceRequest Row) :=
  if reader.eos then [] else reader.sliceRequests []

theorem nextRequests_inBounds (reader : ArrowIpcChunkReader Row) :
    ∀ request ∈ reader.nextRequests, request.InBounds := by
  unfold nextRequests
  split
  · simp
  · exact reader.sliceRequests_inBounds []

/-- A chunk is made of the slices that the call asks for. -/
theorem next_eq_slices {reader left : ArrowIpcChunkReader Row} {chunk : List Row}
    (h : reader.next = (.ok (some chunk), left)) :
    ∃ slices, List.Forall₂ (fun (request : SliceRequest Row) rows =>
        request.batch.slice request.offset request.count = some rows) reader.nextRequests slices ∧
      chunk = slices.flatten := by
  unfold next at h
  unfold nextRequests
  split at h
  · cases h
  · rename_i hopen
    split at h
    · cases h
    · cases h
    · rename_i hfill
      cases h
      rw [if_neg hopen]
      exact fill_eq_slices hfill

/-! ## Streams that end with their body -/

/-- The machine of the calls of `Next`. -/
def nextMachine : Machine (ArrowIpcChunkReader Row) Unit (Except String (Option (List Row))) :=
  ⟨fun _ reader => reader.next⟩

/-- What a call puts out for the rows that it got: `false` when there are none. -/
def chunkOf (rows : List Row) : Except String (Option (List Row)) :=
  .ok (if rows = [] then none else some rows)

/-- The calls cut the rows of a stream that decodes into chunks. -/
theorem drains_next : Drains (@nextMachine Row) (fun _ => True) (fun _ => standardVectorSize)
    chunkOf (fun rows reader => reader.decoded = some rows) where
  output {rows reader _} h _ := by
    obtain ⟨left, hnext, -⟩ := next_of_decoded h
    have hempty : rows.take standardVectorSize = [] ↔ rows = [] := by
      rw [List.take_eq_nil_iff]
      exact or_iff_right (Nat.ne_of_gt standardVectorSize_pos)
    rw [show nextMachine.step () reader = _ from hnext, chunkOf]
    simp only [hempty]
  left {rows reader _} h _ := by
    obtain ⟨left, hnext, hleft⟩ := next_of_decoded h
    rw [show nextMachine.step () reader = _ from hnext]
    exact hleft

/-! ## Streams that do not -/

/-- The reader of a stream that ends with its body. -/
def repaired (reader : ArrowIpcChunkReader Row) : ArrowIpcChunkReader Row :=
  { reader with ending := some reader.bodySize }

/-- These rows are left, and behind them the stream ends before its body, or with an
error. -/
structure Unread (reader : ArrowIpcChunkReader Row) (rows : List Row) : Prop where
  unread : reader.ending ≠ some reader.bodySize
  going : reader.eos = false
  ahead : reader.repaired.decoded = some rows

/-- Getting a batch ready, before the end of such a stream and at it. -/
theorem Unread.prepareBatch {reader : ArrowIpcChunkReader Row} {rows : List Row}
    (h : Unread reader rows) :
    (∃ loaded, reader.prepareBatch = (some true, loaded) ∧ Unread loaded rows) ∨
      ∃ loaded, reader.prepareBatch = (none, loaded) ∧ rows = [] ∧ Unread loaded [] := by
  have hends : reader.repaired.decodedArrays [] = some [] := by
    rw [decodedArrays]
    exact if_pos rfl
  by_cases hremaining : reader.remaining = 0
  · have hrepaired : reader.repaired.remaining = 0 := hremaining
    have hahead : reader.repaired.decoded = reader.repaired.decodedArrays reader.repaired.arrays :=
      decoded_of_exhausted h.going hrepaired
    rw [h.ahead] at hahead
    cases harrays : reader.arrays with
    | nil =>
        right
        rw [show reader.repaired.arrays = [] from harrays, hends] at hahead
        refine ⟨{ reader with current := none }, ?_, by simpa using hahead, h.unread, h.going, ?_⟩
        · rw [ArrowIpcChunkReader.prepareBatch, if_pos hremaining, loadBatch, harrays]
          simp only [if_neg h.unread]
        · let emptied : ArrowIpcChunkReader Row := { reader.repaired with current := none }
          have hgoing : emptied.eos = false := h.going
          have hlast : emptied.decoded = emptied.decodedArrays emptied.arrays :=
            decoded_of_exhausted hgoing rfl
          rw [show emptied.arrays = [] from harrays] at hlast
          exact hlast.trans hends
    | cons batch rest =>
        left
        have hshaped : reader.wellShaped batch = true := by
          by_contra hnot
          rw [show reader.repaired.arrays = _ from harrays, decodedArrays,
            if_neg (show ¬ reader.repaired.wellShaped batch = true from hnot)] at hahead
          cases hahead
        let loaded : ArrowIpcChunkReader Row :=
          { reader with arrays := rest, current := some batch, currentOffset := 0 }
        have hload (reader : ArrowIpcChunkReader Row) (hremaining : reader.remaining = 0)
            (harrays : reader.arrays = batch :: rest) (hshaped : reader.wellShaped batch = true) :
            reader.prepareBatch
              = (some true,
                { reader with arrays := rest, current := some batch, currentOffset := 0 }) := by
          rw [ArrowIpcChunkReader.prepareBatch, if_pos hremaining, loadBatch, harrays]
          simp only [if_pos hshaped]
        refine ⟨loaded, hload reader hremaining harrays hshaped, h.unread, h.going, ?_⟩
        have hopen : reader.repaired.eos = false := h.going
        have hspec := prepareBatch_spec hopen (hload reader.repaired hremaining harrays hshaped)
        exact hspec.1.trans h.ahead
  · left
    refine ⟨reader, ?_, h⟩
    rw [ArrowIpcChunkReader.prepareBatch, if_neg hremaining]

/-- The loop of `Next` over a stream that does not end with its body. -/
theorem Unread.fill {reader : ArrowIpcChunkReader Row} {rows output : List Row}
    (h : Unread reader rows)
    (room : output.length ≤ standardVectorSize) :
    ∃ left, reader.fill output
        = (if standardVectorSize - output.length ≤ rows.length then
            some (output ++ rows.take (standardVectorSize - output.length)) else none, left) ∧
      Unread left (rows.drop (standardVectorSize - output.length)) := by
  fun_induction ArrowIpcChunkReader.fill reader output generalizing rows with
  | case1 reader output hroom loaded load =>
      rcases h.prepareBatch with ⟨loaded', hload, -⟩ | ⟨loaded', hload, rfl, hleft⟩
      · cases load.symm.trans hload
      · cases load.symm.trans hload
        refine ⟨loaded, ?_, by simpa using hleft⟩
        rw [if_neg]
        simp only [List.length_nil]
        omega
  | case2 reader output hroom loaded load =>
      rcases h.prepareBatch with ⟨loaded', hload, -⟩ | ⟨loaded', hload, -⟩
      · cases load.symm.trans hload
      · cases load.symm.trans hload
  | case3 reader output hroom loaded load count =>
      rename_i slice
      rcases h.prepareBatch with ⟨loaded', hload, hunread⟩ | ⟨loaded', hload, -⟩
      · cases load.symm.trans hload
        have hspoiled : loaded.repaired.decoded = none :=
          decoded_of_spoiled hunread.going (Nat.min_le_left _ _) slice
        cases hunread.ahead.symm.trans hspoiled
      · cases load.symm.trans hload
  | case4 reader output hroom loaded load count front slice =>
      rename_i ih
      rcases h.prepareBatch with ⟨loaded', hload, hunread⟩ | ⟨loaded', hload, -⟩
      · cases load.symm.trans hload
        have hlength : front.length = count := length_convertSlice slice (Nat.min_le_left _ _)
        have hcount : count ≤ standardVectorSize - output.length := Nat.min_le_right _ _
        have hadvance :
            loaded.repaired.decoded = (loaded.repaired.advance count).decoded.map (front ++ ·) :=
          decoded_advance hunread.going (Nat.min_le_left _ _) slice
        rw [hunread.ahead] at hadvance
        obtain ⟨tail, htail, htailrows⟩ := Option.map_eq_some_iff.mp hadvance.symm
        subst htailrows
        have hnext : Unread (loaded.advance count) tail := ⟨hunread.unread, hunread.going, htail⟩
        obtain ⟨left, hfill, hleft⟩ := ih hnext (by rw [List.length_append]; omega)
        have hsplit : standardVectorSize - output.length
            = front.length + (standardVectorSize - (output ++ front).length) := by
          rw [List.length_append]
          omega
        refine ⟨left, ?_, ?_⟩
        · have htake : front.length + (standardVectorSize - (output ++ front).length)
            ≤ (front ++ tail).length ↔
              standardVectorSize - (output ++ front).length ≤ tail.length := by
            rw [show (front ++ tail).length = front.length + tail.length from List.length_append,
              Nat.add_le_add_iff_left]
          rw [hfill, hsplit, List.take_length_add_append, List.append_assoc]
          simp only [htake]
        · rw [hsplit, List.drop_length_add_append]
          exact hleft
      · cases load.symm.trans hload
  | case5 reader output hfull =>
      have hnone : standardVectorSize - output.length = 0 := by omega
      refine ⟨reader, ?_, ?_⟩
      · rw [hnone, if_pos (Nat.zero_le _), List.take_zero, List.append_nil]
      · rw [hnone, List.drop_zero]
        exact h

/-- What a call puts out for the rows that it got when the stream does not end
with its body: it throws unless the output is full. -/
def fullOnly (rows : List Row) : Except String (Option (List Row)) :=
  if rows.length = standardVectorSize then .ok (some rows) else .error invalidArrowError

/-- When the stream does not end with its body, `Next` hands out full chunks only. -/
theorem Unread.next {reader : ArrowIpcChunkReader Row} {rows : List Row} (h : Unread reader rows) :
    ∃ left, reader.next = (fullOnly (rows.take standardVectorSize), left) ∧
      Unread left (rows.drop standardVectorSize) := by
  have hroom : ([] : List Row).length ≤ standardVectorSize := Nat.zero_le _
  obtain ⟨left, hfill, hleft⟩ := h.fill hroom
  rw [List.length_nil, Nat.sub_zero] at hfill hleft
  refine ⟨left, ?_, hleft⟩
  have hlength : (rows.take standardVectorSize).length = min standardVectorSize rows.length :=
    List.length_take
  rw [ArrowIpcChunkReader.next, h.going, if_neg Bool.false_ne_true, hfill, fullOnly]
  by_cases hfull : standardVectorSize ≤ rows.length
  · rw [if_pos hfull, if_pos (hlength.trans (Nat.min_eq_left hfull)), List.nil_append]
    cases hchunk : rows.take standardVectorSize with
    | nil =>
        rw [hchunk, Nat.min_eq_left hfull] at hlength
        exact absurd hlength (Nat.ne_of_lt standardVectorSize_pos)
    | cons row rest => rfl
  · have hshort : (rows.take standardVectorSize).length ≠ standardVectorSize := by
      omega
    rw [if_neg hfull, if_neg hshort]

/-- The calls cut such a stream into full chunks, and then throw. -/
theorem drains_unread : Drains (@nextMachine Row) (fun _ => True) (fun _ => standardVectorSize)
    fullOnly (fun rows reader => Unread reader rows) where
  output h _ := by
    obtain ⟨left, hnext, -⟩ := h.next
    exact congrArg Prod.fst hnext
  left h _ := by
    obtain ⟨left, hnext, hleft⟩ := h.next
    exact (congrArg Prod.snd hnext).symm ▸ hleft

/-! ## Whole streams -/

/-- nanoarrow read these rows from a batch, and DuckDB converts them. -/
structure ReadAs (columns : Nat) (batch : ArrowArray Row) (rows : List Row) : Prop where
  length : 0 ≤ batch.length
  columns : batch.nChildren = columns
  rows : batch.slice 0 batch.length.toNat = some rows

/-- Batches that convert decode, when the stream ends with its body. -/
theorem decodedArrays_of_readAs {reader : ArrowIpcChunkReader Row}
    (hends : reader.ending = some reader.bodySize) {arrays : List (ArrowArray Row)}
    {batchRows : List (List Row)}
    (h : List.Forall₂ (ReadAs reader.expected.length) arrays batchRows) :
    reader.decodedArrays arrays = some batchRows.flatten := by
  induction h with
  | nil => rw [decodedArrays, if_pos hends, List.flatten_nil]
  | @cons batch rows arrays batchRows hbatch _ ih =>
      have hshaped : reader.wellShaped batch = true := by
        simp only [wellShaped, Bool.and_eq_true, decide_eq_true_eq]
        exact ⟨hbatch.length, hbatch.columns⟩
      rw [decodedArrays, if_pos hshaped, hbatch.rows, ih]
      rfl

/-- A new reader stands before the first batch of its stream. -/
theorem create_eq {library : ArrowLibrary Row} {contentType body : Bytes}
    {expected : List ExpectedArrowField} {maxBodyBytes : UInt64} {reader : ArrowIpcChunkReader Row}
    {stream : ArrowStream Row}
    (h : create library contentType body expected maxBodyBytes = .ok reader)
    (hstream : library body = some stream) :
    ∃ types, reader =
      { expected, types, bodySize := body.length, arrays := stream.arrays,
        ending := stream.ending } := by
  unfold create at h
  rw [hstream] at h
  split at h
  · cases h
  · simp only at h
    split at h
    · split at h
      · cases h
      · rename_i types _
        cases h
        exact ⟨types, rfl⟩
    · cases h

/-- The rows that a call of `Next` hands out. -/
def handedOut (e : Event (ArrowIpcChunkReader Row) Unit (Except String (Option (List Row)))) :
    List Row :=
  match e.output with
  | .ok (some chunk) => chunk
  | _ => []

/-- The calls of `Next` put these rows into chunks. -/
structure Rebatched (rows : List Row) (reader : ArrowIpcChunkReader Row) (calls : List Unit) :
    Prop where
  /-- No call throws, and none puts out an empty chunk or one that is too large. -/
  bounded : ∀ e ∈ nextMachine.trace reader calls, e.output = .ok none ∨
    ∃ chunk, e.output = .ok (some chunk) ∧ chunk ≠ [] ∧ chunk.length ≤ standardVectorSize
  /-- The chunks are the rows in order, all of them when there are enough calls. -/
  inOrder : (nextMachine.trace reader calls).flatMap handedOut
    = rows.take (calls.length * standardVectorSize)
  /-- A chunk that another one follows is full. -/
  full : ∀ past e rest, nextMachine.trace reader calls = past ++ e :: rest →
    (∃ later ∈ rest, later.output ≠ .ok none) → (handedOut e).length = standardVectorSize
  /-- A call returns `false` when all rows are out already. -/
  ended : ∀ past e rest, nextMachine.trace reader calls = past ++ e :: rest →
    (e.output = .ok none ↔ past.flatMap handedOut = rows)
  /-- It does so from then on. -/
  stays : ∀ past e rest, nextMachine.trace reader calls = past ++ e :: rest →
    e.output = .ok none → ∀ later ∈ rest, later.output = .ok none

theorem handedOut_eq {e : Event (ArrowIpcChunkReader Row) Unit (Except String (Option (List Row)))}
    {rows : List Row} (h : e.output = chunkOf rows) : handedOut e = rows := by
  rw [handedOut, h, chunkOf]
  split_ifs with hempty
  · exact hempty.symm
  · rfl

theorem flatMap_handedOut
    {past : List (Event (ArrowIpcChunkReader Row) Unit (Except String (Option (List Row))))}
    {pieces : List (List Row)} (h : past.map (·.output) = pieces.map chunkOf) :
    past.flatMap handedOut = pieces.flatten := by
  induction past generalizing pieces with
  | nil =>
      cases pieces with
      | nil => rfl
      | cons _ _ => cases h
  | cons e past ih =>
      cases pieces with
      | nil => cases h
      | cons rows pieces =>
          obtain ⟨he, hpast⟩ := List.cons.inj h
          rw [List.flatMap_cons, List.flatten_cons, handedOut_eq he, ih hpast]

/-- A call returns `false` when the calls before it took everything. -/
theorem chunkOf_eq_none (rows : List Row) (count : Nat) :
    chunkOf ((rows.drop count).take standardVectorSize) = .ok none ↔ rows.length ≤ count := by
  rw [← List.drop_eq_nil_iff, chunkOf]
  split_ifs with hempty
  · rw [List.take_eq_nil_iff] at hempty
    exact iff_of_true rfl (hempty.resolve_left (Nat.ne_of_gt standardVectorSize_pos))
  · refine iff_of_false (fun h => by cases h) fun hdrop => hempty ?_
    rw [hdrop, List.take_nil]

/-- A stream that decodes is put into chunks. -/
theorem rebatched_of_decoded {reader : ArrowIpcChunkReader Row} {rows : List Row}
    (h : reader.decoded = some rows) (calls : List Unit) : Rebatched rows reader calls := by
  let size := standardVectorSize
  have hout (calls : List Unit) :
      (nextMachine.trace reader calls).flatMap handedOut = rows.take (calls.length * size) := by
    have hsum : (calls.map fun _ => size).sum = calls.length * size := by
      rw [List.map_const', List.sum_replicate_nat]
    have houtputs : (nextMachine.trace reader calls).map (·.output)
        = (batches rows (calls.map fun _ => size)).map chunkOf :=
      drains_next.outputs h fun _ _ => trivial
    rw [flatMap_handedOut houtputs, flatten_batches, hsum]
  -- the place of a call gives the rows before it and the rows that it takes
  have hat {past rest : List (Event (ArrowIpcChunkReader Row) Unit _)} {e : Event _ _ _}
      (htrace : nextMachine.trace reader calls = past ++ e :: rest) :
      e.output = chunkOf ((rows.drop (past.length * size)).take size) :=
    drains_next.event_const h htrace
  have hpast {past rest : List (Event (ArrowIpcChunkReader Row) Unit _)} {e : Event _ _ _}
      (htrace : nextMachine.trace reader calls = past ++ e :: rest) :
      past.flatMap handedOut = rows.take (past.length * size) := by
    obtain ⟨first, input, second, -, rfl, -⟩ := nextMachine.trace_eq_append_cons htrace
    rw [hout first, nextMachine.length_trace]
  have hlater {past rest : List (Event (ArrowIpcChunkReader Row) Unit _)} {e later : Event _ _ _}
      (htrace : nextMachine.trace reader calls = past ++ e :: rest) (hmem : later ∈ rest) :
      ∃ count, (past.length + 1) * size ≤ count ∧
        later.output = chunkOf ((rows.drop count).take size) := by
    obtain ⟨between, after, rfl⟩ := List.append_of_mem hmem
    have hsplit : nextMachine.trace reader calls = (past ++ e :: between) ++ later :: after := by
      rw [htrace, List.append_assoc, List.cons_append]
    refine ⟨(past ++ e :: between).length * size, ?_, hat hsplit⟩
    apply Nat.mul_le_mul_right
    rw [List.length_append, List.length_cons]
    omega
  constructor
  case bounded =>
    intro e hmem
    obtain ⟨past, rest, htrace⟩ := List.append_of_mem hmem
    have houtput := hat htrace
    rw [chunkOf] at houtput
    split_ifs at houtput with hempty
    · exact .inl houtput
    · exact .inr ⟨_, houtput, hempty, List.length_take_le _ _⟩
  case inOrder => exact hout calls
  case full =>
    rintro past e rest htrace ⟨later, hmem, hmore⟩
    obtain ⟨count, hcount, houtput⟩ := hlater htrace hmem
    rw [houtput, Ne, chunkOf_eq_none] at hmore
    rw [handedOut_eq (hat htrace), List.length_take, List.length_drop]
    rw [Nat.add_mul, Nat.one_mul] at hcount
    omega
  case ended =>
    intro past e rest htrace
    rw [hat htrace, chunkOf_eq_none, hpast htrace, List.take_eq_self_iff]
  case stays =>
    intro past e rest htrace hnone later hmem
    obtain ⟨count, hcount, houtput⟩ := hlater htrace hmem
    rw [hat htrace, chunkOf_eq_none] at hnone
    rw [houtput, chunkOf_eq_none]
    rw [Nat.add_mul, Nat.one_mul] at hcount
    omega

/-- The calls of `Next` hand out full chunks of these rows and throw after that. -/
structure CutOff (rows : List Row) (reader : ArrowIpcChunkReader Row) (calls : List Unit) :
    Prop where
  /-- A call for which there are rows enough hands out the next ones. -/
  full : ∀ past e rest, nextMachine.trace reader calls = past ++ e :: rest →
    (past.length + 1) * standardVectorSize ≤ rows.length →
      e.output = .ok (some ((rows.drop (past.length * standardVectorSize)).take standardVectorSize))
  /-- Every other call throws. -/
  throws : ∀ past e rest, nextMachine.trace reader calls = past ++ e :: rest →
    rows.length < (past.length + 1) * standardVectorSize → e.output = .error invalidArrowError

theorem cutOff_of_unread {reader : ArrowIpcChunkReader Row} {rows : List Row}
    (h : Unread reader rows)
    (calls : List Unit) : CutOff rows reader calls := by
  have hlength (count : Nat) : ((rows.drop count).take standardVectorSize).length
      = min standardVectorSize (rows.length - count) := by
    rw [List.length_take, List.length_drop]
  constructor
  case full =>
    intro past e rest htrace hrows
    rw [Nat.add_mul, Nat.one_mul] at hrows
    rw [drains_unread.event_const h htrace, fullOnly, if_pos]
    rw [hlength]
    omega
  case throws =>
    intro past e rest htrace hrows
    rw [Nat.add_mul, Nat.one_mul] at hrows
    rw [drains_unread.event_const h htrace, fullOnly, if_neg]
    rw [hlength]
    have hsize := standardVectorSize_pos
    omega

/-- `Next` puts the rows of every stream that ends with its body into chunks, each of
them full but the last, and throws at the end of any other stream.  None of its slices
reaches over its batch or over the output. -/
theorem next_rebatches {library : ArrowLibrary Row} {contentType body : Bytes}
    {expected : List ExpectedArrowField} {maxBodyBytes : UInt64} {reader : ArrowIpcChunkReader Row}
    {stream : ArrowStream Row} {batchRows : List (List Row)}
    (created : create library contentType body expected maxBodyBytes = .ok reader)
    (streamed : library body = some stream)
    (readAs : List.Forall₂ (ReadAs expected.length) stream.arrays batchRows) (calls : List Unit) :
    (stream.ending = some body.length → Rebatched batchRows.flatten reader calls) ∧
      (stream.ending ≠ some body.length → CutOff batchRows.flatten reader calls) ∧
      ∀ e ∈ nextMachine.trace reader calls,
        (∀ request ∈ e.before.nextRequests, request.InBounds) ∧
          ∀ chunk, e.output = .ok (some chunk) →
            ∃ slices, List.Forall₂ (fun (request : SliceRequest Row) rows =>
                request.batch.slice request.offset request.count = some rows)
                e.before.nextRequests slices ∧ chunk = slices.flatten := by
  obtain ⟨types, rfl⟩ := create_eq created streamed
  refine ⟨fun hends => ?_, fun hends => ?_,
    fun e he => ⟨e.before.nextRequests_inBounds, fun chunk houtput => ?_⟩⟩
  · apply rebatched_of_decoded
    rw [decoded_of_exhausted rfl rfl]
    exact decodedArrays_of_readAs hends readAs
  · apply cutOff_of_unread
    refine ⟨hends, rfl, ?_⟩
    rw [repaired, decoded_of_exhausted rfl rfl]
    exact decodedArrays_of_readAs rfl readAs
  · obtain ⟨past, rest, htrace⟩ := List.append_of_mem he
    obtain ⟨first, input, second, -, -, rfl⟩ := nextMachine.trace_eq_append_cons htrace
    have hnext : (nextMachine.run _ first).next
        = (.ok (some chunk), ((nextMachine.run _ first).next).2) := Prod.ext houtput rfl
    exact next_eq_slices hnext

/-! ## A stream of three batches -/

/-- A column of integers. -/
def sampleFields : List ExpectedArrowField := [⟨ascii "id", .int64, false, 0, 0⟩]

/-- A batch that has these rows. -/
def batchOf (rows : List Nat) : ArrowArray Nat := ⟨rows.length, 1, fun i => rows[i]?⟩

/-- A stream with an empty batch between two others, that ends at this offset. -/
def sampleLibrary (offset : Nat) : ArrowLibrary Nat := fun _ =>
  some
    { schema := ⟨some (ascii "+s"), [some ⟨some (ascii "id"), some (ascii "l"), false⟩]⟩
      types := some [.bigint]
      arrays := [batchOf [7, 8], batchOf [], batchOf [9]]
      ending := some offset }

def sampleReader (offset : Nat) : ArrowIpcChunkReader Nat :=
  { expected := sampleFields, types := [.bigint], bodySize := 2,
    arrays := [batchOf [7, 8], batchOf [], batchOf [9]], ending := some offset }

theorem next_rebatches_sample :
    Rebatched [7, 8, 9] (sampleReader 2) [(), ()] ∧ CutOff [7, 8, 9] (sampleReader 1) [(), ()] := by
  have hcreated (offset : Nat) :
      create (sampleLibrary offset) arrowMediaType [0, 0] sampleFields 10 = .ok
        (sampleReader offset) := by
    rfl
  have hreadAs :
      List.Forall₂ (ReadAs 1) [batchOf [7, 8], batchOf [], batchOf [9]] [[7, 8], [], [9]] :=
    .cons ⟨by decide, rfl, rfl⟩ (.cons ⟨by decide, rfl, rfl⟩ (.cons ⟨by decide, rfl, rfl⟩ .nil))
  exact ⟨(next_rebatches (hcreated 2) rfl hreadAs [(), ()]).1 rfl,
    (next_rebatches (hcreated 1) rfl hreadAs [(), ()]).2.1 (by decide)⟩

end ArrowIpcChunkReader

end Data360
