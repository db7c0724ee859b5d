import Data360.ScanRuntime
import Mathlib.Logic.Function.Iterate

/-!
# Scans that fail

`FillDataChunk` moves on in its buffer before it converts a row, and forgets the
rows that it has written when it throws.  A call that fails therefore drops every
row that it has taken, and the calls behind it go on as if nothing had happened.

* `FailsAt` says where a scan meets its next failure, and how many rows it takes
  on the way.
* `Barren` describes a position behind which nothing ever comes.
* `failure_hides_nothing_iff` says exactly which failures hide data.
-/

namespace Data360

open Lib Lib.ByteString Lib.Prog

variable {σ ε V : Type}

section Failures

variable (source : ChunkSource σ ε) (castAs : LogicalType → Bytes → Option V)
  (types : List LogicalType) (names : List Bytes)

/-- The row is one that `FillDataChunk` converts. -/
def Converts (row : List Cell) : Prop :=
  ∃ values, (convertRow castAs types names row : Except (FillError ε) _) = .ok values

/-- A scan of the source, with rows left in its buffer, meets its next failure
behind `taken` rows.  The row that does not convert counts, and the last two
arguments are the position behind the failure. -/
inductive FailsAt : σ → List (List Cell) → (taken : Nat) → σ → List (List Cell) → Prop
  | throws {s : σ} {e : ε} (answer : (source s).1 = .error e) :
      FailsAt s [] 0 (source s).2.2 (source s).2.1.rows
  | spoiled {s : σ} {row : List Cell} {rest : List (List Cell)}
      (spoils : ¬ Converts (ε := ε) castAs types names row) : FailsAt s (row :: rest) 1 s rest
  | row {s s' : σ} {row : List Cell} {rest rest' : List (List Cell)} {taken : Nat}
      (converts : Converts (ε := ε) castAs types names row) (more : FailsAt s rest taken s' rest') :
      FailsAt s (row :: rest) (taken + 1) s' rest'
  | chunk {s s' : σ} {rest' : List (List Cell)} {taken : Nat} (answer : (source s).1 = .ok true)
      (more : FailsAt (source s).2.2 (source s).2.1.rows taken s' rest') :
      FailsAt s [] taken s' rest'

/-- From this position on, nothing ever comes: no row converts, and the source does
not end. -/
structure Barren (s : σ) (left : List (List Cell)) : Prop where
  left : ∀ row ∈ left, ¬ Converts (ε := ε) castAs types names row
  chunks : ∀ n, ∀ row ∈ (source ((fun s => (source s).2.2)^[n] s)).2.1.rows,
    ¬ Converts (ε := ε) castAs types names row
  unended : ∀ n, (source ((fun s => (source s).2.2)^[n] s)).1 ≠ .ok false

/-- A call has returned with rows, or with the end of the scan. -/
def Discloses
    (e : Event (ScanState σ ε) FillCall (Outcome (FillError ε) (List (List (Option V))))) :
    Prop :=
  ∃ batch, e.output = .ret batch ∧ (batch ≠ [] ∨
    ((fillMachine source castAs types names).step e.input e.before).2.buffer.exhausted = true)

/-- Calls on the scan, all of which return or throw, in the end disclose something. -/
def Reveals (s : ScanState σ ε) : Prop :=
  ∃ calls : List FillCall, (∀ call ∈ calls, 0 < call.capacity) ∧
    (∀ e ∈ (fillMachine source castAs types names).trace s calls, e.output ≠ .cut) ∧
    ∃ e ∈ (fillMachine source castAs types names).trace s calls,
    Discloses source castAs types names e

/-- A call that failed between these two states hides data: it has taken rows, which
no call puts out, and later calls go on behind them. -/
def HidesData (s s' : ScanState σ ε) : Prop :=
  takenRows s'.log ≠ takenRows s.log ∧ Reveals source castAs types names s'

end Failures

variable {source : ChunkSource σ ε} {castAs : LogicalType → Bytes → Option V}
  {types : List LogicalType} {names : List Bytes}

/-! ## Where a call fails -/

theorem buffer_left_of_used {buffer : ScanBuffer}
    (used : buffer.currentChunk.rows.length ≤ buffer.currentRow) : buffer.left = [] :=
  List.drop_eq_nil_of_le used

theorem buffer_left_of_unused {s : ScanState σ ε}
    (unused : s.buffer.currentRow < s.buffer.currentChunk.rows.length) :
    s.buffer.left = s.buffer.currentChunk.rows.getD s.buffer.currentRow
      [] :: s.taken.buffer.left := by
  rw [ScanBuffer.left, List.drop_eq_getElem_cons unused, List.getD_eq_getElem?_getD,
    List.getElem?_eq_getElem unused]
  rfl

theorem takenRows_taken (s : ScanState σ ε) : takenRows s.taken.log
    = takenRows s.log ++ [s.buffer.currentChunk.rows.getD s.buffer.currentRow []] := by
  simp [takenRows, ScanState.taken, ScanEvent.taken]

theorem takenRows_fetched (s : ScanState σ ε) :
    takenRows (s.fetched source).log = takenRows s.log := by
  simp [takenRows, ScanState.fetched, ScanEvent.taken]

/-- The failures of a scan have their place. -/
theorem failsAt_unique {s s₁ s₂ : σ} {left left₁ left₂ : List (List Cell)} {taken₁ taken₂ : Nat}
    (h₁ : FailsAt source castAs types names s left taken₁ s₁ left₁)
    (h₂ : FailsAt source castAs types names s left taken₂ s₂ left₂) :
    taken₁ = taken₂ ∧ s₁ = s₂ ∧ left₁ = left₂ := by
  induction h₁ generalizing taken₂ with
  | throws answer =>
      cases h₂ with
      | throws => exact ⟨rfl, rfl, rfl⟩
      | chunk answer' => cases answer.symm.trans answer'
  | spoiled spoils =>
      cases h₂ with
      | spoiled => exact ⟨rfl, rfl, rfl⟩
      | row converts => exact absurd converts spoils
  | row converts more ih =>
      cases h₂ with
      | spoiled spoils => exact absurd converts spoils
      | row _ more' =>
          obtain ⟨rfl, rfl, rfl⟩ := ih more'
          exact ⟨rfl, rfl, rfl⟩
  | chunk answer more ih =>
      cases h₂ with
      | throws answer' => cases answer.symm.trans answer'
      | chunk _ more' => exact ih more'

/-- A call that throws leaves the scan behind its next failure. -/
theorem wp_fillLoop_fails {capacity fuel : Nat} {output : List (List (Option V))}
    (s : ScanState σ ε) :
    wp (fillLoop source castAs types names capacity fuel output) (fun _ _ => True)
      (fun _ s' => s'.buffer.exhausted = false ∧
        ∃ taken, takenRows s'.log = takenRows s.log ++ taken ∧
          FailsAt source castAs types names s.source s.buffer.left taken.length s'.source
            s'.buffer.left)
      (fun _ => True) s := by
  induction fuel generalizing output s with
  | zero => trivial
  | succ fuel ih =>
      rw [fillLoop, wp_bind, wp_read, wp_ite]
      refine ⟨fun _ => trivial, fun hgo => ?_⟩
      have going : s.buffer.exhausted = false := by simpa using (not_or.mp hgo).2
      rw [wp_ite]
      refine ⟨fun used => ?_, fun unused => ?_⟩
      · have hleft := buffer_left_of_used used
        rw [hleft, wp_bind]
        refine wp_fetchChunk (fun more hanswer => ?_) fun e hanswer => ?_
        · rw [wp_ite]
          refine ⟨fun hmore => ?_, fun _ => trivial⟩
          refine wp_mono (ih (s.fetched source)) (fun _ _ h => h) (fun e s' h => ?_) fun _ h => h
          obtain ⟨hgoing, taken, htaken, hfails⟩ := h
          rw [takenRows_fetched] at htaken
          exact ⟨hgoing, taken, htaken, .chunk (by rw [hanswer, hmore]) hfails⟩
        · exact ⟨going, [], by rw [takenRows_fetched, List.append_nil], .throws hanswer⟩
      · rw [buffer_left_of_unused (Nat.not_le.mp unused), wp_bind, wp_takeRow, wp_bind, wp_orThrow]
        refine ⟨fun values hvalues => ?_, fun e he => ?_⟩
        · refine wp_mono (ih s.taken) (fun _ _ h => h) (fun e s' h => ?_) fun _ h => h
          obtain ⟨hgoing, taken, htaken, hfails⟩ := h
          rw [takenRows_taken, List.append_assoc] at htaken
          exact ⟨hgoing, _ :: taken, htaken, .row ⟨values, hvalues⟩ hfails⟩
        · refine ⟨going, [_], takenRows_taken s, .spoiled ?_⟩
          intro hconverts
          obtain ⟨values, hvalues⟩ := hconverts
          cases he.symm.trans hvalues

/-! ## Behind which nothing comes -/

/-- The scan has not ended, and nothing comes behind where it stands. -/
structure Fruitless (source : ChunkSource σ ε) (castAs : LogicalType → Bytes → Option V)
    (types : List LogicalType) (names : List Bytes) (s : ScanState σ ε) : Prop where
  going : s.buffer.exhausted = false
  barren : Barren source castAs types names s.source s.buffer.left

theorem Fruitless.fetched {s : ScanState σ ε} (h : Fruitless source castAs types names s) :
    Fruitless source castAs types names (s.fetched source) where
  going := h.going
  barren := ⟨h.barren.chunks 0, fun n => h.barren.chunks (n + 1), fun n => h.barren.unended (n + 1)⟩

theorem Fruitless.taken {s : ScanState σ ε} (h : Fruitless source castAs types names s)
    (unused : s.buffer.currentRow < s.buffer.currentChunk.rows.length) :
    Fruitless source castAs types names s.taken where
  going := h.going
  barren := by
    refine ⟨fun row hrow => h.barren.left row ?_, h.barren.chunks, h.barren.unended⟩
    rw [buffer_left_of_unused unused]
    exact List.mem_cons_of_mem _ hrow

/-- A scan behind which nothing comes stays so, and puts out nothing. -/
theorem wp_fillLoop_fruitless {capacity fuel : Nat} {s : ScanState σ ε}
    (h : Fruitless source castAs types names s) :
    wp (fillLoop source castAs types names capacity fuel [])
      (fun filled s' => filled = [] ∧ Fruitless source castAs types names s')
      (fun _ => Fruitless source castAs types names) (Fruitless source castAs types names) s := by
  induction fuel generalizing s with
  | zero => exact h
  | succ fuel ih =>
      rw [fillLoop, wp_bind, wp_read, wp_ite]
      refine ⟨fun _ => ⟨rfl, h⟩, fun _ => ?_⟩
      rw [wp_ite]
      refine ⟨fun _ => ?_, fun unused => ?_⟩
      · rw [wp_bind]
        refine wp_fetchChunk (fun more hanswer => ?_) fun e _ => h.fetched
        rw [wp_ite]
        refine ⟨fun _ => ih h.fetched, fun hfalse => ?_⟩
        rw [Bool.not_eq_true] at hfalse
        have hends : (source s.source).1 = .ok false := by rw [hanswer, hfalse]
        exact absurd hends (h.barren.unended 0)
      · have hunused := Nat.not_le.mp unused
        rw [wp_bind, wp_takeRow, wp_bind, wp_orThrow]
        refine ⟨fun values hvalues => ?_, fun e _ => h.taken hunused⟩
        refine absurd ⟨values, hvalues⟩ (h.barren.left _ ?_)
        rw [buffer_left_of_unused hunused]
        exact List.mem_cons_self

theorem Fruitless.not_reveals {s : ScanState σ ε} (h : Fruitless source castAs types names s) :
    ¬ Reveals source castAs types names s := by
  let machine := fillMachine source castAs types names
  have hcall (s : ScanState σ ε) (call : FillCall) (h : Fruitless source castAs types names s) :
      wp (fillDataChunk source castAs types names call.capacity call.fuel)
        (fun filled s' => filled = [] ∧ Fruitless source castAs types names s')
        (fun _ => Fruitless source castAs types names) (Fruitless source castAs types names) s :=
    wp_fillLoop_fruitless h
  have hrun (calls : List FillCall) :
      Fruitless source castAs types names (machine.run s calls) := by
    refine machine.run_keeps (fun s call h => ?_) h calls
    exact wp_final.mp (wp_mono (hcall s call h) (fun _ _ h => h.2) (fun _ _ h => h) fun _ h => h)
  rintro ⟨calls, -, -, e, he, batch, houtput, hdiscloses⟩
  obtain ⟨past, rest, htrace⟩ := List.append_of_mem he
  obtain ⟨first, call, second, -, -, rfl⟩ := machine.trace_eq_append_cons htrace
  obtain ⟨rfl, hfruitless⟩ :=
    (wp_iff.mp (hcall _ call (hrun first))).1 batch _ (run_eq_of_fst houtput)
  rcases hdiscloses with hrows | hended
  · exact hrows rfl
  · exact absurd (hfruitless.going.symm.trans hended) Bool.false_ne_true

/-! ## Behind which something comes -/

/-- A first call that returns or throws, and what comes behind it. -/
theorem Reveals.cons {s : ScanState σ ε} (call : FillCall) (positive : 0 < call.capacity)
    (ends : ((fillMachine source castAs types names).step call s).1 ≠ .cut)
    (h : Reveals source castAs types names
      ((fillMachine source castAs types names).step call s).2) :
    Reveals source castAs types names s := by
  obtain ⟨calls, hpositive, hends, e, he, hdiscloses⟩ := h
  exact ⟨call :: calls, List.forall_mem_cons.mpr ⟨positive, hpositive⟩,
    List.forall_mem_cons.mpr ⟨ends, hends⟩, e, List.mem_cons_of_mem _ he, hdiscloses⟩

/-- A call that discloses something. -/
theorem reveals_of_step {s : ScanState σ ε} (call : FillCall) {batch : List (List (Option V))}
    (positive : 0 < call.capacity)
    (returns : ((fillMachine source castAs types names).step call s).1 = .ret batch)
    (discloses : batch ≠ [] ∨
      ((fillMachine source castAs types names).step call s).2.buffer.exhausted = true) :
    Reveals source castAs types names s := by
  refine ⟨[call], by simpa using positive, fun e he => ?_,
    (fillMachine source castAs types names).event s call,
    List.mem_singleton.mpr rfl, batch, returns, discloses⟩
  rw [List.mem_singleton.mp he, Machine.event, returns]
  exact nofun

/-- The loop, with a row at hand. -/
theorem fillLoop_row {capacity fuel : Nat} (output : List (List (Option V))) {s : ScanState σ ε}
    (room : output.length < capacity) (going : s.buffer.exhausted = false)
    (unused : s.buffer.currentRow < s.buffer.currentChunk.rows.length) :
    fillLoop source castAs types names capacity (fuel + 1) output s
      = match (convertRow castAs types names
          (s.buffer.currentChunk.rows.getD s.buffer.currentRow []) : Except (FillError ε) _) with
        | .ok values =>
            fillLoop source castAs types names capacity fuel (output ++ [values]) s.taken
        | .error e => (.raise e, s.taken) := by
  have hloop : ¬ (capacity ≤ output.length ∨ s.buffer.exhausted = true) := by
    simp [going, room]
  rw [fillLoop, bind_of_ret (show Prog.read _ s = (.ret s.buffer, s) from rfl), if_neg hloop,
    if_neg (Nat.not_le.mpr unused), bind_of_ret (show takeRow s = (.ret _, s.taken) from rfl)]
  cases (convertRow castAs types names
      (s.buffer.currentChunk.rows.getD s.buffer.currentRow []) : Except (FillError ε) _) with
  | ok values => exact bind_of_ret rfl
  | error e => exact bind_of_raise rfl

/-- The loop, with the current chunk used up. -/
theorem fillLoop_fetch {capacity fuel : Nat} (output : List (List (Option V))) {s : ScanState σ ε}
    (room : output.length < capacity) (going : s.buffer.exhausted = false)
    (used : s.buffer.currentChunk.rows.length ≤ s.buffer.currentRow) :
    fillLoop source castAs types names capacity (fuel + 1) output s
      = match (source s.source).1 with
        | .ok true => fillLoop source castAs types names capacity fuel output (s.fetched source)
        | .ok false => (.ret output, (s.fetched source).exhausted)
        | .error e => (.raise (.source e), s.fetched source) := by
  have hloop : ¬ (capacity ≤ output.length ∨ s.buffer.exhausted = true) := by
    simp [going, room]
  rw [fillLoop, bind_of_ret (show Prog.read _ s = (.ret s.buffer, s) from rfl), if_neg hloop,
    if_pos used]
  cases answer : (source s.source).1 with
  | error e => exact bind_of_raise (by rw [fetchChunk, answer])
  | ok more =>
      rw [bind_of_ret
        (show fetchChunk source s = (.ret more, s.fetched source) by rw [fetchChunk, answer])]
      cases more with
      | true => rfl
      | false => exact bind_of_ret rfl

/-- Where something comes behind the current chunk, it comes behind the asking. -/
theorem Reveals.refill {s : ScanState σ ε} (going : s.buffer.exhausted = false)
    (used : s.buffer.currentChunk.rows.length ≤ s.buffer.currentRow)
    (answer : (source s.source).1 = .ok true)
    (h : Reveals source castAs types names (s.fetched source)) :
    Reveals source castAs types names s := by
  obtain ⟨calls, hpositive, hends, e, he, hdiscloses⟩ := h
  cases calls with
  | nil => cases he
  | cons call rest =>
      have hstep : (fillMachine source castAs types names).step ⟨call.fuel + 1, call.capacity⟩ s
          = (fillMachine source castAs types names).step call (s.fetched source) := by
        show fillLoop source castAs types names call.capacity (call.fuel + 1) [] s = _
        rw [fillLoop_fetch [] (hpositive call List.mem_cons_self) going used, answer]
        rfl
      obtain ⟨hcall, hrest⟩ := List.forall_mem_cons.mp hpositive
      rcases List.mem_cons.mp he with rfl | he
      · obtain ⟨batch, hbatch, hshows⟩ := hdiscloses
        have hreturns :
            ((fillMachine source castAs types names).step ⟨call.fuel + 1, call.capacity⟩ s).1
            = .ret batch := by
          rw [hstep]
          exact hbatch
        refine reveals_of_step ⟨call.fuel + 1, call.capacity⟩ hcall hreturns ?_
        rw [hstep]
        exact hshows
      · refine Reveals.cons ⟨call.fuel + 1, call.capacity⟩ hcall ?_ ?_
        · rw [hstep]
          exact hends _ List.mem_cons_self
        · rw [hstep]
          exact ⟨rest, hrest, fun e he => hends e (List.mem_cons_of_mem _ he), e, he, hdiscloses⟩

/-- A row that converts comes out. -/
theorem reveals_of_converts {s : ScanState σ ε} (going : s.buffer.exhausted = false)
    {rows : List (List Cell)} (left : s.buffer.left = rows)
    (h : ∃ row ∈ rows, Converts (ε := ε) castAs types names row) :
    Reveals source castAs types names s := by
  induction rows generalizing s with
  | nil => simp at h
  | cons row rest ih =>
      have unused : s.buffer.currentRow < s.buffer.currentChunk.rows.length := by
        by_contra hused
        rw [buffer_left_of_used (Nat.not_lt.mp hused)] at left
        cases left
      rw [buffer_left_of_unused unused] at left
      obtain ⟨hrow, hrest⟩ := List.cons.inj left
      have hstep : (fillMachine source castAs types names).step ⟨2, 1⟩ s = _ :=
        fillLoop_row [] Nat.one_pos going unused
      rw [hrow] at hstep
      cases hconvert : (convertRow castAs types names row : Except (FillError ε) _) with
      | ok values =>
          rw [hconvert] at hstep
          have hreturns :
              ((fillMachine source castAs types names).step ⟨2, 1⟩ s).1 = .ret [values] := by
            rw [hstep]
            rfl
          exact reveals_of_step _ Nat.one_pos hreturns (.inl nofun)
      | error e =>
          rw [hconvert] at hstep
          refine Reveals.cons ⟨2, 1⟩ Nat.one_pos (by rw [hstep]; exact nofun) ?_
          rw [hstep]
          refine ih going hrest ?_
          obtain ⟨other, hother, hconverts⟩ := h
          rcases List.mem_cons.mp hother with rfl | hother
          · obtain ⟨values, hvalues⟩ := hconverts
            cases hconvert.symm.trans hvalues
          · exact ⟨other, hother, hconverts⟩

/-- Behind the rows that are left, something comes. -/
theorem reveals_behind {s : ScanState σ ε} (going : s.buffer.exhausted = false)
    {rows : List (List Cell)} (left : s.buffer.left = rows)
    (behind : ∀ t : ScanState σ ε, t.source = s.source → t.buffer.exhausted = false →
      t.buffer.left = [] → Reveals source castAs types names t) :
    Reveals source castAs types names s := by
  induction rows generalizing s with
  | nil => exact behind s rfl going left
  | cons row rest ih =>
      by_cases hrow : Converts (ε := ε) castAs types names row
      · exact reveals_of_converts going left ⟨row, List.mem_cons_self, hrow⟩
      · have unused : s.buffer.currentRow < s.buffer.currentChunk.rows.length := by
          by_contra hused
          rw [buffer_left_of_used (Nat.not_lt.mp hused)] at left
          cases left
        rw [buffer_left_of_unused unused] at left
        obtain ⟨hat, hrest⟩ := List.cons.inj left
        have hstep : (fillMachine source castAs types names).step ⟨1, 1⟩ s = _ :=
          fillLoop_row [] Nat.one_pos going unused
        rw [hat] at hstep
        cases hconvert : (convertRow castAs types names row : Except (FillError ε) _) with
        | ok values => exact absurd ⟨values, hconvert⟩ hrow
        | error e =>
            rw [hconvert] at hstep
            refine Reveals.cons ⟨1, 1⟩ Nat.one_pos (by rw [hstep]; exact nofun) ?_
            rw [hstep]
            exact ih going hrest behind

/-- Asking the source brings its end, or goes on. -/
theorem reveals_of_fetch {s : ScanState σ ε} (going : s.buffer.exhausted = false)
    (left : s.buffer.left = [])
    (more : (source s.source).1 ≠ .ok false →
      Reveals source castAs types names (s.fetched source)) :
    Reveals source castAs types names s := by
  have used : s.buffer.currentChunk.rows.length ≤ s.buffer.currentRow :=
    List.drop_eq_nil_iff.mp left
  have hstep : (fillMachine source castAs types names).step ⟨1, 1⟩ s = _ :=
    fillLoop_fetch [] Nat.one_pos going used
  cases answer : (source s.source).1 with
  | error e =>
      rw [answer] at hstep
      refine Reveals.cons ⟨1, 1⟩ Nat.one_pos (by rw [hstep]; exact nofun) ?_
      rw [hstep]
      exact more (by simp [answer])
  | ok flag =>
      cases flag with
      | true => exact Reveals.refill going used answer (more (by simp [answer]))
      | false =>
          rw [answer] at hstep
          have hreturns : ((fillMachine source castAs types names).step ⟨1, 1⟩ s).1 = .ret [] := by
            rw [hstep]
          refine reveals_of_step _ Nat.one_pos hreturns (.inr ?_)
          rw [hstep]
          rfl

/-- Behind which the source ends or hands out a row that converts, something comes. -/
theorem reveals_of_source (n : Nat) {s : ScanState σ ε} (going : s.buffer.exhausted = false)
    (h : (source ((fun s => (source s).2.2)^[n] s.source)).1 = .ok false ∨
      ∃ row ∈ (source ((fun s => (source s).2.2)^[n] s.source)).2.1.rows,
        Converts (ε := ε) castAs types names row) : Reveals source castAs types names s := by
  induction n generalizing s with
  | zero =>
      refine reveals_behind going rfl fun t hsource hgoing hleft => ?_
      refine reveals_of_fetch hgoing hleft fun hmore => ?_
      rw [Function.iterate_zero_apply, ← hsource] at h
      exact reveals_of_converts hgoing rfl (h.resolve_left hmore)
  | succ n ih =>
      refine reveals_behind going rfl fun t hsource hgoing hleft => ?_
      refine reveals_of_fetch hgoing hleft fun _ => ih hgoing ?_
      rw [Function.iterate_succ_apply, ← hsource] at h
      exact h

/-- Nothing comes behind a position exactly when it is barren. -/
theorem reveals_iff {s : ScanState σ ε} (going : s.buffer.exhausted = false) :
    Reveals source castAs types names s ↔
      ¬ Barren source castAs types names s.source s.buffer.left := by
  refine ⟨fun h hbarren => Fruitless.not_reveals ⟨going, hbarren⟩ h, fun h => ?_⟩
  by_contra hnone
  refine h ⟨fun row hrow hconverts => ?_, fun n row hrow hconverts => ?_, fun n hends => ?_⟩
  · exact hnone (reveals_of_converts going rfl ⟨row, hrow, hconverts⟩)
  · exact hnone (reveals_of_source n going (.inr ⟨row, hrow, hconverts⟩))
  · exact hnone (reveals_of_source n going (.inl hends))

/-! ## Which failures hide data -/

/-- A call of `FillDataChunk` that throws hides no data exactly when it fails before it
takes a row, or when nothing ever comes behind its failure. -/
theorem failure_hides_nothing_iff {s s' : ScanState σ ε} {call : FillCall} {e : FillError ε}
    (failed : (fillMachine source castAs types names).step call s = (.raise e, s')) :
    ¬ HidesData source castAs types names s s' ↔
      ∀ taken rest left, FailsAt source castAs types names s.source s.buffer.left taken rest left →
        taken = 0 ∨ Barren source castAs types names rest left := by
  have hwp : wp (fillDataChunk source castAs types names call.capacity call.fuel) _ _ _ s :=
    wp_fillLoop_fails s
  obtain ⟨hgoing, taken, htaken, hfails⟩ := (wp_iff.mp hwp).2.1 e s' failed
  have hsame : takenRows s'.log = takenRows s.log ↔ taken.length = 0 := by
    rw [htaken, List.append_right_eq_self, List.length_eq_zero_iff]
  constructor
  · intro h taken' rest left hfails'
    obtain ⟨rfl, rfl, rfl⟩ := failsAt_unique hfails hfails'
    by_cases hnone : taken.length = 0
    · exact .inl hnone
    · right
      by_contra hbarren
      exact h ⟨fun hlog => hnone (hsame.mp hlog), (reveals_iff hgoing).mpr hbarren⟩
  · intro h hhides
    obtain ⟨hlost, hreveals⟩ := hhides
    rcases h taken.length _ _ hfails with hnone | hbarren
    · exact hlost (hsame.mpr hnone)
    · exact (reveals_iff hgoing).mp hreveals hbarren

/-- A source that throws once, between two chunks. -/
def flakySource : ChunkSource Nat Unit
  | 0 => (.ok true, { rows := [[some (ascii "1")]] }, 1)
  | 1 => (.error (), {}, 2)
  | 2 => (.ok true, { rows := [[some (ascii "2")]] }, 3)
  | made => (.ok false, {}, made)

/-- The scan after some calls for one row each. -/
def flakyScan (calls : Nat) : ScanState Nat Unit :=
  (fillMachine flakySource castDigits [.bigint] [ascii "id"]).run { source := 0 }
    (List.replicate calls ⟨3, 1⟩)

/-- Of three calls for one row each, the second one fails; it hides nothing, and the third
one puts out the row behind it. -/
theorem failure_hides_nothing_iff_flaky :
    ((fillMachine flakySource castDigits [.bigint] [ascii "id"]).trace { source := 0 }
        (List.replicate 3 ⟨3, 1⟩)).map (·.output)
      = [.ret [[some 1]], .raise (.source ()), .ret [[some 2]]] ∧
      ¬ HidesData flakySource castDigits [.bigint] [ascii "id"] (flakyScan 1) (flakyScan 2) := by
  refine ⟨by decide +kernel, ?_⟩
  have failed : (fillMachine flakySource castDigits [.bigint] [ascii "id"]).step ⟨3, 1⟩
      (flakyScan 1) = (.raise (.source ()), flakyScan 2) := run_eq_of_fst (by decide +kernel)
  have hsource : (flakyScan 1).source = 1 := by decide +kernel
  have hleft : (flakyScan 1).buffer.left = [] := by decide +kernel
  refine (failure_hides_nothing_iff failed).mpr fun taken rest left hfails => ?_
  rw [hsource, hleft] at hfails
  cases hfails with
  | throws => exact .inl rfl
  | chunk answer => cases answer

/-- A chunk whose second row is no number. -/
def spoiledChunks : List ResultChunk :=
  [{ rows := [[some (ascii "1")], [some (ascii "x")], [some (ascii "3")]] }]

/-- The call that fails at the second row takes the first one with it, and the next
call puts out the third. -/
theorem failed_fill_hides_rows :
    ∃ s', (fillMachine listSource castDigits [.bigint] [ascii "id"]).step ⟨8, 3⟩
      { source := spoiledChunks }
        = (.raise (conversionFailed (ascii "id")), s') ∧
      HidesData listSource castDigits [.bigint] [ascii "id"] { source := spoiledChunks } s' := by
  let machine := fillMachine listSource castDigits [.bigint] [ascii "id"]
  let failed := machine.step ⟨8, 3⟩ { source := spoiledChunks }
  let next := machine.step ⟨8, 3⟩ failed.2
  have hfailed : failed.1 = .raise (conversionFailed (ascii "id")) := by decide +kernel
  have hnext : next.1 = .ret [[some 3]] := by decide +kernel
  have htaken : takenRows failed.2.log = [[some (ascii "1")], [some (ascii "x")]] :=
    by decide +kernel
  refine ⟨failed.2, run_eq_of_fst hfailed, by rw [htaken]; exact nofun, ?_⟩
  exact reveals_of_step ⟨8, 3⟩ (by decide) hnext (.inl nofun)

end Data360
