import Data360.Lib.Runs
import Mathlib.Algebra.GroupWithZero.Nat

/-!
# Cutting a sequence into batches

`batches items sizes` cuts a list into consecutive pieces of the given sizes, as
far as it goes.

* `flatten_batches` says that the pieces make up the front of the list.
* `Drains` describes a machine whose steps take their output off the front of
  what is left.  `Drains.outputs` and `Drains.event` say what such a machine puts
  out in a whole run and in one step of it.
-/

namespace Lib

variable {α σ ι ο : Type}

/-- Cut a list into pieces of the given sizes. -/
def batches (items : List α) : List Nat → List (List α)
  | [] => []
  | size :: sizes => items.take size :: batches (items.drop size) sizes

/-- The pieces are the front of the list. -/
theorem flatten_batches (items : List α) (sizes : List Nat) :
    (batches items sizes).flatten = items.take sizes.sum := by
  induction sizes generalizing items with
  | nil => simp [batches]
  | cons size sizes ih =>
      rw [batches, List.flatten_cons, ih, List.sum_cons, List.take_add]

/-- Every step of the machine that gets an input in `Good` takes as many items as
the input asks for off the front of those that are left. -/
structure Drains (machine : Machine σ ι ο) (Good : ι → Prop) (size : ι → Nat)
    (emit : List α → ο) (Left : List α → σ → Prop) : Prop where
  output : ∀ {items s input}, Left items s → Good input →
    (machine.step input s).1 = emit (items.take (size input))
  left : ∀ {items s input}, Left items s → Good input →
    Left (items.drop (size input)) (machine.step input s).2

namespace Drains

variable {machine : Machine σ ι ο} {Good : ι → Prop} {size : ι → Nat} {emit : List α → ο}
  {Left : List α → σ → Prop}

/-- What is left after a run. -/
theorem run (h : Drains machine Good size emit Left) {items : List α} {s : σ} (start : Left items s)
    {inputs : List ι} (good : ∀ input ∈ inputs, Good input) :
    Left (items.drop (inputs.map size).sum) (machine.run s inputs) := by
  induction inputs generalizing items s with
  | nil => exact start
  | cons input rest ih =>
      have hrest := ih (h.left start (good input List.mem_cons_self)) fun other hother =>
        good other (List.mem_cons_of_mem _ hother)
      rw [List.drop_drop] at hrest
      exact hrest

/-- What a run puts out. -/
theorem outputs (h : Drains machine Good size emit Left) {items : List α} {s : σ}
    (start : Left items s) {inputs : List ι} (good : ∀ input ∈ inputs, Good input) :
    (machine.trace s inputs).map (·.output) = (batches items (inputs.map size)).map emit := by
  induction inputs generalizing items s with
  | nil => rfl
  | cons input rest ih =>
      have hgood := good input List.mem_cons_self
      have hrest := ih (h.left start hgood) fun other hother =>
        good other (List.mem_cons_of_mem _ hother)
      simp only [Machine.trace, List.map_cons, batches, hrest]
      rw [← h.output start hgood]
      rfl

/-- What one step of a run finds and puts out. -/
theorem event (h : Drains machine Good size emit Left) {items : List α} {s : σ}
    (start : Left items s) {inputs : List ι} (good : ∀ input ∈ inputs, Good input)
    {past rest : List (Event σ ι ο)} {e : Event σ ι ο}
    (htrace : machine.trace s inputs = past ++ e :: rest) :
    ∃ taken, past.map (·.output) = (batches items taken).map emit ∧
      Left (items.drop taken.sum) e.before ∧ Good e.input ∧
      e = machine.event e.before e.input ∧
      e.output = emit ((items.drop taken.sum).take (size e.input)) := by
  obtain ⟨first, input, second, rfl, rfl, rfl⟩ := machine.trace_eq_append_cons htrace
  have hfirst : ∀ other ∈ first, Good other := fun other hother =>
    good other (List.mem_append_left _ hother)
  have hgood := good input (List.mem_append_right _ List.mem_cons_self)
  have hleft := h.run start hfirst
  exact ⟨first.map size, h.outputs start hfirst, hleft, hgood, rfl, h.output hleft hgood⟩

/-- What a step puts out when every step takes as much. -/
theorem event_const {size : Nat} (h : Drains machine (fun _ => True) (fun _ => size) emit Left)
    {items : List α} {s : σ} (start : Left items s) {inputs : List ι}
    {past rest : List (Event σ ι ο)} {e : Event σ ι ο}
    (htrace : machine.trace s inputs = past ++ e :: rest) :
    e.output = emit ((items.drop (past.length * size)).take size) := by
  obtain ⟨first, input, second, rfl, rfl, rfl⟩ := machine.trace_eq_append_cons htrace
  have hsum : (first.map fun _ => size).sum = first.length * size := by
    rw [List.map_const', List.sum_replicate_nat]
  have hleft : Left (items.drop (first.map fun _ => size).sum) (machine.run s first) :=
    h.run start fun _ _ => trivial
  rw [hsum] at hleft
  rw [machine.length_trace]
  exact h.output hleft trivial

end Drains

end Lib
