import Mathlib.Logic.Basic
import Mathlib.Data.List.Induction

/-!
# Runs of a machine

A `Machine` answers every input with an output and moves to its next state.
`run` is the state after a list of inputs and `trace` the list of events:
each input with its output and the state that it found.

* `concat_eq_append_cons` says where an element of a history stands that has
  grown by one event, and `pairwise_concat` how an ordered history grows.
* `run_append` and `trace_append` cut a run in two.
* `trace_eq_append_cons` says where an event of a run comes from.
* `history_induction` is the induction that proves a relation between the
  trace so far and the state it led to.
* `run_keeps` is the same for an invariant of the state alone, and
  `run_keeps_unless` for one that certain events may break.
* `trace_unique` says that an event happens at most once, when it leads to a
  state in which it cannot happen again.
* `exists_run_of_lt` says that a machine gets somewhere, when it can always
  take a step down.
-/

namespace Lib

/-! ## Histories that grow -/

/-- Where an element of a list that ends with `e` can stand. -/
theorem concat_eq_append_cons {α : Type} {front past rest : List α} {e x : α}
    (h : front ++ [e] = past ++ x :: rest) :
    (rest = [] ∧ front = past ∧ e = x) ∨
      ∃ rest', rest = rest' ++ [e] ∧ front = past ++ x :: rest' := by
  rcases List.eq_nil_or_concat rest with rfl | ⟨rest', last, rfl⟩
  · obtain ⟨hfront, hx⟩ := List.append_inj' h rfl
    exact .inl ⟨rfl, hfront, (List.cons.inj hx).1⟩
  · rw [List.concat_eq_append, ← List.cons_append, ← List.append_assoc] at h
    obtain ⟨hfront, hlast⟩ := List.append_inj' h rfl
    rw [List.concat_eq_append, (List.cons.inj hlast).1]
    exact .inr ⟨rest', rfl, hfront⟩

/-- The same for two elements in a row. -/
theorem concat_eq_append_cons_cons {α : Type} {front past rest : List α} {e x y : α}
    (h : front ++ [e] = past ++ x :: y :: rest) :
    (rest = [] ∧ front = past ++ [x] ∧ e = y) ∨
      ∃ rest', rest = rest' ++ [e] ∧ front = past ++ x :: y :: rest' := by
  rw [List.append_cons past x] at h
  rcases concat_eq_append_cons h with hlast | ⟨rest', hrest, hfront⟩
  · exact .inl hlast
  · exact .inr ⟨rest', hrest, by rw [hfront, ← List.append_cons]⟩

/-- In an ordered history, an element comes after what is before it and before what is after
it. -/
theorem pairwise_around {α : Type} {R : α → α → Prop} {past rest : List α} {x : α}
    (h : (past ++ x :: rest).Pairwise R) : (∀ a ∈ past, R a x) ∧ ∀ b ∈ rest, R x b := by
  obtain ⟨-, hrest, hpast⟩ := List.pairwise_append.mp h
  exact ⟨fun a ha => hpast a ha x List.mem_cons_self, (List.pairwise_cons.mp hrest).1⟩

/-- An ordered history grows by an event that comes after all of it. -/
theorem pairwise_concat {α : Type} {R : α → α → Prop} {past : List α} {e : α}
    (h : past.Pairwise R) (he : ∀ a ∈ past, R a e) : (past ++ [e]).Pairwise R :=
  List.pairwise_append.mpr ⟨h, List.pairwise_singleton R e, fun a ha _ hb =>
    List.mem_singleton.mp hb ▸ he a ha⟩

/-! ## Machines -/

/-- A machine with states `σ`, inputs `ι` and outputs `ο`. -/
structure Machine (σ ι ο : Type) where
  step : ι → σ → ο × σ

/-- One step of a run: the state it found, its input and its output. -/
structure Event (σ ι ο : Type) where
  before : σ
  input : ι
  output : ο

namespace Machine

variable {σ ι ο : Type} (machine : Machine σ ι ο)

/-- The event of one input. -/
def event (s : σ) (input : ι) : Event σ ι ο := ⟨s, input, (machine.step input s).1⟩

/-- The state after the inputs. -/
def run (s : σ) : List ι → σ
  | [] => s
  | input :: rest => run (machine.step input s).2 rest

/-- What happened on the way. -/
def trace (s : σ) : List ι → List (Event σ ι ο)
  | [] => []
  | input :: rest => machine.event s input :: trace (machine.step input s).2 rest

@[simp] theorem run_nil (s : σ) : machine.run s [] = s := rfl

@[simp] theorem trace_nil (s : σ) : machine.trace s [] = [] := rfl

theorem length_trace (s : σ) (inputs : List ι) :
    (machine.trace s inputs).length = inputs.length := by
  induction inputs generalizing s with
  | nil => rfl
  | cons input rest ih => exact congrArg Nat.succ (ih _)

theorem run_append (s : σ) (first second : List ι) :
    machine.run s (first ++ second) = machine.run (machine.run s first) second := by
  induction first generalizing s with
  | nil => rfl
  | cons input rest ih => exact ih _

theorem trace_append (s : σ) (first second : List ι) :
    machine.trace s (first ++ second)
      = machine.trace s first ++ machine.trace (machine.run s first) second := by
  induction first generalizing s with
  | nil => rfl
  | cons input rest ih => exact congrArg (machine.event s input :: ·) (ih _)

theorem run_concat (s : σ) (inputs : List ι) (input : ι) :
    machine.run s (inputs ++ [input]) = (machine.step input (machine.run s inputs)).2 :=
  machine.run_append s inputs [input]

theorem trace_concat (s : σ) (inputs : List ι) (input : ι) :
    machine.trace s (inputs ++ [input])
      = machine.trace s inputs ++ [machine.event (machine.run s inputs) input] :=
  machine.trace_append s inputs [input]

/-- An event of a run is the event of an input, in the state after the inputs
before it. -/
theorem trace_eq_append_cons {s : σ} {inputs : List ι} {past rest : List (Event σ ι ο)}
    {e : Event σ ι ο} (h : machine.trace s inputs = past ++ e :: rest) :
    ∃ first input second, inputs = first ++ input :: second ∧ past = machine.trace s first ∧
      e = machine.event (machine.run s first) input := by
  induction inputs generalizing s past with
  | nil => simp at h
  | cons input inputs ih =>
      cases past with
      | nil => exact ⟨[], input, inputs, rfl, rfl, (List.cons.inj h).1.symm⟩
      | cons e' past =>
          obtain ⟨hhead, htail⟩ := List.cons.inj h
          obtain ⟨first, input', second, rfl, rfl, rfl⟩ := ih htail
          exact ⟨input :: first, input', second, rfl, by rw [← hhead]; rfl, rfl⟩

/-- A relation between the trace and the state holds of every run when it
holds at the start and one more step keeps it. -/
theorem history_induction {s : σ} {P : List (Event σ ι ο) → σ → Prop} (start : P [] s)
    (step : ∀ past t input, P past t →
      P (past ++ [machine.event t input]) (machine.step input t).2)
    (inputs : List ι) : P (machine.trace s inputs) (machine.run s inputs) := by
  induction inputs using List.reverseRec with
  | nil => exact start
  | append_singleton inputs input ih =>
      rw [trace_concat, run_concat]
      exact step _ _ input ih

/-- An invariant of the step is an invariant of the run. -/
theorem run_keeps {I : σ → Prop} (step : ∀ t input, I t → I (machine.step input t).2)
    {s : σ} (start : I s) (inputs : List ι) : I (machine.run s inputs) :=
  machine.history_induction (P := fun _ => I) start (fun _ t input => step t input) inputs

/-- The inputs of the events are the inputs of the run. -/
theorem input_mem_of_mem_trace {s : σ} {inputs : List ι} {e : Event σ ι ο}
    (h : e ∈ machine.trace s inputs) : e.input ∈ inputs := by
  induction inputs generalizing s with
  | nil => simp at h
  | cons input rest ih =>
      rcases List.mem_cons.mp h with rfl | h
      · exact List.mem_cons_self
      · exact List.mem_cons_of_mem _ (ih h)

/-- An invariant that every step keeps unless its event is in `B` holds all
through a run without such events. -/
theorem run_keeps_unless {I : σ → Prop} {B : Event σ ι ο → Prop}
    (step : ∀ t input, I t → ¬ B (machine.event t input) → I (machine.step input t).2)
    {s : σ} (start : I s) {inputs : List ι} (calm : ∀ e ∈ machine.trace s inputs, ¬ B e) :
    I (machine.run s inputs) ∧
      ∀ e ∈ machine.trace s inputs, I e.before ∧ e = machine.event e.before e.input := by
  induction inputs generalizing s with
  | nil => exact ⟨start, by simp⟩
  | cons input rest ih =>
      have hfirst := calm _ List.mem_cons_self
      obtain ⟨hrun, hrest⟩ := ih (step s input start hfirst) fun e he =>
        calm e (List.mem_cons_of_mem _ he)
      refine ⟨hrun, fun e he => ?_⟩
      rcases List.mem_cons.mp he with rfl | he
      · exact ⟨start, rfl⟩
      · exact hrest e he

/-- Events that lead into `I` and cannot happen in `I` happen at most once in
a run whose later events keep `I`. -/
theorem trace_unique {I : σ → Prop} {A B : Event σ ι ο → Prop}
    (enters : ∀ t input, A (machine.event t input) → I (machine.step input t).2)
    (excludes : ∀ t input, I t → ¬ A (machine.event t input))
    (step : ∀ t input, I t → ¬ B (machine.event t input) → I (machine.step input t).2)
    {s : σ} {inputs : List ι} {before after : List (Event σ ι ο)} {e : Event σ ι ο}
    (h : machine.trace s inputs = before ++ e :: after) (he : A e)
    (calm : ∀ other ∈ after, ¬ B other) : ∀ other ∈ after, ¬ A other := by
  induction inputs generalizing s before with
  | nil => simp at h
  | cons input rest ih =>
      cases before with
      | nil =>
          obtain ⟨rfl, rfl⟩ := List.cons.inj h
          intro other hother
          obtain ⟨hI, heq⟩ :=
            (machine.run_keeps_unless step (enters s input he) calm).2 other hother
          rw [heq]
          exact excludes _ _ hI
      | cons first before => exact ih (List.cons.inj h).2

/-- A machine that can always take a step down gets there: as long as `D` does not hold, an
input in `Q` keeps `I` and makes `m` smaller. -/
theorem exists_run_of_lt {I D : σ → Prop} {Q : ι → Prop} {m : σ → Nat}
    (goesOn : ∀ t, I t → ¬ D t →
      ∃ input, Q input ∧ I (machine.step input t).2 ∧ m (machine.step input t).2 < m t)
    {s : σ} (start : I s) : ∃ inputs : List ι, (∀ input ∈ inputs, Q input) ∧
      I (machine.run s inputs) ∧ D (machine.run s inputs) := by
  induction hleft : m s using Nat.strongRecOn generalizing s with
  | ind n ih =>
      subst hleft
      by_cases hdone : D s
      · exact ⟨[], by simp, start, hdone⟩
      · obtain ⟨input, hkind, hkeeps, hless⟩ := goesOn s start hdone
        obtain ⟨rest, hrest, hthere⟩ := ih _ hless hkeeps rfl
        exact ⟨input :: rest, List.forall_mem_cons.mpr ⟨hkind, hrest⟩, hthere⟩

end Machine

end Lib
