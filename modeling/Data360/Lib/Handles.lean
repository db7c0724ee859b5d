import Data360.Lib.Runs
import Mathlib.Data.Finset.Insert
import Mathlib.Data.Finset.Erase
import Mathlib.Data.List.Count

/-!
# Handles

A component opens handles, uses them and closes them: sockets, threads, allocations.  The
system gives a number out again as soon as it is closed, so a handle that is closed twice, or
used after that, may be the handle of somebody else.

* `heldAfter` are the handles that are open after a log of such events.
* `WellHandled` says that a log opens only new handles and uses and closes only open ones.
* `WellHandled.balance` is the account of one handle.
* `Machine.wellHandled_run` is the rule for runs: every step takes what its state holds to
  what the next state holds.
-/

namespace Lib

/-- What happens to a handle. -/
inductive HandleEvent (H : Type) where
  | opens (handle : H)
  | uses (handle : H)
  | closes (handle : H)
  deriving DecidableEq, Repr

variable {H : Type} [DecidableEq H]

/-- The handles that are open after an event. -/
def HandleEvent.apply (held : Finset H) : HandleEvent H → Finset H
  | .opens handle => insert handle held
  | .uses _ => held
  | .closes handle => held.erase handle

/-- The event opens a new handle, or is about an open one. -/
def HandleEvent.Fits (held : Finset H) : HandleEvent H → Prop
  | .opens handle => handle ∉ held
  | .uses handle => handle ∈ held
  | .closes handle => handle ∈ held

/-- The handles that are open after a log. -/
def heldAfter (held : Finset H) : List (HandleEvent H) → Finset H
  | [] => held
  | e :: rest => heldAfter (e.apply held) rest

/-- The log opens only new handles, and uses and closes only open ones. -/
def WellHandled (held : Finset H) : List (HandleEvent H) → Prop
  | [] => True
  | e :: rest => e.Fits held ∧ WellHandled (e.apply held) rest

variable {held : Finset H} {log past rest : List (HandleEvent H)} {e : HandleEvent H}

@[simp] theorem heldAfter_nil (held : Finset H) : heldAfter held [] = held := rfl

@[simp] theorem heldAfter_cons (held : Finset H) (e : HandleEvent H) (rest : List (HandleEvent H)) :
    heldAfter held (e :: rest) = heldAfter (e.apply held) rest := rfl

@[simp] theorem wellHandled_nil (held : Finset H) : WellHandled held [] := trivial

@[simp] theorem wellHandled_cons :
    WellHandled held (e :: rest) ↔ e.Fits held ∧ WellHandled (e.apply held) rest := Iff.rfl

theorem heldAfter_append (held : Finset H) (past rest : List (HandleEvent H)) :
    heldAfter held (past ++ rest) = heldAfter (heldAfter held past) rest := by
  induction past generalizing held with
  | nil => rfl
  | cons e past ih => exact ih _

theorem wellHandled_append :
    WellHandled held (past ++ rest) ↔
      WellHandled held past ∧ WellHandled (heldAfter held past) rest := by
  induction past generalizing held with
  | nil => simp
  | cons e past ih =>
      rw [List.cons_append, wellHandled_cons, wellHandled_cons, heldAfter_cons, ih, and_assoc]

/-- Every event of a good log is about what is open at its time. -/
theorem WellHandled.fits (h : WellHandled held (past ++ e :: rest)) :
    e.Fits (heldAfter held past) :=
  (wellHandled_cons.mp (wellHandled_append.mp h).2).1

/-- One if the handle is open, and zero otherwise. -/
def holding (held : Finset H) (handle : H) : Nat := if handle ∈ held then 1 else 0

@[simp] theorem holding_empty (handle : H) : holding ∅ handle = 0 := rfl

/-- The account of one handle, for one event. -/
theorem HandleEvent.Fits.balance (h : e.Fits held) (handle : H) :
    (if e = .opens handle then 1 else 0) + holding held handle =
      (if e = .closes handle then 1 else 0) + holding (e.apply held) handle := by
  cases e with
  | opens other =>
      have hnew : other ∉ held := h
      by_cases hsame : other = handle
      · subst hsame
        simp [holding, HandleEvent.apply, hnew]
      · simp [holding, HandleEvent.apply, hsame, Ne.symm hsame]
  | uses other =>
      simp only [reduceCtorEq, if_false]
      rfl
  | closes other =>
      have hopen : other ∈ held := h
      by_cases hsame : other = handle
      · subst hsame
        simp [holding, HandleEvent.apply, hopen]
      · simp [holding, HandleEvent.apply, hsame, Ne.symm hsame]

/-- The account of one handle: it is opened as often as it is closed, but for what is open
before and after. -/
theorem WellHandled.balance (h : WellHandled held log) (handle : H) :
    log.count (.opens handle) + holding held handle =
      log.count (.closes handle) + holding (heldAfter held log) handle := by
  induction log generalizing held with
  | nil => rfl
  | cons e rest ih =>
      have hfirst := h.1.balance handle
      have hrest := ih h.2
      simp only [List.count_cons, beq_iff_eq, heldAfter_cons]
      omega

/-- When nothing is left open, everything was closed as often as it was opened. -/
theorem WellHandled.count_of_closed (h : WellHandled ∅ log) (closed : heldAfter ∅ log = ∅)
    (handle : H) : log.count (.opens handle) = log.count (.closes handle) := by
  have hbalance := h.balance handle
  rw [closed] at hbalance
  exact hbalance

/-! ## Runs -/

/-- A step takes what its state holds to what the next state holds. -/
def Transfers (events : List (HandleEvent H)) (before after : Finset H) : Prop :=
  WellHandled before events ∧ heldAfter before events = after

theorem Transfers.refl (held : Finset H) : Transfers [] held held := ⟨trivial, rfl⟩

theorem Transfers.trans {first second : List (HandleEvent H)} {a b c : Finset H}
    (hfirst : Transfers first a b) (hsecond : Transfers second b c) :
    Transfers (first ++ second) a c := by
  obtain ⟨hwell, rfl⟩ := hfirst
  exact ⟨wellHandled_append.mpr ⟨hwell, hsecond.1⟩, (heldAfter_append _ _ _).trans hsecond.2⟩

/-- Using what is open. -/
theorem Transfers.use {handle : H} (h : handle ∈ held) : Transfers [.uses handle] held held :=
  ⟨⟨h, trivial⟩, rfl⟩

/-- When every step keeps the account, the run does. -/
theorem Machine.transfers_run {σ ι ο : Type} (machine : Machine σ ι ο)
    {events : ο → List (HandleEvent H)} {holds : σ → Finset H} {I : σ → Prop}
    (step : ∀ t input, I t → I (machine.step input t).2 ∧
      Transfers (events (machine.step input t).1) (holds t) (holds (machine.step input t).2))
    {s : σ} (start : I s) (inputs : List ι) :
    I (machine.run s inputs) ∧
      Transfers ((machine.trace s inputs).flatMap fun e => events e.output) (holds s)
        (holds (machine.run s inputs)) := by
  refine machine.history_induction
    (P := fun past t => I t ∧ Transfers (past.flatMap fun e => events e.output) (holds s) (holds t))
    ⟨start, .refl _⟩ (fun past t input h => ?_) inputs
  obtain ⟨hkept, hstep⟩ := step t input h.1
  refine ⟨hkept, ?_⟩
  rw [List.flatMap_append, List.flatMap_singleton]
  exact h.2.trans hstep

end Lib
