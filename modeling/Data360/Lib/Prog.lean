import Mathlib.Data.List.Forall2
import Mathlib.Logic.Basic

/-!
# Programs that keep their state when they throw

`Prog σ ε α` is a program over a state `σ` that returns an `α`, throws an
`ε`, or is cut off because a loop ran out of fuel.  A throw does not undo
what the program did to the state before it, which is the C++ rule.  A
cut-off program has simply not finished: no handler sees it.

`Keeps I prog` says that `prog` keeps an invariant however it ends, `Leads I E
prog` that it keeps it unless it throws, and `Total prog` that it is never cut
off.

`wp prog Q E C s` says what holds when `prog` is started in `s`: `Q` of the
value and the state it returns with, `E` of the error and the state it
throws with, `C` of the state it was cut off in.  The `wp_*` lemmas compute
it over the program's syntax, so a proof about a straight-line program is a
`simp` with the specifications of the calls.  `wp_mono` uses a
specification, `wp_iff` turns one back into a statement about the run.
-/

namespace Lib

/-- A mapped answer is an answer. -/
theorem except_map_eq_ok {ε α β : Type} {x : Except ε α} {f : α → β} {b : β} :
    x.map f = .ok b ↔ ∃ a, x = .ok a ∧ f a = b := by
  cases x <;> simp [Except.map]

/-- Two steps that may fail. -/
theorem except_bind_eq_ok {ε α β : Type} {x : Except ε α} {f : α → Except ε β} {b : β} :
    (x >>= f) = .ok b ↔ ∃ a, x = .ok a ∧ f a = .ok b := by
  cases x <;> simp [bind, Except.bind]

/-- Where two steps fail. -/
theorem except_bind_eq_error {ε α β : Type} {x : Except ε α} {f : α → Except ε β} {e : ε} :
    (x >>= f) = .error e ↔ x = .error e ∨ ∃ a, x = .ok a ∧ f a = .error e := by
  cases x <;> simp [bind, Except.bind]

/-- A loop that collects returns when every turn does. -/
theorem mapM_eq_ok {α β ε : Type} {f : α → Except ε β} {xs : List α} {ys : List β} :
    xs.mapM f = .ok ys ↔ List.Forall₂ (fun x y => f x = .ok y) xs ys := by
  induction xs generalizing ys with
  | nil =>
      rw [List.mapM_nil, List.forall₂_nil_left_iff]
      exact ⟨fun h => (Except.ok.inj h).symm, fun h => h ▸ rfl⟩
  | cons x xs ih =>
      rw [List.mapM_cons]
      constructor
      · intro h
        cases hx : f x with
        | error e =>
            rw [hx] at h
            cases h
        | ok y =>
            cases hxs : xs.mapM f with
            | error e =>
                rw [hx, hxs] at h
                cases h
            | ok ys' =>
                rw [hx, hxs] at h
                cases h
                exact .cons hx (ih.mp hxs)
      · intro h
        cases h with
        | cons hx hxs =>
            rw [hx, ih.mpr hxs]
            rfl

/-- In a loop that returns, every turn does. -/
theorem exists_of_mapM_eq_ok {α β ε : Type} {f : α → Except ε β} {xs : List α} {ys : List β}
    (h : xs.mapM f = .ok ys) {x : α} (hx : x ∈ xs) : ∃ y, f x = .ok y := by
  have hall := mapM_eq_ok.mp h
  clear h
  induction hall with
  | nil => cases hx
  | cons hy _ ih =>
      rcases List.mem_cons.mp hx with rfl | hrest
      · exact ⟨_, hy⟩
      · exact ih hrest

/-- How a program ends. -/
inductive Outcome (ε α : Type) where
  | ret (value : α)
  | raise (error : ε)
  | cut
  deriving DecidableEq

/-- A program over the state `σ`. -/
def Prog (σ ε α : Type) : Type := σ → Outcome ε α × σ

namespace Prog

variable {σ ε α β : Type}

/-- Run the second program on what the first one returns. -/
def bind (prog : Prog σ ε α) (next : α → Prog σ ε β) : Prog σ ε β := fun s =>
  match prog s with
  | (.ret a, s') => next a s'
  | (.raise e, s') => (.raise e, s')
  | (.cut, s') => (.cut, s')

instance : Monad (Prog σ ε) where
  pure a := fun s => (.ret a, s)
  bind := bind

/-- `throw error;` -/
def raise (error : ε) : Prog σ ε α := fun s => (.raise error, s)

/-- A loop that has no fuel left. -/
def outOfFuel : Prog σ ε α := fun s => (.cut, s)

/-- Read something off the state. -/
def read (f : σ → α) : Prog σ ε α := fun s => (.ret (f s), s)

/-- Change the state. -/
def update (f : σ → σ) : Prog σ ε Unit := fun s => (.ret (), f s)

/-- `try { prog } catch (...) { handler }` -/
def catchAll (prog : Prog σ ε α) (handler : ε → Prog σ ε α) : Prog σ ε α := fun s =>
  match prog s with
  | (.raise e, s') => handler e s'
  | other => other

/-- `if (condition) throw error;` -/
def raiseIf (condition : Prop) [Decidable condition] (error : ε) : Prog σ ε Unit :=
  if condition then raise error else pure ()

/-- `try { prog } catch (...) { cleanup; throw; }` -/
def onRaise (prog : Prog σ ε α) (cleanup : Prog σ ε Unit) : Prog σ ε α :=
  catchAll prog fun e => do
    cleanup
    raise e

/-- A scope whose destructor is `cleanup`: it runs on the way out, after a
return and after a throw. -/
def withDestructor (prog : Prog σ ε α) (cleanup : Prog σ ε Unit) : Prog σ ε α := do
  let a ← onRaise prog cleanup
  cleanup
  pure a

/-- A run, by its outcome. -/
theorem run_eq_of_fst {run : Outcome ε α × σ} {outcome : Outcome ε α} (h : run.1 = outcome) :
    run = (outcome, run.2) := Prod.ext h rfl

/-- A program behind one that returns. -/
theorem bind_of_ret {prog : Prog σ ε α} {next : α → Prog σ ε β} {s mid : σ} {a : α}
    (h : prog s = (.ret a, mid)) : (prog >>= next) s = next a mid := by
  show bind prog next s = _
  rw [bind, h]

/-- A program behind one that throws. -/
theorem bind_of_raise {prog : Prog σ ε α} {next : α → Prog σ ε β} {s mid : σ} {e : ε}
    (h : prog s = (.raise e, mid)) : (prog >>= next) s = (.raise e, mid) := by
  show bind prog next s = _
  rw [bind, h]

/-- A program that returns has returned at every step. -/
theorem bind_eq_ret {prog : Prog σ ε α} {next : α → Prog σ ε β} {s s' : σ} {b : β}
    (h : (prog >>= next) s = (.ret b, s')) :
    ∃ a mid, prog s = (.ret a, mid) ∧ next a mid = (.ret b, s') := by
  replace h : bind prog next s = (.ret b, s') := h
  unfold bind at h
  split at h
  · rename_i a mid hrun
    exact ⟨a, mid, hrun, h⟩
  · cases h
  · cases h

/-- Passing a value on changes nothing. -/
theorem bind_pure_snd (prog : Prog σ ε α) (f : α → β) (s : σ) :
    ((prog >>= fun a => pure (f a)) s).2 = (prog s).2 := by
  show (bind prog _ s).2 = _
  rw [bind]
  rcases prog s with ⟨outcome, left⟩
  cases outcome <;> rfl

/-- A scope that returns has run its destructor. -/
theorem withDestructor_eq_ret {prog : Prog σ ε α} {cleanup : σ → σ} {s s' : σ} {a : α}
    (h : withDestructor prog (update cleanup) s = (.ret a, s')) :
    ∃ mid, prog s = (.ret a, mid) ∧ s' = cleanup mid := by
  obtain ⟨a', mid, hrun, hrest⟩ := bind_eq_ret h
  obtain ⟨_, _, hcleanup, hpure⟩ := bind_eq_ret hrest
  cases hcleanup
  cases hpure
  refine ⟨mid, ?_, rfl⟩
  unfold onRaise catchAll at hrun
  split at hrun
  · rename_i e mid' _
    obtain ⟨_, _, -, hraise⟩ := bind_eq_ret hrun
    cases hraise
  · exact hrun

/-! ## Weakest preconditions -/

/-- What holds when `prog` is started in `s`: `Q` on return, `E` on a throw,
`C` on a cut. -/
def wp (prog : Prog σ ε α) (Q : α → σ → Prop) (E : ε → σ → Prop) (C : σ → Prop)
    (s : σ) : Prop :=
  match prog s with
  | (.ret a, s') => Q a s'
  | (.raise e, s') => E e s'
  | (.cut, s') => C s'

variable {Q Q' : α → σ → Prop} {E E' : ε → σ → Prop} {C C' : σ → Prop} {s : σ}

/-- `wp` in terms of the three ways a run can end. -/
theorem wp_iff {prog : Prog σ ε α} :
    wp prog Q E C s ↔
      (∀ a s', prog s = (.ret a, s') → Q a s') ∧
      (∀ e s', prog s = (.raise e, s') → E e s') ∧
      (∀ s', prog s = (.cut, s') → C s') := by
  unfold wp
  rcases hrun : prog s with ⟨outcome, s'⟩
  cases outcome <;> simp

/-- The precondition of a run that is known to return. -/
theorem wp_of_ret {prog : Prog σ ε α} {a : α} {s' : σ} (h : prog s = (.ret a, s')) :
    wp prog Q E C s ↔ Q a s' := by
  rw [wp, h]

/-- The precondition of a run that is known to throw. -/
theorem wp_of_raise {prog : Prog σ ε α} {e : ε} {s' : σ} (h : prog s = (.raise e, s')) :
    wp prog Q E C s ↔ E e s' := by
  rw [wp, h]

/-- A property of the state in which a run ends, however it ends. -/
theorem wp_final {I : σ → Prop} {prog : Prog σ ε α} :
    wp prog (fun _ => I) (fun _ => I) I s ↔ I (prog s).2 := by
  unfold wp
  rcases prog s with ⟨outcome, s'⟩
  cases outcome <;> exact Iff.rfl

/-- A run that neither throws nor is cut off returns. -/
theorem wp_returns {prog : Prog σ ε α} :
    wp prog Q (fun _ _ => False) (fun _ => False) s ↔ ∃ a s', prog s = (.ret a, s') ∧ Q a s' := by
  unfold wp
  rcases prog s with ⟨outcome, s'⟩
  cases outcome with
  | ret a =>
      refine ⟨fun h => ⟨a, s', rfl, h⟩, fun h => ?_⟩
      obtain ⟨_, _, hrun, h⟩ := h
      cases hrun
      exact h
  | raise e => simp
  | cut => simp

@[simp] theorem wp_pure (a : α) : wp (pure a : Prog σ ε α) Q E C s ↔ Q a s := Iff.rfl

@[simp] theorem wp_raise (e : ε) : wp (raise e : Prog σ ε α) Q E C s ↔ E e s := Iff.rfl

@[simp] theorem wp_outOfFuel : wp (outOfFuel : Prog σ ε α) Q E C s ↔ C s := Iff.rfl

@[simp] theorem wp_read (f : σ → α) : wp (read f : Prog σ ε α) Q E C s ↔ Q (f s) s :=
  Iff.rfl

@[simp] theorem wp_update {Q : Unit → σ → Prop} (f : σ → σ) :
    wp (update f : Prog σ ε Unit) Q E C s ↔ Q () (f s) := Iff.rfl

@[simp] theorem wp_bind {Q : β → σ → Prop} (prog : Prog σ ε α) (next : α → Prog σ ε β) :
    wp (prog >>= next) Q E C s ↔
      wp prog (fun a s' => wp (next a) Q E C s') E C s := by
  show wp (bind prog next) Q E C s ↔ _
  unfold wp bind
  rcases prog s with ⟨outcome, s'⟩
  cases outcome <;> exact Iff.rfl

@[simp] theorem wp_catchAll (prog : Prog σ ε α) (handler : ε → Prog σ ε α) :
    wp (catchAll prog handler) Q E C s ↔
      wp prog Q (fun e s' => wp (handler e) Q E C s') C s := by
  unfold wp catchAll
  rcases prog s with ⟨outcome, s'⟩
  cases outcome <;> exact Iff.rfl

@[simp] theorem wp_raiseIf {Q : Unit → σ → Prop} (condition : Prop) [Decidable condition]
    (e : ε) :
    wp (raiseIf condition e : Prog σ ε Unit) Q E C s ↔
      (condition → E e s) ∧ (¬ condition → Q () s) := by
  unfold raiseIf
  by_cases h : condition <;> simp [h]

@[simp] theorem wp_ite (condition : Prop) [Decidable condition]
    (left right : Prog σ ε α) :
    wp (if condition then left else right) Q E C s ↔
      (condition → wp left Q E C s) ∧ (¬ condition → wp right Q E C s) := by
  by_cases h : condition <;> simp [h]

@[simp] theorem wp_onRaise (prog : Prog σ ε α) (cleanup : Prog σ ε Unit) :
    wp (onRaise prog cleanup) Q E C s ↔
      wp prog Q (fun e s' => wp cleanup (fun _ => E e) E C s') C s := by
  simp only [onRaise, wp_catchAll, wp_bind, wp_raise]

/-- A specification proves every weaker one. -/
theorem wp_mono {prog : Prog σ ε α} (h : wp prog Q E C s)
    (hret : ∀ a s', Q a s' → Q' a s') (hraise : ∀ e s', E e s' → E' e s')
    (hcut : ∀ s', C s' → C' s') : wp prog Q' E' C' s := by
  unfold wp at h ⊢
  rcases hrun : prog s with ⟨outcome, s'⟩
  rw [hrun] at h
  cases outcome with
  | ret a => exact hret a s' h
  | raise e => exact hraise e s' h
  | cut => exact hcut s' h

/-- Two specifications of one program hold together. -/
theorem wp_and {prog : Prog σ ε α} (h : wp prog Q E C s) (h' : wp prog Q' E' C' s) :
    wp prog (fun a s' => Q a s' ∧ Q' a s') (fun e s' => E e s' ∧ E' e s')
      (fun s' => C s' ∧ C' s') s := by
  unfold wp at h h' ⊢
  rcases hrun : prog s with ⟨outcome, s'⟩
  rw [hrun] at h h'
  cases outcome <;> exact ⟨h, h'⟩

/-! ## Invariants -/

/-- `prog` keeps the invariant `I`, however it ends. -/
def Keeps (I : σ → Prop) (prog : Prog σ ε α) : Prop :=
  ∀ s, I s → wp prog (fun _ => I) (fun _ => I) I s

theorem Keeps.wp {I : σ → Prop} {prog : Prog σ ε α} (h : Keeps I prog) (hs : I s) :
    wp prog (fun _ => I) (fun _ => I) I s := h s hs

theorem keeps_pure {I : σ → Prop} (a : α) : Keeps I (pure a : Prog σ ε α) :=
  fun _ h => h

theorem keeps_raise {I : σ → Prop} (e : ε) : Keeps I (raise e : Prog σ ε α) :=
  fun _ h => h

theorem keeps_outOfFuel {I : σ → Prop} : Keeps I (outOfFuel : Prog σ ε α) :=
  fun _ h => h

theorem keeps_read {I : σ → Prop} (f : σ → α) : Keeps I (read f : Prog σ ε α) :=
  fun _ h => h

theorem keeps_update {I : σ → Prop} {f : σ → σ} (h : ∀ s, I s → I (f s)) :
    Keeps I (update f : Prog σ ε Unit) := h

theorem keeps_bind {I : σ → Prop} {prog : Prog σ ε α} {next : α → Prog σ ε β}
    (h : Keeps I prog) (hnext : ∀ a, Keeps I (next a)) : Keeps I (prog >>= next) :=
  fun s hs => (wp_bind prog next).mpr
    (wp_mono (h s hs) (fun a s' => hnext a s') (fun _ _ => id) fun _ => id)

theorem keeps_catchAll {I : σ → Prop} {prog : Prog σ ε α} {handler : ε → Prog σ ε α}
    (h : Keeps I prog) (hh : ∀ e, Keeps I (handler e)) : Keeps I (catchAll prog handler) :=
  fun s hs => (wp_catchAll prog handler).mpr
    (wp_mono (h s hs) (fun _ _ => id) (fun e s' => hh e s') fun _ => id)

theorem keeps_raiseIf {I : σ → Prop} (condition : Prop) [Decidable condition] (e : ε) :
    Keeps I (raiseIf condition e : Prog σ ε Unit) :=
  fun _ h => (wp_raiseIf condition e).mpr ⟨fun _ => h, fun _ => h⟩

theorem keeps_ite {I : σ → Prop} (condition : Prop) [Decidable condition]
    {left right : Prog σ ε α} (hl : Keeps I left) (hr : Keeps I right) :
    Keeps I (if condition then left else right) := by
  split
  · exact hl
  · exact hr

theorem keeps_onRaise {I : σ → Prop} {prog : Prog σ ε α} {cleanup : Prog σ ε Unit}
    (h : Keeps I prog) (hc : Keeps I cleanup) : Keeps I (onRaise prog cleanup) :=
  keeps_catchAll h fun e => keeps_bind hc fun _ => keeps_raise e

/-! ## Programs that leave an invariant by throwing -/

/-- From `I`, the program returns in `I` or is cut off in it, or throws into
`E`. -/
def Leads (I : σ → Prop) (E : ε → σ → Prop) (prog : Prog σ ε α) : Prop :=
  ∀ s, I s → wp prog (fun _ => I) E I s

theorem Keeps.leads {I : σ → Prop} {prog : Prog σ ε α} (h : Keeps I prog)
    (hE : ∀ e s, I s → E e s) : Leads I E prog :=
  fun s hs => wp_mono (h s hs) (fun _ _ => id) hE fun _ => id

theorem Leads.keeps {I : σ → Prop} {prog : Prog σ ε α} (h : Leads I (fun _ => I) prog) :
    Keeps I prog := h

theorem leads_pure {I : σ → Prop} (a : α) : Leads I E (pure a : Prog σ ε α) := fun _ h => h

theorem leads_outOfFuel {I : σ → Prop} : Leads I E (outOfFuel : Prog σ ε α) := fun _ h => h

theorem leads_read {I : σ → Prop} (f : σ → α) : Leads I E (read f : Prog σ ε α) := fun _ h => h

theorem leads_bind {I : σ → Prop} {prog : Prog σ ε α} {next : α → Prog σ ε β}
    (h : Leads I E prog) (hnext : ∀ a, Leads I E (next a)) : Leads I E (prog >>= next) :=
  fun s hs => (wp_bind prog next).mpr
    (wp_mono (h s hs) (fun a s' => hnext a s') (fun _ _ => id) fun _ => id)

theorem leads_raiseIf {I : σ → Prop} (condition : Prop) [Decidable condition] (e : ε)
    (hE : ∀ s, I s → E e s) : Leads I E (raiseIf condition e : Prog σ ε Unit) :=
  fun s h => (wp_raiseIf condition e).mpr ⟨fun _ => hE s h, fun _ => h⟩

theorem leads_ite {I : σ → Prop} (condition : Prop) [Decidable condition]
    {left right : Prog σ ε α} (hl : Leads I E left) (hr : Leads I E right) :
    Leads I E (if condition then left else right) := by
  split
  · exact hl
  · exact hr

/-! ## Programs that finish -/

/-- `prog` is never cut off. -/
def Total (prog : Prog σ ε α) : Prop :=
  ∀ s, wp prog (fun _ _ => True) (fun _ _ => True) (fun _ => False) s

/-- A total program that keeps `I` ends in `I`. -/
theorem Keeps.total {I : σ → Prop} {prog : Prog σ ε α} (h : Keeps I prog) (ht : Total prog)
    (hs : I s) : Lib.Prog.wp prog (fun _ => I) (fun _ => I) (fun _ => False) s :=
  wp_mono (wp_and (h s hs) (ht s)) (fun _ _ h => h.1) (fun _ _ h => h.1) fun _ h => h.2

/-- A total program that keeps `I`, and then the rest. -/
theorem wp_bind_of_keeps {I : σ → Prop} {prog : Prog σ ε α} {next : α → Prog σ ε β}
    {Q : β → σ → Prop} (h : Keeps I prog) (ht : Total prog) (hs : I s)
    (hnext : ∀ a s', I s' → Lib.Prog.wp (next a) Q E C s') (hraise : ∀ e s', I s' → E e s') :
    Lib.Prog.wp (prog >>= next) Q E C s :=
  (wp_bind prog next).mpr (wp_mono (h.total ht hs) hnext hraise fun _ h => h.elim)

theorem total_pure (a : α) : Total (pure a : Prog σ ε α) := fun _ => trivial

theorem total_raise (e : ε) : Total (raise e : Prog σ ε α) := fun _ => trivial

theorem total_read (f : σ → α) : Total (read f : Prog σ ε α) := fun _ => trivial

theorem total_update (f : σ → σ) : Total (update f : Prog σ ε Unit) := fun _ => trivial

theorem total_bind {prog : Prog σ ε α} {next : α → Prog σ ε β} (h : Total prog)
    (hnext : ∀ a, Total (next a)) : Total (prog >>= next) := fun s =>
  (wp_bind prog next).mpr (wp_mono (h s) (fun a s' _ => hnext a s') (fun _ _ => id) fun _ => id)

theorem total_catchAll {prog : Prog σ ε α} {handler : ε → Prog σ ε α} (h : Total prog)
    (hh : ∀ e, Total (handler e)) : Total (catchAll prog handler) := fun s =>
  (wp_catchAll prog handler).mpr
    (wp_mono (h s) (fun _ _ => id) (fun e s' _ => hh e s') fun _ => id)

theorem total_ite (condition : Prop) [Decidable condition] {left right : Prog σ ε α}
    (hl : Total left) (hr : Total right) : Total (if condition then left else right) := by
  split
  · exact hl
  · exact hr

theorem total_onRaise {prog : Prog σ ε α} {cleanup : Prog σ ε Unit} (h : Total prog)
    (hc : Total cleanup) : Total (onRaise prog cleanup) :=
  total_catchAll h fun e => total_bind hc fun _ => total_raise e

end Prog

end Lib
