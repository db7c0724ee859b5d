import Data360.Lib.Prog

/-!
# Two runs of programs

`twin D p q Q E s t` says what holds of a run of `p` from `s` beside a run of
`q` from `t`: both return and their values and states are in `Q`, or both throw
and are in `E`, or the two runs have parted, which is the relation `D` of their
last states.

A run whose surroundings answer as they like is compared with another one only
as long as the two are answered alike.  `Parted` is the relation of two logs for
that: at some position both have an event, and the events do not match.  It
stays once it holds, since a log only grows, so `twin_bind` goes on with the rest
of both programs where they have not parted.
-/

namespace Lib.Prog

variable {σ τ ε δ α β α' β' : Type}

/-- Beside each other, `prog` and `other` end in `Q` or in `E`, or they part. -/
def twin (D : σ → τ → Prop) (prog : Prog σ ε α) (other : Prog τ δ β) (Q : α → σ → β → τ → Prop)
    (E : ε → σ → δ → τ → Prop) (s : σ) (t : τ) : Prop :=
  D (prog s).2 (other t).2 ∨
    match prog s, other t with
    | (.ret a, s'), (.ret b, t') => Q a s' b t'
    | (.raise e, s'), (.raise d, t') => E e s' d t'
    | _, _ => False

/-- `prog` ends apart from `t` if it starts apart from it. -/
def StaysParted (D : σ → τ → Prop) (prog : Prog σ ε α) : Prop :=
  ∀ t, Keeps (fun s => D s t) prog

variable {D : σ → τ → Prop} {Q : α → σ → β → τ → Prop} {E : ε → σ → δ → τ → Prop} {s : σ} {t : τ}

theorem twin_pure {a : α} {b : β} (h : Q a s b t) :
    twin D (pure a) (pure b) Q E s t := .inr h

theorem twin_raise {e : ε} {d : δ} (h : E e s d t) :
    twin D (raise e : Prog σ ε α) (raise d : Prog τ δ β) Q E s t := .inr h

/-- Both programs make a check, and it comes out the same. -/
theorem twin_raiseIf {condition condition' : Prop} [Decidable condition]
    [Decidable condition'] {e : ε}
    {d : δ} {Q : Unit → σ → Unit → τ → Prop} (h : condition ↔ condition')
    (hraise : condition → E e s d t) (hret : ¬ condition → Q () s () t) :
    twin D (raiseIf condition e) (raiseIf condition' d) Q E s t := by
  by_cases hcondition : condition
  · rw [raiseIf, raiseIf, if_pos hcondition, if_pos (h.mp hcondition)]
    exact twin_raise (hraise hcondition)
  · rw [raiseIf, raiseIf, if_neg hcondition, if_neg (mt h.mpr hcondition)]
    exact twin_pure (hret hcondition)

/-- The rest of both programs runs where the first parts have not parted. -/
theorem twin_bind {prog : Prog σ ε α} {other : Prog τ δ β} {next : α → Prog σ ε α'}
    {next' : β → Prog τ δ β'} {Q : α' → σ → β' → τ → Prop}
    (hleft : ∀ a, StaysParted D (next a)) (hright : ∀ b, StaysParted (fun t s => D s t) (next' b))
    (h : twin D prog other (fun a s' b t' => twin D (next a) (next' b) Q E s' t') E s t) :
    twin D (prog >>= next) (other >>= next') Q E s t := by
  show twin D (bind prog next) (bind other next') Q E s t
  unfold twin at h
  unfold twin bind
  rcases hrun : prog s with ⟨outcome, s'⟩
  rcases hrun' : other t with ⟨outcome', t'⟩
  simp only [hrun, hrun'] at h
  rcases h with hparted | h
  · -- the runs have parted, so what either goes on to do does not matter
    left
    have hgrown (a) (t' : τ) (hd : D s' t') : D (next a s').2 t' := wp_final.mp (hleft a t' s' hd)
    have hgrown' (b) (s' : σ) (hd : D s' t') : D s' (next' b t').2 :=
      wp_final.mp (hright b s' t' hd)
    cases outcome <;> cases outcome'
    all_goals dsimp only
    all_goals first
      | exact hparted
      | exact hgrown _ _ hparted
      | exact hgrown' _ _ hparted
      | exact hgrown _ _ (hgrown' _ _ hparted)
  · cases outcome <;> cases outcome'
    all_goals first
      | exact h.elim
      | exact .inr h
      | exact h

theorem twin_mono {prog : Prog σ ε α} {other : Prog τ δ β} {Q' : α → σ → β → τ → Prop}
    {E' : ε → σ → δ → τ → Prop} (h : twin D prog other Q E s t)
    (hret : ∀ a s' b t', Q a s' b t' → Q' a s' b t')
    (hraise : ∀ e s' d t', E e s' d t' → E' e s' d t') : twin D prog other Q' E' s t := by
  unfold twin at h ⊢
  rcases hrun : prog s with ⟨outcome, s'⟩
  rcases hrun' : other t with ⟨outcome', t'⟩
  rw [hrun, hrun'] at h
  refine h.imp_right fun h => ?_
  cases outcome <;> cases outcome'
  all_goals first
    | exact h.elim
    | exact hret _ _ _ _ h
    | exact hraise _ _ _ _ h

/-- Two runs that did not part. -/
theorem twin_ends {prog : Prog σ ε α} {other : Prog τ δ β} (h : twin D prog other Q E s t)
    (hd : ¬ D (prog s).2 (other t).2) :
    (∃ a b, (prog s).1 = .ret a ∧ (other t).1 = .ret b ∧ Q a (prog s).2 b (other t).2) ∨
      ∃ e d, (prog s).1 = .raise e ∧ (other t).1 = .raise d ∧ E e (prog s).2 d (other t).2 := by
  have hjoint := h.resolve_left hd
  rcases hrun : prog s with ⟨outcome, s'⟩
  rcases hrun' : other t with ⟨outcome', t'⟩
  rw [hrun, hrun'] at hjoint
  cases outcome <;> cases outcome'
  all_goals first
    | exact hjoint.elim
    | exact .inl ⟨_, _, rfl, rfl, hjoint⟩
    | exact .inr ⟨_, _, rfl, rfl, hjoint⟩

/-! ## Programs that do not touch the state -/

/-- The program returns or throws at once. -/
def Stateless (prog : Prog σ ε α) : Prop := (∃ a, prog = pure a) ∨ ∃ e, prog = raise e

theorem stateless_pure (a : α) : Stateless (pure a : Prog σ ε α) := .inl ⟨a, rfl⟩

theorem stateless_raise (e : ε) : Stateless (raise e : Prog σ ε α) := .inr ⟨e, rfl⟩

theorem stateless_bind {prog : Prog σ ε α} {next : α → Prog σ ε α'} (h : Stateless prog)
    (hnext : ∀ a, Stateless (next a)) : Stateless (prog >>= next) := by
  rcases h with ⟨a, rfl⟩ | ⟨e, rfl⟩
  · exact hnext a
  · exact .inr ⟨e, rfl⟩

theorem stateless_ite (condition : Prop) [Decidable condition] {left right : Prog σ ε α}
    (hl : Stateless left) (hr : Stateless right) :
    Stateless (if condition then left else right) := by
  split
  · exact hl
  · exact hr

theorem stateless_raiseIf (condition : Prop) [Decidable condition] (e : ε) :
    Stateless (raiseIf condition e : Prog σ ε Unit) :=
  stateless_ite condition (stateless_raise e) (stateless_pure ())

/-- Both runs begin with the same check. -/
theorem twin_bind_stateless {D : σ → σ → Prop} {prog : Prog σ ε α} {next : α → Prog σ ε α'}
    {next' : α → Prog σ ε β'} {Q : α' → σ → β' → σ → Prop} {E : ε → σ → ε → σ → Prop} {s t : σ}
    (h : Stateless prog) (hnext : ∀ a, twin D (next a) (next' a) Q E s t)
    (hraise : ∀ e, E e s e t) :
    twin D (prog >>= next) (prog >>= next') Q E s t := by
  rcases h with ⟨a, rfl⟩ | ⟨e, rfl⟩
  · exact hnext a
  · exact .inr (hraise e)

/-! ## Runs that write a log -/

section Logs

variable {ι κ : Type}

/-- At some position both logs have an event, and the two do not match. -/
def Parted (R : Nat → ι → κ → Prop) (s : List ι) (t : List κ) : Prop :=
  ∃ i a b, s[i]? = some a ∧ t[i]? = some b ∧ ¬ R i a b

theorem not_parted {R : Nat → ι → κ → Prop} {s : List ι} {t : List κ}
    (h : ∀ i a b, s[i]? = some a → t[i]? = some b → R i a b) : ¬ Parted R s t := by
  rintro ⟨i, a, b, ha, hb, hab⟩
  exact hab (h i a b ha hb)

/-- The program only adds to the log. -/
def Appends (prog : Prog (List ι) ε α) : Prop := ∀ base, Keeps (fun s => base <+: s) prog

variable {R : Nat → ι → κ → Prop}

theorem appends_of_stateless {prog : Prog (List ι) ε α} (h : Stateless prog) : Appends prog := by
  intro base
  rcases h with ⟨a, rfl⟩ | ⟨e, rfl⟩
  · exact keeps_pure a
  · exact keeps_raise e

theorem appends_bind {prog : Prog (List ι) ε α} {next : α → Prog (List ι) ε α'} (h : Appends prog)
    (hnext : ∀ a, Appends (next a)) : Appends (prog >>= next) :=
  fun base => keeps_bind (h base) fun a => hnext a base

/-- A program that adds one event. -/
theorem appends_of_event {prog : Prog (List ι) ε α} (h : ∀ s, ∃ a, (prog s).2 = s ++ [a]) :
    Appends prog := by
  intro base s hbase
  obtain ⟨a, ha⟩ := h s
  refine wp_final.mpr ?_
  rw [ha]
  exact hbase.trans (List.prefix_append _ _)

/-- An event of a log stays where it is. -/
theorem getElem?_of_prefix {s s' : List ι} (h : s <+: s') {i : Nat} {a : ι} (ha : s[i]? = some a) :
    s'[i]? = some a := by
  obtain ⟨rest, rfl⟩ := h
  rw [List.getElem?_append_left (List.getElem?_eq_some_iff.mp ha).1]
  exact ha

theorem Parted.mono {s s' : List ι} {t t' : List κ} (h : Parted R s t) (hs : s <+: s')
    (ht : t <+: t') :
    Parted R s' t' := by
  obtain ⟨i, a, b, ha, hb, hab⟩ := h
  exact ⟨i, a, b, getElem?_of_prefix hs ha, getElem?_of_prefix ht hb, hab⟩

theorem Appends.staysParted {prog : Prog (List ι) ε α} (h : Appends prog) :
    StaysParted (Parted R) prog := fun _ s hparted =>
  wp_final.mpr (hparted.mono (wp_final.mp (h s s List.prefix_rfl)) List.prefix_rfl)

theorem Appends.staysParted' {prog : Prog (List κ) ε α} (h : Appends prog) :
    StaysParted (fun t s => Parted R s t) prog := fun _ t hparted =>
  wp_final.mpr (hparted.mono List.prefix_rfl (wp_final.mp (h t t List.prefix_rfl)))

/-- Both programs add one event at the same position; either the runs part there, or
the two events match. -/
theorem twin_event {prog : Prog (List ι) ε α} {other : Prog (List κ) δ β} {s : List ι} {t : List κ}
    {Q : α → List ι → β → List κ → Prop} {E : ε → List ι → δ → List κ → Prop} {a : ι} {b : κ}
    (hlength : s.length = t.length) (hs : (prog s).2 = s ++ [a]) (ht : (other t).2 = t ++ [b])
    (h : R s.length a b → twin (Parted R) prog other Q E s t) :
    twin (Parted R) prog other Q E s t := by
  by_cases hab : R s.length a b
  · exact h hab
  · left
    refine ⟨s.length, a, b, ?_, ?_, hab⟩
    · rw [hs, List.getElem?_concat_length]
    · rw [ht, hlength, List.getElem?_concat_length]

/-- The rest of both programs runs while the logs match. -/
theorem twin_bind_of_appends {prog : Prog (List ι) ε α} {other : Prog (List κ) δ β}
    {next : α → Prog (List ι) ε α'} {next' : β → Prog (List κ) δ β'}
    {Q : α' → List ι → β' → List κ → Prop} {E : ε → List ι → δ → List κ → Prop}
    {s : List ι} {t : List κ} (hleft : ∀ a, Appends (next a)) (hright : ∀ b, Appends (next' b))
    (h : twin (Parted R) prog other
      (fun a s' b t' => twin (Parted R) (next a) (next' b) Q E s' t') E s t) :
    twin (Parted R) (prog >>= next) (other >>= next') Q E s t :=
  twin_bind (fun a => (hleft a).staysParted) (fun b => (hright b).staysParted') h

end Logs

end Lib.Prog
