import Data360.Lib.Runs

/-!
# Entries that expire

A map whose entries expire may drop an entry at any time after it has expired,
and nobody who asks by the clock can tell when it did.  This file is about one
key of such a map.

* `Change` is what an event means for the key, and `latest` the entry after a
  list of them, when nothing is ever dropped: `latest_eq_some_iff` says that it
  is the last one put there, unless it was taken out again.
* `LazyStep` is what an event does to an entry that may be dropped.
* `Stands entry m t` says that the entry stands for the exact one from the time
  `t` on.  `Stands.step` keeps it, and `Stands.lookup_eq` says that it is all
  that a lookup needs.
-/

namespace Lib

variable {V τ : Type}

/-! ## Changes -/

/-- What an event does to the entry of a key. -/
inductive Change (V : Type) where
  | keep
  | put (value : V)
  | drop

/-- The entry after a change. -/
def Change.apply : Change V → Option V → Option V
  | .keep, entry => entry
  | .put value, _ => some value
  | .drop, _ => none

/-- The entry after a list of changes to a key that had none. -/
def latest (changes : List (Change V)) : Option V :=
  changes.foldl (fun entry change => change.apply entry) none

@[simp] theorem latest_nil : latest ([] : List (Change V)) = none := rfl

@[simp] theorem latest_concat (changes : List (Change V)) (change : Change V) :
    latest (changes ++ [change]) = change.apply (latest changes) := by
  simp [latest]

/-- The entry is the last one that was put there, if it was not dropped since. -/
theorem latest_eq_some_iff {changes : List (Change V)} {v : V} :
    latest changes = some v ↔
      ∃ before after, changes = before ++ .put v :: after ∧ ∀ change ∈ after, change = .keep := by
  induction changes using List.reverseRec with
  | nil => simp
  | append_singleton changes last ih =>
      rw [latest_concat]
      constructor
      · intro h
        cases last with
        | keep =>
            obtain ⟨before, after, rfl, hafter⟩ := ih.mp h
            refine ⟨before, after ++ [.keep], by simp, fun change hchange => ?_⟩
            rcases List.mem_append.mp hchange with hchange | hchange
            · exact hafter change hchange
            · exact List.mem_singleton.mp hchange
        | put value =>
            obtain rfl := Option.some.inj h
            exact ⟨changes, [], rfl, fun _ hnil => by cases hnil⟩
        | drop => cases h
      · rintro ⟨before, after, heq, hafter⟩
        rcases concat_eq_append_cons heq with ⟨-, -, rfl⟩ | ⟨after', rfl, hfront⟩
        · rfl
        · have hkeep : last = .keep := hafter last (by simp)
          rw [hkeep]
          exact ih.mpr ⟨before, after', hfront, fun change hchange =>
            hafter change (List.mem_append_left _ hchange)⟩

/-! ## Entries that are dropped late -/

variable [LE τ] [LT τ] {deadline : V → τ} {entry entry' m : Option V} {t : τ}

/-- What an event of the time `t` does to an entry: the change, or the entry
had expired and is dropped. -/
inductive LazyStep (deadline : V → τ) (t : Option τ) :
    Change V → Option V → Option V → Prop
  | applied (change : Change V) (entry : Option V) :
      LazyStep deadline t change entry (change.apply entry)
  | dropped (v : V) (now : τ) (reading : t = some now) (expired : deadline v ≤ now) :
      LazyStep deadline t .keep (some v) none

/-- The entry is the exact one, or that one has expired at the time `t` and the
entry is gone. -/
structure Stands (deadline : V → τ) (entry m : Option V) (t : τ) : Prop where
  sound : ∀ v, entry = some v → m = some v
  complete : ∀ v, m = some v → t < deadline v → entry = some v

omit [LE τ] in
theorem stands_none : Stands deadline none none t :=
  ⟨fun _ h => h, fun _ h _ => h⟩

variable [Std.IsLinearOrder τ] [Std.LawfulOrderLT τ]

/-- An event keeps what an entry stands for, at every later time. -/
theorem Stands.step {now : Option τ} {change : Change V} (h : Stands deadline entry m t)
    (step : LazyStep deadline now change entry entry')
    (later : ∀ reading, now = some reading → reading ≤ t) :
    Stands deadline entry' (change.apply m) t := by
  cases step with
  | applied change entry =>
      cases change with
      | keep => exact h
      | put value => exact ⟨fun _ hv => hv, fun _ hv _ => hv⟩
      | drop => exact stands_none
  | dropped v reading hreading expired =>
      refine ⟨(fun _ hw => nomatch hw), fun w hw hlive => ?_⟩
      obtain rfl := Option.some.inj (hw.symm.trans (h.sound v rfl))
      exact absurd (Std.lt_of_le_of_lt (later reading hreading) hlive) (Std.not_lt.mpr expired)

/-- What a lookup at the time `t` finds. -/
def lookup [DecidableLT τ] (deadline : V → τ) (entry : Option V) (t : τ) : Option V :=
  entry.filter fun v => t < deadline v

omit [LE τ] [Std.IsLinearOrder τ] [Std.LawfulOrderLT τ] in
/-- A lookup cannot tell the entry from the exact one. -/
theorem Stands.lookup_eq [DecidableLT τ] (h : Stands deadline entry m t) :
    lookup deadline entry t = lookup deadline m t := by
  cases hentry : entry with
  | some v => rw [h.sound v hentry]
  | none =>
      cases hm : m with
      | none => rfl
      | some v =>
          rw [lookup, lookup, Option.filter_none, Option.filter_some, if_neg]
          intro hlive
          have hfound := h.complete v hm (by simpa using hlive)
          rw [hentry] at hfound
          cases hfound

end Lib
