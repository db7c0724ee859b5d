import Mathlib.Data.List.Perm.Basic
import Std.Data.TreeMap

/-!
# Collecting over an ordered map

`collect f m` lists what `f` takes out of the values of the map `m`, key by
key.  The lemmas say, up to the order of the list, how an insertion, an
erasure and a map over the values change it.  They are the bookkeeping of
any argument that counts what the values of a map own.

`countValues p m` is the number of values that satisfy `p`, with the same
lemmas as equations between numbers.
-/

namespace Lib

open Std
open scoped List

variable {κ V β : Type} {cmp : κ → κ → Ordering}

/-- What `f` takes out of the values of the map. -/
def collect (f : V → List β) (m : TreeMap κ V cmp) : List β :=
  m.toList.flatMap fun entry => f entry.2

/-- A map over the values that splits what each value owns. -/
theorem collect_map_split (f : V → List β) (m : TreeMap κ V cmp) (change : κ → V → V)
    (given : V → List β) (h : ∀ k v, f (change k v) ++ given v = f v) :
    collect f (m.map change) ++ collect given m ~ collect f m := by
  have hmap : collect f (m.map change) = m.toList.flatMap fun e => f (change e.1 e.2) := by
    rw [collect, TreeMap.toList_map, List.flatMap_map]
  rw [hmap]
  refine (List.flatMap_append_perm m.toList _ _).trans ?_
  simp only [h]
  exact List.Perm.refl _

/-- The number of values of the map that satisfy `p`. -/
def countValues (p : V → Bool) (m : TreeMap κ V cmp) : Nat :=
  m.toList.countP fun entry => p entry.2

/-- A map without a value that fails `p`. -/
theorem countValues_eq_size {p : V → Bool} {m : TreeMap κ V cmp}
    (h : ∀ entry ∈ m.toList, p entry.2 = true) : countValues p m = m.size := by
  rw [← TreeMap.length_toList]
  exact List.countP_eq_length.mpr h

/-- Changing values one by one makes no more of them satisfy `p` when no single
change does. -/
theorem countValues_map_le {p : V → Bool} (m : TreeMap κ V cmp) (change : κ → V → V)
    (h : ∀ k v, p (change k v) = true → p v = true) :
    countValues p (m.map change) ≤ countValues p m := by
  rw [countValues, TreeMap.toList_map, List.countP_map]
  exact List.countP_mono_left fun entry _ => h entry.1 entry.2

/-- The pairs of a map are distinct. -/
private theorem nodup_toList [TransCmp cmp] (m : TreeMap κ V cmp) : m.toList.Nodup :=
  m.distinct_keys_toList.imp fun {a b} hne heq => hne (by rw [heq]; exact ReflCmp.compare_self)

theorem size_insert_of_some [TransCmp cmp] {m : TreeMap κ V cmp} {k : κ} {v v' : V}
    (h : m[k]? = some v) :
    (m.insert k v').size = m.size := by
  rw [TreeMap.size_insert, TreeMap.contains_eq_isSome_getElem?, h]
  rfl

theorem size_insert_of_none [TransCmp cmp] {m : TreeMap κ V cmp} {k : κ} {v : V}
    (h : m[k]? = none) :
    (m.insert k v).size = m.size + 1 := by
  rw [TreeMap.size_insert, TreeMap.contains_eq_isSome_getElem?, h]
  rfl

theorem size_erase_of_some [TransCmp cmp] {m : TreeMap κ V cmp} {k : κ} {v : V}
    (h : m[k]? = some v) :
    (m.erase k).size = m.size - 1 := by
  rw [TreeMap.size_erase, TreeMap.contains_eq_isSome_getElem?, h]
  rfl

variable [TransCmp cmp] [LawfulEqCmp cmp]

/-- An insertion leaves the other keys alone. -/
theorem getElem?_insert_ne (m : TreeMap κ V cmp) {k k' : κ} (v : V) (h : k ≠ k') :
    (m.insert k v)[k']? = m[k']? := by
  rw [TreeMap.getElem?_insert, if_neg fun heq => h (LawfulEqCmp.compare_eq_iff_eq.mp heq)]

/-- So does an erasure. -/
theorem getElem?_erase_ne (m : TreeMap κ V cmp) {k k' : κ} (h : k ≠ k') :
    (m.erase k)[k']? = m[k']? := by
  rw [TreeMap.getElem?_erase, if_neg fun heq => h (LawfulEqCmp.compare_eq_iff_eq.mp heq)]

/-- A map with an entry is that entry and the map without it. -/
theorem toList_perm_of_getElem? {m : TreeMap κ V cmp} {k : κ} {v : V} (h : m[k]? = some v) :
    m.toList ~ (k, v) :: (m.erase k).toList := by
  have hfresh : (k, v) ∉ (m.erase k).toList := by
    rw [TreeMap.mem_toList_iff_getElem?_eq_some, TreeMap.getElem?_erase_self]
    simp
  rw [List.perm_ext_iff_of_nodup (nodup_toList m)
    (List.nodup_cons.mpr ⟨hfresh, nodup_toList _⟩)]
  rintro ⟨k', v'⟩
  rw [List.mem_cons, TreeMap.mem_toList_iff_getElem?_eq_some,
    TreeMap.mem_toList_iff_getElem?_eq_some, TreeMap.getElem?_erase]
  by_cases hk : cmp k k' = .eq
  · obtain rfl := LawfulEqCmp.compare_eq_iff_eq.mp hk
    simp [h, eq_comm]
  · have hne : k' ≠ k := fun he => hk (by rw [he]; exact ReflCmp.compare_self)
    simp [hk, hne]

/-- Erasing a key that is not there changes nothing. -/
theorem toList_erase_perm_of_none {m : TreeMap κ V cmp} {k : κ} (h : m[k]? = none) :
    (m.erase k).toList ~ m.toList := by
  rw [List.perm_ext_iff_of_nodup (nodup_toList _) (nodup_toList m)]
  rintro ⟨k', v'⟩
  rw [TreeMap.mem_toList_iff_getElem?_eq_some, TreeMap.mem_toList_iff_getElem?_eq_some,
    TreeMap.getElem?_erase]
  by_cases hk : cmp k k' = .eq
  · obtain rfl := LawfulEqCmp.compare_eq_iff_eq.mp hk
    simp [h]
  · simp [hk]

/-- An insertion replaces the entry of its key. -/
theorem toList_insert_perm_erase (m : TreeMap κ V cmp) (k : κ) (v : V) :
    (m.insert k v).toList ~ (k, v) :: (m.erase k).toList := by
  refine (toList_perm_of_getElem? (TreeMap.getElem?_insert_self)).trans (.cons _ ?_)
  rw [List.perm_ext_iff_of_nodup (nodup_toList _) (nodup_toList _)]
  rintro ⟨k', v'⟩
  simp only [TreeMap.mem_toList_iff_getElem?_eq_some, TreeMap.getElem?_erase,
    TreeMap.getElem?_insert]
  by_cases hk : cmp k k' = .eq <;> simp [hk]

theorem collect_of_getElem? (f : V → List β) {m : TreeMap κ V cmp} {k : κ} {v : V}
    (h : m[k]? = some v) : collect f m ~ f v ++ collect f (m.erase k) :=
  (toList_perm_of_getElem? h).flatMap_right _

theorem collect_erase_of_none (f : V → List β) {m : TreeMap κ V cmp} {k : κ}
    (h : m[k]? = none) : collect f (m.erase k) ~ collect f m :=
  (toList_erase_perm_of_none h).flatMap_right _

theorem collect_insert (f : V → List β) (m : TreeMap κ V cmp) (k : κ) (v : V) :
    collect f (m.insert k v) ~ f v ++ collect f (m.erase k) :=
  (toList_insert_perm_erase m k v).flatMap_right _

/-- A value that is exchanged for one that, with `given`, owns the same. -/
theorem collect_insert_exchange (f : V → List β) {m : TreeMap κ V cmp} {k : κ} {v v' : V}
    {given : List β} (h : m[k]? = some v) (hexchange : f v' ++ given = f v) :
    collect f (m.insert k v') ++ given ~ collect f m :=
  calc
    collect f (m.insert k v') ++ given
      ~ (f v' ++ collect f (m.erase k)) ++ given := (collect_insert f m k v').append_right _
    _ ~ (f v' ++ given) ++ collect f (m.erase k) := by
        rw [List.append_assoc, List.append_assoc]
        exact List.perm_append_comm.append_left _
    _ ~ collect f m := by
        rw [hexchange]
        exact (collect_of_getElem? f h).symm

/-- A fresh entry adds what it owns. -/
theorem collect_insert_fresh (f : V → List β) {m : TreeMap κ V cmp} {k : κ} (v : V)
    (h : m[k]? = none) : collect f (m.insert k v) ~ f v ++ collect f m :=
  (collect_insert f m k v).trans ((collect_erase_of_none f h).append_left _)

/-- A map with an entry counts that entry and the map without it. -/
theorem countValues_of_getElem? (p : V → Bool) {m : TreeMap κ V cmp} {k : κ} {v : V}
    (h : m[k]? = some v) :
    countValues p m = countValues p (m.erase k) + if p v = true then 1 else 0 := by
  rw [countValues, (toList_perm_of_getElem? h).countP_eq, List.countP_cons]
  rfl

theorem countValues_erase_of_none (p : V → Bool) {m : TreeMap κ V cmp} {k : κ}
    (h : m[k]? = none) : countValues p (m.erase k) = countValues p m :=
  (toList_erase_perm_of_none h).countP_eq _

theorem countValues_insert (p : V → Bool) (m : TreeMap κ V cmp) (k : κ) (v : V) :
    countValues p (m.insert k v)
      = countValues p (m.erase k) + if p v = true then 1 else 0 := by
  rw [countValues, (toList_insert_perm_erase m k v).countP_eq, List.countP_cons]
  rfl

end Lib
