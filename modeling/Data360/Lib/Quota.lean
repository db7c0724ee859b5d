import Mathlib.Algebra.Group.Nat.Defs

/-!
# Quotas in 64-bit words

A counter that may not pass its limit, both 64-bit words.  `left limit used` is
the usual way to write what is left without wrapping below zero.

* `toNat_left` says that it is the truncated difference of the numbers.
* An amount that fits in what is left can be added (`toNat_add`) and keeps the
  counter within its limit (`add_le`); so can a product that was checked by a
  division (`toNat_mul`).
-/

namespace Lib.Quota

/-- `limit - std::min(used, limit)`. -/
def left (limit used : UInt64) : UInt64 := limit - min used limit

variable {limit used : UInt64}

theorem toNat_left (limit used : UInt64) :
    (left limit used).toNat = limit.toNat - used.toNat := by
  have hmin : min used limit = if used ≤ limit then used else limit := rfl
  rw [left, hmin]
  split
  · rename_i hle
    exact UInt64.toNat_sub_of_le _ _ hle
  · rename_i hmore
    rw [UInt64.toNat_sub_of_le _ _ (UInt64.le_refl limit)]
    have := UInt64.lt_iff_toNat_lt.mp (UInt64.not_le.mp hmore)
    omega

/-- What fits in the rest of a quota is smaller than a word. -/
theorem lt_size_of_le_left {n : Nat} (h : n ≤ (left limit used).toNat) :
    used.toNat + n < 2 ^ 64 := by
  rw [toNat_left] at h
  have hlimit := limit.toNat_lt
  have hused := used.toNat_lt
  omega

/-- Adding it does not wrap. -/
theorem toNat_add {n : Nat} (h : n ≤ (left limit used).toNat) :
    (used + UInt64.ofNat n).toNat = used.toNat + n := by
  have hsum := lt_size_of_le_left h
  have hn : n < UInt64.size := by
    show n < 2 ^ 64
    omega
  rw [UInt64.toNat_add, UInt64.toNat_ofNat_of_lt' hn, Nat.mod_eq_of_lt hsum]

theorem toNat_add_word {added : UInt64} (h : added.toNat ≤ (left limit used).toNat) :
    (used + added).toNat = used.toNat + added.toNat := by
  have hsum := toNat_add h
  rwa [UInt64.ofNat_toNat] at hsum

/-- A counter below a limit can be increased. -/
theorem toNat_succ (h : used < limit) : (used + 1).toNat = used.toNat + 1 := by
  have hlt := UInt64.lt_iff_toNat_lt.mp h
  have hlimit := limit.toNat_lt
  have hone : (1 : UInt64).toNat = 1 := rfl
  rw [UInt64.toNat_add, hone, Nat.mod_eq_of_lt (by omega)]

/-- It stays within the limit. -/
theorem add_le {n : Nat} (h : n ≤ (left limit used).toNat) (hused : used ≤ limit) :
    used + UInt64.ofNat n ≤ limit := by
  rw [UInt64.le_iff_toNat_le, toNat_add h]
  rw [UInt64.le_iff_toNat_le] at hused
  rw [toNat_left] at h
  omega

/-- The check of a product by a division. -/
theorem mul_le_left_iff {count width : Nat} :
    (width ≠ 0 → count ≤ (left limit used).toNat / width) ↔
      count * width ≤ (left limit used).toNat := by
  by_cases hwidth : width = 0
  · simp [hwidth]
  · have hdiv := Nat.le_div_iff_mul_le (x := count) (y := (left limit used).toNat)
      (Nat.pos_of_ne_zero hwidth)
    exact ⟨fun h => hdiv.mp (h hwidth), fun h _ => hdiv.mpr h⟩

/-- A product that fits does not wrap. -/
theorem toNat_mul {count : UInt64} {width : Nat}
    (h : count.toNat * width ≤ (left limit used).toNat) :
    (count * UInt64.ofNat width).toNat = count.toNat * width := by
  have hsmall : count.toNat * width < 2 ^ 64 :=
    Nat.lt_of_le_of_lt h (left limit used).toNat_lt
  have heq : count * UInt64.ofNat width = UInt64.ofNat (count.toNat * width) := by
    rw [UInt64.ofNat_mul, UInt64.ofNat_toNat]
  rw [heq]
  exact UInt64.toNat_ofNat_of_lt' hsmall

end Lib.Quota
