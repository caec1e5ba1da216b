import Mathlib.Algebra.Order.Ring.Int
import FieldFilter.Proofs.Number.Range

/-!
# FieldFilter.Proofs.Number.Exact — the integers that are doubles

An integer is a double just if it is in range and has at most 53 significant bits (`Exact`); it is then the
double nearest to itself.  The double nearest to any other integer in range is an integer too, but another one
(`toInt?_of_ofInt?`).
-/

namespace FieldFilter.Binary64

variable {a b num : Nat} {n : Int} {x : Binary64}

/-! ### Significant bits -/

/-- The number has at most 53 significant bits: what is past them is zero. -/
def Short (num : Nat) : Prop := ∃ m k, m < 2 ^ 53 ∧ num = m * 2 ^ k

theorem log2_mul_two_pow (hnum : num ≠ 0) (k : Nat) : (num * 2 ^ k).log2 = num.log2 + k := by
  have hne : num * 2 ^ k ≠ 0 := Nat.mul_ne_zero hnum (Nat.two_pow_pos k).ne'
  refine (Nat.log2_eq_iff hne).mpr ⟨?_, ?_⟩
  · rw [Nat.pow_add]
    exact Nat.mul_le_mul_right _ (Nat.log2_self_le hnum)
  · rw [show num.log2 + k + 1 = (num.log2 + 1) + k by omega, Nat.pow_add]
    exact Nat.mul_lt_mul_of_pos_right Nat.lt_log2_self (Nat.two_pow_pos k)

/-- The spacing of doubles divides just the numbers with so few bits. -/
theorem spacing_dvd_iff : 2 ^ (num.log2 - 52) ∣ num ↔ Short num := by
  constructor
  · rintro ⟨m, hm⟩
    have hbound : num < 2 ^ (num.log2 - 52) * 2 ^ 53 := by
      rw [← Nat.pow_add]
      exact Nat.lt_of_lt_of_le Nat.lt_log2_self (Nat.pow_le_pow_right (by omega) (by omega))
    refine ⟨m, num.log2 - 52, ?_, by rw [Nat.mul_comm]; exact hm⟩
    refine Nat.lt_of_mul_lt_mul_left (a := 2 ^ (num.log2 - 52)) ?_
    rw [← hm]
    exact hbound
  · rintro ⟨m, k, hm, hnum⟩
    rcases Nat.eq_zero_or_pos m with rfl | hpos
    · rw [hnum, Nat.zero_mul]
      exact Nat.dvd_zero _
    have hlog : m.log2 < 53 := (Nat.log2_lt hpos.ne').mpr hm
    have hsum : num.log2 = m.log2 + k := by rw [hnum, log2_mul_two_pow hpos.ne']
    have hpow : 2 ^ (num.log2 - 52) ∣ 2 ^ k := Nat.pow_dvd_pow 2 (by omega)
    rw [hnum] at hpow ⊢
    exact Nat.dvd_trans hpow (Nat.dvd_mul_left _ m)

/-- Counting in smaller units keeps the bits. -/
theorem short_mul_two_pow_iff (num e : Nat) : Short (num * 2 ^ e) ↔ Short num := by
  constructor
  · rintro ⟨m, k, hm, hnum⟩
    rcases Nat.le_total e k with hle | hle
    · refine ⟨m, k - e, hm, Nat.eq_of_mul_eq_mul_right (Nat.two_pow_pos e) ?_⟩
      rw [hnum, Nat.mul_assoc, ← Nat.pow_add, Nat.sub_add_cancel hle]
    · have hm' : num * 2 ^ (e - k) = m := by
        refine Nat.eq_of_mul_eq_mul_right (Nat.two_pow_pos k) ?_
        rw [← hnum, Nat.mul_assoc, ← Nat.pow_add, Nat.sub_add_cancel hle]
      have hsmall : num ≤ m := hm' ▸ Nat.le_mul_of_pos_right num (Nat.two_pow_pos _)
      exact ⟨num, 0, by omega, by simp⟩
  · rintro ⟨m, k, hm, rfl⟩
    exact ⟨m, k + e, hm, by rw [Nat.pow_add, Nat.mul_assoc]⟩

/-! ### Rounding -/

/-- Rounding leaves what is a multiple already, and nothing else. -/
theorem roundDiv_mul_eq_iff (hb : 0 < b) : roundDiv a b * b = a ↔ b ∣ a := by
  refine ⟨fun h => ⟨roundDiv a b, by rw [Nat.mul_comm]; exact h.symm⟩, ?_⟩
  rintro ⟨k, rfl⟩
  have hdiv : b * k / b = k := Nat.mul_div_cancel_left k hb
  have hmod : b * k % b = 0 := Nat.mul_mod_right b k
  have hround : roundDiv (b * k) b = k := by
    simp only [roundDiv, hdiv, hmod]
    rw [if_neg (by omega)]
  rw [hround, Nat.mul_comm]

/-- Rounding to 53 significant bits leaves whole multiples of a unit whole. -/
theorem two_pow_dvd_rounded (num e : Nat) :
    2 ^ e ∣ roundDiv (num * 2 ^ e) (2 ^ ((num * 2 ^ e).log2 - 52)) * 2 ^ ((num * 2 ^ e).log2 - 52) := by
  rcases Nat.le_total e ((num * 2 ^ e).log2 - 52) with hle | hle
  · exact Nat.dvd_trans (Nat.pow_dvd_pow 2 hle) (Nat.dvd_mul_left _ _)
  · have hspacing : 2 ^ ((num * 2 ^ e).log2 - 52) ∣ num * 2 ^ e :=
      Nat.dvd_trans (Nat.pow_dvd_pow 2 hle) (Nat.dvd_mul_left _ num)
    rw [(roundDiv_mul_eq_iff (Nat.two_pow_pos _)).mpr hspacing]
    exact Nat.dvd_mul_left _ num

theorem unitsPerOne_eq : unitsPerOne = 2 ^ 1074 := by decide +kernel

theorem roundUnits_eq (num : Nat) : roundUnits num 1 =
    roundDiv (num * unitsPerOne) (2 ^ ((num * unitsPerOne).log2 - 52)) *
      2 ^ ((num * unitsPerOne).log2 - 52) := by
  simp only [roundUnits, Nat.div_one, Nat.one_mul, Nat.pow_eq]

theorem unitsPerOne_dvd_roundUnits (num : Nat) : unitsPerOne ∣ roundUnits num 1 := by
  rw [roundUnits_eq, unitsPerOne_eq]
  exact two_pow_dvd_rounded num 1074

/-- A whole number is rounded to itself just if it has so few bits. -/
theorem roundUnits_eq_iff (num : Nat) : roundUnits num 1 = num * unitsPerOne ↔ Short num := by
  rw [roundUnits_eq, roundDiv_mul_eq_iff (Nat.two_pow_pos _), spacing_dvd_iff, unitsPerOne_eq,
    short_mul_two_pow_iff]

/-! ### Integers -/

/-- The integer is a double. -/
def Exact (n : Int) : Prop := Short n.natAbs ∧ n.natAbs < intLimit

/-- Up to `2 ^ 53` every integer is a double. -/
theorem exact_of_le (h : n.natAbs ≤ 2 ^ 53) : Exact n := by
  have hlimit : 2 ^ 53 < intLimit := by decide +kernel
  refine ⟨?_, by omega⟩
  rcases Nat.lt_or_ge n.natAbs (2 ^ 53) with hlt | hge
  · exact ⟨n.natAbs, 0, hlt, by simp⟩
  · exact ⟨1, 53, by decide, by omega⟩

theorem ofInt?_eq_some_iff : ofInt? n = some x ↔
    n.natAbs < intLimit ∧ x = .finite (n < 0) (roundUnits n.natAbs 1) := by
  rw [← Nat.not_le, ← ofInt?_eq_none_iff]
  unfold ofInt? nearestUnits?
  simp only
  split <;> simp [eq_comm]

/-- The integer that a whole count of units is. -/
theorem toInt?_finite (negative : Bool) (num : Nat) : toInt? (.finite negative (num * unitsPerOne)) =
    some (if negative then -(num : Int) else num) := by
  have hpos : 0 < unitsPerOne := by decide +kernel
  simp only [toInt?, Nat.mul_mod_left, Nat.mul_div_cancel _ hpos, if_true]

/-- **The double nearest to an integer** is an integer, and it is that one just if that has at most 53 significant
bits. -/
theorem toInt?_of_ofInt? (h : ofInt? n = some x) : ∃ m, x.toInt? = some m ∧ (m = n ↔ Exact n) := by
  obtain ⟨hlimit, rfl⟩ := ofInt?_eq_some_iff.mp h
  obtain ⟨k, hk⟩ := unitsPerOne_dvd_roundUnits n.natAbs
  have hpos : 0 < unitsPerOne := by decide +kernel
  have hshort : k = n.natAbs ↔ Short n.natAbs := by
    rw [← roundUnits_eq_iff, hk, Nat.mul_comm, Nat.mul_right_cancel_iff hpos]
  refine ⟨_, by rw [hk, Nat.mul_comm, toInt?_finite], ?_⟩
  rw [Exact, and_iff_left hlimit, ← hshort]
  by_cases hneg : n < 0
  · simp only [hneg, decide_true, if_true]
    omega
  · simp only [hneg, decide_false, Bool.false_eq_true, if_false]
    omega

end FieldFilter.Binary64
