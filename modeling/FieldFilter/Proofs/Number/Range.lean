import Mathlib.Algebra.Order.Ring.Nat
import FieldFilter.Number.Binary64

/-!
# FieldFilter.Proofs.Number.Range — the integers that doubles reach

A double is near an integer just if its magnitude is below `Binary64.intLimit`: half a step past the largest
double, where the tie goes to the even neighbour, which is out of range (`ofInt?_eq_none_iff`).
-/

namespace FieldFilter.Binary64

/-- The least magnitude of an integer that no double is near. -/
def intLimit : Nat := 2 ^ 1024 - 2 ^ 970

/-- Rounding reaches an even number from half a step below it. -/
theorem le_roundDiv_iff {a b k : Nat} (hb : 0 < b) (hk : k % 2 = 0) :
    k ≤ roundDiv a b ↔ 2 * (k * b) ≤ 2 * a + b := by
  have hdiv : b * (a / b) + a % b = a := Nat.div_add_mod a b
  have hmod : a % b < b := Nat.mod_lt a hb
  simp only [roundDiv]
  generalize a / b = q at *
  generalize a % b = r at *
  rcases Nat.lt_trichotomy k (q + 1) with hlt | rfl | hgt
  · have hkq : k * b ≤ b * q := by rw [Nat.mul_comm b]; exact Nat.mul_le_mul_right b (by omega)
    split <;> constructor <;> intro <;> omega
  · have hkq : (q + 1) * b = b * q + b := by rw [Nat.mul_comm, Nat.mul_succ]
    split <;> constructor <;> intro <;> omega
  · have hkq : b * q + 2 * b ≤ k * b := by
      rw [Nat.mul_comm b, ← Nat.add_mul]
      exact Nat.mul_le_mul_right b hgt
    split <;> constructor <;> intro <;> omega

theorem div_le_roundDiv (a b : Nat) : a / b ≤ roundDiv a b := by
  simp only [roundDiv]
  split <;> omega

/-- Rounding to multiples of a smaller power of two reaches a power of two from half a step below it. -/
theorem two_pow_le_roundDiv_mul_iff {a j m : Nat} (hj : j < m) :
    2 ^ m ≤ roundDiv a (2 ^ j) * 2 ^ j ↔ 2 * 2 ^ m ≤ 2 * a + 2 ^ j := by
  have hm : 2 ^ m = 2 ^ (m - j) * 2 ^ j := by rw [← Nat.pow_add]; congr 1; omega
  have heven : 2 ^ (m - j) % 2 = 0 := by
    rw [show m - j = (m - j - 1) + 1 by omega, Nat.pow_succ, Nat.mul_mod_left]
  rw [hm, Nat.mul_le_mul_right_iff (Nat.two_pow_pos j), le_roundDiv_iff (Nat.two_pow_pos j) heven]

/-- Rounding to 53 significant bits reaches a power of two from half a step below it. -/
theorem two_pow_le_rounded_iff (a n : Nat) :
    2 ^ (n + 54) ≤ roundDiv a (2 ^ (a.log2 - 52)) * 2 ^ (a.log2 - 52) ↔ 2 ^ (n + 54) ≤ a + 2 ^ n := by
  have hn : 2 ^ (n + 54) = 2 ^ n * 2 ^ 54 := Nat.pow_add ..
  have hn' : 2 ^ (n + 53) = 2 ^ n * 2 ^ 53 := Nat.pow_add ..
  rcases Nat.lt_or_ge a (2 ^ (n + 54)) with hlt | hge
  · have hlog : a.log2 < n + 54 := by
      rcases Nat.eq_zero_or_pos a with rfl | hpos
      · simp
      · exact (Nat.log2_lt (Nat.ne_of_gt hpos)).mpr hlt
    rw [two_pow_le_roundDiv_mul_iff (by omega)]
    rcases Nat.lt_or_ge a (2 ^ (n + 53)) with hlt' | hge'
    · have hstep : 2 ^ (a.log2 - 52) ≤ 2 ^ (n + 1) := Nat.pow_le_pow_right (by omega) (by omega)
      rw [Nat.pow_succ] at hstep
      constructor <;> intro <;> omega
    · have hlog' : a.log2 = n + 53 := by
        have := (Nat.le_log2 (by omega)).mpr hge'
        omega
      have hstep : 2 ^ (a.log2 - 52) = 2 ^ n * 2 := by rw [hlog']; rfl
      constructor <;> intro <;> omega
  · have ha : a ≠ 0 := by have := Nat.two_pow_pos (n + 54); omega
    have hlog : n + 54 ≤ a.log2 := (Nat.le_log2 ha).mpr hge
    have hsplit : 2 ^ a.log2 = 2 ^ 52 * 2 ^ (a.log2 - 52) := by
      rw [← Nat.pow_add, Nat.add_sub_cancel' (by omega)]
    have hquot : 2 ^ 52 ≤ a / 2 ^ (a.log2 - 52) := by
      rw [Nat.le_div_iff_mul_le (Nat.two_pow_pos _), ← hsplit]
      exact Nat.log2_self_le ha
    refine ⟨fun _ => Nat.le_add_right_of_le hge, fun _ => ?_⟩
    calc 2 ^ (n + 54) ≤ 2 ^ a.log2 := Nat.pow_le_pow_right (by omega) hlog
      _ = 2 ^ 52 * 2 ^ (a.log2 - 52) := hsplit
      _ ≤ roundDiv a (2 ^ (a.log2 - 52)) * 2 ^ (a.log2 - 52) :=
        Nat.mul_le_mul_right _ (Nat.le_trans hquot (div_le_roundDiv ..))

/-- The bound for a number that is counted in a smaller power of two. -/
theorem two_pow_le_mul_add_iff (num n e : Nat) :
    2 ^ (n + e + 54) ≤ num * 2 ^ e + 2 ^ (n + e) ↔ 2 ^ (n + 54) - 2 ^ n ≤ num := by
  rw [show n + e + 54 = (n + 54) + e by omega, Nat.pow_add 2 (n + 54), Nat.pow_add 2 n e, ← Nat.add_mul,
    Nat.mul_le_mul_right_iff (Nat.two_pow_pos e), Nat.sub_le_iff_le_add]

theorem unitsLimit_le_roundUnits_iff (num : Nat) : unitsLimit ≤ roundUnits num 1 ↔ intLimit ≤ num := by
  have hlimit : unitsLimit = 2 ^ (970 + 1074 + 54) := by decide +kernel
  have hone : unitsPerOne = 2 ^ 1074 := by decide +kernel
  have hint : intLimit = 2 ^ (970 + 54) - 2 ^ 970 := by decide +kernel
  simp only [roundUnits, Nat.div_one, Nat.one_mul, Nat.pow_eq]
  rw [hlimit, hint, two_pow_le_rounded_iff _ (970 + 1074), hone]
  exact two_pow_le_mul_add_iff num 970 1074

/-- **No double is near an integer** just if its magnitude reaches the limit. -/
theorem ofInt?_eq_none_iff (n : Int) : ofInt? n = none ↔ intLimit ≤ n.natAbs := by
  rw [← unitsLimit_le_roundUnits_iff, ofInt?, Option.map_eq_none_iff, nearestUnits?]
  split
  · case isTrue hlt => exact iff_of_false (by simp) (Nat.not_le.mpr hlt)
  · case isFalse hge => exact iff_of_true rfl (Nat.not_lt.mp hge)

end FieldFilter.Binary64
