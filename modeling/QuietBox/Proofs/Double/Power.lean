import Mathlib.Algebra.Order.Field.Power
import Mathlib.Data.Int.Log
import Mathlib.Data.Rat.Floor
import Mathlib.Tactic.FieldSimp
import Mathlib.Tactic.Linarith
import Mathlib.Tactic.Positivity
import Mathlib.Tactic.Ring
import QuietBox.Double.Rounding

/-!
Powers with integer exponents and the binary logarithm. `power` is the usual power of rationals and
`floorLog2` is the logarithm rounded down, so the laws of both are at hand.
-/

set_option autoImplicit false

namespace QuietBox

theorem power_eq_zpow (base : Nat) (n : Int) : power base n = (base : ℚ) ^ n := by
  cases n with
  | ofNat n =>
    rw [power, Rat.mkRat_eq_div, Nat.pow_eq, Int.ofNat_eq_natCast, zpow_natCast]
    push_cast
    exact div_one ((base : ℚ) ^ n)
  | negSucc n =>
    rw [power, Rat.mkRat_eq_div, Nat.pow_eq, zpow_negSucc]
    push_cast
    exact one_div ((base : ℚ) ^ (n + 1))

theorem two_zpow_pos (n : Int) : (0 : ℚ) < 2 ^ n := zpow_pos (by norm_num) n

theorem ten_zpow_pos (n : Int) : (0 : ℚ) < 10 ^ n := zpow_pos (by norm_num) n

theorem two_zpow_succ (n : Int) : (2 : ℚ) ^ (n + 1) = 2 * 2 ^ n := by
  rw [zpow_add_one₀ (by norm_num), mul_comm]

/-- A natural number lies between the powers that its bit length says. -/
private theorem log2_bounds {n : Nat} (h : n ≠ 0) :
    (2 : ℚ) ^ (n.log2 : Int) ≤ n ∧ (n : ℚ) < 2 ^ ((n.log2 : Int) + 1) := by
  constructor
  · rw [zpow_natCast]
    exact_mod_cast Nat.log2_self_le h
  · rw [show (n.log2 : Int) + 1 = ((n.log2 + 1 : Nat) : Int) by push_cast; rfl, zpow_natCast]
    exact_mod_cast Nat.lt_log2_self

/-- The estimate from the bit lengths of numerator and denominator is at most one too large. -/
private theorem estimate_bounds {r : ℚ} (h : 0 < r) :
    (2 : ℚ) ^ ((r.num.natAbs.log2 : Int) - r.den.log2 - 1) ≤ r ∧
      r < 2 ^ ((r.num.natAbs.log2 : Int) - r.den.log2 + 1) := by
  have num : r.num.natAbs ≠ 0 := by
    have := Rat.num_pos.mpr h
    omega
  have quotient : r = r.num.natAbs / r.den := by
    have positive : ((r.num.natAbs : Int) : ℚ) = r.num := by
      rw [Int.natAbs_of_nonneg (Rat.num_nonneg.mpr h.le)]
    rw [← Int.cast_natCast, positive, Rat.num_div_den]
  obtain ⟨numLow, numHigh⟩ := log2_bounds num
  obtain ⟨denLow, denHigh⟩ := log2_bounds r.den_nz
  have den : (0 : ℚ) < r.den := by exact_mod_cast r.den_pos
  generalize (r.num.natAbs.log2 : Int) = a at *
  generalize (r.den.log2 : Int) = b at *
  constructor
  · calc (2 : ℚ) ^ (a - b - 1) = 2 ^ a / 2 ^ (b + 1) := by
          rw [← zpow_sub₀ (by norm_num)]
          congr 1
          ring
      _ ≤ r.num.natAbs / r.den := by gcongr
      _ = r := quotient.symm
  · calc r = r.num.natAbs / r.den := quotient
      _ < 2 ^ (a + 1) / 2 ^ b := by gcongr
      _ = 2 ^ (a - b + 1) := by
          rw [← zpow_sub₀ (by norm_num)]
          congr 1
          ring

/-- The logarithm is rounded down. -/
theorem floorLog2_bounds {r : ℚ} (h : 0 < r) :
    (2 : ℚ) ^ floorLog2 r ≤ r ∧ r < 2 ^ (floorLog2 r + 1) := by
  obtain ⟨low, high⟩ := estimate_bounds h
  simp only [floorLog2, power_eq_zpow, Nat.cast_ofNat]
  split
  · exact ⟨by assumption, high⟩
  · refine ⟨low, ?_⟩
    rw [sub_add_cancel]
    exact lt_of_not_ge (by assumption)

theorem floorLog2_eq {r : ℚ} {e : Int} (low : (2 : ℚ) ^ e ≤ r) (high : r < 2 ^ (e + 1)) :
    floorLog2 r = e := by
  obtain ⟨floor, ceiling⟩ := floorLog2_bounds (lt_of_lt_of_le (two_zpow_pos e) low)
  have below : floorLog2 r < e + 1 :=
    (zpow_lt_zpow_iff_right₀ (by norm_num : (1 : ℚ) < 2)).mp (lt_of_le_of_lt floor high)
  have above : e < floorLog2 r + 1 :=
    (zpow_lt_zpow_iff_right₀ (by norm_num : (1 : ℚ) < 2)).mp (lt_of_le_of_lt low ceiling)
  omega

/-- Below a power of two the logarithm is below its exponent. -/
theorem floorLog2_lt {r : ℚ} {e : Int} (positive : 0 < r) (high : r < 2 ^ e) :
    floorLog2 r < e :=
  (zpow_lt_zpow_iff_right₀ (by norm_num : (1 : ℚ) < 2)).mp
    (lt_of_le_of_lt (floorLog2_bounds positive).1 high)

end QuietBox
