import Mathlib.Order.Monotone.Basic
import QuietBox.Proofs.Double.Nearest

/-!
The shortest decimal lies between the midpoints. Every grid point that the search takes does, and on
the last grid lies the value itself, so the search cannot end outside; hence the decimal rounds back
to the magnitude it was made for.
-/

set_option autoImplicit false

namespace QuietBox.Double

/-- Values grow with magnitudes. -/
theorem magnitudeValue_lt_succ (m : Nat) : magnitudeValue m < magnitudeValue (m + 1) := by
  obtain ⟨e, k, rfl, lt, counts⟩ := exists_counts m
  have next : Counts e (k + 1) := ⟨lt, counts.normal.imp_right fun le => by omega⟩
  have unit := two_zpow_pos ((e : Int) - 1074)
  rw [magnitudeValue_eq counts, Nat.add_assoc, magnitudeValue_eq next]
  push_cast
  linarith

theorem strictMono_magnitudeValue : StrictMono magnitudeValue :=
  strictMono_nat_of_lt_succ magnitudeValue_lt_succ

theorem magnitudeValue_zero : magnitudeValue 0 = 0 := by
  simp [magnitudeValue, significand]

/-- A positive value lies between its own midpoints. -/
theorem contains_magnitudeValue {m : Nat} (positive : 0 < m) :
    (roundingInterval m).contains (magnitudeValue m) := by
  have below : magnitudeValue (m - 1) < magnitudeValue m := by
    have := magnitudeValue_lt_succ (m - 1)
    rwa [Nat.sub_add_cancel positive] at this
  have above := magnitudeValue_lt_succ m
  apply (contains_iff _ _).mpr
  left
  constructor <;> simp only [roundingInterval] <;> linarith

/-- The grid at which the search ends has the value as a point: two to a negative power is a
multiple of ten to that power. -/
theorem exists_grid_value (m : Nat) :
    ∃ n : Nat, magnitudeValue m = n * power 10 (min (exponent m) 0) := by
  rw [magnitudeValue, power_eq_zpow, power_eq_zpow, Nat.cast_ofNat, Nat.cast_ofNat]
  by_cases large : 0 ≤ exponent m
  · obtain ⟨n, same⟩ := Int.eq_ofNat_of_zero_le large
    refine ⟨significand m * 2 ^ n, ?_⟩
    rw [same, min_eq_right (by omega), zpow_zero, zpow_natCast]
    push_cast
    ring
  · obtain ⟨n, same⟩ := Int.eq_ofNat_of_zero_le (show 0 ≤ -exponent m by omega)
    refine ⟨significand m * 5 ^ n, ?_⟩
    have negative : exponent m = -(n : Int) := by omega
    rw [negative, min_eq_left (by omega), zpow_neg, zpow_neg, zpow_natCast, zpow_natCast,
      show (10 : ℚ) = 5 * 2 by norm_num, mul_pow]
    push_cast
    field_simp

/-- A grid point that is taken lies in the interval. -/
theorem contains_of_gridPoint? {i : Interval} {value : ℚ} {k : Int} {n : Nat}
    (h : gridPoint? i value k = some n) : i.contains (Decimal.value ⟨n, k⟩) := by
  simp only [gridPoint?] at h
  split at h
  · rename_i lower
    cases h
    exact (Bool.and_eq_true_iff.mp lower).1
  · split at h
    · rename_i upper
      cases h
      exact upper
    · cases h

/-- If the last point lies in the interval, so does what the search finds. -/
theorem contains_searchGrids {i : Interval} {value : ℚ} {bottom : Int}
    (last : i.contains (Decimal.value ⟨(value / power 10 bottom).floor.toNat, bottom⟩)) (n : Nat) :
    i.contains (searchGrids i value bottom n).value := by
  induction n with
  | zero => exact last
  | succ n ih =>
    unfold searchGrids
    split
    · rename_i found
      exact contains_of_gridPoint? found
    · exact ih

/-- The shortest decimal of a magnitude rounds to it. -/
theorem contains_shortest {m : Nat} (positive : 0 < m) :
    (roundingInterval m).contains (shortest m).value := by
  apply contains_searchGrids
  obtain ⟨n, same⟩ := exists_grid_value m
  have grid : power 10 (min (exponent m) 0) ≠ 0 := by
    rw [power_eq_zpow]
    exact (ten_zpow_pos _).ne'
  have point : (magnitudeValue m / power 10 (min (exponent m) 0)).floor.toNat = n := by
    rw [same, mul_div_cancel_right₀ _ grid, ← Rat.intCast_natCast, Rat.floor_intCast,
      Int.toNat_natCast]
  rw [point, Decimal.value, ← same]
  exact contains_magnitudeValue positive

theorem nearestMagnitude_shortest {m : Nat} (positive : 0 < m) (finite : m < infinityMagnitude) :
    nearestMagnitude (shortest m).value = m :=
  nearestMagnitude_of_contains positive finite (contains_shortest positive)

end QuietBox.Double
