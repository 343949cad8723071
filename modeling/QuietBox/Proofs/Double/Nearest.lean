import QuietBox.Double.Shortest
import QuietBox.Proofs.Double.Power

/-!
Rounding to the nearest double. A magnitude counts units: it is `e * 2^52 + k` where the unit is
2^(e - 1074) and `k` is its significand, and its value is `k` units. Between the midpoints to the
neighbours rounding gives the magnitude back; below a power of two the unit is half as large, so the
lower midpoint is nearer there and rounding counts in the smaller unit.
-/

set_option autoImplicit false

namespace QuietBox

/-- A rational within half of a natural number rounds to it, from a distance of exactly a half only
if the number is even. -/
theorem roundHalfEven_eq {x : ℚ} {k : Nat} (low : (k : ℚ) - 1 / 2 ≤ x) (high : x ≤ k + 1 / 2)
    (tie : x = k - 1 / 2 ∨ x = k + 1 / 2 → k % 2 = 0) : roundHalfEven x = k := by
  simp only [roundHalfEven]
  by_cases above : (k : ℚ) ≤ x
  · have floor : x.floor = k := by
      have atLeast : (k : Int) ≤ x.floor := Rat.le_floor_iff.mpr (by exact_mod_cast above)
      have below : x.floor < (k : Int) + 1 := Rat.floor_lt_iff.mpr (by push_cast; linarith)
      omega
    rw [floor, Int.toNat_natCast, if_pos]
    rcases lt_or_eq_of_le high with inside | middle
    · exact Or.inl (by linarith)
    · exact Or.inr ⟨by linarith, tie (Or.inr middle)⟩
  · have floor : x.floor = (k : Int) - 1 := by
      have atLeast : (k : Int) - 1 ≤ x.floor := Rat.le_floor_iff.mpr (by push_cast; linarith)
      have below : x.floor < (k : Int) := Rat.floor_lt_iff.mpr (by push_cast; linarith)
      omega
    rw [floor]
    cases k with
    | zero =>
      have negative : x < 0 := by simpa using above
      rw [show (((0 : Nat) : Int) - 1).toNat = 0 by rfl, if_pos]
      exact Or.inl (by push_cast; linarith)
    | succ j =>
      have toNat : (((j + 1 : Nat) : Int) - 1).toNat = j := by omega
      push_cast at low tie above
      rw [toNat, if_neg]
      rintro (inside | ⟨middle, even⟩)
      · linarith
      · have := tie (Or.inl (by linarith))
        omega

namespace Double

/-- A significand of a unit: below 2^52 only in the smallest one. The upper bound is reached by
rounding up. -/
structure Counts (e k : Nat) : Prop where
  le : k ≤ 0x20000000000000
  normal : e = 0 ∨ 0x10000000000000 ≤ k

theorem exists_counts (m : Nat) :
    ∃ e k, m = e * 0x10000000000000 + k ∧ k < 0x20000000000000 ∧ Counts e k := by
  refine ⟨m / 0x10000000000000 - 1, m - (m / 0x10000000000000 - 1) * 0x10000000000000, ?_, ?_, ?_⟩
  · omega
  · omega
  · exact ⟨by omega, by omega⟩

/-- The value of a magnitude is its count of units. -/
theorem magnitudeValue_eq {e k : Nat} (h : Counts e k) :
    magnitudeValue (e * 0x10000000000000 + k) = k * (2 : ℚ) ^ ((e : Int) - 1074) := by
  obtain ⟨le, normal⟩ := h
  rw [magnitudeValue, power_eq_zpow, Nat.cast_ofNat]
  by_cases carried : k = 0x20000000000000
  · have significand : significand (e * 0x10000000000000 + k) = 0x10000000000000 := by
      unfold Double.significand
      split <;> omega
    have exponent : exponent (e * 0x10000000000000 + k) = (e : Int) - 1074 + 1 := by
      unfold Double.exponent
      omega
    rw [significand, exponent, carried, two_zpow_succ]
    push_cast
    ring
  · have significand : significand (e * 0x10000000000000 + k) = k := by
      unfold Double.significand
      split <;> omega
    have exponent : exponent (e * 0x10000000000000 + k) = (e : Int) - 1074 := by
      unfold Double.exponent
      omega
    rw [significand, exponent]

/-- As many units as the least normal significand make a power of two. -/
theorem normal_mul_unit (n : Int) :
    ((0x10000000000000 : Nat) : ℚ) * 2 ^ n = 2 ^ (n + 52) := by
  rw [zpow_add₀ (by norm_num)]
  push_cast
  ring

private theorem carry_mul_unit (n : Int) :
    ((0x20000000000000 : Nat) : ℚ) * 2 ^ n = 2 ^ (n + 52 + 1) := by
  rw [two_zpow_succ, ← normal_mul_unit]
  push_cast
  ring

/-- Near a number between two powers of two, rounding counts in the unit below the lower one. -/
theorem nearestMagnitude_eq {r : ℚ} {e k : Nat} (positive : 0 < r)
    (normal : e = 0 ∨ (0x10000000000000 : Nat) * (2 : ℚ) ^ ((e : Int) - 1074) ≤ r)
    (small : r < (0x20000000000000 : Nat) * (2 : ℚ) ^ ((e : Int) - 1074))
    (count : roundHalfEven (r / (2 : ℚ) ^ ((e : Int) - 1074)) = k) :
    nearestMagnitude r = min infinityMagnitude (e * 0x10000000000000 + k) := by
  have unit : unitExponent r = (e : Int) - 1074 := by
    rw [carry_mul_unit] at small
    unfold unitExponent
    rcases normal with rfl | normal
    · have := floorLog2_lt positive small
      omega
    · rw [normal_mul_unit] at normal
      rw [floorLog2_eq normal small]
      omega
  rw [nearestMagnitude, if_neg (not_le.mpr positive)]
  simp only [unit, power_eq_zpow, Nat.cast_ofNat, count]
  congr 3
  omega

section RoundingInterval

variable {e k : Nat}

theorem high_roundingInterval (h : Counts e k) (lt : k < 0x20000000000000) :
    (roundingInterval (e * 0x10000000000000 + k)).high =
      (k + 1 / 2) * (2 : ℚ) ^ ((e : Int) - 1074) := by
  have next : Counts e (k + 1) := ⟨lt, h.normal.imp_right fun le => by omega⟩
  rw [roundingInterval, magnitudeValue_eq h, Nat.add_assoc, magnitudeValue_eq next]
  push_cast
  ring

/-- Inside a binade the lower midpoint is half a unit below. -/
theorem low_roundingInterval (h : Counts e k) (positive : 0 < k)
    (inside : e = 0 ∨ 0x10000000000000 < k) :
    (roundingInterval (e * 0x10000000000000 + k)).low =
      (k - 1 / 2) * (2 : ℚ) ^ ((e : Int) - 1074) := by
  have le := h.le
  have previous : Counts e (k - 1) := ⟨by omega, by omega⟩
  rw [roundingInterval, magnitudeValue_eq h,
    show e * 0x10000000000000 + k - 1 = e * 0x10000000000000 + (k - 1) by omega,
    magnitudeValue_eq previous, Nat.cast_sub positive]
  push_cast
  ring

/-- At a power of two it is half of the smaller unit below. -/
theorem low_roundingInterval_power (e : Nat) :
    (roundingInterval ((e + 1) * 0x10000000000000 + 0x10000000000000)).low =
      ((0x20000000000000 : Nat) - 1 / 2) * (2 : ℚ) ^ ((e : Int) - 1074) := by
  have above : Counts (e + 1) 0x10000000000000 := ⟨by omega, by omega⟩
  have below : Counts e 0x1FFFFFFFFFFFFF := ⟨by omega, by omega⟩
  rw [roundingInterval, magnitudeValue_eq above,
    show (e + 1) * 0x10000000000000 + 0x10000000000000 - 1 =
      e * 0x10000000000000 + 0x1FFFFFFFFFFFFF by omega,
    magnitudeValue_eq below,
    show ((e + 1 : Nat) : Int) - 1074 = (e : Int) - 1074 + 1 by push_cast; ring, two_zpow_succ]
  push_cast
  ring

theorem contains_iff (i : Interval) (r : ℚ) :
    i.contains r ↔ i.low < r ∧ r < i.high ∨ i.closed ∧ (r = i.low ∨ r = i.high) := by
  simp [Interval.contains]

/-- A number of an interval lies between the ends, at an end only if the interval is closed. -/
theorem bounds_of_contains {i : Interval} {r : ℚ} (ordered : i.low ≤ i.high)
    (h : i.contains r) :
    i.low ≤ r ∧ r ≤ i.high ∧ (r = i.low ∨ r = i.high → i.closed) := by
  rcases (contains_iff i r).mp h with ⟨low, high⟩ | ⟨closed, rfl | rfl⟩
  · refine ⟨low.le, high.le, ?_⟩
    rintro (rfl | rfl)
    · exact absurd low (lt_irrefl _)
    · exact absurd high (lt_irrefl _)
  · exact ⟨le_rfl, ordered, fun _ => closed⟩
  · exact ⟨ordered, le_rfl, fun _ => closed⟩

end RoundingInterval

/-- Within half a unit of a count of units rounding gives the count. -/
theorem nearestMagnitude_of_near {r : ℚ} {e k : Nat} (positive : 0 < k)
    (low : (k - 1 / 2) * (2 : ℚ) ^ ((e : Int) - 1074) ≤ r)
    (high : r ≤ (k + 1 / 2) * (2 : ℚ) ^ ((e : Int) - 1074))
    (tie : r = (k - 1 / 2) * (2 : ℚ) ^ ((e : Int) - 1074) ∨
      r = (k + 1 / 2) * (2 : ℚ) ^ ((e : Int) - 1074) → k % 2 = 0)
    (normal : e = 0 ∨ (0x10000000000000 : Nat) * (2 : ℚ) ^ ((e : Int) - 1074) ≤ r)
    (small : r < (0x20000000000000 : Nat) * (2 : ℚ) ^ ((e : Int) - 1074)) :
    nearestMagnitude r = min infinityMagnitude (e * 0x10000000000000 + k) := by
  have unit := two_zpow_pos ((e : Int) - 1074)
  have half : (0 : ℚ) < k - 1 / 2 := by
    have : (1 : ℚ) ≤ k := by exact_mod_cast positive
    linarith
  apply nearestMagnitude_eq (lt_of_lt_of_le (mul_pos half unit) low) normal small
  apply roundHalfEven_eq
  · rwa [le_div_iff₀ unit]
  · rwa [div_le_iff₀ unit]
  · rwa [div_eq_iff unit.ne', div_eq_iff unit.ne']

/-- Between the midpoints of a count of units, of which the lower one is half a unit below. -/
private theorem nearestMagnitude_of_contains_inside {r : ℚ} {e k : Nat} (counts : Counts e k)
    (lt : k < 0x20000000000000) (positive : 0 < k) (inside : e = 0 ∨ 0x10000000000000 < k)
    (h : (roundingInterval (e * 0x10000000000000 + k)).contains r) :
    nearestMagnitude r = min infinityMagnitude (e * 0x10000000000000 + k) := by
  have unit := two_zpow_pos ((e : Int) - 1074)
  have lowEq := low_roundingInterval counts positive inside
  have highEq := high_roundingInterval counts lt
  obtain ⟨low, high, closed⟩ := bounds_of_contains (by rw [lowEq, highEq]; gcongr; linarith) h
  rw [lowEq] at low closed
  rw [highEq] at high closed
  apply nearestMagnitude_of_near positive low high
  · intro tie
    have even : (e * 0x10000000000000 + k) % 2 = 0 := by
      simpa [roundingInterval] using closed tie
    omega
  · refine inside.imp_right fun above => le_trans ?_ low
    have : ((0x10000000000000 : Nat) : ℚ) + 1 ≤ k := by exact_mod_cast above
    gcongr
    push_cast at this ⊢
    linarith
  · refine lt_of_le_of_lt high ?_
    have : (k : ℚ) + 1 ≤ (0x20000000000000 : Nat) := by exact_mod_cast lt
    gcongr
    push_cast at this ⊢
    linarith

/-- Between the midpoints of a power of two: below it the unit is half as large. -/
private theorem nearestMagnitude_of_contains_power {r : ℚ} {e : Nat}
    (h : (roundingInterval ((e + 1) * 0x10000000000000 + 0x10000000000000)).contains r) :
    nearestMagnitude r =
      min infinityMagnitude ((e + 1) * 0x10000000000000 + 0x10000000000000) := by
  have unit := two_zpow_pos ((e : Int) - 1074)
  have counts : Counts (e + 1) 0x10000000000000 := ⟨by omega, by omega⟩
  have lowEq := low_roundingInterval_power e
  have highEq := high_roundingInterval counts (by omega)
  have double : (2 : ℚ) ^ (((e + 1 : Nat) : Int) - 1074) = 2 * 2 ^ ((e : Int) - 1074) := by
    rw [← two_zpow_succ]
    congr 1
    push_cast
    ring
  have ordered : (roundingInterval ((e + 1) * 0x10000000000000 + 0x10000000000000)).low ≤
      (roundingInterval ((e + 1) * 0x10000000000000 + 0x10000000000000)).high := by
    rw [lowEq, highEq, double]
    push_cast
    linarith
  obtain ⟨low, high, -⟩ := bounds_of_contains ordered h
  rw [lowEq] at low
  rw [highEq] at high
  by_cases below : r < (0x20000000000000 : Nat) * (2 : ℚ) ^ ((e : Int) - 1074)
  · have carried : (e + 1) * 0x10000000000000 + 0x10000000000000 =
        e * 0x10000000000000 + 0x20000000000000 := by omega
    rw [carried]
    apply nearestMagnitude_of_near (by omega) low _ (fun _ => rfl) _ below
    · push_cast at below ⊢
      linarith
    · right
      push_cast at low ⊢
      linarith
  · apply nearestMagnitude_of_near (by omega) _ high (fun _ => rfl)
    · right
      rw [double]
      push_cast at below ⊢
      linarith
    · refine lt_of_le_of_lt high ?_
      gcongr
      norm_num
    · rw [double]
      push_cast at below ⊢
      linarith

/-- Every number between the midpoints rounds to the magnitude between them. -/
theorem nearestMagnitude_of_contains {m : Nat} {r : ℚ} (positive : 0 < m)
    (finite : m < infinityMagnitude) (h : (roundingInterval m).contains r) :
    nearestMagnitude r = m := by
  suffices near : nearestMagnitude r = min infinityMagnitude m by
    rw [near, Nat.min_eq_right finite.le]
  obtain ⟨e, k, rfl, lt, counts⟩ := exists_counts m
  have normal := counts.normal
  by_cases inside : e = 0 ∨ 0x10000000000000 < k
  · exact nearestMagnitude_of_contains_inside counts lt (by omega) inside h
  · obtain ⟨lower, rfl⟩ : ∃ lower, e = lower + 1 := ⟨e - 1, by omega⟩
    obtain rfl : k = 0x10000000000000 := by omega
    exact nearestMagnitude_of_contains_power h

end Double

end QuietBox
