import QuietBox.Double.Single
import QuietBox.Proofs.Double.GridSearch

/-!
Widening is exact. The significand of a single has room to spare in a double, so shifting it until
its leading bit is the implicit one changes the exponent and not the value; that holds of subnormal
singles too, each of which is shifted by its own amount. Hence the rounding that widening goes
through never rounds, and values, order and signs are kept.
-/

set_option autoImplicit false

namespace QuietBox

/-- A number among the rationals, with an infinity at either end. -/
def Number.extended : Number → WithBot (WithTop ℚ)
  | finite value => ((value : WithTop ℚ) : WithBot (WithTop ℚ))
  | infinite negative => if negative then ⊥ else ((⊤ : WithTop ℚ) : WithBot (WithTop ℚ))

/-- Both are numbers, the first before the second. A NaN has no place in the order. -/
def Number.Less (a b : Option Number) : Prop :=
  ∃ x y, a = some x ∧ b = some y ∧ x.extended < y.extended

namespace Double

/-- What is the value of a double is not rounded. -/
theorem nearestMagnitude_magnitudeValue {m : Nat} (finite : m < infinityMagnitude) :
    nearestMagnitude (magnitudeValue m) = m := by
  by_cases zero : m = 0
  · rw [zero, magnitudeValue_zero]
    rfl
  · have positive := Nat.pos_of_ne_zero zero
    exact nearestMagnitude_of_contains positive finite (contains_magnitudeValue positive)

end Double

namespace Single

/-- A magnitude counts units of 2^(e - 149); below 2^23 only the smallest ones. -/
theorem exists_counts (m : Nat) :
    ∃ e k, m = e * 0x800000 + k ∧ k < 0x1000000 ∧ (e = 0 ∨ 0x800000 ≤ k) := by
  refine ⟨m / 0x800000 - 1, m - (m / 0x800000 - 1) * 0x800000, ?_, ?_, ?_⟩ <;> omega

theorem magnitudeValue_eq {e k : Nat} (le : k ≤ 0x1000000) (normal : e = 0 ∨ 0x800000 ≤ k) :
    magnitudeValue (e * 0x800000 + k) = k * (2 : ℚ) ^ ((e : Int) - 149) := by
  rw [magnitudeValue, power_eq_zpow, Nat.cast_ofNat]
  by_cases carried : k = 0x1000000
  · have significand : (if e * 0x800000 + k < 0x800000 then e * 0x800000 + k
        else 0x800000 + (e * 0x800000 + k) % 0x800000) = 0x800000 := by
      split <;> omega
    have exponent : ((max ((e * 0x800000 + k) / 0x800000) 1 : Nat) : Int) - 150 =
        (e : Int) - 149 + 1 := by
      omega
    simp only [significand, exponent, two_zpow_succ]
    rw [carried]
    push_cast
    ring
  · have significand : (if e * 0x800000 + k < 0x800000 then e * 0x800000 + k
        else 0x800000 + (e * 0x800000 + k) % 0x800000) = k := by
      split <;> omega
    have exponent : ((max ((e * 0x800000 + k) / 0x800000) 1 : Nat) : Int) - 150 =
        (e : Int) - 149 := by
      omega
    simp only [significand, exponent]

theorem magnitudeValue_lt_succ (m : Nat) : magnitudeValue m < magnitudeValue (m + 1) := by
  obtain ⟨e, k, rfl, lt, normal⟩ := exists_counts m
  have unit := two_zpow_pos ((e : Int) - 149)
  rw [magnitudeValue_eq lt.le normal, Nat.add_assoc,
    magnitudeValue_eq lt (normal.imp_right fun le => by omega)]
  push_cast
  linarith

theorem strictMono_magnitudeValue : StrictMono magnitudeValue :=
  strictMono_nat_of_lt_succ magnitudeValue_lt_succ

/-- A significand moved up to the leading bit of a double's, with the exponent lowered as much. -/
private theorem exists_shifted {k : Nat} (positive : 0 < k) (lt : k < 0x1000000) :
    ∃ shift : Nat, 29 ≤ shift ∧ shift ≤ 52 ∧
      0x10000000000000 ≤ k * 2 ^ shift ∧ k * 2 ^ shift < 0x20000000000000 := by
  have nonzero : k ≠ 0 := by omega
  have small : k.log2 < 24 := (Nat.log2_lt nonzero).mpr lt
  have low := Nat.mul_le_mul_right (2 ^ (52 - k.log2)) (Nat.log2_self_le nonzero)
  have high := Nat.mul_lt_mul_of_pos_right (Nat.lt_log2_self (n := k))
    (Nat.two_pow_pos (52 - k.log2))
  rw [← Nat.pow_add, show k.log2 + (52 - k.log2) = 52 by omega] at low
  rw [← Nat.pow_add, show k.log2 + 1 + (52 - k.log2) = 53 by omega] at high
  exact ⟨52 - k.log2, by omega, by omega, low, high⟩

/-- The value of a finite single is the value of a finite double. -/
theorem exists_magnitudeValue_eq {m : Nat} (finite : m < infinityMagnitude) :
    ∃ n < Double.infinityMagnitude, Double.magnitudeValue n = magnitudeValue m := by
  obtain ⟨e, k, rfl, lt, normal⟩ := exists_counts m
  rw [infinityMagnitude] at finite
  by_cases zero : k = 0
  · obtain rfl : e = 0 := by omega
    refine ⟨0, by decide, ?_⟩
    rw [Double.magnitudeValue_zero, magnitudeValue_eq lt.le normal, zero]
    simp
  · obtain ⟨shift, least, most, low, high⟩ := exists_shifted (Nat.pos_of_ne_zero zero) lt
    have counts : Double.Counts (e + 925 - shift) (k * 2 ^ shift) := ⟨high.le, Or.inr low⟩
    refine ⟨(e + 925 - shift) * 0x10000000000000 + k * 2 ^ shift, ?_, ?_⟩
    · have exponent : e + 925 - shift ≤ 1151 := by omega
      calc (e + 925 - shift) * 0x10000000000000 + k * 2 ^ shift
          < 1151 * 0x10000000000000 + 0x20000000000000 :=
            Nat.add_lt_add_of_le_of_lt (Nat.mul_le_mul_right _ exponent) high
        _ ≤ Double.infinityMagnitude := by decide
    · have unit : (2 : ℚ) ^ shift * 2 ^ (((e + 925 - shift : Nat) : Int) - 1074) =
          2 ^ ((e : Int) - 149) := by
        rw [← zpow_natCast, ← zpow_add₀ (by norm_num)]
        congr 1
        omega
      rw [Double.magnitudeValue_eq counts, magnitudeValue_eq lt.le normal, ← unit]
      push_cast
      ring

section Widened

variable {x y : Single}

theorem magnitude_le_of_isNaN_eq_false (number : x.isNaN = false) :
    x.magnitude ≤ infinityMagnitude := by
  simpa [isNaN] using number

/-- A single is its sign and its magnitude. -/
theorem eq_of_magnitude_eq (sign : x.isNegative = y.isNegative)
    (magnitude : x.magnitude = y.magnitude) : x = y := by
  have boundX := x.bits.isLt
  have boundY := y.bits.isLt
  simp only [isNegative, decide_eq_decide] at sign
  simp only [Single.magnitude] at magnitude
  have same : x.bits = y.bits := by
    apply BitVec.eq_of_toNat_eq
    omega
  cases x
  cases y
  exact congrArg Single.mk same

/-- What becomes of a single that is no NaN. -/
inductive Widened (x : Single) : Prop
  | infinite : x.magnitude = infinityMagnitude → x.toDouble = .infinity x.isNegative → Widened x
  | finite {n : Nat} : x.magnitude < infinityMagnitude → n < Double.infinityMagnitude →
      x.toDouble = .ofMagnitude x.isNegative n →
      Double.magnitudeValue n = magnitudeValue x.magnitude → Widened x

theorem widened (number : x.isNaN = false) : Widened x := by
  have le := magnitude_le_of_isNaN_eq_false number
  by_cases large : x.magnitude = infinityMagnitude
  · refine .infinite large ?_
    simp [toDouble, number, isInfinite, large]
  · have finite : x.magnitude < infinityMagnitude := by omega
    obtain ⟨n, lt, value⟩ := exists_magnitudeValue_eq finite
    refine .finite finite lt ?_ value
    simp [toDouble, number, isInfinite, large, Double.nearest, ← value,
      Double.nearestMagnitude_magnitudeValue lt]

/-- Widening keeps the sign, of a NaN too. -/
theorem isNegative_toDouble (x : Single) : x.toDouble.isNegative = x.isNegative := by
  unfold toDouble
  split
  · exact Double.isNegative_ofMagnitude _ _
  · split <;> exact Double.isNegative_ofMagnitude _ _

/-- Finite magnitudes fit beside a sign. -/
private theorem magnitude_ofMagnitude {negative : Bool} {n : Nat}
    (le : n ≤ Double.infinityMagnitude) : (Double.ofMagnitude negative n).magnitude = n := by
  rw [Double.infinityMagnitude] at le
  rw [Double.magnitude_ofMagnitude, Nat.mod_eq_of_lt (by omega)]

/-- The double of a NaN is one. -/
private theorem isNaN_toDouble_of_isNaN (nan : x.isNaN) : x.toDouble.isNaN := by
  rw [toDouble, if_pos nan, Double.isNaN, Double.magnitude_ofMagnitude, decide_eq_true_iff]
  simp only [Double.infinityMagnitude, reservedSignature]
  omega

/-- Widening keeps the number, and NaNs stay NaNs. -/
theorem number?_toDouble (x : Single) : x.toDouble.number? = x.number? := by
  cases nan : x.isNaN with
  | true => rw [Double.number?, if_pos (isNaN_toDouble_of_isNaN nan), number?, if_pos nan]
  | false =>
    have sign := x.isNegative_toDouble
    rw [number?, nan, if_neg Bool.false_ne_true, Double.number?]
    cases widened nan with
    | infinite large same =>
      have magnitude : x.toDouble.magnitude = Double.infinityMagnitude := by
        rw [same]
        exact magnitude_ofMagnitude le_rfl
      simp [Double.isNaN, Double.isInfinite, isInfinite, magnitude, large, sign]
    | @finite n small lt same value =>
      have magnitude : x.toDouble.magnitude = n := by
        rw [same]
        exact magnitude_ofMagnitude lt.le
      simp [Double.isNaN, Double.isInfinite, isInfinite, Double.value, Single.value, magnitude,
        sign, value, lt.ne, small.ne, lt.le]

/-- Widening keeps the order of magnitudes. -/
theorem magnitude_toDouble_lt_iff (hx : x.isNaN = false) (hy : y.isNaN = false) :
    x.toDouble.magnitude < y.toDouble.magnitude ↔ x.magnitude < y.magnitude := by
  cases widened hx with
  | infinite largeX sameX =>
    have le := magnitude_le_of_isNaN_eq_false hy
    cases widened hy with
    | infinite largeY sameY =>
      rw [sameX, sameY, Double.infinity, magnitude_ofMagnitude le_rfl, Double.infinity,
        magnitude_ofMagnitude le_rfl]
      omega
    | finite smallY ltY sameY _ =>
      rw [sameX, sameY, Double.infinity, magnitude_ofMagnitude le_rfl, magnitude_ofMagnitude ltY.le]
      omega
  | finite smallX ltX sameX valueX =>
    cases widened hy with
    | infinite largeY sameY =>
      rw [sameX, sameY, Double.infinity, magnitude_ofMagnitude le_rfl, magnitude_ofMagnitude ltX.le]
      omega
    | finite smallY ltY sameY valueY =>
      rw [sameX, sameY, magnitude_ofMagnitude ltX.le, magnitude_ofMagnitude ltY.le,
        ← Double.strictMono_magnitudeValue.lt_iff_lt, valueX, valueY,
        strictMono_magnitudeValue.lt_iff_lt]

/-- Different singles have different doubles. -/
theorem toDouble_inj (hx : x.isNaN = false) (hy : y.isNaN = false)
    (same : x.toDouble = y.toDouble) : x = y := by
  apply eq_of_magnitude_eq
  · rw [← isNegative_toDouble, ← isNegative_toDouble, same]
  · have above := magnitude_toDouble_lt_iff hx hy
    have below := magnitude_toDouble_lt_iff hy hx
    rw [same] at above below
    have notAbove := mt above.mpr (lt_irrefl _)
    have notBelow := mt below.mpr (lt_irrefl _)
    omega

end Widened

end Single

end QuietBox
