import QuietBox.Proofs.Double.RoundTrip
import QuietBox.Proofs.Text.ScientificReading

/-!
The structural text of a double reads as the double. It has the same shortest digits as the plain
text, and an exponent where the plain text would be long; the exponents that doubles need are small
enough to be read whole. So the structural texts of two doubles that are no NaNs differ.
-/

set_option autoImplicit false

namespace QuietBox

theorem two_zpow_le_ten_zpow (n : Nat) : (2 : ℚ) ^ (n : Int) ≤ 10 ^ (n : Int) := by
  rw [zpow_natCast, zpow_natCast]
  exact pow_le_pow_left₀ (by norm_num) (by norm_num) n

theorem ten_zpow_neg_le_two_zpow_neg (n : Nat) : (10 : ℚ) ^ (-(n : Int)) ≤ 2 ^ (-(n : Int)) := by
  rw [zpow_neg, zpow_neg]
  exact inv_anti₀ (two_zpow_pos n) (two_zpow_le_ten_zpow n)

/-- A decimal lies between the powers of ten at its first digit. -/
theorem Decimal.value_bounds {d : Decimal} (positive : 0 < d.digits) :
    (10 : ℚ) ^ d.leadingExponent ≤ d.value ∧ d.value < (10 : ℚ) ^ (d.leadingExponent + 1) := by
  have scale := ten_zpow_pos d.exponent
  have length : 0 < (Numeral.decimal d.digits).length := Nat.length_toDigits_pos
  have low : 10 ^ ((Numeral.decimal d.digits).length - 1) ≤ d.digits := by
    by_cases single : (Numeral.decimal d.digits).length - 1 = 0
    · rw [single]
      omega
    · apply Nat.le_of_not_lt
      intro below
      have short : (Numeral.decimal d.digits).length ≤ (Numeral.decimal d.digits).length - 1 :=
        (Nat.length_toDigits_le_iff (by decide) (by omega)).mpr below
      omega
  have high : d.digits < 10 ^ (Numeral.decimal d.digits).length :=
    (Nat.length_toDigits_le_iff (by decide) length).mp le_rfl
  rw [value, power_eq_zpow, Nat.cast_ofNat, leadingExponent]
  generalize (Numeral.decimal d.digits).length = n at *
  constructor
  · rw [add_comm, zpow_add₀ (by norm_num), zpow_natCast]
    gcongr
    exact_mod_cast low
  · rw [show d.exponent + (n - 1 : Nat) + 1 = (n : Int) + d.exponent by omega,
      zpow_add₀ (by norm_num), zpow_natCast]
    gcongr
    exact_mod_cast high

/-- A zero behind the point marks a whole number and does not change it. -/
theorem Decimal.exists_read?_marked_positional (d : Decimal) :
    ∃ r, read? (d.positional ++ if 0 ≤ d.exponent then ['.', '0'] else []) = some r ∧
      r.value = d.value := by
  by_cases whole : 0 ≤ d.exponent
  · obtain ⟨n, same⟩ := Int.eq_ofNat_of_zero_le whole
    have written : d.positional = Numeral.decimal (d.digits * 10 ^ n) := by
      rw [positional, if_pos whole, same, Int.toNat_natCast, Nat.pow_eq]
    have digit : ∀ c ∈ d.positional, c.isDigit := by
      rw [written]
      exact fun _ => Numeral.isDigit_of_mem_decimal
    have nonempty : d.positional ≠ [] := by
      rw [written]
      exact Nat.toDigits_ne_nil
    have number : Nat.ofDigitChars 10 (d.positional ++ ['0']) 0 = 10 * (d.digits * 10 ^ n) := by
      rw [Nat.ofDigitChars_append, written, ofDigitChars_decimal]
      rfl
    have zero : ∀ c ∈ ['0'], c.isDigit := by simp
    have read : read? (d.positional ++ ['.', '0']) =
        some ⟨Nat.ofDigitChars 10 (d.positional ++ ['0']) 0, -1⟩ :=
      read?_pointed digit zero nonempty endsDigits_nil
    rw [if_pos whole]
    refine ⟨_, read, ?_⟩
    rw [number, value, value, power_eq_zpow, power_eq_zpow, same, zpow_natCast]
    push_cast
    rw [zpow_neg_one]
    field_simp
  · rw [if_neg whole, List.append_nil]
    exact exists_read?_positional d

namespace Double

/-- What rounds to a positive finite magnitude is neither tiny nor huge. -/
theorem bounds_of_contains_roundingInterval {m : Nat} {r : ℚ} (positive : 0 < m)
    (finite : m < infinityMagnitude) (h : (roundingInterval m).contains r) :
    (2 : ℚ) ^ (-1075 : Int) ≤ r ∧ r ≤ (2 : ℚ) ^ (1024 : Int) := by
  have least : magnitudeValue 1 = 2 ^ (-1074 : Int) := by
    have counts : Counts 0 1 := ⟨by decide, Or.inl rfl⟩
    simpa using magnitudeValue_eq counts
  have greatest : magnitudeValue infinityMagnitude = 2 ^ (1024 : Int) := by
    have counts : Counts 2046 0x10000000000000 := ⟨by decide, Or.inr le_rfl⟩
    have value := magnitudeValue_eq counts
    rwa [normal_mul_unit] at value
  have below : 0 ≤ magnitudeValue (m - 1) := by
    rw [← magnitudeValue_zero]
    exact strictMono_magnitudeValue.monotone (Nat.zero_le _)
  have here : magnitudeValue 1 ≤ magnitudeValue m := strictMono_magnitudeValue.monotone positive
  have above : magnitudeValue (m + 1) ≤ magnitudeValue infinityMagnitude :=
    strictMono_magnitudeValue.monotone finite
  have lower := strictMono_magnitudeValue.monotone (Nat.sub_le m 1)
  have upper := magnitudeValue_lt_succ m
  have half : (2 : ℚ) ^ (-1074 : Int) = 2 * 2 ^ (-1075 : Int) := by
    rw [show (-1074 : Int) = -1075 + 1 by rfl, two_zpow_succ]
  obtain ⟨low, high, -⟩ := bounds_of_contains (by simp only [roundingInterval]; linarith) h
  simp only [roundingInterval] at low high
  constructor <;> linarith

/-- The exponents of shortest decimals are far from where reading them would be cut off. -/
theorem natAbs_leadingExponent_shortest_lt {m : Nat} (positive : 0 < m)
    (finite : m < infinityMagnitude) : (shortest m).leadingExponent.natAbs < 0x10000 := by
  obtain ⟨least, greatest⟩ :=
    bounds_of_contains_roundingInterval positive finite (contains_shortest positive)
  have digits : 0 < (shortest m).digits := by
    apply Nat.pos_of_ne_zero
    intro zero
    have tiny := two_zpow_pos (-1075)
    rw [Decimal.value, zero, Nat.cast_zero, zero_mul] at least
    linarith
  obtain ⟨low, high⟩ := Decimal.value_bounds digits
  have ten : (1 : ℚ) < 10 := by norm_num
  have above : -((1075 : Nat) : Int) < (shortest m).leadingExponent + 1 :=
    (zpow_lt_zpow_iff_right₀ ten).mp
      ((ten_zpow_neg_le_two_zpow_neg 1075).trans_lt (least.trans_lt high))
  have below : (shortest m).leadingExponent ≤ ((1024 : Nat) : Int) :=
    (zpow_le_zpow_iff_right₀ ten).mp (low.trans (greatest.trans (two_zpow_le_ten_zpow 1024)))
  omega

theorem structuralText_eq (d : Double) :
    d.structuralText =
      if d.isNaN then ['N', 'a', 'N']
      else if d.isInfinite then ['i', 'n', 'f']
      else if d.magnitude = 0 then ['0', '.', '0']
      else if magnitudeValue d.magnitude < positionalFrom ∨
          scientificFrom ≤ magnitudeValue d.magnitude then
        (shortest d.magnitude).scientific
      else (shortest d.magnitude).positional ++
        (if 0 ≤ (shortest d.magnitude).exponent then ['.', '0'] else []) := rfl

/-- The structural text of a magnitude reads as the magnitude, under either sign. -/
theorem readUnsigned?_structuralText {d : Double} (number : d.isNaN = false) (negative : Bool) :
    readUnsigned? negative d.structuralText = some (ofMagnitude negative d.magnitude) := by
  rw [structuralText_eq]
  apply readUnsigned?_of_near number
  intro finite
  by_cases zero : d.magnitude = 0
  · rw [if_pos zero, zero]
    exact ⟨⟨0, -1⟩, rfl, nearestMagnitude_of_digits_eq_zero rfl⟩
  · have positive := Nat.pos_of_ne_zero zero
    have near := nearestMagnitude_shortest positive finite
    rw [if_neg zero]
    split
    · have small := natAbs_leadingExponent_shortest_lt positive finite
      exact ⟨shortest d.magnitude, Decimal.read?_scientific small, near⟩
    · obtain ⟨r, read, same⟩ := Decimal.exists_read?_marked_positional (shortest d.magnitude)
      refine ⟨r, read, ?_⟩
      rw [same]
      exact near

/-- Without a format spec there is at most a minus in front. -/
theorem structural_default (d : Double) :
    d.structural {} =
      (if d.isNaN then [] else if d.isNegative then ['-'] else []) ++ d.structuralText :=
  Format.Spec.pad_unpadded {} _ _

/-- Every double but a NaN is what its structural text reads as, bit for bit. -/
theorem read_structural {d : Double} (number : d.isNaN = false) :
    read (d.structural {}) = .ok d := by
  rw [structural_default, number, if_neg Bool.false_ne_true]
  exact read_signed (readUnsigned?_structuralText number)

theorem structural_inj {d e : Double} (hd : d.isNaN = false) (he : e.isNaN = false)
    (same : d.structural {} = e.structural {}) : d = e := by
  have read := read_structural hd
  rw [same, read_structural he] at read
  cases read
  rfl

end Double

end QuietBox
