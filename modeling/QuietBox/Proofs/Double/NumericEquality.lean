import QuietBox.Proofs.Double.Canonical
import QuietBox.Proofs.Double.GridSearch

/-!
Equality of words against equality of numbers. Values grow with magnitudes, so a number that is not
zero has one magnitude and one sign; the zeros are the only number with two words. A NaN has many
words and is no number, so its word is equal to itself where the double is not.
-/

set_option autoImplicit false

namespace QuietBox

namespace Double

variable {d e : Double}

/-- A double is its sign and its magnitude. -/
theorem ext_magnitude (sign : d.isNegative = e.isNegative) (magnitude : d.magnitude = e.magnitude) :
    d = e := by
  rw [← d.ofMagnitude_magnitude, sign, magnitude, e.ofMagnitude_magnitude]

theorem magnitudeValue_nonneg (m : Nat) : 0 ≤ magnitudeValue m := by
  rw [← magnitudeValue_zero]
  exact strictMono_magnitudeValue.monotone (Nat.zero_le m)

theorem magnitudeValue_eq_zero_iff {m : Nat} : magnitudeValue m = 0 ↔ m = 0 := by
  rw [← magnitudeValue_zero, strictMono_magnitudeValue.injective.eq_iff]

/-- Values of different sign meet at zero only. -/
theorem neg_magnitudeValue_eq_iff {m n : Nat} :
    -magnitudeValue m = magnitudeValue n ↔ m = 0 ∧ n = 0 := by
  have left := magnitudeValue_nonneg m
  have right := magnitudeValue_nonneg n
  rw [← magnitudeValue_eq_zero_iff, ← magnitudeValue_eq_zero_iff (m := n)]
  constructor
  · intro same
    constructor <;> linarith
  · rintro ⟨zeroLeft, zeroRight⟩
    rw [zeroLeft, zeroRight, neg_zero]

/-- The exact value tells a double, but for the sign of zero. -/
theorem value_eq_iff : d.value = e.value ↔ d = e ∨ d.magnitude = 0 ∧ e.magnitude = 0 := by
  constructor
  · intro same
    unfold value at same
    cases signD : d.isNegative <;> cases signE : e.isNegative <;>
      simp only [signD, signE, Bool.false_eq_true, ↓reduceIte] at same
    · exact Or.inl (ext_magnitude (signD.trans signE.symm)
        (strictMono_magnitudeValue.injective same))
    · exact Or.inr (neg_magnitudeValue_eq_iff.mp same.symm).symm
    · exact Or.inr (neg_magnitudeValue_eq_iff.mp same)
    · exact Or.inl (ext_magnitude (signD.trans signE.symm)
        (strictMono_magnitudeValue.injective (neg_injective same)))
  · rintro (rfl | ⟨zeroD, zeroE⟩)
    · rfl
    · simp [value, zeroD, zeroE, magnitudeValue_zero]

theorem number?_eq_none_iff : d.number? = none ↔ d.isNaN := by
  unfold number?
  split
  · simp_all
  · split <;> simp_all

/-- The infinities lie beyond all finite magnitudes, so equal numbers are both finite or both
not. -/
theorem number?_eq_iff (hd : ¬d.isNaN) (he : ¬e.isNaN) :
    d.number? = e.number? ↔ d = e ∨ d.magnitude = 0 ∧ e.magnitude = 0 := by
  have zeroIsFinite {x : Double} (zero : x.magnitude = 0) : x.isInfinite = false := by
    rw [isInfinite, zero]
    decide
  simp only [number?, hd, he, Bool.false_eq_true, ↓reduceIte]
  cases infiniteD : d.isInfinite <;> cases infiniteE : e.isInfinite <;>
    simp only [Bool.false_eq_true, ↓reduceIte, Option.some.injEq, Number.finite.injEq,
      Number.infinite.injEq, reduceCtorEq, false_iff]
  · exact value_eq_iff
  · rintro (rfl | ⟨-, zero⟩)
    · exact Bool.false_ne_true (infiniteD.symm.trans infiniteE)
    · exact Bool.false_ne_true ((zeroIsFinite zero).symm.trans infiniteE)
  · rintro (rfl | ⟨zero, -⟩)
    · exact Bool.false_ne_true (infiniteE.symm.trans infiniteD)
    · exact Bool.false_ne_true ((zeroIsFinite zero).symm.trans infiniteD)
  · have magnitudeD : d.magnitude = infinityMagnitude := of_decide_eq_true infiniteD
    have magnitudeE : e.magnitude = infinityMagnitude := of_decide_eq_true infiniteE
    constructor
    · intro sign
      exact Or.inl (ext_magnitude sign (magnitudeD.trans magnitudeE.symm))
    · rintro (rfl | ⟨zero, -⟩)
      · rfl
      · exact absurd (zero.symm.trans magnitudeD) (by decide)

/-- Numeric equality is equality of numbers that are there. -/
theorem numericEq_iff_number? : d.numericEq e ↔ ∃ x, d.number? = some x ∧ e.number? = some x := by
  unfold numericEq
  cases d.number? <;> cases e.number? <;> simp [eq_comm]

theorem numericEq_iff :
    d.numericEq e ↔
      ¬d.isNaN ∧ ¬e.isNaN ∧ (d = e ∨ d.magnitude = 0 ∧ e.magnitude = 0) := by
  rw [numericEq_iff_number?]
  constructor
  · rintro ⟨x, numberD, numberE⟩
    have hd : ¬d.isNaN := by simp [← number?_eq_none_iff, numberD]
    have he : ¬e.isNaN := by simp [← number?_eq_none_iff, numberE]
    exact ⟨hd, he, (number?_eq_iff hd he).mp (numberD.trans numberE.symm)⟩
  · rintro ⟨hd, he, same⟩
    obtain ⟨x, numberD⟩ := Option.ne_none_iff_exists'.mp (number?_eq_none_iff.not.mpr hd)
    exact ⟨x, numberD, ((number?_eq_iff hd he).mpr same).symm.trans numberD⟩

end Double

namespace Word

/-- The words of the two zeros, in either order. -/
def OppositeZeros (a b : Word) : Prop :=
  a = 0 ∧ b = 0x8000000000000000 ∨ a = 0x8000000000000000 ∧ b = 0

instance (a b : Word) : Decidable (OppositeZeros a b) := inferInstanceAs (Decidable (_ ∨ _))

theorem magnitude_eq_zero_iff (w : Word) :
    w.toDouble.magnitude = 0 ↔ w = 0 ∨ w = 0x8000000000000000 := by
  have bound := w.isLt
  rw [← BitVec.toNat_inj, ← BitVec.toNat_inj, Double.magnitude, toDouble]
  simp only [BitVec.ofNat_eq_ofNat, BitVec.toNat_ofNat]
  omega

/-- Two words that both stand for zero are the same or those of opposite zeros. -/
theorem zeros_iff {a b : Word} :
    a.toDouble.magnitude = 0 ∧ b.toDouble.magnitude = 0 ∧ a ≠ b ↔ OppositeZeros a b := by
  rw [magnitude_eq_zero_iff, magnitude_eq_zero_iff, OppositeZeros]
  constructor
  · rintro ⟨rfl | rfl, rfl | rfl, other⟩
    · exact absurd rfl other
    · exact Or.inl ⟨rfl, rfl⟩
    · exact Or.inr ⟨rfl, rfl⟩
    · exact absurd rfl other
  · rintro (⟨rfl, rfl⟩ | ⟨rfl, rfl⟩)
    · exact ⟨Or.inl rfl, Or.inr rfl, by decide⟩
    · exact ⟨Or.inr rfl, Or.inl rfl, by decide⟩

theorem toDouble_inj {a b : Word} : a.toDouble = b.toDouble ↔ a = b :=
  ⟨congrArg Double.bits, congrArg toDouble⟩

/-- A word is equal to itself as a number unless it is a NaN. -/
theorem numericEq_self_iff (w : Word) : w.toDouble.numericEq w.toDouble ↔ ¬w.toDouble.isNaN := by
  rw [Double.numericEq_iff]
  exact ⟨And.left, fun number => ⟨number, number, Or.inl rfl⟩⟩

/-- Different words are one number only as opposite zeros. -/
theorem numericEq_of_ne_iff {a b : Word} (other : a ≠ b) :
    a.toDouble.numericEq b.toDouble ↔ OppositeZeros a b := by
  have number {w : Word} (zero : w.toDouble.magnitude = 0) : ¬w.toDouble.isNaN := by
    simp [Double.isNaN, zero]
  rw [Double.numericEq_iff, toDouble_inj, ← zeros_iff]
  constructor
  · rintro ⟨-, -, same | ⟨zeroA, zeroB⟩⟩
    · exact absurd same other
    · exact ⟨zeroA, zeroB, other⟩
  · rintro ⟨zeroA, zeroB, -⟩
    exact ⟨number zeroA, number zeroB, Or.inr ⟨zeroA, zeroB⟩⟩

theorem not_oppositeZeros_self (w : Word) : ¬OppositeZeros w w := by
  rw [← zeros_iff]
  rintro ⟨-, -, other⟩
  exact other rfl

/-- Equality of words and of the numbers that they are as doubles differ in two cases only: on a
NaN, which is equal to itself as a word and not as a number, and on the two zeros, which are one
number and two words. All words that are no doubles are NaNs. Hence words of numbers are equal
exactly if the numbers are, opposite zeros apart. -/
theorem equality_of_words_and_numbers :
    (∀ a b : Word, ¬(a = b ↔ a.toDouble.numericEq b.toDouble) ↔
      a = b ∧ a.toDouble.HasNaNBits ∨ OppositeZeros a b) ∧
    (∀ w : Word, ¬w.isDouble → w.toDouble.HasNaNBits) ∧
    (∀ a b : Word, ¬a.toDouble.HasNaNBits → ¬b.toDouble.HasNaNBits → ¬OppositeZeros a b →
      (a = b ↔ ∃ x, a.toDouble.number? = some x ∧ b.toDouble.number? = some x)) := by
  have differ (a b : Word) : ¬(a = b ↔ a.toDouble.numericEq b.toDouble) ↔
      a = b ∧ a.toDouble.isNaN ∨ OppositeZeros a b := by
    by_cases same : a = b
    · subst same
      simp only [numericEq_self_iff, not_oppositeZeros_self, true_iff, true_and, or_false,
        Classical.not_not]
    · simp only [numericEq_of_ne_iff same, same, false_iff, false_and, false_or,
        Classical.not_not]
  simp only [← Double.isNaN_iff]
  refine ⟨differ, fun w => Double.isNaN_of_not_isDouble, ?_⟩
  intro a b number _ apart
  rw [← Double.numericEq_iff_number?]
  apply Classical.byContradiction
  intro unequal
  obtain ⟨-, nan⟩ | zeros := (differ a b).mp unequal
  · exact number nan
  · exact apart zeros

/-- The opposite zeros, the word of a pointer, and the least normal number beside the greatest
subnormal one. -/
theorem equality_of_words_and_numbers_at_edges :
    ¬((0 : Word) = 0x8000000000000000 ↔
        (toDouble 0).numericEq (toDouble 0x8000000000000000)) ∧
      ¬((0x7FFC000000001000 : Word) = 0x7FFC000000001000 ↔
        (toDouble 0x7FFC000000001000).numericEq (toDouble 0x7FFC000000001000)) ∧
      ¬isDouble 0x7FFC000000001000 ∧ (toDouble 0x7FFC000000001000).HasNaNBits ∧
      ¬(toDouble 0x000FFFFFFFFFFFFF).HasNaNBits ∧ ¬(toDouble 0x0010000000000000).HasNaNBits ∧
      ¬OppositeZeros 0x000FFFFFFFFFFFFF 0x0010000000000000 ∧
      ¬∃ x, (toDouble 0x000FFFFFFFFFFFFF).number? = some x ∧
        (toDouble 0x0010000000000000).number? = some x := by
  obtain ⟨differ, tagged, numbers⟩ := equality_of_words_and_numbers
  have pointer := tagged 0x7FFC000000001000 (by decide)
  refine ⟨(differ _ _).mpr (Or.inr (by decide)), (differ _ _).mpr (Or.inl ⟨rfl, pointer⟩),
    by decide, pointer, by decide, by decide, by decide, ?_⟩
  rw [← numbers 0x000FFFFFFFFFFFFF 0x0010000000000000 (by decide) (by decide) (by decide)]
  decide

end Word

end QuietBox
