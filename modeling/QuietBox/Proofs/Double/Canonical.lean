import QuietBox.Proofs.Double.Region
import QuietBox.Proofs.Word.Accessors

/-!
Boxing with one NaN. A NaN is told by its exponent and mantissa, a reserved word by its sign,
exponent and quiet bit, and the canonical NaN by all its bits. Every reserved word is a NaN, so a
box made with the canonical one is a double whatever was boxed, and it changes nothing else.
-/

set_option autoImplicit false

namespace QuietBox

/-- The reserved signature: sign clear, exponent all ones, quiet bit set. -/
theorem Word.signature_eq_reserved_iff (w : Word) :
    w.signature = reservedSignature ↔
      w.getLsbD 63 = false ∧ w.extractLsb' 52 11 = BitVec.allOnes 11 ∧ w.getLsbD 51 = true := by
  have bound := w.isLt
  rw [← BitVec.testBit_toNat, ← BitVec.testBit_toNat, ← BitVec.toNat_inj,
    BitVec.extractLsb'_toNat, Nat.testBit_eq_decide_div_mod_eq, Nat.testBit_eq_decide_div_mod_eq,
    Nat.shiftRight_eq_div_pow, decide_eq_false_iff_not, decide_eq_true_iff]
  simp only [Word.signature, reservedSignature, BitVec.toNat_allOnes]
  omega

namespace Double

/-- The exponent is all ones and the mantissa is not zero. -/
def HasNaNBits (d : Double) : Prop :=
  d.bits.extractLsb' 52 11 = BitVec.allOnes 11 ∧ d.bits.extractLsb' 0 52 ≠ 0

instance (d : Double) : Decidable d.HasNaNBits := inferInstanceAs (Decidable (_ ∧ _))

theorem isNaN_iff (d : Double) : d.isNaN ↔ d.HasNaNBits := by
  have bound := d.bits.isLt
  rw [HasNaNBits, ne_eq, ← BitVec.toNat_inj, ← BitVec.toNat_inj, BitVec.extractLsb'_toNat,
    BitVec.extractLsb'_toNat, Nat.shiftRight_eq_div_pow, isNaN, decide_eq_true_iff]
  simp only [infinityMagnitude, magnitude, Nat.shiftRight_zero, BitVec.toNat_allOnes,
    BitVec.ofNat_eq_ofNat, BitVec.toNat_ofNat]
  omega

theorem unreserved_of_not_isNaN {d : Double} (h : ¬d.isNaN) :
    d.bits.signature ≠ reservedSignature := by
  apply unreserved_of_magnitude_le
  simpa [isNaN] using h

/-- A NaN lies in the reserved region when its sign is clear and its quiet bit set. -/
theorem signature_bits_eq_reserved_iff (d : Double) :
    d.bits.signature = reservedSignature ↔
      d.isNaN ∧ d.bits.getLsbD 63 = false ∧ d.bits.getLsbD 51 = true := by
  constructor
  · intro inside
    obtain ⟨sign, -, quiet⟩ := (Word.signature_eq_reserved_iff d.bits).mp inside
    refine ⟨?_, sign, quiet⟩
    apply Classical.byContradiction
    intro number
    exact unreserved_of_not_isNaN number inside
  · rintro ⟨nan, sign, quiet⟩
    obtain ⟨exponent, -⟩ := (isNaN_iff d).mp nan
    exact (Word.signature_eq_reserved_iff d.bits).mpr ⟨sign, exponent, quiet⟩

/-- A word that is no double is a NaN by its bits. -/
theorem isNaN_of_not_isDouble {w : Word} (h : ¬w.isDouble) : w.toDouble.isNaN := by
  apply Classical.byContradiction
  intro number
  exact h (Word.isDouble_of_unreserved (unreserved_of_not_isNaN number))

end Double

namespace Word

variable {d : Double}

theorem ofDoubleCanonical_of_isNaN (h : d.isNaN) : ofDoubleCanonical d = nan := by
  unfold ofDoubleCanonical
  by_cases canonical : d.bits = nan
  · simp [canonical, ofDouble]
  · simp [canonical, h]

theorem ofDoubleCanonical_of_not_isNaN (h : ¬d.isNaN) : ofDoubleCanonical d = d.bits := by
  simp [ofDoubleCanonical, ofDouble, h]

theorem toDouble_nan : nan.toDouble = Double.canonicalNaN := by decide

/-- The double that a canonical box holds. -/
theorem toDouble_ofDoubleCanonical (d : Double) :
    (ofDoubleCanonical d).toDouble = if d.isNaN then Double.canonicalNaN else d := by
  by_cases h : d.isNaN
  · rw [ofDoubleCanonical_of_isNaN h, toDouble_nan, if_pos h]
  · rw [ofDoubleCanonical_of_not_isNaN h, if_neg h]
    rfl

theorem isDouble_ofDoubleCanonical (d : Double) : (ofDoubleCanonical d).isDouble := by
  by_cases h : d.isNaN
  · rw [ofDoubleCanonical_of_isNaN h]
    decide
  · rw [ofDoubleCanonical_of_not_isNaN h]
    exact isDouble_of_unreserved (Double.unreserved_of_not_isNaN h)

theorem ofDoubleCanonical_toDouble (d : Double) :
    ofDoubleCanonical (ofDoubleCanonical d).toDouble = ofDoubleCanonical d := by
  rw [toDouble_ofDoubleCanonical]
  by_cases h : d.isNaN
  · rw [if_pos h, ofDoubleCanonical_of_isNaN h]
    exact ofDoubleCanonical_of_isNaN (by decide)
  · rw [if_neg h]

/-- Only NaNs are boxed alike. -/
theorem ofDoubleCanonical_eq_iff {d e : Double} :
    ofDoubleCanonical d = ofDoubleCanonical e ↔ d = e ∨ d.isNaN ∧ e.isNaN := by
  constructor
  · intro same
    have held := congrArg toDouble same
    rw [toDouble_ofDoubleCanonical, toDouble_ofDoubleCanonical] at held
    have canonical : Double.canonicalNaN.isNaN := by decide
    by_cases hd : d.isNaN
    · by_cases he : e.isNaN
      · exact Or.inr ⟨hd, he⟩
      · rw [if_pos hd, if_neg he] at held
        exact absurd (held ▸ canonical) he
    · by_cases he : e.isNaN
      · rw [if_neg hd, if_pos he] at held
        exact absurd (held ▸ canonical) hd
      · rw [if_neg hd, if_neg he] at held
        exact Or.inl held
  · rintro (rfl | ⟨hd, he⟩)
    · rfl
    · rw [ofDoubleCanonical_of_isNaN hd, ofDoubleCanonical_of_isNaN he]

/-- Boxed as it stands, a double stays one unless it lies in the reserved region. -/
theorem isDouble_ofDouble_iff (d : Double) :
    (ofDouble d).isDouble ↔
      ¬(d.isNaN ∧ d.bits.getLsbD 63 = false ∧ d.bits.getLsbD 51 = true ∧
        d ≠ Double.canonicalNaN) := by
  have canonical : d.bits.isNan ↔ d = Double.canonicalNaN := by
    rw [isNan, decide_eq_true_iff, ← toDouble_nan]
    exact ⟨congrArg toDouble, congrArg Double.bits⟩
  rw [ofDouble, isDouble, Bool.or_eq_true, decide_eq_true_iff, canonical, ne_eq,
    d.signature_bits_eq_reserved_iff]
  simp only [ne_eq, Classical.not_and_iff_not_or_not, Classical.not_not, or_assoc]

/-- Boxing with the canonical NaN is a retraction onto the doubles that are boxed as themselves: its
box always holds a double, which is the one boxed or, for any NaN, the canonical NaN; that double is
boxed alike; no doubles but NaNs share a box; and the bits of a word that is no double are boxed as
the canonical NaN. Boxed as it stands, a NaN with a clear sign and a set quiet bit is no double,
unless it is the canonical one. -/
theorem canonical_boxing_is_retraction :
    (∀ d : Double, (ofDoubleCanonical d).isDouble ∧
      ∃ e, (ofDoubleCanonical d).asDouble = .ok e ∧
        (¬d.HasNaNBits → e = d) ∧ (d.HasNaNBits → e = Double.canonicalNaN) ∧
        ofDoubleCanonical e = ofDoubleCanonical d) ∧
    (∀ d e : Double, ofDoubleCanonical d = ofDoubleCanonical e ↔
      d.bits = e.bits ∨ d.HasNaNBits ∧ e.HasNaNBits) ∧
    (∀ w : Word, ¬w.isDouble → ofDoubleCanonical w.toDouble = nan) ∧
    (∀ d : Double, (ofDouble d).isDouble ↔
      ¬(d.HasNaNBits ∧ d.bits.getLsbD 63 = false ∧ d.bits.getLsbD 51 = true ∧
        d ≠ Double.canonicalNaN)) := by
  simp only [← Double.isNaN_iff]
  refine ⟨?_, ?_, ?_, ?_⟩
  · intro d
    have double := isDouble_ofDoubleCanonical d
    refine ⟨double, (ofDoubleCanonical d).toDouble, ?_, ?_, ?_, ofDoubleCanonical_toDouble d⟩
    · rw [asDouble_eq, if_pos double]
    · intro number
      rw [toDouble_ofDoubleCanonical, if_neg number]
    · intro isNaN
      rw [toDouble_ofDoubleCanonical, if_pos isNaN]
  · intro d e
    rw [ofDoubleCanonical_eq_iff]
    exact or_congr ⟨congrArg Double.bits, congrArg toDouble⟩ Iff.rfl
  · intro w tagged
    exact ofDoubleCanonical_of_isNaN (Double.isNaN_of_not_isDouble tagged)
  · exact isDouble_ofDouble_iff

/-- Infinity, a signalling NaN next to it, which stays a double as it stands, a negative NaN, and
the word of a pointer. -/
theorem canonical_boxing_is_retraction_near_infinity :
    (∃ e, (ofDoubleCanonical ⟨0x7FF0000000000000⟩).asDouble = .ok e ∧ e = ⟨0x7FF0000000000000⟩) ∧
      (∃ e, (ofDoubleCanonical ⟨0x7FF0000000000001⟩).asDouble = .ok e ∧ e = Double.canonicalNaN) ∧
      (ofDouble ⟨0x7FF0000000000001⟩).isDouble ∧
      ofDoubleCanonical ⟨0x7FF0000000000001⟩ = ofDoubleCanonical ⟨0xFFF8000000000000⟩ ∧
      ofDoubleCanonical ⟨0x7FF0000000000000⟩ ≠ ofDoubleCanonical ⟨0x7FF0000000000001⟩ ∧
      ¬(ofDouble (toDouble 0x7FFC000000001000)).isDouble ∧
      ofDoubleCanonical (toDouble 0x7FFC000000001000) = nan := by
  obtain ⟨held, alike, tagged, plain⟩ := canonical_boxing_is_retraction
  obtain ⟨-, infinity, read, same, -⟩ := held ⟨0x7FF0000000000000⟩
  obtain ⟨-, signalling, readNaN, -, canonical, -⟩ := held ⟨0x7FF0000000000001⟩
  refine ⟨⟨infinity, read, same (by decide)⟩, ⟨signalling, readNaN, canonical (by decide)⟩,
    (plain _).mpr (by decide), (alike _ _).mpr (Or.inr (by decide)), ?_, ?_, tagged _ (by decide)⟩
  · rw [ne_eq, alike]
    decide
  · rw [plain]
    decide

end Word

end QuietBox
