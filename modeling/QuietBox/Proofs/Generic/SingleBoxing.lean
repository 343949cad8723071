import QuietBox.Proofs.Double.Canonical
import QuietBox.Proofs.Double.Widening
import QuietBox.Proofs.Generic.Dispatch

/-!
Boxing of singles. Numbers box as the doubles of their values, so nothing is lost. A quiet NaN takes
its bits along, and they come to lie on the tag and the payload of the word: unless its sign is set
or they are all zero, the word is no double and holds what these bits say.
-/

set_option autoImplicit false

namespace QuietBox

theorem toNat_append {n m : Nat} (high : BitVec n) (low : BitVec m) :
    (high ++ low).toNat = high.toNat * 2 ^ m + low.toNat := by
  rw [BitVec.toNat_append, ← Nat.shiftLeft_add_eq_or_of_lt low.isLt, Nat.shiftLeft_eq]

namespace Single

/-- The quiet NaN with a sign and the bits below the quiet bit. -/
def quietNaN (negative : Bool) (low : BitVec 22) : Single :=
  ⟨BitVec.ofBool negative ++ BitVec.allOnes 9 ++ low⟩

section QuietNaN

variable (negative : Bool) (low : BitVec 22)

theorem toNat_bits_quietNaN :
    (quietNaN negative low).bits.toNat =
      negative.toNat * 0x80000000 + 0x1FF * 0x400000 + low.toNat := by
  have head : (BitVec.ofBool negative ++ BitVec.allOnes 9).toNat =
      negative.toNat * 0x200 + 0x1FF := by
    cases negative <;> rfl
  rw [quietNaN, toNat_append, head]
  omega

theorem isNaN_quietNaN : (quietNaN negative low).isNaN := by
  have bits := toNat_bits_quietNaN negative low
  have bound := low.isLt
  rw [isNaN, decide_eq_true_iff, infinityMagnitude, magnitude, bits]
  omega

theorem isNegative_quietNaN : (quietNaN negative low).isNegative = negative := by
  have bits := toNat_bits_quietNaN negative low
  have bound := low.isLt
  rw [isNegative, bits]
  cases negative <;> simp only [Bool.toNat_false, Bool.toNat_true, decide_eq_true_eq,
    decide_eq_false_iff_not] <;> omega

theorem exists_quietNaN_iff (x : Single) :
    x.isNaN ∧ x.bits.getLsbD 22 ↔ ∃ negative low, x = quietNaN negative low := by
  have bound := x.bits.isLt
  rw [← BitVec.testBit_toNat, Nat.testBit_eq_decide_div_mod_eq, isNaN, decide_eq_true_iff,
    decide_eq_true_iff, infinityMagnitude, magnitude]
  constructor
  · intro quiet
    refine ⟨x.isNegative, BitVec.ofNat 22 x.bits.toNat, ?_⟩
    have same : x.bits = (quietNaN x.isNegative (BitVec.ofNat 22 x.bits.toNat)).bits := by
      apply BitVec.eq_of_toNat_eq
      rw [toNat_bits_quietNaN, BitVec.toNat_ofNat, isNegative]
      cases sign : decide (x.bits.toNat / 0x80000000 = 1) <;>
        simp only [decide_eq_true_eq, decide_eq_false_iff_not] at sign <;>
        simp only [Bool.toNat_false, Bool.toNat_true] <;> omega
    exact congrArg Single.mk same
  · intro same
    obtain ⟨negative, low, rfl⟩ := same
    have bits := toNat_bits_quietNaN negative low
    have lowBound := low.isLt
    omega

/-- The sign, the exponent and the quiet bit are spread out, and the bits below move to the top. -/
theorem bits_toDouble_quietNaN :
    (quietNaN negative low).toDouble.bits =
      BitVec.ofBool negative ++ BitVec.allOnes 12 ++ low ++ 0#29 := by
  have bits := toNat_bits_quietNaN negative low
  have bound := low.isLt
  have head : (BitVec.ofBool negative ++ BitVec.allOnes 12).toNat =
      negative.toNat * 0x1000 + 0xFFF := by
    cases negative <;> rfl
  apply BitVec.eq_of_toNat_eq
  rw [toDouble, if_pos (isNaN_quietNaN negative low), isNegative_quietNaN, Double.toNat_bits,
    Double.isNegative_ofMagnitude, Double.magnitude_ofMagnitude, magnitude, bits, toNat_append,
    toNat_append, head]
  simp only [reservedSignature, BitVec.toNat_ofNat]
  omega

/-- The top three of the bits become the tag and the others the top of the payload. -/
theorem bits_toDouble_quietNaN_false :
    (quietNaN false low).toDouble.bits =
      Word.reserved (Tag.ofField (low.extractLsb' 19 3).toNat)
        ((low.extractLsb' 0 19).toNat * 0x20000000) := by
  have bound := low.isLt
  have head : (BitVec.ofBool false ++ BitVec.allOnes 12).toNat = 0xFFF := rfl
  rw [bits_toDouble_quietNaN]
  apply BitVec.eq_of_toNat_eq
  rw [Word.toNat_reserved, Tag.toNat_ofField, toNat_append, toNat_append, head,
    BitVec.extractLsb'_toNat, BitVec.extractLsb'_toNat, Nat.shiftRight_eq_div_pow]
  simp only [reservedSignature, BitVec.toNat_ofNat, Nat.shiftRight_zero]
  omega

/-- A negative NaN lies outside the reserved region, and only the canonical one in it is a
double. -/
theorem isDouble_quietNaN_iff :
    (Word.ofDouble (quietNaN negative low).toDouble).isDouble ↔ negative ∨ low = 0 := by
  rw [Word.ofDouble]
  cases negative with
  | true =>
    have head : (BitVec.ofBool true ++ BitVec.allOnes 12).toNat = 0x1FFF := rfl
    have bound := low.isLt
    have outside : (quietNaN true low).toDouble.bits.signature ≠ reservedSignature := by
      rw [bits_toDouble_quietNaN, Word.signature, toNat_append, toNat_append, head]
      simp only [reservedSignature, BitVec.toNat_ofNat]
      omega
    simp [Word.isDouble_of_unreserved outside]
  | false =>
    have bound := low.isLt
    have zero : low = 0 ↔ low.toNat = 0 := BitVec.toNat_inj.symm
    have tag : Tag.ofField (low.extractLsb' 19 3).toNat = .nan ↔ low.toNat / 0x80000 = 0 := by
      have field := Tag.toNat_ofField (low.extractLsb' 19 3).toNat
      rw [BitVec.extractLsb'_toNat, Nat.shiftRight_eq_div_pow] at field ⊢
      constructor
      · intro nan
        rw [nan] at field
        change 0 = _ at field
        omega
      · intro none
        rw [show low.toNat / 2 ^ 19 % 2 ^ 3 = 0 by omega]
        rfl
    rw [bits_toDouble_quietNaN_false, Word.isDouble_reserved, Bool.and_eq_true, decide_eq_true_iff,
      decide_eq_true_iff, tag, zero, BitVec.extractLsb'_toNat]
    simp only [Nat.shiftRight_zero, Bool.false_eq_true, false_or]
    omega

end QuietNaN

/-- Neither conversion refuses a single. -/
theorem box_eq (x : Single) :
    HostType.single.box rfl x = .ok (.ofDouble x.toDouble) ∧
      Dynamic.box .single x = .ok (.ofDouble x.toDouble) := by
  have listed : Dynamic.Listed Dynamic.candidates .single :=
    Dynamic.listed_iff.mpr ⟨0, .single, .single, by decide, rfl⟩
  exact ⟨rfl, Dynamic.box_of_listed listed rfl x⟩

theorem isNaN_toDouble_of_number {x : Single} (number : x.isNaN = false) :
    x.toDouble.isNaN = false := by
  have same := x.number?_toDouble
  cases nan : x.toDouble.isNaN with
  | false => rfl
  | true =>
    rw [Double.number?, if_pos nan, number?, number, if_neg Bool.false_ne_true] at same
    split at same <;> cases same

end Single

/-- Singles box as doubles of the same number and sign, whichever conversion is taken; different
numbers have different boxes, and their order is kept, as is that of their bits below the sign. The
bits of a quiet NaN move as they stand: its box is a double if its sign is set or the bits below the
quiet bit are zero, and otherwise the first three of these are the tag of the box and the others the
top of its payload. -/
theorem single_boxes_are_exact :
    (∀ x : Single, ∃ w, HostType.single.box rfl x = .ok w ∧ Dynamic.box .single x = .ok w) ∧
    (∀ x : Single, x.isNaN = false → ∃ w d n,
      HostType.single.box rfl x = .ok w ∧ w.isDouble ∧ w.asDouble = .ok d ∧
        x.number? = some n ∧ d.number? = some n ∧ d.isNegative = x.isNegative) ∧
    (∀ x y : Single, x.isNaN = false → y.isNaN = false →
      HostType.single.box rfl x = HostType.single.box rfl y → x = y) ∧
    (∀ x y : Single, Number.Less x.number? y.number? ↔
      Number.Less x.toDouble.number? y.toDouble.number?) ∧
    (∀ x y : Single, x.isNaN = false → y.isNaN = false →
      (x.magnitude < y.magnitude ↔ x.toDouble.magnitude < y.toDouble.magnitude)) ∧
    (∀ x : Single, x.isNaN ∧ x.bits.getLsbD 22 ↔
      ∃ negative low, x = Single.quietNaN negative low) ∧
    (∀ (negative : Bool) (low : BitVec 22), ∃ w,
      HostType.single.box rfl (Single.quietNaN negative low) = .ok w ∧
        w = BitVec.ofBool negative ++ BitVec.allOnes 12 ++ low ++ 0#29 ∧
        (w.isDouble ↔ negative ∨ low = 0) ∧
        (¬w.isDouble → w.tagged? = some
          ⟨reservedSignature, Tag.ofField (low.extractLsb' 19 3).toNat,
            (low.extractLsb' 0 19).toNat * 0x20000000⟩)) := by
  refine ⟨?_, ?_, ?_, ?_, ?_, Single.exists_quietNaN_iff, ?_⟩
  · intro x
    exact ⟨_, x.box_eq⟩
  · intro x number
    have double : (Word.ofDouble x.toDouble).isDouble :=
      Word.isDouble_of_unreserved (Double.unreserved_of_not_isNaN (by
        rw [Single.isNaN_toDouble_of_number number]
        exact Bool.false_ne_true))
    have held : ∃ n, x.number? = some n := by
      rw [Single.number?, number, if_neg Bool.false_ne_true]
      split <;> exact ⟨_, rfl⟩
    obtain ⟨n, same⟩ := held
    refine ⟨_, x.toDouble, n, x.box_eq.1, double, ?_, same, ?_, x.isNegative_toDouble⟩
    · rw [Word.asDouble_eq, if_pos double]
      rfl
    · rw [Single.number?_toDouble, same]
  · intro x y hx hy same
    rw [x.box_eq.1, y.box_eq.1] at same
    exact Single.toDouble_inj hx hy (congrArg Word.toDouble (Except.ok.inj same))
  · intro x y
    rw [Single.number?_toDouble, Single.number?_toDouble]
  · intro x y hx hy
    exact (Single.magnitude_toDouble_lt_iff hx hy).symm
  · intro negative low
    have double := Single.isDouble_quietNaN_iff negative low
    refine ⟨_, (Single.quietNaN negative low).box_eq.1,
      Single.bits_toDouble_quietNaN negative low, double, ?_⟩
    intro tagged
    obtain rfl : negative = false := by
      cases negative with
      | false => rfl
      | true => exact absurd (double.mpr (Or.inl rfl)) tagged
    have bound := (low.extractLsb' 0 19).isLt
    rw [Word.tagged?, if_neg tagged, Word.ofDouble, Single.bits_toDouble_quietNaN_false,
      Word.fields_reserved, Nat.mod_eq_of_lt (by omega)]

/-- The least subnormal, the greatest number against infinity, and NaNs whose boxes are a string and
an ordinary double. -/
theorem single_boxes_are_exact_at_extremes :
    (∃ w d n, HostType.single.box rfl ⟨0x00000001⟩ = .ok w ∧ w.isDouble ∧ w.asDouble = .ok d ∧
      Single.number? ⟨0x00000001⟩ = some n ∧ d.number? = some n ∧ d.isNegative = false) ∧
    (HostType.single.box rfl ⟨0x00000000⟩ ≠ HostType.single.box rfl ⟨0x80000000⟩) ∧
    Double.magnitude (Single.toDouble ⟨0x7F7FFFFF⟩) <
      Double.magnitude (Single.toDouble ⟨0x7F800000⟩) ∧
    (∃ w, HostType.single.box rfl (Single.quietNaN false 0x280001) = .ok w ∧
      w.tagged? = some ⟨reservedSignature, .string, 0x20000000⟩) ∧
    (∃ w, HostType.single.box rfl (Single.quietNaN true 0x280001) = .ok w ∧ w.isDouble) := by
  obtain ⟨-, exact_value, distinct, -, order, -, nan⟩ := single_boxes_are_exact
  obtain ⟨s, boxedString, -, notDouble, string⟩ := nan false 0x280001
  obtain ⟨d, boxedDouble, -, double, -⟩ := nan true 0x280001
  refine ⟨exact_value ⟨0x00000001⟩ (by decide), ?_, ?_, ⟨s, boxedString, ?_⟩,
    ⟨d, boxedDouble, double.mpr (Or.inl rfl)⟩⟩
  · intro same
    exact absurd (distinct _ _ (by decide) (by decide) same) (by decide)
  · exact (order _ _ (by decide) (by decide)).mp (by decide)
  · apply string
    rw [notDouble]
    decide

end QuietBox
