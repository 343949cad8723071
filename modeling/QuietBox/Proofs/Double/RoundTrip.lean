import QuietBox.Proofs.Double.GridSearch
import QuietBox.Proofs.Double.Region
import QuietBox.Proofs.Text.PositionalReading

/-!
The plain text of a double reads as the double. For a finite number the text is the shortest
decimal, which rounds back; zeros and infinities have texts of their own, and the sign stands in
front of either. All NaNs share one text, which reads as the canonical one.
-/

set_option autoImplicit false

namespace QuietBox.Double

theorem magnitude_le_of_not_isNaN {d : Double} (number : d.isNaN = false) :
    d.magnitude ≤ infinityMagnitude := by
  simpa [isNaN] using number

/-- A text that is a word for an infinity, and a decimal near the magnitude for a finite one, reads
as the magnitude. -/
theorem readUnsigned?_of_near {d : Double} (number : d.isNaN = false) (negative : Bool)
    {finite : List Char}
    (near : d.magnitude < infinityMagnitude →
      ∃ r, Decimal.read? finite = some r ∧ nearestMagnitude r.value = d.magnitude) :
    readUnsigned? negative
        (if d.isNaN then ['N', 'a', 'N'] else if d.isInfinite then ['i', 'n', 'f'] else finite) =
      some (ofMagnitude negative d.magnitude) := by
  have le := magnitude_le_of_not_isNaN number
  rw [number, if_neg Bool.false_ne_true]
  by_cases infinite : d.isInfinite
  · have magnitude : d.magnitude = infinityMagnitude := by simpa [isInfinite] using infinite
    rw [if_pos infinite, magnitude]
    rfl
  · have other : d.magnitude ≠ infinityMagnitude := by simpa [isInfinite] using infinite
    obtain ⟨r, read, same⟩ := near (by omega)
    rw [if_neg infinite, readUnsigned?, read]
    simp only [nearest, same]

/-- The zeros are read from any decimal without a value. -/
theorem nearestMagnitude_of_digits_eq_zero {r : Decimal} (zero : r.digits = 0) :
    nearestMagnitude r.value = 0 := by
  simp [Decimal.value, zero, nearestMagnitude]

/-- The text of a magnitude reads as the magnitude, under either sign. -/
theorem readUnsigned?_plainText {d : Double} (number : d.isNaN = false) (negative : Bool) :
    readUnsigned? negative d.plainText = some (ofMagnitude negative d.magnitude) := by
  rw [plainText_eq]
  apply readUnsigned?_of_near number
  intro finite
  by_cases zero : d.magnitude = 0
  · rw [if_pos zero, zero]
    exact ⟨⟨0, 0⟩, Decimal.read?_decimal 0, nearestMagnitude_of_digits_eq_zero rfl⟩
  · obtain ⟨r, read, same⟩ := Decimal.exists_read?_positional (shortest d.magnitude)
    rw [if_neg zero]
    refine ⟨r, read, ?_⟩
    rw [same]
    exact nearestMagnitude_shortest (Nat.pos_of_ne_zero zero) finite

/-- Without a format spec there is at most a minus in front. -/
theorem plain_default (d : Double) :
    d.plain {} =
      (if d.isNaN then [] else if d.isNegative then ['-'] else []) ++ d.plainText :=
  Format.Spec.pad_unpadded {} _ _

theorem plain_of_isNaN {d : Double} (h : d.isNaN) : d.plain {} = ['N', 'a', 'N'] := by
  rw [plain_default, plainText_eq, if_pos h, if_pos h, List.nil_append]

theorem read_nan_text : read ['N', 'a', 'N'] = .ok canonicalNaN :=
  read_eq_ok_iff.mpr (Or.inl rfl)

/-- A magnitude under its sign is the double. -/
theorem read_signed {d : Double} {text : List Char}
    (unsigned : ∀ negative, readUnsigned? negative text = some (ofMagnitude negative d.magnitude)) :
    read ((if d.isNegative then ['-'] else []) ++ text) = .ok d := by
  have magnitude := unsigned d.isNegative
  rw [ofMagnitude_magnitude] at magnitude
  cases negative : d.isNegative with
  | true =>
    rw [negative] at magnitude
    exact read_eq_ok_iff.mpr (Or.inr ⟨_, Or.inl ⟨rfl, magnitude⟩⟩)
  | false =>
    rw [negative] at magnitude
    exact read_eq_ok_iff.mpr (Or.inl magnitude)

/-- Every double but a NaN is what its text reads as, bit for bit. -/
theorem read_plain {d : Double} (number : d.isNaN = false) : read (d.plain {}) = .ok d := by
  rw [plain_default, number, if_neg Bool.false_ne_true]
  exact read_signed (readUnsigned?_plainText number)

end QuietBox.Double
