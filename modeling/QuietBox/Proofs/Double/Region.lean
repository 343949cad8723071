import QuietBox.Double.Reader
import QuietBox.Word.Boxing

/-!
Doubles and the reserved region. Finite numbers and infinities stay below the quiet bit, so they are
outside the region; the NaNs that numerals denote are the canonical one and its negative. Hence no
text reads as a double that would box as something else.
-/

set_option autoImplicit false

namespace QuietBox.Double

/-- Finite numbers and infinities lie outside the reserved region, whatever their sign. -/
theorem unreserved_of_magnitude_le {d : Double} (h : d.magnitude ≤ infinityMagnitude) :
    d.bits.signature ≠ reservedSignature := by
  have bits := d.toNat_bits
  simp only [infinityMagnitude] at h
  simp only [Word.signature, bits, reservedSignature]
  cases d.isNegative <;> simp only [Bool.toNat_false, Bool.toNat_true] <;> omega

theorem boxable_of_magnitude_le {d : Double} (h : d.magnitude ≤ infinityMagnitude) :
    (Content.double d).Boxable := Or.inl (unreserved_of_magnitude_le h)

theorem boxable_nan (negative : Bool) : (Content.double (nan negative)).Boxable := by
  cases negative with
  | false => exact Or.inr (by decide)
  | true => exact Or.inl (by decide)

theorem boxable_ofMagnitude (negative : Bool) {m : Nat} (h : m ≤ infinityMagnitude) :
    (Content.double (ofMagnitude negative m)).Boxable := by
  apply boxable_of_magnitude_le
  rw [magnitude_ofMagnitude]
  exact Nat.le_trans (Nat.mod_le _ _) h

/-- However large a number is, rounding stops at infinity. -/
theorem nearestMagnitude_le (r : Rat) : nearestMagnitude r ≤ infinityMagnitude := by
  unfold nearestMagnitude
  split
  · exact Nat.zero_le _
  · exact Nat.min_le_left _ _

theorem boxable_of_readUnsigned? {negative : Bool} {text : List Char} {d : Double}
    (h : readUnsigned? negative text = some d) : (Content.double d).Boxable := by
  unfold readUnsigned? at h
  split at h
  · rw [← Option.some.inj h]
    exact boxable_ofMagnitude negative (nearestMagnitude_le _)
  · unfold readWord? at h
    simp only at h
    split at h
    · rw [← Option.some.inj h]
      exact boxable_nan negative
    · split at h
      · rw [← Option.some.inj h]
        exact boxable_ofMagnitude negative (Nat.le_refl _)
      · cases h

/-- Whatever text is read, its double boxes as a double. -/
theorem boxable_of_read {text : List Char} {d : Double} (h : read text = .ok d) :
    (Content.double d).Boxable := by
  rcases read_eq_ok_iff.mp h with unsigned | ⟨rest, ⟨-, signed⟩ | ⟨-, signed⟩⟩
  · exact boxable_of_readUnsigned? unsigned
  · exact boxable_of_readUnsigned? signed
  · exact boxable_of_readUnsigned? signed

end QuietBox.Double
