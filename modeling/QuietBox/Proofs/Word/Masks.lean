import QuietBox.Word.Access
import QuietBox.Word.Layout

/-!
Fields by masks and shifts. A word is put together by shifting its fields into their places and
cutting them there, and taken apart by the same masks: these are the fields that division and
remainder give, and a word has a tag if it agrees with it in all bits above the payload.
-/

set_option autoImplicit false

namespace QuietBox

open Layout

namespace Tagged

variable (t : Tagged)

theorem toNat_shiftLeft_signatureShift :
    (BitVec.ofNat 64 t.signature <<< signatureShift).toNat =
      t.signature % 0x2000 * 0x8000000000000 := by
  rw [BitVec.toNat_shiftLeft, Nat.shiftLeft_eq, BitVec.toNat_ofNat]
  change t.signature % 0x10000000000000000 * 0x8000000000000 % 0x10000000000000000 = _
  omega

theorem toNat_and_tagMask :
    (BitVec.ofNat 64 t.tag.toNat <<< tagShift &&& tagMask).toNat =
      t.tag.toNat * 0x1000000000000 := by
  cases t.tag <;> decide

theorem toNat_and_payloadMask :
    (BitVec.ofNat 64 t.payload &&& payloadMask).toNat = t.payload % 0x1000000000000 := by
  rw [Layout.toNat_and_payloadMask, Word.payload, BitVec.toNat_ofNat]
  change t.payload % 0x10000000000000000 % 0x1000000000000 = _
  omega

/-- The fields are shifted into their places, and what does not fit there is cut. -/
theorem toWord_eq_masks :
    t.toWord =
      BitVec.ofNat 64 t.signature <<< signatureShift |||
        (BitVec.ofNat 64 t.tag.toNat <<< tagShift &&& tagMask) |||
        (BitVec.ofNat 64 t.payload &&& payloadMask) := by
  have tag := t.tag.toNat_lt
  have low : t.payload % 0x1000000000000 < 2 ^ 48 := Nat.mod_lt _ (by decide)
  have middle : t.tag.toNat * 0x1000000000000 < 2 ^ 51 := by omega
  -- No two fields share a bit, so to put them side by side is to add them.
  have upper : t.signature % 0x2000 * 0x8000000000000 ||| t.tag.toNat * 0x1000000000000 =
      t.signature % 0x2000 * 0x8000000000000 + t.tag.toNat * 0x1000000000000 := by
    rw [Nat.mul_comm (t.signature % 0x2000)]
    exact (Nat.two_pow_add_eq_or_of_lt middle _).symm
  have whole : (t.signature % 0x2000 * 8 + t.tag.toNat) * 0x1000000000000 |||
        t.payload % 0x1000000000000 =
      (t.signature % 0x2000 * 8 + t.tag.toNat) * 0x1000000000000 +
        t.payload % 0x1000000000000 := by
    rw [Nat.mul_comm _ 0x1000000000000]
    exact (Nat.two_pow_add_eq_or_of_lt low _).symm
  have joined : t.signature % 0x2000 * 0x8000000000000 + t.tag.toNat * 0x1000000000000 =
      (t.signature % 0x2000 * 8 + t.tag.toNat) * 0x1000000000000 := by
    omega
  apply BitVec.eq_of_toNat_eq
  rw [BitVec.toNat_or, BitVec.toNat_or, toNat_shiftLeft_signatureShift, toNat_and_tagMask,
    toNat_and_payloadMask, toNat_toWord, upper, joined, whole]

end Tagged

namespace Word

variable (w : Word)

/-- A word has a tag if all its bits above the payload are the tag's. -/
theorem hasTag_iff_masks (t : Tag) : w.hasTag t ↔ w &&& signatureMask = tagBits t := by
  have empty : (reserved t 0).toNat % 0x1000000000000 = 0 := by
    cases t <;> decide
  rw [hasTag, decide_eq_true_iff, ← BitVec.toNat_inj, toNat_and_signatureMask, tagBits_eq_reserved]
  omega

/-- The tag field is masked out and shifted down into a byte. -/
theorem tagField_eq_masks :
    w.tagField = Tag.ofField (((w &&& tagMask) >>> tagShift).setWidth 8).toNat := by
  have field : (w &&& tagMask) >>> tagShift = w >>> tagShift &&& 7 := by
    rw [BitVec.ushiftRight_and_distrib]
    congr 1
  have bits : ((w &&& tagMask) >>> tagShift).toNat = w.toNat / 0x1000000000000 % 8 := by
    rw [field, BitVec.toNat_and, BitVec.toNat_ushiftRight, Nat.shiftRight_eq_div_pow]
    exact Nat.and_two_pow_sub_one_eq_mod _ 3
  have byte : (((w &&& tagMask) >>> tagShift).setWidth 8).toNat =
      w.toNat / 0x1000000000000 % 8 := by
    rw [BitVec.toNat_setWidth, bits]
    omega
  rw [byte, Tag.ofField_mod, tagField]

/-- An integer is masked out of the low half of the payload. -/
theorem toUint_eq_masks : w.toUint = ⟨(w &&& integerMask).setWidth 32⟩ := by
  have low : (w &&& integerMask).toNat = w.toNat % 0x100000000 := by
    rw [BitVec.toNat_and]
    exact Nat.and_two_pow_sub_one_eq_mod _ 32
  apply UInt32.toNat_inj.mp
  rw [toUint, UInt32.toNat_ofNat', UInt32.toNat, BitVec.toNat_setWidth, low]

/-- The signature is shifted down into sixteen bits. -/
theorem signature_eq_masks : w.signature = ((w >>> signatureShift).setWidth 16).toNat := by
  have small := w.signature_lt
  rw [BitVec.toNat_setWidth, toNat_ushiftRight_signatureShift]
  omega

theorem signature_eq_reserved_iff_masks :
    w.signature = reservedSignature ↔ w >>> signatureShift = nanMask >>> signatureShift := by
  rw [← BitVec.toNat_inj, toNat_ushiftRight_signatureShift, nanMask_shifted]

end Word

end QuietBox
