import QuietBox.Word.Basic

/-!
The layout of a word as masks, shifts and widths, with the lemmas that tie the masks to the fields:
masking a word and shifting it down reads the same number as division and remainder.
-/

set_option autoImplicit false

namespace QuietBox.Layout

def tagWidth : Nat := 3
def tagShift : Nat := 48
def payloadWidth : Nat := 48
def signatureWidth : Nat := 13
def signatureShift : Nat := 64 - signatureWidth

def signMask : Word := 0x8000000000000000
def exponentMask : Word := 0x7FF0000000000000
def quietMask : Word := 0x0008000000000000
def tagMask : Word := 0x0007000000000000

/-- The bits of the reserved signature. -/
def nanMask : Word := exponentMask ||| quietMask

/-- The bits that tell what a word is: everything above the payload. -/
def signatureMask : Word := signMask ||| exponentMask ||| quietMask ||| tagMask

def payloadMask : Word := ~~~signatureMask

/-- Integers live in the low half of the payload. -/
def integerMask : Word := 0xFFFFFFFF

/-- The reserved word of a tag with an empty payload. -/
def tagBits (t : Tag) : Word := BitVec.ofNat 64 t.toNat <<< tagShift ||| nanMask

theorem tagBits_eq_reserved (t : Tag) : tagBits t = Word.reserved t 0 := by
  cases t <;> decide

theorem toNat_and_payloadMask (w : Word) : (w &&& payloadMask).toNat = w.payload := by
  have mask : payloadMask.toNat = 2 ^ 48 - 1 := by decide
  rw [BitVec.toNat_and, mask, Nat.and_two_pow_sub_one_eq_mod, Word.payload]

/-- Only the bits above the payload are left. -/
theorem toNat_and_signatureMask (w : Word) :
    (w &&& signatureMask).toNat = w.toNat / 0x1000000000000 * 0x1000000000000 := by
  have mask : ∀ i < 64, signatureMask.getLsbD i = decide (tagShift ≤ i) := by decide
  have upper : w &&& signatureMask = w >>> tagShift <<< tagShift := by
    apply BitVec.eq_of_getLsbD_eq
    intro i small
    simp only [BitVec.getLsbD_and, BitVec.getLsbD_shiftLeft, BitVec.getLsbD_ushiftRight,
      mask i small]
    by_cases above : tagShift ≤ i
    · simp [above, small, Nat.not_lt.mpr above]
    · simp [above, Nat.not_le.mp above]
  have bound := w.isLt
  rw [upper, BitVec.toNat_shiftLeft, BitVec.toNat_ushiftRight, Nat.shiftLeft_eq,
    Nat.shiftRight_eq_div_pow]
  change w.toNat / 0x1000000000000 * 0x1000000000000 % 0x10000000000000000 = _
  omega

theorem toNat_ushiftRight_signatureShift (w : Word) :
    (w >>> signatureShift).toNat = w.signature := by
  simp only [BitVec.toNat_ushiftRight, Nat.shiftRight_eq_div_pow, signatureShift, signatureWidth,
    Word.signature]

/-- The reserved signature is the nan mask shifted down. -/
theorem nanMask_shifted : (nanMask >>> signatureShift).toNat = reservedSignature := by decide

end QuietBox.Layout
