import QuietBox.Proofs.Word.Reserved
import QuietBox.Word.Text

/-!
The plain texts of tagged words. Without a format spec an integer is its numeral, an address its
shortest hexadecimal text, and a word without a payload its name.
-/

set_option autoImplicit false

namespace QuietBox

namespace Format.Spec

theorem natural_default (n : Nat) : natural {} .decimal n = Numeral.decimal n :=
  pad_unpadded {} [] (Numeral.decimal n)

theorem integer_default (i : Int) : integer {} i = Numeral.integer i := by
  rw [Numeral.integer, integer]
  exact (pad_unpadded {} _ _).trans (by simp [sign])

end Format.Spec

namespace Word

variable {w : Word}

theorem text_of_isPointer (h : w.isPointer) : w.text = String.ofList w.address.text := by
  obtain ⟨p, -, rfl⟩ := exists_reserved_of_hasTag h
  rw [text, plain]
  simp only [isDouble_reserved, tagField_reserved]
  rfl

theorem text_of_isString (h : w.isString) :
    w.text = String.ofList ("string@".toList ++ w.address.text) := by
  obtain ⟨p, -, rfl⟩ := exists_reserved_of_hasTag h
  rw [text, plain]
  simp only [isDouble_reserved, tagField_reserved]
  rfl

theorem plain_of_isUint (h : w.isUint) (s : Format.Spec) :
    w.plain s = s.natural .decimal w.toUint.toNat := by
  obtain ⟨p, -, rfl⟩ := exists_reserved_of_hasTag h
  simp only [plain, isDouble_reserved, tagField_reserved]
  rfl

theorem plain_of_isSint (h : w.isSint) (s : Format.Spec) :
    w.plain s = s.integer w.toSint.toInt := by
  obtain ⟨p, -, rfl⟩ := exists_reserved_of_hasTag h
  simp only [plain, isDouble_reserved, tagField_reserved]
  rfl

theorem text_of_isUint (h : w.isUint) :
    w.text = String.ofList (Numeral.decimal w.toUint.toNat) := by
  rw [text, plain_of_isUint h, Format.Spec.natural_default]

theorem text_of_isSint (h : w.isSint) :
    w.text = String.ofList (Numeral.integer w.toSint.toInt) := by
  rw [text, plain_of_isSint h, Format.Spec.integer_default]

theorem text_ofUint (n : UInt32) : (ofUint n).text = String.ofList (Numeral.decimal n.toNat) := by
  have uint : (ofUint n).isUint := by simp [ofUint, isUint]
  have number : (ofUint n).toUint = n := by simp [ofUint]
  rw [text_of_isUint uint, number]

theorem text_ofSint (n : Int32) : (ofSint n).text = String.ofList (Numeral.integer n.toInt) := by
  have sint : (ofSint n).isSint := by simp [ofSint, isSint]
  have number : (ofSint n).toSint = n := by simp [ofSint]
  rw [text_of_isSint sint, number]

end Word

end QuietBox
