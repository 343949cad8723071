import QuietBox.Proofs.Report.Success
import QuietBox.Proofs.Text.NumeralReading

/-!
The text of a word in a report is a literal of the word, in either radix, and has no space in it.
-/

set_option autoImplicit false

namespace QuietBox

theorem Word.value?_hex (w : Word) : Numeral.value? 16 w.hex = some w.toNat :=
  (Numeral.go_zeroPadded (by decide) 16 _).trans (Numeral.value?_upperHex w.toNat)

theorem Word.value?_bits (w : Word) : Numeral.value? 2 w.bits = some w.toNat :=
  (Numeral.go_zeroPadded (by decide) 64 _).trans (Numeral.value?_binary w.toNat)

namespace Report

theorem readWord_wordText (radix : Radix) (w : Word) :
    Literal.readWord (wordText radix w) = .ok w := by
  cases radix with
  | hex =>
    exact Literal.readWord_of_value? rfl (by decide) (by decide)
      (Numeral.zeroPadded_ne_nil (by decide) _) w.value?_hex
  | bin =>
    exact Literal.readWord_of_value? rfl (by decide) (by decide)
      (Numeral.zeroPadded_ne_nil (by decide) _) w.value?_bits

/-- A literal of a word decodes to its report. -/
theorem decode_of_readWord {text : List Char} {w : Word} (h : Literal.readWord text = .ok w) :
    decode (String.ofList text) = .ok (ofWord w) := by
  have read := readWord_eq_ok_iff.mpr h
  rw [decode, String.toList_ofList, read]
  rfl

theorem decode_wordText (radix : Radix) (w : Word) :
    decode (String.ofList (wordText radix w)) = .ok (ofWord w) :=
  decode_of_readWord (readWord_wordText radix w)

/-- A space is no digit. -/
theorem space_notMem_wordText (radix : Radix) (w : Word) : ' ' ∉ wordText radix w := by
  cases radix with
  | hex =>
    have absent : ' ' ∉ w.hex := Numeral.notMem_of_go w.value?_hex (by decide)
    simp [wordText, absent]
  | bin =>
    have absent : ' ' ∉ w.bits := Numeral.notMem_of_go w.value?_bits (by decide)
    simp [wordText, absent]

end Report

end QuietBox
