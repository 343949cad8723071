import QuietBox.Proofs.Double.RoundTrip
import QuietBox.Proofs.Report.WordText

/-!
Renderings of doubles encode back: decoding a word that is a double and encoding the rendering as a
double gives the same report.
-/

set_option autoImplicit false

namespace QuietBox

theorem Word.plain_of_isDouble {w : Word} (h : w.isDouble) : w.plain {} = w.toDouble.plain {} := by
  rw [Word.plain, if_pos h]

theorem Word.text_of_isNaN {w : Word} (h : w.isDouble) (nan : w.toDouble.isNaN) :
    w.text = "NaN" := by
  rw [Word.text, Word.plain_of_isDouble h, Double.plain_of_isNaN nan]

namespace Report

/-- The kind `double` boxes what its literal reads as. -/
theorem encode_double_of_read {place : Address} {text : List Char} {d : Double}
    (h : Double.read text = .ok d) :
    encode place .double (some (String.ofList text)) = .ok (ofWord (.ofDouble d)) := by
  apply encode_double_eq_ok_iff.mpr
  refine ⟨_, d, rfl, ?_, rfl⟩
  rw [String.toList_ofList]
  exact h

theorem encode_text_of_isDouble (place : Address) {w : Word} (h : w.isDouble) :
    encode place .double (some w.text) =
      .ok (ofWord (if w.toDouble.isNaN then .nan else w)) := by
  rw [Word.text, Word.plain_of_isDouble h]
  cases nan : w.toDouble.isNaN with
  | true =>
    rw [Double.plain_of_isNaN nan, if_pos rfl]
    exact encode_double_of_read Double.read_nan_text
  | false =>
    rw [if_neg Bool.false_ne_true]
    exact encode_double_of_read (Double.read_plain nan)

end Report

/-- Every word has a literal that decodes to it. The rendering of a decoded double is its plain
text; encoded as a double it gives the same report, word for word, unless the word is a NaN, whose
rendering is `NaN` and gives the canonical one. -/
theorem double_renderings_encode_back :
    (∀ (radix : Radix) (w : Word),
      Report.decode (String.ofList (Report.wordText radix w)) = .ok (.ofWord w)) ∧
    (∀ (place : Address) (literal : String) (r : Report),
      Report.decode literal = .ok r → r.word.isDouble →
        r.rendering = r.word.text ∧
        (r.word.toDouble.isNaN = false →
          Report.encode place .double (some r.rendering) = .ok r) ∧
        (r.word.toDouble.isNaN = true →
          r.rendering = "NaN" ∧
            Report.encode place .double (some r.rendering) = .ok (.ofWord .nan))) := by
  constructor
  · exact Report.decode_wordText
  · intro place literal r decoded double
    obtain ⟨w, -, rfl⟩ := map_eq_ok_iff.mp decoded
    have back := Report.encode_text_of_isDouble place double
    refine ⟨rfl, ?_, ?_⟩
    · intro number
      rw [number, if_neg Bool.false_ne_true] at back
      exact back
    · intro nan
      rw [nan, if_pos rfl] at back
      exact ⟨Word.text_of_isNaN double nan, back⟩

/-- A number whose text lies on the midpoint to its neighbour, and a negative NaN. -/
theorem double_renderings_encode_back_at_midpoint :
    Report.decode "0x44B52D02C7E14AF6" = .ok (.ofWord 0x44B52D02C7E14AF6) ∧
      Word.text 0x44B52D02C7E14AF6 = "100000000000000000000000" ∧
      Report.encode ⟨0, by decide⟩ .double (some (Word.text 0x44B52D02C7E14AF6)) =
        .ok (.ofWord 0x44B52D02C7E14AF6) ∧
      Report.encode ⟨0, by decide⟩ .double (some (Word.text 0xFFF8000000000000)) =
        .ok (.ofWord .nan) := by
  have midpoint : Report.decode "0x44B52D02C7E14AF6" = .ok (.ofWord 0x44B52D02C7E14AF6) :=
    double_renderings_encode_back.1 .hex 0x44B52D02C7E14AF6
  have negative : Report.decode "0xFFF8000000000000" = .ok (.ofWord 0xFFF8000000000000) :=
    double_renderings_encode_back.1 .hex 0xFFF8000000000000
  obtain ⟨-, number, -⟩ := double_renderings_encode_back.2 ⟨0, by decide⟩ _ _ midpoint (by decide)
  obtain ⟨-, -, nan⟩ := double_renderings_encode_back.2 ⟨0, by decide⟩ _ _ negative (by decide)
  exact ⟨midpoint, by decide +kernel, number (by decide), (nan (by decide)).2⟩

end QuietBox
