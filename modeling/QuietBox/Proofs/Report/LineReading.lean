import Mathlib.Data.List.Infix
import QuietBox.Proofs.Lookup
import QuietBox.Proofs.Report.WordText

/-!
Report lines read back. The text of the word is the first token of a line and decodes to the word;
what follows the rendering is the bracket of a tagged word, whose fields make up the word again. So
the word fixes all of its line but the rendering, however much that looks like a bracket itself.
-/

set_option autoImplicit false

namespace QuietBox

/-- A text up to its first space. -/
def firstToken (text : String) : String := String.ofList (text.toList.takeWhile (· ≠ ' '))

namespace Report

/-- What stands between a mark in front and the first end character, and what follows that. -/
def readField? (mark : String) (last : Char) (text : List Char) :
    Option (List Char × List Char) := do
  let rest ← mark.toList.isPrefixOf? text
  match rest.dropWhile (· ≠ last) with
  | [] => none
  | _ :: more => some (rest.takeWhile (· ≠ last), more)

/-- The fields that a bracket shows: two hexadecimal numbers and the name of a tag. -/
def readBracket? (text : List Char) : Option Tagged := do
  let (signature, text) ← readField? "  [signature=0x" ' ' text
  let (tag, text) ← readField? "tag=" ' ' text
  let (payload, text) ← readField? "payload=0x" ']' text
  let signature ← Numeral.value? 16 signature
  let tag ← Tag.ofName? (String.ofList tag)
  let payload ← Numeral.value? 16 payload
  if text.isEmpty then some ⟨signature, tag, payload⟩ else none

/-- The end of the line of a word. -/
def bracket (w : Word) : List Char :=
  match w.tagged? with
  | some t => fieldsText t
  | none => []

theorem readField?_append {mark : String} {last : Char} {field : List Char} (clean : last ∉ field)
    (rest : List Char) :
    readField? mark last (mark.toList ++ (field ++ last :: rest)) = some (field, rest) := by
  have found : mark.toList.isPrefixOf? (mark.toList ++ (field ++ last :: rest)) =
      some (field ++ last :: rest) :=
    List.isPrefixOf?_eq_some_iff_append_eq.mpr rfl
  simp only [readField?, found, Option.bind_eq_bind, Option.bind_some, takeWhile_ne_append clean,
    dropWhile_ne_append clean]

/-- No hexadecimal digit ends a field. -/
theorem notMem_zeroPadded_lowerHex {c : Char} (other : Numeral.digitValue? 16 c = none)
    (width n : Nat) : c ∉ Numeral.zeroPadded width (Numeral.lowerHex n) :=
  Numeral.notMem_of_go
    ((Numeral.go_zeroPadded (by decide) width _).trans (Numeral.value?_lowerHex n)) other

theorem value?_zeroPadded_lowerHex (width n : Nat) :
    Numeral.value? 16 (Numeral.zeroPadded width (Numeral.lowerHex n)) = some n :=
  (Numeral.go_zeroPadded (by decide) width _).trans (Numeral.value?_lowerHex n)

/-- The fields one after the other, each with its mark and its end. -/
private theorem fieldsText_eq (t : Tagged) :
    fieldsText t =
      "  [signature=0x".toList ++ (Numeral.zeroPadded 4 (Numeral.lowerHex t.signature) ++ ' ' ::
        ("tag=".toList ++ (t.tag.name.toList ++ ' ' ::
          ("payload=0x".toList ++ (Numeral.zeroPadded 12 (Numeral.lowerHex t.payload) ++
            ']' :: []))))) := by
  have tag : " tag=".toList = ' ' :: "tag=".toList := by decide
  have payload : " payload=0x".toList = ' ' :: "payload=0x".toList := by decide
  unfold fieldsText
  simp only [tag]
  simp only [payload, List.append_assoc, List.cons_append]

theorem readBracket?_fieldsText (t : Tagged) : readBracket? (fieldsText t) = some t := by
  have signature : ' ' ∉ Numeral.zeroPadded 4 (Numeral.lowerHex t.signature) :=
    notMem_zeroPadded_lowerHex (by decide) 4 _
  have tag : ' ' ∉ t.tag.name.toList := by cases t.tag <;> decide
  have payload : ']' ∉ Numeral.zeroPadded 12 (Numeral.lowerHex t.payload) :=
    notMem_zeroPadded_lowerHex (by decide) 12 _
  rw [fieldsText_eq, readBracket?]
  simp only [readField?_append signature, readField?_append tag, readField?_append payload,
    value?_zeroPadded_lowerHex, String.ofList_toList, Tag.ofName?_name, Option.bind_eq_bind,
    Option.bind_some, List.isEmpty_nil, ↓reduceIte]

theorem fieldsText_ne_nil (t : Tagged) : fieldsText t ≠ [] :=
  List.append_ne_nil_of_right_ne_nil _ (List.cons_ne_nil _ _)

theorem bracket_of_isDouble {w : Word} (h : w.isDouble) : bracket w = [] := by
  rw [bracket, Word.tagged?, if_pos h]

/-- A tagged word ends its line with its fields. -/
theorem bracket_of_not_isDouble {w : Word} (h : ¬w.isDouble) : bracket w = fieldsText w.fields := by
  rw [bracket, Word.tagged?, if_neg h]

theorem toList_line (radix : Radix) (r : Report) :
    (r.line radix).toList =
      wordText radix r.word ++ ' ' :: ' ' :: typeColumn r.word.typeName ++
        ' ' :: r.rendering.toList ++ bracket r.word :=
  String.toList_ofList

/-- The word is followed by the first space. -/
theorem firstToken_line (radix : Radix) (r : Report) :
    firstToken (r.line radix) = String.ofList (wordText radix r.word) := by
  have token : ∀ c ∈ wordText radix r.word, decide (c ≠ ' ') = true := by
    intro c member
    exact decide_eq_true (ne_of_mem_of_not_mem member (space_notMem_wordText radix r.word))
  rw [firstToken, toList_line, List.append_assoc, List.append_assoc,
    List.takeWhile_append_of_pos token]
  simp

theorem decode_firstToken (radix : Radix) (r : Report) :
    decode (firstToken (r.line radix)) = .ok (ofWord r.word) := by
  rw [firstToken_line]
  exact decode_wordText radix r.word

theorem word_eq_of_line_eq {radix : Radix} {r s : Report} (h : r.line radix = s.line radix) :
    r.word = s.word := by
  have first := decode_firstToken radix r
  rw [h, decode_firstToken] at first
  exact (congrArg Report.word (Except.ok.inj first)).symm

/-- With the word known, the rendering is what stands between two known texts. -/
theorem rendering_eq_of_line_eq {radix : Radix} {r s : Report} (h : r.line radix = s.line radix) :
    r.rendering = s.rendering := by
  have text := congrArg String.toList h
  rw [toList_line, toList_line, word_eq_of_line_eq h] at text
  have middle := List.append_cancel_left (List.append_cancel_right text)
  exact String.toList_inj.mp (List.cons.inj middle).2

end Report

/-- A report line is a decodable form of its word, whatever the rendering. Its first token decodes
to the word, as does the word in decimal; it ends in a bracket exactly if the word is no double, and
the fields of the bracket make up the word; lines in one radix are equal for equal words and
renderings only. So the line of whatever encodes, text as a string apart, decodes to the same
report. -/
theorem report_line_reads_back :
    (∀ (radix : Radix) (r : Report),
      Report.decode (firstToken (r.line radix)) = .ok (.ofWord r.word)) ∧
    (∀ w : Word,
      Report.decode (String.ofList (Numeral.decimal w.toNat)) = .ok (.ofWord w)) ∧
    (∀ (radix : Radix) (r : Report), ∃ last : List Char,
      (r.line radix).toList =
        Report.wordText radix r.word ++ ' ' :: ' ' :: Report.typeColumn r.word.typeName ++
          ' ' :: r.rendering.toList ++ last ∧
      (last = [] ↔ r.word.isDouble) ∧
      (¬r.word.isDouble → ∃ t, Report.readBracket? last = some t ∧ t.toWord = r.word)) ∧
    (∀ (radix : Radix) (r s : Report), r.line radix = s.line radix →
      r.word = s.word ∧ r.rendering = s.rendering) ∧
    (∀ (place : Address) (kind : Kind) (value : Option String) (r : Report) (radix : Radix),
      Report.encode place kind value = .ok r → kind ≠ .string →
        ∃ d, Report.decode (firstToken (r.line radix)) = .ok d ∧ d.word = r.word ∧
          d.word.typeName = r.word.typeName ∧ d.rendering = r.rendering) := by
  refine ⟨Report.decode_firstToken, ?_, ?_, ?_, ?_⟩
  · intro w
    exact Report.decode_of_readWord (Literal.readWord_decimal w)
  · intro radix r
    refine ⟨Report.bracket r.word, Report.toList_line radix r, ?_, ?_⟩
    · by_cases double : r.word.isDouble
      · simp only [Report.bracket_of_isDouble double, double]
      · rw [Report.bracket_of_not_isDouble double]
        exact iff_of_false (Report.fieldsText_ne_nil _) double
    · intro tagged
      refine ⟨r.word.fields, ?_, r.word.toWord_fields⟩
      rw [Report.bracket_of_not_isDouble tagged, Report.readBracket?_fieldsText]
  · intro radix r s same
    exact ⟨Report.word_eq_of_line_eq same, Report.rendering_eq_of_line_eq same⟩
  · intro place kind value r radix encoded other
    refine ⟨.ofWord r.word, Report.decode_firstToken radix r, rfl, rfl, ?_⟩
    exact (Report.rendering_of_encode encoded other).symm

/-- A rendering that ends like a bracket of another word, a text whose address is boxed, and two
reports that differ in what the line does not show. -/
theorem report_line_reads_back_at_false_bracket :
    (∃ last t, Report.readBracket? last = some t ∧ t.toWord = 0x7FFE00000000002A ∧
      (Report.line .hex ⟨0x7FFE00000000002A, "42  [tag=sint]", none⟩).toList =
        "0x7FFE00000000002A  uint    42  [tag=sint]".toList ++ last) ∧
    (∃ d, Report.decode (firstToken (Report.line .bin
        ⟨0x7FFC000000000040, "0x40", some [0x61]⟩)) = .ok d ∧ d.rendering = "0x40") ∧
    (∃ r s : Report, r ≠ s ∧ r.line .hex = s.line .hex ∧ r.word = s.word ∧
      r.rendering = s.rendering) := by
  obtain ⟨-, -, brackets, injective, encoded⟩ := report_line_reads_back
  have text : Report.encode ⟨0x40, by decide⟩ .auto (some "\"a\"") =
      .ok ⟨0x7FFC000000000040, "0x40", some [0x61]⟩ := by decide +kernel
  refine ⟨?_, ?_, ⟨0x7FFC000000000040, "0x40", none⟩, ⟨0x7FFC000000000040, "0x40", some [0x61]⟩,
    by decide, rfl, injective .hex _ _ rfl⟩
  · obtain ⟨last, line, -, fields⟩ :=
      brackets .hex ⟨0x7FFE00000000002A, "42  [tag=sint]", none⟩
    obtain ⟨t, read, same⟩ := fields (by decide)
    exact ⟨last, t, read, same, line⟩
  · obtain ⟨d, decoded, -, -, rendering⟩ := encoded _ _ _ _ .bin text (by decide)
    exact ⟨d, decoded, rendering⟩

end QuietBox
