import QuietBox.Proofs.Double.Canonical
import QuietBox.Proofs.Double.StructuralReading
import QuietBox.Proofs.Report.WordText
import QuietBox.Proofs.Text.IntegerReading
import QuietBox.Proofs.Word.Classification
import QuietBox.Proofs.Word.PlainText
import QuietBox.Proofs.Word.SpareBits

/-!
Structural text identifies words. The label in front tells the class of a word, since no parenthesis
is part of one, and behind it stands a number that reads back. Two things are not written: the bits
of a NaN outside the reserved region and the spare bits of an integer.
-/

set_option autoImplicit false

namespace QuietBox

open Format (Spec Style Digits Structure)

namespace Format.Structure

/-- A label with at most one field, in which the first parenthesis opens the field. -/
def IsTerm : Structure → Prop
  | label name => '(' ∉ name.toList
  | tuple name _ => '(' ∉ name.toList
  | record _ _ => False

/-- The name ends where the first parenthesis opens. -/
theorem takeWhile_text {t : Structure} (h : t.IsTerm) :
    (t.text false).takeWhile (· ≠ '(') = t.name.toList := by
  have whole {name : List Char} (absent : '(' ∉ name) : ∀ c ∈ name, decide (c ≠ '(') := by
    intro c member
    exact decide_eq_true (ne_of_mem_of_not_mem member absent)
  cases t with
  | label name => exact List.takeWhile_eq_self_iff.mpr (whole h)
  | tuple name field =>
    have written : (tuple name field).text false = name.toList ++ '(' :: (field ++ [')']) := by
      simp [text]
    rw [written, List.takeWhile_append_of_pos (whole h)]
    simp [Structure.name]
  | record name fields => cases h

/-- A label is shorter than the same label with a field. -/
private theorem label_text_ne_tuple_text (name : String) (field : List Char) :
    (label name).text false ≠ (tuple name field).text false := by
  intro same
  have length := congrArg List.length same
  simp [text] at length

theorem text_inj {t u : Structure} (ht : t.IsTerm) (hu : u.IsTerm)
    (same : t.text false = u.text false) : t = u := by
  have name : t.name = u.name := by
    apply String.toList_inj.mp
    rw [← takeWhile_text ht, ← takeWhile_text hu, same]
  cases t with
  | label first =>
    cases u with
    | label second => exact congrArg label name
    | tuple second field =>
      obtain rfl : first = second := name
      exact absurd same (label_text_ne_tuple_text first field)
    | record _ _ => cases hu
  | tuple first field =>
    cases u with
    | label second =>
      obtain rfl : first = second := name
      exact absurd same.symm (label_text_ne_tuple_text first field)
    | tuple second other =>
      obtain rfl : first = second := name
      simp only [text, Bool.false_eq_true, ↓reduceIte, List.append_cancel_right_eq,
        List.append_cancel_left_eq, List.cons.injEq, true_and] at same
      exact congrArg (tuple first) same
    | record _ _ => cases hu
  | record _ _ => cases ht

end Format.Structure

theorem Address.text_inj {a b : Address} (same : a.text = b.text) : a = b := by
  have digits : Numeral.lowerHex a.toNat = Numeral.lowerHex b.toNat := by
    simpa [text] using same
  have value := Numeral.value?_lowerHex a.toNat
  rw [digits, Numeral.value?_lowerHex] at value
  cases a
  cases b
  cases value
  rfl

namespace Word

variable {a b w : Word}

theorem hex_inj (same : a.hex = b.hex) : a = b := by
  have value := a.value?_hex
  rw [same, value?_hex] at value
  exact BitVec.eq_of_toNat_eq (Option.some.inj value).symm

/-- A NaN outside the reserved region. -/
def IsForeignNaN (w : Word) : Prop := w.signature ≠ reservedSignature ∧ w.toDouble.HasNaNBits

instance (w : Word) : Decidable w.IsForeignNaN := inferInstanceAs (Decidable (_ ∧ _))

/-- The words that structural text tells apart. -/
def IsIdentified (w : Word) : Prop :=
  (w.isDouble ∧ ¬w.toDouble.HasNaNBits) ∨ w.isNan ∨ w.isBool ∨ w.isNull ∨ w.isPointer ∨
    w.isString ∨ w.typeName = .invalid ∨ ((w.isUint ∨ w.isSint) ∧ w &&& spareMask = 0)

instance (w : Word) : Decidable w.IsIdentified := inferInstanceAs (Decidable (_ ∨ _))

/-- All words but those of which structural text leaves bits out. -/
theorem isIdentified_iff (w : Word) : w.IsIdentified ↔ ¬w.IsForeignNaN ∧ ¬w.IsDirty := by
  rcases w.unreserved_or_reserved with outside | ⟨t, p, small, rfl⟩
  · simp [IsIdentified, IsForeignNaN, outside, not_isDirty_of_unreserved outside,
      isDouble_of_unreserved outside, isNan_of_unreserved outside, isBool, isPointer, isString,
      isUint, isSint, isFalse_of_unreserved outside, isTrue_of_unreserved outside,
      isNull_of_unreserved outside, hasTag_of_unreserved outside, typeName_of_unreserved outside]
  · have foreign : ¬(reserved t p).IsForeignNaN := fun nan => nan.1 (signature_reserved t p)
    simp only [foreign, not_false_eq_true, true_and, isDirty_reserved, IsIdentified,
      and_spareMask_eq_zero_iff, payload_reserved]
    by_cases empty : p % 0x1000000000000 = 0
    · cases t <;> simp [empty, isBool, isPointer, isString, isUint, isSint]
    · cases t <;>
        simp [empty, isBool, isPointer, isString, isUint, isSint, Tag.isImmediate, Tag.toNat]

section Shapes

variable (s : Spec) (digits : Digits)

theorem toStructure_of_unreserved (h : w.signature ≠ reservedSignature) :
    w.toStructure s digits = .tuple "Double" (w.toDouble.structural s) := by
  simp [toStructure, isNan_of_unreserved h, isDouble_of_unreserved h]

theorem toStructure_pointer (p : Nat) :
    (reserved .pointer p).toStructure s digits =
      .tuple "Pointer" (reserved .pointer p).address.text := by
  simp [toStructure]

theorem toStructure_string (p : Nat) :
    (reserved .string p).toStructure s digits =
      .tuple "String" (reserved .string p).address.text := by
  simp [toStructure]

theorem toStructure_uint (p : Nat) :
    (reserved .uint p).toStructure s digits =
      .tuple "Uint" (s.natural digits (reserved .uint p).toUint.toNat) := by
  simp [toStructure]

theorem toStructure_sint (p : Nat) :
    (reserved .sint p).toStructure s .decimal =
      .tuple "Sint" (s.integer (reserved .sint p).toSint.toInt) := by
  simp [toStructure]

theorem isTerm_toStructure (w : Word) : (w.toStructure s digits).IsTerm := by
  rcases w.unreserved_or_reserved with outside | ⟨t, p, small, rfl⟩
  · rw [toStructure_of_unreserved s digits outside, Structure.IsTerm]
    decide
  · by_cases empty : p % 0x1000000000000 = 0
    · cases t <;> simp [toStructure, Structure.IsTerm, empty]
    · cases t <;> simp [toStructure, Structure.IsTerm, empty]

end Shapes

/-- Words of one structure are of one class. -/
theorem holds_of_toStructure_eq {c : WordClass} (h : c.holds a)
    (same : a.toStructure {} .decimal = b.toStructure {} .decimal) : c.holds b := by
  have name := congrArg Structure.name same
  rw [name_toStructure h] at name
  by_cases invalid : b.typeName = .invalid
  · rw [toStructure_of_invalid invalid] at name
    exact absurd name c.label_ne_invalid
  · obtain ⟨d, hd⟩ := exists_class invalid
    rw [name_toStructure hd] at name
    rwa [WordClass.label_inj name]

theorem eq_of_structural_eq (ha : a.signature ≠ reservedSignature)
    (hb : b.signature ≠ reservedSignature) (number : ¬a.IsForeignNaN) (number' : ¬b.IsForeignNaN)
    (same : a.toDouble.structural {} = b.toDouble.structural {}) : a = b := by
  have isNumber {w : Word} (outside : w.signature ≠ reservedSignature) (h : ¬w.IsForeignNaN) :
      w.toDouble.isNaN = false := by
    apply Bool.eq_false_iff.mpr
    intro nan
    exact h ⟨outside, (Double.isNaN_iff _).mp nan⟩
  have doubles : a.toDouble = b.toDouble :=
    Double.structural_inj (isNumber ha number) (isNumber hb number') same
  exact congrArg Double.bits doubles

/-- The structure of a reserved word that belongs to a class gives its payload. -/
theorem payload_eq_of_toStructure_eq {t : Tag} {p q : Nat}
    (empty : t.isImmediate → p % 0x1000000000000 = q % 0x1000000000000)
    (clean : ¬(reserved t p).IsDirty) (clean' : ¬(reserved t q).IsDirty)
    (same : (reserved t p).toStructure {} .decimal = (reserved t q).toStructure {} .decimal) :
    p % 0x1000000000000 = q % 0x1000000000000 := by
  have of_address (texts : (reserved t p).address.text = (reserved t q).address.text) :
      p % 0x1000000000000 = q % 0x1000000000000 := by
    have payload : (reserved t p).payload = (reserved t q).payload :=
      congrArg Address.toNat (Address.text_inj texts)
    rwa [payload_reserved, payload_reserved] at payload
  have of_integer (integer : t = .uint ∨ t = .sint)
      (numbers : (reserved t p).toUint = (reserved t q).toUint) :
      p % 0x1000000000000 = q % 0x1000000000000 := by
    have number := congrArg UInt32.toNat numbers
    simp only [toUint_reserved, UInt32.toNat_ofNat'] at number
    simp only [isDirty_reserved, integer, true_and] at clean clean'
    omega
  cases t with
  | pointer =>
    simp only [toStructure_pointer, Structure.tuple.injEq, true_and] at same
    exact of_address same
  | string =>
    simp only [toStructure_string, Structure.tuple.injEq, true_and] at same
    exact of_address same
  | uint =>
    simp only [toStructure_uint, Structure.tuple.injEq, true_and, Spec.natural_default] at same
    exact of_integer (Or.inl rfl) (UInt32.toNat_inj.mp (Numeral.decimal_inj same))
  | sint =>
    simp only [toStructure_sint, Structure.tuple.injEq, true_and, Spec.integer_default] at same
    have signed : (reserved .sint p).toSint = (reserved .sint q).toSint :=
      Int32.toInt_inj.mp (Literal.integer_inj same)
    exact of_integer (Or.inr rfl) (congrArg Int32.toUInt32 signed)
  | nan => exact empty rfl
  | false => exact empty rfl
  | true => exact empty rfl
  | null => exact empty rfl

/-- Of words that are written whole, each has a structure of its own. -/
theorem eq_of_toStructure_eq (ha : a.IsIdentified) (hb : b.IsIdentified)
    (same : a.toStructure {} .decimal = b.toStructure {} .decimal) : a = b := by
  rw [isIdentified_iff] at ha hb
  -- The labels tell invalid words from the classes and the classes from each other.
  by_cases invalid : a.typeName = .invalid
  · have other : b.typeName = .invalid := by
      apply Classical.byContradiction
      intro valid
      obtain ⟨c, h⟩ := exists_class valid
      exact valid_of_class (holds_of_toStructure_eq h same.symm) invalid
    rw [toStructure_of_invalid invalid, toStructure_of_invalid other] at same
    simp only [Structure.tuple.injEq, List.cons.injEq, true_and] at same
    exact hex_inj same
  · obtain ⟨c, hc⟩ := exists_class invalid
    have hd := holds_of_toStructure_eq hc same
    obtain ⟨outside, rfl⟩ | ⟨t, p, rfl, tag, empty⟩ := cases_of_class hc
    · obtain ⟨outside', -⟩ | ⟨_, _, -, tag, -⟩ := cases_of_class hd
      · rw [toStructure_of_unreserved {} .decimal outside,
          toStructure_of_unreserved {} .decimal outside'] at same
        exact eq_of_structural_eq outside outside' ha.1 hb.1 (Structure.tuple.inj same).2
      · cases tag
    · obtain ⟨-, rfl⟩ | ⟨u, q, rfl, tag', empty'⟩ := cases_of_class hd
      · cases tag
      · obtain rfl : t = u := Option.some.inj (tag.symm.trans tag')
        have payload := payload_eq_of_toStructure_eq
          (fun immediate => (empty immediate).trans (empty' immediate).symm) ha.2 hb.2 same
        exact reserved_inj.mpr ⟨rfl, payload⟩

theorem structuralText_inj (ha : a.IsIdentified) (hb : b.IsIdentified)
    (same : a.structuralText = b.structuralText) : a = b := by
  apply eq_of_toStructure_eq ha hb
  apply Structure.text_inj (isTerm_toStructure {} .decimal a) (isTerm_toStructure {} .decimal b)
  exact String.ofList_injective same

theorem structuralText_of_isForeignNaN (h : w.IsForeignNaN) : w.structuralText = "Double(NaN)" := by
  have nan : w.toDouble.isNaN := (Double.isNaN_iff _).mpr h.2
  have written : w.toDouble.structural {} = ['N', 'a', 'N'] := by
    rw [Double.structural_default, Double.structuralText_eq, if_pos nan, if_pos nan,
      List.nil_append]
  rw [structuralText, format, toStructure_of_unreserved {} .decimal h.1, written]
  rfl

/-- The spare bits are not written. -/
theorem toStructure_clearSpare {t : Tag} (integer : t = .uint ∨ t = .sint) (p : Nat) :
    (reserved t p).clearSpare.toStructure {} .decimal = (reserved t p).toStructure {} .decimal := by
  have low : UInt32.ofNat (p % 0x100000000) = UInt32.ofNat p := by
    apply UInt32.toNat_inj.mp
    simp
  cases integer with
  | inl isUint =>
    rw [isUint, clearSpare_reserved, toStructure_uint, toStructure_uint, toUint_reserved,
      toUint_reserved, low]
  | inr isSint =>
    rw [isSint, clearSpare_reserved, toStructure_sint, toStructure_sint, toSint_reserved,
      toSint_reserved, low]

theorem structuralText_of_isDirty (h : w.IsDirty) :
    w.clearSpare.IsIdentified ∧ w.structuralText = w.clearSpare.structuralText := by
  rcases w.unreserved_or_reserved with outside | ⟨t, p, small, rfl⟩
  · exact absurd h (not_isDirty_of_unreserved outside)
  · have integer := ((isDirty_reserved t p).mp h).1
    constructor
    · rw [clearSpare_reserved, isIdentified_iff, isDirty_reserved]
      constructor
      · intro foreign
        exact foreign.1 (signature_reserved t _)
      · omega
    · rw [structuralText, structuralText, format, format, toStructure_clearSpare integer p]

end Word

/-- Structural text identifies words: of the words that are written whole, no two have one text. The
others are the NaNs outside the reserved region, which share a text, and the integers with spare
bits set, each with the text of the integer without them. -/
theorem structural_text_identifies_words :
    (∀ a b : Word, a.IsIdentified → b.IsIdentified →
      (a.structuralText = b.structuralText ↔ a = b)) ∧
    (∀ w : Word, ¬w.IsIdentified ↔ w.IsForeignNaN ∨ w.IsDirty) ∧
    (∀ w : Word, w.IsForeignNaN → w.structuralText = "Double(NaN)") ∧
    (∀ w : Word, w.IsDirty →
      w.clearSpare.IsIdentified ∧ w.structuralText = w.clearSpare.structuralText) := by
  refine ⟨?_, ?_, ?_, ?_⟩
  · intro a b ha hb
    constructor
    · exact Word.structuralText_inj ha hb
    · exact congrArg Word.structuralText
  · intro w
    rw [Word.isIdentified_iff, Classical.not_and_iff_not_or_not, Classical.not_not,
      Classical.not_not]
  · intro w
    exact Word.structuralText_of_isForeignNaN
  · intro w
    exact Word.structuralText_of_isDirty

/-- Five as either integer and as a double, the two zeros, a negative NaN, and five with a spare
bit. -/
theorem structural_text_identifies_words_at_fives :
    (Word.ofUint 5).structuralText ≠ (Word.ofSint 5).structuralText ∧
      (Word.ofUint 5).structuralText ≠ Word.structuralText 0x4014000000000000 ∧
      Word.structuralText 0x8000000000000000 ≠ Word.structuralText 0 ∧
      Word.structuralText 0xFFF8000000000000 = "Double(NaN)" ∧
      Word.structuralText 0x7FFE000100000005 = (Word.ofUint 5).structuralText := by
  obtain ⟨apart, -, foreign, dirty⟩ := structural_text_identifies_words
  have uint : (Word.ofUint 5).IsIdentified := by decide
  have sint : (Word.ofSint 5).IsIdentified := by decide
  have double : Word.IsIdentified 0x4014000000000000 := by decide
  have negative : Word.IsIdentified 0x8000000000000000 := by decide
  have zero : Word.IsIdentified 0 := by decide
  have five : Word.clearSpare 0x7FFE000100000005 = Word.ofUint 5 := by decide
  refine ⟨?_, ?_, ?_, ?_, ?_⟩
  · exact mt (apart _ _ uint sint).mp (by decide)
  · exact mt (apart _ _ uint double).mp (by decide)
  · exact mt (apart _ _ negative zero).mp (by decide)
  · apply foreign
    decide
  · rw [← five]
    apply (dirty _ _).2
    unfold Word.IsDirty
    decide

end QuietBox
