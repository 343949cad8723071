import QuietBox.Proofs.Text.NumberCharacters
import QuietBox.Proofs.Word.Accessors

/-!
Classification of words. Predicates compare whole words or tag bits, the type name follows the tag,
accessors follow their predicates and texts follow the tag again; all of them agree, because each is
a function of the class a word belongs to, and a word of no class is invalid.
-/

set_option autoImplicit false

namespace QuietBox

open Format (Spec Style Digits Structure)

/-- What a word may hold, one class for each predicate. -/
inductive WordClass where
  | number
  | nan
  | false
  | true
  | null
  | pointer
  | string
  | uint
  | sint
deriving DecidableEq, Repr

namespace WordClass

/-- The predicate of a class. -/
def holds (w : Word) : WordClass → Bool
  | number => w.isDouble && !w.isNan
  | nan => w.isNan
  | .false => w.isFalse
  | .true => w.isTrue
  | null => w.isNull
  | pointer => w.isPointer
  | string => w.isString
  | uint => w.isUint
  | sint => w.isSint

def name : WordClass → String
  | number => "double"
  | nan => "nan"
  | .false => "false"
  | .true => "true"
  | null => "null"
  | pointer => "pointer"
  | string => "string"
  | uint => "uint"
  | sint => "sint"

/-- The name in structural text. -/
def label : WordClass → String
  | number => "Double"
  | nan => "Nan"
  | .false => "False"
  | .true => "True"
  | null => "Null"
  | pointer => "Pointer"
  | string => "String"
  | uint => "Uint"
  | sint => "Sint"

/-- The tag of the reserved words in a class; numbers are not reserved. -/
def tag? : WordClass → Option Tag
  | number => none
  | nan => some .nan
  | .false => some .false
  | .true => some .true
  | null => some .null
  | pointer => some .pointer
  | string => some .string
  | uint => some .uint
  | sint => some .sint

theorem eq_of_tag? {c d : WordClass} {t : Tag} (hc : c.tag? = some t) (hd : d.tag? = some t) :
    c = d := by
  revert hc hd
  cases c <;> cases d <;> cases t <;> decide

theorem exists_tag? (t : Tag) : ∃ c : WordClass, c.tag? = some t := by
  cases t with
  | nan => exact ⟨nan, rfl⟩
  | false => exact ⟨.false, rfl⟩
  | true => exact ⟨.true, rfl⟩
  | null => exact ⟨null, rfl⟩
  | pointer => exact ⟨pointer, rfl⟩
  | string => exact ⟨string, rfl⟩
  | uint => exact ⟨uint, rfl⟩
  | sint => exact ⟨sint, rfl⟩

theorem name_of_tag? {c : WordClass} {t : Tag} (h : c.tag? = some t) : c.name = t.name := by
  revert h
  cases c <;> cases t <;> decide

theorem label_not_invalid (c : WordClass) :
    ¬(c.label.toList <+: "Invalid(".toList ∨ "Invalid(".toList <+: c.label.toList) := by
  cases c <;> decide

theorem label_ne_invalid (c : WordClass) : c.label ≠ "Invalid" := by
  cases c <;> decide

theorem label_inj {c d : WordClass} (same : c.label = d.label) : c = d := by
  revert same
  cases c <;> cases d <;> decide

theorem holds_of_unreserved {w : Word} (h : w.signature ≠ reservedSignature) (c : WordClass) :
    c.holds w ↔ c = number := by
  cases c <;> simp [holds, Word.isPointer, Word.isString, Word.isUint, Word.isSint,
    Word.isDouble_of_unreserved h, Word.isNan_of_unreserved h, Word.isFalse_of_unreserved h,
    Word.isTrue_of_unreserved h, Word.isNull_of_unreserved h, Word.hasTag_of_unreserved h]

/-- A reserved word belongs to the class of its tag, an immediate only without a payload. -/
theorem holds_reserved (t : Tag) (p : Nat) (c : WordClass) :
    c.holds (Word.reserved t p) ↔
      c.tag? = some t ∧ (t.isImmediate → p % 0x1000000000000 = 0) := by
  cases c <;> cases t <;> simp [holds, tag?, Word.isPointer, Word.isString, Word.isUint,
    Word.isSint, Tag.isImmediate, Tag.toNat]

end WordClass

theorem TypeName.text_eq_invalid_iff (n : TypeName) : n.text = "invalid" ↔ n = .invalid := by
  cases n with
  | double => decide
  | invalid => decide
  | tagged t => cases t <;> decide

namespace Word

theorem typeName_eq_invalid_iff (w : Word) :
    w.typeName = .invalid ↔
      w.signature = reservedSignature ∧ w.tagField.isImmediate ∧ w.payload ≠ 0 := by
  rcases w.unreserved_or_reserved with outside | ⟨t, p, small, rfl⟩
  · simp [typeName_of_unreserved outside, outside]
  · by_cases invalid : t.isImmediate && p % 0x1000000000000 != 0
    · simp_all
    · simp_all

/-- A word that is not invalid has a class. -/
theorem exists_class {w : Word} (valid : w.typeName ≠ .invalid) : ∃ c : WordClass, c.holds w := by
  rcases w.unreserved_or_reserved with outside | ⟨t, p, small, rfl⟩
  · exact ⟨.number, (WordClass.holds_of_unreserved outside _).mpr rfl⟩
  · obtain ⟨c, tag⟩ := WordClass.exists_tag? t
    refine ⟨c, (WordClass.holds_reserved t p c).mpr ⟨tag, ?_⟩⟩
    intro immediate
    by_cases empty : p % 0x1000000000000 = 0
    · exact empty
    · exact absurd (by simp [immediate, empty]) valid

/-- A word of a class is a number outside the reserved region or has the tag of the class. -/
theorem cases_of_class {w : Word} {c : WordClass} (h : c.holds w) :
    (w.signature ≠ reservedSignature ∧ c = .number) ∨
      ∃ t p, w = reserved t p ∧ c.tag? = some t ∧
        (t.isImmediate → p % 0x1000000000000 = 0) := by
  rcases w.unreserved_or_reserved with outside | ⟨t, p, small, rfl⟩
  · exact Or.inl ⟨outside, (WordClass.holds_of_unreserved outside c).mp h⟩
  · exact Or.inr ⟨t, p, rfl, (WordClass.holds_reserved t p c).mp h⟩

theorem class_unique {w : Word} {c d : WordClass} (hc : c.holds w) (hd : d.holds w) : c = d := by
  rcases w.unreserved_or_reserved with outside | ⟨t, p, small, rfl⟩
  · rw [WordClass.holds_of_unreserved outside] at hc hd
    exact hc.trans hd.symm
  · rw [WordClass.holds_reserved] at hc hd
    exact WordClass.eq_of_tag? hc.1 hd.1

theorem typeName_of_class {w : Word} {c : WordClass} (h : c.holds w) :
    w.typeName.text = c.name := by
  rcases w.unreserved_or_reserved with outside | ⟨t, p, small, rfl⟩
  · rw [(WordClass.holds_of_unreserved outside c).mp h, typeName_of_unreserved outside]
    rfl
  · obtain ⟨tag, empty⟩ := (WordClass.holds_reserved t p c).mp h
    have valid : ¬(t.isImmediate && p % 0x1000000000000 != 0) := by
      intro both
      simp_all
    rw [typeName_reserved, if_neg valid, WordClass.name_of_tag? tag]
    rfl

theorem valid_of_class {w : Word} {c : WordClass} (h : c.holds w) : w.typeName ≠ .invalid := by
  intro invalid
  have name := typeName_of_class h
  rw [invalid] at name
  cases c <;> exact absurd name (by decide)

theorem exists_reserved_of_invalid {w : Word} (h : w.typeName = .invalid) :
    ∃ t p, w = reserved t p ∧ t.isImmediate ∧ p % 0x1000000000000 ≠ 0 := by
  obtain ⟨signature, immediate, payload⟩ := (typeName_eq_invalid_iff w).mp h
  refine ⟨w.tagField, w.payload, eq_reserved signature, immediate, ?_⟩
  rwa [Nat.mod_eq_of_lt w.payload_lt]

theorem plain_of_invalid {w : Word} (h : w.typeName = .invalid) (s : Spec) :
    w.plain s = "<invalid 0x".toList ++ w.hex ++ ['>'] := by
  obtain ⟨t, p, rfl, immediate, payload⟩ := exists_reserved_of_invalid h
  rcases (Tag.isImmediate_iff t).mp immediate with rfl | rfl | rfl | rfl <;>
    simp [plain, payload]

theorem toStructure_of_invalid {w : Word} (h : w.typeName = .invalid) (s : Spec)
    (digits : Digits) : w.toStructure s digits = .tuple "Invalid" ('0' :: 'x' :: w.hex) := by
  obtain ⟨t, p, rfl, immediate, payload⟩ := exists_reserved_of_invalid h
  rcases (Tag.isImmediate_iff t).mp immediate with rfl | rfl | rfl | rfl <;>
    simp [toStructure, payload]

/-- Number texts lack two letters of `invalid`, and a fill character can supply only one. -/
private theorem not_invalid_of_number {text : List Char} {fill : Char}
    (chars : ∀ c ∈ text, c = fill ∨ IsNumberChar c) : ¬"<invalid 0x".toList <+: text := by
  intro beginning
  have v : 'v' = fill :=
    (chars 'v' (beginning.subset (by decide))).resolve_right (by decide)
  have l : 'l' = fill :=
    (chars 'l' (beginning.subset (by decide))).resolve_right (by decide)
  exact absurd (v.trans l.symm) (by decide)

/-- Only invalid words have the text of one. -/
theorem plain_of_class {w : Word} {c : WordClass} (h : c.holds w) (s : Spec) :
    ¬"<invalid 0x".toList <+: w.plain s := by
  rcases w.unreserved_or_reserved with outside | ⟨t, p, small, rfl⟩
  · rw [plain, if_pos (isDouble_of_unreserved outside)]
    exact not_invalid_of_number fun _ => Double.mem_plain
  · obtain ⟨-, empty⟩ := (WordClass.holds_reserved t p c).mp h
    cases t with
    | nan =>
      rw [plain, if_pos (by simp [empty (by decide)])]
      exact not_invalid_of_number fun _ => Double.mem_plain
    | uint =>
      simp only [plain, isDouble_reserved, tagField_reserved]
      exact not_invalid_of_number fun _ => Spec.mem_natural_decimal
    | sint =>
      simp only [plain, isDouble_reserved, tagField_reserved]
      exact not_invalid_of_number fun _ => Spec.mem_integer
    | false => simp [plain, empty (by decide)]
    | true => simp [plain, empty (by decide)]
    | null => simp [plain, empty (by decide)]
    | pointer => simp [plain, Address.text]
    | string => simp [plain]

end Word

namespace Format.Structure

/-- The label in front. -/
def name : Structure → String
  | label name => name
  | tuple name _ => name
  | record name _ => name

theorem name_isPrefix_text (alternate : Bool) (t : Structure) :
    t.name.toList <+: t.text alternate := by
  cases t <;> cases alternate <;> simp [name, text]

end Format.Structure

/-- Structural text begins with the label of the class. -/
theorem Word.name_toStructure {w : Word} {c : WordClass} (h : c.holds w) (s : Spec)
    (digits : Digits) : (w.toStructure s digits).name = c.label := by
  rcases w.unreserved_or_reserved with outside | ⟨t, p, small, rfl⟩
  · rw [(WordClass.holds_of_unreserved outside c).mp h]
    simp [toStructure, isNan_of_unreserved outside, isDouble_of_unreserved outside,
      Structure.name, WordClass.label]
  · obtain ⟨tag, empty⟩ := (WordClass.holds_reserved t p c).mp h
    revert tag
    cases c <;> cases t <;> simp_all [WordClass.tag?, toStructure, Structure.name,
      WordClass.label, Tag.isImmediate, Tag.toNat]

theorem Word.tag?_eq_none_iff (w : Word) : w.tag? = none ↔ w.signature ≠ reservedSignature := by
  simp [tag?]

theorem Word.tagged?_eq_none_iff (w : Word) : w.tagged? = none ↔ w.isDouble := by
  simp [tagged?]

theorem Word.tag?_of_tagged? {w : Word} {t : Tagged} (h : w.tagged? = some t) :
    w.tag? = some t.tag ∧ t.signature = reservedSignature := by
  rcases w.unreserved_or_reserved with outside | ⟨u, p, small, rfl⟩
  · rw [tagged?, if_pos (isDouble_of_unreserved outside)] at h
    cases h
  · rw [tagged?, fields_reserved] at h
    split at h
    · cases h
    · cases h
      simp [tag?]

/-- Every way to tell what a word holds agrees: at most one of the nine predicates holds, none
exactly for an immediate tag with a payload, which is what `invalid` names; the type name, the
accessors, the tagged view and both texts follow the predicates. -/
theorem classifications_agree (w : Word) :
    (∀ c d : WordClass, c.holds w → d.holds w → c = d) ∧
    ((∀ c : WordClass, ¬c.holds w) ↔ w.typeName.text = "invalid") ∧
    (w.typeName.text = "invalid" ↔
      w.signature = reservedSignature ∧ w.tagField.isImmediate ∧ w.payload ≠ 0) ∧
    (∀ c : WordClass, c.holds w → w.typeName.text = c.name) ∧
    (w.DecidedBy .double w.isDouble w.asDouble ∧ w.DecidedBy .bool w.isBool w.asBool ∧
      w.DecidedBy .uint w.isUint w.asUint ∧ w.DecidedBy .sint w.isSint w.asSint ∧
      w.DecidedBy .pointer w.isPointer w.asPointer ∧
      w.DecidedBy .string w.isString w.asString) ∧
    (w.tagged? = none ↔ w.isDouble) ∧
    (w.tag? = none ↔ w.signature ≠ reservedSignature) ∧
    (∀ t, w.tagged? = some t → w.tag? = some t.tag ∧ t.signature = reservedSignature) ∧
    (∀ s, "<invalid 0x".toList <+: w.plain s ↔ w.typeName.text = "invalid") ∧
    (∀ digits s, "Invalid(".toList <+: w.format (.structural digits) s ↔
      w.typeName.text = "invalid") ∧
    (w.typeName.text = "invalid" →
      w.text = "<invalid 0x" ++ String.ofList w.hex ++ ">" ∧
        w.structuralText = "Invalid(0x" ++ String.ofList w.hex ++ ")") := by
  simp only [TypeName.text_eq_invalid_iff]
  refine ⟨?_, ?_, w.typeName_eq_invalid_iff, ?_, ?_, w.tagged?_eq_none_iff, w.tag?_eq_none_iff,
    fun _ => Word.tag?_of_tagged?, ?_, ?_, ?_⟩
  · intro c d
    exact Word.class_unique
  · constructor
    · intro none
      apply Classical.byContradiction
      intro valid
      obtain ⟨c, h⟩ := Word.exists_class valid
      exact none c h
    · intro invalid c h
      exact Word.valid_of_class h invalid
  · intro c
    exact Word.typeName_of_class
  · exact ⟨w.decidedBy_ite .double _ _, w.decidedBy_ite .bool _ _, w.decidedBy_ite .uint _ _,
      w.decidedBy_ite .sint _ _, w.decidedBy_ite .pointer _ _, w.decidedBy_ite .string _ _⟩
  · intro s
    constructor
    · intro beginning
      apply Classical.byContradiction
      intro valid
      obtain ⟨c, h⟩ := Word.exists_class valid
      exact Word.plain_of_class h s beginning
    · intro invalid
      rw [Word.plain_of_invalid invalid, List.append_assoc]
      exact List.prefix_append _ _
  · intro digits s
    constructor
    · intro beginning
      apply Classical.byContradiction
      intro valid
      obtain ⟨c, h⟩ := Word.exists_class valid
      have label := Structure.name_isPrefix_text s.alternate (w.toStructure s digits)
      rw [Word.name_toStructure h] at label
      exact WordClass.label_not_invalid c (List.prefix_or_prefix_of_prefix label beginning)
    · intro invalid
      rw [Word.format, Word.toStructure_of_invalid invalid]
      cases s.alternate <;> simp [Structure.text]
  · intro invalid
    constructor
    · rw [Word.text, Word.plain_of_invalid invalid, String.ofList_append, String.ofList_append,
        String.ofList_toList]
    · rw [Word.structuralText, Word.format, Word.toStructure_of_invalid invalid]
      apply String.toList_inj.mp
      simp [Structure.text]

/-- A negative NaN is a number like any other, and null with a payload has no class. -/
theorem classifications_agree_at_traps :
    (Word.typeName 0xFFF8000000000000).text = "double" ∧
      Word.tagged? 0xFFF8000000000000 = none ∧
      (∀ c : WordClass, ¬c.holds 0x7FFB000000000003) ∧
      Word.text 0x7FFB000000000003 = "<invalid 0x7FFB000000000003>" := by
  obtain ⟨-, -, -, named, -, untagged, -⟩ := classifications_agree 0xFFF8000000000000
  obtain ⟨-, unclassed, cause, -, -, -, -, -, -, -, texts⟩ :=
    classifications_agree 0x7FFB000000000003
  have invalid := cause.mpr ⟨by decide, by decide, by decide⟩
  exact ⟨named .number (by decide), untagged.mpr (by decide), unclassed.mpr invalid,
    (texts invalid).1.trans (by decide)⟩

end QuietBox
