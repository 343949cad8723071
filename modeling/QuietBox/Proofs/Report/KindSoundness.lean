import QuietBox.Proofs.Double.Region
import QuietBox.Proofs.Report.Success
import QuietBox.Proofs.Word.Partition

/-!
Kinds are sound. Encoding a literal of a kind boxes a content of a variant that the kind allows, so
the word is well formed and its type name is one of the kind's; no literal forges a word of another
variant, and none of kind `auto` gives a string.
-/

set_option autoImplicit false

namespace QuietBox

/-- The type names that a kind may give. -/
def Kind.typeNames : Kind → List String
  | double => ["double", "nan"]
  | nan => ["nan"]
  | bool => ["true", "false"]
  | null => ["null"]
  | uint => ["uint"]
  | sint => ["sint"]
  | pointer => ["pointer"]
  | string => ["string"]
  | auto => ["double", "nan", "true", "false", "null", "uint", "sint", "pointer"]

/-- A kind may give a content. -/
inductive Kind.Gives : Kind → Content → Prop
  | double (d : Double) : Gives double (.double d)
  | nan : Gives nan (.double Double.canonicalNaN)
  | bool (b : Bool) : Gives bool (.bool b)
  | null : Gives null .null
  | uint (n : UInt32) : Gives uint (.uint n)
  | sint (n : Int32) : Gives sint (.sint n)
  | pointer (a : Address) : Gives pointer (.pointer a)
  | string (a : Address) : Gives string (.string a)
  | auto {k : Kind} {c : Content} : Gives k c → k ≠ string → Gives auto c

/-- A content that a kind gives boxes under one of the kind's type names. -/
theorem typeName_of_gives {kind : Kind} {c : Content} (given : kind.Gives c) (h : c.Boxable) :
    c.toWord.typeName.text ∈ kind.typeNames := by
  rw [Content.typeName_toWord h]
  induction given with
  | double d =>
    rw [Content.typeName]
    split <;> decide
  | nan => decide
  | bool b => cases b <;> decide
  | null => decide
  | uint n =>
    show TypeName.text (.tagged .uint) ∈ Kind.typeNames .uint
    decide
  | sint n =>
    show TypeName.text (.tagged .sint) ∈ Kind.typeNames .sint
    decide
  | pointer a =>
    show TypeName.text (.tagged .pointer) ∈ Kind.typeNames .pointer
    decide
  | string a =>
    show TypeName.text (.tagged .string) ∈ Kind.typeNames .string
    decide
  | @auto k c _ other ih =>
    have wider : k.typeNames ⊆ Kind.auto.typeNames := by
      revert other
      cases k <;> decide
    exact wider (ih h)

namespace Report

/-- The kind `auto` boxes what one of the other kinds but `string` would. -/
theorem auto_gives {place : Address} {literal : List Char} {r : Report}
    (h : auto place literal = .ok r) :
    ∃ c : Content, c.Boxable ∧ Kind.auto.Gives c ∧ c.toWord = r.word := by
  rcases auto_cases h with rfl | ⟨b, rfl⟩ | ⟨bytes, rfl⟩ | ⟨n, rfl⟩ | ⟨n, rfl⟩ | ⟨d, found, rfl⟩
  · exact ⟨.null, trivial, .auto .null (by decide), rfl⟩
  · exact ⟨.bool b, trivial, .auto (.bool b) (by decide), rfl⟩
  · exact ⟨.pointer place, trivial, .auto (.pointer place) (by decide), rfl⟩
  · exact ⟨.sint n, trivial, .auto (.sint n) (by decide), rfl⟩
  · exact ⟨.uint n, trivial, .auto (.uint n) (by decide), rfl⟩
  · exact ⟨.double d, Double.boxable_of_read found, .auto (.double d) (by decide), rfl⟩

/-- A literal that encodes is boxed as a content its kind gives. -/
theorem encode_gives {place : Address} {kind : Kind} {value : Option String} {r : Report}
    (h : encode place kind value = .ok r) :
    ∃ c : Content, c.Boxable ∧ kind.Gives c ∧ c.toWord = r.word := by
  cases kind with
  | double =>
    obtain ⟨s, d, -, found, rfl⟩ := encode_double_eq_ok_iff.mp h
    exact ⟨.double d, Double.boxable_of_read found, .double d, rfl⟩
  | nan =>
    cases h
    exact ⟨.double Double.canonicalNaN, Or.inr rfl, .nan, by decide⟩
  | bool =>
    obtain ⟨s, b, -, -, rfl⟩ := encode_bool_eq_ok_iff.mp h
    exact ⟨.bool b, trivial, .bool b, rfl⟩
  | null =>
    cases h
    exact ⟨.null, trivial, .null, rfl⟩
  | uint =>
    obtain ⟨s, n, -, -, rfl⟩ := encode_uint_eq_ok_iff.mp h
    exact ⟨.uint n, trivial, .uint n, rfl⟩
  | sint =>
    obtain ⟨s, n, -, -, rfl⟩ := encode_sint_eq_ok_iff.mp h
    exact ⟨.sint n, trivial, .sint n, rfl⟩
  | pointer =>
    obtain ⟨s, a, -, -, rfl⟩ := encode_pointer_eq_ok_iff.mp h
    exact ⟨.pointer a, trivial, .pointer a, rfl⟩
  | string =>
    obtain ⟨s, bytes, -, -, rfl⟩ := encode_string_eq_ok_iff.mp h
    exact ⟨.string place, trivial, .string place, rfl⟩
  | auto =>
    obtain ⟨s, -, found⟩ := encode_auto_eq_ok_iff.mp h
    exact auto_gives found

end Report

/-- Encoding never forges a word: of whatever kind and text, a box that is made is well formed and
its type name is one of the kind's. In particular every text that reads as a double, be it a
decimal, an infinity or a NaN of either sign, boxes as a double. -/
theorem encode_keeps_to_kind :
    (∀ (place : Address) (kind : Kind) (value : Option String) (r : Report),
      Report.encode place kind value = .ok r →
        r.word.typeName ≠ .invalid ∧ ¬r.word.IsDirty ∧
          r.word.typeName.text ∈ kind.typeNames) ∧
    (∀ (text : List Char) (d : Double), Double.read text = .ok d → (Word.ofDouble d).isDouble) := by
  constructor
  · intro place kind value r h
    obtain ⟨c, boxable, given, same⟩ := Report.encode_gives h
    rw [← same]
    obtain ⟨valid, clean⟩ := Content.wellFormed_toWord boxable
    exact ⟨valid, clean, typeName_of_gives given boxable⟩
  · intro text d h
    exact Content.isDouble_of_boxable (Double.boxable_of_read h)

/-- A negative NaN and a number beyond all doubles. -/
theorem encode_keeps_to_kind_at_extremes :
    Report.encode ⟨0, by decide⟩ .auto (some "-nan") = .ok (.ofWord 0xFFF8000000000000) ∧
      Word.typeName 0xFFF8000000000000 ≠ .invalid ∧
      (Word.typeName 0xFFF8000000000000).text ∈ Kind.auto.typeNames ∧
      Double.read "1e400".toList = .ok (.infinity false) ∧
      (Word.ofDouble (.infinity false)).isDouble := by
  have nan : Report.encode ⟨0, by decide⟩ .auto (some "-nan") =
      .ok (.ofWord 0xFFF8000000000000) := rfl
  have huge : Double.read "1e400".toList = .ok (.infinity false) :=
    Double.read_eq_ok_iff.mpr (Or.inl (by decide +kernel))
  obtain ⟨valid, -, named⟩ := encode_keeps_to_kind.1 _ _ _ _ nan
  exact ⟨nan, valid, named, huge, encode_keeps_to_kind.2 _ _ huge⟩

end QuietBox
