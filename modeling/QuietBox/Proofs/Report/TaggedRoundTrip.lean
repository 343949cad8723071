import QuietBox.Proofs.Report.Refusal
import QuietBox.Proofs.Report.WordText
import QuietBox.Proofs.Word.Classification
import QuietBox.Proofs.Word.Partition
import QuietBox.Proofs.Word.PlainText

/-!
Renderings of tagged words encode back. The plain text of a word that is no double is a literal of
the kind that its type name tells, and gives the word again but for the spare bits of an integer.
The kind `auto` reads the same word from it, except that it takes an integer without a minus for an
unsigned one. The texts of strings and of invalid words begin like no literal at all.
-/

set_option autoImplicit false

namespace QuietBox

/-- The kind whose literals give the words of a type name; invalid words have none. -/
def TypeName.kind? : TypeName → Option Kind
  | double => some .double
  | invalid => none
  | tagged .nan => some .nan
  | tagged .false => some .bool
  | tagged .true => some .bool
  | tagged .null => some .null
  | tagged .pointer => some .pointer
  | tagged .string => some .string
  | tagged .uint => some .uint
  | tagged .sint => some .sint

namespace Literal

/-- The text of an address is a literal of it. -/
theorem readWord_address (a : Address) : readWord a.text = .ok (Word.ofNat a.toNat) := by
  apply readWord_of_value? rfl (by decide) (by decide) Nat.toDigits_ne_nil
  rw [a.toNat_ofNat]
  exact Numeral.value?_lowerHex a.toNat

end Literal

namespace Word

variable {w : Word}

theorem kind?_of_hasTag {t : Tag} (h : w.hasTag t) (free : t.isImmediate = false) :
    w.typeName.kind? = TypeName.kind? (.tagged t) := by
  rw [typeName_of_hasTag h free]

/-- Signed and unsigned readings are the same number where that is not negative. -/
theorem toNat_toUint_of_nonneg (least : 0 ≤ w.toSint.toInt) :
    (w.toUint.toNat : Int) = w.toSint.toInt := by
  have signed : w.toSint.toInt = w.toUint.toBitVec.toInt := rfl
  have unsigned : w.toUint.toBitVec.toNat = w.toUint.toNat := rfl
  have small := w.toUint.toNat_lt
  rw [signed, BitVec.toInt_eq_toNat_cond, unsigned] at least ⊢
  omega

end Word

namespace Report

variable {w : Word} (place : Address)

section Kinds

theorem encode_text_of_isPointer (h : w.isPointer) :
    encode place .pointer (some w.text) = .ok (ofWord w) := by
  have same : Word.ofPointer w.address = w := by
    obtain ⟨p, small, rfl⟩ := Word.exists_reserved_of_hasTag h
    simp [Word.ofPointer, Word.address, Nat.mod_eq_of_lt small]
  rw [Word.text_of_isPointer h]
  refine encode_pointer_eq_ok_iff.mpr ⟨_, w.address, rfl, ⟨_, ?_, Address.ofWord_ofNat _⟩, ?_⟩
  · rw [String.toList_ofList]
    exact Literal.readWord_address w.address
  · rw [same]

theorem encode_text_of_isUint (h : w.isUint) :
    encode place .uint (some w.text) = .ok (ofWord w.clearSpare) := by
  rw [Word.text_of_isUint h]
  refine encode_uint_eq_ok_iff.mpr ⟨_, w.toUint, rfl, ?_, congrArg ofWord (Word.ofUint_toUint h)⟩
  rw [String.toList_ofList]
  exact Literal.readUint_eq_ok_iff.mpr
    ⟨Literal.head?_decimal_ne _ (by decide), Literal.denotes_decimal _⟩

theorem encode_text_of_isSint (h : w.isSint) :
    encode place .sint (some w.text) = .ok (ofWord w.clearSpare) := by
  rw [Word.text_of_isSint h]
  refine encode_sint_eq_ok_iff.mpr ⟨_, w.toSint, rfl, ?_, congrArg ofWord (Word.ofSint_toSint h)⟩
  rw [String.toList_ofList]
  exact Literal.readSint_eq_ok_iff.mpr (Literal.denotes_integer _)

/-- The kind of the type name reads the text. Only an integer has spare bits, which it loses. -/
theorem encode_text_of_tagged (tagged : ¬w.isDouble) (valid : w.typeName ≠ .invalid)
    (other : ¬w.isString) :
    ∃ kind, w.typeName.kind? = some kind ∧
      (¬w.IsDirty → encode place kind (some w.text) = .ok (ofWord w)) ∧
      (w.IsDirty → encode place kind (some w.text) = .ok (ofWord w.clearSpare)) := by
  obtain ⟨c, h⟩ := Word.exists_class valid
  have clean (uint : c ≠ .uint) (sint : c ≠ .sint) : ¬w.IsDirty := by
    rintro ⟨isUint | isSint, -⟩
    · exact uint (Word.class_unique h (d := .uint) isUint)
    · exact sint (Word.class_unique h (d := .sint) isSint)
  cases c with
  | number =>
    have double : w.isDouble := (Bool.and_eq_true_iff.mp h).1
    exact absurd double tagged
  | nan =>
    have double : w.isDouble := by
      rw [Word.isDouble, Bool.or_eq_true]
      exact Or.inr h
    exact absurd double tagged
  | false =>
    obtain rfl : w = .ofBool .false := of_decide_eq_true h
    exact ⟨.bool, by decide, fun _ => rfl,
      fun dirty => absurd dirty (clean (by decide) (by decide))⟩
  | true =>
    obtain rfl : w = .ofBool .true := of_decide_eq_true h
    exact ⟨.bool, by decide, fun _ => rfl,
      fun dirty => absurd dirty (clean (by decide) (by decide))⟩
  | null =>
    obtain rfl : w = .null := of_decide_eq_true h
    exact ⟨.null, by decide, fun _ => rfl,
      fun dirty => absurd dirty (clean (by decide) (by decide))⟩
  | pointer =>
    exact ⟨.pointer, Word.kind?_of_hasTag h rfl, fun _ => encode_text_of_isPointer place h,
      fun dirty => absurd dirty (clean (by decide) (by decide))⟩
  | string => exact absurd h other
  | uint =>
    have back := encode_text_of_isUint place h
    refine ⟨.uint, Word.kind?_of_hasTag h rfl, ?_, fun _ => back⟩
    intro spotless
    rwa [Word.clearSpare_of_not_isDirty (Or.inl h) spotless] at back
  | sint =>
    have back := encode_text_of_isSint place h
    refine ⟨.sint, Word.kind?_of_hasTag h rfl, ?_, fun _ => back⟩
    intro spotless
    rwa [Word.clearSpare_of_not_isDirty (Or.inr h) spotless] at back

end Kinds

section Auto

theorem auto_text_of_isUint (h : w.isUint) :
    encode place .auto (some w.text) = encode place .uint (some w.text) := by
  have digits : w.text.toList = Numeral.decimal w.toUint.toNat := by
    rw [Word.text_of_isUint h, String.toList_ofList]
  apply (agree_uint (i := w.toUint.toNat) ?_ ?_).eq_of_ok (encode_text_of_isUint place h)
  · rw [digits]
    exact Literal.denotes_decimal _
  · rw [digits]
    exact Literal.head?_decimal_ne _ (by decide)

theorem denotes_text_of_isSint (h : w.isSint) :
    Literal.Denotes w.text.toList w.toSint.toInt ∧
      (w.text.toList.head? = some '-' ↔ w.toSint.toInt < 0) := by
  rw [Word.text_of_isSint h, String.toList_ofList]
  exact ⟨Literal.denotes_integer _, Literal.head?_integer_eq_minus_iff _⟩

theorem auto_text_of_negative (h : w.isSint) (negative : w.toSint.toInt < 0) :
    encode place .auto (some w.text) = encode place .sint (some w.text) := by
  obtain ⟨denoted, minus⟩ := denotes_text_of_isSint h
  exact (agree_sint denoted (minus.mpr negative)).eq_of_ok (encode_text_of_isSint place h)

/-- Without a minus an integer is taken for an unsigned one. -/
theorem auto_text_of_nonneg (h : w.isSint) (least : 0 ≤ w.toSint.toInt) :
    encode place .auto (some w.text) = .ok (ofWord (.ofUint w.toUint)) := by
  obtain ⟨denoted, minus⟩ := denotes_text_of_isSint h
  have plain : w.text.toList.head? ≠ some '-' := by
    rw [ne_eq, minus]
    omega
  rw [encode_auto_some_eq_ok_iff, auto_unsigned_eq_ok_iff plain denoted]
  refine ⟨w.toUint, Literal.readUint_eq_ok_iff.mpr ⟨plain, ?_⟩, rfl⟩
  rwa [Word.toNat_toUint_of_nonneg least]

/-- The words that stand for themselves and the integers whose sign can be told are read by `auto`
as by their own kind. -/
theorem auto_text (kind : Kind) (named : w.typeName.kind? = some kind)
    (h : w.isBool ∨ w.isNull ∨ w.isUint ∨ w.isSint ∧ w.toSint.toInt < 0) :
    encode place .auto (some w.text) = encode place kind (some w.text) := by
  obtain bool | null | uint | ⟨sint, negative⟩ := h
  · rw [Word.isBool, Bool.or_eq_true] at bool
    obtain yes | no := bool
    · obtain rfl : w = .ofBool true := of_decide_eq_true yes
      obtain rfl : Kind.bool = kind := Option.some.inj named
      rfl
    · obtain rfl : w = .ofBool false := of_decide_eq_true no
      obtain rfl : Kind.bool = kind := Option.some.inj named
      rfl
  · obtain rfl : w = .null := of_decide_eq_true null
    obtain rfl : Kind.null = kind := Option.some.inj named
    rfl
  · rw [Word.kind?_of_hasTag uint rfl] at named
    obtain rfl : Kind.uint = kind := Option.some.inj named
    exact auto_text_of_isUint place uint
  · rw [Word.kind?_of_hasTag sint rfl] at named
    obtain rfl : Kind.sint = kind := Option.some.inj named
    exact auto_text_of_negative place sint negative

end Auto

/-- Strings show their address and invalid words all their digits, behind words that begin no
literal. -/
theorem encode_text_refused (h : w.typeName = .invalid ∨ w.isString) {kind : Kind}
    (choosy : kind ∈ choosyKinds) :
    ∃ failure, encode place kind (some w.text) = .error failure := by
  obtain invalid | string := h
  · rw [Word.text, Word.plain_of_invalid invalid]
    exact encode_refuses choosy (c := '<') (by decide) _ place
  · rw [Word.text_of_isString string]
    exact encode_refuses choosy (c := 's') (by decide) _ place

end Report

/-- Every word has a literal that decodes to it. The rendering of a decoded word that is no double,
no string and not invalid encodes back under the kind of its type name: it gives the word, with the
spare bits of an integer cleared. The kind `auto` gives the same report for booleans, null, unsigned
integers and negative ones, and the unsigned word of a signed integer that is not negative. The
rendering of a string or an invalid word is refused by every kind that does not take any literal. -/
theorem tagged_renderings_encode_back :
    (∀ (radix : Radix) (w : Word),
      Report.decode (String.ofList (Report.wordText radix w)) = .ok (.ofWord w)) ∧
    (∀ (place : Address) (literal : String) (r : Report),
      Report.decode literal = .ok r → ¬r.word.isDouble →
        (r.word.typeName ≠ .invalid → ¬r.word.isString → ∃ kind,
          r.word.typeName.kind? = some kind ∧
          (¬r.word.IsDirty → Report.encode place kind (some r.rendering) = .ok r) ∧
          (r.word.IsDirty →
            Report.encode place kind (some r.rendering) = .ok (.ofWord r.word.clearSpare)) ∧
          (r.word.isBool ∨ r.word.isNull ∨ r.word.isUint ∨
              r.word.isSint ∧ r.word.toSint.toInt < 0 →
            Report.encode place .auto (some r.rendering) =
              Report.encode place kind (some r.rendering)) ∧
          (r.word.isSint → 0 ≤ r.word.toSint.toInt → ∃ n : UInt32,
            (n.toNat : Int) = r.word.toSint.toInt ∧
              Report.encode place .auto (some r.rendering) = .ok (.ofWord (.ofUint n)))) ∧
        (r.word.typeName = .invalid ∨ r.word.isString →
          ∀ kind ∈ [Kind.double, .bool, .uint, .sint, .pointer, .auto], ∃ failure,
            Report.encode place kind (some r.rendering) = .error failure)) := by
  constructor
  · exact Report.decode_wordText
  · intro place literal r decoded tagged
    obtain ⟨w, -, rfl⟩ := map_eq_ok_iff.mp decoded
    constructor
    · intro valid other
      obtain ⟨kind, named, clean, dirty⟩ := Report.encode_text_of_tagged place tagged valid other
      refine ⟨kind, named, clean, dirty, Report.auto_text place kind named, ?_⟩
      intro sint least
      exact ⟨_, Word.toNat_toUint_of_nonneg least, Report.auto_text_of_nonneg place sint least⟩
    · intro refused kind choosy
      exact Report.encode_text_refused place refused choosy

/-- A dirty word of the least integer, a signed integer that is not negative, and a word of the tag
of null with a payload. -/
theorem tagged_renderings_encode_back_at_edges :
    (Report.decode "0x7FFF800080000000" = .ok (.ofWord 0x7FFF800080000000) ∧
      Word.IsDirty 0x7FFF800080000000 ∧ Word.text 0x7FFF800080000000 = "-2147483648" ∧
      Report.encode ⟨0, by decide⟩ .sint (some (Word.text 0x7FFF800080000000)) =
        .ok (.ofWord 0x7FFF000080000000)) ∧
    (∃ n : UInt32, (n.toNat : Int) = 7 ∧
      Report.encode ⟨0, by decide⟩ .auto (some (Word.text 0x7FFF000000000007)) =
        .ok (.ofWord (.ofUint n))) ∧
    (∃ failure, Report.encode ⟨0, by decide⟩ .pointer (some (Word.text 0x7FFB000000000003)) =
      .error failure) := by
  obtain ⟨literals, back⟩ := tagged_renderings_encode_back
  have least : Report.decode "0x7FFF800080000000" = .ok (.ofWord 0x7FFF800080000000) :=
    literals .hex 0x7FFF800080000000
  have seven : Report.decode "0x7FFF000000000007" = .ok (.ofWord 0x7FFF000000000007) :=
    literals .hex 0x7FFF000000000007
  have invalid : Report.decode "0x7FFB000000000003" = .ok (.ofWord 0x7FFB000000000003) :=
    literals .hex 0x7FFB000000000003
  have spare : Word.IsDirty 0x7FFF800080000000 := ⟨by decide, by decide⟩
  obtain ⟨kind, named, -, dirty, -⟩ :=
    (back ⟨0, by decide⟩ _ _ least (by decide)).1 (by decide) (by decide)
  obtain ⟨-, -, -, -, -, unsigned⟩ :=
    (back ⟨0, by decide⟩ _ _ seven (by decide)).1 (by decide) (by decide)
  obtain rfl : Kind.sint = kind := Option.some.inj named
  refine ⟨⟨least, spare, by decide +kernel, dirty spare⟩, unsigned (by decide) (by decide), ?_⟩
  exact (back ⟨0, by decide⟩ _ _ invalid (by decide)).2 (Or.inl (by decide)) .pointer (by decide)

end QuietBox
