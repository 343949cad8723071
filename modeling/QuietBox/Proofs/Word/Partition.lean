import Mathlib.Logic.ExistsUnique
import QuietBox.Proofs.Word.Accessors
import QuietBox.Proofs.Word.SpareBits

/-!
Boxing partitions the words. `Word.content?` reads back what `Content.toWord` writes, so the seven
variants share the word space without a collision; what no content is written to are the invalid
words and the integer words with a spare bit set.
-/

set_option autoImplicit false

namespace QuietBox

theorem Address.toNat_ofNat (a : Address) : (Word.ofNat a.toNat).toNat = a.toNat := by
  have small := a.isLt
  simp only [Word.ofNat, BitVec.toNat_ofNat]
  omega

theorem Address.ofWord_ofNat (a : Address) : Address.ofWord (Word.ofNat a.toNat) = .ok a := by
  simp only [Address.ofWord, a.toNat_ofNat, a.isLt, ↓reduceDIte]

namespace Content

/-- The construction that boxes a content. -/
def construction : Content → Construction
  | double d => .double d
  | bool b => .bool b
  | null => .null
  | pointer a => .pointer (Word.ofNat a.toNat)
  | string a => .string (Word.ofNat a.toNat)
  | uint n => .uint n
  | sint n => .sint n

/-- A content that may be boxed is boxed as a word. -/
def Boxes (c : Content) (w : Word) : Prop := c.Boxable ∧ c.construction.build = .ok w

/-- The accessor that asks for a variant; null has a predicate only. -/
def access? : Content → Option Access
  | double _ => some .double
  | bool _ => some .bool
  | null => none
  | pointer _ => some .pointer
  | string _ => some .string
  | uint _ => some .uint
  | sint _ => some .sint

/-- The type name of a content's box. -/
def typeName : Content → TypeName
  | double d => if d = Double.canonicalNaN then .tagged .nan else .double
  | bool b => .tagged (if b then .true else .false)
  | null => .tagged .null
  | pointer _ => .tagged .pointer
  | string _ => .tagged .string
  | uint _ => .tagged .uint
  | sint _ => .tagged .sint

/-- The accessor of the variant gives the content back. -/
def ReadFrom (w : Word) : Content → Prop
  | double d => w.asDouble = .ok d
  | bool b => w.asBool = .ok b
  | null => w.isNull
  | pointer a => w.asPointer = .ok a
  | string a => w.asString = .ok a
  | uint n => w.asUint = .ok n
  | sint n => w.asSint = .ok n

@[simp] theorem build_construction (c : Content) : c.construction.build = .ok c.toWord := by
  cases c with
  | pointer a =>
    simp only [construction, Construction.build, Word.pointerTo, Address.ofWord_ofNat]
    rfl
  | string a =>
    simp only [construction, Construction.build, Word.stringAt, Address.ofWord_ofNat]
    rfl
  | _ => rfl

theorem boxes_iff (c : Content) (w : Word) : c.Boxes w ↔ c.Boxable ∧ c.toWord = w := by
  rw [Boxes, build_construction, Except.ok.injEq]

theorem isDouble_of_boxable {d : Double} (h : (double d).Boxable) : d.bits.isDouble := by
  rcases h with outside | rfl
  · exact Word.isDouble_of_unreserved outside
  · decide

theorem address_reserved (t : Tag) (a : Address) :
    (Word.reserved t a.toNat).address = a := by
  cases a with
  | mk n small => simp only [Word.address, Word.payload_reserved, Nat.mod_eq_of_lt small]

/-- What is written into a word is read back from it. -/
theorem content?_toWord {c : Content} (h : c.Boxable) : c.toWord.content? = some c := by
  cases c with
  | double d =>
    have := isDouble_of_boxable h
    simp only [toWord, Word.ofDouble, Word.content?, this, ↓reduceIte, Word.toDouble]
  | bool b => cases b <;> decide
  | null => decide
  | pointer a => simp [toWord, Word.ofPointer, Word.content?, address_reserved]
  | string a => simp [toWord, Word.ofString, Word.content?, address_reserved]
  | uint n => simp [toWord, Word.ofUint, Word.content?]
  | sint n => simp [toWord, Word.ofSint, Word.content?]

/-- No two contents share a word. -/
theorem toWord_inj {c d : Content} (hc : c.Boxable) (hd : d.Boxable) :
    c.toWord = d.toWord ↔ c = d := by
  constructor
  · intro same
    have := content?_toWord hc
    rw [same, content?_toWord hd] at this
    exact (Option.some.inj this).symm
  · exact congrArg toWord

theorem typeName_toWord {c : Content} (h : c.Boxable) : c.toWord.typeName = c.typeName := by
  cases c with
  | double d =>
    rcases h with outside | rfl
    · have other : d ≠ Double.canonicalNaN := by
        rintro rfl
        exact outside (by decide)
      rw [toWord, Word.ofDouble, Word.typeName_of_unreserved outside, typeName, if_neg other]
    · decide
  | bool b => cases b <;> decide
  | null => decide
  | _ => simp [toWord, Word.ofPointer, Word.ofString, Word.ofUint, Word.ofSint, typeName,
      Tag.isImmediate, Tag.toNat]

theorem not_isDirty_toWord {c : Content} (h : c.Boxable) : ¬c.toWord.IsDirty := by
  cases c with
  | double d =>
    rcases h with outside | rfl
    · exact Word.not_isDirty_of_unreserved outside
    · have same : toWord (double Double.canonicalNaN) = Word.reserved .nan 0 := by decide
      simp [same, Word.isDirty_reserved]
  | bool b => cases b <;> simp [toWord, Word.ofBool, Word.isDirty_reserved]
  | null => simp [toWord, Word.null, Word.isDirty_reserved]
  | pointer a => simp [toWord, Word.ofPointer, Word.isDirty_reserved]
  | string a => simp [toWord, Word.ofString, Word.isDirty_reserved]
  | uint n =>
    have small := n.toNat_lt
    rw [toWord, Word.ofUint, Word.isDirty_reserved]
    omega
  | sint n =>
    have small := n.toUInt32.toNat_lt
    rw [toWord, Word.ofSint, Word.isDirty_reserved]
    omega

/-- A boxed content is well formed. -/
theorem wellFormed_toWord {c : Content} (h : c.Boxable) :
    c.toWord.typeName ≠ .invalid ∧ ¬c.toWord.IsDirty := by
  refine ⟨?_, not_isDirty_toWord h⟩
  rw [typeName_toWord h]
  cases c with
  | double d =>
    rw [typeName]
    split <;> decide
  | bool b => cases b <;> decide
  | _ => exact TypeName.noConfusion

/-- A well-formed word is the box of a content. -/
theorem exists_boxes {w : Word} (valid : w.typeName ≠ .invalid) (clean : ¬w.IsDirty) :
    ∃ c, Boxes c w := by
  rcases w.unreserved_or_reserved with outside | ⟨t, p, small, rfl⟩
  · exact ⟨double ⟨w⟩, (boxes_iff _ _).mpr ⟨Or.inl outside, rfl⟩⟩
  · simp only [Word.isDirty_reserved, Nat.mod_eq_of_lt small] at clean
    have empty (immediate : t.isImmediate) : p = 0 := by
      apply Classical.byContradiction
      intro payload
      apply valid
      simp [immediate, payload, Nat.mod_eq_of_lt small]
    have low (integer : t = .uint ∨ t = .sint) : (UInt32.ofNat p).toNat = p := by
      have bound : p < 0x100000000 := Nat.lt_of_not_le fun h => clean ⟨integer, h⟩
      rw [UInt32.toNat_ofNat', Nat.mod_eq_of_lt bound]
    simp only [boxes_iff]
    cases t with
    | nan =>
      rw [empty (by decide)]
      exact ⟨double Double.canonicalNaN, Or.inr rfl, by decide⟩
    | false =>
      rw [empty (by decide)]
      exact ⟨bool .false, trivial, rfl⟩
    | true =>
      rw [empty (by decide)]
      exact ⟨bool .true, trivial, rfl⟩
    | null =>
      rw [empty (by decide)]
      exact ⟨null, trivial, rfl⟩
    | pointer => exact ⟨pointer ⟨p, small⟩, trivial, rfl⟩
    | string => exact ⟨string ⟨p, small⟩, trivial, rfl⟩
    | uint =>
      refine ⟨uint (UInt32.ofNat p), trivial, ?_⟩
      rw [toWord, Word.ofUint, low (Or.inl rfl)]
    | sint =>
      refine ⟨sint (UInt32.ofNat p).toInt32, trivial, ?_⟩
      rw [toWord, Word.ofSint, UInt32.toUInt32_toInt32, low (Or.inr rfl)]

theorem readFrom_toWord {c : Content} (h : c.Boxable) : c.ReadFrom c.toWord := by
  cases c with
  | double d =>
    have holds := isDouble_of_boxable h
    simp only [ReadFrom, toWord, Word.ofDouble, Word.asDouble_eq, holds, ↓reduceIte]
    rfl
  | bool b => cases b <;> rfl
  | null => rfl
  | pointer a =>
    simp [ReadFrom, toWord, Word.ofPointer, Word.asPointer_eq, Word.isPointer, address_reserved]
  | string a =>
    simp [ReadFrom, toWord, Word.ofString, Word.asString_eq, Word.isString, address_reserved]
  | uint n => simp [ReadFrom, toWord, Word.ofUint, Word.asUint_eq, Word.isUint]
  | sint n => simp [ReadFrom, toWord, Word.ofSint, Word.asSint_eq, Word.isSint]

/-- Only the accessor of the variant answers. -/
theorem answers_toWord {c : Content} (h : c.Boxable) (a : Access) :
    c.toWord.answers a ↔ c.access? = some a := by
  cases c with
  | double d =>
    rcases h with outside | rfl
    · cases a <;> simp [toWord, Word.ofDouble, access?, Word.answers, Word.isBool, Word.isUint,
        Word.isSint, Word.isPointer, Word.isString, Word.isDouble_of_unreserved outside,
        Word.isTrue_of_unreserved outside, Word.isFalse_of_unreserved outside,
        Word.hasTag_of_unreserved outside]
    · cases a <;> decide
  | bool b => cases b <;> cases a <;> decide
  | null => cases a <;> decide
  | _ =>
    cases a <;> simp [toWord, Word.ofPointer, Word.ofString, Word.ofUint, Word.ofSint, access?,
      Word.answers, Word.isBool, Word.isUint, Word.isSint, Word.isPointer, Word.isString]

theorem isNull_toWord {c : Content} (h : c.Boxable) : c.toWord.isNull ↔ c = null := by
  have distinct : c.toWord.isNull ↔ c.toWord = toWord null := decide_eq_true_iff
  rw [distinct, toWord_inj h (d := null) trivial]

end Content

namespace Word

/-- An integer accessor reads the low half, whatever the spare bits are. -/
theorem toBitVec_toUint (w : Word) : w.toUint.toBitVec = w.setWidth 32 := by
  apply BitVec.eq_of_toNat_eq
  simp [toUint]

theorem toBitVec_toSint (w : Word) : w.toSint.toBitVec = w.setWidth 32 := toBitVec_toUint w

theorem ofUint_toUint {w : Word} (h : w.isUint) : ofUint w.toUint = w.clearSpare := by
  obtain ⟨p, -, rfl⟩ := exists_reserved_of_hasTag h
  rw [toUint_reserved, clearSpare_reserved, ofUint, UInt32.toNat_ofNat']

theorem ofSint_toSint {w : Word} (h : w.isSint) : ofSint w.toSint = w.clearSpare := by
  obtain ⟨p, -, rfl⟩ := exists_reserved_of_hasTag h
  rw [toSint_reserved, clearSpare_reserved, ofSint, UInt32.toUInt32_toInt32, UInt32.toNat_ofNat']

end Word

open Content in
/-- The typed constructors partition the words: every content that may be boxed has a box, the box
answers the accessor of its variant with that content and no other accessor, contents and boxes
correspond one to one, and what is left over are the invalid words and the dirty integer words. A
dirty word still reads as its low half, which boxes as the word without its spare bits. -/
theorem contents_partition_words :
    (∀ c : Content, c.Boxable → ∃ w, c.Boxes w) ∧
    (∀ (c : Content) (w : Word), c.Boxes w →
      c.ReadFrom w ∧ (∀ a, w.mismatch? a = none ↔ c.access? = some a) ∧
        (w.isNull ↔ c = null)) ∧
    (∀ (c d : Content) (v w : Word), c.Boxes v → d.Boxes w → (v = w ↔ c = d)) ∧
    (∀ w : Word, (∃! c : Content, c.Boxes w) ↔ w.typeName ≠ .invalid ∧ ¬w.IsDirty) ∧
    (∀ w : Word, w.typeName = .invalid ∨ w.IsDirty → ∀ c : Content, ¬c.Boxes w) ∧
    (∀ w : Word, w.isUint →
      ∃ n, w.asUint = .ok n ∧ n.toBitVec = w.setWidth 32 ∧ (uint n).Boxes w.clearSpare) ∧
    (∀ w : Word, w.isSint →
      ∃ n, w.asSint = .ok n ∧ n.toBitVec = w.setWidth 32 ∧ (sint n).Boxes w.clearSpare) := by
  refine ⟨?_, ?_, ?_, ?_, ?_, ?_, ?_⟩
  · intro c h
    exact ⟨c.toWord, h, build_construction c⟩
  · intro c w boxed
    obtain ⟨h, rfl⟩ := (boxes_iff c w).mp boxed
    refine ⟨readFrom_toWord h, ?_, isNull_toWord h⟩
    intro a
    rw [Word.mismatch?_eq_none_iff, answers_toWord h]
  · intro c d v w first second
    obtain ⟨hc, rfl⟩ := (boxes_iff c v).mp first
    obtain ⟨hd, rfl⟩ := (boxes_iff d w).mp second
    exact toWord_inj hc hd
  · intro w
    constructor
    · rintro ⟨c, boxed, -⟩
      obtain ⟨h, rfl⟩ := (boxes_iff c w).mp boxed
      exact wellFormed_toWord h
    · rintro ⟨valid, clean⟩
      obtain ⟨c, boxed⟩ := exists_boxes valid clean
      refine ⟨c, boxed, ?_⟩
      intro d other
      rw [boxes_iff] at boxed other
      exact (toWord_inj other.1 boxed.1).mp (other.2.trans boxed.2.symm)
  · intro w excluded c boxed
    obtain ⟨h, rfl⟩ := (boxes_iff c w).mp boxed
    obtain ⟨valid, clean⟩ := wellFormed_toWord h
    exact excluded.elim valid clean
  · intro w isUint
    refine ⟨w.toUint, ?_, w.toBitVec_toUint, ?_⟩
    · rw [Word.asUint_eq, if_pos isUint]
    · exact (boxes_iff _ _).mpr ⟨trivial, Word.ofUint_toUint isUint⟩
  · intro w isSint
    refine ⟨w.toSint, ?_, w.toBitVec_toSint, ?_⟩
    · rw [Word.asSint_eq, if_pos isSint]
    · exact (boxes_iff _ _).mpr ⟨trivial, Word.ofSint_toSint isSint⟩

open Content in
/-- A negative integer, the unsigned one with the same low half, and a dirty word of the latter. -/
theorem contents_partition_words_at_minus_one :
    (sint (-1)).ReadFrom 0x7FFF0000FFFFFFFF ∧
      ((0x7FFF0000FFFFFFFF : Word) ≠ 0x7FFE0000FFFFFFFF) ∧
      (∀ c : Content, ¬c.Boxes 0x7FFE8000FFFFFFFF) ∧
      (∃ n, Word.asUint 0x7FFE8000FFFFFFFF = .ok n ∧ n.toBitVec = 0xFFFFFFFF ∧
        (uint n).Boxes 0x7FFE0000FFFFFFFF) := by
  obtain ⟨-, read, distinct, -, excluded, dirty, -⟩ := contents_partition_words
  have signed : (sint (-1)).Boxes 0x7FFF0000FFFFFFFF :=
    (boxes_iff _ _).mpr ⟨trivial, by decide⟩
  have unsigned : (uint 0xFFFFFFFF).Boxes 0x7FFE0000FFFFFFFF :=
    (boxes_iff _ _).mpr ⟨trivial, by decide⟩
  refine ⟨(read _ _ signed).1, ?_, ?_, ?_⟩
  · intro same
    have := (distinct _ _ _ _ signed unsigned).mp same
    cases this
  · exact excluded _ (Or.inr ⟨by decide, by decide⟩)
  · exact dirty _ (by decide)

end QuietBox
