import QuietBox.Word.Boxing

/-!
Reserved words through their fields. A word either lies outside the reserved signature or is
`reserved t p` for one tag and one payload, and on both sides every predicate, type name and
unchecked accessor has a value in closed form.
-/

set_option autoImplicit false

namespace QuietBox

namespace Tag

theorem isImmediate_iff (t : Tag) :
    t.isImmediate ↔ t = nan ∨ t = .false ∨ t = .true ∨ t = null := by
  cases t <;> decide

end Tag

namespace Word

theorem toNat_reserved (t : Tag) (p : Nat) :
    (reserved t p).toNat =
      reservedSignature * 0x8000000000000 + t.toNat * 0x1000000000000 + p % 0x1000000000000 := by
  rw [reserved, Tagged.toNat_toWord]
  rfl

@[simp] theorem fields_reserved (t : Tag) (p : Nat) :
    (reserved t p).fields = ⟨reservedSignature, t, p % 0x1000000000000⟩ :=
  Tagged.fields_toWord ⟨reservedSignature, t, p⟩

@[simp] theorem signature_reserved (t : Tag) (p : Nat) :
    (reserved t p).signature = reservedSignature :=
  congrArg Tagged.signature (fields_reserved t p)

@[simp] theorem tagField_reserved (t : Tag) (p : Nat) : (reserved t p).tagField = t :=
  congrArg Tagged.tag (fields_reserved t p)

@[simp] theorem payload_reserved (t : Tag) (p : Nat) :
    (reserved t p).payload = p % 0x1000000000000 :=
  congrArg Tagged.payload (fields_reserved t p)

/-- A word of the reserved signature is its tag and its payload. -/
theorem eq_reserved {w : Word} (h : w.signature = reservedSignature) :
    w = reserved w.tagField w.payload := by
  apply ext_fields
  rw [fields_reserved, Nat.mod_eq_of_lt w.payload_lt, fields, h]

theorem unreserved_or_reserved (w : Word) :
    w.signature ≠ reservedSignature ∨ ∃ t p, p < 0x1000000000000 ∧ w = reserved t p := by
  by_cases h : w.signature = reservedSignature
  · exact Or.inr ⟨w.tagField, w.payload, w.payload_lt, eq_reserved h⟩
  · exact Or.inl h

theorem reserved_inj {t u : Tag} {p q : Nat} :
    reserved t p = reserved u q ↔ t = u ∧ p % 0x1000000000000 = q % 0x1000000000000 := by
  constructor
  · intro same
    have h := congrArg fields same
    simp only [fields_reserved, Tagged.mk.injEq, true_and] at h
    exact h
  · rintro ⟨rfl, same⟩
    apply ext_fields
    rw [fields_reserved, fields_reserved, same]

@[simp] theorem hasTag_reserved (t u : Tag) (p : Nat) :
    (reserved t p).hasTag u = decide (t = u) := by
  have ht := t.toNat_lt
  have hu := u.toNat_lt
  have inj : t.toNat = u.toNat ↔ t = u := by
    constructor
    · intro same
      rw [← Tag.ofField_toNat t, same, Tag.ofField_toNat]
    · exact congrArg Tag.toNat
  have quotients : (reserved t p).toNat / 0x1000000000000 =
      (reserved u 0).toNat / 0x1000000000000 ↔ t.toNat = u.toNat := by
    simp only [toNat_reserved, reservedSignature]
    omega
  simp only [hasTag, quotients, inj]

@[simp] theorem isNan_reserved (t : Tag) (p : Nat) :
    (reserved t p).isNan = (decide (t = .nan) && decide (p % 0x1000000000000 = 0)) := by
  simp only [isNan, nan, reserved_inj, Nat.zero_mod, Bool.decide_and]

@[simp] theorem isDouble_reserved (t : Tag) (p : Nat) :
    (reserved t p).isDouble = (decide (t = .nan) && decide (p % 0x1000000000000 = 0)) := by
  simp only [isDouble, signature_reserved, ne_eq, not_true_eq_false, decide_false,
    Bool.false_or, isNan_reserved]

@[simp] theorem isFalse_reserved (t : Tag) (p : Nat) :
    (reserved t p).isFalse = (decide (t = .false) && decide (p % 0x1000000000000 = 0)) := by
  simp only [isFalse, ofBool, Bool.false_eq_true, ↓reduceIte, reserved_inj, Nat.zero_mod,
    Bool.decide_and]

@[simp] theorem isTrue_reserved (t : Tag) (p : Nat) :
    (reserved t p).isTrue = (decide (t = .true) && decide (p % 0x1000000000000 = 0)) := by
  simp only [isTrue, ofBool, ↓reduceIte, reserved_inj, Nat.zero_mod, Bool.decide_and]

@[simp] theorem isNull_reserved (t : Tag) (p : Nat) :
    (reserved t p).isNull = (decide (t = .null) && decide (p % 0x1000000000000 = 0)) := by
  simp only [isNull, null, reserved_inj, Nat.zero_mod, Bool.decide_and]

@[simp] theorem typeName_reserved (t : Tag) (p : Nat) :
    (reserved t p).typeName =
      if t.isImmediate && p % 0x1000000000000 != 0 then .invalid else .tagged t := by
  by_cases zero : p % 0x1000000000000 = 0
  · cases t <;> simp [typeName, zero]
  · cases t <;> simp [typeName, zero, Tag.isImmediate, Tag.toNat]

@[simp] theorem toUint_reserved (t : Tag) (p : Nat) :
    (reserved t p).toUint = UInt32.ofNat p := by
  apply UInt32.toNat_inj.mp
  simp only [toUint, UInt32.toNat_ofNat', toNat_reserved, reservedSignature]
  omega

@[simp] theorem toSint_reserved (t : Tag) (p : Nat) :
    (reserved t p).toSint = (UInt32.ofNat p).toInt32 := by
  rw [toSint, toUint_reserved]

section Unreserved

variable {w : Word} (h : w.signature ≠ reservedSignature)
include h

theorem ne_reserved (t : Tag) (p : Nat) : w ≠ reserved t p := by
  rintro rfl
  exact h (signature_reserved t p)

theorem hasTag_of_unreserved (t : Tag) : w.hasTag t = false := by
  have ht := t.toNat_lt
  simp only [signature, reservedSignature] at h
  simp only [hasTag, toNat_reserved, reservedSignature, decide_eq_false_iff_not]
  omega

theorem isNan_of_unreserved : w.isNan = false := decide_eq_false (ne_reserved h .nan 0)

theorem isFalse_of_unreserved : w.isFalse = false := decide_eq_false (ne_reserved h .false 0)

theorem isTrue_of_unreserved : w.isTrue = false := decide_eq_false (ne_reserved h .true 0)

theorem isNull_of_unreserved : w.isNull = false := decide_eq_false (ne_reserved h .null 0)

theorem isDouble_of_unreserved : w.isDouble = true := by
  simp only [isDouble, ne_eq, h, not_false_eq_true, decide_true, Bool.true_or]

theorem typeName_of_unreserved : w.typeName = .double := by
  simp only [typeName, isNan_of_unreserved h, isDouble_of_unreserved h, Bool.false_eq_true,
    ↓reduceIte]

end Unreserved

theorem exists_reserved_of_hasTag {w : Word} {t : Tag} (h : w.hasTag t) :
    ∃ p, p < 0x1000000000000 ∧ w = reserved t p := by
  rcases w.unreserved_or_reserved with outside | ⟨u, p, small, rfl⟩
  · rw [hasTag_of_unreserved outside] at h
    cases h
  · rw [hasTag_reserved, decide_eq_true_iff] at h
    exact ⟨p, small, by rw [h]⟩

theorem isDouble_of_hasTag {w : Word} {t : Tag} (h : w.hasTag t) (other : t ≠ .nan) :
    w.isDouble = false := by
  obtain ⟨p, -, rfl⟩ := exists_reserved_of_hasTag h
  simp [other]

theorem hasTag_unique {w : Word} {t u : Tag} (ht : w.hasTag t) (hu : w.hasTag u) : t = u := by
  obtain ⟨p, -, rfl⟩ := exists_reserved_of_hasTag ht
  simpa using hu

/-- Where the payload is free, the tag bits alone name the word. -/
theorem typeName_of_hasTag {w : Word} {t : Tag} (h : w.hasTag t) (free : t.isImmediate = false) :
    w.typeName = .tagged t := by
  obtain ⟨p, -, rfl⟩ := exists_reserved_of_hasTag h
  simp [free]

end Word

end QuietBox
