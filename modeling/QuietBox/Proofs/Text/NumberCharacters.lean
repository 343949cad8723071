import QuietBox.Word.Text

/-!
The characters of number texts. Whatever the format spec, the text of a number has only digits,
signs, points, fill characters and the letters of `NaN` and `inf`.
-/

set_option autoImplicit false

namespace QuietBox

open Format (Spec)

namespace Numeral

theorem isDigit_of_mem_decimal {n : Nat} {c : Char} (h : c ∈ decimal n) : c.isDigit :=
  Nat.isDigit_of_mem_toDigits (by decide) (by decide) h

theorem isDigit_of_mem_zeroPadded {width n : Nat} {c : Char}
    (h : c ∈ zeroPadded width (decimal n)) : c.isDigit := by
  rcases List.mem_append.mp h with zero | digit
  · rw [List.eq_of_mem_replicate zero]
    decide
  · exact isDigit_of_mem_decimal digit

end Numeral

namespace Decimal

theorem mem_pointed {n places : Nat} {c : Char} (h : c ∈ pointed n places) :
    c.isDigit ∨ c = '.' := by
  unfold pointed at h
  split at h
  · exact Or.inl (Numeral.isDigit_of_mem_decimal h)
  · rcases List.mem_append.mp h with whole | point
    · exact Or.inl (Numeral.isDigit_of_mem_zeroPadded (List.mem_of_mem_take whole))
    · rcases List.mem_cons.mp point with rfl | fraction
      · exact Or.inr rfl
      · exact Or.inl (Numeral.isDigit_of_mem_zeroPadded (List.mem_of_mem_drop fraction))

theorem mem_positional {d : Decimal} {c : Char} (h : c ∈ d.positional) :
    c.isDigit ∨ c = '.' := by
  unfold positional at h
  split at h
  · exact Or.inl (Numeral.isDigit_of_mem_decimal h)
  · exact mem_pointed h

end Decimal

/-- The characters that texts of numbers are made of. -/
def IsNumberChar (c : Char) : Prop := c.isDigit ∨ c ∈ ['+', '-', '.', 'N', 'a', 'i', 'n', 'f']

instance : DecidablePred IsNumberChar := fun c =>
  inferInstanceAs (Decidable (c.isDigit ∨ c ∈ ['+', '-', '.', 'N', 'a', 'i', 'n', 'f']))

/-- The characters of a number text after its sign. -/
def IsUnsignedChar (c : Char) : Prop := c.isDigit ∨ c ∈ ['.', 'N', 'a', 'i', 'n', 'f']

theorem IsUnsignedChar.isNumberChar {c : Char} (h : IsUnsignedChar c) : IsNumberChar c := by
  cases h with
  | inl digit => exact Or.inl digit
  | inr letter => exact Or.inr (List.mem_cons_of_mem _ (List.mem_cons_of_mem _ letter))

theorem IsUnsignedChar.ne_sign {c : Char} (h : IsUnsignedChar c) : c ≠ '+' ∧ c ≠ '-' := by
  constructor <;> rintro rfl <;> exact absurd h (by simp [IsUnsignedChar])

private theorem isUnsignedChar_of_mem_nan : ∀ c ∈ ['N', 'a', 'N'], IsUnsignedChar c := by
  simp [IsUnsignedChar]

private theorem isUnsignedChar_of_mem_inf : ∀ c ∈ ['i', 'n', 'f'], IsUnsignedChar c := by
  simp [IsUnsignedChar]

theorem isUnsignedChar_of_decimal {c : Char} (h : c.isDigit ∨ c = '.') : IsUnsignedChar c := by
  rcases h with digit | rfl
  · exact Or.inl digit
  · exact Or.inr List.mem_cons_self

namespace Format.Spec

theorem mem_pad {s : Spec} {head body : List Char} {c : Char} (h : c ∈ s.pad head body) :
    c = s.fill ∨ c = '0' ∨ c ∈ head ∨ c ∈ body := by
  unfold pad at h
  split at h <;> simp only [List.mem_append, List.mem_replicate] at h <;> grind

theorem isNumberChar_of_mem_sign {s : Spec} {negative : Bool} {c : Char}
    (h : c ∈ s.sign negative) : IsNumberChar c := by
  unfold sign at h
  split at h
  · exact Or.inr (by simp_all)
  · split at h <;> exact Or.inr (by simp_all)

theorem mem_pad_sign {s : Spec} {negative : Bool} {body : List Char} {c : Char}
    (number : ∀ x ∈ body, IsNumberChar x) (h : c ∈ s.pad (s.sign negative) body) :
    c = s.fill ∨ IsNumberChar c := by
  rcases mem_pad h with fill | rfl | sign | digit
  · exact Or.inl fill
  · exact Or.inr (Or.inl (by decide))
  · exact Or.inr (isNumberChar_of_mem_sign sign)
  · exact Or.inr (number c digit)

theorem mem_integer {s : Spec} {i : Int} {c : Char} (h : c ∈ s.integer i) :
    c = s.fill ∨ IsNumberChar c :=
  mem_pad_sign (fun _ digit => Or.inl (Numeral.isDigit_of_mem_decimal digit)) h

theorem mem_natural_decimal {s : Spec} {n : Nat} {c : Char} (h : c ∈ s.natural .decimal n) :
    c = s.fill ∨ IsNumberChar c :=
  mem_pad_sign (fun _ digit => Or.inl (Numeral.isDigit_of_mem_decimal digit)) h

end Format.Spec

namespace Double

theorem plain_eq (s : Spec) (d : Double) :
    d.plain s = s.pad (if d.isNaN then [] else s.sign d.isNegative)
      (match s.precision with
        | some places => d.preciseText places
        | none => d.plainText) := rfl

theorem plainText_eq (d : Double) :
    d.plainText =
      if d.isNaN then ['N', 'a', 'N']
      else if d.isInfinite then ['i', 'n', 'f']
      else if d.magnitude = 0 then ['0'] else (shortest d.magnitude).positional := rfl

theorem preciseText_eq (places : Nat) (d : Double) :
    d.preciseText places =
      if d.isNaN then ['N', 'a', 'N']
      else if d.isInfinite then ['i', 'n', 'f']
      else
        Decimal.pointed (roundHalfEven (magnitudeValue d.magnitude * power 10 places)) places :=
  rfl

theorem isUnsignedChar_of_mem_plainText {d : Double} {c : Char} (h : c ∈ d.plainText) :
    IsUnsignedChar c := by
  rw [plainText_eq] at h
  split at h
  · exact isUnsignedChar_of_mem_nan c h
  · split at h
    · exact isUnsignedChar_of_mem_inf c h
    · split at h
      · exact Or.inl (by simp_all)
      · exact isUnsignedChar_of_decimal (Decimal.mem_positional h)

theorem isUnsignedChar_of_mem_preciseText {d : Double} {places : Nat} {c : Char}
    (h : c ∈ d.preciseText places) : IsUnsignedChar c := by
  rw [preciseText_eq] at h
  split at h
  · exact isUnsignedChar_of_mem_nan c h
  · split at h
    · exact isUnsignedChar_of_mem_inf c h
    · exact isUnsignedChar_of_decimal (Decimal.mem_pointed h)

theorem mem_plain {s : Spec} {d : Double} {c : Char} (h : c ∈ d.plain s) :
    c = s.fill ∨ IsNumberChar c := by
  have body : ∀ x ∈ (match s.precision with
      | some places => d.preciseText places
      | none => d.plainText), IsNumberChar x := by
    intro x member
    split at member
    · exact (isUnsignedChar_of_mem_preciseText member).isNumberChar
    · exact (isUnsignedChar_of_mem_plainText member).isNumberChar
  rw [plain_eq] at h
  rcases Format.Spec.mem_pad h with fill | rfl | sign | digit
  · exact Or.inl fill
  · exact Or.inr (Or.inl (by decide))
  · split at sign
    · simp at sign
    · exact Or.inr (Format.Spec.isNumberChar_of_mem_sign sign)
  · exact Or.inr (body c digit)

end Double

end QuietBox
