import QuietBox.Literal.WordLiteral
import QuietBox.Word.Layout

/-!
Numerals read back. The digits of a number, in either case and after any zeros, have the number as
their value; a reader with a limit gives that value whenever it is within the limit.
-/

set_option autoImplicit false

namespace QuietBox

namespace Numeral

variable {base sum n : Nat}

theorem go_append (base sum : Nat) (front back : List Char) :
    value?.go base sum (front ++ back) =
      (value?.go base sum front).bind fun s => value?.go base s back := by
  induction front generalizing sum with
  | nil => rfl
  | cons c front ih =>
    simp only [List.cons_append, value?.go]
    cases digitValue? base c with
    | none => rfl
    | some d => exact ih (sum * base + d)

/-- Digits after a value only make it larger. -/
theorem le_of_go (positive : 0 < base) {digits : List Char}
    (h : value?.go base sum digits = some n) : sum ≤ n := by
  induction digits generalizing sum with
  | nil =>
    cases h
    exact Nat.le_refl _
  | cons c digits ih =>
    obtain ⟨d, -, rest⟩ := Option.bind_eq_some_iff.mp h
    have more := Nat.le_mul_of_pos_right sum positive
    have := ih rest
    omega

/-- What has a value has only digits. -/
theorem notMem_of_go {digits : List Char} {c : Char} (h : value?.go base sum digits = some n)
    (other : digitValue? base c = none) : c ∉ digits := by
  induction digits generalizing sum with
  | nil => exact List.not_mem_nil
  | cons first digits ih =>
    obtain ⟨d, found, rest⟩ := Option.bind_eq_some_iff.mp h
    intro member
    rcases List.mem_cons.mp member with rfl | later
    · rw [other] at found
      cases found
    · exact ih rest later

theorem go_replicate_zero (positive : 0 < base) (count : Nat) :
    value?.go base 0 (List.replicate count '0') = some 0 := by
  have zero : digitValue? base '0' = some 0 := by simp [digitValue?, positive]
  induction count with
  | zero => rfl
  | succ count ih =>
    rw [List.replicate_succ, value?.go, zero]
    simpa using ih

/-- The digits of a number have it as their value, written in any characters for its digits. -/
theorem go_map_toDigits {write : Char → Char} (large : 1 < base)
    (digit : ∀ d < base, digitValue? base (write d.digitChar) = some d) (n : Nat) :
    value?.go base 0 ((Nat.toDigits base n).map write) = some n := by
  induction n using Nat.strongRecOn with
  | ind n ih =>
    by_cases small : n < base
    · rw [Nat.toDigits_of_lt_base small]
      simp [value?.go, digit n small]
    · have last := Nat.mod_lt n (show 0 < base by omega)
      have front := ih (n / base) (Nat.div_lt_self (by omega) large)
      rw [Nat.toDigits_of_base_le large (by omega), List.map_append, go_append, front]
      simp [value?.go, digit _ last, Nat.div_add_mod']

theorem go_zeroPadded (positive : 0 < base) (width : Nat) (digits : List Char) :
    value?.go base 0 (zeroPadded width digits) = value?.go base 0 digits := by
  rw [zeroPadded, go_append, go_replicate_zero positive]
  rfl

theorem zeroPadded_ne_nil {width : Nat} (positive : 0 < width) (digits : List Char) :
    zeroPadded width digits ≠ [] := by
  intro empty
  have length := length_zeroPadded width digits
  rw [empty, List.length_nil] at length
  omega

theorem value?_upperHex (n : Nat) : value? 16 (upperHex n) = some n := by
  have digit : ∀ d < 16, digitValue? 16 d.digitChar.toUpper = some d := by decide
  exact go_map_toDigits (by decide) digit n

theorem value?_toDigits (large : 1 < base) (small : base ≤ 16) (n : Nat) :
    value? base (Nat.toDigits base n) = some n := by
  have value : ∀ d < 16, digitValue? 16 d.digitChar = some d := by decide
  have digit : ∀ d < base, digitValue? base (id d.digitChar) = some d := by
    intro d inside
    have found := value d (by omega)
    simp only [digitValue?, Option.filter_eq_some_iff] at found ⊢
    exact ⟨found.1, decide_eq_true inside⟩
  have read := go_map_toDigits large digit n
  rwa [List.map_id] at read

theorem value?_binary (n : Nat) : value? 2 (binary n) = some n :=
  value?_toDigits (by decide) (by decide) n

theorem value?_decimal (n : Nat) : value? 10 (decimal n) = some n :=
  value?_toDigits (by decide) (by decide) n

theorem decimal_inj {m n : Nat} (same : decimal m = decimal n) : m = n := by
  have value := value?_decimal m
  rw [same, value?_decimal] at value
  exact (Option.some.inj value).symm

theorem value?_lowerHex (n : Nat) : value? 16 (lowerHex n) = some n :=
  value?_toDigits (by decide) (by decide) n

end Numeral

namespace Literal

/-- Reading up to a limit gives the value of the digits if they have one within it. -/
theorem readDigits_eq_ok_iff {base limit sum n : Nat} {beyond : IntegerFault} (positive : 0 < base)
    {digits : List Char} (h : sum ≤ limit) :
    readDigits base limit beyond sum digits = .ok n ↔
      Numeral.value?.go base sum digits = some n ∧ n ≤ limit := by
  induction digits generalizing sum with
  | nil =>
    simp only [readDigits, Numeral.value?.go, Except.ok.injEq, Option.some.injEq]
    constructor
    · rintro rfl
      exact ⟨rfl, h⟩
    · exact And.left
  | cons c digits ih =>
    simp only [readDigits, Numeral.value?.go]
    cases Numeral.digitValue? base c with
    | none => simp
    | some d =>
      simp only [Option.bind_some]
      by_cases within : sum * base + d ≤ limit
      · rw [if_pos within]
        exact ih within
      · rw [if_neg within]
        constructor
        · intro failed
          cases failed
        · rintro ⟨value, le⟩
          have := Numeral.le_of_go positive value
          omega

/-- Digits whose value leaves the limit are refused for their size, wherever that happens. -/
theorem readDigits_of_limit_lt {base limit sum n : Nat} {beyond : IntegerFault} {text : List Char}
    (within : sum ≤ limit) (large : limit < n) (h : Numeral.value?.go base sum text = some n) :
    readDigits base limit beyond sum text = .error beyond := by
  induction text generalizing sum with
  | nil =>
    cases h
    omega
  | cons c text ih =>
    obtain ⟨d, digit, rest⟩ := Option.bind_eq_some_iff.mp h
    simp only [readDigits, digit]
    split
    · rename_i next
      exact ih next rest
    · rfl

theorem readNatural_plus {base limit : Nat} {digits : List Char} (nonempty : digits ≠ []) :
    readNatural base limit ('+' :: digits) = readDigits base limit .tooLarge 0 digits := by
  cases digits with
  | nil => exact absurd rfl nonempty
  | cons c rest => rfl

theorem readNatural_plain {base limit : Nat} {text : List Char} (nonempty : text ≠ [])
    (plus : text.head? ≠ some '+') :
    readNatural base limit text = readDigits base limit .tooLarge 0 text := by
  unfold readNatural
  split
  · exact absurd rfl nonempty
  · exact absurd rfl plus
  · exact absurd rfl plus
  · rfl

/-- A sign is no digit, so a text that has a value is read without one. -/
theorem readNatural_of_value? {base limit n : Nat} {digits : List Char} (positive : 0 < base)
    (nonempty : digits ≠ []) (h : Numeral.value? base digits = some n) (le : n ≤ limit) :
    readNatural base limit digits = .ok n := by
  have sign : '+' ∉ digits := Numeral.notMem_of_go h (by simp [Numeral.digitValue?])
  rw [readNatural_plain nonempty (fun first => sign (List.mem_of_head? first))]
  exact (readDigits_eq_ok_iff positive (Nat.zero_le limit)).mpr ⟨h, le⟩

/-- Digits of a word with the base that their mark announces, if no underscore is among them. -/
theorem readWord_of_splitBase {base : Nat} {text digits : List Char} {w : Word}
    (announced : splitBase text = (base, digits)) (clean : '_' ∉ text) (positive : 0 < base)
    (nonempty : digits ≠ []) (h : Numeral.value? base digits = some w.toNat) :
    readWord text = .ok w := by
  have kept : withoutUnderscores text = text := by
    apply List.filter_eq_self.mpr
    intro c member
    simpa using ne_of_mem_of_not_mem member clean
  have number : readNatural base 0xFFFFFFFFFFFFFFFF digits = .ok w.toNat :=
    readNatural_of_value? positive nonempty h (by have := w.isLt; omega)
  rw [readWord, kept, readBareWord, announced]
  simp only [number, Except.map]
  rw [Word.ofNat, BitVec.ofNat_toNat, BitVec.setWidth_eq]

/-- The digits of a word after the mark of their base. -/
theorem readWord_of_value? {mark : Char} {base : Nat} {digits : List Char} {w : Word}
    (announced : splitBase ('0' :: mark :: digits) = (base, digits)) (other : mark ≠ '_')
    (positive : 0 < base) (nonempty : digits ≠ [])
    (h : Numeral.value? base digits = some w.toNat) :
    readWord ('0' :: mark :: digits) = .ok w := by
  have absent : '_' ∉ digits := Numeral.notMem_of_go h (by simp [Numeral.digitValue?])
  apply readWord_of_splitBase announced _ positive nonempty h
  intro member
  simp only [List.mem_cons] at member
  rcases member with zero | same | digit
  · exact absurd zero (by decide)
  · exact other same.symm
  · exact absent digit

/-- Decimal digits announce no other base. -/
theorem splitBase_decimal (n : Nat) : splitBase (Numeral.decimal n) = (10, Numeral.decimal n) := by
  have absent {c : Char} (letter : Numeral.digitValue? 10 c = none) : c ∉ Numeral.decimal n :=
    Numeral.notMem_of_go (Numeral.value?_decimal n) letter
  unfold splitBase
  split
  · rename_i same
    exact absurd (by simp [same]) (absent (c := 'x') (by decide))
  · rename_i same
    exact absurd (by simp [same]) (absent (c := 'X') (by decide))
  · rename_i same
    exact absurd (by simp [same]) (absent (c := 'b') (by decide))
  · rfl

/-- The decimal text of a word is a literal of it. -/
theorem readWord_decimal (w : Word) : readWord (Numeral.decimal w.toNat) = .ok w :=
  readWord_of_splitBase (splitBase_decimal w.toNat)
    (Numeral.notMem_of_go (Numeral.value?_decimal w.toNat) (by decide)) (by decide)
    Nat.toDigits_ne_nil (Numeral.value?_decimal w.toNat)

end Literal

end QuietBox
