import QuietBox.Proofs.Results
import QuietBox.Proofs.Text.NumeralReading

/-!
Integer literals. A text denotes an integer when it is decimal digits behind at most one sign, and
the readers give the integer that a text denotes whenever it lies in their range: leading zeros and
the number of digits play no part, and nothing else is read.
-/

set_option autoImplicit false

namespace QuietBox

namespace Numeral

theorem digitValue?_ten (c : Char) :
    digitValue? 10 c = if c.isDigit then some (c.toNat - '0'.toNat) else none := by
  by_cases digit : c.isDigit
  · have range := Char.isDigit_iff_toNat.mp digit
    have inside : '0' ≤ c ∧ c ≤ '9' := range
    have small : c.toNat - '0'.toNat < 10 := by
      have := range.2
      simp only [Char.reduceToNat] at *
      omega
    rw [if_pos digit, digitValue?, if_pos inside, Option.filter_some, decide_eq_true small]
    rfl
  · have outside : ¬('0' ≤ c ∧ c ≤ '9') := fun inside => digit (Char.isDigit_iff_toNat.mpr inside)
    rw [if_neg digit, digitValue?, if_neg outside]
    split
    · simp
    · split <;> simp

/-- Only decimal digits have a value, which is the number they write. -/
theorem go_ten_eq_some_iff {digits : List Char} {sum n : Nat} :
    value?.go 10 sum digits = some n ↔
      (∀ c ∈ digits, c.isDigit) ∧ Nat.ofDigitChars 10 digits sum = n := by
  induction digits generalizing sum with
  | nil => simp [value?.go]
  | cons c digits ih =>
    rw [value?.go, digitValue?_ten, Nat.ofDigitChars_cons, List.forall_mem_cons, Nat.mul_comm 10]
    by_cases digit : c.isDigit
    · rw [if_pos digit, Option.bind_some, ih]
      simp only [digit, true_and]
    · rw [if_neg digit]
      simp [digit]

end Numeral

namespace Literal

/-- At least one character, and decimal digits only. -/
def IsDigits (digits : List Char) : Prop := digits ≠ [] ∧ ∀ c ∈ digits, c.isDigit

theorem all_isDigit_iff (digits : List Char) :
    (!digits.isEmpty && digits.all Char.isDigit) = true ↔ IsDigits digits := by
  simp [IsDigits]

instance (digits : List Char) : Decidable (IsDigits digits) :=
  decidable_of_iff _ (all_isDigit_iff digits)

/-- A text is decimal digits behind at most one sign, and denotes an integer. -/
inductive Denotes : List Char → Int → Prop
  | plain {digits : List Char} :
      IsDigits digits → Denotes digits (Nat.ofDigitChars 10 digits 0)
  | plus {digits : List Char} :
      IsDigits digits → Denotes ('+' :: digits) (Nat.ofDigitChars 10 digits 0)
  | minus {digits : List Char} :
      IsDigits digits → Denotes ('-' :: digits) (-Nat.ofDigitChars 10 digits 0)

section Sign

variable {digits text : List Char} {i j : Int}

theorem not_isDigits_cons {c : Char} (other : c.isDigit = false) (rest : List Char) :
    ¬IsDigits (c :: rest) := by
  rintro ⟨-, all⟩
  have digit := all c List.mem_cons_self
  rw [other] at digit
  cases digit

theorem denotes_minus_iff :
    Denotes ('-' :: digits) i ↔ IsDigits digits ∧ i = -(Nat.ofDigitChars 10 digits 0 : Nat) := by
  constructor
  · intro h
    cases h with
    | plain all => exact absurd all (not_isDigits_cons (by decide) _)
    | minus all => exact ⟨all, rfl⟩
  · rintro ⟨all, rfl⟩
    exact .minus all

theorem denotes_plus_iff :
    Denotes ('+' :: digits) i ↔ IsDigits digits ∧ i = (Nat.ofDigitChars 10 digits 0 : Nat) := by
  constructor
  · intro h
    cases h with
    | plain all => exact absurd all (not_isDigits_cons (by decide) _)
    | plus all => exact ⟨all, rfl⟩
  · rintro ⟨all, rfl⟩
    exact .plus all

theorem denotes_plain_iff (plus : text.head? ≠ some '+') (minus : text.head? ≠ some '-') :
    Denotes text i ↔ IsDigits text ∧ i = (Nat.ofDigitChars 10 text 0 : Nat) := by
  constructor
  · intro h
    cases h with
    | plain all => exact ⟨all, rfl⟩
    | plus _ => exact absurd rfl plus
    | minus _ => exact absurd rfl minus
  · rintro ⟨all, rfl⟩
    exact .plain all

/-- A text has a minus in front, a plus, or neither. -/
theorem sign_cases (text : List Char) :
    (∃ digits, text = '-' :: digits) ∨ (∃ digits, text = '+' :: digits) ∨
      (text.head? ≠ some '+' ∧ text.head? ≠ some '-') := by
  cases text with
  | nil => exact Or.inr (Or.inr ⟨by simp, by simp⟩)
  | cons c rest =>
    by_cases minus : c = '-'
    · exact Or.inl ⟨rest, by rw [minus]⟩
    · by_cases plus : c = '+'
      · exact Or.inr (Or.inl ⟨rest, by rw [plus]⟩)
      · exact Or.inr (Or.inr ⟨by simpa using plus, by simpa using minus⟩)

/-- Neither a digit nor a sign begins no integer. -/
theorem not_denotes_cons {c : Char} (digit : c.isDigit = false) (plus : c ≠ '+') (minus : c ≠ '-')
    (rest : List Char) (i : Int) : ¬Denotes (c :: rest) i := by
  rw [denotes_plain_iff (by simpa using plus) (by simpa using minus)]
  rintro ⟨all, -⟩
  exact not_isDigits_cons digit rest all

/-- A text denotes at most one integer. -/
theorem Denotes.unique (first : Denotes text i) (second : Denotes text j) : i = j := by
  obtain ⟨digits, rfl⟩ | ⟨digits, rfl⟩ | ⟨plus, minus⟩ := sign_cases text
  · rw [denotes_minus_iff] at first second
    exact first.2.trans second.2.symm
  · rw [denotes_plus_iff] at first second
    exact first.2.trans second.2.symm
  · rw [denotes_plain_iff plus minus] at first second
    exact first.2.trans second.2.symm

end Sign

section Numerals

theorem isDigits_decimal (n : Nat) : IsDigits (Numeral.decimal n) :=
  ⟨Nat.toDigits_ne_nil, fun _ => Nat.isDigit_of_mem_toDigits (by decide) (by decide)⟩

theorem head?_decimal_ne (n : Nat) {c : Char} (other : c.isDigit = false) :
    (Numeral.decimal n).head? ≠ some c := by
  intro first
  have digit := (isDigits_decimal n).2 c (List.mem_of_head? first)
  rw [other] at digit
  cases digit

theorem denotes_decimal (n : Nat) : Denotes (Numeral.decimal n) n := by
  have value : Nat.ofDigitChars 10 (Numeral.decimal n) 0 = n := Nat.ofDigitChars_ten_toDigits
  have denoted := Denotes.plain (isDigits_decimal n)
  rwa [value] at denoted

theorem integer_of_neg {i : Int} (h : i < 0) :
    Numeral.integer i = '-' :: Numeral.decimal i.natAbs := by
  rw [Numeral.integer, if_pos h]
  rfl

theorem integer_of_nonneg {i : Int} (h : ¬i < 0) :
    Numeral.integer i = Numeral.decimal i.natAbs := by
  rw [Numeral.integer, if_neg h]
  rfl

/-- The numeral of an integer denotes it. -/
theorem denotes_integer (i : Int) : Denotes (Numeral.integer i) i := by
  by_cases negative : i < 0
  · have value : Nat.ofDigitChars 10 (Numeral.decimal i.natAbs) 0 = i.natAbs :=
      Nat.ofDigitChars_ten_toDigits
    rw [integer_of_neg negative, denotes_minus_iff, value]
    exact ⟨isDigits_decimal _, by omega⟩
  · have same : (i.natAbs : Int) = i := by omega
    have denoted := denotes_decimal i.natAbs
    rwa [integer_of_nonneg negative, ← same]

theorem integer_inj {i j : Int} (same : Numeral.integer i = Numeral.integer j) : i = j := by
  have denoted := denotes_integer i
  rw [same] at denoted
  exact denoted.unique (denotes_integer j)

theorem head?_integer_eq_minus_iff (i : Int) : (Numeral.integer i).head? = some '-' ↔ i < 0 := by
  by_cases negative : i < 0
  · rw [integer_of_neg negative]
    exact iff_of_true rfl negative
  · rw [integer_of_nonneg negative]
    exact iff_of_false (head?_decimal_ne _ (by decide)) negative

end Numerals

theorem isInteger_iff (text : List Char) : isInteger text ↔ ∃ i, Denotes text i := by
  obtain ⟨rest, rfl⟩ | ⟨rest, rfl⟩ | ⟨plus, minus⟩ := sign_cases text
  · simp only [denotes_minus_iff, exists_and_left, exists_eq, and_true]
    exact all_isDigit_iff rest
  · simp only [denotes_plus_iff, exists_and_left, exists_eq, and_true]
    exact all_isDigit_iff rest
  · have same : isInteger text = (!text.isEmpty && text.all Char.isDigit) := by
      unfold isInteger
      split
      · exact absurd rfl minus
      · exact absurd rfl plus
      · rfl
    simp only [denotes_plain_iff plus minus, exists_and_left, exists_eq, and_true, same]
    exact all_isDigit_iff text

section Readers

variable {limit n : Nat} {digits text : List Char}

theorem readDigits_ten_eq_ok_iff {beyond : IntegerFault} :
    readDigits 10 limit beyond 0 digits = .ok n ↔
      (∀ c ∈ digits, c.isDigit) ∧ n = Nat.ofDigitChars 10 digits 0 ∧ n ≤ limit := by
  rw [readDigits_eq_ok_iff (by decide) (Nat.zero_le limit), Numeral.go_ten_eq_some_iff, and_assoc,
    eq_comm]

/-- The readers ask for a digit before they look at digits. -/
private theorem isDigits_and_iff {P : Prop} (some : digits ≠ []) :
    IsDigits digits ∧ P ↔ (∀ c ∈ digits, c.isDigit) ∧ P := by
  simp only [IsDigits, some, ne_eq, not_false_eq_true, true_and]

theorem readNatural_plus_eq_ok_iff :
    readNatural 10 limit ('+' :: digits) = .ok n ↔
      IsDigits digits ∧ n = Nat.ofDigitChars 10 digits 0 ∧ n ≤ limit := by
  by_cases empty : digits = []
  · rw [empty]
    simp [readNatural, IsDigits]
  · rw [isDigits_and_iff empty, readNatural_plus empty]
    exact readDigits_ten_eq_ok_iff

theorem readNatural_plain_eq_ok_iff (plus : text.head? ≠ some '+') :
    readNatural 10 limit text = .ok n ↔
      IsDigits text ∧ n = Nat.ofDigitChars 10 text 0 ∧ n ≤ limit := by
  by_cases empty : text = []
  · rw [empty]
    simp [readNatural, IsDigits]
  · rw [isDigits_and_iff empty, readNatural_plain empty plus]
    exact readDigits_ten_eq_ok_iff

/-- A natural number is read from a text that denotes it without a minus. -/
theorem readNatural_ten_eq_ok_iff :
    readNatural 10 limit text = .ok n ↔
      text.head? ≠ some '-' ∧ Denotes text (n : Int) ∧ n ≤ limit := by
  obtain ⟨digits, rfl⟩ | ⟨digits, rfl⟩ | ⟨plus, minus⟩ := sign_cases text
  · rw [readNatural_plain_eq_ok_iff (by simp)]
    constructor
    · rintro ⟨all, -⟩
      exact absurd all (not_isDigits_cons (by decide) _)
    · rintro ⟨minus, -⟩
      exact absurd rfl minus
  · rw [readNatural_plus_eq_ok_iff, denotes_plus_iff, Int.natCast_inj, and_assoc]
    exact ⟨fun h => ⟨by simp, h⟩, And.right⟩
  · rw [readNatural_plain_eq_ok_iff plus, denotes_plain_iff plus minus, Int.natCast_inj, and_assoc]
    exact ⟨fun h => ⟨minus, h⟩, And.right⟩

theorem readInteger_minus_eq_ok_iff {i : Int} :
    readInteger limit ('-' :: digits) = .ok i ↔
      IsDigits digits ∧ i = -(Nat.ofDigitChars 10 digits 0 : Nat) ∧ -(limit + 1 : Int) ≤ i := by
  cases digits with
  | nil => simp [readInteger, IsDigits]
  | cons c rest =>
    have same : readInteger limit ('-' :: c :: rest) =
        (readDigits 10 (limit + 1) .tooSmall 0 (c :: rest)).map fun (m : Nat) => -(m : Int) := by
      simp only [readInteger]
      cases readDigits 10 (limit + 1) .tooSmall 0 (c :: rest) <;> rfl
    rw [same, map_eq_ok_iff, isDigits_and_iff (List.cons_ne_nil c rest)]
    constructor
    · rintro ⟨n, read, rfl⟩
      obtain ⟨all, rfl, le⟩ := readDigits_ten_eq_ok_iff.mp read
      exact ⟨all, rfl, by omega⟩
    · rintro ⟨all, rfl, le⟩
      exact ⟨_, readDigits_ten_eq_ok_iff.mpr ⟨all, rfl, by omega⟩, rfl⟩

theorem readInteger_of_head (minus : text.head? ≠ some '-') :
    readInteger limit text = (readNatural 10 limit text).map fun (m : Nat) => (m : Int) := by
  unfold readInteger
  split
  · exact absurd rfl minus
  · exact absurd rfl minus
  · cases readNatural 10 limit text <;> rfl

theorem Denotes.nonneg {i : Int} (h : Denotes text i) (minus : text.head? ≠ some '-') : 0 ≤ i := by
  cases h with
  | plain _ => exact Int.natCast_nonneg _
  | plus _ => exact Int.natCast_nonneg _
  | minus _ => exact absurd rfl minus

/-- An integer is read from a text that denotes it, within the two limits. -/
theorem readInteger_eq_ok_iff {i : Int} :
    readInteger limit text = .ok i ↔
      Denotes text i ∧ -(limit + 1 : Int) ≤ i ∧ i ≤ limit := by
  by_cases minus : text.head? = some '-'
  · obtain ⟨digits, rfl⟩ := List.head?_eq_some_iff.mp minus
    rw [readInteger_minus_eq_ok_iff]
    constructor
    · rintro ⟨all, same, le⟩
      exact ⟨denotes_minus_iff.mpr ⟨all, same⟩, le, by omega⟩
    · rintro ⟨denoted, le, -⟩
      obtain ⟨all, same⟩ := denotes_minus_iff.mp denoted
      exact ⟨all, same, le⟩
  · rw [readInteger_of_head minus, map_eq_ok_iff]
    constructor
    · rintro ⟨n, read, rfl⟩
      obtain ⟨-, denoted, le⟩ := readNatural_ten_eq_ok_iff.mp read
      exact ⟨denoted, by omega, by omega⟩
    · rintro ⟨denoted, -, le⟩
      obtain ⟨n, rfl⟩ := Int.eq_ofNat_of_zero_le (denoted.nonneg minus)
      exact ⟨n, readNatural_ten_eq_ok_iff.mpr ⟨minus, denoted, by omega⟩, rfl⟩

/-- The 32-bit readers give the integer that the text denotes, never another one. -/
theorem readUint_eq_ok_iff {n : UInt32} :
    readUint text = .ok n ↔ text.head? ≠ some '-' ∧ Denotes text n.toNat := by
  have small := n.toNat_lt
  rw [readUint, map_eq_ok_iff]
  constructor
  · rintro ⟨m, read, rfl⟩
    obtain ⟨minus, denoted, le⟩ := readNatural_ten_eq_ok_iff.mp read
    have same : (UInt32.ofNat m).toNat = m := by
      rw [UInt32.toNat_ofNat']
      omega
    rw [same]
    exact ⟨minus, denoted⟩
  · rintro ⟨minus, denoted⟩
    refine ⟨n.toNat, readNatural_ten_eq_ok_iff.mpr ⟨minus, denoted, by omega⟩, ?_⟩
    exact UInt32.ofNat_toNat

theorem readSint_eq_ok_iff {n : Int32} : readSint text = .ok n ↔ Denotes text n.toInt := by
  have low := n.le_toInt
  have high := n.toInt_lt
  rw [readSint, map_eq_ok_iff]
  constructor
  · rintro ⟨i, read, rfl⟩
    obtain ⟨denoted, least, greatest⟩ := readInteger_eq_ok_iff.mp read
    have same : (Int32.ofInt i).toInt = i :=
      Int32.toInt_ofInt_of_le (by omega) (by omega)
    rw [same]
    exact denoted
  · intro denoted
    refine ⟨n.toInt, readInteger_eq_ok_iff.mpr ⟨denoted, by omega, by omega⟩, ?_⟩
    exact Int32.ofInt_toInt n

end Readers

section Range

variable {limit : Nat} {digits text : List Char} {i : Int}

theorem readDigits_ten_of_limit_lt {beyond : IntegerFault} (all : ∀ c ∈ digits, c.isDigit)
    (large : limit < Nat.ofDigitChars 10 digits 0) :
    readDigits 10 limit beyond 0 digits = .error beyond :=
  readDigits_of_limit_lt (Nat.zero_le limit) large (Numeral.go_ten_eq_some_iff.mpr ⟨all, rfl⟩)

/-- A number above the limit is refused for its size, and for nothing else. -/
theorem readNatural_ten_of_limit_lt (minus : text.head? ≠ some '-') (denoted : Denotes text i)
    (large : limit < i) : readNatural 10 limit text = .error .tooLarge := by
  cases denoted with
  | plain all =>
    have plus : text.head? ≠ some '+' := by
      intro first
      obtain ⟨digits, rfl⟩ := List.head?_eq_some_iff.mp first
      exact not_isDigits_cons (by decide) digits all
    rw [readNatural_plain all.1 plus]
    exact readDigits_ten_of_limit_lt all.2 (by omega)
  | plus all =>
    rw [readNatural_plus all.1]
    exact readDigits_ten_of_limit_lt all.2 (by omega)
  | minus _ => exact absurd rfl minus

theorem readInteger_of_limit_lt (denoted : Denotes text i) (large : limit < i) :
    readInteger limit text = .error .tooLarge := by
  have minus : text.head? ≠ some '-' := by
    intro first
    obtain ⟨digits, rfl⟩ := List.head?_eq_some_iff.mp first
    have := (denotes_minus_iff.mp denoted).2
    omega
  rw [readInteger_of_head minus, readNatural_ten_of_limit_lt minus denoted large]
  rfl

/-- Below zero there is a number more within the range, which the digits are read for. -/
theorem readInteger_of_lt (denoted : Denotes text i) (small : i < -(limit + 1 : Int)) :
    readInteger limit text = .error .tooSmall := by
  cases denoted with
  | plain _ => omega
  | plus _ => omega
  | @minus digits all =>
    cases digits with
    | nil => exact absurd rfl all.1
    | cons c rest =>
      have refused : readDigits 10 (limit + 1) .tooSmall 0 (c :: rest) = .error .tooSmall :=
        readDigits_ten_of_limit_lt all.2 (by omega)
      simp only [readInteger, refused]
      rfl

theorem readUint_of_le (minus : text.head? ≠ some '-') (denoted : Denotes text i)
    (large : 0x100000000 ≤ i) : readUint text = .error .tooLarge := by
  rw [readUint, readNatural_ten_of_limit_lt minus denoted (by omega)]
  rfl

theorem readSint_of_le (denoted : Denotes text i) (large : 0x80000000 ≤ i) :
    readSint text = .error .tooLarge := by
  rw [readSint, readInteger_of_limit_lt denoted (by omega)]
  rfl

theorem readSint_of_lt (denoted : Denotes text i) (small : i < -0x80000000) :
    readSint text = .error .tooSmall := by
  rw [readSint, readInteger_of_lt denoted (by omega)]
  rfl

end Range

end Literal

end QuietBox
