import QuietBox.Proofs.Text.IntegerReading

/-!
Canonical numerals. An integer has many texts, for zeros and a plus may stand in front of its
digits, and zero may have a minus. One of them has none of these, and it is the one that is printed.
-/

set_option autoImplicit false

namespace QuietBox

namespace Numeral

theorem digitChar_of_isDigit {c : Char} (digit : c.isDigit) :
    c.toNat - '0'.toNat < 10 ∧ Nat.digitChar (c.toNat - '0'.toNat) = c := by
  have range : 48 ≤ c.toNat ∧ c.toNat ≤ 57 := Char.isDigit_iff_toNat.mp digit
  have small : c.toNat - '0'.toNat < 10 := by
    simp only [Char.reduceToNat]
    omega
  refine ⟨small, ?_⟩
  apply Char.toNat_inj.mp
  rw [Nat.toNat_digitChar_of_lt_ten small]
  simp only [Char.reduceToNat]
  omega

theorem decimal_of_lt_ten {d : Nat} (small : d < 10) : decimal d = [Nat.digitChar d] :=
  Nat.toDigits_of_lt_base small

/-- Digits behind a number without its own zeros are the digits of the whole. -/
theorem decimal_ofDigitChars_of_pos {digits : List Char} (all : ∀ c ∈ digits, c.isDigit) {sum : Nat}
    (positive : 0 < sum) :
    decimal (Nat.ofDigitChars 10 digits sum) = decimal sum ++ digits := by
  induction digits generalizing sum with
  | nil => rw [Nat.ofDigitChars_nil, List.append_nil]
  | cons c digits ih =>
    obtain ⟨digit, rest⟩ := List.forall_mem_cons.mp all
    obtain ⟨small, same⟩ := digitChar_of_isDigit digit
    have longer : decimal sum ++ [c] = decimal (10 * sum + (c.toNat - '0'.toNat)) := by
      have whole := Nat.toDigits_append_toDigits (by decide : 1 < 10) positive small
      rwa [Nat.toDigits_of_lt_base small, same] at whole
    rw [Nat.ofDigitChars_cons, ih rest (by omega), ← longer, List.append_assoc,
      List.singleton_append]

/-- A number other than zero has no zero in front. -/
theorem head?_decimal_of_pos {n : Nat} (positive : 0 < n) : (decimal n).head? ≠ some '0' := by
  induction n using Nat.strongRecOn with
  | ind n ih =>
    by_cases small : n < 10
    · rw [decimal_of_lt_ten small, List.head?_cons, ne_eq, Option.some.injEq]
      intro zero
      have value := Nat.toNat_digitChar_of_lt_ten small
      rw [zero] at value
      simp only [Char.reduceToNat] at value
      omega
    · have longer : decimal n = decimal (n / 10) ++ [Nat.digitChar (n % 10)] :=
        Nat.toDigits_of_base_le (by decide) (by omega)
      have first := ih (n / 10) (by omega) (by omega)
      cases front : decimal (n / 10) with
      | nil => exact absurd front Nat.toDigits_ne_nil
      | cons c rest =>
        rw [front] at first
        rw [longer, front]
        exact first

end Numeral

namespace Literal

variable {text digits : List Char} {i : Int}

/-- Digits without a zero in front of another digit are the digits of their number. -/
theorem decimal_ofDigitChars (h : IsDigits digits)
    (bare : ∀ rest, digits = '0' :: rest → rest = []) :
    Numeral.decimal (Nat.ofDigitChars 10 digits 0) = digits := by
  cases digits with
  | nil => exact absurd rfl h.1
  | cons c rest =>
    obtain ⟨digit, all⟩ := List.forall_mem_cons.mp h.2
    obtain ⟨small, same⟩ := Numeral.digitChar_of_isDigit digit
    rw [Nat.ofDigitChars_cons, Nat.mul_zero, Nat.zero_add]
    by_cases zero : c = '0'
    · subst zero
      rw [bare rest rfl]
      rfl
    · have positive : 0 < c.toNat - '0'.toNat := by
        apply Nat.pos_of_ne_zero
        intro none
        rw [none] at same
        exact zero same.symm
      rw [Numeral.decimal_ofDigitChars_of_pos all positive, Numeral.decimal_of_lt_ten small, same,
        List.singleton_append]

/-- A text of an integer without a plus, a zero in front of another digit, or a minus before
zero. -/
structure IsCanonical (text : List Char) (i : Int) : Prop where
  denotes : Denotes text i
  plus : text.head? ≠ some '+'
  zero : ∀ digits, text = '0' :: digits → digits = []
  minus : ∀ digits, text ≠ '-' :: '0' :: digits

theorem isCanonical_integer (i : Int) : IsCanonical (Numeral.integer i) i := by
  by_cases negative : i < 0
  · have first := Numeral.head?_decimal_of_pos (n := i.natAbs) (by omega)
    have text := integer_of_neg negative
    constructor
    · exact denotes_integer i
    · rw [text]
      simp
    · intro digits same
      rw [text] at same
      exact absurd (List.cons.inj same).1 (by decide)
    · intro digits same
      rw [text] at same
      rw [(List.cons.inj same).2] at first
      exact first rfl
  · have text := integer_of_nonneg negative
    constructor
    · exact denotes_integer i
    · rw [text]
      exact head?_decimal_ne _ (by decide)
    · intro digits same
      rw [text] at same
      by_cases zero : i.natAbs = 0
      · rw [zero] at same
        exact (List.cons.inj same).2.symm
      · have first := Numeral.head?_decimal_of_pos (Nat.pos_of_ne_zero zero)
        rw [same] at first
        exact absurd rfl first
    · intro digits same
      have first := head?_decimal_ne i.natAbs (c := '-') (by decide)
      rw [← text, same] at first
      exact first rfl

/-- Every integer has one canonical text, which is its numeral. -/
theorem isCanonical_iff : IsCanonical text i ↔ text = Numeral.integer i := by
  constructor
  · intro canonical
    obtain ⟨denoted, plus, zero, minus⟩ := canonical
    cases denoted with
    | plain all =>
      rw [integer_of_nonneg (by omega), Int.natAbs_natCast, decimal_ofDigitChars all zero]
    | plus _ => exact absurd rfl plus
    | @minus digits all =>
      have bare (rest : List Char) (same : digits = '0' :: rest) : rest = [] := by
        rw [same] at minus
        exact absurd rfl (minus rest)
      have value := decimal_ofDigitChars all bare
      have positive : 0 < Nat.ofDigitChars 10 digits 0 := by
        apply Nat.pos_of_ne_zero
        intro none
        rw [none] at value
        exact minus [] (by rw [← value]; rfl)
      rw [integer_of_neg (by omega), Int.natAbs_neg, Int.natAbs_natCast, value]
  · intro same
    rw [same]
    exact isCanonical_integer i

end Literal

end QuietBox
