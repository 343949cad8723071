import Mathlib.Data.List.TakeWhile
import QuietBox.Double.Reader
import QuietBox.Proofs.Double.Power
import QuietBox.Proofs.Text.NumberCharacters

/-!
Positional notation reads back. Digits with or without a point are read up to their end, and the
decimal that is read has the value of the decimal that was written, though not always its digits and
exponent.
-/

set_option autoImplicit false

namespace QuietBox.Decimal

/-- The exponent that stands behind the digits; none is zero. -/
def exponentBehind? : List Char → Option Int
  | [] => some 0
  | mark :: rest => if mark = 'e' ∨ mark = 'E' then readExponent? rest else none

section Digits

variable {whole fraction rest : List Char}

/-- What stands behind a run of digits. -/
def EndsDigits (rest : List Char) : Prop := ∀ c ∈ rest.head?, c.isDigit = false

theorem endsDigits_nil : EndsDigits [] := by
  simp [EndsDigits]

theorem endsDigits_cons {c : Char} (other : c.isDigit = false) (rest : List Char) :
    EndsDigits (c :: rest) := by
  intro first same
  cases same
  exact other

theorem takeWhile_digits (digits : ∀ c ∈ whole, c.isDigit) (ends : EndsDigits rest) :
    (whole ++ rest).takeWhile Char.isDigit = whole := by
  rw [List.takeWhile_append_of_pos digits]
  cases rest with
  | nil => simp
  | cons c rest => simp [ends c rfl]

theorem dropWhile_digits (digits : ∀ c ∈ whole, c.isDigit) (ends : EndsDigits rest) :
    (whole ++ rest).dropWhile Char.isDigit = rest := by
  rw [List.dropWhile_append_of_pos digits]
  cases rest with
  | nil => rfl
  | cons c rest => simp [ends c rfl]

theorem read?_digits (digits : ∀ c ∈ whole, c.isDigit) (nonempty : whole ≠ [])
    (ends : EndsDigits rest) (noPoint : rest.head? ≠ some '.') :
    read? (whole ++ rest) =
      (exponentBehind? rest).map fun e => ⟨Nat.ofDigitChars 10 whole 0, e⟩ := by
  simp only [read?, takeWhile_digits digits ends, dropWhile_digits digits ends]
  split
  · exact absurd rfl noPoint
  · cases rest <;> simp [exponentBehind?, nonempty]

/-- The point splits the digits and does not count itself. -/
theorem read?_pointed (wholeDigits : ∀ c ∈ whole, c.isDigit)
    (fractionDigits : ∀ c ∈ fraction, c.isDigit) (nonempty : whole ≠ [])
    (ends : EndsDigits rest) :
    read? (whole ++ '.' :: (fraction ++ rest)) =
      (exponentBehind? rest).map fun e =>
        ⟨Nat.ofDigitChars 10 (whole ++ fraction) 0, e - fraction.length⟩ := by
  have point : EndsDigits ('.' :: (fraction ++ rest)) := endsDigits_cons rfl _
  simp only [read?, takeWhile_digits wholeDigits point, dropWhile_digits wholeDigits point,
    takeWhile_digits fractionDigits ends, dropWhile_digits fractionDigits ends]
  cases rest <;> simp [exponentBehind?, nonempty]

end Digits

theorem ofDigitChars_decimal (n : Nat) : Nat.ofDigitChars 10 (Numeral.decimal n) 0 = n :=
  Nat.ofDigitChars_ten_toDigits

theorem read?_decimal (n : Nat) : read? (Numeral.decimal n) = some ⟨n, 0⟩ := by
  have digit : ∀ c ∈ Numeral.decimal n, c.isDigit := fun _ => Numeral.isDigit_of_mem_decimal
  have read := read?_digits digit Nat.toDigits_ne_nil endsDigits_nil (by simp)
  rwa [List.append_nil, ofDigitChars_decimal] at read

/-- With zeros in front there is a digit before the point. -/
theorem read?_pointed_decimal (n places : Nat) :
    read? (pointed n places) = some ⟨n, -places⟩ := by
  unfold pointed
  split
  · rename_i none
    rw [none]
    exact read?_decimal n
  · simp only
    generalize same : Numeral.zeroPadded (places + 1) (Numeral.decimal n) = digits
    have length : places + 1 ≤ digits.length := by
      rw [← same, Numeral.length_zeroPadded]
      exact Nat.le_max_left _ _
    have number : Nat.ofDigitChars 10 digits 0 = n := by
      rw [← same, Numeral.zeroPadded, Nat.ofDigitChars_append, Nat.ofDigitChars_replicate_zero,
        Nat.mul_zero, ofDigitChars_decimal]
    have digit : ∀ c ∈ digits, c.isDigit := by
      rw [← same]
      exact fun _ => Numeral.isDigit_of_mem_zeroPadded
    have nonempty : digits.take (digits.length - places) ≠ [] := by
      rw [ne_eq, List.take_eq_nil_iff, ← List.length_eq_zero_iff]
      omega
    have fraction : (digits.drop (digits.length - places)).length = places := by
      rw [List.length_drop]
      omega
    have front : ∀ c ∈ digits.take (digits.length - places), c.isDigit :=
      fun c h => digit c (List.mem_of_mem_take h)
    have back : ∀ c ∈ digits.drop (digits.length - places), c.isDigit :=
      fun c h => digit c (List.mem_of_mem_drop h)
    have read := read?_pointed front back nonempty endsDigits_nil
    rw [List.append_nil, List.take_append_drop, number, fraction] at read
    rw [read]
    simp [exponentBehind?]

/-- What is read from positional notation has the value that was written. -/
theorem exists_read?_positional (d : Decimal) :
    ∃ r, read? d.positional = some r ∧ r.value = d.value := by
  unfold positional
  split
  · rename_i large
    obtain ⟨n, same⟩ := Int.eq_ofNat_of_zero_le large
    refine ⟨_, read?_decimal _, ?_⟩
    rw [value, value, power_eq_zpow, power_eq_zpow, same, Int.toNat_natCast, Nat.pow_eq, zpow_zero,
      zpow_natCast]
    push_cast
    ring
  · refine ⟨_, read?_pointed_decimal _ _, ?_⟩
    rw [Int.toNat_of_nonneg (by omega), Int.neg_neg]

end QuietBox.Decimal
