import QuietBox.Proofs.Text.IntegerReading
import QuietBox.Proofs.Text.PositionalReading

/-!
Scientific notation reads back. The digits around the point are those of the decimal, and the
exponent behind the mark makes up for the point, so digits and exponent are read exactly as they
were written, as long as the exponent is one that is not cut off while it is read.
-/

set_option autoImplicit false

namespace QuietBox.Decimal

theorem le_ofDigitChars (digits : List Char) (sum : Nat) :
    sum ≤ Nat.ofDigitChars 10 digits sum := by
  rw [Nat.ofDigitChars_eq_ofDigitChars_zero]
  have positive : 0 < 10 ^ digits.length := Nat.pow_pos (by decide)
  have := Nat.le_mul_of_pos_left sum positive
  omega

/-- As long as the number is small, no digit of it is left out. -/
private theorem foldl_exponentSize {digits : List Char} {sum : Nat}
    (small : Nat.ofDigitChars 10 digits sum < 0x10000) :
    digits.foldl
        (fun sum c => if sum < 0x10000 then 10 * sum + (c.toNat - '0'.toNat) else sum) sum =
      Nat.ofDigitChars 10 digits sum := by
  induction digits generalizing sum with
  | nil => rfl
  | cons c digits ih =>
    rw [Nat.ofDigitChars_cons] at small ⊢
    -- The sum only grows, so it is small before every digit if it is small behind the last.
    have grown := le_ofDigitChars digits (10 * sum + (c.toNat - '0'.toNat))
    rw [List.foldl_cons, if_pos (by omega)]
    exact ih small

theorem exponentSize_decimal {n : Nat} (small : n < 0x10000) :
    exponentSize (Numeral.decimal n) = n := by
  have number := ofDigitChars_decimal n
  rw [exponentSize, foldl_exponentSize (by rwa [number]), number]

section Exponent

variable {digits : List Char}

theorem readExponent?_minus (numeral : Literal.IsDigits digits) :
    readExponent? ('-' :: digits) = some (-(exponentSize digits : Int)) := by
  have all : digits.all Char.isDigit := List.all_eq_true.mpr numeral.2
  simp [readExponent?, all, numeral.1]

theorem readExponent?_plain (numeral : Literal.IsDigits digits) :
    readExponent? digits = some (exponentSize digits : Int) := by
  have all : digits.all Char.isDigit := List.all_eq_true.mpr numeral.2
  unfold readExponent?
  split
  rename_i sign rest cut
  split at cut
  · exact absurd numeral (Literal.not_isDigits_cons rfl _)
  · exact absurd numeral (Literal.not_isDigits_cons rfl _)
  · cases cut
    simp [all, numeral.1]

end Exponent

theorem readExponent?_integer {e : Int} (small : e.natAbs < 0x10000) :
    readExponent? (Numeral.integer e) = some e := by
  have numeral := Literal.isDigits_decimal e.natAbs
  by_cases negative : e < 0
  · rw [Literal.integer_of_neg negative, readExponent?_minus numeral, exponentSize_decimal small,
      Int.ofNat_natAbs_of_nonpos (by omega), Int.neg_neg]
  · rw [Literal.integer_of_nonneg negative, readExponent?_plain numeral, exponentSize_decimal small,
      Int.natAbs_of_nonneg (by omega)]

/-- The exponent of the first digit. -/
def leadingExponent (d : Decimal) : Int :=
  d.exponent + ((Numeral.decimal d.digits).length - 1 : Nat)

/-- The point stands behind the first digit, unless that is the only one. -/
theorem read?_first_pointed {c : Char} {fraction rest : List Char}
    (digit : ∀ x ∈ c :: fraction, x.isDigit) (ends : EndsDigits rest)
    (noPoint : rest.head? ≠ some '.') :
    read? (c :: (if fraction.isEmpty then [] else '.' :: fraction) ++ rest) =
      (exponentBehind? rest).map fun e =>
        ⟨Nat.ofDigitChars 10 (c :: fraction) 0, e - fraction.length⟩ := by
  have first : ∀ x ∈ [c], x.isDigit := by
    intro x member
    rw [List.mem_singleton.mp member]
    exact digit c List.mem_cons_self
  cases fraction with
  | nil => simpa using read?_digits first (List.cons_ne_nil c []) ends noPoint
  | cons d fraction =>
    have others : ∀ x ∈ d :: fraction, x.isDigit := fun x h => digit x (List.mem_cons_of_mem c h)
    exact read?_pointed first others (List.cons_ne_nil c []) ends

theorem read?_scientific {d : Decimal} (small : d.leadingExponent.natAbs < 0x10000) :
    read? d.scientific = some d := by
  have exponent : exponentBehind? ('e' :: Numeral.integer d.leadingExponent) =
      some d.leadingExponent := readExponent?_integer small
  have ends : EndsDigits ('e' :: Numeral.integer d.leadingExponent) := endsDigits_cons rfl _
  have written : d.scientific = (Numeral.decimal d.digits).take 1 ++
      (if ((Numeral.decimal d.digits).drop 1).isEmpty then []
        else '.' :: (Numeral.decimal d.digits).drop 1) ++
      'e' :: Numeral.integer d.leadingExponent := rfl
  have number := ofDigitChars_decimal d.digits
  have digit : ∀ c ∈ Numeral.decimal d.digits, c.isDigit := fun _ => Numeral.isDigit_of_mem_decimal
  rw [written]
  cases digits : Numeral.decimal d.digits with
  | nil => exact absurd digits Nat.toDigits_ne_nil
  | cons c fraction =>
    rw [digits] at number digit
    have length : d.leadingExponent - fraction.length = d.exponent := by
      rw [leadingExponent, digits, List.length_cons]
      omega
    have read := read?_first_pointed digit ends (by simp)
    rw [exponent, number] at read
    simpa [length] using read

end QuietBox.Decimal
