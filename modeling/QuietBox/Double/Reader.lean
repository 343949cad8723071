import QuietBox.Double.Shortest
import QuietBox.Numeral

/-!
Reading a double: an optional sign, then a decimal with an optional exponent or one of the words
`nan`, `inf` and `infinity` in any case. A decimal denotes an exact rational and the double is the
nearest one; what is too large is infinite.
-/

set_option autoImplicit false

namespace QuietBox

/-- Why a text is no double. -/
inductive DoubleFault where
  | empty
  | malformed
deriving DecidableEq, Repr

def DoubleFault.message : DoubleFault → String
  | empty => "cannot parse float from empty string"
  | malformed => "invalid float literal"

namespace Decimal

/-- The size of an exponent; from 2^16 on, further digits no longer count. -/
def exponentSize (digits : List Char) : Nat :=
  digits.foldl (fun sum c => if sum < 0x10000 then 10 * sum + (c.toNat - '0'.toNat) else sum) 0

/-- An exponent: an optional sign and at least one digit. -/
def readExponent? (text : List Char) : Option Int :=
  let (negative, digits) :=
    match text with
    | '-' :: rest => (true, rest)
    | '+' :: rest => (false, rest)
    | rest => (false, rest)
  if digits.isEmpty || !digits.all Char.isDigit then none
  else if negative then some (-(exponentSize digits : Int))
  else some (exponentSize digits)

/-- A decimal without a sign: digits with at most one point among them, at least one digit, and an
optional exponent. -/
def read? (text : List Char) : Option Decimal :=
  let whole := text.takeWhile Char.isDigit
  let afterWhole := text.dropWhile Char.isDigit
  let (fraction, rest) :=
    match afterWhole with
    | '.' :: more => (more.takeWhile Char.isDigit, more.dropWhile Char.isDigit)
    | more => ([], more)
  let digits := whole ++ fraction
  if digits.isEmpty then none
  else
    let exponent? :=
      match rest with
      | [] => some 0
      | mark :: more => if mark = 'e' ∨ mark = 'E' then readExponent? more else none
    exponent?.map fun e => ⟨Nat.ofDigitChars 10 digits 0, e - fraction.length⟩

end Decimal

namespace Double

/-- The words for values that are no decimals, under a sign. -/
def readWord? (negative : Bool) (text : List Char) : Option Double :=
  let lower := text.map Char.toLower
  if lower = "nan".toList then some (.nan negative)
  else if lower = "inf".toList ∨ lower = "infinity".toList then some (.infinity negative)
  else none

/-- A double without its sign. -/
def readUnsigned? (negative : Bool) (text : List Char) : Option Double :=
  match Decimal.read? text with
  | some d => some (.nearest negative d.value)
  | none => readWord? negative text

private def orMalformed : Option Double → Except DoubleFault Double
  | some d => .ok d
  | none => .error .malformed

/-- The double that a text denotes. -/
def read : List Char → Except DoubleFault Double
  | [] => .error .empty
  | '-' :: rest => orMalformed (readUnsigned? true rest)
  | '+' :: rest => orMalformed (readUnsigned? false rest)
  | text => orMalformed (readUnsigned? false text)

private theorem orMalformed_eq_ok_iff {found : Option Double} {d : Double} :
    orMalformed found = .ok d ↔ found = some d := by
  cases found with
  | none => simp [orMalformed]
  | some found => simp [orMalformed]

/-- A sign begins no number. -/
private theorem readUnsigned?_sign {negative : Bool} {c : Char} (sign : c = '-' ∨ c = '+')
    (rest : List Char) : readUnsigned? negative (c :: rest) = none := by
  rcases sign with rfl | rfl
  · simp [readUnsigned?, Decimal.read?, readWord?]
  · simp [readUnsigned?, Decimal.read?, readWord?]

/-- A double is a number without a sign, or one that a sign is set aside from. -/
theorem read_eq_ok_iff {text : List Char} {d : Double} :
    read text = .ok d ↔
      readUnsigned? false text = some d ∨
        ∃ rest, (text = '-' :: rest ∧ readUnsigned? true rest = some d) ∨
          (text = '+' :: rest ∧ readUnsigned? false rest = some d) := by
  unfold read
  split
  · have none : readUnsigned? false [] = none := rfl
    simp [none]
  · rw [orMalformed_eq_ok_iff, readUnsigned?_sign (Or.inl rfl)]
    simp
  · rw [orMalformed_eq_ok_iff, readUnsigned?_sign (Or.inr rfl)]
    simp
  · rename_i minus plus
    rw [orMalformed_eq_ok_iff]
    constructor
    · exact Or.inl
    · rintro (unsigned | ⟨rest, ⟨signed, -⟩ | ⟨signed, -⟩⟩)
      · exact unsigned
      · exact absurd signed (minus rest)
      · exact absurd signed (plus rest)

end Double

end QuietBox
