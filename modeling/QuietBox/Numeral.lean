/-!
Numerals: the texts of natural numbers and integers, and the values of digit strings. The texts come
from `Nat.toDigits`, whose lemmas say that they read back.
-/

set_option autoImplicit false

namespace QuietBox.Numeral

def decimal (n : Nat) : List Char := Nat.toDigits 10 n

def binary (n : Nat) : List Char := Nat.toDigits 2 n

def lowerHex (n : Nat) : List Char := Nat.toDigits 16 n

def upperHex (n : Nat) : List Char := (Nat.toDigits 16 n).map Char.toUpper

/-- Digits with zeros in front up to a width; longer digits stay whole. -/
def zeroPadded (width : Nat) (digits : List Char) : List Char :=
  List.replicate (width - digits.length) '0' ++ digits

/-- The decimal text of an integer: a minus in front of its absolute value. -/
def integer (i : Int) : List Char :=
  (if i < 0 then ['-'] else []) ++ decimal i.natAbs

/-- The value of a digit in a base up to 16, letters in either case. -/
def digitValue? (base : Nat) (c : Char) : Option Nat :=
  let value? : Option Nat :=
    if '0' ≤ c ∧ c ≤ '9' then some (c.toNat - '0'.toNat)
    else if 'a' ≤ c ∧ c ≤ 'f' then some (c.toNat - 'a'.toNat + 10)
    else if 'A' ≤ c ∧ c ≤ 'F' then some (c.toNat - 'A'.toNat + 10)
    else none
  value?.filter (· < base)

/-- The value of digits in a base, if all are digits. -/
def value? (base : Nat) : List Char → Option Nat :=
  go 0
where
  go (sum : Nat) : List Char → Option Nat
    | [] => some sum
    | c :: rest => (digitValue? base c).bind fun d => go (sum * base + d) rest

theorem length_zeroPadded (width : Nat) (digits : List Char) :
    (zeroPadded width digits).length = max width digits.length := by
  simp only [zeroPadded, List.length_append, List.length_replicate]
  omega

end QuietBox.Numeral
