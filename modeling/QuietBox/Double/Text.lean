import QuietBox.Double.Shortest
import QuietBox.Numeral

/-!
Texts of doubles. The plain text has the shortest digits in positional notation, whatever the size;
the precise text has a given number of places, rounded from the exact value; the structural text
shows that it is a double by a point or an exponent. None carries a sign.
-/

set_option autoImplicit false

namespace QuietBox

namespace Decimal

/-- The digits of n with a point before the last `places` of them. -/
def pointed (n places : Nat) : List Char :=
  if places = 0 then Numeral.decimal n
  else
    let digits := Numeral.zeroPadded (places + 1) (Numeral.decimal n)
    digits.take (digits.length - places) ++ '.' :: digits.drop (digits.length - places)

/-- Positional notation without an exponent. -/
def positional (d : Decimal) : List Char :=
  if 0 ≤ d.exponent then Numeral.decimal (d.digits * Nat.pow 10 d.exponent.toNat)
  else pointed d.digits (-d.exponent).toNat

/-- One digit before the point and an exponent. -/
def scientific (d : Decimal) : List Char :=
  let digits := Numeral.decimal d.digits
  let fraction := digits.drop 1
  digits.take 1 ++ (if fraction.isEmpty then [] else '.' :: fraction) ++
    'e' :: Numeral.integer (d.exponent + (digits.length - 1 : Nat))

end Decimal

namespace Double

/-- The parts of a double that formats write: NaN, infinity, zero, or a positive magnitude. -/
private def written (d : Double) (finite : Nat → List Char) : List Char :=
  if d.isNaN then ['N', 'a', 'N']
  else if d.isInfinite then ['i', 'n', 'f']
  else finite d.magnitude

/-- Positional notation of the shortest digits. -/
def plainText (d : Double) : List Char :=
  d.written fun m => if m = 0 then ['0'] else (shortest m).positional

/-- The exact value rounded to a number of places. -/
def preciseText (places : Nat) (d : Double) : List Char :=
  d.written fun m => Decimal.pointed (roundHalfEven (magnitudeValue m * power 10 places)) places

/-- Structural text changes to an exponent from 10^16 on and below 10^(-4). -/
def scientificFrom : Rat := power 10 16

def positionalFrom : Rat := power 10 (-4)

/-- The shortest digits with a point or an exponent in the text. -/
def structuralText (d : Double) : List Char :=
  d.written fun m =>
    if m = 0 then ['0', '.', '0']
    else
      let value := magnitudeValue m
      let digits := shortest m
      if value < positionalFrom ∨ scientificFrom ≤ value then digits.scientific
      else digits.positional ++ (if 0 ≤ digits.exponent then ['.', '0'] else [])

end Double

end QuietBox
