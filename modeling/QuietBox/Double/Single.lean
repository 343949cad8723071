import QuietBox.Double.Rounding

/-!
Single-precision numbers and their widening. Every single is a double in value; a NaN keeps its
sign and its payload, moved to the top of the wider field, and is quiet. The exponent field starts
at 0x800000 (bit 23) and the sign is 0x80000000 (bit 31).
-/

set_option autoImplicit false

namespace QuietBox

/-- A single-precision number, kept as its bits. -/
structure Single where
  bits : BitVec 32
deriving DecidableEq, Repr

namespace Single

/-- The magnitude of the infinities; larger magnitudes are NaNs. -/
def infinityMagnitude : Nat := 255 * 0x800000

def isNegative (s : Single) : Bool := s.bits.toNat / 0x80000000 = 1

def magnitude (s : Single) : Nat := s.bits.toNat % 0x80000000

def isNaN (s : Single) : Bool := infinityMagnitude < s.magnitude

def isInfinite (s : Single) : Bool := s.magnitude = infinityMagnitude

/-- The exact value of a finite magnitude. -/
def magnitudeValue (magnitude : Nat) : Rat :=
  let significand := if magnitude < 0x800000 then magnitude else 0x800000 + magnitude % 0x800000
  let exponent : Int := (max (magnitude / 0x800000) 1 : Nat) - 150
  significand * power 2 exponent

/-- The exact value of a finite single. -/
def value (s : Single) : Rat :=
  if s.isNegative then -magnitudeValue s.magnitude else magnitudeValue s.magnitude

/-- The number a single stands for; none for a NaN. -/
def number? (s : Single) : Option Number :=
  if s.isNaN then none
  else if s.isInfinite then some (.infinite s.isNegative)
  else some (.finite s.value)

/-- The double of the same value; a NaN's low 22 bits become the top of the double's payload. -/
def toDouble (s : Single) : Double :=
  if s.isNaN then
    .ofMagnitude s.isNegative
      (reservedSignature * 0x8000000000000 + s.magnitude % 0x400000 * 0x20000000)
  else if s.isInfinite then .infinity s.isNegative
  else .nearest s.isNegative (magnitudeValue s.magnitude)

end Single

end QuietBox
