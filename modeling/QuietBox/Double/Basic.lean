import QuietBox.Word.Basic

/-!
Doubles by their bits: sign, magnitude and exact value. The magnitude is the word without its sign
bit; magnitudes are ordered like the numbers they stand for, and the finite ones are those below
`infinityMagnitude`. The exponent field starts at 0x10000000000000 (bit 52) and the sign is
0x8000000000000000 (bit 63).
-/

set_option autoImplicit false

namespace QuietBox

/-- The power of a base; a negative exponent gives a unit fraction. -/
def power (base : Nat) : Int → Rat
  | .ofNat n => mkRat (Nat.pow base n) 1
  | .negSucc n => mkRat 1 (Nat.pow base (n + 1))

/-- A double-precision number, kept as its bits. -/
structure Double where
  bits : Word
deriving DecidableEq, Repr

/-- What a double stands for when it is not a NaN. The two zeros are one number. -/
inductive Number where
  | finite (value : Rat)
  | infinite (negative : Bool)
deriving DecidableEq

namespace Double

/-- The magnitude of the infinities; larger magnitudes are NaNs. -/
def infinityMagnitude : Nat := 2047 * 0x10000000000000

/-- The double with a sign and a magnitude below 2^63. -/
def ofMagnitude (negative : Bool) (magnitude : Nat) : Double :=
  ⟨BitVec.ofNat 64 (negative.toNat * 0x8000000000000000 + magnitude % 0x8000000000000000)⟩

def isNegative (d : Double) : Bool := d.bits.toNat / 0x8000000000000000 = 1

def magnitude (d : Double) : Nat := d.bits.toNat % 0x8000000000000000

def isNaN (d : Double) : Bool := infinityMagnitude < d.magnitude

def isInfinite (d : Double) : Bool := d.magnitude = infinityMagnitude

/-- The integer significand of a finite magnitude; the leading bit is implicit above 2^52. -/
def significand (magnitude : Nat) : Nat :=
  if magnitude < 0x10000000000000 then magnitude
  else 0x10000000000000 + magnitude % 0x10000000000000

/-- The power of two that scales the significand of a finite magnitude. -/
def exponent (magnitude : Nat) : Int := (max (magnitude / 0x10000000000000) 1 : Nat) - 1075

/-- The exact value of a finite magnitude. -/
def magnitudeValue (magnitude : Nat) : Rat :=
  significand magnitude * power 2 (exponent magnitude)

/-- The exact value of a finite double. -/
def value (d : Double) : Rat :=
  if d.isNegative then -magnitudeValue d.magnitude else magnitudeValue d.magnitude

/-- The number a double stands for; none for a NaN. -/
def number? (d : Double) : Option Number :=
  if d.isNaN then none
  else if d.isInfinite then some (.infinite d.isNegative)
  else some (.finite d.value)

/-- Numeric equality: equal numbers, and a NaN differs from everything. -/
def numericEq (a b : Double) : Bool :=
  match a.number?, b.number? with
  | some x, some y => x = y
  | _, _ => false

/-- The quiet NaN with clear sign and empty payload. -/
def canonicalNaN : Double := ⟨0x7FF8000000000000⟩

/-- The NaN that numerals denote: quiet, empty payload, with the written sign. -/
def nan (negative : Bool) : Double := ofMagnitude negative (infinityMagnitude + 0x8000000000000)

def infinity (negative : Bool) : Double := ofMagnitude negative infinityMagnitude

theorem magnitude_lt (d : Double) : d.magnitude < 0x8000000000000000 := Nat.mod_lt _ (by decide)

theorem toNat_bits (d : Double) :
    d.bits.toNat = d.isNegative.toNat * 0x8000000000000000 + d.magnitude := by
  have := d.bits.isLt
  simp only [isNegative, magnitude]
  by_cases h : d.bits.toNat / 0x8000000000000000 = 1
  · rw [decide_eq_true h, Bool.toNat_true]
    omega
  · rw [decide_eq_false h, Bool.toNat_false]
    omega

/-- A double is its sign and its magnitude. -/
@[simp] theorem ofMagnitude_magnitude (d : Double) :
    ofMagnitude d.isNegative d.magnitude = d := by
  have h := d.toNat_bits
  have hm := d.magnitude_lt
  rw [ofMagnitude, Nat.mod_eq_of_lt hm, ← h, BitVec.ofNat_toNat, BitVec.setWidth_eq]

private theorem toNat_ofMagnitude (s : Bool) (n : Nat) :
    (ofMagnitude s n).bits.toNat = s.toNat * 0x8000000000000000 + n % 0x8000000000000000 := by
  simp only [ofMagnitude, BitVec.toNat_ofNat]
  cases s <;> simp <;> omega

@[simp] theorem magnitude_ofMagnitude (s : Bool) (n : Nat) :
    (ofMagnitude s n).magnitude = n % 0x8000000000000000 := by
  rw [magnitude, toNat_ofMagnitude]
  omega

@[simp] theorem isNegative_ofMagnitude (s : Bool) (n : Nat) :
    (ofMagnitude s n).isNegative = s := by
  have : n % 0x8000000000000000 < 0x8000000000000000 := Nat.mod_lt _ (by decide)
  have h : (s.toNat * 0x8000000000000000 + n % 0x8000000000000000) / 0x8000000000000000 =
      s.toNat := by
    omega
  rw [isNegative, toNat_ofMagnitude, h]
  cases s <;> rfl

end Double

end QuietBox
