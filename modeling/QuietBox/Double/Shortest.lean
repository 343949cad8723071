import QuietBox.Double.Rounding

/-!
The shortest decimal of a magnitude: the coarsest power-of-ten grid that has a point among the
numbers that round to it, and on that grid the point nearest to the value. The search runs from a
grid too coarse down to one that holds the value itself, so it always ends with a point.
-/

set_option autoImplicit false

namespace QuietBox

/-- A natural number scaled by a power of ten. -/
structure Decimal where
  digits : Nat
  exponent : Int
deriving DecidableEq, Repr

def Decimal.value (d : Decimal) : Rat := d.digits * power 10 d.exponent

/-- An interval of rationals with both ends or with neither. -/
structure Interval where
  low : Rat
  high : Rat
  closed : Bool

def Interval.contains (i : Interval) (r : Rat) : Bool :=
  (i.low < r && r < i.high) || (i.closed && (r = i.low || r = i.high))

namespace Double

/-- The numbers that round to a finite magnitude: between the midpoints to its neighbours, the
midpoints included when it is even. -/
def roundingInterval (magnitude : Nat) : Interval where
  low := (magnitudeValue (magnitude - 1) + magnitudeValue magnitude) / 2
  high := (magnitudeValue magnitude + magnitudeValue (magnitude + 1)) / 2
  closed := magnitude % 2 = 0

/-- A neighbour of the value on the grid of multiples of 10^k that lies in the interval: the nearer
of two, the upper one at equal distance. -/
def gridPoint? (i : Interval) (value : Rat) (k : Int) : Option Nat :=
  let below := (value / power 10 k).floor.toNat
  let low : Rat := below * power 10 k
  let high : Rat := (below + 1 : Nat) * power 10 k
  if i.contains low && (!i.contains high || value - low < high - value) then some below
  else if i.contains high then some (below + 1)
  else none

/-- The first grid point from the grid of 10^(bottom + n) downwards; the value itself at the
bottom. -/
def searchGrids (i : Interval) (value : Rat) (bottom : Int) : Nat → Decimal
  | 0 => ⟨(value / power 10 bottom).floor.toNat, bottom⟩
  | n + 1 =>
    match gridPoint? i value (bottom + n + 1) with
    | some digits => ⟨digits, bottom + n + 1⟩
    | none => searchGrids i value bottom n

/-- The shortest decimal that rounds to a positive finite magnitude. The logarithm of two is below
0.30103, so the first grid is coarser than twice the value. -/
def shortest (magnitude : Nat) : Decimal :=
  let value := magnitudeValue magnitude
  let bottom := min (exponent magnitude) 0
  let top := (floorLog2 value + 2) * 30103 / 100000 + 1
  searchGrids (roundingInterval magnitude) value bottom (top - bottom).toNat

end Double

end QuietBox
