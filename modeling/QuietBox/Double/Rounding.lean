import QuietBox.Double.Basic

/-!
Rounding of rationals: to the nearest integer and to the nearest double, a tie going to the even
neighbour. A magnitude counts the doubles from zero upwards, so the quotient by the unit in the last
place, rounded, is added to the magnitude at which that unit begins.
-/

set_option autoImplicit false

namespace QuietBox

/-- The integer nearest to a rational that is not negative; a half goes to the even neighbour. -/
def roundHalfEven (r : Rat) : Nat :=
  let below := r.floor.toNat
  let rest := r - below
  if rest < 1 / 2 ∨ (rest = 1 / 2 ∧ below % 2 = 0) then below else below + 1

/-- The exponent of the largest power of two that a positive rational reaches. -/
def floorLog2 (r : Rat) : Int :=
  let estimate : Int := (r.num.natAbs.log2 : Int) - (r.den.log2 : Int)
  if power 2 estimate ≤ r then estimate else estimate - 1

namespace Double

/-- The exponent of the unit in the last place near a positive rational. -/
def unitExponent (r : Rat) : Int := max (floorLog2 r - 52) (-1074)

/-- The magnitude nearest to a rational; infinity from half a unit above the largest finite. -/
def nearestMagnitude (r : Rat) : Nat :=
  if r ≤ 0 then 0
  else
    let q := unitExponent r
    min infinityMagnitude ((q + 1074).toNat * 0x10000000000000 + roundHalfEven (r / power 2 q))

/-- The double nearest to a rational that is not negative, under a sign. -/
def nearest (negative : Bool) (r : Rat) : Double := ofMagnitude negative (nearestMagnitude r)

end Double

end QuietBox
