/-
Module: SpriteStage.Decimal.Places
Purpose: Printed doubles. Two ways to print a double: in full, with the fewest digits that read back
  and never an exponent, and with one place after the point, the exact value rounded and a half
  going to the even neighbour. Both keep the sign of zero and write infinities as `inf` and
  undefined values as `NaN`.
Main exports: inFull, onePlace
-/
import SpriteStage.Decimal.Shortest

namespace SpriteStage.Decimal

/-- A double with its sign, given how its magnitude is printed. -/
def withSign (x : Float) (print : Nat → String) : String :=
  if Binary64.isUndefined x then "NaN"
  else
    let text := if Binary64.isInfinite x then "inf" else print (Binary64.magnitude x)
    if Binary64.isNegative x then "-" ++ text else text

/-- A double in full: the fewest digits that read back, without an exponent. -/
def inFull (x : Float) : String :=
  withSign x fun b => (shortest b).positional

/-- A double with one place after the point. -/
def onePlace (x : Float) : String :=
  withSign x fun b =>
    let tenths := Binary64.roundDiv (Binary64.units b * 10) Binary64.unitsPerOne
    toString (tenths / 10) ++ "." ++ toString (tenths % 10)

end SpriteStage.Decimal
