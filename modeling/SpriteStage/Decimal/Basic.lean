/-
Module: SpriteStage.Decimal.Basic
Purpose: Decimal numbers. A decimal number is a sign, a whole coefficient and a power of ten. It
  keeps the sign of zero. Its double is the nearest one; magnitudes far outside the range of doubles
  are settled by the size of the exponent alone, so that a long exponent costs nothing.
Main exports: Decimal, Decimal.magnitude, Decimal.toFloat, ofDigits
-/
import SpriteStage.Binary64.Nearest

namespace SpriteStage

/-- The number `coefficient * 10 ^ exponent`, with a sign. -/
structure Decimal where
  negative : Bool
  coefficient : Nat
  exponent : Int
deriving DecidableEq, Repr

namespace Decimal

/-- The magnitude nearest to the number without its sign. -/
def magnitude (d : Decimal) : Nat :=
  if d.coefficient = 0 then 0
  else
    match d.exponent with
    | .ofNat e =>
      if 400 < e then Binary64.infinite else Binary64.nearest (d.coefficient * tenTo e) 1
    | .negSucc e =>
      if d.coefficient.log2 + 401 < e + 1 then 0
      else Binary64.nearest d.coefficient (tenTo (e + 1))

/-- The nearest double; infinite beyond the finite range. -/
def toFloat (d : Decimal) : Float := Binary64.signed d.negative d.magnitude

/-- Whether the nearest double is finite. -/
def isFinite (d : Decimal) : Bool := decide (d.magnitude < Binary64.infinite)

/-- The value of a decimal digit. -/
def digit (c : Char) : Nat := c.toNat - '0'.toNat

/-- The number that a list of digits writes, after the digits already read. -/
def ofDigits (before : Nat) (digits : List Char) : Nat :=
  digits.foldl (fun n c => 10 * n + digit c) before

end Decimal

end SpriteStage
