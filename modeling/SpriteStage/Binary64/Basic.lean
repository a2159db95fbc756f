/-
Module: SpriteStage.Binary64.Basic
Purpose: Doubles as exact counts. Every finite double is a whole number of *units*, a unit being the
  smallest positive double `2 ^ (-1074)`. Without its sign a double is a *magnitude*, its lower 63
  bits read as a number. Neighbouring doubles have neighbouring magnitudes, so that a number and the
  two next to it are `units b`, `units (b - 1)` and `units (b + 1)`, across powers of two and below
  the normal range alike.
Main exports: significand, shift, units, signed, magnitude, isNegative, isFinite
-/
import SpriteStage.Powers

namespace SpriteStage.Binary64

/-- How many units make one: `2 ^ 1074`. -/
def unitsPerOne : Nat := twoTo 1074

/-- The smallest significand of a double in the normal range: `2 ^ 52`. -/
abbrev normal : Nat := 0x10000000000000

/-- The sign of a double, as the number that its bit is worth: `2 ^ 63`. -/
abbrev signBit : Nat := 0x8000000000000000

/-- The magnitude of infinity. All smaller magnitudes are finite, all larger ones are no numbers. -/
abbrev infinite : Nat := 0x7FF0000000000000

/-- The magnitude of the undefined number. -/
abbrev undefined : Nat := 0x7FF8000000000000

/-- The whole number that stands in front of the power of two. -/
def significand (b : Nat) : Nat :=
  if b < normal then b else normal + b % normal

/-- The power of two, counted from the smallest one. -/
def shift (b : Nat) : Nat := b / normal - 1

/-- A magnitude as a number of units. -/
def units (b : Nat) : Nat := significand b * twoTo (shift b)

/-- The magnitude whose significand before rounding carries is `m`, at power `s`. A significand of
`2 ^ 53` is the next power's smallest one, and whatever lies beyond the finite range is infinite. -/
def assemble (m s : Nat) : Nat := min infinite (s * normal + m)

/-- The double with this sign and magnitude. -/
def signed (negative : Bool) (b : Nat) : Float :=
  Float.ofBits (UInt64.ofNat (if negative then signBit + b else b))

/-- A double without its sign. -/
def magnitude (x : Float) : Nat := x.toBits.toNat % signBit

/-- The sign of a double, which zero has as well. -/
def isNegative (x : Float) : Bool := decide (signBit ≤ x.toBits.toNat)

/-- A double that is neither infinite nor undefined. -/
def isFinite (x : Float) : Bool := decide (magnitude x < infinite)

/-- A double that is undefined. -/
def isUndefined (x : Float) : Bool := decide (infinite < magnitude x)

/-- A double that is infinite, of either sign. -/
def isInfinite (x : Float) : Bool := decide (magnitude x = infinite)

end SpriteStage.Binary64
