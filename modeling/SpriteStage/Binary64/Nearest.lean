/-
Module: SpriteStage.Binary64.Nearest
Purpose: The double nearest to a fraction. A fraction is rounded to the nearest double, a fraction
  halfway between two to the one with an even significand, and one beyond the finite range to
  infinity. All of it is exact whole-number arithmetic.
Main exports: roundDiv, nearest, ofNat, ofInt
-/
import SpriteStage.Binary64.Basic

namespace SpriteStage.Binary64

/-- The whole number nearest to `n / d`; a half goes to the even neighbour. -/
def roundDiv (n d : Nat) : Nat :=
  let q := n / d
  let r := n % d
  if d < 2 * r ∨ (2 * r = d ∧ q % 2 = 1) then q + 1 else q

/-- The magnitude nearest to `num / den`. -/
def nearest (num den : Nat) : Nat :=
  let scaled := num * unitsPerOne
  let s := (scaled / den).log2 - 52
  assemble (roundDiv scaled (den * twoTo s)) s

/-- The double nearest to a whole number. -/
def ofInt (n : Int) : Float := signed (decide (n < 0)) (nearest n.natAbs 1)

/-- The double nearest to a natural number. -/
def ofNat (n : Nat) : Float := signed false (nearest n 1)

end SpriteStage.Binary64
