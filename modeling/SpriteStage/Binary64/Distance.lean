/-
Module: SpriteStage.Binary64.Distance
Purpose: The length of the hypotenuse. The root of a sum of two squares, rounded once: squares and
  sum are exact whole numbers, so that nothing overflows or vanishes on the way, and the root is
  compared with the midpoint between two doubles before it is rounded.
Main exports: hypotenuse
-/
import SpriteStage.Binary64.Nearest

namespace SpriteStage.Binary64

/-- The magnitude nearest to the root of the sum of two squares, for finite sides. -/
def hypotenuseOf (a b : Nat) : Nat :=
  if a = 0 then b
  else if b = 0 then a
  else
    let c := min (shift a) (shift b)
    let u := significand a * twoTo (shift a - c)
    let v := significand b * twoTo (shift b - c)
    let sum := u * u + v * v
    let r := Nat.sqrt sum
    let s := r.log2 - 52
    let m := r / twoTo s
    let middle := (2 * m + 1) * twoTo s
    let up := middle * middle < 4 * sum ∨ (middle * middle = 4 * sum ∧ m % 2 = 1)
    assemble (if up then m + 1 else m) (c + s)

/-- The length of the hypotenuse over two sides. An infinite side makes it infinite, even beside an
undefined one. -/
def hypotenuse (x y : Float) : Float :=
  if isInfinite x || isInfinite y then signed false infinite
  else if isUndefined x || isUndefined y then signed false undefined
  else signed false (hypotenuseOf (magnitude x) (magnitude y))

end SpriteStage.Binary64
