/-
Module: SpriteStage.Decimal.Shortest
Purpose: The fewest digits that read back. Among all decimals that read back as a given double, the
  one with the coarsest power of ten, and of two such the nearer one (the larger one of two equally
  near). Every double is a whole multiple of `10 ^ (-1074)`, which is the finest grid the search can
  reach, so that it always finds one.
Main exports: Digits, shortest, Digits.positional
-/
import SpriteStage.Binary64.Nearest

namespace SpriteStage.Decimal

/-- The number `digits * 10 ^ (place - 1074)`. -/
structure Digits where
  digits : Nat
  place : Nat
deriving DecidableEq, Repr

/-- `5 ^ 1074`: a unit is this many times `10 ^ (-1074)`. -/
def finestPerUnit : Nat := Nat.pow 5 1074

/-- The double with magnitude `b` in halves of `10 ^ (-1074)`. -/
def halves (b : Nat) : Nat := 2 * (Binary64.units b * finestPerUnit)

/-- Whether the decimal `n`, in halves of `10 ^ (-1074)`, reads back as the magnitude `b`: it lies
between the midpoints to the neighbours, and on one of them only if `b` is even. -/
def readsBack (b n : Nat) : Bool :=
  let low := (Binary64.units (b - 1) + Binary64.units b) * finestPerUnit
  let high := (Binary64.units b + Binary64.units (b + 1)) * finestPerUnit
  if b % 2 = 0 then decide (low ≤ n ∧ n ≤ high) else decide (low < n ∧ n < high)

/-- Looks for a decimal that reads back, first at `10 ^ place`, then at ever finer grids. -/
def shortestFrom (b : Nat) : Nat → Digits
  | 0 => ⟨halves b / 2, 0⟩
  | place + 1 =>
    let step := 2 * tenTo (place + 1)
    let below := halves b / step
    let down := readsBack b (below * step)
    let up := readsBack b ((below + 1) * step)
    if down && up then
      if halves b - below * step < (below + 1) * step - halves b then ⟨below, place + 1⟩
      else ⟨below + 1, place + 1⟩
    else if down then ⟨below, place + 1⟩
    else if up then ⟨below + 1, place + 1⟩
    else shortestFrom b place

/-- The fewest digits that read back as the magnitude `b`. The search starts above the first digit:
`2 ^ 93` is below `10 ^ 28`. -/
def shortest (b : Nat) : Digits :=
  if b = 0 then ⟨0, 1074⟩ else shortestFrom b ((halves b).log2 * 28 / 93 + 1)

/-- The digits without an exponent: zeros fill the places between them and the point, and there is
no point if nothing follows it. -/
def Digits.positional (d : Digits) : String :=
  if 1074 ≤ d.place then toString (d.digits * tenTo (d.place - 1074))
  else
    let places := 1074 - d.place
    let text := (toString (d.digits % tenTo places)).toList
    let zeros := List.replicate (places - text.length) '0'
    toString (d.digits / tenTo places) ++ "." ++ String.ofList (zeros ++ text)

end SpriteStage.Decimal
