/-
Module: SpriteStage.Proofs.Script.Holds
Purpose: How long a text stays up, told on exact numbers. The seconds of a block are a double, and a
  double is a rational number; what a script waits is the whole number of nanoseconds nearest to it,
  a half to the even one, within the range of a length of time. The arithmetic of
  `Duration.ofSeconds` and `Duration.milliseconds`, which counts in units of the smallest double,
  comes to the same.
Main exports: nearestWhole, holdNanoseconds, Duration.ofSeconds_nanoseconds,
  Duration.milliseconds_eq
-/
import SpriteStage.Proofs.Binary64.Rounding
import SpriteStage.Duration
import Mathlib.Algebra.Order.Floor.Div
import Mathlib.Algebra.Order.Floor.Semifield
import Mathlib.Data.Rat.Floor

namespace SpriteStage

/-- The whole number nearest to a number that is not negative; halfway between two, the even one. -/
def nearestWhole (q : ℚ) : ℕ :=
  let below := ⌊q⌋₊
  if q - below < 1 / 2 ∨ (q - below = 1 / 2 ∧ below % 2 = 0) then below else below + 1

/-- The longest time in nanoseconds: one less than `2 ^ 64` seconds have. -/
def longestNanoseconds : ℕ := 18446744073709551615999999999

/-- The nanoseconds in a number of seconds: none if it is negative or undefined, else the nearest
whole number of them, and the longest time from `2 ^ 64` seconds on. -/
def holdNanoseconds (seconds : Float) : ℕ :=
  let exact := Binary64.value (Binary64.magnitude seconds)
  if Binary64.isUndefined seconds || Binary64.isNegative seconds then 0
  else if 18446744073709551616 ≤ exact then longestNanoseconds
  else nearestWhole (exact * 1000000000)

namespace Binary64

/-- Rounding a quotient is rounding the fraction. -/
theorem roundDiv_eq_nearestWhole (n : Nat) {d : Nat} (positive : 0 < d) :
    roundDiv n d = nearestWhole (n / d) := by
  have whole : (0 : ℚ) < d := Nat.cast_pos.mpr positive
  have below : ⌊(n / d : ℚ)⌋₊ = n / d := Nat.floor_div_eq_div n d
  have parts : (n : ℚ) = d * (n / d : ℕ) + (n % d : ℕ) := by
    exact_mod_cast (Nat.div_add_mod n d).symm
  have rest : (n / d : ℚ) - (n / d : ℕ) = (n % d : ℕ) / d := by
    rw [eq_div_iff whole.ne', sub_mul, div_mul_cancel₀ _ whole.ne']
    linarith
  have half (q : ℚ) : q / d < 1 / 2 ↔ 2 * q < d := by
    rw [div_lt_iff₀ whole]
    constructor <;> intro less <;> linarith
  have tie (q : ℚ) : q / d = 1 / 2 ↔ 2 * q = d := by
    rw [div_eq_iff whole.ne']
    constructor <;> intro same <;> linarith
  unfold roundDiv nearestWhole
  simp only [below, rest, half, tie]
  norm_cast
  split <;> split <;> omega

end Binary64

namespace Duration

/-- A length of time for a number of seconds is the nearest one. -/
theorem ofSeconds_nanoseconds (seconds : Float) :
    (ofSeconds seconds).nanoseconds = holdNanoseconds seconds := by
  have positive : 0 < Binary64.unitsPerOne := twoTo_pos 1074
  have exact : Binary64.value (Binary64.magnitude seconds) =
    (Binary64.units (Binary64.magnitude seconds) : ℚ) / Binary64.unitsPerOne := rfl
  simp only [ofSeconds, holdNanoseconds, exact]
  -- From here on it is about any count of units, and any number of them in one second.
  generalize Binary64.units (Binary64.magnitude seconds) = units
  generalize Binary64.unitsPerOne = whole at positive ⊢
  have inRange : (18446744073709551616 : ℚ) ≤ units / whole ↔ 0x10000000000000000 * whole ≤ units := by
    rw [le_div_iff₀ (Nat.cast_pos.mpr positive)]
    norm_cast
  have scaled : (units / whole : ℚ) * 1000000000 = (units * 1000000000 : ℕ) / whole := by
    rw [Nat.cast_mul, div_mul_eq_mul_div, Nat.cast_ofNat]
  rw [scaled, ← Binary64.roundDiv_eq_nearestWhole _ positive]
  simp only [inRange]
  split
  · rfl
  · split <;> rfl

/-- Whole milliseconds, a begun one counted in full. -/
theorem milliseconds_eq (d : Duration) : d.milliseconds = d.nanoseconds ⌈/⌉ 1000000 := by
  rw [Nat.ceilDiv_eq_add_pred_div, milliseconds, Nat.add_sub_assoc (by decide)]

end Duration

end SpriteStage
