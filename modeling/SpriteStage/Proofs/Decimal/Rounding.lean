/-
Module: SpriteStage.Proofs.Decimal.Rounding
Purpose: The double of a decimal number is the nearest one, for every coefficient and every exponent. Where
  the size of the exponent alone settles the magnitude, the number lies beyond the finite range or below
  half of the smallest magnitude.
Main exports: Decimal.size, Decimal.magnitude_nearest
-/
import SpriteStage.Decimal.Basic
import SpriteStage.Proofs.Binary64.Rounding
import Mathlib.Tactic.Positivity

namespace SpriteStage

open Binary64 (Nearest unitsPerOne infinite)

theorem cast_tenTo (n : Nat) : (tenTo n : ℚ) = 10 ^ n := Nat.cast_pow 10 n

namespace Decimal

/-- The number without its sign. -/
def size (d : Decimal) : ℚ := d.coefficient * 10 ^ d.exponent

/-- From `10 ^ 401` on there are no finite magnitudes. -/
theorem nearest_of_large {q : ℚ} (large : (tenTo 401 : ℚ) ≤ q) : Nearest q infinite := by
  apply Binary64.nearest_infinite
  have units : Binary64.units infinite ≤ tenTo 401 * unitsPerOne := by decide +kernel
  refine le_trans ((div_le_iff₀ Binary64.unitsPerOne_pos).mpr ?_) large
  exact_mod_cast units

/-- A coefficient with many more places behind it than it has digits is below half of the smallest
magnitude. -/
theorem nearest_of_tiny {coefficient places : Nat} (tiny : coefficient.log2 + 401 < places) :
    Nearest (coefficient / tenTo places : ℚ) 0 := by
  apply Binary64.nearest_zero
  have digits : coefficient < tenTo (coefficient.log2 + 1) :=
    lt_of_lt_of_le Nat.lt_log2_self (twoTo_le_tenTo _)
  have few : 2 * unitsPerOne ≤ tenTo 401 := by decide +kernel
  have bound : 2 * coefficient * unitsPerOne < tenTo places :=
    calc 2 * coefficient * unitsPerOne = coefficient * (2 * unitsPerOne) := by ring
      _ ≤ coefficient * tenTo 401 := Nat.mul_le_mul_left _ few
      _ < tenTo (coefficient.log2 + 1) * tenTo 401 :=
        Nat.mul_lt_mul_of_pos_right digits (tenTo_pos _)
      _ = tenTo (coefficient.log2 + 1 + 401) := (tenTo_add _ _).symm
      _ ≤ tenTo places := tenTo_mono (by omega)
  have places_pos : (0 : ℚ) < tenTo places := by exact_mod_cast tenTo_pos places
  rw [Binary64.value_one, ← mul_div_assoc, div_lt_div_iff₀ places_pos Binary64.unitsPerOne_pos, one_mul]
  exact_mod_cast bound

/-- The magnitude of a decimal number is the nearest one. -/
theorem magnitude_nearest (d : Decimal) : Nearest d.size d.magnitude := by
  obtain ⟨negative, coefficient, exponent⟩ := d
  unfold size magnitude
  dsimp only
  split
  · rename_i zero
    apply Binary64.nearest_zero
    rw [zero, Nat.cast_zero, zero_mul, mul_zero, Binary64.value_one]
    exact one_div_pos.mpr Binary64.unitsPerOne_pos
  · rename_i nonzero
    cases exponent with
    | ofNat e =>
        have whole : (coefficient * 10 ^ (Int.ofNat e) : ℚ) = (coefficient * tenTo e : Nat) := by
          rw [Int.ofNat_eq_natCast, zpow_natCast, Nat.cast_mul, cast_tenTo]
        rw [whole]
        dsimp only
        split
        · rename_i large
          have least : tenTo 401 ≤ coefficient * tenTo e :=
            calc tenTo 401 ≤ tenTo e := tenTo_mono large
              _ ≤ coefficient * tenTo e := Nat.le_mul_of_pos_left _ (Nat.pos_of_ne_zero nonzero)
          exact nearest_of_large (by exact_mod_cast least)
        · have near := Binary64.nearest_nearest (coefficient * tenTo e) Nat.one_pos
          rwa [Nat.cast_one, div_one] at near
    | negSucc e =>
        have fraction : (coefficient * 10 ^ (Int.negSucc e) : ℚ) = coefficient / tenTo (e + 1) := by
          rw [zpow_negSucc, cast_tenTo, div_eq_mul_inv]
        rw [fraction]
        dsimp only
        split
        · rename_i tiny
          exact nearest_of_tiny tiny
        · exact Binary64.nearest_nearest coefficient (tenTo_pos _)

end Decimal

end SpriteStage
