/-
Module: SpriteStage.Proofs.Binary64.Rounding
Purpose: Rounding told without an algorithm. The magnitudes are a grid of rational numbers, and the
  magnitude nearest to a number is the one at the smallest distance, of two such the even one. Infinity
  stands on the grid as the next power of two. The arithmetic of `nearest` finds this magnitude for every
  fraction: it finds the magnitude below the fraction and compares with the midpoint to the next one.
Main exports: value, Nearest, Nearest.unique, Nearest.of_midpoints, nearest_value, nearest_nearest,
  units_nearest_whole, nearest_infinite_iff
-/
import SpriteStage.Binary64.Nearest
import Mathlib.Algebra.Order.Field.Rat
import Mathlib.Order.Monotone.Basic
import Mathlib.Tactic.Linarith
import Mathlib.Tactic.NormNum
import Mathlib.Tactic.Ring

namespace SpriteStage.Binary64

/-! ## The grid -/

/-- The significand and the power of two of an assembled magnitude. -/
theorem parts_assembled {m s : Nat} (fits : m < 2 * normal) (whole : normal ≤ m ∨ s = 0) :
    significand (s * normal + m) = m ∧ shift (s * normal + m) = s := by
  unfold significand shift
  simp only [normal] at *
  split <;> omega

/-- The next magnitude has the next significand, or the smallest one at the next power. -/
theorem parts_succ (b : Nat) :
    significand (b + 1) = significand b + 1 ∧ shift (b + 1) = shift b ∨
      significand b + 1 = 2 * normal ∧ significand (b + 1) = normal ∧
        shift (b + 1) = shift b + 1 := by
  unfold significand shift
  simp only [normal]
  split <;> split <;> omega

/-- The distance between neighbours is a power of two. -/
theorem units_succ (b : Nat) : units (b + 1) = units b + twoTo (shift b) := by
  unfold units
  rcases parts_succ b with ⟨next, same⟩ | ⟨last, first, up⟩
  · rw [next, same, Nat.succ_mul]
  · rw [first, up, twoTo_succ, ← Nat.succ_mul, Nat.succ_eq_add_one, last]
    ring

/-- The number that a magnitude stands for. Infinity stands at the power of two behind the largest finite
magnitude, where the next one would be. -/
def value (b : Nat) : ℚ := (units b : ℚ) / unitsPerOne

theorem unitsPerOne_pos : (0 : ℚ) < unitsPerOne := by
  exact_mod_cast twoTo_pos 1074

theorem value_zero : value 0 = 0 := by
  have zero : units 0 = 0 := by decide +kernel
  rw [value, zero, Nat.cast_zero, zero_div]

theorem value_one : value 1 = 1 / unitsPerOne := by
  have one : units 1 = 1 := by decide +kernel
  rw [value, one, Nat.cast_one]

theorem value_strictMono : StrictMono value := by
  apply strictMono_nat_of_lt_succ
  intro b
  have more : units b < units (b + 1) := by
    rw [units_succ]
    exact Nat.lt_add_of_pos_right (twoTo_pos _)
  exact (div_lt_div_iff_of_pos_right unitsPerOne_pos).mpr (by exact_mod_cast more)

/-! ## The nearest magnitude -/

/-- The magnitude nearest to a number: none is at a smaller distance, and if another one is at the same
distance it is even. -/
structure Nearest (q : ℚ) (b : Nat) : Prop where
  bounded : b ≤ infinite
  closest : ∀ c ≤ infinite, |q - value b| ≤ |q - value c|
  even : ∀ c ≤ infinite, c ≠ b → |q - value b| = |q - value c| → b % 2 = 0

namespace Nearest

variable {q : ℚ} {a b c : Nat}

/-- Two magnitudes at the same distance have the number in their middle. -/
theorem middle (different : c ≠ b) (same : |q - value b| = |q - value c|) :
    value b + value c = 2 * q := by
  have apart : value c ≠ value b := fun equal => different (value_strictMono.injective equal)
  rcases abs_eq_abs.mp same with equal | opposite
  · exact absurd (by linarith) apart
  · linarith

/-- Not before the midpoint, a number is at least as close to the magnitude on the right. -/
theorem closer_than_left (order : value c < value b) (above : value c + value b ≤ 2 * q) :
    |q - value b| ≤ |q - value c| := by
  refine le_trans ?_ (le_abs_self _)
  exact abs_le.mpr ⟨by linarith, by linarith⟩

/-- Not behind the midpoint, a number is at least as close to the magnitude on the left. -/
theorem closer_than_right (order : value b < value c) (below : 2 * q ≤ value b + value c) :
    |q - value b| ≤ |q - value c| := by
  refine le_trans ?_ (neg_le_abs _)
  exact abs_le.mpr ⟨by linarith, by linarith⟩

/-- Between the midpoints to its neighbours, a number has a magnitude as its nearest one. -/
theorem of_midpoints (bounded : b ≤ infinite)
    (low : ∀ c, c + 1 = b →
      value c + value b ≤ 2 * q ∧ (value c + value b = 2 * q → b % 2 = 0))
    (high : b < infinite →
      2 * q ≤ value b + value (b + 1) ∧ (2 * q = value b + value (b + 1) → b % 2 = 0)) :
    Nearest q b := by
  -- What a magnitude on either side says of the number.
  have left : ∀ c < b, value c + value b ≤ 2 * q ∧ (value c + value b = 2 * q → b % 2 = 0) := by
    intro c less
    obtain ⟨p, rfl⟩ := Nat.exists_eq_succ_of_ne_zero (Nat.ne_zero_of_lt less)
    obtain ⟨above, tie⟩ := low p rfl
    have upTo : value c ≤ value p := value_strictMono.monotone (Nat.le_of_lt_succ less)
    exact ⟨by linarith, fun equal => tie (by linarith)⟩
  have right : ∀ c ≤ infinite, b < c →
      2 * q ≤ value b + value c ∧ (2 * q = value b + value c → b % 2 = 0) := by
    intro c inside more
    obtain ⟨below, tie⟩ := high (by omega)
    have from_next : value (b + 1) ≤ value c := value_strictMono.monotone more
    exact ⟨by linarith, fun equal => tie (by linarith)⟩
  constructor
  · exact bounded
  · intro c inside
    rcases Nat.lt_trichotomy c b with less | rfl | more
    · exact closer_than_left (value_strictMono less) (left c less).1
    · exact le_refl _
    · exact closer_than_right (value_strictMono more) (right c inside more).1
  · intro c inside different same
    have between := middle different same
    rcases Nat.lt_or_gt_of_ne different with less | more
    · exact (left c less).2 (by linarith)
    · exact (right c inside more).2 (by linarith)

/-- A number between two neighbours, but not behind their midpoint, has the lower one as its nearest
magnitude. -/
theorem lower (inside : b < infinite) (above : value b ≤ q)
    (below : 2 * q ≤ value b + value (b + 1)) (tie : value b + value (b + 1) = 2 * q → b % 2 = 0) :
    Nearest q b := by
  apply of_midpoints inside.le
  · intro c before
    have order : value c < value b := value_strictMono (by omega)
    exact ⟨by linarith, fun same => by linarith⟩
  · intro _
    exact ⟨below, fun same => tie same.symm⟩

/-- A number between two neighbours, but not before their midpoint, has the upper one as its nearest
magnitude. -/
theorem upper (inside : b < infinite) (below : q ≤ value (b + 1))
    (above : value b + value (b + 1) ≤ 2 * q) (tie : value b + value (b + 1) = 2 * q → b % 2 = 1) :
    Nearest q (b + 1) := by
  apply of_midpoints inside
  · rintro c before
    obtain rfl : c = b := by omega
    exact ⟨above, fun same => by have := tie same; omega⟩
  · intro _
    have order := value_strictMono (Nat.lt_succ_self (b + 1))
    exact ⟨by linarith, fun same => by linarith⟩

/-- A magnitude between two that are at the same distance would be nearer. -/
theorem not_apart (first : Nearest q a) (second : Nearest q b) : ¬a < b := by
  intro less
  have same : |q - value a| = |q - value b| :=
    le_antisymm (first.closest b second.bounded) (second.closest a first.bounded)
  have between := middle (Nat.ne_of_gt less) same
  have evenFirst := first.even b second.bounded (Nat.ne_of_gt less) same
  have evenSecond := second.even a first.bounded (Nat.ne_of_lt less) same.symm
  have more : a + 1 < b := by omega
  have order := value_strictMono (Nat.lt_succ_self a)
  have orderNext := value_strictMono more
  have nearer : |q - value (a + 1)| < |q - value a| := by
    have far : q - value a ≤ |q - value a| := le_abs_self _
    refine lt_of_lt_of_le ?_ far
    exact abs_lt.mpr ⟨by linarith, by linarith⟩
  exact absurd (first.closest (a + 1) (by have := second.bounded; omega)) (not_le.mpr nearer)

/-- There is only one nearest magnitude. -/
theorem unique (first : Nearest q a) (second : Nearest q b) : a = b :=
  Nat.le_antisymm (Nat.le_of_not_lt (second.not_apart first))
    (Nat.le_of_not_lt (first.not_apart second))

/-- A number is not below the midpoint between its nearest magnitude and a smaller one. -/
theorem midpoint_le (near : Nearest q b) (less : c < b) : value c + value b ≤ 2 * q := by
  have order := value_strictMono less
  have nearer := near.closest c (less.le.trans near.bounded)
  by_contra below
  have far : value b - q ≤ |q - value b| := by
    rw [abs_sub_comm]
    exact le_abs_self _
  have close : |q - value c| < value b - q := abs_lt.mpr ⟨by linarith, by linarith⟩
  linarith

/-- Rounding does not pass a magnitude. -/
theorem le_of_le (near : Nearest q b) (inside : c ≤ infinite) (least : q ≤ value c) : b ≤ c := by
  by_contra more
  have order := value_strictMono (Nat.lt_of_not_le more)
  have nearer := near.closest c inside
  rw [abs_sub_comm q, abs_of_nonneg (by linarith), abs_sub_comm q,
    abs_of_nonneg (by linarith)] at nearer
  linarith

end Nearest

/-- A magnitude is the one nearest to the number that it stands for. -/
theorem nearest_value {b : Nat} (bounded : b ≤ infinite) : Nearest (value b) b := by
  apply Nearest.of_midpoints bounded
  · rintro c rfl
    have order := value_strictMono (Nat.lt_succ_self c)
    exact ⟨by linarith, fun same => by linarith⟩
  · intro _
    have order := value_strictMono (Nat.lt_succ_self b)
    exact ⟨by linarith, fun same => by linarith⟩

/-- A number that is at least the power of two behind the finite range has infinity as its nearest
magnitude. -/
theorem nearest_infinite {q : ℚ} (beyond : value infinite ≤ q) : Nearest q infinite := by
  apply Nearest.of_midpoints le_rfl
  · intro c before
    have order : value c < value infinite := value_strictMono (by omega)
    exact ⟨by linarith, fun equal => by linarith⟩
  · intro beyondItself
    exact absurd beyondItself (lt_irrefl _)

/-- A number below one half of the smallest magnitude has zero as its nearest one. -/
theorem nearest_zero {q : ℚ} (tiny : 2 * q < value 1) : Nearest q 0 := by
  apply Nearest.of_midpoints (Nat.zero_le _)
  · intro c before
    exact absurd before (Nat.succ_ne_zero c)
  · intro _
    rw [value_zero, zero_add]
    exact ⟨by linarith, fun equal => absurd equal (ne_of_lt tiny)⟩

/-! ## What the algorithm finds -/

/-- The quotient that is rounded is a significand: it has at most 53 binary digits, and less only at the
smallest power. -/
theorem quotient_fits (count : Nat) :
    count / twoTo (count.log2 - 52) < 2 * normal ∧
      (normal ≤ count / twoTo (count.log2 - 52) ∨ count.log2 - 52 = 0) := by
  have below : count < twoTo (count.log2 + 1) := Nat.lt_log2_self
  rcases Nat.le_total count.log2 52 with short | long
  · have smallest : count.log2 - 52 = 0 := by omega
    have bound : twoTo (count.log2 + 1) ≤ twoTo 53 := Nat.pow_le_pow_right (by decide) (by omega)
    rw [smallest, twoTo_zero, Nat.div_one]
    exact ⟨lt_of_lt_of_le below bound, Or.inr rfl⟩
  · obtain ⟨s, log⟩ := Nat.exists_eq_add_of_le long
    have power : count.log2 - 52 = s := by omega
    have some_unit : count ≠ 0 := by
      rintro rfl
      rw [Nat.log2_zero] at log
      omega
    have above : twoTo (52 + s) ≤ count := log ▸ Nat.log2_self_le some_unit
    rw [log, Nat.add_right_comm, twoTo_add] at below
    rw [twoTo_add] at above
    rw [power]
    exact ⟨(Nat.div_lt_iff_lt_mul (twoTo_pos s)).mpr below,
      Or.inl ((Nat.le_div_iff_mul_le (twoTo_pos s)).mpr above)⟩

/-- The algorithm finds the magnitude below a fraction, and rounds up if the fraction lies behind the midpoint to
the next one, or on it behind an odd magnitude. -/
theorem nearest_eq (num : Nat) {den : Nat} (positive : 0 < den) :
    ∃ low, units low * den ≤ num * unitsPerOne ∧ num * unitsPerOne < units (low + 1) * den ∧
      nearest num den = min infinite
        (if (units low + units (low + 1)) * den < 2 * (num * unitsPerOne) ∨
            (units low + units (low + 1)) * den = 2 * (num * unitsPerOne) ∧ low % 2 = 1 then low + 1
          else low) := by
  unfold nearest
  dsimp only
  generalize num * unitsPerOne = scaled
  have fits := quotient_fits (scaled / den)
  rw [Nat.div_div_eq_div_mul] at fits
  generalize (scaled / den).log2 - 52 = s at fits ⊢
  have width : 0 < den * twoTo s := Nat.mul_pos positive (twoTo_pos s)
  obtain ⟨significand_low, shift_low⟩ := parts_assembled fits.1 fits.2
  have units_low : units (s * normal + scaled / (den * twoTo s)) * den =
      den * twoTo s * (scaled / (den * twoTo s)) := by
    rw [units, significand_low, shift_low]
    ring
  have units_next : units (s * normal + scaled / (den * twoTo s) + 1) * den =
      den * twoTo s * (scaled / (den * twoTo s)) + den * twoTo s := by
    rw [units_succ, shift_low, Nat.add_mul, units_low, Nat.mul_comm den]
  have parts := Nat.div_add_mod scaled (den * twoTo s)
  have remainder := Nat.mod_lt scaled width
  refine ⟨s * normal + scaled / (den * twoTo s), ?_, ?_, ?_⟩
  · omega
  · omega
  · rw [assemble, roundDiv, Nat.add_mul, units_low, units_next]
    -- The normal significands are even, so that magnitudes and significands are so together.
    have parity : (s * normal + scaled / (den * twoTo s)) % 2 = scaled / (den * twoTo s) % 2 := by
      simp only [normal]
      omega
    rw [parity]
    congr 1
    split <;> split <;> omega

variable {num den : Nat}

theorem midpoint_le_iff (positive : 0 < den) (a b : Nat) :
    value a + value b ≤ 2 * (num / den : ℚ) ↔
      (units a + units b) * den ≤ 2 * (num * unitsPerOne) := by
  have den_pos : (0 : ℚ) < den := by exact_mod_cast positive
  rw [value, value, ← add_div, ← mul_div_assoc, div_le_div_iff₀ unitsPerOne_pos den_pos, mul_assoc]
  exact_mod_cast Iff.rfl

theorem midpoint_eq_iff (positive : 0 < den) (a b : Nat) :
    value a + value b = 2 * (num / den : ℚ) ↔
      (units a + units b) * den = 2 * (num * unitsPerOne) := by
  have den_pos : (0 : ℚ) < den := by exact_mod_cast positive
  rw [value, value, ← add_div, ← mul_div_assoc, div_eq_div_iff unitsPerOne_pos.ne' den_pos.ne',
    mul_assoc]
  exact_mod_cast Iff.rfl

/-- The algorithm finds the nearest magnitude of every fraction. -/
theorem nearest_nearest (num : Nat) {den : Nat} (positive : 0 < den) :
    Nearest (num / den) (nearest num den) := by
  obtain ⟨low, above, below, found⟩ := nearest_eq num positive
  have low_le : value low + value low ≤ 2 * (num / den : ℚ) :=
    (midpoint_le_iff positive low low).mpr (by linarith)
  have lt_next : 2 * (num / den : ℚ) < value (low + 1) + value (low + 1) := by
    refine lt_of_not_ge fun reached => ?_
    have := (midpoint_le_iff positive _ _).mp reached
    linarith
  have middle_le := @midpoint_le_iff num den positive low (low + 1)
  have middle_eq := @midpoint_eq_iff num den positive low (low + 1)
  rw [found]
  generalize (num / den : ℚ) = q at *
  rcases Nat.lt_or_ge low infinite with inside | beyond
  · split
    · rename_i up
      rw [Nat.min_eq_right (by omega)]
      apply Nearest.upper inside (by linarith)
      · exact middle_le.mpr (by omega)
      · intro tie
        have := middle_eq.mp tie
        omega
    · rename_i down
      rw [Nat.min_eq_right (by omega)]
      apply Nearest.lower inside (by linarith)
      · by_contra more
        have reached := middle_le.mp (le_of_not_ge more)
        have off := mt middle_eq.mpr (by linarith)
        omega
      · intro tie
        have := middle_eq.mp tie
        omega
  · rw [Nat.min_eq_left (by split <;> omega)]
    have order := value_strictMono.monotone beyond
    exact nearest_infinite (by linarith)

/-! ## Whole numbers -/

/-- Whole numbers below `2 ^ 53` stand on the grid. -/
theorem exists_units {n : Nat} (small : n < 2 * normal) :
    ∃ b < infinite, units b = n * unitsPerOne := by
  rcases Nat.eq_zero_or_pos n with rfl | positive
  · exact ⟨0, by decide, by decide +kernel⟩
  · have least := Nat.log2_self_le positive.ne'
    have below : n < twoTo (n.log2 + 1) := Nat.lt_log2_self
    have short : n.log2 ≤ 52 := by
      have power : twoTo n.log2 < twoTo 53 := lt_of_le_of_lt least small
      have := (Nat.pow_lt_pow_iff_right (by decide : 1 < 2)).mp power
      omega
    obtain ⟨more, sum⟩ := Nat.exists_eq_add_of_le short
    have fits : n * twoTo more < 2 * normal := by
      calc n * twoTo more < twoTo (n.log2 + 1) * twoTo more :=
            Nat.mul_lt_mul_of_pos_right below (twoTo_pos more)
        _ = twoTo 53 := by rw [← twoTo_add]; congr 1; omega
        _ = 2 * normal := by decide
    have whole : normal ≤ n * twoTo more := by
      calc normal = twoTo 52 := by decide
        _ = twoTo n.log2 * twoTo more := by rw [← twoTo_add]; congr 1
        _ ≤ n * twoTo more := Nat.mul_le_mul_right _ least
    obtain ⟨significand_eq, shift_eq⟩ := parts_assembled (s := 1074 - more) fits (Or.inl whole)
    refine ⟨(1074 - more) * normal + n * twoTo more, ?_, ?_⟩
    · simp only [normal, infinite] at *
      omega
    · rw [units, significand_eq, shift_eq, Nat.mul_assoc, ← twoTo_add, unitsPerOne]
      congr 2
      omega

/-- A whole number below `2 ^ 53` is its own nearest double. -/
theorem units_nearest_whole {n : Nat} (small : n < 2 * normal) :
    units (nearest n 1) = n * unitsPerOne ∧ nearest n 1 < infinite := by
  obtain ⟨b, finite, exact_units⟩ := exists_units small
  have exact_value : value b = n := by
    rw [value, exact_units, Nat.cast_mul, mul_div_cancel_right₀ _ unitsPerOne_pos.ne']
  have near := nearest_nearest n Nat.one_pos
  rw [Nat.cast_one, div_one, ← exact_value] at near
  rw [near.unique (nearest_value finite.le)]
  exact ⟨exact_units, finite⟩

/-! ## The ends of the finite range -/

/-- A number rounds to infinity from the midpoint between the largest finite magnitude and the next power of two
on. -/
theorem nearest_infinite_iff (q : ℚ) : Nearest q infinite ↔ (twoTo 1024 - twoTo 970 : ℚ) ≤ q := by
  have sum : (units (infinite - 1) + units infinite) + 2 * twoTo 970 * unitsPerOne =
      2 * twoTo 1024 * unitsPerOne := by decide +kernel
  have middle : value (infinite - 1) + value infinite = 2 * (twoTo 1024 - twoTo 970 : ℚ) := by
    rw [value, value, ← add_div, div_eq_iff unitsPerOne_pos.ne']
    have sum_cast := congrArg (Nat.cast : Nat → ℚ) sum
    push_cast at sum_cast
    linarith
  constructor
  · intro near
    have last : infinite - 1 < infinite := by decide
    have := near.midpoint_le last
    linarith
  · intro beyond
    apply Nearest.of_midpoints le_rfl
    · intro c before
      obtain rfl : c = infinite - 1 := by omega
      exact ⟨by linarith, fun _ => rfl⟩
    · intro behind
      exact absurd behind (lt_irrefl _)

end SpriteStage.Binary64
