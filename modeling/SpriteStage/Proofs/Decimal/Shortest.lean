/-
Module: SpriteStage.Proofs.Decimal.Shortest
Purpose: What is printed reads back. The digits of a whole number denote it, and digits with a place are
  printed as a number that is written without an exponent and has their size. The search for the fewest
  digits ends with a number whose nearest magnitude is the one that is printed, on whatever grid it ends.
Main exports: Digits.size, Digits.written, Digits.written_size, shortest_nearest
-/
import SpriteStage.Decimal.Shortest
import SpriteStage.Proofs.Decimal.Numerals

namespace SpriteStage

open Binary64 (Nearest infinite unitsPerOne)

namespace Numeral

/-! ## The digits of whole numbers -/

theorem isDigit_of_mem_toString {n : Nat} : ∀ c ∈ (toString n).toList, c.isDigit = true := by
  intro c member
  rw [Nat.toString_eq_ofList_toDigits, String.toList_ofList] at member
  exact Nat.isDigit_of_mem_toDigits (by decide) (by decide) member

theorem denoted_toString (n : Nat) : denoted (toString n).toList = n := by
  rw [Nat.toString_eq_ofList_toDigits, String.toList_ofList]
  have counted := ofDigits_eq 0 (Nat.toDigits 10 n)
  rw [Nat.zero_mul, Nat.zero_add] at counted
  rw [← counted]
  exact Nat.ofDigitChars_ten_toDigits

theorem toString_ne_nil (n : Nat) : (toString n).toList ≠ [] := by
  rw [Nat.toString_eq_ofList_toDigits, String.toList_ofList]
  exact Nat.toDigits_ne_nil

theorem denoted_zeros (n : Nat) (digits : List Char) :
    denoted (List.replicate n '0' ++ digits) = denoted digits := by
  induction n with
  | zero => rfl
  | succ n fewer =>
      have zero : Decimal.digit '0' = 0 := rfl
      rw [List.replicate_succ, List.cons_append, denoted_cons, zero, Nat.zero_mul, Nat.zero_add,
        fewer]

/-- A whole number with its digits and nothing else. -/
def WrittenUnsigned.ofNat (n : Nat) : WrittenUnsigned where
  whole := (toString n).toList
  fraction := none
  exponent := none
  whole_digits := isDigit_of_mem_toString
  fraction_digits := nofun
  some_digit := Or.inl (toString_ne_nil n)

theorem WrittenUnsigned.chars_ofNat (n : Nat) : (ofNat n).chars = (toString n).toList :=
  List.append_nil _

theorem WrittenUnsigned.size_ofNat (n : Nat) : (ofNat n).size = n := by
  have digits : denoted (ofNat n).whole = n := denoted_toString n
  have nothing : denoted (ofNat n).places = 0 := rfl
  have power : exponentValue (ofNat n).exponent = 0 := rfl
  rw [size, digits, nothing, power, zpow_zero, mul_one, Nat.cast_zero, zero_div, add_zero]

/-- The digits of a whole number behind as many zeros as fill the places. -/
def filled (n places : Nat) : List Char :=
  List.replicate (places - (toString n).toList.length) '0' ++ (toString n).toList

theorem isDigit_of_mem_filled {n places : Nat} : ∀ c ∈ filled n places, c.isDigit = true := by
  intro c member
  rcases List.mem_append.mp member with zero | digit
  · rw [List.eq_of_mem_replicate zero]
    rfl
  · exact isDigit_of_mem_toString c digit

theorem denoted_filled (n places : Nat) : denoted (filled n places) = n :=
  (denoted_zeros _ _).trans (denoted_toString n)

theorem length_filled {n places : Nat} (some_place : 0 < places) (fits : n < tenTo places) :
    (filled n places).length = places := by
  have short : (toString n).toList.length ≤ places := by
    rw [Nat.toString_eq_ofList_toDigits, String.toList_ofList]
    exact (Nat.length_toDigits_le_iff (by decide) some_place).mpr fits
  rw [filled, List.length_append, List.length_replicate, Nat.sub_add_cancel short]

/-- A whole number, and another one that fills the places behind the point. -/
def WrittenUnsigned.ofFraction (whole rest places : Nat) : WrittenUnsigned where
  whole := (toString whole).toList
  fraction := some (filled rest places)
  exponent := none
  whole_digits := isDigit_of_mem_toString
  fraction_digits := by
    rintro digits ⟨⟩
    exact isDigit_of_mem_filled
  some_digit := Or.inl (toString_ne_nil whole)

theorem WrittenUnsigned.chars_ofFraction (whole rest places : Nat) :
    (ofFraction whole rest places).chars =
      (toString whole).toList ++ '.' :: filled rest places :=
  congrArg ((toString whole).toList ++ '.' :: ·) (List.append_nil _)

theorem WrittenUnsigned.size_ofFraction {rest places : Nat} (whole : Nat) (some_place : 0 < places)
    (fits : rest < tenTo places) :
    (ofFraction whole rest places).size = whole + rest / tenTo places := by
  have before : denoted (ofFraction whole rest places).whole = whole := denoted_toString whole
  have behind : denoted (ofFraction whole rest places).places = rest := denoted_filled rest places
  have length : (ofFraction whole rest places).places.length = places :=
    length_filled some_place fits
  have power : exponentValue (ofFraction whole rest places).exponent = 0 := rfl
  rw [size, before, behind, length, power, zpow_zero, mul_one, cast_tenTo]

end Numeral

namespace Decimal

open Numeral (WrittenUnsigned)

/-! ## Digits and their places -/

/-- The number that digits with a place stand for. -/
def Digits.size (d : Digits) : ℚ := d.digits * tenTo d.place / tenTo 1074

theorem cast_tenTo_pos (n : Nat) : (0 : ℚ) < tenTo n := by
  exact_mod_cast tenTo_pos n

theorem div_split (a : Nat) {b : Nat} (positive : 0 < b) :
    (a / b : ℚ) = (a / b : Nat) + (a % b : Nat) / b := by
  have b_ne : (b : ℚ) ≠ 0 := by exact_mod_cast positive.ne'
  have parts : (a : ℚ) = b * (a / b : Nat) + (a % b : Nat) := by
    exact_mod_cast (Nat.div_add_mod a b).symm
  rw [div_eq_iff b_ne, add_mul, div_mul_cancel₀ _ b_ne, mul_comm (_ : ℚ) (b : ℚ)]
  exact parts

/-- Digits with a place are printed as a number of their size. -/
theorem Digits.positional_written (d : Digits) :
    ∃ written : WrittenUnsigned, written.chars = d.positional.toList ∧ written.size = d.size := by
  obtain ⟨digits, place⟩ := d
  rw [positional, size]
  dsimp only
  have one := (cast_tenTo_pos 1074).ne'
  split
  · rename_i whole
    obtain ⟨more, rfl⟩ := Nat.exists_eq_add_of_le whole
    refine ⟨.ofNat (digits * tenTo (1074 + more - 1074)), WrittenUnsigned.chars_ofNat _, ?_⟩
    rw [WrittenUnsigned.size_ofNat, Nat.add_sub_cancel_left, tenTo_add, eq_div_iff one]
    push_cast
    ring
  · rename_i broken
    obtain ⟨places, sum⟩ := Nat.exists_eq_add_of_lt (Nat.lt_of_not_le broken)
    have behind : 1074 - place = places + 1 := by omega
    rw [behind]
    refine ⟨.ofFraction (digits / tenTo (places + 1)) (digits % tenTo (places + 1)) (places + 1), ?_, ?_⟩
    · have point : ".".toList = ['.'] := rfl
      rw [WrittenUnsigned.chars_ofFraction, String.toList_append, String.toList_append, point,
        List.append_assoc, List.singleton_append, String.toList_ofList, Numeral.filled]
    · have some_place := tenTo_pos (places + 1)
      have scale : tenTo 1074 = tenTo place * tenTo (places + 1) := by
        rw [← tenTo_add]
        exact congrArg tenTo sum
      rw [WrittenUnsigned.size_ofFraction _ (Nat.succ_pos _) (Nat.mod_lt _ some_place),
        ← div_split _ some_place, scale, Nat.cast_mul, mul_comm (tenTo place : ℚ),
        mul_div_mul_right _ _ (cast_tenTo_pos place).ne']

/-! ## What the search finds -/

theorem tenTo_finest : tenTo 1074 = unitsPerOne * finestPerUnit := by decide +kernel

theorem finestPerUnit_pos : (0 : ℚ) < finestPerUnit := by
  have positive : 0 < finestPerUnit := by decide +kernel
  exact_mod_cast positive

/-- The midpoint of two magnitudes, in halves of the finest grid. -/
theorem sum_values (a c : Nat) :
    Binary64.value a + Binary64.value c =
      ((Binary64.units a + Binary64.units c) * finestPerUnit : Nat) / tenTo 1074 := by
  have units_pos := Binary64.unitsPerOne_pos
  have finest_pos := finestPerUnit_pos
  rw [Binary64.value, Binary64.value, tenTo_finest, ← add_div, Nat.cast_mul, Nat.cast_mul,
    mul_div_mul_right _ _ finest_pos.ne', Nat.cast_add]

/-- What reads back as a magnitude has it as its nearest one. -/
theorem nearest_of_readsBack {b n : Nat} (some_unit : 0 < b) (finite : b < infinite)
    (reads : readsBack b n = true) : Nearest (n / (2 * tenTo 1074)) b := by
  have one := cast_tenTo_pos 1074
  have twice : 2 * (n / (2 * tenTo 1074) : ℚ) = n / tenTo 1074 := by
    rw [mul_div_assoc', mul_div_mul_left _ _ two_ne_zero]
  have between : ∀ a c, Binary64.value a + Binary64.value c ≤ (n / tenTo 1074 : ℚ) ↔
      (Binary64.units a + Binary64.units c) * finestPerUnit ≤ n := by
    intro a c
    rw [sum_values, div_le_div_iff_of_pos_right one, Nat.cast_le]
  have reached : ∀ a c, (n / tenTo 1074 : ℚ) ≤ Binary64.value a + Binary64.value c ↔
      n ≤ (Binary64.units a + Binary64.units c) * finestPerUnit := by
    intro a c
    rw [sum_values, div_le_div_iff_of_pos_right one, Nat.cast_le]
  rw [readsBack] at reads
  apply Nearest.of_midpoints finite.le
  · rintro c rfl
    rw [Nat.add_sub_cancel] at reads
    rw [twice, eq_iff_le_not_lt, not_lt, between, reached]
    split at reads <;> simp only [decide_eq_true_eq] at reads <;> omega
  · intro _
    rw [twice, eq_iff_le_not_lt, not_lt, between, reached]
    split at reads <;> simp only [decide_eq_true_eq] at reads <;> omega

/-- On the finest grid a magnitude stands exactly. -/
theorem size_finest (b : Nat) : (⟨halves b / 2, 0⟩ : Digits).size = Binary64.value b := by
  rw [Digits.size, halves, Nat.mul_div_cancel_left _ (by decide), tenTo_zero, Nat.cast_one, mul_one,
    tenTo_finest, Nat.cast_mul, Nat.cast_mul, mul_div_mul_right _ _ finestPerUnit_pos.ne',
    Binary64.value]

/-- Digits of which the search knows that they read back, in halves of the finest grid. -/
theorem size_nearest {b digits place : Nat} (some_unit : 0 < b) (finite : b < infinite)
    (reads : readsBack b (digits * (2 * tenTo place)) = true) :
    Nearest (⟨digits, place⟩ : Digits).size b := by
  have near := nearest_of_readsBack some_unit finite reads
  rwa [Nat.cast_mul, Nat.cast_mul, mul_left_comm, Nat.cast_two, mul_div_mul_left _ _ two_ne_zero]
    at near

theorem shortestFrom_nearest {b : Nat} (some_unit : 0 < b) (finite : b < infinite) (place : Nat) :
    Nearest (shortestFrom b place).size b := by
  induction place with
  | zero =>
      rw [shortestFrom, size_finest]
      exact Binary64.nearest_value finite.le
  | succ place finer =>
      rw [shortestFrom]
      split
      · rename_i both
        rw [Bool.and_eq_true] at both
        split
        · exact size_nearest some_unit finite both.1
        · exact size_nearest some_unit finite both.2
      · split
        · rename_i down
          exact size_nearest some_unit finite down
        · split
          · rename_i up
            exact size_nearest some_unit finite up
          · exact finer

/-- The digits that are printed for a magnitude have it as their nearest one. -/
theorem shortest_nearest {b : Nat} (finite : b < infinite) : Nearest (shortest b).size b := by
  rw [shortest]
  split
  · rename_i zero
    have nothing : (⟨0, 1074⟩ : Digits).size = Binary64.value 0 := by
      rw [Binary64.value_zero, Digits.size, Nat.cast_zero, zero_mul, zero_div]
    rw [zero, nothing]
    exact Binary64.nearest_value (Nat.zero_le _)
  · rename_i nonzero
    exact shortestFrom_nearest (Nat.pos_of_ne_zero nonzero) finite _

end Decimal

end SpriteStage
