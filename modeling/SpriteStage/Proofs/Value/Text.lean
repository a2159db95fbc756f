/-
Module: SpriteStage.Proofs.Value.Text
Purpose: Values as texts. The text of a number writes it out, so that whoever reads the text as a number finds
  the same double: the printer of doubles and the reader of numerals agree on every one of them. A small
  whole number has one text, as an integer and as a double.
Main exports: Numeral.Written.trim_chars, Value.number_of_text, Value.smallWhole?_ofInt,
  Value.text_reads_back
-/
import SpriteStage.Proofs.Decimal.Shortest
import SpriteStage.Proofs.Value.Number

namespace SpriteStage

open Binary64 (Nearest infinite signed isFinite isNegative magnitude)

/-! ## Numerals hold no blanks -/

namespace Text

theorem not_isBlank_of_isDigit {c : Char} (digit : c.isDigit = true) : isBlank c = false := by
  have low : 48 ≤ c.toNat ∧ c.toNat ≤ 57 := by
    simpa [Char.isDigit, UInt32.le_iff_toNat_le] using digit
  simp [isBlank, blankRanges]
  omega

theorem trim_of_no_blank {text : List Char} (none_blank : ∀ c ∈ text, isBlank c = false) :
    trim text = text := by
  apply Trimmed.trim_eq
  refine ⟨⟨[], [], (List.append_nil _).symm, nofun, nofun⟩, ?_, ?_⟩
  · intro c first
    exact none_blank c (List.mem_of_mem_head? first)
  · intro c last
    exact none_blank c (List.mem_of_getLast? last)

end Text

namespace Numeral

open Text (isBlank not_isBlank_of_isDigit)

theorem Sign.not_isBlank {sign : Sign} : ∀ c ∈ sign.chars, isBlank c = false := by
  cases sign <;> simp [chars, isBlank, Text.blankRanges]

theorem WrittenExponent.not_isBlank (written : WrittenExponent) :
    ∀ c ∈ written.chars, isBlank c = false := by
  intro c member
  rcases List.mem_cons.mp member with rfl | member
  · rcases written.marks with mark | mark <;> rw [mark] <;> decide
  · rcases List.mem_append.mp member with sign | digit
    · exact Sign.not_isBlank c sign
    · exact not_isBlank_of_isDigit (written.all_digits c digit)

theorem WrittenUnsigned.not_isBlank (written : WrittenUnsigned) :
    ∀ c ∈ written.chars, isBlank c = false := by
  obtain ⟨whole, fraction, exponent, whole_digits, fraction_digits, some_digit⟩ := written
  intro c member
  rcases List.mem_append.mp member with before | member
  · exact not_isBlank_of_isDigit (whole_digits c before)
  rcases List.mem_append.mp member with behind | member
  · cases fraction with
    | none => cases behind
    | some digits =>
        rcases List.mem_cons.mp behind with rfl | digit
        · decide
        · exact not_isBlank_of_isDigit (fraction_digits digits rfl c digit)
  · cases exponent with
    | none => cases member
    | some exponent => exact exponent.not_isBlank c member

/-- There is nothing to trim around a number. -/
theorem Written.trim_chars (written : Written) : Text.trim written.chars = written.chars := by
  apply Text.trim_of_no_blank
  intro c member
  rcases List.mem_append.mp member with sign | unsigned
  · exact Sign.not_isBlank c sign
  · exact written.unsigned.not_isBlank c unsigned

/-- The sign of a number that is printed. -/
def Sign.ofBool (negative : Bool) : Sign := if negative then .minus else .none

theorem Sign.negative_ofBool (negative : Bool) : (Sign.ofBool negative).negative = negative := by
  cases negative <;> rfl

/-- An integer is printed as a sign and its size. -/
theorem toList_toString_int (n : Int) :
    (toString n).toList = (Sign.ofBool (decide (n < 0))).chars ++ (toString n.natAbs).toList := by
  cases n with
  | ofNat n => rfl
  | negSucc n =>
      rw [decide_eq_true (Int.negSucc_lt_zero n)]
      exact String.toList_append

end Numeral

namespace Value

open Numeral (Written)

/-- A text that writes a number counts as the nearest double if that is finite. -/
theorem number_of_text {text : String} {written : Written} {b : Nat}
    (chars : written.chars = text.toList) (near : Nearest written.size b) (finite : b < infinite) :
    (Value.string text).number = signed written.negative b := by
  have trimmed : Text.trim text.toList = written.chars := chars ▸ written.trim_chars
  have found := written.decimal.magnitude_nearest
  rw [written.decimal_size] at found
  rw [number_of_written trimmed rfl, found.unique near, if_pos finite]

/-- The text of an integer counts as the double nearest to it. -/
theorem number_of_int {n : Int} {b : Nat} (near : Nearest n.natAbs b) (finite : b < infinite) :
    (Value.string (toString n)).number = signed (decide (n < 0)) b := by
  have chars : Written.chars ⟨.ofBool (decide (n < 0)), .ofNat n.natAbs⟩ = (toString n).toList := by
    rw [Numeral.toList_toString_int, Written.chars, Numeral.WrittenUnsigned.chars_ofNat]
  have size : Written.size ⟨.ofBool (decide (n < 0)), .ofNat n.natAbs⟩ = n.natAbs :=
    Numeral.WrittenUnsigned.size_ofNat _
  have read := number_of_text chars (size ▸ near) finite
  rwa [Written.negative, Numeral.Sign.negative_ofBool] at read

/-! ## Doubles -/

theorem isFinite_iff (x : Float) : isFinite x = true ↔ magnitude x < infinite := decide_eq_true_iff

/-- A double that is not finite is printed as a name, which counts as zero. -/
theorem number_of_textOfFloat_unbounded {x : Float} (unbounded : isFinite x = false) :
    (Value.string (textOfFloat x)).number = 0 := by
  have notWhole : smallWhole? x = none := by simp [smallWhole?, unbounded]
  have large : infinite ≤ magnitude x := by simpa [isFinite] using unbounded
  rw [textOfFloat, notWhole]
  dsimp only
  rw [Decimal.inFull, Decimal.withSign]
  split
  · decide +kernel
  · rename_i defined
    have vast : Binary64.isInfinite x = true := by
      simp only [Binary64.isUndefined, decide_eq_true_eq, not_lt] at defined
      exact decide_eq_true (Nat.le_antisymm defined large)
    rw [if_pos vast]
    dsimp only
    split <;> decide +kernel

/-- A finite double is printed as a sign and a number. -/
theorem toList_inFull {x : Float} (finite : magnitude x < infinite) :
    (Decimal.inFull x).toList = (Numeral.Sign.ofBool (isNegative x)).chars ++
      (Decimal.shortest (magnitude x)).positional.toList := by
  have defined : ¬Binary64.isUndefined x = true := by
    simpa [Binary64.isUndefined] using finite.le
  have bounded : ¬Binary64.isInfinite x = true := by
    simpa [Binary64.isInfinite] using finite.ne
  rw [Decimal.inFull, Decimal.withSign, if_neg defined, if_neg bounded]
  cases isNegative x with
  | false => rfl
  | true => exact String.toList_append

/-- The number that is printed for a finite double counts as this double. -/
theorem number_of_inFull {x : Float} (finite : magnitude x < infinite) :
    (Value.string (Decimal.inFull x)).number = x := by
  obtain ⟨unsigned, chars, size⟩ := (Decimal.shortest (magnitude x)).positional_written
  have printed : Written.chars ⟨.ofBool (isNegative x), unsigned⟩ = (Decimal.inFull x).toList := by
    rw [Written.chars, chars, toList_inFull finite]
  have near : Nearest (Written.size ⟨.ofBool (isNegative x), unsigned⟩) (magnitude x) := by
    rw [Written.size, size]
    exact Decimal.shortest_nearest finite
  rw [number_of_text printed near finite, Written.negative, Numeral.Sign.negative_ofBool,
    Binary64.signed_magnitude]

/-- What is printed as an integer stands for this integer. -/
theorem smallWhole?_eq_some {x : Float} {n : Int} (small : smallWhole? x = some n) :
    Binary64.value (magnitude x) = n.natAbs ∧
      (magnitude x = 0 ∨ isNegative x = decide (n < 0)) := by
  rw [smallWhole?] at small
  split at small
  · rename_i fits
    simp only [Bool.and_eq_true, decide_eq_true_eq] at fits
    have units := Nat.div_add_mod (Binary64.units (magnitude x)) Binary64.unitsPerOne
    rw [fits.1.2, Nat.add_zero] at units
    generalize Binary64.units (magnitude x) / Binary64.unitsPerOne = whole at *
    have stands : Binary64.value (magnitude x) = whole := by
      rw [Binary64.value, ← units, Nat.cast_mul, mul_div_cancel_left₀ _ Binary64.unitsPerOne_pos.ne']
    have nothing : whole = 0 → magnitude x = 0 := by
      rintro rfl
      apply Binary64.value_strictMono.injective
      rw [stands, Binary64.value_zero, Nat.cast_zero]
    have natAbs : n.natAbs = whole := by
      rw [← Option.some.inj small]
      split <;> omega
    refine ⟨natAbs ▸ stands, ?_⟩
    rw [or_iff_not_imp_left]
    intro something
    have positive := Nat.pos_of_ne_zero (mt nothing something)
    rw [← Option.some.inj small]
    cases isNegative x with
    | false => exact (decide_eq_false (Int.not_lt.mpr (Int.natCast_nonneg whole))).symm
    | true =>
        have below : -(whole : Int) < 0 := by omega
        exact (decide_eq_true below).symm
  · cases small

theorem smallWhole?_ofInt {n : Int} (small : n.natAbs < twoTo 53) :
    smallWhole? (Binary64.ofInt n) = some n := by
  obtain ⟨units, finite⟩ := Binary64.units_nearest_whole small
  have one : 0 < Binary64.unitsPerOne := twoTo_pos 1074
  have fits : n.natAbs < 0x20000000000000 := small
  rw [smallWhole?, Binary64.ofInt, Binary64.magnitude_signed _ finite.le,
    Binary64.isNegative_signed _ finite.le, Binary64.isFinite_signed _ finite.le, units,
    Nat.mul_mod_left, Nat.mul_div_cancel _ one]
  simp only [finite, fits, decide_true, Bool.and_self, if_true, decide_eq_true_eq, Option.some.injEq]
  split <;> omega

/-- The text of a finite double counts as the same number. -/
theorem textOfFloat_reads_back {x : Float} (finite : magnitude x < infinite) :
    ((Value.string (textOfFloat x)).number == x) = true := by
  rw [textOfFloat]
  split
  · rename_i n small
    obtain ⟨same, signs⟩ := smallWhole?_eq_some small
    have near := Binary64.nearest_value finite.le
    rw [same] at near
    rw [number_of_int near finite]
    have equal := Binary64.signed_beq finite (signs.imp_right Eq.symm)
    rwa [Binary64.signed_magnitude] at equal
  · rw [number_of_inFull finite]
    exact Binary64.beq_self finite

/-- Whatever value is written out as a text, the text counts as the same number as the value, the two zeros being
one number, unless the value is a truth value; and a whole number below `2 ^ 53` in size has one text, as an
integer and as a double. -/
theorem text_reads_back :
    (∀ value : Value, (∀ truth, value ≠ .bool truth) →
      ((Value.string value.text).number == value.number) = true) ∧
    ∀ n : Int, n.natAbs < twoTo 53 →
      (Value.float (Binary64.ofInt n)).text = (Value.integer (Int64.ofInt n)).text := by
  have zero : ((0 : Float) == 0) = true := by decide +kernel
  constructor
  · intro value no_truth
    cases value with
    | bool truth => exact absurd rfl (no_truth truth)
    | integer n =>
        have near := Binary64.nearest_nearest n.toInt.natAbs Nat.one_pos
        rw [Nat.cast_one, div_one] at near
        have finite := isFinite_ofInt n
        rw [Binary64.ofInt, Binary64.isFinite_signed _ near.bounded, decide_eq_true_eq] at finite
        rw [text, number_of_int near finite]
        exact Binary64.signed_beq_self _ finite
    | float x =>
        rw [text, number, finiteOrZero]
        split
        · rename_i finite
          exact textOfFloat_reads_back ((isFinite_iff x).mp finite)
        · rename_i unbounded
          rw [number_of_textOfFloat_unbounded (Bool.not_eq_true _ ▸ unbounded)]
          exact zero
    | string text => exact Binary64.beq_self ((isFinite_iff _).mp (isFinite_number _))
    | null => decide +kernel
  · intro n small
    have fits : (Int64.ofInt n).toInt = n := by
      have bound : twoTo 53 = 9007199254740992 := by decide
      exact Int64.toInt_ofInt_of_le (by omega) (by omega)
    rw [text, text, textOfFloat, smallWhole?_ofInt small, fits]

/-- The negative double next to zero takes more than a thousand places to write, and is found again. -/
theorem text_reads_back_smallest :
    (∀ truth, Value.float (signed true 1) ≠ .bool truth) ∧
      ((Value.string (Value.float (signed true 1)).text).number ==
        (Value.float (signed true 1)).number) = true ∧
      (-3 : Int).natAbs < twoTo 53 ∧ (Value.float (Binary64.ofInt (-3))).text = "-3" := by
  have no_truth : ∀ truth, Value.float (signed true 1) ≠ .bool truth := by simp
  have small : (-3 : Int).natAbs < twoTo 53 := by decide
  exact ⟨no_truth, text_reads_back.1 _ no_truth, small, text_reads_back.2 (-3) small⟩

end Value

end SpriteStage
