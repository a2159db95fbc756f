/-
Module: SpriteStage.Proofs.Value.Number
Purpose: Values as numbers. A text counts as the double nearest to the number that is written between the
  blanks around it. Where no number is written there, or where the nearest double is not finite, it counts as
  zero, without a sign. So every value counts as a finite number.
Main exports: Text.Trimmed, Value.Counts, Value.number_counts
-/
import SpriteStage.Block
import SpriteStage.Proofs.Binary64.Bits
import SpriteStage.Proofs.Decimal.Numerals

namespace SpriteStage

open Binary64 (Nearest infinite signed isFinite)

/-! ## Blanks at the ends -/

namespace Text

/-- What is left of a text without the blanks at its ends. -/
structure Trimmed (text core : List Char) : Prop where
  framed : ∃ front back, text = front ++ (core ++ back) ∧
    (∀ c ∈ front, isBlank c = true) ∧ ∀ c ∈ back, isBlank c = true
  begins : ∀ c ∈ core.head?, isBlank c = false
  ends : ∀ c ∈ core.getLast?, isBlank c = false

theorem head?_dropWhile {p : Char → Bool} (text : List Char) :
    ∀ c ∈ (text.dropWhile p).head?, p c = false := by
  intro c first
  have kept := List.head?_dropWhile_not p text
  rw [Option.mem_def.mp first] at kept
  exact kept

theorem trimmed_trim (text : List Char) : Trimmed text (trim text) := by
  have parts : (text.dropWhile isBlank).reverse.takeWhile isBlank ++
      (text.dropWhile isBlank).reverse.dropWhile isBlank = (text.dropWhile isBlank).reverse :=
    List.takeWhile_append_dropWhile
  have whole : trim text ++ ((text.dropWhile isBlank).reverse.takeWhile isBlank).reverse =
      text.dropWhile isBlank := by
    rw [trim, ← List.reverse_append, parts, List.reverse_reverse]
  refine ⟨⟨text.takeWhile isBlank, ((text.dropWhile isBlank).reverse.takeWhile isBlank).reverse,
    ?_, fun c => List.mem_takeWhile_imp, ?_⟩, ?_, ?_⟩
  · rw [whole, List.takeWhile_append_dropWhile]
  · intro c member
    exact List.mem_takeWhile_imp (List.mem_reverse.mp member)
  · intro c first
    apply head?_dropWhile text
    rw [← whole]
    exact List.mem_head?_append_of_mem_head? first
  · intro c last
    rw [trim, List.getLast?_reverse] at last
    exact head?_dropWhile _ c last

theorem Trimmed.trim_eq {text core : List Char} (trimmed : Trimmed text core) :
    trim text = core := by
  obtain ⟨⟨front, back, rfl, front_blank, back_blank⟩, begins, ends⟩ := trimmed
  cases core with
  | nil =>
      have nothing : (front ++ back).dropWhile isBlank = [] := by
        rw [List.dropWhile_eq_nil_iff]
        intro c member
        exact (List.mem_append.mp member).elim (front_blank c) (back_blank c)
      rw [trim, List.nil_append, nothing]
      rfl
  | cons c rest =>
      have first : (front ++ (c :: rest ++ back)).dropWhile isBlank = c :: rest ++ back :=
        Numeral.dropWhile_front front_blank begins
      have last : (back.reverse ++ (c :: rest).reverse).dropWhile isBlank = (c :: rest).reverse := by
        apply Numeral.dropWhile_front
        · intro d member
          exact back_blank d (List.mem_reverse.mp member)
        · rw [List.head?_reverse]
          exact ends
      rw [trim, first, List.reverse_append, last, List.reverse_reverse]

end Text

namespace Value

/-! ## Finite numbers -/

theorem isFinite_zero : isFinite 0 = true := by decide +kernel

theorem finiteOrZero_isFinite (x : Float) : isFinite (finiteOrZero x) = true := by
  unfold finiteOrZero
  split
  · rename_i finite
    exact finite
  · exact isFinite_zero

/-- Integers of 64 bits are far inside of the finite range. -/
theorem isFinite_ofInt (n : Int64) : isFinite (Binary64.ofInt n.toInt) = true := by
  have size : n.toInt.natAbs ≤ 0x8000000000000000 := by
    have low := Int64.le_toInt n
    have high := Int64.toInt_lt n
    omega
  have near := Binary64.nearest_nearest n.toInt.natAbs Nat.one_pos
  -- The magnitude of `2 ^ 63`.
  have units : Binary64.units 0x43E0000000000000 = 0x8000000000000000 * Binary64.unitsPerOne := by
    decide +kernel
  have bound : (n.toInt.natAbs / (1 : Nat) : ℚ) ≤ Binary64.value 0x43E0000000000000 := by
    rw [Binary64.value, units, Nat.cast_mul, mul_div_cancel_right₀ _ Binary64.unitsPerOne_pos.ne',
      Nat.cast_one, div_one]
    exact_mod_cast size
  have least := near.le_of_le (by decide) bound
  rw [Binary64.ofInt, Binary64.isFinite_signed _ near.bounded, decide_eq_true_iff]
  exact lt_of_le_of_lt least (by decide)

theorem isFinite_number (value : Value) : isFinite value.number = true := by
  cases value with
  | bool value => cases value <;> decide +kernel
  | integer n => exact isFinite_ofInt n
  | float x => exact finiteOrZero_isFinite x
  | string text =>
      rw [number, numberOfText]
      split
      · exact finiteOrZero_isFinite _
      · exact isFinite_zero
  | null => exact isFinite_zero

/-! ## The numbers of texts -/

/-- What a text without blanks at its ends counts as: the double nearest to the number that it writes if that
is finite, else zero without a sign. -/
inductive Counts : List Char → Float → Prop where
  | finite (written : Numeral.Written) (b : Nat) :
      Nearest written.size b → b < infinite → Counts written.chars (signed written.negative b)
  | overflow (written : Numeral.Written) :
      Nearest written.size infinite → Counts written.chars 0
  | unwritten {core : List Char} :
      (∀ written : Numeral.Written, written.chars ≠ core) → Counts core 0

theorem finiteOrZero_signed (negative : Bool) {b : Nat} (bounded : b ≤ infinite) :
    finiteOrZero (signed negative b) = if b < infinite then signed negative b else 0 := by
  rw [finiteOrZero, Binary64.isFinite_signed negative bounded]
  simp only [decide_eq_true_eq]

section Texts

variable {text : String} {core : List Char} (trimmed : Text.trim text.toList = core)
include trimmed

theorem number_of_written {written : Numeral.Written} (chars : written.chars = core) :
    (Value.string text).number =
      if written.decimal.magnitude < infinite then
        signed written.negative written.decimal.magnitude
      else 0 := by
  have reads := (Numeral.ofChars?_eq_decimal_iff core written.decimal).mpr ⟨written, chars, rfl⟩
  have near := written.decimal.magnitude_nearest
  rw [number, numberOfText, trimmed, reads]
  exact finiteOrZero_signed written.negative near.bounded

theorem number_of_unwritten (unwritten : ∀ written : Numeral.Written, written.chars ≠ core) :
    (Value.string text).number = 0 := by
  rw [number, numberOfText, trimmed]
  cases reads : Numeral.ofChars? core with
  | none => rfl
  | some numeral =>
      cases numeral with
      | decimal d =>
          obtain ⟨written, chars, _⟩ := (Numeral.ofChars?_eq_decimal_iff core d).mp reads
          exact absurd chars (unwritten written)
      | infinite negative =>
          exact (finiteOrZero_signed negative le_rfl).trans (if_neg (lt_irrefl _))
      | undefined => decide +kernel

theorem number_eq_iff_counts (x : Float) : (Value.string text).number = x ↔ Counts core x := by
  constructor
  · rintro rfl
    by_cases written : ∃ written : Numeral.Written, written.chars = core
    · obtain ⟨written, chars⟩ := written
      have near := written.decimal.magnitude_nearest
      rw [written.decimal_size] at near
      rw [number_of_written trimmed chars, ← chars]
      split
      · rename_i finite
        exact .finite written _ near finite
      · rename_i beyond
        obtain vast : written.decimal.magnitude = infinite :=
          Nat.le_antisymm near.bounded (Nat.le_of_not_lt beyond)
        exact .overflow written (vast ▸ near)
    · have unwritten := not_exists.mp written
      rw [number_of_unwritten trimmed unwritten]
      exact .unwritten unwritten
  · intro counts
    -- The magnitude that the reader finds is the nearest one, and there is only one of those.
    have found : ∀ (written : Numeral.Written) (b : Nat), Nearest written.size b →
        written.decimal.magnitude = b := by
      intro written b near
      have nearFound := written.decimal.magnitude_nearest
      rw [written.decimal_size] at nearFound
      exact nearFound.unique near
    cases counts with
    | finite written b near finite =>
        rw [number_of_written trimmed rfl, found written b near, if_pos finite]
    | overflow written near =>
        rw [number_of_written trimmed rfl, found written infinite near, if_neg (lt_irrefl _)]
    | unwritten unwritten => exact number_of_unwritten trimmed unwritten

end Texts

/-- A text counts as what is left of it without the blanks at its ends, as a number that is written or as zero;
and every value, as well as every argument of a block, counts as a finite number. -/
theorem number_counts :
    (∀ text : String, ∃ core, (∀ other, Text.Trimmed text.toList other ↔ other = core) ∧
      ∀ x, (Value.string text).number = x ↔ Counts core x) ∧
    (∀ value : Value, isFinite value.number = true) ∧
    ∀ (block : Block) (name : String), isFinite (block.number name) = true := by
  refine ⟨?_, isFinite_number, ?_⟩
  · intro text
    refine ⟨Text.trim text.toList, ?_, number_eq_iff_counts rfl⟩
    intro other
    constructor
    · intro trimmed
      exact trimmed.trim_eq.symm
    · rintro rfl
      exact Text.trimmed_trim text.toList
  · intro block name
    rw [Block.number]
    split
    · exact isFinite_number _
    · exact isFinite_zero

/-- Halfway between two doubles the even one counts, and what vanishes keeps its sign. -/
example : (Value.string "\t9007199254740993 ").number = signed false 0x4340000000000000 ∧
    (Value.string "-1e-400").number = signed true 0 := by decide +kernel

end Value

end SpriteStage
