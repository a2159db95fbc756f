/-
Module: SpriteStage.Proofs.Decimal.Numerals
Purpose: How decimal numbers are written, told without the reader: a sign or none, digits, perhaps a point
  with digits behind it, and perhaps an exponent. One digit has to stand before or behind the point. The
  reader takes exactly these texts for decimal numbers, and the number that it finds has the size that the
  digits and the exponent denote.
Main exports: Numeral.Written, Written.size, ofChars?_eq_decimal_iff, Written.decimal_size
-/
import SpriteStage.Decimal.Numeral
import SpriteStage.Proofs.Decimal.Rounding
import Mathlib.Data.List.TakeWhile
import Mathlib.Data.Nat.Digits.Defs
import Mathlib.Tactic.FieldSimp

namespace SpriteStage.Numeral

/-! ## The grammar -/

/-- The number that digits denote: the last one counts ones, the one before it tens, and so on. -/
def denoted (digits : List Char) : Nat := Nat.ofDigits 10 (digits.map Decimal.digit).reverse

/-- What may stand in front of digits. -/
inductive Sign where
  | none
  | plus
  | minus

namespace Sign

def chars : Sign → List Char
  | none => []
  | plus => ['+']
  | minus => ['-']

def negative : Sign → Bool
  | none => false
  | plus => false
  | minus => true

end Sign

/-- An exponent as it is written: a mark, a sign or none, and digits. -/
structure WrittenExponent where
  mark : Char
  sign : Sign
  digits : List Char
  marks : mark = 'e' ∨ mark = 'E'
  some_digit : digits ≠ []
  all_digits : ∀ c ∈ digits, c.isDigit = true

namespace WrittenExponent

def chars (written : WrittenExponent) : List Char :=
  written.mark :: (written.sign.chars ++ written.digits)

def value (written : WrittenExponent) : Int :=
  if written.sign.negative then -(denoted written.digits : Int) else denoted written.digits

end WrittenExponent

/-- The characters of an exponent, if there is one. -/
def exponentChars (exponent : Option WrittenExponent) : List Char :=
  exponent.elim [] WrittenExponent.chars

/-- The power of ten that an exponent stands for; the zeroth if there is none. -/
def exponentValue (exponent : Option WrittenExponent) : Int :=
  exponent.elim 0 WrittenExponent.value

/-- A number without a sign as it is written. The fraction is what stands behind a point, if there is a
point. -/
structure WrittenUnsigned where
  whole : List Char
  fraction : Option (List Char)
  exponent : Option WrittenExponent
  whole_digits : ∀ c ∈ whole, c.isDigit = true
  fraction_digits : ∀ digits ∈ fraction, ∀ c ∈ digits, c.isDigit = true
  some_digit : whole ≠ [] ∨ ∃ digits ∈ fraction, digits ≠ []

/-- The point and the digits behind it, if there is a point. -/
def fractionChars (fraction : Option (List Char)) : List Char :=
  fraction.elim [] fun digits => '.' :: digits

namespace WrittenUnsigned

def chars (written : WrittenUnsigned) : List Char :=
  written.whole ++ (fractionChars written.fraction ++ exponentChars written.exponent)

/-- The digits behind the point; none if there is no point. -/
def places (written : WrittenUnsigned) : List Char := written.fraction.getD []

/-- The number that is written. -/
def size (written : WrittenUnsigned) : ℚ :=
  (denoted written.whole + denoted written.places / 10 ^ written.places.length) *
    10 ^ exponentValue written.exponent

end WrittenUnsigned

/-- A decimal number as it is written. -/
structure Written where
  sign : Sign
  unsigned : WrittenUnsigned

namespace Written

def chars (written : Written) : List Char := written.sign.chars ++ written.unsigned.chars

def negative (written : Written) : Bool := written.sign.negative

/-- The number without its sign. -/
def size (written : Written) : ℚ := written.unsigned.size

/-- The number as the reader keeps it: all digits as one coefficient, and the power of ten of the last one. -/
def decimal (written : Written) : Decimal where
  negative := written.negative
  coefficient := denoted (written.unsigned.whole ++ written.unsigned.places)
  exponent := exponentValue written.unsigned.exponent - written.unsigned.places.length

end Written

/-! ## What digits denote -/

theorem denoted_append (first second : List Char) :
    denoted (first ++ second) = denoted first * tenTo second.length + denoted second := by
  rw [denoted, List.map_append, List.reverse_append, Nat.ofDigits_append, List.length_reverse,
    List.length_map, Nat.add_comm, Nat.mul_comm]
  rfl

theorem denoted_cons (c : Char) (digits : List Char) :
    denoted (c :: digits) = Decimal.digit c * tenTo digits.length + denoted digits := by
  have first : denoted [c] = Decimal.digit c := Nat.ofDigits_singleton
  rw [← first]
  exact denoted_append [c] digits

/-- The reader counts the digits from the first one on. -/
theorem ofDigits_eq (before : Nat) (digits : List Char) :
    Decimal.ofDigits before digits = before * tenTo digits.length + denoted digits := by
  induction digits generalizing before with
  | nil => simp [Decimal.ofDigits, denoted]
  | cons c digits counted =>
      have step : Decimal.ofDigits before (c :: digits) =
          Decimal.ofDigits (10 * before + Decimal.digit c) digits := List.foldl_cons
      rw [step, counted, denoted_cons, List.length_cons, tenTo_succ]
      ring

/-- The digits on both sides of the point, counted through. -/
theorem ofDigits_through (whole places : List Char) :
    Decimal.ofDigits (Decimal.ofDigits 0 whole) places = denoted (whole ++ places) := by
  rw [ofDigits_eq, ofDigits_eq, Nat.zero_mul, Nat.zero_add, denoted_append]

/-- The number that the reader keeps is the one that is written. -/
theorem Written.decimal_size (written : Written) : written.decimal.size = written.size := by
  have ten : (10 : ℚ) ≠ 0 := by norm_num
  rw [Decimal.size, Written.size, WrittenUnsigned.size, Written.decimal, denoted_append,
    zpow_sub₀ ten, zpow_natCast, Nat.cast_add, Nat.cast_mul, cast_tenTo]
  field_simp

/-! ## From the grammar to the reader -/

/-- Texts that no digit begins. -/
def Undigited (text : List Char) : Prop := ∀ c ∈ text.head?, c.isDigit = false

section Fronts

variable {p : Char → Bool} {front rest : List Char} (all : ∀ c ∈ front, p c = true)
  (ends : ∀ c ∈ rest.head?, p c = false)
include all ends

theorem takeWhile_front : (front ++ rest).takeWhile p = front := by
  rw [List.takeWhile_append_of_pos all]
  cases rest with
  | nil => simp
  | cons c rest => simp [ends c rfl]

theorem dropWhile_front : (front ++ rest).dropWhile p = rest := by
  rw [List.dropWhile_append_of_pos all]
  cases rest with
  | nil => simp
  | cons c rest => simp [ends c rfl]

end Fronts

theorem exponentChars_undigited (exponent : Option WrittenExponent) :
    Undigited (exponentChars exponent) := by
  cases exponent with
  | none => nofun
  | some written =>
      rintro c ⟨⟩
      rcases written.marks with mark | mark <;> rw [mark] <;> rfl

theorem tail_undigited (fraction : Option (List Char)) (exponent : Option WrittenExponent) :
    Undigited (fractionChars fraction ++ exponentChars exponent) := by
  cases fraction with
  | none => exact exponentChars_undigited exponent
  | some digits =>
      rintro c ⟨⟩
      rfl

/-- The sign in front of a text that begins with none. -/
theorem takeSign_chars (sign : Sign) {rest : List Char}
    (unsigned : ∀ c ∈ rest.head?, c ≠ '-' ∧ c ≠ '+') :
    takeSign (sign.chars ++ rest) = (sign.negative, rest) := by
  cases sign with
  | none =>
      cases rest with
      | nil => rfl
      | cons c rest =>
          obtain ⟨minus, plus⟩ := unsigned c rfl
          simp [takeSign, Sign.chars, Sign.negative, minus, plus]
  | plus => rfl
  | minus => rfl

theorem isDigit_unsigned {c : Char} (digit : c.isDigit = true) : c ≠ '-' ∧ c ≠ '+' := by
  constructor
  · rintro rfl
    exact absurd digit (by decide)
  · rintro rfl
    exact absurd digit (by decide)

theorem exponent?_chars (exponent : Option WrittenExponent) :
    exponent? (exponentChars exponent) = some (exponentValue exponent) := by
  cases exponent with
  | none => rfl
  | some written =>
      obtain ⟨mark, sign, digits, marks, some_digit, all⟩ := written
      have unsigned : ∀ c ∈ digits.head?, c ≠ '-' ∧ c ≠ '+' := fun c first =>
        isDigit_unsigned (all c (List.mem_of_mem_head? first))
      have digitsOnly : (digits.isEmpty || !digits.all Char.isDigit) = false := by
        simpa [some_digit] using all
      rw [exponentChars, Option.elim_some, WrittenExponent.chars, exponent?, if_pos marks,
        takeSign_chars sign unsigned]
      dsimp only
      rw [digitsOnly, ofDigits_eq, Nat.zero_mul, Nat.zero_add]
      rfl

theorem takeFraction_chars (fraction : Option (List Char)) {exponent : Option WrittenExponent}
    (all : ∀ digits ∈ fraction, ∀ c ∈ digits, c.isDigit = true) :
    takeFraction (fractionChars fraction ++ exponentChars exponent) =
      (fraction.getD [], exponentChars exponent) := by
  have ends := exponentChars_undigited exponent
  cases fraction with
  | none =>
      cases exponent with
      | none => rfl
      | some written =>
          have noPoint : written.mark ≠ '.' := by
            rcases written.marks with mark | mark <;> rw [mark] <;> decide
          simp [takeFraction, fractionChars, exponentChars, WrittenExponent.chars, noPoint]
  | some digits =>
      have digits_all := all digits rfl
      exact Prod.ext (takeWhile_front digits_all ends) (dropWhile_front digits_all ends)

theorem unsigned?_chars (negative : Bool) (written : WrittenUnsigned) :
    unsigned? negative written.chars =
      some ⟨negative, denoted (written.whole ++ written.places),
        exponentValue written.exponent - written.places.length⟩ := by
  obtain ⟨whole, fraction, exponent, whole_digits, fraction_digits, some_digit⟩ := written
  have ends := tail_undigited fraction exponent
  have notEmpty : (whole.isEmpty && (fraction.getD []).isEmpty) = false := by
    rcases some_digit with before | ⟨digits, ⟨⟩, behind⟩
    · simp [before]
    · simp [behind]
  rw [unsigned?, WrittenUnsigned.chars]
  dsimp only
  rw [takeWhile_front whole_digits ends, dropWhile_front whole_digits ends,
    takeFraction_chars fraction fraction_digits]
  dsimp only
  rw [notEmpty, exponent?_chars, ofDigits_through]
  rfl

/-! ## From the reader to the grammar -/

/-- The sign that the reader takes stands in front of the text. -/
theorem chars_of_takeSign (text : List Char) :
    ∃ sign : Sign, (takeSign text).1 = sign.negative ∧ text = sign.chars ++ (takeSign text).2 := by
  unfold takeSign
  split
  · exact ⟨.minus, rfl, rfl⟩
  · exact ⟨.plus, rfl, rfl⟩
  · exact ⟨.none, rfl, rfl⟩

/-- What the reader takes for an exponent is written as one. -/
theorem chars_of_exponent? {text : List Char} (reads : (exponent? text).isSome = true) :
    ∃ exponent, exponentChars exponent = text := by
  cases text with
  | nil => exact ⟨none, rfl⟩
  | cons mark rest =>
      rw [exponent?] at reads
      split at reads
      · rename_i marks
        obtain ⟨sign, _, behind⟩ := chars_of_takeSign rest
        dsimp only at reads
        split at reads
        · cases reads
        · rename_i digitsOnly
          obtain ⟨some_digit, all⟩ : (takeSign rest).2 ≠ [] ∧
              ∀ c ∈ (takeSign rest).2, c.isDigit = true := by simpa using digitsOnly
          exact ⟨some ⟨mark, sign, (takeSign rest).2, marks, some_digit, all⟩,
            congrArg (mark :: ·) behind.symm⟩
      · cases reads

/-- The digits that the reader takes for a fraction stand behind a point. -/
theorem chars_of_takeFraction (text : List Char) :
    ∃ fraction : Option (List Char), (∀ digits ∈ fraction, ∀ c ∈ digits, c.isDigit = true) ∧
      (takeFraction text).1 = fraction.getD [] ∧
        text = fractionChars fraction ++ (takeFraction text).2 := by
  unfold takeFraction
  split
  · rename_i rest
    refine ⟨some (rest.takeWhile Char.isDigit), ?_, rfl, ?_⟩
    · rintro digits ⟨⟩ c member
      exact List.mem_takeWhile_imp member
    · exact congrArg ('.' :: ·) List.takeWhile_append_dropWhile.symm
  · exact ⟨none, nofun, rfl, rfl⟩

/-- What the reader takes for an unsigned number is written as one. -/
theorem chars_of_unsigned? {negative : Bool} {text : List Char}
    (reads : (unsigned? negative text).isSome = true) :
    ∃ written : WrittenUnsigned, written.chars = text := by
  rw [unsigned?] at reads
  dsimp only at reads
  split at reads
  · cases reads
  · rename_i someDigit
    obtain ⟨fraction, fraction_digits, digits, behind⟩ :=
      chars_of_takeFraction (text.dropWhile Char.isDigit)
    rw [Option.isSome_map] at reads
    obtain ⟨exponent, ends⟩ := chars_of_exponent? reads
    have some_digit : text.takeWhile Char.isDigit ≠ [] ∨ ∃ digits ∈ fraction, digits ≠ [] := by
      rw [digits] at someDigit
      cases fraction with
      | none => exact Or.inl (by simpa using someDigit)
      | some places => simpa [or_iff_not_imp_left] using someDigit
    refine ⟨⟨text.takeWhile Char.isDigit, fraction, exponent,
      fun c member => List.mem_takeWhile_imp member, fraction_digits, some_digit⟩, ?_⟩
    rw [WrittenUnsigned.chars]
    dsimp only
    rw [ends, ← behind, List.takeWhile_append_dropWhile]

/-! ## Numerals -/

/-- A number begins with a digit or a point. -/
theorem WrittenUnsigned.begins (written : WrittenUnsigned) :
    ∃ first rest, written.chars = first :: rest ∧ (first.isDigit = true ∨ first = '.') := by
  obtain ⟨whole, fraction, exponent, whole_digits, fraction_digits, some_digit⟩ := written
  cases whole with
  | cons first rest => exact ⟨first, _, rfl, Or.inl (whole_digits first List.mem_cons_self)⟩
  | nil =>
      rcases some_digit with nothing | ⟨digits, ⟨⟩, _⟩
      · exact absurd rfl nothing
      · exact ⟨'.', _, rfl, Or.inr rfl⟩

theorem toLower_of_isDigit {c : Char} (digit : c.isDigit = true) : c.toLower = c := by
  simp only [Char.isDigit, Bool.and_eq_true, decide_eq_true_eq] at digit
  apply dif_neg
  intro letter
  exact absurd (UInt32.le_trans letter.1 digit.2) (by decide)

/-- A number is none of the names. -/
theorem WrittenUnsigned.nameless (written : WrittenUnsigned) :
    ¬(written.chars.map Char.toLower = "inf".toList ∨
      written.chars.map Char.toLower = "infinity".toList) ∧
        written.chars.map Char.toLower ≠ "nan".toList := by
  obtain ⟨first, rest, chars, begins⟩ := written.begins
  have noLetter : first.toLower ≠ 'i' ∧ first.toLower ≠ 'n' := by
    rcases begins with digit | rfl
    · rw [toLower_of_isDigit digit]
      constructor
      · rintro rfl
        exact absurd digit (by decide)
      · rintro rfl
        exact absurd digit (by decide)
    · decide
  simp [chars, noLetter]

/-- The reader takes a text for a decimal number if it is written as one, and finds the number that is
written. -/
theorem ofChars?_eq_decimal_iff (text : List Char) (d : Decimal) :
    ofChars? text = some (.decimal d) ↔
      ∃ written : Written, written.chars = text ∧ written.decimal = d := by
  constructor
  · intro reads
    obtain ⟨sign, negative, behind⟩ := chars_of_takeSign text
    rw [ofChars?] at reads
    dsimp only at reads
    split at reads
    · cases reads
    split at reads
    · cases reads
    obtain ⟨found, reads, ⟨⟩⟩ := Option.map_eq_some_iff.mp reads
    obtain ⟨unsigned, chars⟩ := chars_of_unsigned? (Option.isSome_of_eq_some reads)
    refine ⟨⟨sign, unsigned⟩, ?_, ?_⟩
    · rw [Written.chars, chars, ← behind]
    · rw [← chars, negative, unsigned?_chars] at reads
      exact Option.some.inj reads
  · rintro ⟨⟨sign, unsigned⟩, rfl, rfl⟩
    have signless : ∀ c ∈ unsigned.chars.head?, c ≠ '-' ∧ c ≠ '+' := by
      obtain ⟨first, rest, chars, digit | rfl⟩ := unsigned.begins
      · rw [chars]
        rintro c ⟨⟩
        exact isDigit_unsigned digit
      · rw [chars]
        rintro c ⟨⟩
        decide
    obtain ⟨notInfinite, notUndefined⟩ := unsigned.nameless
    rw [ofChars?, Written.chars, takeSign_chars sign signless]
    dsimp only
    rw [if_neg notInfinite, if_neg notUndefined, unsigned?_chars]
    rfl

end SpriteStage.Numeral
