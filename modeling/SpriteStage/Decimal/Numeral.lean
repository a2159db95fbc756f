/-
Module: SpriteStage.Decimal.Numeral
Purpose: Numbers as people write them. A numeral is an optional sign, digits with an optional point
  (at least one digit on either side of it), and an optional exponent. The names `inf`, `infinity`
  and `nan` are numerals too, in letters of either case. Only ASCII digits count, and nothing may
  stand around the numeral.
Main exports: Numeral, Numeral.ofChars?, Numeral.toFloat
-/
import SpriteStage.Decimal.Basic

namespace SpriteStage

/-- What a numeral stands for. -/
inductive Numeral where
  | decimal (value : Decimal)
  | infinite (negative : Bool)
  | undefined
deriving DecidableEq, Repr

namespace Numeral

/-- The sign in front, and what follows it. No sign counts as plus. -/
def takeSign : List Char → Bool × List Char
  | '-' :: rest => (true, rest)
  | '+' :: rest => (false, rest)
  | rest => (false, rest)

/-- The exponent that the text after the digits writes: nothing at all, or a mark, a sign and
digits. -/
def exponent? : List Char → Option Int
  | [] => some 0
  | mark :: rest =>
    if mark = 'e' ∨ mark = 'E' then
      let (negative, digits) := takeSign rest
      if digits.isEmpty || !digits.all Char.isDigit then none
      else
        let n := Decimal.ofDigits 0 digits
        some (if negative then -(n : Int) else n)
    else none

/-- The digits after a point, if there is one, and what follows them. -/
def takeFraction : List Char → List Char × List Char
  | '.' :: rest => (rest.takeWhile Char.isDigit, rest.dropWhile Char.isDigit)
  | rest => ([], rest)

/-- Reads an unsigned number. -/
def unsigned? (negative : Bool) (text : List Char) : Option Decimal :=
  let whole := text.takeWhile Char.isDigit
  let (fraction, rest) := takeFraction (text.dropWhile Char.isDigit)
  if whole.isEmpty && fraction.isEmpty then none
  else
    (exponent? rest).map fun e =>
      ⟨negative, Decimal.ofDigits (Decimal.ofDigits 0 whole) fraction, e - fraction.length⟩

/-- Reads a numeral that is the whole text. -/
def ofChars? (text : List Char) : Option Numeral :=
  let (negative, rest) := takeSign text
  let name := rest.map Char.toLower
  if name = "inf".toList ∨ name = "infinity".toList then some (.infinite negative)
  else if name = "nan".toList then some .undefined
  else (unsigned? negative rest).map .decimal

/-- The double that a numeral stands for. -/
def toFloat : Numeral → Float
  | .decimal value => value.toFloat
  | .infinite negative => Binary64.signed negative Binary64.infinite
  | .undefined => Binary64.signed false Binary64.undefined

end Numeral

end SpriteStage
