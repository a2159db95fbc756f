/-
Module: SpriteStage.Value
Purpose: Argument values. An argument of a block is a truth value, a 64-bit integer, a double, a
  text or nothing. Blocks look at an argument in one of two ways, as a number or as a text, and both
  views are total: whatever does not read as a finite number counts as zero.
Main exports: Value, Value.number, Value.text
-/
import SpriteStage.Decimal.Numeral
import SpriteStage.Decimal.Places
import SpriteStage.Text.Blank

namespace SpriteStage

/-- The value of one argument. -/
inductive Value where
  | bool (value : Bool)
  | integer (value : Int64)
  | float (value : Float)
  | string (value : String)
  | null
deriving DecidableEq, Repr

namespace Value

/-- The double itself if it is finite, else zero. -/
def finiteOrZero (x : Float) : Float :=
  if Binary64.isFinite x then x else 0

/-- The number that a text writes, blanks around it apart; zero if it writes none. -/
def numberOfText (text : String) : Float :=
  match Numeral.ofChars? (Text.trim text.toList) with
  | some numeral => finiteOrZero numeral.toFloat
  | none => 0

/-- The value as a number (`to_f64`). -/
def number : Value → Float
  | .bool value => if value then 1 else 0
  | .integer value => Binary64.ofInt value.toInt
  | .float value => finiteOrZero value
  | .string value => numberOfText value
  | .null => 0

/-- The whole number that a double is, if it is one below `2 ^ 53` in size. -/
def smallWhole? (x : Float) : Option Int :=
  let units := Binary64.units (Binary64.magnitude x)
  let whole := units / Binary64.unitsPerOne
  if Binary64.isFinite x && units % Binary64.unitsPerOne = 0 && whole < 0x20000000000000 then
    some (if Binary64.isNegative x then -(whole : Int) else whole)
  else none

/-- The text of a double: small whole numbers as integers, all others in full. -/
def textOfFloat (x : Float) : String :=
  match smallWhole? x with
  | some whole => toString whole
  | none => Decimal.inFull x

/-- The value as a text, as it is displayed. -/
def text : Value → String
  | .bool value => if value then "true" else "false"
  | .integer value => toString value.toInt
  | .float value => textOfFloat value
  | .string value => value
  | .null => ""

end Value

end SpriteStage
