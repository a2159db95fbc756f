/-
Module: SpriteStage.Proofs.Json.Grammar
Purpose: How values are written, told without the scanner. A written number is a sign, digits, perhaps a
  fraction and perhaps an exponent; a written text is a list of pieces between quotes. Values are
  written one after another with commas and colons between them and with blanks in every place
  between two tokens. Each relation connects a text with what it begins with and with what is left of
  the text behind that.
Main exports: Blanks, WrittenNumber, Pieces.Written, Node.Written, Items.Written, Members.Written,
  Node.WrittenAlone
-/
import SpriteStage.Json.Scan

namespace SpriteStage.Json

/-! ## Blanks -/

/-- The bytes that may stand between tokens. -/
def isBlank (b : UInt8) : Bool :=
  b = ascii ' ' || b = ascii '\t' || b = ascii '\n' || b = ascii '\r'

/-- A text that begins with blanks, and what is left of it. -/
inductive Blanks : List UInt8 → List UInt8 → Prop where
  | none (rest : List UInt8) : Blanks rest rest
  | more {b : UInt8} {bytes rest : List UInt8} :
      isBlank b = true → Blanks bytes rest → Blanks (b :: bytes) rest

/-! ## Numbers -/

/-- Whether a byte is a decimal digit. -/
def isDigit (b : UInt8) : Bool := (decimalDigit? b).isSome

/-- The number that digits write behind others. -/
def digitsValue (before : Nat) (digits : List UInt8) : Nat :=
  digits.foldl (fun n b => 10 * n + (b.toNat - 48)) before

/-- An exponent as it is written: a mark, perhaps a sign, and digits. -/
structure WrittenExponent where
  mark : UInt8
  sign : List UInt8
  digits : List UInt8
  marks : mark = ascii 'e' ∨ mark = ascii 'E'
  signs : sign = [] ∨ sign = [ascii '+'] ∨ sign = [ascii '-']
  some_digit : digits ≠ []
  all_digits : ∀ b ∈ digits, isDigit b = true

/-- A number as it is written: a zero or digits of which the first one is no zero, behind them perhaps a point
and more digits, and then perhaps an exponent. There is a point if there are digits behind it. -/
structure WrittenNumber where
  negative : Bool
  whole : List UInt8
  fraction : List UInt8
  exponent : Option WrittenExponent
  whole_digits : ∀ b ∈ whole, isDigit b = true
  leading : whole = [ascii '0'] ∨ ∃ first rest, whole = first :: rest ∧ first ≠ ascii '0'
  fraction_digits : ∀ b ∈ fraction, isDigit b = true

namespace WrittenExponent

def bytes (written : WrittenExponent) : List UInt8 :=
  written.mark :: (written.sign ++ written.digits)

def value (written : WrittenExponent) : Int :=
  let digits : Int := digitsValue 0 written.digits
  if written.sign = [ascii '-'] then -digits else digits

end WrittenExponent

/-- The bytes of an exponent, if there is one. -/
def exponentBytes (exponent : Option WrittenExponent) : List UInt8 :=
  exponent.elim [] WrittenExponent.bytes

/-- The point and the digits behind it, if there are any. -/
def fractionBytes (digits : List UInt8) : List UInt8 :=
  if digits = [] then [] else ascii '.' :: digits

namespace WrittenNumber

/-- Everything behind the sign. -/
def unsignedBytes (written : WrittenNumber) : List UInt8 :=
  written.whole ++ (fractionBytes written.fraction ++ exponentBytes written.exponent)

def bytes (written : WrittenNumber) : List UInt8 :=
  if written.negative then ascii '-' :: written.unsignedBytes else written.unsignedBytes

/-- The number that is written, and whether it is written without a point and an exponent. -/
def literal (written : WrittenNumber) : Literal :=
  { value :=
      { negative := written.negative
        coefficient := digitsValue (digitsValue 0 written.whole) written.fraction
        exponent := written.exponent.elim 0 WrittenExponent.value - written.fraction.length }
    whole := written.fraction.isEmpty && written.exponent.isNone }

end WrittenNumber

/-! ## Texts -/

/-- A text that begins with pieces of a text between quotes, and what is left of it. -/
inductive Pieces.Written : List UInt8 → List Piece → List UInt8 → Prop where
  | none (rest : List UInt8) : Pieces.Written rest [] rest
  | plain {b : UInt8} {bytes rest : List UInt8} {pieces : List Piece} :
      ¬b < 32 → b ≠ ascii '"' → b ≠ ascii '\\' → Pieces.Written bytes pieces rest →
        Pieces.Written (b :: bytes) (.plain b :: pieces) rest
  | escaped {letter byte : UInt8} {bytes rest : List UInt8} {pieces : List Piece} :
      shortEscape? letter = some byte → Pieces.Written bytes pieces rest →
        Pieces.Written (ascii '\\' :: letter :: bytes) (.escaped byte :: pieces) rest
  | unit {a b c d : UInt8} {code : Nat} {bytes rest : List UInt8} {pieces : List Piece} :
      hexNumber? [a, b, c, d] = some code → Pieces.Written bytes pieces rest →
        Pieces.Written (ascii '\\' :: ascii 'u' :: a :: b :: c :: d :: bytes) (.unit code :: pieces) rest

/-- A text that begins with a text between quotes, and what is left of it. -/
inductive Text.Written : List UInt8 → Text → List UInt8 → Prop where
  | quoted {bytes rest : List UInt8} {pieces : List Piece} :
      Pieces.Written bytes pieces (ascii '"' :: rest) →
        Text.Written (ascii '"' :: bytes) ⟨pieces, none⟩ rest

/-! ## Values -/

mutual

/-- A text that begins with a value, and what is left of it. -/
inductive Node.Written : List UInt8 → Node → List UInt8 → Prop where
  | null (rest : List UInt8) :
      Node.Written (ascii 'n' :: ascii 'u' :: ascii 'l' :: ascii 'l' :: rest) .null rest
  | true (rest : List UInt8) :
      Node.Written (ascii 't' :: ascii 'r' :: ascii 'u' :: ascii 'e' :: rest) (.bool true) rest
  | false (rest : List UInt8) :
      Node.Written (ascii 'f' :: ascii 'a' :: ascii 'l' :: ascii 's' :: ascii 'e' :: rest)
        (.bool false) rest
  | number (written : WrittenNumber) (rest : List UInt8) :
      Node.Written (written.bytes ++ rest) (.number written.literal) rest
  | text {bytes rest : List UInt8} {text : Text} :
      Text.Written bytes text rest → Node.Written bytes (.text text) rest
  | emptyArray {bytes rest : List UInt8} :
      Blanks bytes (ascii ']' :: rest) → Node.Written (ascii '[' :: bytes) (.array .done) rest
  | array {bytes first behind rest : List UInt8} {value : Node} {items : Items} :
      Blanks bytes first → Node.Written first value behind → Items.Written behind items rest →
        Node.Written (ascii '[' :: bytes) (.array (.item value items)) rest
  | emptyObject {bytes rest : List UInt8} :
      Blanks bytes (125 :: rest) → Node.Written (123 :: bytes) (.object .done) rest
  | object {bytes first colon before start behind rest : List UInt8} {key : Text} {value : Node}
      {members : Members} :
      Blanks bytes first → Text.Written first key colon → Blanks colon (ascii ':' :: before) →
        Blanks before start → Node.Written start value behind →
          Members.Written behind members rest →
            Node.Written (123 :: bytes) (.object (.member key value members)) rest

/-- A text that goes on behind an item with the items that are left of an array, up to the closing bracket. -/
inductive Items.Written : List UInt8 → Items → List UInt8 → Prop where
  | close {bytes rest : List UInt8} :
      Blanks bytes (ascii ']' :: rest) → Items.Written bytes .done rest
  | item {bytes before start behind rest : List UInt8} {value : Node} {items : Items} :
      Blanks bytes (ascii ',' :: before) → Blanks before start → Node.Written start value behind →
        Items.Written behind items rest → Items.Written bytes (.item value items) rest

/-- A text that goes on behind a member with the members that are left of an object, up to the closing
brace. -/
inductive Members.Written : List UInt8 → Members → List UInt8 → Prop where
  | close {bytes rest : List UInt8} :
      Blanks bytes (125 :: rest) → Members.Written bytes .done rest
  | member {bytes next first colon before start behind rest : List UInt8} {key : Text}
      {value : Node} {members : Members} :
      Blanks bytes (ascii ',' :: next) → Blanks next first → Text.Written first key colon →
        Blanks colon (ascii ':' :: before) → Blanks before start → Node.Written start value behind →
          Members.Written behind members rest →
            Members.Written bytes (.member key value members) rest

end

/-- A text that holds one value, with nothing but blanks around it. -/
inductive Node.WrittenAlone : List UInt8 → Node → Prop where
  | alone {bytes start behind : List UInt8} {node : Node} :
      Blanks bytes start → Node.Written start node behind → Blanks behind [] →
        Node.WrittenAlone bytes node

end SpriteStage.Json
