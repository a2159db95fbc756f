/-
Module: SpriteStage.Json.Write
Purpose: Sprites on one line. The JSON record of a sprite on a single line. Doubles are written with
  the fewest digits that read back, always with a point or an exponent, and those that are not
  finite as null.
Main exports: writeText, writeFloat, Sprite.toLine
-/
import SpriteStage.Decimal.Shortest
import SpriteStage.Sprite

namespace SpriteStage.Json

/-- A code unit in four lower-case hexadecimal digits. -/
def writeUnit (code : Nat) : String :=
  let digits := Nat.toDigits 16 code
  "\\u" ++ String.ofList (List.replicate (4 - digits.length) '0' ++ digits)

/-- One character of a text between quotes. -/
def writeChar (c : Char) : String :=
  if c = '"' then "\\\""
  else if c = '\\' then "\\\\"
  else if c = '\n' then "\\n"
  else if c = '\r' then "\\r"
  else if c = '\t' then "\\t"
  else if c.toNat = 8 then "\\b"
  else if c.toNat = 12 then "\\f"
  else if c.toNat < 32 then writeUnit c.toNat
  else String.singleton c

/-- A text between quotes. -/
def writeText (text : String) : String :=
  "\"" ++ String.join (text.toList.map writeChar) ++ "\""

/-- Digits with a point among them or an exponent behind them: a number from `10 ^ (-5)` up to
`10 ^ 16` is written without an exponent. -/
def writeDigits (d : Decimal.Digits) : String :=
  let digits := toString d.digits
  let front : Int := digits.length + d.place - 1074
  if 1074 ≤ d.place ∧ front ≤ 16 then d.positional ++ ".0"
  else if -5 < front ∧ front ≤ 16 then d.positional
  else
    let exponent := "e" ++ toString (front - 1)
    match digits.toList with
    | [] => exponent
    | [digit] => String.ofList [digit] ++ exponent
    | digit :: others => String.ofList (digit :: '.' :: others) ++ exponent

/-- A double. -/
def writeFloat (x : Float) : String :=
  if Binary64.isFinite x then
    let text := writeDigits (Decimal.shortest (Binary64.magnitude x))
    if Binary64.isNegative x then "-" ++ text else text
  else "null"

/-- Pieces between commas. -/
def commaSeparated (pieces : List String) : String := ",".intercalate pieces

/-- Named pieces between braces. -/
def writeObject (members : List (String × String)) : String :=
  let pieces := members.map fun member => writeText member.1 ++ ":" ++ member.2
  r"{" ++ commaSeparated pieces ++ r"}"

/-- An argument value. -/
def writeValue : Value → String
  | .bool value => if value then "true" else "false"
  | .integer value => toString value.toInt
  | .float value => writeFloat value
  | .string value => writeText value
  | .null => "null"

/-- Named values. -/
def writeArguments (arguments : Arguments) : String :=
  writeObject (arguments.entries.map fun entry => (entry.1, writeValue entry.2))

/-- A block. -/
def writeBlock (block : Block) : String :=
  writeObject
    [("id", toString block.id.number), ("type", writeText block.opcode.tag),
      ("args", writeArguments block.arguments)]

/-- The members of a pose. -/
def poseMembers (pose : Pose) : List (String × String) :=
  [("x", writeFloat pose.x), ("y", writeFloat pose.y), ("direction", writeFloat pose.direction)]

end SpriteStage.Json

namespace SpriteStage

/-- The record of a sprite on one line. -/
def Sprite.toLine (sprite : Sprite) : String :=
  Json.writeObject
    ([("id", Json.writeText sprite.id.text), ("name", Json.writeText sprite.name)]
      ++ Json.poseMembers sprite.pose
      ++ [("initial", Json.writeObject (Json.poseMembers sprite.home)),
        ("blocks", "[" ++ Json.commaSeparated (sprite.blocks.map Json.writeBlock) ++ "]"),
        ("say", Json.writeText sprite.say), ("think", Json.writeText sprite.think)])

end SpriteStage
