/-
Module: SpriteStage.Text.Quoted
Purpose: Quoted text. A text between double quotes, on one line and with every character visible:
  quotes and backslashes are escaped, the common controls have short names, and all other characters
  without a mark of their own are written as code points in hexadecimal.
Main exports: quoted
-/
import SpriteStage.Text.Markless

namespace SpriteStage.Text

/-- A code point in lower-case hexadecimal, between braces. -/
def codePoint (c : Char) : String :=
  r"\u{" ++ String.ofList (Nat.toDigits 16 c.toNat) ++ r"}"

/-- One character inside quotes. -/
def quotedChar (c : Char) : String :=
  if c = '"' then "\\\""
  else if c = '\\' then "\\\\"
  else if c = '\n' then "\\n"
  else if c = '\r' then "\\r"
  else if c = '\t' then "\\t"
  else if c.toNat = 0 then "\\0"
  else if isMarkless c then codePoint c
  else String.singleton c

/-- The text between double quotes. -/
def quoted (text : String) : String :=
  "\"" ++ String.join (text.toList.map quotedChar) ++ "\""

end SpriteStage.Text
