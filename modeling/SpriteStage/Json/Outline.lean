/-
Module: SpriteStage.Json.Outline
Purpose: The outline of a JSON text. An outline is what a text says up to the first place where it
  stops being JSON. It is as lenient as JSON allows: numbers are of any size, texts are kept as they
  were spelled, and nesting has no limit. Who reads an outline decides how strict to be, and because
  an outline keeps the order of the text, the first problem in text order is the one that is found.
  A part that could not be read to its end stands in the outline with its fault, and nothing that is
  written behind a fault is part of the outline.
Main exports: Fault, Text, Literal, Node, Items, Members, Document
-/
import SpriteStage.Decimal.Basic

namespace SpriteStage.Json

/-- Why a text cannot be read. -/
inductive Fault where
  /-- The text ends where more is needed. -/
  | ended
  /-- The text is not JSON. -/
  | malformed
  /-- The text is JSON of the wrong shape. -/
  | mistyped
  /-- There is a file, but it has no contents to read. -/
  | unreadable
deriving DecidableEq, Repr

/-- A piece of a text between quotes. -/
inductive Piece where
  /-- A byte that stands for itself. -/
  | plain (byte : UInt8)
  /-- The byte that a short escape stands for. -/
  | escaped (byte : UInt8)
  /-- A code unit written with four hexadecimal digits. -/
  | unit (code : Nat)
deriving DecidableEq, Repr

/-- A text between quotes, and the fault that cut it short, if one did. -/
structure Text where
  pieces : List Piece
  fault : Option Fault
deriving DecidableEq, Repr

/-- A number as it is written: `coefficient * 10 ^ exponent`, and whether it is written without a
point and an exponent. -/
structure Literal where
  value : Decimal
  whole : Bool
deriving DecidableEq, Repr

mutual

/-- A value, as far as it could be read. -/
inductive Node where
  | null
  | bool (value : Bool)
  | number (literal : Literal)
  /-- A number that the end of the text cut short. -/
  | cutNumber
  | text (text : Text)
  | array (items : Items)
  | object (members : Members)
  /-- A place where no value could be read. -/
  | broken (fault : Fault)

/-- What an array holds, as far as it could be read. -/
inductive Items where
  | done
  /-- Neither a comma nor the closing bracket follows. -/
  | cut (fault : Fault)
  | item (value : Node) (rest : Items)

/-- What an object holds, as far as it could be read. -/
inductive Members where
  | done
  /-- Neither a member nor the closing brace follows. -/
  | cut (fault : Fault)
  | member (key : Text) (value : Node) (rest : Members)

end

/-- Puts items in front, the last of them given first. -/
def Items.prepend : List Node → Items → Items
  | [], items => items
  | value :: before, items => Items.prepend before (.item value items)

/-- Puts members in front, the last of them given first. -/
def Members.prepend : List (Text × Node) → Members → Members
  | [], members => members
  | (key, value) :: before, members => Members.prepend before (.member key value members)

/-- A whole text: one value, and whether anything but blanks follows it. -/
structure Document where
  node : Node
  trailing : Bool

end SpriteStage.Json
