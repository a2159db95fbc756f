/-
Module: SpriteStage.Proofs.Json.Problems
Purpose: The first problem of a text, told without the scanner. Beside the grammar of what is written stands one of
  what goes wrong: a text breaks off where it ends too early, where it goes on with a byte that is not
  due, and where a number, a text or the nesting asks for too much. Everything in front of that place
  is in order, so each relation connects a text with the fault of the first place where it breaks off.
Main exports: Pieces.Spell, Text.Spells, Literal.Overflows, Node.Fits, NumberPrefix, Node.Stands, Lacks,
  Node.Breaks, Items.Breaks, Members.Breaks
-/
import SpriteStage.Json.Read
import SpriteStage.Proofs.Decimal.Rounding
import SpriteStage.Proofs.Json.Grammar

namespace SpriteStage.Json

/-! ## What is in order -/

/-- Pieces of a text, and the bytes that they spell. One half of a pair spells nothing; both together, the
high one first, spell one code point. -/
inductive Pieces.Spell : List Piece → List UInt8 → Prop where
  | none : Pieces.Spell [] []
  | plain (b : UInt8) {pieces : List Piece} {bytes : List UInt8} :
      Pieces.Spell pieces bytes → Pieces.Spell (.plain b :: pieces) (b :: bytes)
  | escaped (b : UInt8) {pieces : List Piece} {bytes : List UInt8} :
      Pieces.Spell pieces bytes → Pieces.Spell (.escaped b :: pieces) (b :: bytes)
  | unit {code : Nat} {pieces : List Piece} {bytes : List UInt8} :
      code < 0xD800 ∨ 0xE000 ≤ code → Pieces.Spell pieces bytes →
        Pieces.Spell (.unit code :: pieces) (encode code ++ bytes)
  | pair {high low : Nat} {pieces : List Piece} {bytes : List UInt8} :
      0xD800 ≤ high → high < 0xDC00 → 0xDC00 ≤ low → low < 0xE000 → Pieces.Spell pieces bytes →
        Pieces.Spell (.unit high :: .unit low :: pieces) (encode (pairCode high low) ++ bytes)

/-- A text that was read to its end, and whose bytes are those of a string. -/
def Text.Spells (text : Text) (string : String) : Prop :=
  text.fault = none ∧ Pieces.Spell text.pieces string.toUTF8.data.toList

/-- A number that has no double: it lies on the midpoint between the largest one and the next power of two, or
beyond it. -/
def Literal.Overflows (literal : Literal) : Prop :=
  (twoTo 1024 - twoTo 970 : ℚ) ≤ literal.value.size

mutual

/-- A value that was read to its end, with numbers that have doubles and texts that spell strings. -/
def Node.Sound : Node → Prop
  | .null | .bool _ => True
  | .number literal => ¬literal.Overflows
  | .text text => ∃ string, text.Spells string
  | .array items => items.Sound
  | .object members => members.Sound
  | .cutNumber | .broken _ => False

def Items.Sound : Items → Prop
  | .done => True
  | .cut _ => False
  | .item value rest => value.Sound ∧ rest.Sound

def Members.Sound : Members → Prop
  | .done => True
  | .cut _ => False
  | .member key value rest => (∃ name, key.Spells name) ∧ value.Sound ∧ rest.Sound

end

mutual

/-- How deep arrays and objects are nested in a value. -/
def Node.nesting : Node → Nat
  | .array items => items.nesting + 1
  | .object members => members.nesting + 1
  | .null | .bool _ | .number _ | .cutNumber | .text _ | .broken _ => 0

def Items.nesting : Items → Nat
  | .done | .cut _ => 0
  | .item value rest => max value.nesting rest.nesting

def Members.nesting : Members → Nat
  | .done | .cut _ => 0
  | .member _ value rest => max value.nesting rest.nesting

end

/-- A sound value that is nested less deep than a limit. -/
def Node.Fits (depth : Nat) (node : Node) : Prop := node.Sound ∧ node.nesting < depth

/-- Sound items that are nested less deep than a limit. -/
def Items.Fits (depth : Nat) (items : Items) : Prop := items.Sound ∧ items.nesting < depth

/-- Sound members that are nested less deep than a limit. -/
def Members.Fits (depth : Nat) (members : Members) : Prop := members.Sound ∧ members.nesting < depth

/-- Bytes that a written number begins with, at least one of them. -/
def NumberPrefix (front : List UInt8) : Prop :=
  front ≠ [] ∧ ∃ (written : WrittenNumber) (more : List UInt8), written.bytes = front ++ more

/-- Bytes behind a number that do not belong to it, because none that is longer begins with the first of them. A digit
is never one of them. -/
def Outside (front rest : List UInt8) : Prop :=
  ∀ b more, rest = b :: more → isDigit b = false ∧ ¬NumberPrefix (front ++ [b])

/-- A text that begins with a value in which nothing is wrong. If the value is a number, it is all of it. -/
structure Node.Stands (depth : Nat) (bytes : List UInt8) (node : Node) (rest : List UInt8) : Prop where
  written : Node.Written bytes node rest
  fits : node.Fits depth
  ends : ∀ front, bytes = front ++ rest → NumberPrefix front → Outside front rest

/-- A text that begins with a key, a colon and a value, in which nothing is wrong. -/
inductive Member.Stands (depth : Nat) : List UInt8 → Text → Node → List UInt8 → Prop where
  | member {bytes colon before start behind : List UInt8} {key : Text} {name : String} {value : Node} :
      Text.Written bytes key colon → key.Spells name → Blanks colon (ascii ':' :: before) →
        Blanks before start → Node.Stands depth start value behind →
          Member.Stands depth bytes key value behind

/-! ## What goes wrong -/

/-- A text that ends where certain bytes are due, or goes on with another one. -/
inductive Lacks (due : UInt8 → Prop) : List UInt8 → Fault → Prop where
  | ended : Lacks due [] .ended
  | other {b : UInt8} {rest : List UInt8} :
      isBlank b = false → ¬due b → Lacks due (b :: rest) .malformed

/-- The bytes that values begin with. -/
def BeginsValue (b : UInt8) : Prop :=
  b = ascii 'n' ∨ b = ascii 't' ∨ b = ascii 'f' ∨ b = ascii '-' ∨ isDigit b = true ∨ b = ascii '"' ∨
    b = ascii '[' ∨ b = 123

/-- The bytes that follow an item. -/
def FollowsItem (b : UInt8) : Prop := b = ascii ',' ∨ b = ascii ']'

/-- The bytes that follow a member. -/
def FollowsMember (b : UInt8) : Prop := b = ascii ',' ∨ b = 125

/-- The three words. -/
def words : List (List UInt8) :=
  [[ascii 'n', ascii 'u', ascii 'l', ascii 'l'], [ascii 't', ascii 'r', ascii 'u', ascii 'e'],
    [ascii 'f', ascii 'a', ascii 'l', ascii 's', ascii 'e']]

/-- A text that begins like one of the words and breaks off within it. -/
inductive Word.Breaks : List UInt8 → Fault → Prop where
  | cut {front left : List UInt8} {due : UInt8} :
      front ≠ [] → front ++ due :: left ∈ words → Word.Breaks front .ended
  | other {front left rest : List UInt8} {due b : UInt8} :
      front ≠ [] → front ++ due :: left ∈ words → b ≠ due →
        Word.Breaks (front ++ b :: rest) .malformed

/-- A text that begins like a number and breaks off within it, or with a number that cannot stand there. -/
inductive Number.Breaks : List UInt8 → Fault → Prop where
  | cut {front : List UInt8} :
      NumberPrefix front → (∀ written : WrittenNumber, written.bytes ≠ front) →
        Number.Breaks front .ended
  | other {front rest : List UInt8} {b : UInt8} :
      NumberPrefix front → (∀ written : WrittenNumber, written.bytes ≠ front) →
        ¬NumberPrefix (front ++ [b]) → Number.Breaks (front ++ b :: rest) .malformed
  | leadingZero (written : WrittenNumber) {b : UInt8} {rest : List UInt8} :
      isDigit b = true → ¬NumberPrefix (written.bytes ++ [b]) →
        Number.Breaks (written.bytes ++ b :: rest) .malformed
  | overflow (written : WrittenNumber) {rest : List UInt8} :
      Outside written.bytes rest → written.literal.Overflows →
        Number.Breaks (written.bytes ++ rest) .malformed

/-- A piece that the end of the text cuts short, or no piece at all. The digits of a code unit are looked at only once
all four are there. -/
inductive Piece.Cut : List UInt8 → Prop where
  | nothing : Piece.Cut []
  | escape : Piece.Cut [ascii '\\']
  | unit {digits : List UInt8} : digits.length < 4 → Piece.Cut (ascii '\\' :: ascii 'u' :: digits)

/-- Bytes that neither a piece nor a closing quote begins with. -/
inductive Piece.Wrong : List UInt8 → Prop where
  | control {b : UInt8} {rest : List UInt8} : b < 32 → Piece.Wrong (b :: rest)
  | escape {letter : UInt8} {rest : List UInt8} :
      letter ≠ ascii 'u' → shortEscape? letter = none → Piece.Wrong (ascii '\\' :: letter :: rest)
  | unit {a b c d : UInt8} {rest : List UInt8} :
      hexNumber? [a, b, c, d] = none →
        Piece.Wrong (ascii '\\' :: ascii 'u' :: a :: b :: c :: d :: rest)

/-- Pieces that may go on so that they spell something. -/
def Pieces.Open (pieces : List Piece) : Prop := ∃ more bytes, Pieces.Spell (pieces ++ more) bytes

/-- A text that begins with a quote and breaks off before the closing one, or spells no string. -/
inductive Text.Breaks : List UInt8 → Fault → Prop where
  | cut {bytes rest : List UInt8} {pieces : List Piece} :
      Pieces.Written bytes pieces rest → Piece.Cut rest → Pieces.Open pieces →
        Text.Breaks (ascii '"' :: bytes) .ended
  | unpaired {bytes rest : List UInt8} {pieces : List Piece} :
      Pieces.Written bytes pieces rest → ¬Pieces.Open pieces →
        Text.Breaks (ascii '"' :: bytes) .malformed
  | other {bytes rest : List UInt8} {pieces : List Piece} :
      Pieces.Written bytes pieces rest → Piece.Wrong rest →
        Text.Breaks (ascii '"' :: bytes) .malformed
  | unspelled {bytes rest : List UInt8} {text : Text} :
      Text.Written bytes text rest → (∀ string, ¬text.Spells string) → Text.Breaks bytes .malformed

mutual

/-- A text that was to begin with a value and breaks off before the end of it. The value may hold arrays and objects
nested less deep than a limit. -/
inductive Node.Breaks : Nat → List UInt8 → Fault → Prop where
  | absent {depth : Nat} {bytes : List UInt8} {fault : Fault} :
      Lacks BeginsValue bytes fault → Node.Breaks depth bytes fault
  | word {depth : Nat} {bytes : List UInt8} {fault : Fault} :
      Word.Breaks bytes fault → Node.Breaks depth bytes fault
  | number {depth : Nat} {bytes : List UInt8} {fault : Fault} :
      Number.Breaks bytes fault → Node.Breaks depth bytes fault
  | text {depth : Nat} {bytes : List UInt8} {fault : Fault} :
      Text.Breaks bytes fault → Node.Breaks depth bytes fault
  | deepArray {depth : Nat} (rest : List UInt8) :
      depth ≤ 1 → Node.Breaks depth (ascii '[' :: rest) .malformed
  | deepObject {depth : Nat} (rest : List UInt8) :
      depth ≤ 1 → Node.Breaks depth (123 :: rest) .malformed
  | firstItem {depth : Nat} {bytes first : List UInt8} {fault : Fault} :
      1 < depth → Blanks bytes first → first.head? ≠ some (ascii ']') →
        Node.Breaks (depth - 1) first fault → Node.Breaks depth (ascii '[' :: bytes) fault
  | laterItem {depth : Nat} {bytes first behind : List UInt8} {value : Node} {fault : Fault} :
      1 < depth → Blanks bytes first → Node.Stands (depth - 1) first value behind →
        Items.Breaks (depth - 1) behind fault → Node.Breaks depth (ascii '[' :: bytes) fault
  | firstMember {depth : Nat} {bytes first : List UInt8} {fault : Fault} :
      1 < depth → Blanks bytes first → first.head? ≠ some 125 →
        Member.Breaks (depth - 1) first fault → Node.Breaks depth (123 :: bytes) fault
  | laterMember {depth : Nat} {bytes first behind : List UInt8} {key : Text} {value : Node}
      {fault : Fault} :
      1 < depth → Blanks bytes first → Member.Stands (depth - 1) first key value behind →
        Members.Breaks (depth - 1) behind fault → Node.Breaks depth (123 :: bytes) fault

/-- A text that breaks off behind an item, before the end of the array. -/
inductive Items.Breaks : Nat → List UInt8 → Fault → Prop where
  | between {depth : Nat} {bytes rest : List UInt8} {fault : Fault} :
      Blanks bytes rest → Lacks FollowsItem rest fault →
        Items.Breaks depth bytes fault
  | item {depth : Nat} {bytes before start : List UInt8} {fault : Fault} :
      Blanks bytes (ascii ',' :: before) → Blanks before start → Node.Breaks depth start fault →
        Items.Breaks depth bytes fault
  | later {depth : Nat} {bytes before start behind : List UInt8} {value : Node} {fault : Fault} :
      Blanks bytes (ascii ',' :: before) → Blanks before start →
        Node.Stands depth start value behind → Items.Breaks depth behind fault →
          Items.Breaks depth bytes fault

/-- A text that was to begin with a key, a colon and a value and breaks off before the end of them. -/
inductive Member.Breaks : Nat → List UInt8 → Fault → Prop where
  | absent {depth : Nat} {bytes : List UInt8} {fault : Fault} :
      Lacks (· = ascii '"') bytes fault → Member.Breaks depth bytes fault
  | key {depth : Nat} {bytes : List UInt8} {fault : Fault} :
      Text.Breaks bytes fault → Member.Breaks depth bytes fault
  | colon {depth : Nat} {bytes colon rest : List UInt8} {key : Text} {name : String} {fault : Fault} :
      Text.Written bytes key colon → key.Spells name → Blanks colon rest →
        Lacks (· = ascii ':') rest fault → Member.Breaks depth bytes fault
  | value {depth : Nat} {bytes colon before start : List UInt8} {key : Text} {name : String}
      {fault : Fault} :
      Text.Written bytes key colon → key.Spells name → Blanks colon (ascii ':' :: before) →
        Blanks before start → Node.Breaks depth start fault → Member.Breaks depth bytes fault

/-- A text that breaks off behind a member, before the end of the object. -/
inductive Members.Breaks : Nat → List UInt8 → Fault → Prop where
  | between {depth : Nat} {bytes rest : List UInt8} {fault : Fault} :
      Blanks bytes rest → Lacks FollowsMember rest fault →
        Members.Breaks depth bytes fault
  | member {depth : Nat} {bytes next first : List UInt8} {fault : Fault} :
      Blanks bytes (ascii ',' :: next) → Blanks next first → Member.Breaks depth first fault →
        Members.Breaks depth bytes fault
  | later {depth : Nat} {bytes next first behind : List UInt8} {key : Text} {value : Node}
      {fault : Fault} :
      Blanks bytes (ascii ',' :: next) → Blanks next first →
        Member.Stands depth first key value behind → Members.Breaks depth behind fault →
          Members.Breaks depth bytes fault

end

end SpriteStage.Json
