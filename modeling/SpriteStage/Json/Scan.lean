/-
Module: SpriteStage.Json.Scan
Purpose: Scanning a JSON text. The scanner takes a text one byte at a time. Its state holds the
  arrays and objects that are still open, each with what it holds so far, and the point inside the
  innermost one. At the end of the text the state is closed into an outline, in which everything
  open is cut short. Once a byte cannot be accepted, the outline is settled and later bytes no
  longer matter.
Main exports: State, State.step, State.finish, scan
-/
import SpriteStage.Json.Outline

namespace SpriteStage.Json

/-- The byte of an ASCII character. -/
def ascii (c : Char) : UInt8 := c.toNat.toUInt8

/-- What a byte means between the values of a text. -/
inductive Mark where
  | blank
  | comma
  | colon
  | openArray
  | closeArray
  | openObject
  | closeObject
  | quote
  | other
deriving DecidableEq, Repr

/-- Classifies a byte. -/
def Mark.ofByte (b : UInt8) : Mark :=
  if b = ascii ' ' ∨ b = ascii '\n' ∨ b = ascii '\t' ∨ b = ascii '\r' then .blank
  else if b = ascii ',' then .comma
  else if b = ascii ':' then .colon
  else if b = ascii '[' then .openArray
  else if b = ascii ']' then .closeArray
  else if b = 123 then .openObject
  else if b = 125 then .closeObject
  else if b = ascii '"' then .quote
  else .other

/-- The value of a decimal digit. -/
def decimalDigit? (b : UInt8) : Option Nat :=
  if 48 ≤ b.toNat ∧ b.toNat ≤ 57 then some (b.toNat - 48) else none

/-- The value of a hexadecimal digit, in letters of either case. -/
def hexDigit? (b : UInt8) : Option Nat :=
  if 48 ≤ b.toNat ∧ b.toNat ≤ 57 then some (b.toNat - 48)
  else if 65 ≤ b.toNat ∧ b.toNat ≤ 70 then some (b.toNat - 55)
  else if 97 ≤ b.toNat ∧ b.toNat ≤ 102 then some (b.toNat - 87)
  else none

/-- The number that hexadecimal digits write. -/
def hexNumber? (digits : List UInt8) : Option Nat :=
  digits.foldlM (fun n b => (hexDigit? b).map (16 * n + ·)) 0

/-! ## Numbers -/

/-- Which part of a number was read last. -/
inductive Phase where
  | sign
  | leadingZero
  | whole
  | point
  | fraction
  | exponentMark
  | exponentSign
  | exponent
deriving DecidableEq, Repr

/-- Whether a number may end after this part. -/
def Phase.canEnd : Phase → Bool
  | .leadingZero | .whole | .fraction | .exponent => true
  | .sign | .point | .exponentMark | .exponentSign => false

/-- A number that is being read. -/
structure Counting where
  negative : Bool
  coefficient : Nat
  places : Nat
  exponentNegative : Bool
  exponent : Nat
  whole : Bool
deriving DecidableEq, Repr

namespace Counting

/-- Nothing read but perhaps a sign. -/
def start (negative : Bool) : Counting :=
  { negative, coefficient := 0, places := 0, exponentNegative := false, exponent := 0
    whole := true }

/-- One more digit of the coefficient. -/
def digit (n : Counting) (d : Nat) : Counting :=
  { n with coefficient := 10 * n.coefficient + d }

/-- One more digit behind the point. -/
def place (n : Counting) (d : Nat) : Counting :=
  { n.digit d with places := n.places + 1 }

/-- One more digit of the exponent. -/
def exponentDigit (n : Counting) (d : Nat) : Counting :=
  { n with exponent := 10 * n.exponent + d }

/-- The number as it stands. -/
def literal (n : Counting) : Literal :=
  let exponent : Int := if n.exponentNegative then -(n.exponent : Int) else n.exponent
  ⟨⟨n.negative, n.coefficient, exponent - n.places⟩, n.whole⟩

end Counting

/-- What a byte does to a number. -/
inductive Counted where
  | more (phase : Phase) (number : Counting)
  | over
  | wrong

/-- Reads one more byte of a number. -/
def Counting.step (phase : Phase) (n : Counting) (b : UInt8) : Counted :=
  let isMark := b = ascii 'e' ∨ b = ascii 'E'
  match phase, decimalDigit? b with
  | .sign, some 0 => .more .leadingZero n
  | .sign, some d => .more .whole (n.digit d)
  | .sign, none => .wrong
  | .leadingZero, some _ => .wrong
  | .whole, some d => .more .whole (n.digit d)
  | .leadingZero, none | .whole, none =>
    if b = ascii '.' then .more .point { n with whole := false }
    else if isMark then .more .exponentMark { n with whole := false }
    else .over
  | .point, some d | .fraction, some d => .more .fraction (n.place d)
  | .point, none => .wrong
  | .fraction, none => if isMark then .more .exponentMark n else .over
  | .exponentMark, some d | .exponentSign, some d | .exponent, some d =>
    .more .exponent (n.exponentDigit d)
  | .exponentMark, none =>
    if b = ascii '+' then .more .exponentSign n
    else if b = ascii '-' then .more .exponentSign { n with exponentNegative := true }
    else .wrong
  | .exponentSign, none => .wrong
  | .exponent, none => .over

/-! ## Texts -/

/-- How much of an escape was read. -/
inductive Escape where
  | outside
  | begun
  /-- The digits of a code unit, the last one first. -/
  | unit (digits : List UInt8)
deriving DecidableEq, Repr

/-- What a byte does to a text. -/
inductive Spelled where
  | more (pieces : List Piece) (escape : Escape)
  | closed
  | wrong

/-- The byte that the letter behind a backslash stands for. -/
def shortEscape? (b : UInt8) : Option UInt8 :=
  if b = ascii '"' ∨ b = ascii '\\' ∨ b = ascii '/' then some b
  else if b = ascii 'b' then some 8
  else if b = ascii 'f' then some 12
  else if b = ascii 'n' then some 10
  else if b = ascii 'r' then some 13
  else if b = ascii 't' then some 9
  else none

/-- Reads one more byte of a text. The pieces are held last first. A code unit is looked at once all
four of its digits are there. -/
def spell (pieces : List Piece) (escape : Escape) (b : UInt8) : Spelled :=
  match escape with
  | .outside =>
    if b = ascii '"' then .closed
    else if b = ascii '\\' then .more pieces .begun
    else if b < 32 then .wrong
    else .more (.plain b :: pieces) .outside
  | .begun =>
    if b = ascii 'u' then .more pieces (.unit [])
    else
      match shortEscape? b with
      | some byte => .more (.escaped byte :: pieces) .outside
      | none => .wrong
  | .unit digits =>
    if digits.length < 3 then .more pieces (.unit (b :: digits))
    else
      match hexNumber? (b :: digits).reverse with
      | some code => .more (.unit code :: pieces) .outside
      | none => .wrong

/-- A text with these pieces, the last one given first. -/
def Text.ofPieces (pieces : List Piece) (fault : Option Fault) : Text := ⟨pieces.reverse, fault⟩

/-! ## Values inside values -/

/-- An open array or object, around the value that is being read. -/
inductive Frame where
  | items (before : List Node)
  | members (before : List (Text × Node)) (key : Text)

/-- Where the scanner stands inside the innermost frame. -/
inductive Point where
  /-- A value is due. -/
  | value
  /-- Inside one of the three words, with the letter that is due and those behind it. -/
  | word (letter : UInt8) (left : List UInt8) (node : Node)
  | number (phase : Phase) (number : Counting)
  | text (pieces : List Piece) (escape : Escape)
  /-- Behind an opening bracket: an item or the closing bracket. -/
  | firstItem
  /-- Behind an item: a comma or the closing bracket. -/
  | afterItem (items : List Node)
  /-- Behind an opening brace: a key or the closing brace. -/
  | firstKey
  /-- Behind a comma in an object: a key. -/
  | nextKey (members : List (Text × Node))
  | key (members : List (Text × Node)) (pieces : List Piece) (escape : Escape)
  /-- Behind a key: a colon. -/
  | colon (members : List (Text × Node)) (key : Text)
  /-- Behind a member: a comma or the closing brace. -/
  | afterMember (members : List (Text × Node))
  /-- The value of the whole text is complete. -/
  | complete (node : Node)
  /-- Something follows the value of the whole text. -/
  | trailing (node : Node)
  /-- The outline is settled by a fault. -/
  | settled (node : Node)

/-- A state of the scanner. -/
structure State where
  frames : List Frame
  point : Point

namespace State

/-- Before the first byte. -/
def start : State := ⟨[], .value⟩

/-- Closes everything around a value that could not be read to its end. -/
def enclose : List Frame → Node → Node
  | [], node => node
  | .items before :: outer, node =>
    enclose outer (.array (Items.prepend before (.item node (.cut .ended))))
  | .members before key :: outer, node =>
    enclose outer (.object (Members.prepend before (.member key node (.cut .ended))))

/-- Settles the outline with a value that could not be read to its end. -/
def settle (frames : List Frame) (node : Node) : State := ⟨[], .settled (enclose frames node)⟩

/-- Goes on behind a complete value. -/
def behind : List Frame → Node → State
  | [], node => ⟨[], .complete node⟩
  | .items before :: outer, node => ⟨outer, .afterItem (node :: before)⟩
  | .members before key :: outer, node => ⟨outer, .afterMember ((key, node) :: before)⟩

/-- The first byte of a value. -/
def openValue (frames : List Frame) (b : UInt8) : State :=
  match Mark.ofByte b with
  | .blank => ⟨frames, .value⟩
  | .openArray => ⟨frames, .firstItem⟩
  | .openObject => ⟨frames, .firstKey⟩
  | .quote => ⟨frames, .text [] .outside⟩
  | .comma | .colon | .closeArray | .closeObject => settle frames (.broken .malformed)
  | .other =>
    if b = ascii 'n' then ⟨frames, .word (ascii 'u') [ascii 'l', ascii 'l'] .null⟩
    else if b = ascii 't' then ⟨frames, .word (ascii 'r') [ascii 'u', ascii 'e'] (.bool true)⟩
    else if b = ascii 'f' then
      ⟨frames, .word (ascii 'a') [ascii 'l', ascii 's', ascii 'e'] (.bool false)⟩
    else if b = ascii '-' then ⟨frames, .number .sign (.start true)⟩
    else
      match Counting.step .sign (.start false) b with
      | .more phase number => ⟨frames, .number phase number⟩
      | .over | .wrong => settle frames (.broken .malformed)

/-- An object cut short behind these members. -/
def cutObject (members : List (Text × Node)) (fault : Fault) : Node :=
  .object (Members.prepend members (.cut fault))

/-- An object whose last member could not be read to its end. -/
def cutMember (members : List (Text × Node)) (key : Text) (fault : Fault) : Node :=
  .object (Members.prepend members (.member key (.broken fault) (.cut .ended)))

/-- A byte behind a complete value. -/
def after (frames : List Frame) (point : Point) (b : UInt8) : State :=
  match point, Mark.ofByte b with
  | .afterItem items, .blank => ⟨frames, .afterItem items⟩
  | .afterItem items, .comma => ⟨.items items :: frames, .value⟩
  | .afterItem items, .closeArray => behind frames (.array (Items.prepend items .done))
  | .afterItem items, _ => settle frames (.array (Items.prepend items (.cut .malformed)))
  | .afterMember members, .blank => ⟨frames, .afterMember members⟩
  | .afterMember members, .comma => ⟨frames, .nextKey members⟩
  | .afterMember members, .closeObject => behind frames (.object (Members.prepend members .done))
  | .afterMember members, _ => settle frames (cutObject members .malformed)
  | .complete node, .blank => ⟨frames, .complete node⟩
  | .complete node, _ => ⟨frames, .trailing node⟩
  | point, _ => ⟨frames, point⟩

/-- Reads one more byte. -/
def step (state : State) (b : UInt8) : State :=
  let frames := state.frames
  match state.point with
  | .value => openValue frames b
  | .word letter left node =>
    if b = letter then
      match left with
      | [] => behind frames node
      | next :: left => ⟨frames, .word next left node⟩
    else settle frames (.broken .malformed)
  | .number phase number =>
    match number.step phase b with
    | .more phase number => ⟨frames, .number phase number⟩
    | .wrong => settle frames (.broken .malformed)
    | .over =>
      let state := behind frames (.number number.literal)
      after state.frames state.point b
  | .text pieces escape =>
    match spell pieces escape b with
    | .more pieces escape => ⟨frames, .text pieces escape⟩
    | .closed => behind frames (.text (Text.ofPieces pieces none))
    | .wrong => settle frames (.text (Text.ofPieces pieces (some .malformed)))
  | .firstItem =>
    match Mark.ofByte b with
    | .blank => state
    | .closeArray => behind frames (.array .done)
    | _ => openValue (.items [] :: frames) b
  | .firstKey =>
    match Mark.ofByte b with
    | .blank => state
    | .closeObject => behind frames (.object .done)
    | .quote => ⟨frames, .key [] [] .outside⟩
    | _ => settle frames (cutObject [] .malformed)
  | .nextKey members =>
    match Mark.ofByte b with
    | .blank => state
    | .quote => ⟨frames, .key members [] .outside⟩
    | _ => settle frames (cutObject members .malformed)
  | .key members pieces escape =>
    match spell pieces escape b with
    | .more pieces escape => ⟨frames, .key members pieces escape⟩
    | .closed => ⟨frames, .colon members (Text.ofPieces pieces none)⟩
    | .wrong =>
      settle frames (cutMember members (Text.ofPieces pieces (some .malformed)) .malformed)
  | .colon members key =>
    match Mark.ofByte b with
    | .blank => state
    | .colon => ⟨.members members key :: frames, .value⟩
    | _ => settle frames (cutMember members key .malformed)
  | .afterItem items => after frames (.afterItem items) b
  | .afterMember members => after frames (.afterMember members) b
  | .complete node => after frames (.complete node) b
  | .trailing _ | .settled _ => state

/-- The outline if the text ends behind a complete value. -/
def endBehind (frames : List Frame) : Point → Document
  | .afterItem items => ⟨enclose frames (.array (Items.prepend items (.cut .ended))), false⟩
  | .afterMember members => ⟨enclose frames (cutObject members .ended), false⟩
  | .complete node => ⟨node, false⟩
  | .trailing node => ⟨node, true⟩
  | .settled node => ⟨node, false⟩
  | _ => ⟨enclose frames (.broken .ended), false⟩

/-- The outline if the text ends here. -/
def finish (state : State) : Document :=
  let frames := state.frames
  match state.point with
  | .number phase number =>
    if phase.canEnd then
      let state := behind frames (.number number.literal)
      endBehind state.frames state.point
    else ⟨enclose frames .cutNumber, false⟩
  | .text pieces _ => ⟨enclose frames (.text (Text.ofPieces pieces (some .ended))), false⟩
  | .firstItem => ⟨enclose frames (.array (.cut .ended)), false⟩
  | .firstKey => ⟨enclose frames (cutObject [] .ended), false⟩
  | .nextKey members => ⟨enclose frames (cutObject members .ended), false⟩
  | .key members pieces _ =>
    ⟨enclose frames (cutMember members (Text.ofPieces pieces (some .ended)) .ended), false⟩
  | .colon members key => ⟨enclose frames (cutMember members key .ended), false⟩
  | point => endBehind frames point

end State

/-- The outline of a text. -/
def scan (bytes : List UInt8) : Document := (bytes.foldl State.step State.start).finish

end SpriteStage.Json
