/-
Module: SpriteStage.Json.Read
Purpose: Reading outlines. Reading turns an outline into data of a known shape, in the order of the
  text, as a streaming deserializer finds it. Scalars of the wrong kind are still read to their end
  before they are refused; arrays and objects of the wrong kind are refused on their opening
  bracket. What nobody asked for is skipped, and skipping asks for less: sizes of numbers and the
  characters of texts do not matter there. A record can be written as an object, its fields in any
  order and each at most once, or as an array of its fields in their order.
Main exports: Text.decode, Literal.toFloat, Node.skip, Node.refuse, Node.readText, Node.readFloat,
  Node.readNat, Node.readOption, Node.readList, RecordField, Node.readRecord
-/
import SpriteStage.Json.Scan

namespace SpriteStage.Json

/-! ## Texts -/

/-- The bytes of a code point. -/
def encode (code : Nat) : List UInt8 := (String.singleton (Char.ofNat code)).toUTF8.data.toList

/-- The code point that two halves of a pair make up. -/
def pairCode (high low : Nat) : Nat := 0x10000 + (high - 0xD800) * 0x400 + (low - 0xDC00)

/-- The bytes that pieces stand for. The two halves of a pair must follow each other directly, and a
text that was cut short has no bytes. -/
def decodePieces (fault : Option Fault) : List Piece → Except Fault (List UInt8)
  | [] =>
    match fault with
    | some fault => .error fault
    | none => .ok []
  | .plain byte :: rest => return byte :: (← decodePieces fault rest)
  | .escaped byte :: rest => return byte :: (← decodePieces fault rest)
  | .unit code :: rest =>
    if 0xD800 ≤ code ∧ code < 0xDC00 then
      match rest with
      | .unit low :: rest =>
        if 0xDC00 ≤ low ∧ low < 0xE000 then
          return encode (pairCode code low) ++ (← decodePieces fault rest)
        else .error .malformed
      | [] => .error (fault.getD .malformed)
      | _ => .error .malformed
    else if 0xDC00 ≤ code ∧ code < 0xE000 then .error .malformed
    else return encode code ++ (← decodePieces fault rest)

/-- The text that was spelled. Its bytes must be well-formed UTF-8. -/
def Text.decode (text : Text) : Except Fault String := do
  let bytes ← decodePieces text.fault text.pieces
  match String.fromUTF8? bytes.toByteArray with
  | some string => return string
  | none => .error .malformed

/-! ## Scalars -/

/-- The double nearest to a number, which must not be too large for one. -/
def Literal.toFloat (literal : Literal) : Except Fault Float :=
  if literal.value.isFinite then .ok literal.value.toFloat else .error .malformed

/-- The whole number that is written. A zero with a minus sign is no whole number. -/
def Literal.toInt? (literal : Literal) : Option Int :=
  let value := literal.value
  if !literal.whole then none
  else if !value.negative then some value.coefficient
  else if value.coefficient = 0 then none
  else some (-(value.coefficient : Int))

/-- The fault of a node that is not of the kind that was asked for. -/
def Node.refuse : Node → Fault
  | .null | .bool _ | .array _ | .object _ => .mistyped
  | .number literal =>
    match literal.toFloat with
    | .ok _ => .mistyped
    | .error fault => fault
  | .cutNumber => .ended
  | .text spelling =>
    match spelling.decode with
    | .ok _ => .mistyped
    | .error fault => fault
  | .broken fault => fault

/-- Reads a text. -/
def Node.readText : Node → Except Fault String
  | .text spelling => spelling.decode
  | node => .error node.refuse

/-- Reads a number of any size that a double can have. -/
def Node.readFloat : Node → Except Fault Float
  | .number literal => literal.toFloat
  | node => .error node.refuse

/-- Reads a natural number below a limit, written as a whole number. -/
def Node.readNat (limit : Nat) : Node → Except Fault Nat
  | .number literal => do
    let _ ← literal.toFloat
    match literal.toInt? with
    | some (.ofNat n) => if n < limit then .ok n else .error .mistyped
    | _ => .error .mistyped
  | node => .error node.refuse

/-- Reads a value that may be null. -/
def Node.readOption (read : Node → Except Fault α) : Node → Except Fault (Option α)
  | .null => .ok none
  | node => some <$> read node

/-! ## Skipping and strict reading -/

mutual

/-- Skips a value. A number that ends with the text is as wrong here as any other bad number. -/
def Node.skip : Node → Except Fault Unit
  | .null | .bool _ | .number _ => .ok ()
  | .cutNumber => .error .malformed
  | .text spelling =>
    match spelling.fault with
    | some fault => .error fault
    | none => .ok ()
  | .array items => items.skip
  | .object members => members.skip
  | .broken fault => .error fault

/-- Skips the items of an array. -/
def Items.skip : Items → Except Fault Unit
  | .done => .ok ()
  | .cut fault => .error fault
  | .item value rest => do
    value.skip
    rest.skip

/-- Skips the members of an object. -/
def Members.skip : Members → Except Fault Unit
  | .done => .ok ()
  | .cut fault => .error fault
  | .member key value rest =>
    match key.fault with
    | some fault => .error fault
    | none => do
      value.skip
      rest.skip

end

mutual

/-- Reads a value of any shape and forgets it. Arrays and objects may be nested only so deep. -/
def Node.inspect (depth : Nat) : Node → Except Fault Unit
  | .null | .bool _ => .ok ()
  | .number literal => do
    let _ ← literal.toFloat
  | .cutNumber => .error .ended
  | .text spelling => do
    let _ ← spelling.decode
  | .array items => if depth ≤ 1 then .error .malformed else items.inspect (depth - 1)
  | .object members => if depth ≤ 1 then .error .malformed else members.inspect (depth - 1)
  | .broken fault => .error fault

/-- Reads the items of an array and forgets them. -/
def Items.inspect (depth : Nat) : Items → Except Fault Unit
  | .done => .ok ()
  | .cut fault => .error fault
  | .item value rest => do
    value.inspect depth
    rest.inspect depth

/-- Reads the members of an object and forgets them. -/
def Members.inspect (depth : Nat) : Members → Except Fault Unit
  | .done => .ok ()
  | .cut fault => .error fault
  | .member key value rest => do
    let _ ← key.decode
    value.inspect depth
    rest.inspect depth

end

/-! ## Lists and records -/

/-- Reads every item. -/
def Items.readAll (read : Node → Except Fault α) : Items → Except Fault (List α)
  | .done => .ok []
  | .cut fault => .error fault
  | .item value rest => do
    let first ← read value
    let others ← rest.readAll read
    return first :: others

/-- Reads an array of values of one kind. -/
def Node.readList (read : Node → Except Fault α) : Node → Except Fault (List α)
  | .array items => items.readAll read
  | node => .error node.refuse

/-- One field of a record that is read into a draft. -/
structure RecordField (δ : Type) where
  name : String
  /-- Whether the draft has a value for the field already. -/
  isSet : δ → Bool
  /-- Whether an array of the fields must be long enough to hold it. -/
  needed : Bool
  read : Node → δ → Except Fault δ

/-- Reads the members of an object. Unknown members are skipped. -/
def Members.readFields (fields : List (RecordField δ)) : Members → δ → Except Fault δ
  | .done, draft => .ok draft
  | .cut fault, _ => .error fault
  | .member key value rest, draft => do
    let name ← key.decode
    match fields.find? fun field => field.name = name with
    | none =>
      value.skip
      rest.readFields fields draft
    | some field =>
      if field.isSet draft then .error .mistyped
      else
        let draft ← field.read value draft
        rest.readFields fields draft

/-- Reads an array of the fields. -/
def Items.readFields : List (RecordField δ) → Items → δ → Except Fault δ
  | [], .done, draft => .ok draft
  | [], .item _ _, _ => .error .malformed
  | field :: fields, .done, draft =>
    if field.needed then .error .mistyped else Items.readFields fields .done draft
  | field :: fields, .item value rest, draft => do
    let draft ← field.read value draft
    Items.readFields fields rest draft
  | _, .cut fault, _ => .error fault

/-- Reads a record in either of its forms. -/
def Node.readRecord (fields : List (RecordField δ)) (draft : δ) : Node → Except Fault δ
  | .object members => members.readFields fields draft
  | .array items => Items.readFields fields items draft
  | node => .error node.refuse

/-- Reads a whole text, which must hold one value and nothing else. -/
def readDocument (read : Node → Except Fault α) (bytes : List UInt8) : Except Fault α := do
  let document := scan bytes
  let value ← read document.node
  if document.trailing then .error .malformed else return value

end SpriteStage.Json
