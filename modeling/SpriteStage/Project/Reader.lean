/-
Module: SpriteStage.Project.Reader
Purpose: Project texts. The JSON form of projects. A project is a record of records; a field that is
  left out has its default, and only the type of a block has none. Argument values are scalars, and
  the kind of a scalar is kept: a number is an integer if it is written as one and fits 64 bits.
Main exports: Value.ofNode, Arguments.ofNode, Config.ofNode, BlockDefinition.ofNode,
  SpriteDefinition.ofNode, Project.ofNode, Project.parse, Error, FileContents, Project.load
-/
import SpriteStage.Json.Read
import SpriteStage.Project.Basic

namespace SpriteStage

open Json (Node Items Members Fault RecordField)

/-- The depth that the nesting of arrays and objects must not reach. -/
def depthLimit : Nat := 128

/-! ## Argument values -/

/-- The value that a number is: an integer if it is written as one and fits, else a double. -/
def Value.ofLiteral (literal : Json.Literal) : Except Fault Value :=
  match literal.toInt? with
  | some n =>
    if Int64.minValue.toInt ≤ n ∧ n ≤ Int64.maxValue.toInt then .ok (.integer (.ofInt n))
    else .float <$> literal.toFloat
  | none => .float <$> literal.toFloat

/-- Reads an argument value. Arrays and objects are read to their end before they are refused. -/
def Value.ofNode (depth : Nat) : Node → Except Fault Value
  | .null => .ok .null
  | .bool value => .ok (.bool value)
  | .number literal => Value.ofLiteral literal
  | .text spelling => .string <$> spelling.decode
  | .cutNumber => .error .ended
  | .broken fault => .error fault
  | node => do
    node.inspect depth
    .error .mistyped

/-- Reads named values; of several with one name the last one counts. -/
def Arguments.ofMembers (depth : Nat) : Members → Arguments → Except Fault Arguments
  | .done, arguments => .ok arguments
  | .cut fault, _ => .error fault
  | .member key value rest, arguments => do
    let name ← key.decode
    let value ← Value.ofNode depth value
    Arguments.ofMembers depth rest (arguments.set name value)

/-- Reads an object of named values. -/
def Arguments.ofNode (depth : Nat) : Node → Except Fault Arguments
  | .object members => Arguments.ofMembers (depth - 1) members .empty
  | node => .error node.refuse

/-! ## Configurations -/

/-- A configuration of which only some fields are known. -/
structure ConfigDraft where
  frameInterval : Option Nat := none
  moveFrames : Option Nat := none
  turnFrames : Option Nat := none
  spriteSpacing : Option Float := none
  eventCapacity : Option Nat := none
  swapDistance : Option (Option Float) := none

namespace ConfigDraft

/-- The fields of a configuration, in their order. -/
def fields : List (RecordField ConfigDraft) :=
  [{ name := "frame_interval_ms", needed := false
     isSet := fun draft => draft.frameInterval.isSome
     read := fun node draft =>
      return { draft with frameInterval := some (← node.readNat UInt64.size) } },
   { name := "move_frames", needed := false
     isSet := fun draft => draft.moveFrames.isSome
     read := fun node draft =>
      return { draft with moveFrames := some (← node.readNat UInt32.size) } },
   { name := "turn_frames", needed := false
     isSet := fun draft => draft.turnFrames.isSome
     read := fun node draft =>
      return { draft with turnFrames := some (← node.readNat UInt32.size) } },
   { name := "sprite_spacing", needed := false
     isSet := fun draft => draft.spriteSpacing.isSome
     read := fun node draft => return { draft with spriteSpacing := some (← node.readFloat) } },
   { name := "event_capacity", needed := false
     isSet := fun draft => draft.eventCapacity.isSome
     read := fun node draft =>
      return { draft with eventCapacity := some (← node.readNat UInt64.size) } },
   { name := "swap_distance", needed := false
     isSet := fun draft => draft.swapDistance.isSome
     read := fun node draft =>
      return { draft with swapDistance := some (← node.readOption Node.readFloat) } }]

/-- The configuration, with the defaults of the fields that were left out. -/
def finish (draft : ConfigDraft) : Config :=
  let base : Config := {}
  { frameInterval := draft.frameInterval.getD base.frameInterval
    moveFrames := draft.moveFrames.getD base.moveFrames
    turnFrames := draft.turnFrames.getD base.turnFrames
    spriteSpacing := draft.spriteSpacing.getD base.spriteSpacing
    eventCapacity := draft.eventCapacity.getD base.eventCapacity
    swapDistance := draft.swapDistance.getD base.swapDistance }

end ConfigDraft

/-- Reads a configuration. -/
def Config.ofNode (node : Node) : Except Fault Config :=
  ConfigDraft.finish <$> node.readRecord ConfigDraft.fields {}

/-! ## Blocks and sprites -/

/-- A block of which only some fields are known. -/
structure BlockDraft where
  opcode : Option Opcode := none
  arguments : Option Arguments := none

namespace BlockDraft

/-- The fields of a block, in their order. -/
def fields (depth : Nat) : List (RecordField BlockDraft) :=
  [{ name := "type", needed := true
     isSet := fun draft => draft.opcode.isSome
     read := fun node draft => return { draft with opcode := some (.ofTag (← node.readText)) } },
   { name := "args", needed := false
     isSet := fun draft => draft.arguments.isSome
     read := fun node draft =>
      return { draft with arguments := some (← Arguments.ofNode depth node) } }]

/-- The block, which must have a type. -/
def finish (draft : BlockDraft) : Except Fault BlockDefinition :=
  match draft.opcode with
  | some opcode => .ok ⟨opcode, draft.arguments.getD .empty⟩
  | none => .error .mistyped

end BlockDraft

/-- Reads a block. -/
def BlockDefinition.ofNode (depth : Nat) (node : Node) : Except Fault BlockDefinition := do
  (← node.readRecord (BlockDraft.fields (depth - 1)) {}).finish

/-- A sprite of which only some fields are known. -/
structure SpriteDraft where
  name : Option (Option String) := none
  x : Option (Option Float) := none
  y : Option (Option Float) := none
  direction : Option Float := none
  blocks : Option (List BlockDefinition) := none

namespace SpriteDraft

/-- The fields of a sprite, in their order. -/
def fields (depth : Nat) : List (RecordField SpriteDraft) :=
  [{ name := "name", needed := true
     isSet := fun draft => draft.name.isSome
     read := fun node draft =>
      return { draft with name := some (← node.readOption Node.readText) } },
   { name := "x", needed := true
     isSet := fun draft => draft.x.isSome
     read := fun node draft => return { draft with x := some (← node.readOption Node.readFloat) } },
   { name := "y", needed := true
     isSet := fun draft => draft.y.isSome
     read := fun node draft => return { draft with y := some (← node.readOption Node.readFloat) } },
   { name := "direction", needed := false
     isSet := fun draft => draft.direction.isSome
     read := fun node draft => return { draft with direction := some (← node.readFloat) } },
   { name := "blocks", needed := false
     isSet := fun draft => draft.blocks.isSome
     read := fun node draft =>
      return { draft with
        blocks := some (← node.readList (BlockDefinition.ofNode (depth - 1))) } }]

/-- The sprite, with the defaults of the fields that were left out. -/
def finish (draft : SpriteDraft) : SpriteDefinition :=
  { name := draft.name.getD none
    x := draft.x.getD none
    y := draft.y.getD none
    direction := draft.direction.getD 90
    blocks := draft.blocks.getD [] }

end SpriteDraft

/-- Reads a sprite. -/
def SpriteDefinition.ofNode (depth : Nat) (node : Node) : Except Fault SpriteDefinition :=
  SpriteDraft.finish <$> node.readRecord (SpriteDraft.fields (depth - 1)) {}

/-! ## Projects -/

/-- A project of which only some fields are known. -/
structure ProjectDraft where
  config : Option Config := none
  sprites : Option (List SpriteDefinition) := none

namespace ProjectDraft

/-- The fields of a project, in their order. -/
def fields (depth : Nat) : List (RecordField ProjectDraft) :=
  [{ name := "config", needed := false
     isSet := fun draft => draft.config.isSome
     read := fun node draft => return { draft with config := some (← Config.ofNode node) } },
   { name := "sprites", needed := false
     isSet := fun draft => draft.sprites.isSome
     read := fun node draft =>
      return { draft with
        sprites := some (← node.readList (SpriteDefinition.ofNode (depth - 1))) } }]

/-- The project, with the defaults of the fields that were left out. -/
def finish (draft : ProjectDraft) : Project :=
  { config := draft.config.getD {}, sprites := draft.sprites.getD [] }

end ProjectDraft

/-- Reads a project. -/
def Project.ofNode (node : Node) : Except Fault Project :=
  ProjectDraft.finish <$> node.readRecord (ProjectDraft.fields (depthLimit - 1)) {}

/-- Reads the text of a project (`parse`). -/
def Project.parse (bytes : List UInt8) : Except Fault Project :=
  Json.readDocument Project.ofNode bytes

/-! ## Project files -/

/-- Why there is no stage to play on. -/
inductive Error where
  /-- A stage was to be set up outside any runtime. -/
  | noRuntime
  /-- The project file could not be opened. -/
  | unopened (path reason : String)
  /-- The project file could not be read. -/
  | unread (fault : Fault)
  /-- No broadcast channel can be created with that capacity; the runtime panics. -/
  | capacity (requested : Nat)
deriving DecidableEq, Repr

/-- What an error says. -/
def Error.message : Error → String
  | .noRuntime => "a stage needs a running tokio runtime"
  | .unopened path reason => "could not read " ++ path ++ ": " ++ reason
  | .unread _ => "malformed project"
  | .capacity requested => "cannot hold " ++ toString requested ++ " events"

/-- What opening a file gives. -/
inductive FileContents where
  | unopened (reason : String)
  | directory
  | bytes (contents : List UInt8)

/-- The reason for which a file that does not exist cannot be opened. -/
def FileContents.missing : FileContents := .unopened "No such file or directory (os error 2)"

/-- Reads the project in a file (`load`). -/
def Project.load (path : String) : FileContents → Except Error Project
  | .unopened reason => .error (.unopened path reason)
  | .directory => .error (.unread .unreadable)
  | .bytes contents => (Project.parse contents).mapError .unread

end SpriteStage
