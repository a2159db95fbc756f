/-
Module: SpriteStage.Block
Purpose: Blocks. A block is an opcode with arguments and an id of its own. Ids come from a supply
  that never hands out the same one twice; it stands for the counter of the process.
Main exports: BlockId, Block, BlockSupply, BlockSupply.create
-/
import SpriteStage.Opcode

namespace SpriteStage

/-- The identity of a block. -/
structure BlockId where
  number : Nat
deriving DecidableEq, Repr

/-- One block of a script. -/
structure Block where
  id : BlockId
  opcode : Opcode
  arguments : Arguments
deriving DecidableEq, Repr

namespace Block

/-- An argument as a number (`number`); zero if there is none. -/
def number (block : Block) (name : String) : Float :=
  match block.arguments.get? name with
  | some value => value.number
  | none => 0

/-- An argument as a text (`text`); empty if there is none. -/
def text (block : Block) (name : String) : String :=
  match block.arguments.get? name with
  | some value => value.text
  | none => ""

/-- Merges an update over the arguments (`update_args`). -/
def update (block : Block) (change : Arguments) : Block :=
  { block with arguments := block.arguments.merge change }

end Block

/-- The counter that hands out block ids in increasing order (`fresh`). -/
structure BlockSupply where
  next : Nat
deriving DecidableEq, Repr

namespace BlockSupply

/-- A supply that has handed out nothing; the first id is 1. -/
def fresh : BlockSupply := ⟨1⟩

/-- A new block with the default arguments of its opcode (`create_block`). -/
def create (supply : BlockSupply) (opcode : Opcode) : Block × BlockSupply :=
  (⟨⟨supply.next⟩, opcode, opcode.defaults⟩, ⟨supply.next + 1⟩)

end BlockSupply

end SpriteStage
