/-
Module: SpriteStage.Stage.Edit
Purpose: The editing operations of the stage. Edits change one sprite of the board at a time,
  whether the stage is playing or not; running scripts, which have their snapshots, do not notice
  them. An edit that applies publishes the sprite's new record, and one that does not apply changes
  nothing but is logged.
Main exports: Stage.edit, Stage.addBlock, Stage.addBlockToSelected, Stage.removeBlock,
  Stage.reorderBlock, Stage.updateBlock, Stage.moveSprite
-/
import SpriteStage.Stage.Basic

namespace SpriteStage.Stage

/-- Edits a sprite (`edit`). The answer says whether the edit applied. -/
def edit (stage : Stage) (kind : Edit) (id : SpriteId) (change : Sprite → Option Sprite) :
    Stage × Bool :=
  match stage.find? id with
  | none => (stage.note (.unknownSprite kind id), false)
  | some sprite =>
    match change sprite with
    | none => (stage.note (.unchanged kind id), false)
    | some sprite => ((stage.replace sprite).publish (.changed sprite), true)

/-- Appends a new block to a sprite (`add_block`). The answer is the id of the block. -/
def addBlock (stage : Stage) (id : SpriteId) (opcode : Opcode) : Stage × Option BlockId :=
  let (block, supply) := stage.supply.create opcode
  match stage.edit .addBlock id fun sprite => some (sprite.addBlock block) with
  | (stage, true) => ({ stage with supply }, some block.id)
  | (stage, false) => (stage, none)

/-- Appends a new block to the selected sprite (`add_block_to_selected`). -/
def addBlockToSelected (stage : Stage) (opcode : Opcode) : Stage × Option BlockId :=
  match stage.selected with
  | some id => stage.addBlock id opcode
  | none => (stage, none)

/-- Removes a block from a sprite (`remove_block`). -/
def removeBlock (stage : Stage) (id : SpriteId) (block : BlockId) : Stage × Bool :=
  stage.edit .removeBlock id fun sprite => sprite.removeBlock? block

/-- Moves a block of a sprite to the slot of another one (`reorder_block`). -/
def reorderBlock (stage : Stage) (id : SpriteId) (source target : BlockId) : Stage × Bool :=
  stage.edit .reorderBlock id fun sprite => sprite.reorderBlock? source target

/-- Merges an update over the arguments of a block (`update_block_args`). -/
def updateBlock (stage : Stage) (id : SpriteId) (block : BlockId) (change : Arguments) :
    Stage × Bool :=
  stage.edit .updateBlock id fun sprite => sprite.updateBlock? block change

/-- Drags a sprite somewhere else without touching its home pose (`move_sprite`). -/
def moveSprite (stage : Stage) (id : SpriteId) (x y : Float) : Stage × Bool :=
  stage.edit .moveSprite id fun sprite => some (sprite.moveTo x y)

end SpriteStage.Stage
