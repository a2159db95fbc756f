/-
Module: SpriteStage.Sprite
Purpose: The records of sprites. A sprite has a live pose, a home pose that never changes, a list of
  blocks, and at most one of two kinds of speech on show. The operations on blocks report whether
  they changed anything by returning the new sprite or nothing.
Main exports: SpriteId, Pose, Voice, Sprite
-/
import SpriteStage.Binary64.Distance
import SpriteStage.Block

namespace SpriteStage

/-- The identity of a sprite. -/
structure SpriteId where
  text : String
deriving DecidableEq, Repr

/-- A place on the stage and a heading in degrees, 90 facing along the first axis. -/
structure Pose where
  x : Float
  y : Float
  direction : Float
deriving DecidableEq, Repr

/-- The distance between two places (`distance_to`). -/
def Pose.distance (a b : Pose) : Float :=
  Binary64.hypotenuse (a.x - b.x) (a.y - b.y)

/-- The two kinds of speech. -/
inductive Voice where
  | say
  | think
deriving DecidableEq, Repr

/-- A sprite as it stands on the stage. -/
structure Sprite where
  id : SpriteId
  name : String
  pose : Pose
  home : Pose
  blocks : List Block
  say : String
  think : String
deriving DecidableEq, Repr

namespace Sprite

/-- A silent sprite without blocks, at home (`new`). -/
def create (id : SpriteId) (name : String) (home : Pose) : Sprite :=
  { id, name, pose := home, home, blocks := [], say := "", think := "" }

/-- Shows a text in one voice (`set_say`, `set_think`). A text that says something takes the place
of the other voice. -/
def speak (sprite : Sprite) (voice : Voice) (text : String) : Sprite :=
  match voice with
  | .say => { sprite with say := text, think := if text = "" then sprite.think else "" }
  | .think => { sprite with think := text, say := if text = "" then sprite.say else "" }

/-- Takes back all speech (`clear_speech`). -/
def hush (sprite : Sprite) : Sprite := { sprite with say := "", think := "" }

/-- Sends the sprite home and takes back all speech (`reset`). -/
def reset (sprite : Sprite) : Sprite := { sprite.hush with pose := sprite.home }

/-- Puts the sprite somewhere else (`move_to`); heading and home stay. -/
def moveTo (sprite : Sprite) (x y : Float) : Sprite :=
  { sprite with pose := { sprite.pose with x, y } }

/-- Appends a new block (`add_block`). -/
def addBlock (sprite : Sprite) (block : Block) : Sprite :=
  { sprite with blocks := sprite.blocks ++ [block] }

/-- Removes a block (`remove_block`), if the sprite holds it. -/
def removeBlock? (sprite : Sprite) (id : BlockId) : Option Sprite :=
  let kept := sprite.blocks.filter fun block => block.id ≠ id
  if kept.length = sprite.blocks.length then none else some { sprite with blocks := kept }

/-- Where a block stands. -/
def position? (sprite : Sprite) (id : BlockId) : Option Nat :=
  sprite.blocks.findIdx? fun block => block.id = id

/-- Moves the block `source` to the slot that `target` has before the move (`reorder_block`), if the
sprite holds both and they differ. -/
def reorderBlock? (sprite : Sprite) (source target : BlockId) : Option Sprite :=
  match sprite.position? source, sprite.position? target with
  | some start, some goal =>
    if start = goal then none
    else
      sprite.blocks[start]?.map fun moved =>
        { sprite with blocks := (sprite.blocks.eraseIdx start).insertIdx goal moved }
  | _, _ => none

/-- The blocks with the first one that has this id updated. -/
def updateFirst (id : BlockId) (change : Arguments) : List Block → List Block
  | [] => []
  | block :: rest =>
    if block.id = id then block.update change :: rest else block :: updateFirst id change rest

/-- Merges an update over the arguments of a block (`update_block_args`), if the sprite holds it. -/
def updateBlock? (sprite : Sprite) (id : BlockId) (change : Arguments) : Option Sprite :=
  if sprite.blocks.any fun block => block.id = id then
    some { sprite with blocks := updateFirst id change sprite.blocks }
  else none

end Sprite

end SpriteStage
