/-
Module: SpriteStage.Stage.Play
Purpose: The play and stop machinery of the stage. Playing sends every sprite home and starts the
  scripts of all sprites that have blocks; stopping takes back all speech. Both bump the epoch of
  the scheduler, so that the run tokens of earlier epochs are stale. An update that a script hands
  to its sink reaches its sprite only while the run token is current. If sprites that come close
  swap their scripts, an update of a pose can bring that proximity swap about: the two exchange
  their blocks, the epoch is bumped, and all scripts start over from where the sprites stand. A pair
  swaps at most once in a play. The operations here return the snapshots to launch beside the new
  stage.
Main exports: Stage.play, Stage.stop, Stage.partner?, Stage.swapIfClose, Stage.receive
-/
import SpriteStage.Stage.Basic

namespace SpriteStage.Stage

/-- Starts playing, unless the stage is playing already (`play`). -/
def play (stage : Stage) : Stage × List Script :=
  if stage.playing then (stage.note .alreadyPlaying, [])
  else
    let epoch := stage.epoch + 1
    let sprites := stage.sprites.map Sprite.reset
    let begun := { stage with epoch, playing := true, swapped := [], sprites }
    let begun := (begun.publish (.played epoch)).publishAll sprites
    let scripts := begun.snapshots
    (begun.note (.played epoch scripts.length), scripts)

/-- Stops playing, and bumps the epoch even if nothing was playing (`stop`). -/
def stop (stage : Stage) : Stage :=
  let epoch := stage.epoch + 1
  let sprites := stage.sprites.map Sprite.hush
  let stopped := { stage with epoch, playing := false, sprites }
  ((stopped.publish (.stopped epoch)).publishAll sprites).note (.stopped epoch)

/-- The first other sprite on the board that is close to the mover and has not swapped with it in
this play: the search of `swap_if_close`. -/
def partner? (stage : Stage) (mover : Sprite) (distance : Float) : Option Sprite :=
  stage.sprites.find? fun other =>
    other.id ≠ mover.id && decide (mover.pose.distance other.pose < distance) &&
      decide (SpritePair.of mover.id other.id ∉ stage.swapped)

/-- Lets two sprites exchange their blocks, and starts all scripts over: the effect of
`swap_if_close`. -/
def swap (stage : Stage) (mover partner : Sprite) : Stage × List Script :=
  let pair := SpritePair.of mover.id partner.id
  let epoch := stage.epoch + 1
  let first := { mover with blocks := partner.blocks }
  let second := { partner with blocks := mover.blocks }
  let swapped := { (stage.replace first).replace second with
    epoch, swapped := pair :: stage.swapped }
  let swapped := swapped.note (.swapped pair.1 pair.2 epoch)
  let swapped := (swapped.publish (.swapped pair.1 pair.2)).publishAll [first, second]
  (swapped, swapped.snapshots)

/-- Lets the mover swap with its partner, if there is one and the run token of the mover's script is
current (`swap_if_close`). -/
def swapIfClose (stage : Stage) (id : SpriteId) (epoch : Nat) (distance : Float) :
    Stage × List Script :=
  if stage.epoch ≠ epoch then (stage, [])
  else
    match stage.find? id with
    | none => (stage, [])
    | some mover =>
      match stage.partner? mover distance with
      | none => (stage, [])
      | some partner => stage.swap mover partner

/-- The sink of a script: takes an update for its sprite if the run token is current (`apply`), and
after a pose lets the sprite swap if the stage lets sprites swap that come close. -/
def receive (stage : Stage) (id : SpriteId) (epoch : Nat) (update : Update) :
    Stage × List Script :=
  if stage.epoch ≠ epoch then (stage, [])
  else
    match stage.find? id with
    | none => (stage, [])
    | some sprite =>
      let sprite := sprite.apply update
      let stage := (stage.replace sprite).publish (.changed sprite)
      match update, stage.config.swapDistance with
      | .pose _, some distance => stage.swapIfClose id epoch distance
      | _, _ => (stage, [])

end SpriteStage.Stage
