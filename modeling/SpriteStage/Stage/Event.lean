/-
Module: SpriteStage.Stage.Event
Purpose: What a stage tells. A stage publishes events on its broadcast channel for whoever draws it,
  and logs what it did and refused to do.
Main exports: Event, Edit, Note, Note.level, Note.text
-/
import SpriteStage.Decimal.Places
import SpriteStage.Script.Run

namespace SpriteStage

/-- A visible change of a stage, as its broadcast channel carries it. -/
inductive Event where
  /-- The new record of a sprite. -/
  | changed (sprite : Sprite)
  | played (epoch : Nat)
  | stopped (epoch : Nat)
  | swapped (first second : SpriteId)
deriving DecidableEq, Repr

/-- The ways to edit a sprite. -/
inductive Edit where
  | addBlock
  | removeBlock
  | reorderBlock
  | updateBlock
  | moveSprite
deriving DecidableEq, Repr

/-- What an edit is called in the log. -/
def Edit.title : Edit → String
  | .addBlock => "add block"
  | .removeBlock => "remove block"
  | .reorderBlock => "reorder block"
  | .updateBlock => "update block args"
  | .moveSprite => "move sprite"

/-- A record of the log. -/
inductive Note where
  | added (id : SpriteId) (pose : Pose)
  | unknownSelection (id : SpriteId)
  | unknownSprite (edit : Edit) (id : SpriteId)
  | unchanged (edit : Edit) (id : SpriteId)
  | alreadyPlaying
  | played (epoch scripts : Nat)
  | stopped (epoch : Nat)
  | swapped (first second : SpriteId) (epoch : Nat)
  | running (id : SpriteId) (blocks epoch : Nat)
  | ended (id : SpriteId) (outcome : Outcome)
  | skipped (tag : String)
deriving DecidableEq, Repr

namespace Note

/-- A level of the log. -/
inductive Level where
  | info
  | debug
  | trace
deriving DecidableEq, Repr

/-- The level at which a note is logged. -/
def level : Note → Level
  | .played _ _ | .stopped _ | .swapped _ _ _ => .info
  | .skipped _ => .trace
  | _ => .debug

/-- The message of a note. -/
def text : Note → String
  | .added id pose =>
    "added " ++ id.text ++ " at (" ++ Decimal.inFull pose.x ++ ", " ++ Decimal.inFull pose.y ++ ")"
  | .unknownSelection id => "cannot select unknown sprite " ++ id.text
  | .unknownSprite edit id => edit.title ++ ": no sprite " ++ id.text
  | .unchanged edit id => edit.title ++ " on " ++ id.text ++ " changed nothing"
  | .alreadyPlaying => "play ignored, already playing"
  | .played epoch scripts =>
    "play, epoch " ++ toString epoch ++ ", " ++ toString scripts ++ " scripts"
  | .stopped epoch => "stop, epoch " ++ toString epoch
  | .swapped first second epoch =>
    first.text ++ " and " ++ second.text ++ " swapped scripts, epoch " ++ toString epoch
  | .running id blocks epoch =>
    "running " ++ id.text ++ " (" ++ toString blocks ++ " blocks) under epoch " ++ toString epoch
  | .ended id .finished => id.text ++ " Finished"
  | .ended id .cancelled => id.text ++ " Cancelled"
  | .skipped tag => "skipping unknown block " ++ tag

end Note

end SpriteStage
