/-
Module: SpriteStage.Project.Basic
Purpose: Projects. A project describes a stage before it is set up: how it plays, and the sprites it
  starts with.
Main exports: Config, BlockDefinition, SpriteDefinition, Project
-/
import SpriteStage.Block
import SpriteStage.Duration

namespace SpriteStage

/-- The configuration of a stage. -/
structure Config where
  /-- Milliseconds between two frames. -/
  frameInterval : Nat := 16
  /-- Frames of one movement. -/
  moveFrames : Nat := 20
  /-- Frames of one turn. -/
  turnFrames : Nat := 15
  /-- The distance between the slots of added sprites. -/
  spriteSpacing : Float := 120
  /-- How many events the broadcast channel holds for a receiver that lags. -/
  eventCapacity : Nat := 1024
  /-- Sprites closer than this swap their scripts; none do if it is absent. -/
  swapDistance : Option Float := none
deriving DecidableEq, Repr

/-- The wait between two frames (`frame_interval`). -/
def Config.frame (config : Config) : Duration := .ofMilliseconds config.frameInterval

/-- A block as a project describes it. -/
structure BlockDefinition where
  opcode : Opcode
  arguments : Arguments
deriving DecidableEq, Repr

/-- A sprite as a project describes it. A coordinate that is absent is that of the sprite's slot. -/
structure SpriteDefinition where
  name : Option String
  x : Option Float
  y : Option Float
  direction : Float
  blocks : List BlockDefinition
deriving DecidableEq, Repr

/-- A stage to be set up. -/
structure Project where
  config : Config := {}
  sprites : List SpriteDefinition := []
deriving DecidableEq, Repr

end SpriteStage
