/-
Module: SpriteStage.Stage.Basic
Purpose: The stage. Its board holds the sprites, numbered in the order in which they were added, and
  knows which one is selected, whether it is playing and which pairs of sprites have swapped their
  scripts in this play; its scheduler knows the epoch. Every event that the stage sends on its
  broadcast channel is written down.
  Subscriptions are the receivers of that channel. They read the events that were sent after they
  began, but only as many of the newest ones as the channel holds; a receiver that lags loses the
  others.
Main exports: Stage, Stage.create, Stage.ofProject, Stage.addSprite, Stage.select, Stage.find?,
  Stage.snapshots, Subscription, Stage.subscribe, Subscription.read
-/
import SpriteStage.Journal
import SpriteStage.Project.Reader
import SpriteStage.Stage.Event

namespace SpriteStage

/-- Two sprites in the order of their ids, as the set of swapped pairs has them. -/
abbrev SpritePair := SpriteId × SpriteId

/-- The pair of two sprites, whichever is given first (`pair`). -/
def SpritePair.of (a b : SpriteId) : SpritePair :=
  if b.text < a.text then (b, a) else (a, b)

/-- A stage at one moment: its board, the epoch of its scheduler, the supply of block ids, and all
that was sent on its broadcast channel and logged so far. -/
structure Stage where
  config : Config
  sprites : List Sprite
  selected : Option SpriteId
  playing : Bool
  swapped : List SpritePair
  epoch : Nat
  supply : BlockSupply
  events : Journal Event
  notes : Journal Note

namespace Stage

/-- A stage without sprites (`empty`). -/
def bare (config : Config) : Stage :=
  { config, sprites := [], selected := none, playing := false, swapped := [], epoch := 0
    supply := .fresh, events := .empty, notes := .empty }

/-- Sends an event on the broadcast channel. -/
def publish (stage : Stage) (event : Event) : Stage :=
  { stage with events := stage.events.push event }

/-- Logs a note. -/
def note (stage : Stage) (note : Note) : Stage :=
  { stage with notes := stage.notes.push note }

/-- Publishes the records of some sprites, one after another. -/
def publishAll (stage : Stage) (sprites : List Sprite) : Stage :=
  sprites.foldl (fun stage sprite => stage.publish (.changed sprite)) stage

/-- The sprite with an id, the first one on the board. -/
def find? (stage : Stage) (id : SpriteId) : Option Sprite :=
  stage.sprites.find? fun sprite => sprite.id = id

/-- Puts the new record of a sprite in the place of the old one. -/
def replace (stage : Stage) (sprite : Sprite) : Stage :=
  { stage with
    sprites := stage.sprites.map fun old => if old.id = sprite.id then sprite else old }

/-! ## Setting up -/

/-- The number of the next sprite. -/
def nextNumber (stage : Stage) : Nat := stage.sprites.length + 1

/-- The id of a numbered sprite. -/
def numberedId (number : Nat) : SpriteId := ⟨"sprite-" ++ toString number⟩

/-- The name of a numbered sprite that was given none. -/
def numberedName (number : Nat) : String := "Sprite " ++ toString number

/-- How far the slot of a numbered sprite is from the first one. -/
def slot (config : Config) (number : Nat) : Float :=
  config.spriteSpacing * Binary64.ofNat (number - 1)

/-- Adds a sprite at the end of the board, selects it and publishes its record (`insert`). -/
def insert (stage : Stage) (sprite : Sprite) : Stage :=
  { stage.note (.added sprite.id sprite.pose) with
    selected := some sprite.id, sprites := stage.sprites ++ [sprite] }.publish (.changed sprite)

/-- The sprite that comes next if no definition describes it. -/
def nextSprite (stage : Stage) : Sprite :=
  let number := stage.nextNumber
  Sprite.create (numberedId number) (numberedName number) ⟨slot stage.config number, 0, 90⟩

/-- Adds the next numbered sprite in its slot and selects it (`add_sprite`). -/
def addSprite (stage : Stage) : Stage := stage.insert stage.nextSprite

/-- Appends a block as a definition describes it: a new block, which is then looked up and given the
arguments of the definition. -/
def addDefinedBlock (built : Sprite × BlockSupply) (definition : BlockDefinition) :
    Sprite × BlockSupply :=
  let (block, supply) := built.2.create definition.opcode
  let sprite := built.1.addBlock block
  ((sprite.updateBlock? block.id definition.arguments).getD sprite, supply)

/-- Adds the next numbered sprite as a definition describes it, and selects it
(`add_sprite_def`). -/
def addDefinedSprite (stage : Stage) (definition : SpriteDefinition) : Stage :=
  let number := stage.nextNumber
  let home : Pose :=
    { x := definition.x.getD (slot stage.config number)
      y := definition.y.getD 0
      direction := definition.direction }
  let name := definition.name.getD (numberedName number)
  let sprite := Sprite.create (numberedId number) name home
  let (sprite, supply) := definition.blocks.foldl addDefinedBlock (sprite, stage.supply)
  { stage with supply }.insert sprite

/-- The largest capacity with which a broadcast channel can be created. -/
def largestCapacity : Nat := 0x7FFFFFFFFFFFFFFF

/-- A stage with the sprites of a project, or with one sprite if there are none (`from_project`). It
can be set up only inside a runtime, which is where its scripts will run, and only with a capacity
that the broadcast channel can have. -/
def ofProject (project : Project) (hosted : Bool) : Except Error Stage :=
  if !hosted then .error .noRuntime
  else if largestCapacity < project.config.eventCapacity then
    .error (.capacity project.config.eventCapacity)
  else
    match project.sprites with
    | [] => .ok (bare project.config).addSprite
    | definitions => .ok (definitions.foldl addDefinedSprite (bare project.config))

/-- A stage with one sprite (`new`). -/
def create (config : Config) (hosted : Bool) : Except Error Stage := ofProject { config } hosted

/-! ## Selection -/

/-- Selects a sprite (`select_sprite`). The answer says whether there is one with that id. -/
def select (stage : Stage) (id : SpriteId) : Stage × Bool :=
  if stage.sprites.any fun sprite => sprite.id = id then ({ stage with selected := some id }, true)
  else (stage.note (.unknownSelection id), false)

end Stage

/-! ## Scripts to start -/

/-- The snapshot that a script starts with: pose and blocks of its sprite at that moment. -/
structure Script where
  sprite : SpriteId
  pose : Pose
  blocks : List Block
deriving DecidableEq, Repr

/-- The snapshots of all sprites that have blocks, in the order of the board (`snapshot`). -/
def Stage.snapshots (stage : Stage) : List Script :=
  (stage.sprites.filter fun sprite => !sprite.blocks.isEmpty).map fun sprite =>
    ⟨sprite.id, sprite.pose, sprite.blocks⟩

/-! ## Subscriptions -/

/-- A receiver of events that has seen everything up to a position. -/
structure Subscription where
  position : Nat
deriving DecidableEq, Repr

/-- What a receiver gets: by how many events it lagged, and those that were not lost. -/
structure Reading where
  lost : Nat
  events : List Event
deriving DecidableEq, Repr

namespace Stage

/-- How many unread events the channel holds: the configured number rounded up to a power of two. -/
def capacity (stage : Stage) : Nat := (max 1 stage.config.eventCapacity).nextPowerOfTwo

/-- A receiver of the events from now on (`subscribe`). -/
def subscribe (stage : Stage) : Subscription := ⟨stage.events.size⟩

end Stage

/-- Receives everything that is unread. -/
def Subscription.read (subscription : Subscription) (stage : Stage) : Reading × Subscription :=
  let unread := stage.events.since subscription.position
  let lost := unread.length - stage.capacity
  (⟨lost, unread.drop lost⟩, stage.subscribe)

end SpriteStage
