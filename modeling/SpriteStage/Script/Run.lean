/-
Module: SpriteStage.Script.Run
Purpose: The interpreter. A running script does one act after another: it hands an update to its
  sink, sleeps, passes a block that does nothing, or waits until its run token is stale. What the
  acts are depends on the script alone; the world around it can only end it. So a run is the state
  of an interpreter between two acts, and `Run.proceed` says what becomes of the next act. The
  interpreter passes over the blocks once (`run_sequence`). If one of them repeats the animation,
  only the blocks before the first such block ever run, over and over (`repeat`). A pass that did
  not suspend is followed by a pause of one frame.
Main exports: Update, Act, Glide, Run, Run.start, Run.next, Progress, Run.proceed
-/
import SpriteStage.Epochs
import SpriteStage.Project.Basic
import SpriteStage.Sprite

namespace SpriteStage

/-- What an interpreter hands to its sink: a pose, or a text to say or think. -/
inductive Update where
  | pose (pose : Pose)
  | speech (voice : Voice) (text : String)
deriving DecidableEq, Repr

/-- The sprite after an update. -/
def Sprite.apply (sprite : Sprite) : Update → Sprite
  | .pose pose => { sprite with pose }
  | .speech voice text => sprite.speak voice text

/-- One thing that an interpreter does. -/
inductive Act where
  /-- Asks whether the run token is current. -/
  | check
  /-- Passes a block with an unknown opcode. -/
  | skip (tag : String)
  | display (update : Update)
  /-- Sleeps, and adds the length to what has been waited. -/
  | pause (length : Duration)
  /-- Waits until the run token is stale. -/
  | rest
deriving DecidableEq, Repr

/-- What every frame of an animation adds to the pose. -/
inductive Glide where
  | slide (dx dy : Float)
  | spin (degrees : Float)
deriving DecidableEq, Repr

/-- The pose one frame later. -/
def Glide.advance (glide : Glide) (pose : Pose) : Pose :=
  match glide with
  | .slide dx dy => { pose with x := pose.x + dx, y := pose.y + dy }
  | .spin degrees => { pose with direction := pose.direction + degrees }

/-- Radians in a degree. -/
def radiansPerDegree : Float := Float.ofBits 0x3f91df46a2529d39

/-- A movement by a number of steps in the direction of the pose, in equal frames. -/
def Glide.move (pose : Pose) (steps : Float) (frames : Nat) : Glide :=
  let angle := (pose.direction - 90) * radiansPerDegree
  let distance := steps / Binary64.ofNat frames
  .slide (distance * angle.cos) (distance * angle.sin)

/-- A turn by a number of degrees, in equal frames. -/
def Glide.turn (degrees : Float) (frames : Nat) : Glide :=
  .spin (degrees / Binary64.ofNat frames)

/-- Where `execute_block` is between two acts. -/
inductive Todo where
  /-- Nothing: take the next block. -/
  | block
  /-- An animation with so many frames to come. -/
  | frames (glide : Glide) (left : Nat)
  /-- The wait after a frame, with so many frames to come. -/
  | settle (glide : Glide) (left : Nat)
  /-- The time for which a text stays up. -/
  | hold (voice : Voice) (length : Duration)
  /-- Taking back a text. -/
  | hush (voice : Voice)
deriving DecidableEq, Repr

/-- An interpreter between two acts. -/
structure Run where
  pose : Pose
  /-- All that it has waited so far. -/
  waited : Duration
  /-- The blocks of one pass. -/
  body : List Block
  /-- Whether there is another pass after each. -/
  endless : Bool
  /-- The blocks that this pass has still to begin. -/
  left : List Block
  /-- The pauses up to the beginning of this pass, if the pass must not end without one. -/
  mark : Option Duration
  todo : Todo
deriving DecidableEq, Repr

namespace Run

/-- Whether a block starts the script over. -/
def repeats (block : Block) : Bool := block.opcode = .repeatAnimation

/-- An interpreter before its first act. -/
def start (pose : Pose) (blocks : List Block) : Run :=
  let body := blocks.takeWhile fun block => !repeats block
  { pose, waited := .zero, body, endless := blocks.any repeats, left := body, mark := none
    todo := .block }

/-- The run after a `pause`, with something in hand. -/
def paused (run : Run) (length : Duration) (todo : Todo) : Run :=
  { run with waited := run.waited.add length, todo }

/-- How long a text stays up (`hold_duration`). -/
def holdLength (block : Block) : Duration := .ofSeconds (block.number "seconds")

/-- Begins to execute a block, with the blocks that are left after it. -/
def beginBlock (config : Config) (run : Run) (block : Block) (left : List Block) : Act × Run :=
  let run := { run with left }
  match block.opcode with
  | .whenFlagClicked | .whenSpriteClicked | .repeatAnimation =>
    (.check, { run with todo := .block })
  | .moveSteps =>
    let frames := max 1 config.moveFrames
    (.check, { run with todo := .frames (.move run.pose (block.number "steps") frames) frames })
  | .turnRight =>
    let frames := max 1 config.turnFrames
    (.check, { run with todo := .frames (.turn (block.number "degrees") frames) frames })
  | .turnLeft =>
    let frames := max 1 config.turnFrames
    (.check, { run with todo := .frames (.turn (-block.number "degrees") frames) frames })
  | .goTo =>
    let pose := { run.pose with x := block.number "x", y := block.number "y" }
    (.display (.pose pose), { run with pose, todo := .block })
  | .sayFor =>
    (.display (.speech .say (block.text "message")),
      { run with todo := .hold .say (holdLength block) })
  | .thinkFor =>
    (.display (.speech .think (block.text "message")),
      { run with todo := .hold .think (holdLength block) })
  | .unknown tag => (.skip tag, { run with todo := .block })

/-- What follows the last block of a pass: the end, the wait in place of an empty pass, the pause
after a pass that did not suspend, or the first block of the next pass. -/
def endPass (config : Config) (run : Run) : Option (Act × Run) :=
  if !run.endless then none
  else
    match run.body with
    | [] => some (.rest, run)
    | block :: left =>
      if run.mark = some run.waited then
        some (.pause config.frame, { run.paused config.frame .block with mark := none })
      else some ({ run with mark := some run.waited }.beginBlock config block left)

/-- The next act and the run after it; nothing if the script is through. An animation ends with a
check, so that a run that ended during its last frame is noticed. -/
def next (config : Config) (run : Run) : Option (Act × Run) :=
  match run.todo with
  | .frames _ 0 => some (.check, { run with todo := .block })
  | .frames glide (left + 1) =>
    let pose := glide.advance run.pose
    some (.display (.pose pose), { run with pose, todo := .settle glide left })
  | .settle glide left =>
    some (.pause config.frame, run.paused config.frame (.frames glide left))
  | .hold voice length => some (.pause length, run.paused length (.hush voice))
  | .hush voice => some (.display (.speech voice ""), { run with todo := .block })
  | .block =>
    match run.left with
    | block :: left => some (run.beginBlock config block left)
    | [] => run.endPass config

end Run

/-- How a run ended. -/
inductive Outcome where
  | finished
  | cancelled
deriving DecidableEq, Repr

/-- What a run comes to with its next act. -/
inductive Progress where
  | ended (outcome : Outcome)
  /-- Goes on at once. -/
  | passed (run : Run)
  | skipped (tag : String) (run : Run)
  | displayed (update : Update) (run : Run)
  /-- Goes on after so many milliseconds. -/
  | waiting (milliseconds : Nat) (run : Run)
  /-- Waits for the end of the run. -/
  | resting (run : Run)
deriving DecidableEq, Repr

/-- Does the next act of the interpreter, if the run still counts: its token is `current`, and the
scheduler `connected` to it. A run that is through has finished in any case. A pause is a sleep of
the token, whose first poll is at once: a pause of no length does not interrupt the run, and there
is none without a scheduler. -/
def Run.proceed (config : Config) (current connected : Bool) (run : Run) : Progress :=
  match run.next config with
  | none => .ended .finished
  | some (act, run) =>
    if !current then .ended .cancelled
    else
      match act with
      | .check => .passed run
      | .skip tag => .skipped tag run
      | .display update => .displayed update run
      | .pause length =>
        match pollSleep false (decide (length.nanoseconds = 0)) current connected with
        | some true => .passed run
        | some false => .ended .cancelled
        | none => .waiting length.milliseconds run
      | .rest => if connected then .resting run else .ended .cancelled

/-- What a pause comes to while the run counts. -/
theorem Run.proceed_pause {config : Config} {run later : Run} {length : Duration}
    (next : run.next config = some (.pause length, later)) (connected : Bool) :
    run.proceed config true connected =
      if !connected then .ended .cancelled
      else if length.milliseconds = 0 then .passed later
      else .waiting length.milliseconds later := by
  simp only [Run.proceed, next, ← Duration.milliseconds_eq_zero_iff, pollSleep]
  by_cases none : length.milliseconds = 0 <;> cases connected <;> simp [none]

/-- How many acts a block can take. -/
def Block.acts (config : Config) (block : Block) : Nat :=
  match block.opcode with
  | .moveSteps => 2 * max 1 config.moveFrames + 2
  | .turnRight | .turnLeft => 2 * max 1 config.turnFrames + 2
  | _ => 3

/-- How many acts a pass over blocks can take, the pause after it included. -/
def passActs (config : Config) : List Block → Nat
  | [] => 1
  | block :: blocks => block.acts config + passActs config blocks

/-- How many acts a script can do before time has to pass: what is left of one pass, and the next
one. -/
def scriptActs (config : Config) (blocks : List Block) : Nat := 2 * passActs config blocks + 2

end SpriteStage
