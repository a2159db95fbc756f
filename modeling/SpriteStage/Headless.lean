/-
Module: SpriteStage.Headless
Purpose: The headless player of the command line. A project is played until a deadline, with an
  event loop that receives the events of the stage and logs them. The loop catches up after the
  start, and then each time when all tasks that were due at an instant have been polled. The
  deadline comes before anything else that is due at its instant. Then the stage is stopped, and the
  records of its sprites are the result.
Main exports: Sprite.describe, Event.describe, Viewing, Report, Project.playFor, Options.runBy,
  Options.run
-/
import SpriteStage.CommandLine
import SpriteStage.Json.Write
import SpriteStage.Performance
import SpriteStage.Text.Quoted

namespace SpriteStage

/-- A sprite in words. -/
def Sprite.describe (sprite : Sprite) : String :=
  let place := sprite.name ++ " at (" ++ Decimal.onePlace sprite.pose.x ++ ", "
    ++ Decimal.onePlace sprite.pose.y ++ ") facing " ++ Decimal.onePlace sprite.pose.direction
  if sprite.say ≠ "" then place ++ " says " ++ Text.quoted sprite.say
  else if sprite.think ≠ "" then place ++ " thinks " ++ Text.quoted sprite.think
  else place

/-- An event in words. -/
def Event.describe : Event → String
  | .changed sprite => sprite.describe
  | .played epoch => "Played(Epoch(" ++ toString epoch ++ "))"
  | .stopped epoch => "Stopped(Epoch(" ++ toString epoch ++ "))"
  | .swapped first second =>
    "Swapped(SpriteId(" ++ Text.quoted first.text ++ "), SpriteId(" ++ Text.quoted second.text
      ++ "))"

/-- A line that the event loop logs. -/
inductive Remark where
  | event (event : Event)
  /-- The receiver lagged, and so many events were lost. -/
  | lost (count : Nat)
deriving DecidableEq, Repr

/-- A remark in words. -/
def Remark.text : Remark → String
  | .event seen => "info: " ++ seen.describe
  | .lost count => "warn: skipped " ++ toString count ++ " updates"

/-- The event loop of the program: a performance, the receiver that the program has subscribed to
the stage, and what has been logged of the events. -/
structure Viewing where
  performance : Performance
  subscription : Subscription
  remarks : Journal Remark

namespace Viewing

/-- The remarks on what was read. -/
def remarksOn (reading : Reading) : List Remark :=
  (if reading.lost = 0 then [] else [.lost reading.lost]) ++ reading.events.map .event

/-- Receives events until none is left. -/
def catchUp (viewing : Viewing) : Viewing :=
  let (reading, subscription) := viewing.subscription.read viewing.performance.stage
  { viewing with
    subscription, remarks := (remarksOn reading).foldl Journal.push viewing.remarks }

/-- The event loop of a stage that starts to play: the receiver is subscribed before. -/
def start (stage : Stage) : Viewing :=
  catchUp ⟨(Performance.create stage).play, stage.subscribe, .empty⟩

/-- Whether nothing is left to receive. -/
def isCaughtUp (viewing : Viewing) : Bool :=
  viewing.subscription = viewing.performance.stage.subscribe

/-- One act; when no task is ready, catching up, and then one move of the clock. -/
def step (order : PollOrder) (target : Nat) (viewing : Viewing) : Option Viewing :=
  if viewing.performance.ready.isEmpty && !viewing.isCaughtUp then some viewing.catchUp
  else (viewing.performance.stepBy order target).map fun performance => { viewing with performance }

/-- Runs the event loop until its deadline: all that is due before has been done. The answer is
absent if a script goes round without ever letting time pass. -/
def watch (order : PollOrder) (viewing : Viewing) : Nat → Option Viewing
  | 0 => some viewing
  | last + 1 =>
    let performance := viewing.performance
    exhaust (step order (performance.now + last)) (2 * performance.enough last + 2) viewing

end Viewing

/-- What is left of a play: the remarks on it, and the sprites at its end. -/
structure Report where
  remarks : List Remark
  sprites : List Sprite
deriving DecidableEq, Repr

/-- Plays a project for a number of seconds: sets up the stage, subscribes to its events, plays it,
runs the event loop until the deadline and stops the stage. -/
def Project.playFor (project : Project) (order : PollOrder) (seconds : Float) :
    Except Error (Option Report) := do
  let stage ← Stage.ofProject project true
  let length := (Duration.ofSeconds seconds).milliseconds
  return ((Viewing.start stage).watch order length).map fun viewing =>
    ⟨viewing.remarks.toList, viewing.performance.stop.stage.sprites⟩

/-- Plays what the options ask for, given what opening their file gave. -/
def Options.runBy (order : PollOrder) (options : Options) (contents : FileContents) :
    Except Error (Option Report) := do
  let project ←
    match options.path with
    | some path => Project.load path contents
    | none => pure {}
  project.playFor order options.seconds

/-- Plays what the options ask for, and of the tasks that are ready always polls the first one. -/
def Options.run (options : Options) (contents : FileContents) : Except Error (Option Report) :=
  options.runBy .first contents

/-- The lines to print. -/
def Report.lines (report : Report) : List String := report.sprites.map Sprite.toLine

end SpriteStage
