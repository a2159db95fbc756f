/-
Module: SpriteStage.Performance
Purpose: The runtime that a stage runs its scripts on. A performance is a stage together with the
  tasks that its `launch` has spawned, one interpreter each, and the virtual clock in milliseconds.
  Tasks that are ready to be polled stand in line, and the first one does one act after another
  until it waits or ends. When no task is ready the clock moves to the next wake-up of a timer;
  tasks that wake up together line up in the order in which they began to wait. When the epoch is
  bumped, the watch channel wakes the waiting tasks of that epoch, and they find at their next poll
  that their run tokens are stale.
Main exports: Task, Performance, Performance.act, Performance.step, PollOrder, Performance.stepBy,
  Performance.advance, Performance.play, Performance.stop
-/
import SpriteStage.Stage.Edit
import SpriteStage.Stage.Play
import SpriteStage.Stepping

namespace SpriteStage

/-- A spawned task: the interpreter that runs the script of a sprite under the run token of one
epoch. -/
structure Task where
  sprite : SpriteId
  epoch : Nat
  blocks : List Block
  /-- Whether it has been polled before. -/
  begun : Bool
  run : Run
deriving DecidableEq, Repr

/-- What `launch` spawns for a snapshot: a task that has not been polled yet. -/
def Task.launch (epoch : Nat) (script : Script) : Task :=
  ⟨script.sprite, epoch, script.blocks, false, Run.start script.pose script.blocks⟩

/-- A task that waits for its timer, or for its run token to go stale. -/
structure Waiter where
  wake : Option Nat
  task : Task
deriving DecidableEq, Repr

/-- A stage, its tasks and the virtual clock. -/
structure Performance where
  stage : Stage
  now : Nat
  /-- The tasks that are ready to be polled. -/
  ready : List Task
  /-- The waiting tasks, in the order in which they began to wait. -/
  waiting : List Waiter

namespace Performance

/-- A stage with no tasks yet, at time zero. -/
def create (stage : Stage) : Performance := ⟨stage, 0, [], []⟩

/-- Whether the run token of a waiting task is stale. -/
def isStale (stage : Stage) (waiter : Waiter) : Bool := waiter.task.epoch ≠ stage.epoch

/-- Goes on with a changed stage: waiting tasks whose tokens went stale are woken, and behind them
stand the tasks that are launched. -/
def resume (performance : Performance) (changed : Stage × List Script) : Performance :=
  let stage := changed.1
  let stale := performance.waiting.filter (isStale stage)
  { performance with
    stage
    ready := performance.ready ++ stale.map Waiter.task ++ changed.2.map (Task.launch stage.epoch)
    waiting := performance.waiting.filter fun waiter => !isStale stage waiter }

/-- The operation `play` of the stage. -/
def play (performance : Performance) : Performance := performance.resume performance.stage.play

/-- The operation `stop` of the stage. -/
def stop (performance : Performance) : Performance :=
  performance.resume (performance.stage.stop, [])

/-- The same tasks at the same time, on an edited stage. -/
def edited (performance : Performance) (stage : Stage) : Performance := { performance with stage }

/-! ## Acts -/

/-- The first poll of a task is noted. -/
def begin (stage : Stage) (task : Task) : Stage :=
  if task.begun then stage
  else stage.note (.running task.sprite task.blocks.length task.epoch)

/-- The next act of the task that is being polled, the first one in line; what its interpreter
displays goes through its sink to the stage. -/
def act (performance : Performance) : Option Performance :=
  match performance.ready with
  | [] => none
  | task :: others =>
    let stage := begin performance.stage task
    let going (run : Run) : Task := { task with begun := true, run }
    match task.run.proceed stage.config (decide (task.epoch = stage.epoch)) true with
    | .ended outcome =>
      some { performance with stage := stage.note (.ended task.sprite outcome), ready := others }
    | .passed run => some { performance with stage, ready := going run :: others }
    | .skipped tag run =>
      some { performance with stage := stage.note (.skipped tag), ready := going run :: others }
    | .displayed update run =>
      some ({ performance with ready := going run :: others }.resume
        (stage.receive task.sprite task.epoch update))
    | .waiting length run =>
      some { performance with
        stage
        ready := others
        waiting := performance.waiting ++ [⟨some (performance.now + length), going run⟩] }
    | .resting run =>
      some { performance with
        stage, ready := others, waiting := performance.waiting ++ [⟨none, going run⟩] }

/-! ## The clock -/

/-- The earliest wake-up. -/
def nextWake (waiting : List Waiter) : Option Nat := (waiting.filterMap Waiter.wake).min?

/-- Whether the timer of a waiting task is due by a time. -/
def isDue (time : Nat) (waiter : Waiter) : Bool := waiter.wake.any fun wake => wake ≤ time

/-- Moves the clock to a time; whoever is due is woken. -/
def wakeAt (performance : Performance) (time : Nat) : Performance :=
  { performance with
    now := time
    ready := performance.ready ++ (performance.waiting.filter (isDue time)).map Waiter.task
    waiting := performance.waiting.filter fun waiter => !isDue time waiter }

/-- Moves the clock to the next wake-up, if it is not after `target`. -/
def tick (target : Nat) (performance : Performance) : Option Performance :=
  match nextWake performance.waiting with
  | some time => if time ≤ target then some (performance.wakeAt time) else none
  | none => none

/-- One act of the first task in line, or one move of the clock if no task is ready. -/
def step (target : Nat) (performance : Performance) : Option Performance :=
  match performance.ready with
  | [] => performance.tick target
  | _ => performance.act

/-- Lets the task at a place in line go first. -/
def callUp (performance : Performance) (place : Nat) : Performance :=
  match performance.ready[place]? with
  | none => performance
  | some task => { performance with ready := task :: performance.ready.eraseIdx place }

end Performance

/-- The order in which the runtime polls the tasks that are ready: the place in line of the task
that does the next act. Nothing is known of it, and it may look at the whole performance. -/
abbrev PollOrder := Performance → Nat

namespace PollOrder

/-- The first in line is always polled first. -/
def first : PollOrder := fun _ => 0

/-- The place in line of the task that is polled next; the first one if there is no task at the
place that the order names. -/
def place (order : PollOrder) (performance : Performance) : Nat :=
  if order performance < performance.ready.length then order performance else 0

end PollOrder

namespace Performance

/-- One act of the task that is polled next, or one move of the clock if no task is ready. -/
def stepBy (order : PollOrder) (target : Nat) (performance : Performance) : Option Performance :=
  (performance.callUp (order.place performance)).step target

/-- How many acts scripts with these blocks can do before time has to pass, all together. -/
def actsOf (config : Config) (scripts : List (List Block)) : Nat :=
  scripts.foldr (fun blocks acts => scriptActs config blocks + acts) 0

/-- How many acts the scripts can do before time has to pass, those included that swaps may
start. -/
def actsAtOnce (performance : Performance) : Nat :=
  let config := performance.stage.config
  let tasks := performance.ready ++ performance.waiting.map Waiter.task
  let sprites := performance.stage.sprites
  actsOf config (tasks.map Task.blocks)
    + sprites.length * sprites.length * actsOf config (sprites.map Sprite.blocks)

/-- A number of steps that suffices to let some milliseconds pass, if every frame takes time. -/
def enough (performance : Performance) (milliseconds : Nat) : Nat :=
  (milliseconds + 1) * (performance.actsAtOnce + 1) + 1

/-- Advances the virtual clock by some milliseconds. Everything that is due by then has been done;
the answer is absent if a script goes round without ever letting time pass. -/
def advanceBy (order : PollOrder) (performance : Performance) (milliseconds : Nat) :
    Option Performance :=
  let target := performance.now + milliseconds
  (exhaust (stepBy order target) (performance.enough milliseconds) performance).map fun last =>
    { last with now := target }

/-- Advances the virtual clock while the first in line is always polled first. -/
def advance (performance : Performance) (milliseconds : Nat) : Option Performance :=
  performance.advanceBy .first milliseconds

end Performance

end SpriteStage
