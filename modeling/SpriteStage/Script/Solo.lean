/-
Module: SpriteStage.Script.Solo
Purpose: An interpreter on its own. One script with a scheduler of its own and a sink that writes
  down everything it is handed, together with the time on the virtual clock. The interpreter holds
  the run token of the epoch in which it was set up. It is put in line by spawning it as a task, and
  runs only while the clock is moved.
Main exports: Solo, Solo.create, Solo.spawn, Solo.nextEpoch, Solo.close, Solo.advance
-/
import SpriteStage.Epochs
import SpriteStage.Journal
import SpriteStage.Script.Run
import SpriteStage.Stepping

namespace SpriteStage

/-- Where the task of the interpreter stands. -/
inductive Solo.Phase where
  | unspawned
  | ready (run : Run)
  /-- Waiting for a timer, or only for the run token to go stale. -/
  | waiting (wake : Option Nat) (run : Run)
  /-- Woken from a wait because the run token is stale or the scheduler is gone. -/
  | interrupted
  | ended (outcome : Outcome)
deriving DecidableEq, Repr

/-- One interpreter, its run token, the scheduler, the virtual clock, and what the sink was handed
so far. -/
structure Solo where
  config : Config
  pose : Pose
  blocks : List Block
  permit : Permit
  epochs : Epochs
  now : Nat
  phase : Solo.Phase
  updates : Journal (Nat × Update)

namespace Solo

/-- An interpreter that was not spawned yet, with the run token of the first epoch. -/
def create (config : Config) (pose : Pose) (blocks : List Block) : Solo :=
  let epochs := Epochs.fresh.next
  { config, pose, blocks, permit := ⟨epochs.current⟩, epochs, now := 0, phase := .unspawned
    updates := .empty }

/-- Spawns the task; a second time nothing happens. -/
def spawn (solo : Solo) : Solo :=
  match solo.phase with
  | .unspawned => { solo with phase := .ready (Run.start solo.pose solo.blocks) }
  | _ => solo

/-- Polls a wait after a change of the scheduler, and breaks it off if it is over. The wait for the
end of the run has no timer. -/
def interrupt (solo : Solo) : Solo :=
  match solo.phase with
  | .waiting wake _ =>
    let due := wake.any fun time => decide (time ≤ solo.now)
    if solo.permit.poll false solo.epochs due = some false then { solo with phase := .interrupted }
    else solo
  | _ => solo

/-- The scheduler bumps its epoch. -/
def nextEpoch (solo : Solo) : Solo := interrupt { solo with epochs := solo.epochs.next }

/-- The scheduler is dropped. -/
def close (solo : Solo) : Solo := interrupt { solo with epochs := solo.epochs.close }

/-- One act, or one move of the clock to a wake-up not after `target`. -/
def step (target : Nat) (solo : Solo) : Option Solo :=
  match solo.phase with
  | .unspawned | .ended _ | .waiting none _ => none
  | .interrupted => some { solo with phase := .ended .cancelled }
  | .waiting (some wake) run =>
    if wake ≤ target then some { solo with now := wake, phase := .ready run } else none
  | .ready run =>
    let current := solo.permit.isCurrent solo.epochs
    match run.proceed solo.config current (!solo.epochs.closed) with
    | .ended outcome => some { solo with phase := .ended outcome }
    | .passed run | .skipped _ run => some { solo with phase := .ready run }
    | .displayed update run =>
      some { solo with phase := .ready run, updates := solo.updates.push (solo.now, update) }
    | .waiting length run => some { solo with phase := .waiting (some (solo.now + length)) run }
    | .resting run => some { solo with phase := .waiting none run }

/-- A number of steps that suffices to let some milliseconds pass, if every frame takes time. -/
def enough (solo : Solo) (milliseconds : Nat) : Nat :=
  (milliseconds + 1) * (scriptActs solo.config solo.blocks + 2)

/-- Advances the virtual clock by some milliseconds. Everything that is due by then has been done;
the answer is absent if the script goes round without ever letting time pass. -/
def advance (solo : Solo) (milliseconds : Nat) : Option Solo :=
  let target := solo.now + milliseconds
  (exhaust (step target) (solo.enough milliseconds) solo).map fun solo =>
    { solo with now := target }

/-- The outcome of the task, once it has completed. -/
def outcome? (solo : Solo) : Option Outcome :=
  match solo.phase with
  | .ended outcome => some outcome
  | _ => none

end Solo

end SpriteStage
