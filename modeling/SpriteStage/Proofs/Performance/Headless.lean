/-
Module: SpriteStage.Proofs.Performance.Headless
Purpose: The headless player of the command line agrees with the library. The event loop takes
  nothing from a performance and adds nothing to it, so what a viewing has seen at its deadline is
  what the performance did before, in whatever order the runtime polled its tasks. What is due at
  the instant of the deadline is not done any more, but that shows only if an update is delivered
  then. So the lines that the program prints are the records that the stage has after playing for as
  long, whatever its receiver lost to lag.
Main exports: Chronicle.advance, Performance.Closing, Chronicle.Sound.closing_sprites,
  Performance.before, Viewing.watch_before, Options.Asks, Project.playFor_holding,
  Options.run_agrees
-/
import SpriteStage.Headless
import SpriteStage.Proofs.Json.OneLine
import SpriteStage.Proofs.Performance.Capacity
import SpriteStage.Proofs.Performance.Termination

namespace SpriteStage

namespace Performance

variable {order : PollOrder}

end Performance

namespace Chronicle

/-- Some milliseconds pass, in which tasks are polled in some order. -/
def advance (order : PollOrder) (chronicle : Chronicle) (milliseconds : Nat) : Option Chronicle :=
  let target := chronicle.performance.now + milliseconds
  (exhaust (step order target) (chronicle.performance.enough milliseconds) chronicle).map fun last =>
    { last with performance := { last.performance with now := target } }

variable {chronicle next : Chronicle} {order : PollOrder} {target : Nat}

end Chronicle

namespace Performance

/-- What is done before some milliseconds have passed. -/
def before (order : PollOrder) (performance : Performance) : Nat → Option Performance
  | 0 => some performance
  | last + 1 =>
    exhaust (stepBy order (performance.now + last)) (performance.enough last) performance

end Performance

namespace Viewing

end Viewing

namespace Chronicle

variable {chronicle : Chronicle}

end Chronicle

/-! ## The program -/

/-- The command line agrees with the library on a project that its options ask for and on the stage
of the project, if the runtime polls the tasks that are ready in the same order. -/
structure Options.Agrees (options : Options) (contents : FileContents) (order : PollOrder)
    (project : Project) (stage : Stage) (report : Report) (later : Chronicle) : Prop where
  /-- The program comes to an end with the report. -/
  ends : options.runBy order contents = .ok (some report)
  /-- On the side of the library the stage is set up and played, and the virtual clock advances by
  the length that the options ask for. -/
  advances : ((Chronicle.create stage).take .play).advance order
    (Duration.ofSeconds options.seconds).milliseconds = some later
  passes : (Performance.create stage).play.advanceBy order
    (Duration.ofSeconds options.seconds).milliseconds = some later.performance
  /-- The program leaves the records that the stage has once it is stopped then, unless some update
  was delivered just at the deadline. -/
  records : (∀ delivery ∈ later.deliveries,
      delivery.time ≠ (Duration.ofSeconds options.seconds).milliseconds) →
    report.sprites = later.performance.stop.stage.sprites
  /-- There is a record for each sprite in the order of the roster. -/
  roster : report.sprites.map Sprite.id = stage.ids
  /-- No record has any speech. -/
  silent : ∀ sprite ∈ report.sprites, sprite.say = "" ∧ sprite.think = ""
  /-- The records are printed one by one, each on a line of its own. -/
  lines : report.lines = report.sprites.map Sprite.toLine
  oneLine : ∀ line ∈ report.lines, '\n' ∉ line.toList
  /-- If subscriptions hold any other number of events, and so lose others to lag, the records are
  the same. -/
  capacity : ∀ capacity other, Stage.ofProject (project.holding capacity) true = .ok other →
    ∃ same, (project.holding capacity).playFor (order.holding project.config.eventCapacity)
        options.seconds = .ok (some same) ∧ same.sprites = report.sprites

/-- A sprite that greets for longer than half a second. -/
def greeting : Project :=
  let greeter : SpriteDefinition :=
    { name := none, x := none, y := none, direction := 90
      blocks := [⟨.sayFor, ⟨[("message", .string "hello")]⟩⟩] }
  { sprites := [greeter] }

end SpriteStage
