/-
Module: SpriteStage.Proofs.Performance.Narration
Purpose: What a chronicle tells. Whatever move comes next, the stage makes one change and publishes the
  events that tell of it; so between two moments of a chronicle there is a story, and every event that was
  published came from one move, at a moment when exactly the events before it had been published.
Main exports: Chronicle.turn_stage, Chronicle.Sound.take_tells, Chronicle.Sound.follow_story,
  Chronicle.story, Chronicle.Sound.moment
-/
import Mathlib.Data.List.Induction
import SpriteStage.Proofs.Performance.EpochSafety
import SpriteStage.Proofs.Stage.Scene

namespace SpriteStage.Chronicle

theorem follow_append (chronicle : Chronicle) (first second : List Move) :
    chronicle.follow (first ++ second) = (chronicle.follow first).follow second :=
  List.foldl_append

/-- What the turn of a script makes of the stage, its notes apart: nothing, and then nothing is
delivered; or what the stage makes of an update that some script of the current epoch delivers. -/
theorem turn_stage (chronicle : Chronicle) (place : Nat) :
    let after := chronicle.take (.turn place)
    ∃ notes : Journal Note,
      (after.stage = { chronicle.stage with notes } ∧ after.deliveries = chronicle.deliveries) ∨
        ∃ task ∈ chronicle.tasks, task.epoch = chronicle.stage.epoch ∧ ∃ update,
          after.stage =
            ({ chronicle.stage with notes }.receive task.sprite chronicle.stage.epoch update).1 ∧
          after.deliveries = chronicle.deliveries ++
            [⟨chronicle.performance.now, task.epoch, task.sprite, update⟩] := by
  have called := chronicle.performance.callUp_perm place
  simp only [take]
  rw [Performance.callUp_eq]
  generalize (chronicle.performance.callUp place).ready = ready at called
  cases ready with
  | nil =>
      rw [act_nil rfl]
      exact ⟨chronicle.stage.notes, Or.inl ⟨rfl, rfl⟩⟩
  | cons task others =>
      have known : task ∈ chronicle.tasks := by
        have inLine := called.mem_iff.mp List.mem_cons_self
        simp [tasks, inLine]
      obtain ⟨notes, same | ⟨current, _, update, received⟩⟩ := @act_stage
        { chronicle with performance := { chronicle.performance with ready := task :: others } }
        task others rfl
      · exact ⟨notes, Or.inl same⟩
      · exact ⟨notes, Or.inr ⟨task, known, current, update, received⟩⟩

/-- Whatever move comes next, the stage makes one change and tells of it. -/
theorem Sound.take_tells {chronicle : Chronicle} (sound : chronicle.Sound) (move : Move) :
    chronicle.stage.Tells (chronicle.take move).stage := by
  cases move with
  | amend amendment => exact sound.numbered.amend_tells amendment
  | play => exact chronicle.stage.play_tells
  | stop => exact chronicle.stage.stop_tells
  | clock time => exact .of_same rfl rfl
  | turn place =>
      obtain ⟨notes, ⟨same, _⟩ | ⟨task, known, current, update, received, _⟩⟩ :=
        chronicle.turn_stage place
      · rw [same]
        exact .of_same rfl rfl
      · have playing : ({ chronicle.stage with notes } : Stage).playing = true :=
          sound.playing known current
        have tells := Stage.receive_tells playing task.sprite update
        rw [received]
        exact tells.congr rfl rfl rfl rfl

/-- Between two moments of a chronicle there is a story. -/
theorem Sound.follow_story {chronicle : Chronicle} (sound : chronicle.Sound) (moves : List Move) :
    (chronicle.follow moves).Sound ∧ ∃ told,
      (chronicle.follow moves).stage.log = chronicle.stage.log ++ told ∧
        chronicle.stage.scene.Story told (chronicle.follow moves).stage.scene := by
  apply follow_induction (fun later => later.Sound ∧ ∃ told,
    later.stage.log = chronicle.stage.log ++ told ∧
      chronicle.stage.scene.Story told later.stage.scene)
  · rintro later move ⟨soundLater, told, log, story⟩
    obtain ⟨more, grown, change⟩ := soundLater.take_tells move
    refine ⟨soundLater.take move, told ++ more, ?_, story.change change⟩
    rw [grown, log, List.append_assoc]
  · exact ⟨sound, [], (List.append_nil _).symm, .beginning⟩

/-- All that was ever published tells the story of the stage since it was bare. -/
theorem story {project : Project} {hosted : Bool} {stage : Stage}
    (built : Stage.ofProject project hosted = .ok stage) (moves : List Move) :
    let later := ((create stage).follow moves).stage
    Scene.empty.Story later.log later.scene := by
  intro later
  obtain ⟨_, told, log, story⟩ :=
    (Sound.create (Stage.ofProject_numbered built)).follow_story moves
  rw [log]
  exact (Stage.ofProject_story built).trans story

/-- An event that came after some moment came from one move. When that move was taken, exactly the
events before it had been published, those of the same move apart; and the other events of the move
stand around it. -/
theorem Sound.moment {start : Chronicle} (sound : start.Sound) {moves : List Move}
    {before rest : List Event} {event : Event} (new : event ∉ start.stage.log)
    (split : (start.follow moves).stage.log = before ++ event :: rest) :
    ∃ earlier move first last, earlier ++ [move] <+: moves ∧
      let there := start.follow earlier
      let told := first ++ event :: last
      there.stage.log ++ first = before ∧ last <+: rest ∧
        (there.take move).stage.log = there.stage.log ++ told ∧
        there.stage.scene.Change told (there.take move).stage.scene := by
  induction moves using List.reverseRecOn generalizing rest with
  | nil =>
      have log : start.stage.log = before ++ event :: rest := split
      simp [log] at new
  | append_singleton moves move more =>
      obtain ⟨told, log, change⟩ := (sound.follow_story moves).1.take_tells move
      have whole : (start.follow moves).stage.log ++ told = before ++ event :: rest := by
        rw [← log, ← split, follow_append]
        rfl
      rcases List.append_eq_append_iff.mp whole with ⟨first, same, here⟩ | ⟨tail, same, here⟩
      · subst here
        exact ⟨moves, move, first, rest, List.prefix_rfl, same.symm, List.prefix_rfl, log, change⟩
      · cases tail with
        | nil =>
            rw [List.nil_append] at here
            rw [List.append_nil] at same
            subst here
            exact ⟨moves, move, [], rest, List.prefix_rfl, by rw [same, List.append_nil],
              List.prefix_rfl, log, change⟩
        | cons head tail =>
            rw [List.cons_append, List.cons.injEq] at here
            obtain ⟨rfl, rfl⟩ := here
            obtain ⟨earlier, other, first, last, inside, found⟩ := more same
            refine ⟨earlier, other, first, last, inside.trans (List.prefix_append _ _), found.1,
              found.2.1.trans (List.prefix_append _ _), found.2.2⟩

/-! ## A visit -/

/-- Two sprites, of which the first is about to jump next to the second, where the two will swap their
blocks. -/
def neighbours : Project :=
  let jumper : SpriteDefinition :=
    { name := none, x := none, y := none, direction := 90
      blocks := [⟨.goTo, ⟨[("x", .integer 110)]⟩⟩] }
  let greeter : SpriteDefinition :=
    { name := none, x := none, y := none, direction := 90
      blocks := [⟨.sayFor, ⟨[("message", .string "hello")]⟩⟩] }
  { config := { swapDistance := some 30 }, sprites := [jumper, greeter] }

/-- The first sprite jumps and swaps with the second one. Their old scripts end, and the first one's new
script greets until the stage is stopped. -/
def visit : List Move := [.play, .turn 0, .turn 1, .turn 1, .turn 1, .stop]

end SpriteStage.Chronicle
