/-
Module: SpriteStage.Proofs.Performance.Rest
Purpose: Speech and rest. No sprite ever says and thinks something at once. A stage that is not playing is
  silent, and until it plays again nothing but a drag moves anybody on it, however much time passes and
  whatever scripts of earlier plays are still there.
Main exports: Stage.Quiet, Chronicle.Sound.follow_quiet, Move.dragged, Chronicle.Sound.follow_at_rest,
  Chronicle.still_at_rest
-/
import SpriteStage.Proofs.Performance.Alterations

namespace SpriteStage

/-! ## Quiet stages -/

/-- No sprite says and thinks something at once, and none says or thinks anything unless the stage is
playing. -/
structure Stage.Quiet (stage : Stage) : Prop where
  discreet : ∀ sprite ∈ stage.sprites, sprite.Discreet
  silent : stage.playing = false → ∀ sprite ∈ stage.sprites, sprite.Silent

theorem Stage.foldl_addDefinedBlock_silent (definitions : List BlockDefinition)
    (built : Sprite × BlockSupply) (silent : built.1.Silent) :
    (definitions.foldl addDefinedBlock built).1.Silent := by
  obtain ⟨blocks, same⟩ := foldl_addDefinedBlock_frame definitions built
  rw [same]
  exact silent

/-- Nobody has said or thought anything on a stage that was set up. -/
theorem Stage.ofProject_quiet {project : Project} {hosted : Bool} {stage : Stage}
    (built : ofProject project hosted = .ok stage) : stage.Quiet := by
  have inserted : ∀ (stage : Stage) (sprite : Sprite), (∀ old ∈ stage.sprites, old.Silent) →
      sprite.Silent → ∀ old ∈ (stage.insert sprite).sprites, old.Silent := by
    intro stage sprite silent new old member
    rcases List.mem_append.mp member with there | last
    · exact silent old there
    · rw [List.mem_singleton.mp last]
      exact new
  have silent := ofProject_induction built (fun stage => ∀ sprite ∈ stage.sprites, sprite.Silent)
    nofun (fun stage silent => inserted stage _ silent ⟨rfl, rfl⟩)
    (fun stage _ silent => inserted _ _ silent (foldl_addDefinedBlock_silent _ _ ⟨rfl, rfl⟩))
  exact ⟨fun sprite member => (silent sprite member).discreet, fun _ => silent⟩

namespace Sprite.Silent

variable {sprite : Sprite}

/-- Nothing that is done to the sprites of a stage that is not playing makes them speak. -/
theorem alter_at_rest (silent : sprite.Silent) (move : Move) :
    (sprite.alter move.alterationAtRest).Silent := by
  cases move with
  | play | turn | clock => exact silent
  | stop => exact ⟨rfl, rfl⟩
  | amend amendment =>
      cases amendment with
      | moveSprite id x y =>
          simp only [Move.alterationAtRest, Amendment.alteration, alter]
          split
          · exact silent
          · exact silent
      | _ => exact silent

end Sprite.Silent

namespace Chronicle

/-- Whoever comes is silent. -/
theorem entrants_silent {chronicle : Chronicle} {move : Move} {sprite : Sprite}
    (enters : sprite ∈ chronicle.entrants move) : sprite.Silent := by
  cases move with
  | play | stop | turn | clock => cases enters
  | amend amendment =>
      cases amendment with
      | addSprite =>
          rw [List.mem_singleton.mp enters]
          exact ⟨rfl, rfl⟩
      | _ => cases enters

/-- A move that leaves the stage at rest is a stop, or the stage was at rest before. -/
theorem rested {chronicle : Chronicle} {move : Move}
    (resting : (chronicle.take move).stage.playing = false) :
    move = .stop ∨ move ≠ .play ∧ chronicle.stage.playing = false := by
  have plays := mt (chronicle.take_playing move).mpr (Bool.eq_false_iff.mp resting)
  simp only [not_or, not_and, Bool.not_eq_true] at plays
  by_cases stops : move = .stop
  · exact Or.inl stops
  · exact Or.inr ⟨plays.1, plays.2 stops⟩

theorem Sound.take_quiet {chronicle : Chronicle} (sound : chronicle.Sound)
    (quiet : chronicle.stage.Quiet) (move : Move) : (chronicle.take move).stage.Quiet where
  discreet := by
    intro sprite member
    rcases (sound.take_alters move).mem member with ⟨old, inside, blocks, rfl⟩ | new
    · exact (quiet.discreet old inside).alter (chronicle.alteration move)
    · exact (entrants_silent new).discreet
  silent := by
    intro resting sprite member
    rcases (sound.take_alters move).mem member with ⟨old, inside, blocks, rfl⟩ | new
    · rcases rested resting with rfl | ⟨still, before⟩
      · exact ⟨rfl, rfl⟩
      · rw [sound.alteration_at_rest before still]
        exact (quiet.silent before old inside).alter_at_rest move
    · exact entrants_silent new

theorem Sound.follow_quiet {chronicle : Chronicle} (sound : chronicle.Sound)
    (quiet : chronicle.stage.Quiet) (moves : List Move) : (chronicle.follow moves).stage.Quiet := by
  have kept := follow_induction (fun later => later.Sound ∧ later.stage.Quiet)
    (fun _ move holds => ⟨holds.1.take move, holds.1.take_quiet holds.2 move⟩) moves _ ⟨sound, quiet⟩
  exact kept.2

end Chronicle

/-! ## Stages at rest -/

/-- Where a move puts a sprite of a stage that is not playing: elsewhere if it is a drag of the sprite. -/
def Move.dragged (id : SpriteId) (pose : Pose) : Move → Pose
  | .amend (.moveSprite other x y) => if id = other then { pose with x, y } else pose
  | _ => pose

theorem Sprite.alter_at_rest_pose (sprite : Sprite) (move : Move) :
    (sprite.alter move.alterationAtRest).pose = Move.dragged sprite.id sprite.pose move := by
  cases move with
  | play | stop | turn | clock => rfl
  | amend amendment =>
      cases amendment with
      | moveSprite id x y =>
          simp only [Move.alterationAtRest, Amendment.alteration, alter, Move.dragged]
          split
          · rfl
          · rfl
      | _ => rfl

namespace Chronicle

/-- As long as it is not played, a stage at rest stays at rest, and each of its sprites stays where drags
put it. -/
theorem Sound.follow_at_rest {chronicle : Chronicle} (sound : chronicle.Sound)
    (resting : chronicle.stage.playing = false) {moves : List Move} (unplayed : .play ∉ moves) :
    (chronicle.follow moves).stage.playing = false ∧
      ∀ (index : Nat) (sprite : Sprite), chronicle.stage.sprites[index]? = some sprite →
        ∃ same : Sprite, (chronicle.follow moves).stage.sprites[index]? = some same ∧
          same.id = sprite.id ∧ same.pose = moves.foldl (Move.dragged sprite.id) sprite.pose := by
  induction moves generalizing chronicle with
  | nil => exact ⟨resting, fun index sprite there => ⟨sprite, there, rfl, rfl⟩⟩
  | cons move rest later =>
      obtain ⟨first, unplayed⟩ := not_or.mp (mt List.mem_cons.mpr unplayed)
      have still : (chronicle.take move).stage.playing = false := by
        apply Bool.eq_false_iff.mpr
        intro plays
        rcases (chronicle.take_playing move).mp plays with played | ⟨_, before⟩
        · exact first played.symm
        · rw [resting] at before
          cases before
      obtain ⟨restsOn, stays⟩ := later (sound.take move) still unplayed
      refine ⟨restsOn, ?_⟩
      intro index sprite there
      obtain ⟨blocks, next⟩ := (sound.take_alters move).getElem? there
      rw [sound.alteration_at_rest resting (Ne.symm first)] at next
      obtain ⟨same, found, own, pose⟩ := stays index _ next
      have id := sprite.alter_id move.alterationAtRest
      refine ⟨same, found, own.trans id, pose.trans ?_⟩
      simp only [Sprite.holding, id, sprite.alter_at_rest_pose, List.foldl_cons]

/-- Whatever is done with a stage, and in whatever order its scripts have their turns: no sprite says and
thinks something at once. If the stage is not playing, no sprite says or thinks anything; and as long as it
is not played, it stays so, and each sprite stays where it is but for the drags of that sprite, whatever
time passes and whatever scripts have their turns. -/
theorem still_at_rest {project : Project} {hosted : Bool} {stage : Stage}
    (built : Stage.ofProject project hosted = .ok stage) (moves : List Move) :
    let chronicle := (create stage).follow moves
    let sprites := chronicle.stage.sprites
    (∀ sprite ∈ sprites, sprite.say = "" ∨ sprite.think = "") ∧
      (chronicle.stage.playing = false →
        (∀ sprite ∈ sprites, sprite.say = "" ∧ sprite.think = "") ∧
        ∀ more, .play ∉ more →
          let later := chronicle.follow more
          later.stage.playing = false ∧
            (∀ sprite ∈ later.stage.sprites, sprite.say = "" ∧ sprite.think = "") ∧
            ∀ (index : Nat) (sprite : Sprite), sprites[index]? = some sprite →
              ∃ same : Sprite, later.stage.sprites[index]? = some same ∧ same.id = sprite.id ∧
                same.pose = more.foldl (Move.dragged sprite.id) sprite.pose) := by
  intro chronicle sprites
  have begun : (create stage).Sound := .create (Stage.ofProject_numbered built)
  have sound : chronicle.Sound := (begun.follow_story moves).1
  have quiet : chronicle.stage.Quiet := begun.follow_quiet (Stage.ofProject_quiet built) moves
  refine ⟨quiet.discreet, fun resting => ⟨quiet.silent resting, ?_⟩⟩
  intro more unplayed later
  obtain ⟨restsOn, stays⟩ := sound.follow_at_rest resting unplayed
  exact ⟨restsOn, (sound.follow_quiet quiet more).silent restsOn, stays⟩

/-- After a visit, whose greeting was cut off, the greeter is dragged. Its old script still has its turn, time
passes, and the stage is stopped once more; the greeter stands where it was put, and nobody says anything. -/
theorem still_at_rest_visit :
    let more : List Move :=
      [.turn 0, .amend (.moveSprite ⟨"sprite-1"⟩ 5 7), .clock 5000, .turn 0, .stop]
    ∃ stage, Stage.ofProject neighbours true = .ok stage ∧
      let there := (create stage).follow visit
      there.stage.playing = false ∧ .play ∉ more ∧
        (∀ sprite ∈ (there.follow more).stage.sprites, sprite.say = "" ∧ sprite.think = "") ∧
        ∃ greeter : Sprite, (there.follow more).stage.sprites[0]? = some greeter ∧
          greeter.pose.x = 5 ∧ greeter.pose.y = 7 := by
  intro more
  obtain ⟨stage, built⟩ : ∃ stage, Stage.ofProject neighbours true = .ok stage := ⟨_, rfl⟩
  have whole : stage = neighbours.sprites.foldl Stage.addDefinedSprite (.bare neighbours.config) :=
    (Except.ok.inj built).symm
  have resting : ((create stage).follow visit).stage.playing = false := by
    subst whole
    decide +kernel
  have unplayed : .play ∉ more := by decide
  obtain ⟨_, silent, stays⟩ := ((still_at_rest built visit).2 resting).2 more unplayed
  obtain ⟨sprite, first, own⟩ : ∃ sprite : Sprite,
      ((create stage).follow visit).stage.sprites[0]? = some sprite ∧ sprite.id = ⟨"sprite-1"⟩ := by
    apply Option.map_eq_some_iff.1
    subst whole
    decide +kernel
  obtain ⟨greeter, found, _, pose⟩ := stays 0 sprite first
  refine ⟨stage, built, resting, unplayed, silent, greeter, found, ?_, ?_⟩
  · rw [pose, own]
    rfl
  · rw [pose, own]
    rfl

end Chronicle

end SpriteStage
