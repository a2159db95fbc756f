/-
Module: SpriteStage.Proofs.Performance.Notes
Purpose: The log of the runtime. What a stage refuses and what its tasks do is noted at the lower
  levels; at the level of information there is one line for each epoch, with which the play, the
  stop or the swap that began it says its number. A block that is skipped has an opcode that means
  nothing.
Main exports: Stage.notesAt, Note.Announces, Note.Announces.text, Stage.Announced,
  Chronicle.announces_epochs, Performance.skips_unknown
-/
import Mathlib.Data.List.Forall2
import SpriteStage.Proofs.Performance.Chronicle
import SpriteStage.Proofs.Script.Acts

namespace SpriteStage

/-- The notes of a stage at a level of the log. -/
def Stage.notesAt (stage : Stage) (level : Note.Level) : List Note :=
  stage.notes.toList.filter fun note => note.level = level

namespace Note

/-- The note tells of the beginning of an epoch. -/
inductive Announces (epoch : Nat) : Note → Prop where
  | played (scripts : Nat) : Announces epoch (.played epoch scripts)
  | stopped : Announces epoch (.stopped epoch)
  | swapped (first second : SpriteId) : Announces epoch (.swapped first second epoch)

theorem Announces.level {epoch : Nat} {note : Note} (announces : note.Announces epoch) :
    note.level = .info := by
  cases announces <;> rfl

/-- Its line says which epoch. -/
theorem Announces.text {epoch : Nat} {note : Note} (announces : note.Announces epoch) :
    ∃ front back, note.text = front ++ "epoch " ++ toString epoch ++ back := by
  cases announces with
  | played scripts =>
      have head : "play, epoch " = "play, " ++ "epoch " := by decide +kernel
      refine ⟨"play, ", ", " ++ toString scripts ++ " scripts", ?_⟩
      show "play, epoch " ++ toString epoch ++ ", " ++ toString scripts ++ " scripts" = _
      rw [head]
      simp only [String.append_assoc, -String.reduceAppend]
  | stopped =>
      have head : "stop, epoch " = "stop, " ++ "epoch " := by decide +kernel
      refine ⟨"stop, ", "", ?_⟩
      show "stop, epoch " ++ toString epoch = _
      rw [head, String.append_empty]
  | swapped first second =>
      have middle : " swapped scripts, epoch " = " swapped scripts, " ++ "epoch " := by decide +kernel
      refine ⟨first.text ++ " and " ++ second.text ++ " swapped scripts, ", "", ?_⟩
      show first.text ++ " and " ++ second.text ++ " swapped scripts, epoch " ++ toString epoch = _
      rw [middle, String.append_empty]
      simp only [String.append_assoc, -String.reduceAppend]

end Note

namespace Stage

/-- At the level of information there is one note for each epoch, in order. -/
def Announced (stage : Stage) : Prop :=
  List.Forall₂ Note.Announces (List.range' 1 stage.epoch) (stage.notesAt .info)

namespace Announced

variable {stage before after : Stage}

theorem congr (announced : before.Announced) (notes : after.notes = before.notes)
    (epoch : after.epoch = before.epoch) : after.Announced := by
  rw [Announced, notesAt, notes, epoch]
  exact announced

/-- A note at another level makes no difference. -/
theorem note (announced : stage.Announced) {note : Note} (quiet : note.level ≠ .info) :
    (stage.note note).Announced := by
  have same : (stage.note note).notesAt .info = stage.notesAt .info := by
    simp [notesAt, Stage.note, quiet]
  rw [Announced, same]
  exact announced

/-- The next epoch is announced. -/
theorem begins (announced : before.Announced) {note : Note}
    (announces : note.Announces (before.epoch + 1)) (epoch : after.epoch = before.epoch + 1)
    (notes : after.notes = before.notes.push note) : after.Announced := by
  have told : after.notesAt .info = before.notesAt .info ++ [note] := by
    simp [notesAt, notes, announces.level]
  rw [Announced, told, epoch, List.range'_1_concat, Nat.add_comm 1]
  exact List.rel_append announced (.cons announces .nil)

/-! ## Edits -/

theorem insert (announced : stage.Announced) (sprite : Sprite) : (stage.insert sprite).Announced := by
  have noted : (stage.note (.added sprite.id sprite.pose)).Announced := announced.note nofun
  exact noted.congr rfl rfl

theorem edit (announced : stage.Announced) (kind : Edit) (id : SpriteId)
    (change : Sprite → Option Sprite) : (stage.edit kind id change).1.Announced := by
  unfold Stage.edit
  split
  · exact announced.note nofun
  · split
    · exact announced.note nofun
    · exact announced.congr rfl rfl

theorem addBlock (announced : stage.Announced) (id : SpriteId) (opcode : Opcode) :
    (stage.addBlock id opcode).1.Announced := by
  have edited := announced.edit .addBlock id fun sprite =>
    some (sprite.addBlock (stage.supply.create opcode).1)
  simp only [Stage.addBlock]
  split
  · rename_i applied
    rw [applied] at edited
    exact edited.congr rfl rfl
  · rename_i refused
    rw [refused] at edited
    exact edited

theorem amend (announced : stage.Announced) (amendment : Amendment) :
    (stage.amend amendment).Announced := by
  cases amendment with
  | addSprite => exact announced.insert _
  | select id =>
      show (stage.select id).1.Announced
      unfold Stage.select
      split
      · exact announced.congr rfl rfl
      · exact announced.note nofun
  | addBlock id opcode => exact announced.addBlock id opcode
  | addBlockToSelected opcode =>
      show (stage.addBlockToSelected opcode).1.Announced
      unfold Stage.addBlockToSelected
      split
      · exact announced.addBlock _ opcode
      · exact announced
  | removeBlock | reorderBlock | updateBlock | moveSprite => exact announced.edit _ _ _

/-! ## Playing -/

theorem play (announced : stage.Announced) : stage.play.1.Announced := by
  by_cases playing : stage.playing = true
  · rw [play_of_playing playing]
    exact announced.note nofun
  · simp only [Stage.play, playing, Bool.false_eq_true, if_false, publishAll_eq]
    exact announced.begins (.played _) rfl rfl

theorem stop (announced : stage.Announced) : stage.stop.Announced := by
  simp only [Stage.stop, publishAll_eq]
  exact announced.begins .stopped rfl rfl

theorem swap (announced : stage.Announced) (mover partner : Sprite) :
    (stage.swap mover partner).1.Announced := by
  simp only [Stage.swap, publishAll_eq]
  exact announced.begins (.swapped _ _) rfl rfl

theorem swapIfClose (announced : stage.Announced) (id : SpriteId) (epoch : Nat) (distance : Float) :
    (stage.swapIfClose id epoch distance).1.Announced := by
  unfold Stage.swapIfClose
  split
  · exact announced
  · split
    · exact announced
    · split
      · exact announced
      · exact announced.swap _ _

theorem receive (announced : stage.Announced) (id : SpriteId) (epoch : Nat) (update : Update) :
    (stage.receive id epoch update).1.Announced := by
  unfold Stage.receive
  split
  · exact announced
  · split
    · exact announced
    · have shown : ∀ sprite, ((stage.replace sprite).publish (.changed sprite)).Announced :=
        fun sprite => announced.congr rfl rfl
      dsimp only
      split
      · exact (shown _).swapIfClose _ _ _
      · exact shown _

end Announced

/-- A stage that was set up is in no epoch yet. -/
theorem ofProject_announced {project : Project} {hosted : Bool} {stage : Stage}
    (built : ofProject project hosted = .ok stage) : stage.Announced :=
  ofProject_induction built (fun stage => stage.Announced) .nil
    (fun _ announced => announced.insert _) fun _ _ announced => announced.insert _

end Stage

/-! ## Tasks -/

namespace Performance

theorem begin_announced {stage : Stage} (announced : stage.Announced) (task : Task) :
    (begin stage task).Announced := by
  unfold begin
  split
  · exact announced
  · exact announced.note nofun

theorem act_announced {performance next : Performance} (acts : performance.act = some next)
    (announced : performance.stage.Announced) : next.stage.Announced := by
  unfold act at acts
  split at acts
  · cases acts
  · rename_i task others line
    have begun := begin_announced announced task
    dsimp only at acts
    split at acts
    all_goals cases acts
    · exact begun.note nofun
    · exact begun
    · exact begun.note nofun
    · exact begun.receive _ _ _
    · exact begun
    · exact begun

/-- A script notes that it skips a block only if the opcode of the block means nothing. -/
theorem skips_unknown {performance : Performance} {task : Task} {tag : String} {run : Run}
    (skips : performance.progress task = .skipped tag run) :
    ∃ block ∈ task.run.left ++ task.run.body, block.opcode.isKnown = false ∧ block.opcode.tag = tag := by
  have comes := task.run.proceed_comesTo performance.stage.config
    (decide (task.epoch = performance.stage.epoch)) true
  rw [← progress, skips] at comes
  cases comes with
  | skipped next =>
      obtain ⟨block, member, unknown⟩ := Run.unknown_of_next_skip next
      exact ⟨block, member, by simp [unknown, Opcode.isKnown], by rw [unknown, Opcode.tag]⟩

end Performance

namespace Chronicle

/-- Whatever is done with a stage, and in whatever order its tasks are polled, the log has one line
for each epoch at the level of information, and each line says the number of its epoch. -/
theorem announces_epochs {project : Project} {hosted : Bool} {stage : Stage}
    (built : Stage.ofProject project hosted = .ok stage) (moves : List Move) :
    ((create stage).follow moves).stage.Announced := by
  refine follow_induction (fun chronicle => chronicle.stage.Announced) ?_ moves _
    (Stage.ofProject_announced built)
  intro chronicle move announced
  cases move with
  | amend amendment => exact announced.amend amendment
  | play => exact announced.play
  | stop => exact announced.stop
  | clock time => exact announced
  | turn place =>
      have called : (chronicle.performance.callUp place).stage.Announced := by
        rw [Performance.callUp_eq]
        exact announced
      simp only [take, act]
      split
      · rename_i acts
        exact Performance.act_announced acts called
      · exact called

end Chronicle

end SpriteStage
