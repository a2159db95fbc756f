/-
Module: SpriteStage.Proofs.Performance.Edits
Purpose: Edits of a stage that runs. The tasks, the clock and the past do not notice an edit. In
  every chronicle an edit changes the record of one sprite, or the selection, or nothing at all, and
  whether it applies can be read off the stage.
Main exports: Chronicle.edits_framed
-/
import SpriteStage.Proofs.Performance.Roster

namespace SpriteStage.Chronicle

/-- In every chronicle an edit answers that it applies exactly if the stage has the sprite that the
edit names, the sprite holds the blocks that the edit names, and these are two blocks where it takes
two; a sprite is always selected, so adding a block to the selected one applies. If an edit does not
apply all stays as it was, and there is at most one more note. If a sprite is selected nothing else
changes. If a sprite is edited the stage differs in the record of this sprite, in its blocks or, if
it was dragged, in the place where it stands, and publishes the new record. The scripts, the clock
and the past stay as they were in each case. -/
theorem edits_framed {project : Project} {hosted : Bool} {stage : Stage}
    (built : Stage.ofProject project hosted = .ok stage) (moves : List Move)
    (amendment : Amendment) :
    let chronicle := (create stage).follow moves
    let before := chronicle.stage
    let after := chronicle.take (.amend amendment)
    (before.applies amendment = true ↔ before.Admits amendment) ∧
      (∀ opcode, before.applies (.addBlockToSelected opcode) = true) ∧
      (before.applies amendment = false →
        ∃ notes, after = chronicle.onStage { before with notes }) ∧
      (∀ id, amendment = .select id → before.applies amendment = true →
        after = chronicle.onStage { before with selected := some id }) ∧
      (∀ id, before.addressee? amendment = some id → before.applies amendment = true →
        ∃ old new, old.id = id ∧ before.Rewrites old new amendment ∧
          before.Revises after.stage old new ∧ after = chronicle.onStage after.stage) := by
  intro chronicle before after
  have begun : (create stage).Sound := .create (Stage.ofProject_numbered built)
  have numbered : before.Numbered := (begun.follow_story moves).1.numbered
  refine ⟨numbered.applies_iff amendment, ?_, ?_, ?_, ?_⟩
  · intro opcode
    have selected := begun.follow_selected_mem (Stage.ofProject_selects built) moves
    exact (numbered.applies_iff _).mpr selected
  · intro refused
    obtain ⟨notes, same⟩ := Stage.amend_refused refused
    exact ⟨notes, congrArg chronicle.onStage same⟩
  · rintro id rfl applied
    exact congrArg chronicle.onStage (Stage.amend_selects applied)
  · intro id about applied
    obtain ⟨old, new, same, rewrites, revises⟩ := numbered.amend_revises about applied
    exact ⟨old, new, same, rewrites, revises, rfl⟩

/-- After a visit the two sprites have swapped their blocks. The first one no longer holds the block
that it came with, so that it cannot be removed from it; the second one does, and it is removed from
it. -/
theorem edits_framed_visit :
    ∃ stage, Stage.ofProject neighbours true = .ok stage ∧
      let chronicle := (create stage).follow visit
      let jump : BlockId := ⟨1⟩
      let astray : Amendment := .removeBlock ⟨"sprite-1"⟩ jump
      let apt : Amendment := .removeBlock ⟨"sprite-2"⟩ jump
      (∃ notes, chronicle.take (.amend astray) = chronicle.onStage { chronicle.stage with notes }) ∧
        ∃ old new : Sprite, old.id = ⟨"sprite-2"⟩ ∧
          chronicle.stage.Revises (chronicle.take (.amend apt)).stage old new ∧
          new = { old with blocks := old.blocks.filter fun other => other.id ≠ jump } := by
  obtain ⟨stage, built⟩ : ∃ stage, Stage.ofProject neighbours true = .ok stage := ⟨_, rfl⟩
  have whole : stage = neighbours.sprites.foldl Stage.addDefinedSprite (.bare neighbours.config) :=
    (Except.ok.inj built).symm
  refine ⟨stage, built, ?_⟩
  intro chronicle jump astray apt
  have refused : chronicle.stage.applies astray = false := by
    subst whole
    decide +kernel
  have applied : chronicle.stage.applies apt = true := by
    subst whole
    decide +kernel
  obtain ⟨_, _, refusal, _, _⟩ := edits_framed built visit astray
  obtain ⟨_, _, _, _, revision⟩ := edits_framed built visit apt
  obtain ⟨old, new, same, rewrites, revises, _⟩ := revision ⟨"sprite-2"⟩ rfl applied
  exact ⟨refusal refused, old, new, same, revises, rewrites⟩

end SpriteStage.Chronicle
