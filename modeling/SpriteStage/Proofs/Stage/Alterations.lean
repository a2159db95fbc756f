/-
Module: SpriteStage.Proofs.Stage.Alterations
Purpose: What operations of a stage make of the records of its sprites, their blocks aside. There are five
  things that can be done to them: nothing, a drag of one sprite, sending all of them home, silencing all of
  them, and an update of one sprite. None of these changes who a sprite is, and none lets a sprite say and
  think something at once.
Main exports: Alteration, Sprite.alter, Sprite.Discreet, Sprite.Silent, Stage.Alters, Stage.Alters.getElem?,
  Stage.Alters.mem, Stage.Numbered.amend_alters, Stage.play_alters, Stage.stop_alters,
  Stage.Numbered.receive_alters
-/
import SpriteStage.Proofs.Sprite.BlockEdits
import SpriteStage.Proofs.Stage.Transitions

namespace SpriteStage

/-- Something done to the sprites of a stage. -/
inductive Alteration where
  | none
  /-- Puts one sprite somewhere else. -/
  | drag (id : SpriteId) (x y : Float)
  | reset
  | hush
  /-- Lets one sprite take an update. -/
  | update (id : SpriteId) (update : Update)
deriving DecidableEq, Repr

/-- What an edit does to sprites, their blocks aside. -/
def Amendment.alteration : Amendment → Alteration
  | .moveSprite id x y => .drag id x y
  | .addSprite | .select _ | .addBlock _ _ | .addBlockToSelected _ | .removeBlock _ _
  | .reorderBlock _ _ _ | .updateBlock _ _ _ => .none

namespace Sprite

/-- The sprite after something was done to the sprites of its stage. -/
def alter (sprite : Sprite) : Alteration → Sprite
  | .none => sprite
  | .drag id x y => if sprite.id = id then sprite.moveTo x y else sprite
  | .reset => sprite.reset
  | .hush => sprite.hush
  | .update id update => if sprite.id = id then sprite.apply update else sprite

/-- The sprite with other blocks. -/
def holding (sprite : Sprite) (blocks : List Block) : Sprite := { sprite with blocks }

/-- Who a sprite is: its id, its name and its home. -/
def identity (sprite : Sprite) : SpriteId × String × Pose := (sprite.id, sprite.name, sprite.home)

theorem apply_identity (sprite : Sprite) (update : Update) :
    (sprite.apply update).identity = sprite.identity := by
  cases update with
  | pose pose => rfl
  | speech voice text => cases voice <;> rfl

/-- Whatever is done to a sprite, it stays who it is. -/
theorem alter_identity (sprite : Sprite) (alteration : Alteration) :
    (sprite.alter alteration).identity = sprite.identity := by
  cases alteration with
  | none | reset | hush => rfl
  | drag id x y =>
      simp only [alter]
      split
      · rfl
      · rfl
  | update id update =>
      simp only [alter]
      split
      · exact apply_identity sprite update
      · rfl

theorem alter_id (sprite : Sprite) (alteration : Alteration) :
    (sprite.alter alteration).id = sprite.id :=
  congrArg Prod.fst (sprite.alter_identity alteration)

/-! ## Speech -/

/-- The sprite does not say and think something at once. -/
def Discreet (sprite : Sprite) : Prop := sprite.say = "" ∨ sprite.think = ""

/-- The sprite neither says nor thinks anything. -/
def Silent (sprite : Sprite) : Prop := sprite.say = "" ∧ sprite.think = ""

theorem Silent.discreet {sprite : Sprite} (silent : sprite.Silent) : sprite.Discreet :=
  Or.inl silent.1

/-- A text that says something takes the place of the other voice, and an empty one says nothing. -/
theorem speak_discreet (sprite : Sprite) (voice : Voice) (text : String) :
    (sprite.speak voice text).Discreet := by
  cases voice with
  | say =>
      by_cases empty : text = ""
      · exact Or.inl empty
      · exact Or.inr (if_neg empty)
  | think =>
      by_cases empty : text = ""
      · exact Or.inr empty
      · exact Or.inl (if_neg empty)

theorem Discreet.alter {sprite : Sprite} (discreet : sprite.Discreet) (alteration : Alteration) :
    (sprite.alter alteration).Discreet := by
  cases alteration with
  | none => exact discreet
  | reset | hush => exact Or.inl rfl
  | drag id x y =>
      simp only [Sprite.alter]
      split
      · exact discreet
      · exact discreet
  | update id update =>
      simp only [Sprite.alter]
      split
      · cases update with
        | pose pose => exact discreet
        | speech voice text => exact speak_discreet sprite voice text
      · exact discreet

end Sprite

namespace Stage

/-- The later stage has the sprites of the earlier one, altered and with whatever blocks, and behind them
those that have come. -/
def Alters (before after : Stage) (alteration : Alteration) (entrants : List Sprite) : Prop :=
  ∃ blocks : Sprite → List Block,
    after.sprites =
      (before.sprites.map fun sprite => (sprite.alter alteration).holding (blocks sprite)) ++ entrants

namespace Alters

variable {before after : Stage} {alteration : Alteration} {entrants : List Sprite}

/-- If nobody has come, it is enough to know what became of each sprite. -/
theorem of_map {change : Sprite → Sprite} (sprites : after.sprites = before.sprites.map change)
    (altered : ∀ old ∈ before.sprites, ∃ blocks, change old = (old.alter alteration).holding blocks) :
    before.Alters after alteration [] := by
  refine ⟨fun sprite => (change sprite).blocks, ?_⟩
  rw [sprites, List.append_nil]
  apply List.map_congr_left
  intro old member
  obtain ⟨blocks, made⟩ := altered old member
  simp only [made]
  rfl

/-- The same sprites, if nothing was done to any of them. -/
theorem of_same (sprites : after.sprites = before.sprites)
    (unaltered : ∀ old ∈ before.sprites, old.alter alteration = old) :
    before.Alters after alteration [] := by
  have kept : after.sprites = before.sprites.map id := by rw [sprites, List.map_id]
  refine of_map kept fun old member => ⟨old.blocks, ?_⟩
  rw [unaltered old member]
  rfl

/-- Every sprite stays in its place. -/
theorem getElem? (alters : before.Alters after alteration entrants) {index : Nat} {sprite : Sprite}
    (there : before.sprites[index]? = some sprite) :
    ∃ blocks, after.sprites[index]? = some ((sprite.alter alteration).holding blocks) := by
  obtain ⟨blocks, sprites⟩ := alters
  obtain ⟨inside, _⟩ := List.getElem?_eq_some_iff.mp there
  refine ⟨blocks sprite, ?_⟩
  rw [sprites, List.getElem?_append_left (by simpa using inside), List.getElem?_map, there]
  rfl

/-- Every sprite was there before, or has come. -/
theorem mem (alters : before.Alters after alteration entrants) {sprite : Sprite}
    (member : sprite ∈ after.sprites) :
    (∃ old ∈ before.sprites, ∃ blocks, sprite = (old.alter alteration).holding blocks) ∨
      sprite ∈ entrants := by
  obtain ⟨blocks, sprites⟩ := alters
  rw [sprites] at member
  rcases List.mem_append.mp member with there | new
  · obtain ⟨old, inside, rfl⟩ := List.mem_map.mp there
    exact Or.inl ⟨old, inside, blocks old, rfl⟩
  · exact Or.inr new

/-- Nobody leaves. -/
theorem ids_subset (alters : before.Alters after alteration entrants) : before.ids ⊆ after.ids := by
  intro id known
  obtain ⟨sprite, member, rfl⟩ := List.mem_map.mp known
  obtain ⟨index, there⟩ := List.mem_iff_getElem?.mp member
  obtain ⟨blocks, stays⟩ := alters.getElem? there
  exact List.mem_map.mpr ⟨_, List.mem_of_getElem? stays, sprite.alter_id alteration⟩

end Alters

/-! ## Edits -/

/-- An edit does to one sprite what it is meant to do, or nothing if it does not apply. -/
theorem Numbered.edit_alters {stage : Stage} (numbered : stage.Numbered) (kind : Edit) (id : SpriteId)
    {change : Sprite → Option Sprite} {alteration : Alteration}
    (own : ∀ sprite changed, sprite.id = id → change sprite = some changed →
      ∃ blocks, changed = (sprite.alter alteration).holding blocks)
    (refused : ∀ sprite, change sprite = none → sprite.alter alteration = sprite)
    (others : ∀ sprite : Sprite, sprite.id ≠ id → sprite.alter alteration = sprite) :
    stage.Alters (stage.edit kind id change).1 alteration [] := by
  unfold edit
  cases found : stage.find? id with
  | none =>
      refine .of_same rfl fun old member => others old ?_
      have unknown := List.find?_eq_none.mp found old member
      simpa using unknown
  | some sprite =>
      have alone : ∀ old ∈ stage.sprites, old.id = id → old = sprite := fun old member same =>
        numbered.eq_of_id_eq member (find?_mem found) (same.trans (find?_id found).symm)
      cases changes : change sprite with
      | none =>
          simp only [changes]
          refine .of_same rfl fun old member => ?_
          by_cases here : old.id = id
          · rw [alone old member here]
            exact refused sprite changes
          · exact others old here
      | some changed =>
          obtain ⟨blocks, made⟩ := own sprite changed (find?_id found) changes
          have changedId : changed.id = id := by
            rw [made]
            exact (sprite.alter_id alteration).trans (find?_id found)
          simp only [changes]
          refine .of_map rfl fun old member => ?_
          by_cases here : old.id = id
          · exact ⟨blocks, by rw [if_pos (here.trans changedId.symm), made, alone old member here]⟩
          · have apart : old.id ≠ changed.id := changedId.symm ▸ here
            exact ⟨old.blocks, by rw [if_neg apart, others old here]; rfl⟩

/-- An edit of blocks leaves everything else as it is. -/
theorem Numbered.edit_blocks {stage : Stage} (numbered : stage.Numbered) (kind : Edit) (id : SpriteId)
    {change : Sprite → Option Sprite}
    (own : ∀ sprite changed, change sprite = some changed →
      ∃ blocks, changed = sprite.holding blocks) :
    stage.Alters (stage.edit kind id change).1 .none [] :=
  numbered.edit_alters kind id (fun sprite changed _ => own sprite changed) (fun _ _ => rfl)
    (fun _ _ => rfl)

theorem Numbered.addBlock_alters {stage : Stage} (numbered : stage.Numbered) (id : SpriteId)
    (opcode : Opcode) : stage.Alters (stage.addBlock id opcode).1 .none [] := by
  let change (sprite : Sprite) : Option Sprite :=
    some (sprite.addBlock (stage.supply.create opcode).1)
  have adds : ∀ sprite changed, change sprite = some changed →
      ∃ blocks, changed = sprite.holding blocks := by
    rintro sprite changed ⟨⟩
    exact ⟨_, rfl⟩
  obtain ⟨blocks, made⟩ := numbered.edit_blocks .addBlock id adds
  -- The supply and the answer apart, adding a block is an edit.
  have sprites : (stage.addBlock id opcode).1.sprites =
      (stage.edit .addBlock id change).1.sprites := by
    unfold addBlock
    dsimp only
    split <;> rename_i answers <;> rw [answers]
  exact ⟨blocks, sprites.trans made⟩

/-- The sprites that come with an edit. -/
def entrants (stage : Stage) : Amendment → List Sprite
  | .addSprite => [stage.nextSprite]
  | _ => []

theorem Numbered.amend_alters {stage : Stage} (numbered : stage.Numbered) (amendment : Amendment) :
    stage.Alters (stage.amend amendment) amendment.alteration (stage.entrants amendment) := by
  cases amendment with
  | addSprite =>
      refine ⟨Sprite.blocks, ?_⟩
      show stage.sprites ++ [stage.nextSprite] = _ ++ [stage.nextSprite]
      exact congrArg (· ++ _) (List.map_id' _).symm
  | select id =>
      show stage.Alters (stage.select id).1 .none []
      unfold select
      split
      · exact .of_same rfl fun _ _ => rfl
      · exact .of_same rfl fun _ _ => rfl
  | addBlock id opcode => exact numbered.addBlock_alters id opcode
  | addBlockToSelected opcode =>
      show stage.Alters (stage.addBlockToSelected opcode).1 .none []
      unfold addBlockToSelected
      split
      · exact numbered.addBlock_alters _ opcode
      · exact .of_same rfl fun _ _ => rfl
  | removeBlock id block =>
      apply numbered.edit_blocks
      intro sprite changed applies
      exact ⟨_, (Sprite.removeBlock?_eq_some applies).2⟩
  | reorderBlock id source target =>
      apply numbered.edit_blocks
      intro sprite changed applies
      obtain ⟨blocks, _, made⟩ := Sprite.reorderBlock?_eq_some applies
      exact ⟨blocks, made⟩
  | updateBlock id block change =>
      apply numbered.edit_blocks
      intro sprite changed applies
      exact ⟨_, (Sprite.updateBlock?_eq_some applies).2⟩
  | moveSprite id x y =>
      apply numbered.edit_alters
      · rintro sprite changed own ⟨⟩
        have moved : sprite.alter (.drag id x y) = sprite.moveTo x y := if_pos own
        refine ⟨sprite.blocks, ?_⟩
        show _ = (sprite.alter (.drag id x y)).holding sprite.blocks
        rw [moved]
        rfl
      · rintro sprite ⟨⟩
      · intro sprite other
        exact if_neg other

/-! ## Playing -/

/-- A play from rest sends all sprites home. -/
theorem play_alters {stage : Stage} (resting : stage.playing = false) :
    stage.Alters stage.play.1 .reset [] := by
  have sprites : stage.play.1.sprites = stage.sprites.map Sprite.reset := by
    simp only [play, resting, Bool.false_eq_true, if_false, publishAll_eq]
    rfl
  exact .of_map sprites fun old _ => ⟨old.blocks, rfl⟩

/-- A stop silences all sprites. -/
theorem stop_alters (stage : Stage) : stage.Alters stage.stop .hush [] := by
  have sprites : stage.stop.sprites = stage.sprites.map Sprite.hush := by
    simp only [stop, publishAll_eq]
    rfl
  exact .of_map sprites fun old _ => ⟨old.blocks, rfl⟩

/-- An update of a script is taken by its sprite, with or without a swap. -/
theorem Numbered.receive_alters {stage : Stage} (numbered : stage.Numbered) (id : SpriteId)
    (update : Update) :
    stage.Alters (stage.receive id stage.epoch update).1 (.update id update) [] := by
  rcases stage.receive_cases id update with ⟨unknown, same⟩ | ⟨sprite, found, changed | swaps⟩
  · rw [same]
    refine .of_same rfl fun old member => if_neg ?_
    simpa using List.find?_eq_none.mp unknown old member
  · rw [changed]
    refine .of_map (numbered.showing_sprites found update) fun old _ => ?_
    exact ⟨(old.alter (.update id update)).blocks, rfl⟩
  · obtain ⟨partner, member, apart, _, swapped⟩ := swaps
    rw [swapped]
    refine .of_map (numbered.swap_showing_sprites found member apart update) fun old _ => ?_
    simp only [Sprite.alter]
    split
    · exact ⟨partner.blocks, rfl⟩
    · split
      · exact ⟨sprite.blocks, rfl⟩
      · exact ⟨old.blocks, rfl⟩

end Stage

end SpriteStage
