/-
Module: SpriteStage.Proofs.Stage.Edits
Purpose: Edits of the board apply as a whole or not at all. An edit of a sprite applies if the stage
  has the sprite, the sprite holds the blocks that the edit names, and these are two blocks where it
  takes two. If it applies there is a new record of the sprite, which is published once, and all
  else stays as it was. If it does not apply everything stays as it was, and only a note tells of
  it.
Main exports: Stage.applies, Stage.addressee?, Stage.Admits, Stage.Rewrites, Stage.Revises,
  Stage.Numbered.applies_iff, Stage.amend_refused, Stage.Numbered.amend_revises
-/
import SpriteStage.Proofs.Sprite.BlockEdits
import SpriteStage.Proofs.Stage.Transitions

namespace SpriteStage

/-! ## When edits of blocks apply -/

namespace Sprite

theorem removeBlock?_isSome_iff (sprite : Sprite) (id : BlockId) :
    (sprite.removeBlock? id).isSome = true ↔ id ∈ sprite.blockIds := by
  constructor
  · intro applies
    obtain ⟨changed, removed⟩ := Option.isSome_iff_exists.mp applies
    exact (removeBlock?_eq_some removed).1
  · intro held
    obtain ⟨block, member, rfl⟩ := List.mem_map.mp held
    have fewer : (sprite.blocks.filter fun other => other.id ≠ block.id).length ≠
        sprite.blocks.length := by
      intro same
      have kept := List.length_filter_eq_length_iff.mp same block member
      exact of_decide_eq_true kept rfl
    simp only [removeBlock?, if_neg fewer, Option.isSome_some]

theorem updateBlock?_isSome_iff (sprite : Sprite) (id : BlockId) (change : Arguments) :
    (sprite.updateBlock? id change).isSome = true ↔ id ∈ sprite.blockIds := by
  simp [updateBlock?, blockIds]

/-- A block stands somewhere exactly if the sprite holds it. -/
theorem position?_isSome_iff (sprite : Sprite) (id : BlockId) :
    (sprite.position? id).isSome = true ↔ id ∈ sprite.blockIds := by
  simp [position?, blockIds]

/-- Where a block stands there is a block with its id. -/
theorem id_of_position? {sprite : Sprite} {id : BlockId} {place : Nat}
    (stands : sprite.position? id = some place) :
    ∃ block, sprite.blocks[place]? = some block ∧ block.id = id := by
  obtain ⟨inside, same, _⟩ := List.findIdx?_eq_some_iff_getElem.mp stands
  exact ⟨_, List.getElem?_eq_getElem inside, of_decide_eq_true same⟩

/-- Different blocks stand at different places. -/
theorem eq_of_position?_eq {sprite : Sprite} {first second : BlockId} {place : Nat}
    (one : sprite.position? first = some place) (two : sprite.position? second = some place) :
    first = second := by
  obtain ⟨block, there, rfl⟩ := id_of_position? one
  obtain ⟨same, here, rfl⟩ := id_of_position? two
  rw [there] at here
  rw [Option.some.inj here]

theorem reorderBlock?_isSome_iff (sprite : Sprite) (source target : BlockId) :
    (sprite.reorderBlock? source target).isSome = true ↔
      source ∈ sprite.blockIds ∧ target ∈ sprite.blockIds ∧ source ≠ target := by
  rw [← position?_isSome_iff, ← position?_isSome_iff, reorderBlock?]
  cases start : sprite.position? source with
  | none => simp
  | some first =>
      cases goal : sprite.position? target with
      | none => simp
      | some last =>
          obtain ⟨block, there, _⟩ := id_of_position? start
          have apart : first = last ↔ source = target := by
            constructor
            · rintro rfl
              exact eq_of_position?_eq start goal
            · rintro rfl
              rw [start] at goal
              exact Option.some.inj goal
          by_cases same : source = target
          · simp [apart.mpr same, same]
          · simp [mt apart.mp same, same, there]

end Sprite

namespace Stage

/-! ## Edits and their answers -/

/-- Whether an edit answers that it applied. Adding a sprite always does. -/
def applies (stage : Stage) : Amendment → Bool
  | .addSprite => true
  | .select id => (stage.select id).2
  | .addBlock id opcode => (stage.addBlock id opcode).2.isSome
  | .addBlockToSelected opcode => (stage.addBlockToSelected opcode).2.isSome
  | .removeBlock id block => (stage.removeBlock id block).2
  | .reorderBlock id source target => (stage.reorderBlock id source target).2
  | .updateBlock id block change => (stage.updateBlock id block change).2
  | .moveSprite id x y => (stage.moveSprite id x y).2

/-- The sprite that is to be given other blocks or another place. -/
def addressee? (stage : Stage) : Amendment → Option SpriteId
  | .addSprite | .select _ => none
  | .addBlockToSelected _ => stage.selected
  | .addBlock id _ | .removeBlock id _ | .reorderBlock id _ _ | .updateBlock id _ _
  | .moveSprite id _ _ => some id

/-- The stage has the sprite that the edit names, and the sprite holds the blocks that it names; a
block is moved to the slot of another one. -/
def Admits (stage : Stage) : Amendment → Prop
  | .addSprite => True
  | .select id | .addBlock id _ | .moveSprite id _ _ => id ∈ stage.sprites.map Sprite.id
  | .addBlockToSelected _ => ∃ id ∈ stage.sprites.map Sprite.id, stage.selected = some id
  | .removeBlock id block | .updateBlock id block _ =>
    ∃ sprite ∈ stage.sprites, sprite.id = id ∧ block ∈ sprite.blocks.map Block.id
  | .reorderBlock id source target =>
    ∃ sprite ∈ stage.sprites, sprite.id = id ∧ source ∈ sprite.blocks.map Block.id ∧
      target ∈ sprite.blocks.map Block.id ∧ source ≠ target

/-- What an edit makes of the record of its sprite: a drag changes the place where it stands, all
others change its blocks. -/
def Rewrites (stage : Stage) (old new : Sprite) : Amendment → Prop
  | .addSprite | .select _ => new = old
  | .addBlock _ opcode | .addBlockToSelected opcode =>
    new = { old with blocks := old.blocks ++ [⟨⟨stage.supply.next⟩, opcode, opcode.defaults⟩] }
  | .removeBlock _ block =>
    new = { old with blocks := old.blocks.filter fun other => other.id ≠ block }
  | .reorderBlock _ _ _ => ∃ blocks, blocks.Perm old.blocks ∧ new = { old with blocks }
  | .updateBlock _ block change =>
    new = { old with blocks := Sprite.updateFirst block change old.blocks }
  | .moveSprite _ x y => new = { old with pose := { old.pose with x, y } }

/-- The later stage differs in the record of one sprite and in nothing else, the supply of blocks
apart, and has published the new record. -/
def Revises (before after : Stage) (old new : Sprite) : Prop :=
  ∃ front back, before.sprites = front ++ old :: back ∧
    after = { before with
      sprites := front ++ new :: back
      events := before.events.push (.changed new)
      supply := after.supply }

/-! ## Edits of one sprite -/

/-- An edit of one sprite applies if the stage has the sprite and there is something to change. -/
theorem Numbered.edit_applies_iff {stage : Stage} (numbered : stage.Numbered) (kind : Edit)
    (id : SpriteId) (change : Sprite → Option Sprite) :
    (stage.edit kind id change).2 = true ↔
      ∃ sprite ∈ stage.sprites, sprite.id = id ∧ (change sprite).isSome = true := by
  cases found : stage.find? id with
  | none =>
      have nobody : ∀ sprite ∈ stage.sprites, sprite.id ≠ id := by
        simpa [find?] using found
      simp only [edit, found, Bool.false_eq_true, false_iff, not_exists, not_and]
      exact fun sprite member same => absurd same (nobody sprite member)
  | some sprite =>
      have alone : ∀ other ∈ stage.sprites, other.id = id → other = sprite := fun other member same =>
        numbered.eq_of_id_eq member (find?_mem found) (same.trans (find?_id found).symm)
      cases changes : change sprite with
      | none =>
          simp only [edit, found, changes, Bool.false_eq_true, false_iff, not_exists, not_and]
          intro other member same
          rw [alone other member same, changes]
          exact Bool.false_ne_true
      | some changed =>
          simp only [edit, found, changes, true_iff]
          exact ⟨sprite, find?_mem found, find?_id found, by rw [changes]; rfl⟩

/-- An edit of one sprite that does not apply changes nothing. -/
theorem edit_refused {stage : Stage} {kind : Edit} {id : SpriteId}
    {change : Sprite → Option Sprite} (refused : (stage.edit kind id change).2 = false) :
    ∃ notes, (stage.edit kind id change).1 = { stage with notes } := by
  rcases edit_cases stage kind id change with ⟨note, same⟩ | ⟨_, _, _, _, applied⟩
  · rw [same]
    exact ⟨_, rfl⟩
  · rw [applied] at refused
    cases refused

/-- A new record of a sprite, published, is all that it changes. -/
theorem Numbered.revises {stage : Stage} (numbered : stage.Numbered) {id : SpriteId}
    {old new : Sprite} (found : stage.find? id = some old) (same : new.id = old.id) :
    stage.Revises ((stage.replace new).publish (.changed new)) old new := by
  obtain ⟨front, back, split⟩ := List.append_of_mem (find?_mem found)
  have nodup := numbered.nodup
  rw [ids, split] at nodup
  refine ⟨front, back, split, ?_⟩
  have replaced : (stage.replace new).sprites = front ++ new :: back := by
    show renewed new stage.sprites = _
    rw [split]
    exact renewed_middle same nodup
  rw [← replaced]
  rfl

theorem Numbered.edit_revises {stage : Stage} (numbered : stage.Numbered) {kind : Edit}
    {id : SpriteId} {change : Sprite → Option Sprite}
    (keeps : ∀ sprite changed, change sprite = some changed → changed.id = sprite.id)
    (applied : (stage.edit kind id change).2 = true) :
    ∃ old new, old.id = id ∧ change old = some new ∧
      stage.Revises (stage.edit kind id change).1 old new := by
  rcases edit_cases stage kind id change with ⟨_, refused⟩ | ⟨old, new, found, changes, made⟩
  · rw [refused] at applied
    cases applied
  · rw [made]
    exact ⟨old, new, find?_id found, changes, numbered.revises found (keeps old new changes)⟩

/-! ## Selections and new blocks -/

theorem select_cases (stage : Stage) (id : SpriteId) :
    (id ∉ stage.ids ∧ stage.select id = (stage.note (.unknownSelection id), false)) ∨
      id ∈ stage.ids ∧ stage.select id = ({ stage with selected := some id }, true) := by
  have known : (stage.sprites.any fun sprite => sprite.id = id) = true ↔ id ∈ stage.ids := by
    simp [ids]
  by_cases there : id ∈ stage.ids
  · exact Or.inr ⟨there, by rw [select, if_pos (known.mpr there)]⟩
  · exact Or.inl ⟨there, by rw [select, if_neg (mt known.mp there)]⟩

theorem addBlock_applies_iff (stage : Stage) (id : SpriteId) (opcode : Opcode) :
    (stage.addBlock id opcode).2.isSome = true ↔ id ∈ stage.ids := by
  rw [← find?_isSome_iff]
  rcases stage.addBlock_cases id opcode with ⟨note, refused⟩ | ⟨sprite, found, applied⟩
  · rw [refused]
    cases found : stage.find? id with
    | none => simp
    | some sprite => simp [addBlock, edit, found] at refused
  · rw [applied, found]
    simp

theorem addBlockToSelected_eq {stage : Stage} {id : SpriteId} (selected : stage.selected = some id)
    (opcode : Opcode) : stage.addBlockToSelected opcode = stage.addBlock id opcode := by
  simp only [addBlockToSelected, selected]

theorem addBlock_refused {stage : Stage} {id : SpriteId} {opcode : Opcode}
    (refused : (stage.addBlock id opcode).2.isSome = false) :
    ∃ notes, (stage.addBlock id opcode).1 = { stage with notes } := by
  rcases stage.addBlock_cases id opcode with ⟨note, same⟩ | ⟨_, _, applied⟩
  · rw [same]
    exact ⟨_, rfl⟩
  · rw [applied] at refused
    cases refused

theorem Numbered.addBlock_revises {stage : Stage} (numbered : stage.Numbered) {id : SpriteId}
    {opcode : Opcode} (applied : (stage.addBlock id opcode).2.isSome = true) :
    ∃ old new, old.id = id ∧ stage.Rewrites old new (.addBlock id opcode) ∧
      stage.Revises (stage.addBlock id opcode).1 old new := by
  rcases stage.addBlock_cases id opcode with ⟨_, refused⟩ | ⟨old, found, made⟩
  · rw [refused] at applied
    cases applied
  · rw [made]
    let new := old.addBlock (stage.supply.create opcode).1
    have same : new.id = old.id := rfl
    obtain ⟨front, back, split, whole⟩ := numbered.revises found same
    have sprites : (stage.replace new).sprites = front ++ new :: back := congrArg Stage.sprites whole
    refine ⟨old, new, find?_id found, rfl, front, back, split, ?_⟩
    rw [← sprites]
    rfl

/-! ## All edits -/

/-- An edit applies exactly if the stage admits it. -/
theorem Numbered.applies_iff {stage : Stage} (numbered : stage.Numbered) (amendment : Amendment) :
    stage.applies amendment = true ↔ stage.Admits amendment := by
  cases amendment with
  | addSprite => exact ⟨fun _ => trivial, fun _ => rfl⟩
  | select id =>
      rcases stage.select_cases id with ⟨unknown, same⟩ | ⟨known, selects⟩
      · simp only [applies, same, Bool.false_eq_true, false_iff]
        exact unknown
      · simp only [applies, selects, true_iff]
        exact known
  | addBlock id opcode => exact stage.addBlock_applies_iff id opcode
  | addBlockToSelected opcode =>
      cases selected : stage.selected with
      | none => simp [applies, addBlockToSelected, Admits, selected]
      | some id =>
          rw [applies, addBlockToSelected_eq selected, addBlock_applies_iff]
          simp [Admits, selected, ids]
  | removeBlock id block =>
      refine (numbered.edit_applies_iff _ _ _).trans ?_
      simp only [Sprite.removeBlock?_isSome_iff]
      rfl
  | reorderBlock id source target =>
      refine (numbered.edit_applies_iff _ _ _).trans ?_
      simp only [Sprite.reorderBlock?_isSome_iff]
      rfl
  | updateBlock id block change =>
      refine (numbered.edit_applies_iff _ _ _).trans ?_
      simp only [Sprite.updateBlock?_isSome_iff]
      rfl
  | moveSprite id x y =>
      refine (numbered.edit_applies_iff _ _ _).trans ?_
      simp [Admits]

/-- An edit that does not apply changes nothing but the notes. -/
theorem amend_refused {stage : Stage} {amendment : Amendment}
    (refused : stage.applies amendment = false) :
    ∃ notes, stage.amend amendment = { stage with notes } := by
  cases amendment with
  | addSprite => cases refused
  | select id =>
      rcases stage.select_cases id with ⟨_, same⟩ | ⟨_, selects⟩
      · simp only [amend, same]
        exact ⟨_, rfl⟩
      · simp [applies, selects] at refused
  | addBlock id opcode => exact addBlock_refused refused
  | addBlockToSelected opcode =>
      rcases Option.eq_none_or_eq_some stage.selected with unselected | ⟨id, selected⟩
      · have same : stage.amend (.addBlockToSelected opcode) = stage := by
          simp only [amend, addBlockToSelected, unselected]
        exact ⟨stage.notes, same⟩
      · rw [applies, addBlockToSelected_eq selected] at refused
        rw [amend, addBlockToSelected_eq selected]
        exact addBlock_refused refused
  | removeBlock | reorderBlock | updateBlock | moveSprite => exact edit_refused refused

/-- A sprite is selected, and nothing else changes. -/
theorem amend_selects {stage : Stage} {id : SpriteId}
    (applied : stage.applies (.select id) = true) :
    stage.amend (.select id) = { stage with selected := some id } := by
  rcases stage.select_cases id with ⟨_, same⟩ | ⟨_, selects⟩
  · simp [applies, same] at applied
  · simp only [amend, selects]

/-- An edit of a sprite that applies makes a new record of that sprite and publishes it, and changes
nothing else. -/
theorem Numbered.amend_revises {stage : Stage} (numbered : stage.Numbered) {amendment : Amendment}
    {id : SpriteId} (about : stage.addressee? amendment = some id)
    (applied : stage.applies amendment = true) :
    ∃ old new, old.id = id ∧ stage.Rewrites old new amendment ∧
      stage.Revises (stage.amend amendment) old new := by
  cases amendment with
  | addSprite | select => cases about
  | addBlock other opcode =>
      cases about
      exact numbered.addBlock_revises applied
  | addBlockToSelected opcode =>
      rw [applies, addBlockToSelected_eq about] at applied
      rw [amend, addBlockToSelected_eq about]
      exact numbered.addBlock_revises applied
  | removeBlock other block =>
      cases about
      obtain ⟨old, new, same, changes, revises⟩ := numbered.edit_revises
        (fun sprite changed removes => by rw [(Sprite.removeBlock?_eq_some removes).2]) applied
      exact ⟨old, new, same, (Sprite.removeBlock?_eq_some changes).2, revises⟩
  | reorderBlock other source target =>
      cases about
      obtain ⟨old, new, same, changes, revises⟩ := numbered.edit_revises
        (fun sprite changed moves => by
          obtain ⟨blocks, _, made⟩ := Sprite.reorderBlock?_eq_some moves
          rw [made]) applied
      exact ⟨old, new, same, Sprite.reorderBlock?_eq_some changes, revises⟩
  | updateBlock other block change =>
      cases about
      obtain ⟨old, new, same, changes, revises⟩ := numbered.edit_revises
        (fun sprite changed updates => by rw [(Sprite.updateBlock?_eq_some updates).2]) applied
      exact ⟨old, new, same, (Sprite.updateBlock?_eq_some changes).2, revises⟩
  | moveSprite other x y =>
      cases about
      obtain ⟨old, new, same, changes, revises⟩ := numbered.edit_revises
        (fun sprite changed moves => by cases moves; rfl) applied
      exact ⟨old, new, same, (Option.some.inj changes).symm, revises⟩

end Stage

end SpriteStage
