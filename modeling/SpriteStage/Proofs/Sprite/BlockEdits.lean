/-
Module: SpriteStage.Proofs.Sprite.BlockEdits
Purpose: What edits of blocks do to a sprite. Each of them applies only if the sprite holds the block,
  and then changes nothing but the list of blocks: a removal takes the block out, a move to another slot
  puts the same blocks in another order, and an update changes the arguments of the one block that has
  the id.
Main exports: Sprite.blockIds, Sprite.removeBlock?_eq_some, Sprite.reorderBlock?_eq_some_iff,
  Sprite.reorderBlock?_eq_some, Sprite.updateBlock?_eq_some, Sprite.updateFirst_eq_map
-/
import Mathlib.Data.List.Nodup
import Mathlib.Data.List.Perm.Basic
import SpriteStage.Sprite

namespace SpriteStage

/-- Where an element has been taken out of a list there is room for it at every place that there was. -/
theorem le_length_eraseIdx {α : Type} {list : List α} {start goal : Nat}
    (first : start < list.length) (inside : goal < list.length) :
    goal ≤ (list.eraseIdx start).length := by
  rw [List.length_eraseIdx_of_lt first]
  exact Nat.le_sub_one_of_lt inside

@[simp] theorem Block.update_id (block : Block) (change : Arguments) :
    (block.update change).id = block.id := rfl

namespace Sprite

/-- The ids of the blocks that a sprite holds. -/
def blockIds (sprite : Sprite) : List BlockId := sprite.blocks.map Block.id

theorem removeBlock?_eq_some {sprite changed : Sprite} {id : BlockId}
    (applies : sprite.removeBlock? id = some changed) :
    id ∈ sprite.blockIds ∧
      changed = { sprite with blocks := sprite.blocks.filter fun block => block.id ≠ id } := by
  unfold removeBlock? at applies
  dsimp only at applies
  split at applies
  · cases applies
  · rename_i fewer
    refine ⟨?_, (Option.some.inj applies).symm⟩
    by_contra absent
    apply fewer
    rw [List.length_filter_eq_length_iff]
    intro block member
    have different : block.id ≠ id := by
      rintro rfl
      exact absent (List.mem_map_of_mem member)
    simpa using different

/-- A list with one element at another place has the same elements. -/
theorem insertIdx_eraseIdx_perm {blocks : List Block} {start goal : Nat} {moved : Block}
    (there : blocks[start]? = some moved) (inside : goal < blocks.length) :
    ((blocks.eraseIdx start).insertIdx goal moved).Perm blocks := by
  obtain ⟨first, rfl⟩ := List.getElem?_eq_some_iff.mp there
  have room := le_length_eraseIdx first inside
  exact (List.perm_insertIdx _ _ room).trans (List.getElem_cons_eraseIdx_perm first)

/-- What a move to another slot comes to. The slot is the one from before the block is taken out. -/
theorem reorderBlock?_eq_some_iff {sprite changed : Sprite} {source target : BlockId} :
    sprite.reorderBlock? source target = some changed ↔
      ∃ start goal moved, sprite.position? source = some start ∧
        sprite.position? target = some goal ∧ start ≠ goal ∧
        sprite.blocks[start]? = some moved ∧
        changed = { sprite with blocks := (sprite.blocks.eraseIdx start).insertIdx goal moved } := by
  constructor
  · intro applies
    unfold reorderBlock? at applies
    split at applies
    · rename_i start goal first second
      split at applies
      · cases applies
      · rename_i apart
        obtain ⟨moved, there, rfl⟩ := Option.map_eq_some_iff.mp applies
        exact ⟨start, goal, moved, first, second, apart, there, rfl⟩
    · cases applies
  · rintro ⟨start, goal, moved, first, second, apart, there, rfl⟩
    simp only [reorderBlock?, first, second, if_neg apart, there, Option.map_some]

theorem reorderBlock?_eq_some {sprite changed : Sprite} {source target : BlockId}
    (applies : sprite.reorderBlock? source target = some changed) :
    ∃ blocks, blocks.Perm sprite.blocks ∧ changed = { sprite with blocks } := by
  obtain ⟨_, _, _, _, slot, _, there, rfl⟩ := reorderBlock?_eq_some_iff.mp applies
  have inside := (List.findIdx?_eq_some_iff_getElem.mp slot).choose
  exact ⟨_, insertIdx_eraseIdx_perm there inside, rfl⟩

theorem updateBlock?_eq_some {sprite changed : Sprite} {id : BlockId} {change : Arguments}
    (applies : sprite.updateBlock? id change = some changed) :
    id ∈ sprite.blockIds ∧
      changed = { sprite with blocks := updateFirst id change sprite.blocks } := by
  unfold updateBlock? at applies
  split at applies
  · rename_i held
    obtain ⟨block, member, same⟩ := List.any_eq_true.mp held
    refine ⟨?_, (Option.some.inj applies).symm⟩
    rw [← of_decide_eq_true same]
    exact List.mem_map_of_mem member
  · cases applies

/-- An update of a block that is not there changes nothing. -/
theorem map_update_absent {blocks : List Block} {id : BlockId}
    (absent : ∀ block ∈ blocks, block.id ≠ id) (change : Arguments) :
    (blocks.map fun block => if block.id = id then block.update change else block) = blocks := by
  calc (blocks.map fun block => if block.id = id then block.update change else block)
      = blocks.map fun block => block :=
        List.map_congr_left fun block member => if_neg (absent block member)
    _ = blocks := List.map_id' _

/-- If every id is there once, the first block with an id is the only one. -/
theorem updateFirst_eq_map (id : BlockId) (change : Arguments) {blocks : List Block}
    (once : (blocks.map Block.id).Nodup) :
    updateFirst id change blocks =
      blocks.map fun block => if block.id = id then block.update change else block := by
  induction blocks with
  | nil => rfl
  | cons block rest more =>
      obtain ⟨absent, once⟩ := List.nodup_cons.mp once
      by_cases here : block.id = id
      · have others : ∀ other ∈ rest, other.id ≠ id := by
          intro other member same
          exact absent (here.trans same.symm ▸ List.mem_map_of_mem member)
        simp [updateFirst, here, map_update_absent others]
      · simp [updateFirst, here, more once]

/-- If no block before the last one has its id, the last one is the first with that id. -/
theorem updateFirst_concat {blocks : List Block} {last : Block} (change : Arguments)
    (new : ∀ block ∈ blocks, block.id ≠ last.id) :
    updateFirst last.id change (blocks ++ [last]) = blocks ++ [last.update change] := by
  induction blocks with
  | nil => simp [updateFirst]
  | cons block rest more =>
      obtain ⟨apart, others⟩ := List.forall_mem_cons.mp new
      simp [updateFirst, apart, more others]

/-- A block with a new id can be looked up and updated once it has been appended. -/
theorem updateBlock?_addBlock {sprite : Sprite} {block : Block} (change : Arguments)
    (new : ∀ other ∈ sprite.blocks, other.id ≠ block.id) :
    (sprite.addBlock block).updateBlock? block.id change =
      some (sprite.addBlock (block.update change)) := by
  have there : ((sprite.addBlock block).blocks.any fun other => other.id = block.id) = true := by
    simp [addBlock]
  rw [updateBlock?, if_pos there]
  simp only [addBlock, updateFirst_concat change new]

end Sprite

end SpriteStage
