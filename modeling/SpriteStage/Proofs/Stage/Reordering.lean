/-
Module: SpriteStage.Proofs.Stage.Reordering
Purpose: Moving a block to the slot of another one. The two places are looked up before the block is taken
  out and used after that. The list before the move and the one after it are therefore the same other blocks
  with the one block put in, once at the place where it was and once at the place of the slot. This gives
  the order of the others and the way back, in whichever direction and however far the block is moved.
Main exports: Sprite.position?_eq_some_iff, Sprite.Reordered, Sprite.reorderBlock?_reordered,
  Sprite.reorderBlock?_restores, Sprite.reorders_and_restores
-/
import Mathlib.Data.List.InsertIdx
import SpriteStage.Proofs.Stage.Edits

namespace SpriteStage

/-! ## An element at another place -/

section Lists

variable {α : Type} {list : List α} {start goal : Nat} {moved : α}

/-- An element that is moved stands where it is put in. -/
theorem getElem?_insertIdx_eraseIdx (there : list[start]? = some moved)
    (inside : goal < list.length) :
    ((list.eraseIdx start).insertIdx goal moved)[goal]? = some moved := by
  have first : start < list.length := (List.getElem?_eq_some_iff.mp there).1
  rw [List.getElem?_insertIdx_self, if_pos (le_length_eraseIdx first inside)]

/-- An element that is moved and put back where it was leaves the list as it was. -/
theorem insertIdx_eraseIdx_back (there : list[start]? = some moved) (goal : Nat) :
    (((list.eraseIdx start).insertIdx goal moved).eraseIdx goal).insertIdx start moved = list := by
  obtain ⟨inside, rfl⟩ := List.getElem?_eq_some_iff.mp there
  rw [List.eraseIdx_insertIdx_self, List.insertIdx_eraseIdx_getElem inside]

/-- An element that is not asked for does not count, wherever it is put in. -/
theorem filter_insertIdx_of_neg {p : α → Bool} (unasked : p moved = false) (place : Nat)
    (list : List α) : (list.insertIdx place moved).filter p = list.filter p := by
  -- The place counts down along the list, so it is left free.
  induction list generalizing place with
  | nil =>
      cases place with
      | zero => simp [unasked]
      | succ place => rfl
  | cons element rest more =>
      cases place with
      | zero => simp [unasked]
      | succ place =>
          rw [List.insertIdx_succ_cons, List.filter_cons, List.filter_cons, more]

/-- The others keep their order when an element is moved. -/
theorem filter_insertIdx_eraseIdx {p : α → Bool} (there : list[start]? = some moved)
    (unasked : p moved = false) (goal : Nat) :
    ((list.eraseIdx start).insertIdx goal moved).filter p = list.filter p := by
  obtain ⟨inside, rfl⟩ := List.getElem?_eq_some_iff.mp there
  calc ((list.eraseIdx start).insertIdx goal list[start]).filter p
      = (list.eraseIdx start).filter p := filter_insertIdx_of_neg unasked goal _
    _ = ((list.eraseIdx start).insertIdx start list[start]).filter p :=
        (filter_insertIdx_of_neg unasked start _).symm
    _ = list.filter p := by rw [List.insertIdx_eraseIdx_getElem inside]

end Lists

namespace Sprite

/-! ## Where blocks stand -/

theorem getElem?_blockIds (sprite : Sprite) {place : Nat} {block : Block}
    (there : sprite.blocks[place]? = some block) : sprite.blockIds[place]? = some block.id := by
  rw [blockIds, List.getElem?_map, there, Option.map_some]

theorem getElem?_blockIds_of_position? {sprite : Sprite} {id : BlockId} {place : Nat}
    (stands : sprite.position? id = some place) : sprite.blockIds[place]? = some id := by
  obtain ⟨block, there, rfl⟩ := id_of_position? stands
  exact sprite.getElem?_blockIds there

theorem id_eq_of_position? {sprite : Sprite} {id : BlockId} {place : Nat} {block : Block}
    (stands : sprite.position? id = some place) (there : sprite.blocks[place]? = some block) :
    block.id = id := by
  have listed := sprite.getElem?_blockIds there
  rw [getElem?_blockIds_of_position? stands] at listed
  exact (Option.some.inj listed).symm

/-- If no two blocks have one id, a block stands where its id is. -/
theorem position?_eq_some_iff {sprite : Sprite} (distinct : sprite.blockIds.Nodup) {id : BlockId}
    {place : Nat} : sprite.position? id = some place ↔ sprite.blockIds[place]? = some id := by
  constructor
  · exact getElem?_blockIds_of_position?
  · intro listed
    have held : id ∈ sprite.blockIds := List.mem_of_getElem? listed
    obtain ⟨first, stands⟩ := Option.isSome_iff_exists.mp ((position?_isSome_iff sprite id).mpr held)
    have there := getElem?_blockIds_of_position? stands
    have inside : first < sprite.blockIds.length := (List.getElem?_eq_some_iff.mp there).1
    have same : first = place := (List.getElem?_inj inside distinct).mp (there.trans listed.symm)
    rw [stands, same]

/-- If no two blocks have one id, the block at any place can be moved to any other place. -/
theorem reorderBlock?_of_places {sprite : Sprite} (distinct : sprite.blockIds.Nodup)
    {start goal : Nat} {moved slot : Block} (there : sprite.blocks[start]? = some moved)
    (here : sprite.blocks[goal]? = some slot) (apart : start ≠ goal) :
    sprite.reorderBlock? moved.id slot.id =
      some { sprite with blocks := (sprite.blocks.eraseIdx start).insertIdx goal moved } := by
  apply reorderBlock?_eq_some_iff.mpr
  have first := (position?_eq_some_iff distinct).mpr (sprite.getElem?_blockIds there)
  have second := (position?_eq_some_iff distinct).mpr (sprite.getElem?_blockIds here)
  exact ⟨start, goal, moved, first, second, apart, there, rfl⟩

/-! ## What a move does -/

/-- The later sprite has the same blocks in another order, and nothing else is different. The block `source`
stands at the place where `target` stood, and all other blocks follow each other as before. -/
structure Reordered (source target : BlockId) (before after : Sprite) : Prop where
  frame : after = { before with blocks := after.blocks }
  perm : after.blocks.Perm before.blocks
  slot : ∃ place : Nat, before.blockIds[place]? = some target ∧ after.blockIds[place]? = some source
  others : (after.blocks.filter fun block => block.id ≠ source) =
    before.blocks.filter fun block => block.id ≠ source

theorem Reordered.id_eq {source target : BlockId} {before after : Sprite}
    (reordered : Reordered source target before after) : after.id = before.id := by
  rw [reordered.frame]

/-- It does not matter which of the two blocks stands first, nor whether one of them stands at an end. -/
theorem reorderBlock?_reordered {sprite changed : Sprite} {source target : BlockId}
    (moves : sprite.reorderBlock? source target = some changed) :
    Reordered source target sprite changed := by
  obtain ⟨start, goal, moved, first, second, _, there, rfl⟩ := reorderBlock?_eq_some_iff.mp moves
  obtain ⟨slot, here, named⟩ := id_of_position? second
  have inside : goal < sprite.blocks.length := (List.getElem?_eq_some_iff.mp here).1
  have moved_id : moved.id = source := id_eq_of_position? first there
  constructor
  case frame => rfl
  case perm => exact insertIdx_eraseIdx_perm there inside
  case slot =>
    rw [← moved_id, ← named]
    refine ⟨goal, sprite.getElem?_blockIds here, ?_⟩
    apply getElem?_blockIds
    exact getElem?_insertIdx_eraseIdx there inside
  case others =>
    exact filter_insertIdx_eraseIdx there (by simp [moved_id]) goal

/-- A block is back when it is moved to the slot of the block that has come to its old place. -/
theorem reorderBlock?_restores {sprite changed : Sprite} (distinct : sprite.blockIds.Nodup)
    {source target : BlockId} (moves : sprite.reorderBlock? source target = some changed) :
    ∃ (place : Nat) (displaced : BlockId), sprite.blockIds[place]? = some source ∧
      changed.blockIds[place]? = some displaced ∧
      changed.reorderBlock? source displaced = some sprite := by
  have perm := (reorderBlock?_reordered moves).perm
  have distinct_after : changed.blockIds.Nodup := (perm.map _).nodup_iff.mpr distinct
  obtain ⟨start, goal, moved, first, second, apart, there, made⟩ :=
    reorderBlock?_eq_some_iff.mp moves
  obtain rfl : moved.id = source := id_eq_of_position? first there
  obtain ⟨_, here, _⟩ := id_of_position? second
  have arrived : changed.blocks[goal]? = some moved := by
    rw [made]
    exact getElem?_insertIdx_eraseIdx there (List.getElem?_eq_some_iff.mp here).1
  have inside : start < changed.blocks.length := by
    rw [perm.length_eq]
    exact (List.getElem?_eq_some_iff.mp there).1
  have behind : changed.blocks[start]? = some changed.blocks[start] := List.getElem?_eq_getElem inside
  refine ⟨start, changed.blocks[start].id, sprite.getElem?_blockIds there,
    changed.getElem?_blockIds behind, ?_⟩
  -- Taken out again, the block leaves the same others as the first time.
  calc changed.reorderBlock? moved.id changed.blocks[start].id
      = some { changed with blocks := (changed.blocks.eraseIdx goal).insertIdx start moved } :=
        reorderBlock?_of_places distinct_after arrived behind apart.symm
    _ = some sprite := by
        rw [made]
        dsimp only
        rw [insertIdx_eraseIdx_back there]

end Sprite

/-! ## Moves on a stage -/

namespace Stage

variable {stage : Stage} {id : SpriteId} {sprite : Sprite} {source target : BlockId}

theorem reorderBlock_of_some {changed : Sprite} (found : stage.find? id = some sprite)
    (moves : sprite.reorderBlock? source target = some changed) :
    (stage.reorderBlock id source target).2 = true ∧
      (stage.reorderBlock id source target).1.find? id = some changed := by
  have made : stage.reorderBlock id source target =
      ((stage.replace changed).publish (.changed changed), true) := by
    simp only [reorderBlock, edit, found, moves]
  have same : changed.id = id :=
    (Sprite.reorderBlock?_reordered moves).id_eq.trans (find?_id found)
  rw [made]
  exact ⟨rfl, find?_replace found same⟩

theorem reorderBlock_of_none (found : stage.find? id = some sprite)
    (refused : sprite.reorderBlock? source target = none) :
    stage.reorderBlock id source target = (stage.note (.unchanged .reorderBlock id), false) := by
  simp only [reorderBlock, edit, found, refused]

end Stage

namespace Sprite

/-- No two blocks of the sprite have one id. A block is moved to the slot of another one exactly if the sprite
holds both and they differ. After the move the sprite has the same blocks: the moved one stands at the place
where the other one stood, and the rest follow each other as before. One more move, to the slot of the block
that has come to the old place, gives the sprite back as it was. On any stage that has the sprite both moves
are answered with yes and show in its record. A move that is not made is answered with no, and then nothing
is left of it on the stage but a note. -/
theorem reorders_and_restores {sprite : Sprite} (distinct : sprite.blockIds.Nodup)
    (source target : BlockId) :
    ((sprite.reorderBlock? source target).isSome = true ↔
      source ∈ sprite.blockIds ∧ target ∈ sprite.blockIds ∧ source ≠ target) ∧
    (∀ changed, sprite.reorderBlock? source target = some changed →
      Reordered source target sprite changed ∧
      ∃ (place : Nat) (displaced : BlockId), sprite.blockIds[place]? = some source ∧
        changed.blockIds[place]? = some displaced ∧
        changed.reorderBlock? source displaced = some sprite ∧
        ∀ (stage : Stage) (id : SpriteId), stage.find? id = some sprite →
          let moved := stage.reorderBlock id source target
          let restored := moved.1.reorderBlock id source displaced
          moved.2 = true ∧ moved.1.find? id = some changed ∧
            restored.2 = true ∧ restored.1.find? id = some sprite) ∧
    (sprite.reorderBlock? source target = none →
      ∀ (stage : Stage) (id : SpriteId), stage.find? id = some sprite →
        stage.reorderBlock id source target =
          (stage.note (.unchanged .reorderBlock id), false)) := by
  refine ⟨sprite.reorderBlock?_isSome_iff source target, ?_, ?_⟩
  · intro changed moves
    obtain ⟨place, displaced, stood, stands, restores⟩ := reorderBlock?_restores distinct moves
    refine ⟨reorderBlock?_reordered moves, place, displaced, stood, stands, restores, ?_⟩
    intro stage id found moved restored
    obtain ⟨answered, shown⟩ := Stage.reorderBlock_of_some found moves
    obtain ⟨answered_again, shown_again⟩ := Stage.reorderBlock_of_some shown restores
    exact ⟨answered, shown, answered_again, shown_again⟩
  · intro refused stage id found
    exact Stage.reorderBlock_of_none found refused

/-- A dancer with three steps. -/
def dancer : Sprite :=
  { create (Stage.numberedId 1) "Dancer" ⟨0, 0, 90⟩ with
    blocks := [⟨⟨1⟩, .moveSteps, Opcode.moveSteps.defaults⟩,
      ⟨⟨2⟩, .turnLeft, Opcode.turnLeft.defaults⟩, ⟨⟨3⟩, .goTo, Opcode.goTo.defaults⟩] }

/-- The first step is moved past the two others to the end, and then back to the front. A step that the dancer
does not have is not moved. -/
theorem reorders_and_restores_dancer :
    let stage := (Stage.bare {}).insert dancer
    let moved := stage.reorderBlock dancer.id ⟨1⟩ ⟨3⟩
    let restored := moved.1.reorderBlock dancer.id ⟨1⟩ ⟨2⟩
    ∃ changed, Reordered ⟨1⟩ ⟨3⟩ dancer changed ∧ changed.blockIds = [⟨2⟩, ⟨3⟩, ⟨1⟩] ∧
      moved.2 = true ∧ moved.1.find? dancer.id = some changed ∧
      restored.2 = true ∧ restored.1.find? dancer.id = some dancer ∧
      stage.reorderBlock dancer.id ⟨4⟩ ⟨2⟩ =
        (stage.note (.unchanged .reorderBlock dancer.id), false) := by
  intro stage moved restored
  have distinct : dancer.blockIds.Nodup := by decide
  have found : stage.find? dancer.id = some dancer := by decide +kernel
  obtain ⟨changed, moves, order⟩ : ∃ changed, dancer.reorderBlock? ⟨1⟩ ⟨3⟩ = some changed ∧
      changed.blockIds = [⟨2⟩, ⟨3⟩, ⟨1⟩] := ⟨_, rfl, rfl⟩
  obtain ⟨_, law, _⟩ := reorders_and_restores distinct ⟨1⟩ ⟨3⟩
  obtain ⟨reordered, place, displaced, stood, stands, _, answers⟩ := law changed moves
  obtain rfl : place = 0 := by
    have inside := (List.getElem?_eq_some_iff.mp stood).1
    exact (List.getElem?_inj inside distinct).mp stood
  obtain rfl : ⟨2⟩ = displaced := by
    rw [order] at stands
    exact Option.some.inj stands
  obtain ⟨answered, shown, answered_again, shown_again⟩ := answers stage dancer.id found
  obtain ⟨_, _, refusal⟩ := reorders_and_restores distinct ⟨4⟩ ⟨2⟩
  have refused := refusal (by decide) stage dancer.id found
  exact ⟨changed, reordered, order, answered, shown, answered_again, shown_again, refused⟩

end Sprite

end SpriteStage
