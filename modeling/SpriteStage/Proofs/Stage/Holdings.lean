/-
Module: SpriteStage.Proofs.Stage.Holdings
Purpose: The blocks of a stage and its ledger. What goes into the ledger is what the answers of edits say:
  an edit that created a block answers with its id, and one that removed or updated a block answers that it
  applied. All that ever becomes of the blocks of a stage is in its ledger; playing, stopping, updates of
  scripts and swaps at most hand blocks from one sprite to another.
Main exports: Stage.held, Stage.holdings, Stage.entries, Stage.Books, Stage.Numbered.edit_books,
  Stage.Numbered.amend_books, Stage.play_books, Stage.stop_books, Stage.swap_held,
  Stage.Numbered.receive_books, Project.ledger, Stage.ofProject_account
-/
import SpriteStage.Proofs.Sprite.Ledger
import SpriteStage.Proofs.Stage.Transitions

namespace SpriteStage

namespace Stage

/-- All blocks that the sprites hold, sprite by sprite. -/
def held (stage : Stage) : List Block := stage.sprites.flatMap Sprite.blocks

/-- The blocks of a stage, and the supply that its new ones come from. -/
def holdings (stage : Stage) : Holdings := ⟨stage.supply, stage.held⟩

/-- What an edit puts into the ledger, by its answer. -/
def entries (stage : Stage) : Amendment → List Entry
  | .addBlock id opcode =>
    ((stage.addBlock id opcode).2.map fun block => .created block opcode .empty).toList
  | .addBlockToSelected opcode =>
    ((stage.addBlockToSelected opcode).2.map fun block => .created block opcode .empty).toList
  | .removeBlock id block => if (stage.removeBlock id block).2 then [.removed block] else []
  | .updateBlock id block change =>
    if (stage.updateBlock id block change).2 then [.updated block change] else []
  | .addSprite | .select _ | .reorderBlock _ _ _ | .moveSprite _ _ _ => []

/-- The entries tell what has become of the blocks, whichever sprites hold them now. -/
def Books (before after : Stage) (entries : List Entry) : Prop :=
  ∃ held, before.holdings.Change entries ⟨after.supply, held⟩ ∧ after.held.Perm held

/-- The same blocks in whatever order. -/
theorem Books.of_perm {before after : Stage} (supply : after.supply = before.supply)
    (held : after.held.Perm before.held) : before.Books after [] := by
  refine ⟨before.held, ?_, held⟩
  rw [supply]
  exact .nothing

theorem Books.of_same {before after : Stage} (supply : after.supply = before.supply)
    (held : after.held = before.held) : before.Books after [] :=
  .of_perm supply (List.Perm.of_eq held)

/-- Without entries the blocks are the same. -/
theorem Books.held_perm {before after : Stage} (books : before.Books after []) :
    after.held.Perm before.held := by
  obtain ⟨held, change, same⟩ := books
  generalize whole : (⟨after.supply, held⟩ : Holdings) = holdings at change
  cases change
  have kept : held = before.held := congrArg Holdings.held whole
  exact kept ▸ same

/-- If the ledger accounted for the blocks before, it accounts for them with the entries. -/
theorem Books.account {before after : Stage} {ledger entries : List Entry}
    (books : before.Books after entries) (account : before.holdings.Account ledger) :
    after.holdings.Account (ledger ++ entries) := by
  obtain ⟨held, change, same⟩ := books
  exact (account.change change).of_perm same

/-! ## A new record of a sprite -/

/-- A new record puts its blocks in the place of those of the old one; the others stay. -/
theorem held_replace {stage : Stage} (nodup : stage.ids.Nodup) {old new : Sprite}
    (member : old ∈ stage.sprites) (same : new.id = old.id) :
    ∃ others, stage.held.Perm (old.blocks ++ others) ∧
      (stage.replace new).held.Perm (new.blocks ++ others) := by
  obtain ⟨front, back, split⟩ := List.append_of_mem member
  have replaced : (stage.replace new).sprites = front ++ new :: back := by
    show renewed new stage.sprites = _
    rw [split]
    apply renewed_middle same
    rw [← split]
    exact nodup
  refine ⟨front.flatMap Sprite.blocks ++ back.flatMap Sprite.blocks, ?_, ?_⟩
  · rw [held, split, List.flatMap_append, List.flatMap_cons]
    exact List.perm_append_comm_assoc _ _ _
  · rw [held, replaced, List.flatMap_append, List.flatMap_cons]
    exact List.perm_append_comm_assoc _ _ _

/-- A new record with the same blocks. -/
theorem held_replace_perm {stage : Stage} (nodup : stage.ids.Nodup) {old new : Sprite}
    (member : old ∈ stage.sprites) (same : new.id = old.id) (blocks : new.blocks.Perm old.blocks) :
    (stage.replace new).held.Perm stage.held := by
  obtain ⟨others, before, after⟩ := held_replace nodup member same
  exact after.trans ((blocks.append_right others).trans before.symm)

/-- If an edit applies, it gives other blocks to one sprite and leaves those of all others; its entries are
those that tell so. -/
theorem Numbered.edit_books {stage : Stage} (numbered : stage.Numbered) (kind : Edit) (id : SpriteId)
    {change : Sprite → Option Sprite} {entries : List Entry}
    (keeps : ∀ sprite changed, change sprite = some changed → changed.id = sprite.id)
    (told : ∀ sprite changed others, change sprite = some changed →
      stage.held.Perm (sprite.blocks ++ others) →
        ∃ held, stage.holdings.Change entries ⟨stage.supply, held⟩ ∧
          (changed.blocks ++ others).Perm held) :
    stage.Books (stage.edit kind id change).1
      (if (stage.edit kind id change).2 then entries else []) := by
  rcases edit_cases stage kind id change with ⟨note, refused⟩ | ⟨sprite, changed, found, changes,
    applied⟩
  · rw [refused]
    exact .of_same rfl rfl
  · obtain ⟨others, before, after⟩ :=
      held_replace numbered.nodup (find?_mem found) (keeps sprite changed changes)
    obtain ⟨held, books, same⟩ := told sprite changed others changes before
    rw [applied]
    exact ⟨held, books, after.trans same⟩

/-- An edit that leaves a sprite its blocks needs no entry. -/
theorem Numbered.edit_books_of_perm {stage : Stage} (numbered : stage.Numbered) (kind : Edit)
    (id : SpriteId) {change : Sprite → Option Sprite}
    (keeps : ∀ sprite changed, change sprite = some changed →
      changed.id = sprite.id ∧ changed.blocks.Perm sprite.blocks) :
    stage.Books (stage.edit kind id change).1 [] := by
  have books := @Numbered.edit_books stage numbered kind id change []
    (fun sprite changed changes => (keeps sprite changed changes).1) ?_
  · rw [ite_self] at books
    exact books
  · intro sprite changed others changes before
    have blocks := (keeps sprite changed changes).2
    exact ⟨stage.held, .nothing, (blocks.append_right others).trans before.symm⟩

/-- The blocks of the other sprites have other ids. -/
theorem others_ne {stage : Stage} (once : (stage.held.map Block.id).Nodup)
    {blocks others : List Block} (split : stage.held.Perm (blocks ++ others)) {id : BlockId}
    (known : id ∈ blocks.map Block.id) : ∀ other ∈ others, other.id ≠ id := by
  have apart := (split.map Block.id).nodup_iff.mp once
  rw [List.map_append] at apart
  intro other member same
  exact List.disjoint_of_nodup_append apart known (same ▸ List.mem_map_of_mem member)

theorem held_known {stage : Stage} {blocks others : List Block}
    (split : stage.held.Perm (blocks ++ others)) {id : BlockId} (known : id ∈ blocks.map Block.id) :
    id ∈ stage.held.map Block.id := by
  rw [(split.map Block.id).mem_iff, List.map_append]
  exact List.mem_append_left _ known

/-! ## Edits -/

theorem Numbered.addBlock_books {stage : Stage} (numbered : stage.Numbered) (id : SpriteId)
    (opcode : Opcode) :
    stage.Books (stage.addBlock id opcode).1
      ((stage.addBlock id opcode).2.map fun block => .created block opcode .empty).toList := by
  rcases stage.addBlock_cases id opcode with ⟨note, refused⟩ | ⟨sprite, found, applied⟩
  · rw [refused]
    exact .of_same rfl rfl
  · rw [applied]
    let new : Block := (stage.supply.create opcode).1
    have same : (sprite.addBlock new).id = sprite.id := rfl
    obtain ⟨others, before, after⟩ := held_replace numbered.nodup (find?_mem found) same
    refine ⟨stage.held ++ [new], .creation opcode .empty, ?_⟩
    calc (stage.replace (sprite.addBlock new)).held.Perm (sprite.blocks ++ [new] ++ others) := after
      _ = (sprite.blocks ++ ([new] ++ others)) := List.append_assoc _ _ _
      List.Perm _ (sprite.blocks ++ (others ++ [new])) := List.perm_append_comm.append_left _
      _ = (sprite.blocks ++ others ++ [new]) := (List.append_assoc _ _ _).symm
      List.Perm _ (stage.held ++ [new]) := before.symm.append_right _

theorem Numbered.removeBlock_books {stage : Stage} (numbered : stage.Numbered)
    (once : (stage.held.map Block.id).Nodup) (id : SpriteId) (block : BlockId) :
    stage.Books (stage.removeBlock id block).1 (stage.entries (.removeBlock id block)) := by
  apply numbered.edit_books
  · intro sprite changed applies
    rw [(Sprite.removeBlock?_eq_some applies).2]
  · intro sprite changed others applies before
    obtain ⟨known, rfl⟩ := Sprite.removeBlock?_eq_some applies
    have untouched : (others.filter fun other => other.id ≠ block) = others := by
      apply List.filter_eq_self.mpr
      intro other member
      exact decide_eq_true (others_ne once before known other member)
    have parts := before.filter fun old => decide (old.id ≠ block)
    rw [List.filter_append, untouched] at parts
    exact ⟨_, @Holdings.Change.removal stage.holdings block (held_known before known), parts.symm⟩

theorem Numbered.updateBlock_books {stage : Stage} (numbered : stage.Numbered)
    (once : (stage.held.map Block.id).Nodup) (id : SpriteId) (block : BlockId) (change : Arguments) :
    stage.Books (stage.updateBlock id block change).1
      (stage.entries (.updateBlock id block change)) := by
  apply numbered.edit_books
  · intro sprite changed applies
    rw [(Sprite.updateBlock?_eq_some applies).2]
  · intro sprite changed others applies before
    obtain ⟨known, rfl⟩ := Sprite.updateBlock?_eq_some applies
    have own : (sprite.blocks.map Block.id).Nodup := by
      have apart := (before.map Block.id).nodup_iff.mp once
      rw [List.map_append] at apart
      exact apart.of_append_left
    have parts := before.map fun old => if old.id = block then old.update change else old
    rw [List.map_append, Sprite.map_update_absent (others_ne once before known) change,
      ← Sprite.updateFirst_eq_map block change own] at parts
    exact ⟨_, @Holdings.Change.update stage.holdings block change (held_known before known),
      parts.symm⟩

theorem Numbered.amend_books {stage : Stage} (numbered : stage.Numbered)
    (once : (stage.held.map Block.id).Nodup) (amendment : Amendment) :
    stage.Books (stage.amend amendment) (stage.entries amendment) := by
  cases amendment with
  | addSprite =>
      have grown : (stage.amend .addSprite).held = stage.held ++ [] := List.flatMap_append
      rw [List.append_nil] at grown
      exact .of_same rfl grown
  | select id =>
      show stage.Books (stage.select id).1 []
      unfold select
      split
      · exact .of_same rfl rfl
      · exact .of_same rfl rfl
  | addBlock id opcode => exact numbered.addBlock_books id opcode
  | addBlockToSelected opcode =>
      show stage.Books (stage.addBlockToSelected opcode).1
        ((stage.addBlockToSelected opcode).2.map _).toList
      unfold addBlockToSelected
      split
      · exact numbered.addBlock_books _ opcode
      · exact .of_same rfl rfl
  | removeBlock id block => exact numbered.removeBlock_books once id block
  | reorderBlock id source target =>
      apply numbered.edit_books_of_perm
      intro sprite changed applies
      obtain ⟨blocks, same, rfl⟩ := Sprite.reorderBlock?_eq_some applies
      exact ⟨rfl, same⟩
  | updateBlock id block change => exact numbered.updateBlock_books once id block change
  | moveSprite id x y =>
      apply numbered.edit_books_of_perm
      rintro sprite changed ⟨⟩
      exact ⟨rfl, List.Perm.refl _⟩

/-! ## Playing -/

theorem play_books (stage : Stage) : stage.Books stage.play.1 [] := by
  cases playing : stage.playing with
  | true =>
      rw [play_of_playing playing]
      exact .of_same rfl rfl
  | false =>
      have reset : stage.play.1.supply = stage.supply ∧
          stage.play.1.sprites = stage.sprites.map Sprite.reset := by
        simp only [play, playing, Bool.false_eq_true, if_false, publishAll_eq]
        exact ⟨rfl, rfl⟩
      have blocks : stage.play.1.held = stage.held := by
        rw [held, reset.2, List.flatMap_map]
        rfl
      exact .of_same reset.1 blocks

theorem stop_books (stage : Stage) : stage.Books stage.stop [] := by
  have hushed : stage.stop.supply = stage.supply ∧
      stage.stop.sprites = stage.sprites.map Sprite.hush := by
    simp only [stop, publishAll_eq]
    exact ⟨rfl, rfl⟩
  have blocks : stage.stop.held = stage.held := by
    rw [held, hushed.2, List.flatMap_map]
    rfl
  exact .of_same hushed.1 blocks

/-- A swap hands the blocks of each of two sprites to the other one. -/
theorem swap_held {stage : Stage} (nodup : stage.ids.Nodup) {mover partner : Sprite}
    (moverMember : mover ∈ stage.sprites) (partnerMember : partner ∈ stage.sprites)
    (apart : partner.id ≠ mover.id) : (stage.swap mover partner).1.held.Perm stage.held := by
  let first : Sprite := { mover with blocks := partner.blocks }
  let second : Sprite := { partner with blocks := mover.blocks }
  have partnerStays : partner ∈ (stage.replace first).sprites :=
    List.mem_map.mpr ⟨partner, partnerMember, if_neg apart⟩
  have stillNodup : (stage.replace first).ids.Nodup := by
    rw [replace_ids]
    exact nodup
  have firstId : first.id = mover.id := rfl
  have secondId : second.id = partner.id := rfl
  -- The partner's blocks are there twice for a moment, and the mover's not at all.
  obtain ⟨others, before, given⟩ := held_replace nodup moverMember firstId
  obtain ⟨rest, between, taken⟩ := held_replace stillNodup partnerStays secondId
  have alike : rest.Perm others :=
    (List.perm_append_left_iff partner.blocks).mp (between.symm.trans given)
  calc ((stage.replace first).replace second).held.Perm (mover.blocks ++ rest) := taken
    List.Perm _ (mover.blocks ++ others) := alike.append_left _
    List.Perm _ stage.held := before.symm

/-- An update of a script changes no block; the swap that it may bring about only hands them on. -/
theorem Numbered.receive_books {stage : Stage} (numbered : stage.Numbered) (id : SpriteId)
    (update : Update) : stage.Books (stage.receive id stage.epoch update).1 [] := by
  rcases stage.receive_cases id update with ⟨_, same⟩ | ⟨sprite, found, outcome⟩
  · rw [same]
    exact .of_same rfl rfl
  · have blocks : (sprite.apply update).blocks.Perm sprite.blocks := by rw [Sprite.apply_blocks]
    have shown : (stage.showing (sprite.apply update)).held.Perm stage.held :=
      held_replace_perm numbered.nodup (find?_mem found) (Sprite.apply_id _ _) blocks
    rcases outcome with changed | ⟨partner, member, apart, _, swapped⟩
    · rw [changed]
      exact .of_perm rfl shown
    · have nodup : (stage.showing (sprite.apply update)).ids.Nodup := by
        rw [showing, publish_ids, replace_ids]
        exact numbered.nodup
      have moverId : (sprite.apply update).id = id := (Sprite.apply_id _ _).trans (find?_id found)
      have moverMember : sprite.apply update ∈ (stage.showing (sprite.apply update)).sprites :=
        List.mem_map.mpr ⟨sprite, find?_mem found, if_pos (Sprite.apply_id _ _).symm⟩
      have partnerMember : partner ∈ (stage.showing (sprite.apply update)).sprites :=
        List.mem_map.mpr ⟨partner, member, if_neg (moverId.symm ▸ apart)⟩
      rw [swapped]
      exact .of_perm rfl
        ((swap_held nodup moverMember partnerMember (moverId.symm ▸ apart)).trans shown)

/-! ## Setting up -/

/-- The entries of blocks that are created one after another from a definition of each. -/
def inventory (first : Nat) (definitions : List BlockDefinition) : List Entry :=
  (definitions.zipIdx first).map fun (definition, number) =>
    .created ⟨number⟩ definition.opcode definition.arguments

theorem inventory_append (first : Nat) (some more : List BlockDefinition) :
    inventory first (some ++ more) = inventory first some ++ inventory (first + some.length) more := by
  rw [inventory, List.zipIdx_append, List.map_append]
  rfl

/-- A block with a new number gets what its definition gives to it, beside the defaults of its opcode. -/
theorem addDefinedBlock_eq {built : Sprite × BlockSupply}
    (new : ⟨built.2.next⟩ ∉ built.1.blocks.map Block.id) (definition : BlockDefinition) :
    addDefinedBlock built definition =
      (built.1.addBlock ⟨⟨built.2.next⟩, definition.opcode,
        definition.opcode.defaults.merge definition.arguments⟩, ⟨built.2.next + 1⟩) := by
  let block : Block := ⟨⟨built.2.next⟩, definition.opcode, definition.opcode.defaults⟩
  have apart : ∀ other ∈ built.1.blocks, other.id ≠ block.id :=
    fun other member same => new (List.mem_map.mpr ⟨other, member, same⟩)
  have updated := Sprite.updateBlock?_addBlock definition.arguments apart
  simp only [addDefinedBlock, BlockSupply.create]
  rw [updated]
  rfl

/-- Appending the blocks of a definition to a sprite creates one block after another. -/
theorem foldl_addDefinedBlock_account (definitions : List BlockDefinition)
    {built : Sprite × BlockSupply} {others : List Block} {ledger : List Entry}
    (account : Holdings.Account ⟨built.2, others ++ built.1.blocks⟩ ledger) :
    let after := definitions.foldl addDefinedBlock built
    Holdings.Account ⟨after.2, others ++ after.1.blocks⟩
        (ledger ++ inventory built.2.next definitions) ∧
      after.2.next = built.2.next + definitions.length := by
  induction definitions generalizing built ledger with
  | nil =>
      refine ⟨?_, rfl⟩
      show Holdings.Account _ (ledger ++ [])
      rw [List.append_nil]
      exact account
  | cons definition rest more =>
      have created := account.creation definition.opcode definition.arguments
      have unheld : ⟨built.2.next⟩ ∉ built.1.blocks.map Block.id := by
        intro known
        apply account.next_unheld
        rw [List.map_append]
        exact List.mem_append_right _ known
      have appended := addDefinedBlock_eq unheld definition
      rw [List.append_assoc] at created
      have finished := @more (built.1.addBlock _, ⟨built.2.next + 1⟩) _ created
      rw [List.append_assoc, ← appended] at finished
      refine ⟨finished.1, finished.2.trans ?_⟩
      show built.2.next + 1 + rest.length = _
      rw [List.length_cons]
      omega

theorem insert_holdings (stage : Stage) (sprite : Sprite) :
    (stage.insert sprite).holdings = ⟨stage.supply, stage.held ++ sprite.blocks⟩ := by
  have grown : (stage.insert sprite).held = stage.held ++ [sprite].flatMap Sprite.blocks :=
    List.flatMap_append
  rw [holdings, grown, List.flatMap_singleton]
  rfl

theorem addDefinedSprite_account {stage : Stage} {ledger : List Entry}
    (account : stage.holdings.Account ledger) (definition : SpriteDefinition) :
    (stage.addDefinedSprite definition).holdings.Account
        (ledger ++ inventory stage.supply.next definition.blocks) ∧
      (stage.addDefinedSprite definition).supply.next =
        stage.supply.next + definition.blocks.length := by
  have begun : ∀ id name home, Holdings.Account
      ⟨stage.supply, stage.held ++ (Sprite.create id name home).blocks⟩ ledger := by
    intro id name home
    show Holdings.Account ⟨stage.supply, stage.held ++ []⟩ ledger
    rw [List.append_nil]
    exact account
  unfold addDefinedSprite
  dsimp only
  rw [insert_holdings]
  exact foldl_addDefinedBlock_account definition.blocks (begun _ _ _)

end Stage

/-- The ledger of a project: its blocks are created in the order in which they are defined. -/
def Project.ledger (project : Project) : List Entry :=
  Stage.inventory 1 (project.sprites.flatMap SpriteDefinition.blocks)

namespace Stage

theorem foldl_addDefinedSprite_account (definitions : List SpriteDefinition) {stage : Stage}
    {ledger : List Entry} (account : stage.holdings.Account ledger) :
    (definitions.foldl Stage.addDefinedSprite stage).holdings.Account
      (ledger ++ inventory stage.supply.next (definitions.flatMap SpriteDefinition.blocks)) := by
  induction definitions generalizing stage ledger with
  | nil =>
      show stage.holdings.Account (ledger ++ [])
      rw [List.append_nil]
      exact account
  | cons definition rest more =>
      obtain ⟨created, next⟩ := addDefinedSprite_account account definition
      have finished := more created
      rw [List.flatMap_cons, inventory_append, ← next, ← List.append_assoc]
      exact finished

/-- The ledger of a project accounts for the blocks of the stage that is set up from it. -/
theorem ofProject_account {project : Project} {hosted : Bool} {stage : Stage}
    (built : ofProject project hosted = .ok stage) : stage.holdings.Account project.ledger := by
  rcases ofProject_cases built with ⟨none, rfl⟩ | ⟨_, rfl⟩
  · rw [Project.ledger, none]
    exact .empty
  · exact @foldl_addDefinedSprite_account project.sprites (bare project.config) [] .empty

end Stage

end SpriteStage
