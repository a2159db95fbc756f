/-
Module: SpriteStage.Proofs.Stage.Transitions
Purpose: What can become of a stage. An edit leaves the epoch alone. Playing, stopping and a swap
  begin the next epoch, and all of them keep the roster. An update of a script does one of three
  things: nothing, because the stage does not know the sprite; a change of that sprite; or a change
  of that sprite followed by a swap with one partner. Everything that is true of a stage at all
  times follows from these cases.
Main exports: Amendment, Stage.amend, Stage.Steady, Stage.edit_cases, Stage.addBlock_cases,
  Stage.amend_steady, Stage.Begins, Stage.play_begins, Stage.stop_begins, Stage.receive_cases,
  Stage.receive_steady_or_begins
-/
import SpriteStage.Proofs.Stage.Roster

namespace SpriteStage

/-- An edit of a stage, whether it applies or not. -/
inductive Amendment where
  | addSprite
  | select (id : SpriteId)
  | addBlock (id : SpriteId) (opcode : Opcode)
  | addBlockToSelected (opcode : Opcode)
  | removeBlock (id : SpriteId) (block : BlockId)
  | reorderBlock (id : SpriteId) (source target : BlockId)
  | updateBlock (id : SpriteId) (block : BlockId) (change : Arguments)
  | moveSprite (id : SpriteId) (x y : Float)
deriving DecidableEq, Repr

namespace Stage

/-- The stage after an edit. -/
def amend (stage : Stage) : Amendment → Stage
  | .addSprite => stage.addSprite
  | .select id => (stage.select id).1
  | .addBlock id opcode => (stage.addBlock id opcode).1
  | .addBlockToSelected opcode => (stage.addBlockToSelected opcode).1
  | .removeBlock id block => (stage.removeBlock id block).1
  | .reorderBlock id source target => (stage.reorderBlock id source target).1
  | .updateBlock id block change => (stage.updateBlock id block change).1
  | .moveSprite id x y => (stage.moveSprite id x y).1

/-! ## Changes within an epoch -/

/-- The later stage is in the same epoch of the same play. Nobody has left its roster, and the
roster is numbered if it was before. -/
structure Steady (before after : Stage) : Prop where
  config : after.config = before.config
  epoch : after.epoch = before.epoch
  playing : after.playing = before.playing
  ids : before.ids ⊆ after.ids
  numbered : before.Numbered → after.Numbered

theorem Steady.refl (stage : Stage) : stage.Steady stage :=
  ⟨rfl, rfl, rfl, List.Subset.refl _, id⟩

/-- A change within an epoch that leaves the ids alone. -/
theorem Steady.of_ids_eq {before after : Stage} (config : after.config = before.config)
    (epoch : after.epoch = before.epoch) (playing : after.playing = before.playing)
    (same : after.ids = before.ids) : before.Steady after :=
  ⟨config, epoch, playing, same ▸ List.Subset.refl _, fun numbered => numbered.of_ids_eq same⟩

theorem Steady.trans {before middle after : Stage} (one : before.Steady middle)
    (two : middle.Steady after) : before.Steady after :=
  ⟨two.config.trans one.config, two.epoch.trans one.epoch, two.playing.trans one.playing,
    List.Subset.trans one.ids two.ids, fun numbered => two.numbered (one.numbered numbered)⟩

theorem notes_steady (stage : Stage) (notes : Journal Note) :
    stage.Steady { stage with notes } :=
  .of_ids_eq rfl rfl rfl rfl

/-- A new record of a sprite, published. -/
theorem publish_replace_steady (stage : Stage) (sprite : Sprite) (event : Event) :
    stage.Steady ((stage.replace sprite).publish event) :=
  .of_ids_eq rfl rfl rfl (by simp)

/-- What an edit of one sprite comes to. -/
theorem edit_cases (stage : Stage) (kind : Edit) (id : SpriteId)
    (change : Sprite → Option Sprite) :
    (∃ note, stage.edit kind id change = (stage.note note, false)) ∨
      ∃ sprite changed, stage.find? id = some sprite ∧ change sprite = some changed ∧
        stage.edit kind id change =
          ((stage.replace changed).publish (.changed changed), true) := by
  unfold edit
  cases found : stage.find? id with
  | none => exact Or.inl ⟨_, rfl⟩
  | some sprite =>
      cases changes : change sprite with
      | none => exact Or.inl ⟨.unchanged kind id, by simp [changes]⟩
      | some changed => exact Or.inr ⟨sprite, changed, rfl, changes, by simp [changes]⟩

theorem edit_steady (stage : Stage) (kind : Edit) (id : SpriteId)
    (change : Sprite → Option Sprite) : stage.Steady (stage.edit kind id change).1 := by
  rcases edit_cases stage kind id change with ⟨note, refused⟩ | ⟨_, changed, _, _, applied⟩
  · rw [refused]
    exact notes_steady stage _
  · rw [applied]
    exact publish_replace_steady stage changed _

/-- What an added block comes to. The supply moves on only if the stage has the sprite. -/
theorem addBlock_cases (stage : Stage) (id : SpriteId) (opcode : Opcode) :
    (∃ note, stage.addBlock id opcode = (stage.note note, none)) ∨
      ∃ sprite, stage.find? id = some sprite ∧
        let block := (stage.supply.create opcode).1
        let changed := sprite.addBlock block
        stage.addBlock id opcode =
          ({ (stage.replace changed).publish (.changed changed) with
              supply := (stage.supply.create opcode).2 }, some block.id) := by
  unfold addBlock
  dsimp only
  rcases edit_cases stage .addBlock id
    (fun sprite => some (sprite.addBlock (stage.supply.create opcode).1)) with
      ⟨note, refused⟩ | ⟨sprite, changed, found, changes, applied⟩
  · rw [refused]
    exact Or.inl ⟨note, rfl⟩
  · rw [applied]
    cases changes
    exact Or.inr ⟨sprite, found, rfl⟩

theorem addBlock_steady (stage : Stage) (id : SpriteId) (opcode : Opcode) :
    stage.Steady (stage.addBlock id opcode).1 := by
  rcases stage.addBlock_cases id opcode with ⟨note, refused⟩ | ⟨sprite, found, applied⟩
  · rw [refused]
    exact notes_steady stage _
  · rw [applied]
    exact .of_ids_eq rfl rfl rfl (replace_ids stage _)

theorem amend_steady (stage : Stage) (amendment : Amendment) :
    stage.Steady (stage.amend amendment) := by
  cases amendment with
  | addSprite =>
      have grown : (stage.amend .addSprite).ids = stage.ids ++ [stage.nextSprite.id] :=
        insert_ids stage stage.nextSprite
      exact ⟨rfl, rfl, rfl, by simp [grown], Numbered.addSprite⟩
  | select id =>
      show stage.Steady (stage.select id).1
      unfold select
      split
      · exact .of_ids_eq rfl rfl rfl rfl
      · exact notes_steady stage _
  | addBlock id opcode => exact addBlock_steady stage id opcode
  | addBlockToSelected opcode =>
      show stage.Steady (stage.addBlockToSelected opcode).1
      unfold addBlockToSelected
      split
      · exact addBlock_steady stage _ opcode
      · exact Steady.refl stage
  | removeBlock id block => exact edit_steady stage _ id _
  | reorderBlock id source target => exact edit_steady stage _ id _
  | updateBlock id block change => exact edit_steady stage _ id _
  | moveSprite id x y => exact edit_steady stage _ id _

/-! ## Beginning an epoch -/

/-- The later stage is the first one of the next epoch, with the same roster. -/
structure Begins (before after : Stage) : Prop where
  config : after.config = before.config
  epoch : after.epoch = before.epoch + 1
  ids : after.ids = before.ids

theorem play_of_playing {stage : Stage} (playing : stage.playing = true) :
    stage.play = (stage.note .alreadyPlaying, []) := by
  simp [play, playing]

theorem play_begins {stage : Stage} (resting : stage.playing = false) :
    stage.Begins stage.play.1 ∧ stage.play.1.playing = true ∧
      stage.play.2 = stage.play.1.snapshots := by
  simp only [play, resting, Bool.false_eq_true, if_false, publishAll_eq]
  refine ⟨⟨rfl, rfl, ?_⟩, rfl, rfl⟩
  simp [ids, note, publish]

theorem stop_begins (stage : Stage) :
    stage.Begins stage.stop ∧ stage.stop.playing = false := by
  simp only [stop, publishAll_eq]
  refine ⟨⟨rfl, rfl, ?_⟩, rfl⟩
  simp [ids, note, publish]

theorem swap_sprites (stage : Stage) (mover partner : Sprite) :
    (stage.swap mover partner).1.sprites =
      ((stage.replace { mover with blocks := partner.blocks }).replace
        { partner with blocks := mover.blocks }).sprites := rfl

theorem swap_begins (stage : Stage) (mover partner : Sprite) :
    stage.Begins (stage.swap mover partner).1 ∧
      (stage.swap mover partner).1.playing = stage.playing ∧
      (stage.swap mover partner).2 = (stage.swap mover partner).1.snapshots := by
  refine ⟨⟨rfl, rfl, ?_⟩, rfl, rfl⟩
  rw [ids, swap_sprites]
  exact (replace_ids _ _).trans (replace_ids _ _)

/-- The snapshots are taken of the sprites that have blocks. -/
theorem mem_snapshots {stage : Stage} {script : Script} :
    script ∈ stage.snapshots ↔ ∃ sprite ∈ stage.sprites, sprite.blocks ≠ [] ∧
      ⟨sprite.id, sprite.pose, sprite.blocks⟩ = script := by
  simp [snapshots, and_assoc]

/-- Scripts start for sprites of the roster, in its order. -/
theorem snapshots_sublist (stage : Stage) :
    (stage.snapshots.map Script.sprite).Sublist stage.ids := by
  simp only [snapshots, List.map_map, ids]
  exact List.filter_sublist.map _

/-- One script starts for each sprite at most. -/
theorem Numbered.snapshots_nodup {stage : Stage} (numbered : stage.Numbered) :
    (stage.snapshots.map Script.sprite).Nodup :=
  numbered.nodup.sublist stage.snapshots_sublist

/-! ## Updates of scripts -/

/-- The new record of a sprite is found in the place of the old one. -/
theorem find?_replace {stage : Stage} {id : SpriteId} {old new : Sprite}
    (found : stage.find? id = some old) (same : new.id = id) :
    (stage.replace new).find? id = some new := by
  have alike : ((fun sprite : Sprite => decide (sprite.id = id)) ∘
      fun old => if old.id = new.id then new else old) = fun sprite => decide (sprite.id = id) := by
    funext sprite
    by_cases here : sprite.id = id <;> simp [here, same]
  simp only [find?, replace, List.find?_map, alike]
  have oldId : old.id = new.id := (find?_id found).trans same.symm
  unfold find? at found
  rw [found]
  simp [oldId]

/-- A sprite with another id is the same before and after a new record was put in. -/
theorem mem_of_mem_replace {stage : Stage} {new other : Sprite}
    (member : other ∈ (stage.replace new).sprites) (different : other.id ≠ new.id) :
    other ∈ stage.sprites := by
  obtain ⟨old, oldMember, rfl⟩ := List.mem_map.mp member
  by_cases here : old.id = new.id
  · simp [here] at different
  · simpa [here] using oldMember

theorem swapIfClose_cases {stage : Stage} {id : SpriteId} {mover : Sprite}
    (found : stage.find? id = some mover) (distance : Float) :
    stage.swapIfClose id stage.epoch distance = (stage, []) ∨
      ∃ partner ∈ stage.sprites, partner.id ≠ mover.id ∧
        SpritePair.of mover.id partner.id ∉ stage.swapped ∧
        stage.swapIfClose id stage.epoch distance = stage.swap mover partner := by
  simp only [swapIfClose, ne_eq, not_true_eq_false, if_false, found]
  cases close : stage.partner? mover distance with
  | none => exact Or.inl rfl
  | some partner =>
      have chosen := List.find?_some close
      simp only [Bool.and_eq_true, decide_eq_true_eq] at chosen
      exact Or.inr ⟨partner, List.mem_of_find?_eq_some close, chosen.1.1, chosen.2, rfl⟩

/-- The stage that shows a new record of a sprite. -/
def showing (stage : Stage) (sprite : Sprite) : Stage :=
  (stage.replace sprite).publish (.changed sprite)

/-- What an update comes to in its own epoch: nothing if the sprite is unknown; a new record of the
sprite; or the new record and then a swap with another sprite, with which it has not swapped yet. -/
theorem receive_cases (stage : Stage) (id : SpriteId) (update : Update) :
    (stage.find? id = none ∧ stage.receive id stage.epoch update = (stage, [])) ∨
      ∃ sprite, stage.find? id = some sprite ∧
        (stage.receive id stage.epoch update = (stage.showing (sprite.apply update), []) ∨
          ∃ partner ∈ stage.sprites, partner.id ≠ id ∧
            SpritePair.of id partner.id ∉ stage.swapped ∧
            stage.receive id stage.epoch update =
              (stage.showing (sprite.apply update)).swap (sprite.apply update) partner) := by
  cases found : stage.find? id with
  | none => exact Or.inl ⟨rfl, by simp [receive, found]⟩
  | some sprite =>
      refine Or.inr ⟨sprite, rfl, ?_⟩
      have spriteId := find?_id found
      have stays : (stage.showing (sprite.apply update)).find? id = some (sprite.apply update) :=
        find?_replace found (by simp [spriteId])
      cases update with
      | speech voice text => exact Or.inl (by simp [receive, found, showing])
      | pose pose =>
          cases distance : stage.config.swapDistance with
          | none => exact Or.inl (by simp [receive, found, showing, publish, replace, distance])
          | some limit =>
              have received : stage.receive id stage.epoch (.pose pose) =
                  (stage.showing (sprite.apply (.pose pose))).swapIfClose id stage.epoch limit := by
                simp [receive, found, showing, publish, replace, distance]
              rw [received]
              rcases swapIfClose_cases stays limit with
                nobody | ⟨partner, member, apart, first, swaps⟩
              · exact Or.inl nobody
              · have moverId : (sprite.apply (.pose pose)).id = id := by simp [spriteId]
                exact Or.inr ⟨partner, mem_of_mem_replace member apart, moverId ▸ apart,
                  moverId ▸ first, swaps⟩

/-- Within its own epoch an update either leaves the epoch as it is and starts nothing, or begins
the next one and starts the scripts of all sprites that have blocks. -/
theorem receive_steady_or_begins (stage : Stage) (id : SpriteId) (update : Update) :
    (∃ after, stage.receive id stage.epoch update = (after, []) ∧ stage.Steady after) ∨
      ∃ after, stage.receive id stage.epoch update = (after, after.snapshots) ∧
        stage.Begins after ∧ after.playing = stage.playing := by
  rcases stage.receive_cases id update with ⟨_, same⟩ | ⟨sprite, _, changed | swaps⟩
  · exact Or.inl ⟨stage, same, Steady.refl stage⟩
  · exact Or.inl ⟨_, changed, publish_replace_steady stage _ _⟩
  · obtain ⟨partner, _, _, _, swapped⟩ := swaps
    have kept := publish_replace_steady stage (sprite.apply update) (.changed (sprite.apply update))
    obtain ⟨begins, playing, scripts⟩ :=
      swap_begins (stage.showing (sprite.apply update)) (sprite.apply update) partner
    refine Or.inr ⟨_, swapped.trans (Prod.ext rfl scripts), ?_, playing.trans kept.playing⟩
    exact ⟨begins.config.trans kept.config, begins.epoch, begins.ids.trans (replace_ids _ _)⟩

/-- On a numbered roster an update changes the sprite with the id and no other. -/
theorem Numbered.showing_sprites {stage : Stage} (numbered : stage.Numbered) {id : SpriteId}
    {sprite : Sprite} (found : stage.find? id = some sprite) (update : Update) :
    (stage.showing (sprite.apply update)).sprites =
      stage.sprites.map fun old => if old.id = id then old.apply update else old := by
  apply List.map_congr_left
  intro old member
  by_cases here : old.id = id
  · have same : old = sprite :=
      numbered.eq_of_id_eq member (find?_mem found) (here.trans (find?_id found).symm)
    simp [same, find?_id found]
  · simp [here, find?_id found]

/-- On a numbered roster a swap after an update changes the blocks of the mover and of its partner
beside the update, and no other sprite. -/
theorem Numbered.swap_showing_sprites {stage : Stage} (numbered : stage.Numbered) {id : SpriteId}
    {mover partner : Sprite} (found : stage.find? id = some mover)
    (member : partner ∈ stage.sprites) (apart : partner.id ≠ id) (update : Update) :
    ((stage.showing (mover.apply update)).swap (mover.apply update) partner).1.sprites =
      stage.sprites.map fun old =>
        if old.id = id then { old.apply update with blocks := partner.blocks }
        else if old.id = partner.id then { old with blocks := mover.blocks }
        else old := by
  have moverId := find?_id found
  rw [swap_sprites]
  simp only [replace, List.map_map, showing, publish]
  apply List.map_congr_left
  intro old oldMember
  by_cases here : old.id = id
  · have same : old = mover :=
      numbered.eq_of_id_eq oldMember (find?_mem found) (here.trans moverId.symm)
    simp [same, moverId, apart.symm]
  · by_cases there : old.id = partner.id
    · have same : old = partner := numbered.eq_of_id_eq oldMember member there
      simp [same, moverId, apart]
    · simp [here, there, moverId]

end Stage

end SpriteStage
