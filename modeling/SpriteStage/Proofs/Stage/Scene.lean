/-
Module: SpriteStage.Proofs.Stage.Scene
Purpose: The scene of a stage, which is the part of it that its events tell of. A scene changes in one of
  six ways, and each way publishes its own events in its own order: nothing that anybody could see, a
  sprite that enters, a new record of a sprite, a play, a stop, and a swap. Every operation of a stage
  makes one such change, so that all a stage ever published is a story, change after change from the
  empty scene.
Main exports: Stage.log, Scene, Stage.scene, Scene.Change, Scene.Story, Stage.Tells,
  Stage.Numbered.amend_tells, Stage.play_tells, Stage.stop_tells, Stage.receive_tells, Stage.ofProject_story
-/
import SpriteStage.Proofs.Sprite.BlockEdits
import SpriteStage.Proofs.Stage.Transitions

namespace SpriteStage

/-! ## Scenes -/

/-- What the events of a stage tell of. -/
structure Scene where
  sprites : List Sprite
  playing : Bool
  swapped : List SpritePair
  epoch : Nat
deriving DecidableEq, Repr

namespace Scene

/-- The scene before anything happened. -/
def empty : Scene := ⟨[], false, [], 0⟩

/-- The ids of all sprites, in the order of the sprites. -/
def ids (scene : Scene) : List SpriteId := scene.sprites.map Sprite.id

/-- The scene when a sprite with a new record, the mover, has swapped its blocks with a partner. -/
def exchange (scene : Scene) (mover partner : Sprite) : Scene :=
  { scene with
    sprites := renewed { partner with blocks := mover.blocks }
      (renewed { mover with blocks := partner.blocks } (renewed mover scene.sprites))
    swapped := SpritePair.of mover.id partner.id :: scene.swapped
    epoch := scene.epoch + 1 }

/-- The events of a swap: the new record of the mover, the pair, and the records of both with each
other's blocks. -/
def exchangeEvents (mover partner : Sprite) : List Event :=
  let pair := SpritePair.of mover.id partner.id
  [.changed mover, .swapped pair.1 pair.2, .changed { mover with blocks := partner.blocks },
    .changed { partner with blocks := mover.blocks }]

/-- What can become of a scene, and the events that tell of it. -/
inductive Change (before : Scene) : List Event → Scene → Prop where
  /-- Nothing that anybody could see. -/
  | silence : Change before [] before
  | entrance (sprite : Sprite) (new : sprite.id ∉ before.ids) :
      Change before [.changed sprite] { before with sprites := before.sprites ++ [sprite] }
  | record (sprite : Sprite) (known : sprite.id ∈ before.ids) :
      Change before [.changed sprite] { before with sprites := renewed sprite before.sprites }
  | play (resting : before.playing = false) :
      Change before
        (.played (before.epoch + 1) :: (before.sprites.map Sprite.reset).map Event.changed)
        ⟨before.sprites.map Sprite.reset, true, [], before.epoch + 1⟩
  | stop :
      Change before
        (.stopped (before.epoch + 1) :: (before.sprites.map Sprite.hush).map Event.changed)
        ⟨before.sprites.map Sprite.hush, false, before.swapped, before.epoch + 1⟩
  | swap (mover partner : Sprite) (playing : before.playing = true) (known : mover.id ∈ before.ids)
      (member : partner ∈ before.sprites) (apart : partner.id ≠ mover.id)
      (first : SpritePair.of mover.id partner.id ∉ before.swapped) :
      Change before (exchangeEvents mover partner) (before.exchange mover partner)

/-- A number of changes, one after another, and all the events that tell of them. -/
inductive Story (start : Scene) : List Event → Scene → Prop where
  | beginning : Story start [] start
  | change {told more : List Event} {middle finish : Scene} (story : Story start told middle)
      (change : Change middle more finish) : Story start (told ++ more) finish

/-- What every change keeps is so at the end of a story. -/
theorem Story.keeps {start finish : Scene} {told : List Event} (holds : Scene → Prop)
    (kept : ∀ {before more after}, Change before more after → holds before → holds after)
    (story : Story start told finish) (begun : holds start) : holds finish := by
  induction story with
  | beginning => exact begun
  | change _ change done => exact kept change done

theorem Story.trans {start middle finish : Scene} {first second : List Event}
    (one : Story start first middle) (two : Story middle second finish) :
    Story start (first ++ second) finish := by
  induction two with
  | beginning =>
      rw [List.append_nil]
      exact one
  | change _ change joined =>
      rw [← List.append_assoc]
      exact joined.change change

theorem exchange_ids (scene : Scene) (mover partner : Sprite) :
    (scene.exchange mover partner).ids = scene.ids := by
  rw [ids, exchange, renewed_ids, renewed_ids, renewed_ids, ids]

/-- With a change the sprites stay who they are, or one more stands behind them. -/
theorem Change.ids_cases {before after : Scene} {told : List Event}
    (change : before.Change told after) :
    after.ids = before.ids ∨ ∃ id, id ∉ before.ids ∧ after.ids = before.ids ++ [id] := by
  cases change with
  | silence => exact Or.inl rfl
  | entrance sprite new => exact Or.inr ⟨sprite.id, new, List.map_append⟩
  | record sprite known => exact Or.inl (renewed_ids _ _)
  | play | stop => exact Or.inl List.map_map
  | swap => exact Or.inl (exchange_ids _ _ _)

theorem Change.ids_subset {before after : Scene} {told : List Event}
    (change : before.Change told after) : before.ids ⊆ after.ids := by
  rcases change.ids_cases with same | ⟨id, _, grown⟩
  · rw [same]
    exact List.Subset.refl _
  · rw [grown]
    exact List.subset_append_left _ _

/-- No change gives two sprites the same id. -/
theorem Change.ids_nodup {before after : Scene} {told : List Event} (change : before.Change told after)
    (nodup : before.ids.Nodup) : after.ids.Nodup := by
  rcases change.ids_cases with same | ⟨id, new, grown⟩
  · rw [same]
    exact nodup
  · rw [grown]
    exact nodup.append (List.nodup_singleton _) (by simpa using new)

end Scene

/-! ## Stages -/

namespace Stage

/-- All events that a stage published, the earliest first. -/
def log (stage : Stage) : List Event := stage.events.toList

/-- The scene of a stage. -/
def scene (stage : Stage) : Scene := ⟨stage.sprites, stage.playing, stage.swapped, stage.epoch⟩

@[simp] theorem publish_log (stage : Stage) (event : Event) :
    (stage.publish event).log = stage.log ++ [event] :=
  Journal.toList_push _ _

theorem publishAll_log (stage : Stage) (sprites : List Sprite) :
    (stage.publishAll sprites).log = stage.log ++ sprites.map Event.changed := by
  unfold publishAll
  induction sprites generalizing stage with
  | nil => simp
  | cons sprite rest more =>
      rw [List.foldl_cons, more, publish_log, List.append_assoc]
      rfl

/-- The later stage has published the events of one change, and its scene is the changed one. -/
def Tells (before after : Stage) : Prop :=
  ∃ told, after.log = before.log ++ told ∧ before.scene.Change told after.scene

/-- Whatever nobody could see is a change as well. -/
theorem Tells.of_same {before after : Stage} (log : after.log = before.log)
    (scene : after.scene = before.scene) : before.Tells after := by
  refine ⟨[], ?_, ?_⟩
  · rw [log, List.append_nil]
  · rw [scene]
    exact .silence

/-- What a stage tells is the same whatever its notes, its selection and its supply are. -/
theorem Tells.congr {before before' after after' : Stage} (tells : before.Tells after)
    (log : before'.log = before.log) (scene : before'.scene = before.scene)
    (afterLog : after'.log = after.log) (afterScene : after'.scene = after.scene) :
    before'.Tells after' := by
  unfold Tells at tells ⊢
  rw [log, scene, afterLog, afterScene]
  exact tells

/-- One more change of a stage, and its story goes on. -/
theorem Tells.story {start : Scene} {before after : Stage}
    (tells : before.Tells after) (story : start.Story before.log before.scene) :
    start.Story after.log after.scene := by
  obtain ⟨more, log, change⟩ := tells
  rw [log]
  exact story.change change

/-! ### Edits -/

/-- The next sprite enters. -/
theorem Numbered.insert_tells {stage : Stage} (numbered : stage.Numbered) {sprite : Sprite}
    (next : sprite.id = numberedId stage.nextNumber) : stage.Tells (stage.insert sprite) :=
  ⟨[.changed sprite], publish_log _ _, .entrance sprite (numbered.insert_new next)⟩

theorem find?_known {stage : Stage} {id : SpriteId} {sprite : Sprite}
    (found : stage.find? id = some sprite) : id ∈ stage.scene.ids := by
  rw [← find?_id found]
  exact List.mem_map_of_mem (find?_mem found)

/-- An edit that applies is a new record of the sprite. -/
theorem edit_tells (stage : Stage) (kind : Edit) (id : SpriteId) {change : Sprite → Option Sprite}
    (keeps : ∀ sprite changed, change sprite = some changed → changed.id = sprite.id) :
    stage.Tells (stage.edit kind id change).1 := by
  rcases edit_cases stage kind id change with ⟨note, refused⟩ | ⟨sprite, changed, found, changes,
    applied⟩
  · rw [refused]
    exact .of_same rfl rfl
  · have same : changed.id = id := (keeps sprite changed changes).trans (find?_id found)
    rw [applied]
    exact ⟨[.changed changed], publish_log _ _, .record changed (same ▸ find?_known found)⟩

theorem addBlock_tells (stage : Stage) (id : SpriteId) (opcode : Opcode) :
    stage.Tells (stage.addBlock id opcode).1 := by
  rcases stage.addBlock_cases id opcode with ⟨note, refused⟩ | ⟨sprite, found, applied⟩
  · rw [refused]
    exact .of_same rfl rfl
  · have known : sprite.id ∈ stage.scene.ids := find?_id found ▸ find?_known found
    rw [applied]
    exact ⟨[.changed _], publish_log _ _, .record _ known⟩

theorem Numbered.amend_tells {stage : Stage} (numbered : stage.Numbered) (amendment : Amendment) :
    stage.Tells (stage.amend amendment) := by
  cases amendment with
  | addSprite => exact numbered.insert_tells rfl
  | select id =>
      show stage.Tells (stage.select id).1
      unfold select
      split
      · exact .of_same rfl rfl
      · exact .of_same rfl rfl
  | addBlock id opcode => exact addBlock_tells stage id opcode
  | addBlockToSelected opcode =>
      show stage.Tells (stage.addBlockToSelected opcode).1
      unfold addBlockToSelected
      split
      · exact addBlock_tells stage _ opcode
      · exact .of_same rfl rfl
  | removeBlock id block =>
      apply edit_tells
      intro sprite changed applies
      rw [(Sprite.removeBlock?_eq_some applies).2]
  | reorderBlock id source target =>
      apply edit_tells
      intro sprite changed applies
      obtain ⟨blocks, _, rfl⟩ := Sprite.reorderBlock?_eq_some applies
      rfl
  | updateBlock id block change =>
      apply edit_tells
      intro sprite changed applies
      rw [(Sprite.updateBlock?_eq_some applies).2]
  | moveSprite id x y =>
      apply edit_tells
      rintro sprite changed ⟨⟩
      rfl

/-! ### Playing -/

/-- A play from rest sends all sprites home, and publishes that and nothing else. -/
theorem play_tells (stage : Stage) : stage.Tells stage.play.1 := by
  cases playing : stage.playing with
  | true =>
      rw [play_of_playing playing]
      exact .of_same rfl rfl
  | false =>
      have log : stage.play.1.log = stage.log ++
          (.played (stage.epoch + 1) :: (stage.sprites.map Sprite.reset).map Event.changed) := by
        simp only [play, playing, Bool.false_eq_true, if_false]
        show log (publishAll _ _) = _
        rw [publishAll_log, publish_log, List.append_assoc]
        rfl
      have scene : stage.play.1.scene =
          ⟨stage.sprites.map Sprite.reset, true, [], stage.epoch + 1⟩ := by
        simp only [play, playing, Bool.false_eq_true, if_false, publishAll_eq]
        rfl
      refine ⟨_, log, ?_⟩
      rw [scene]
      exact .play playing

/-- A stop takes back all speech, and publishes that and nothing else. -/
theorem stop_tells (stage : Stage) : stage.Tells stage.stop := by
  have log : stage.stop.log = stage.log ++
      (.stopped (stage.epoch + 1) :: (stage.sprites.map Sprite.hush).map Event.changed) := by
    show log (publishAll _ _) = _
    rw [publishAll_log, publish_log, List.append_assoc]
    rfl
  have scene : stage.stop.scene =
      ⟨stage.sprites.map Sprite.hush, false, stage.swapped, stage.epoch + 1⟩ := by
    simp only [stop, publishAll_eq]
    rfl
  refine ⟨_, log, ?_⟩
  rw [scene]
  exact .stop

/-! ### Updates of scripts -/

/-- A swap after a new record of the mover publishes that record, the pair, and both with each other's
blocks. -/
theorem showing_swap_log (stage : Stage) (mover partner : Sprite) :
    ((stage.showing mover).swap mover partner).1.log =
      stage.log ++ Scene.exchangeEvents mover partner := by
  show log (publishAll _ _) = _
  rw [publishAll_log, publish_log]
  show (stage.publish _).log ++ _ ++ _ = _
  rw [publish_log, List.append_assoc, List.append_assoc]
  rfl

theorem showing_swap_scene (stage : Stage) (mover partner : Sprite) :
    ((stage.showing mover).swap mover partner).1.scene = stage.scene.exchange mover partner := rfl

/-- An update of a script publishes four events at most. -/
theorem receive_log (stage : Stage) (id : SpriteId) (update : Update) :
    ∃ told, (stage.receive id stage.epoch update).1.log = stage.log ++ told ∧ told.length ≤ 4 := by
  rcases stage.receive_cases id update with ⟨_, same⟩ | ⟨sprite, _, changed | swaps⟩
  · exact ⟨[], by rw [same, List.append_nil], Nat.zero_le 4⟩
  · refine ⟨[.changed (sprite.apply update)], ?_, by simp⟩
    rw [changed]
    exact publish_log _ _
  · obtain ⟨partner, _, _, _, swapped⟩ := swaps
    refine ⟨Scene.exchangeEvents (sprite.apply update) partner, ?_, Nat.le_refl 4⟩
    rw [swapped]
    exact showing_swap_log _ _ _

/-- An update of a script of the current epoch is a new record of its sprite, with or without a swap. -/
theorem receive_tells {stage : Stage} (playing : stage.playing = true) (id : SpriteId)
    (update : Update) : stage.Tells (stage.receive id stage.epoch update).1 := by
  rcases stage.receive_cases id update with ⟨_, same⟩ | ⟨sprite, found, changed | swaps⟩
  · rw [same]
    exact .of_same rfl rfl
  · have known : (sprite.apply update).id ∈ stage.scene.ids := by
      rw [Sprite.apply_id, find?_id found]
      exact find?_known found
    rw [changed]
    exact ⟨[.changed (sprite.apply update)], publish_log _ _, .record _ known⟩
  · obtain ⟨partner, member, apart, first, swapped⟩ := swaps
    have moverId : (sprite.apply update).id = id := by rw [Sprite.apply_id, find?_id found]
    rw [swapped]
    refine ⟨_, showing_swap_log _ _ _, ?_⟩
    rw [showing_swap_scene]
    exact .swap _ partner playing (moverId.symm ▸ find?_known found) member (moverId.symm ▸ apart)
      (moverId.symm ▸ first)

/-! ### Setting up -/

/-- A stage that was set up has told its whole story since it was bare. -/
theorem ofProject_story {project : Project} {hosted : Bool} {stage : Stage}
    (built : ofProject project hosted = .ok stage) : Scene.empty.Story stage.log stage.scene := by
  have told := ofProject_induction built
    (fun stage => stage.Numbered ∧ Scene.empty.Story stage.log stage.scene)
    ⟨bare_numbered _, .beginning⟩
    (fun stage ⟨numbered, story⟩ => ⟨numbered.addSprite, (numbered.insert_tells rfl).story story⟩)
    (by
      rintro stage definition ⟨numbered, story⟩
      refine ⟨numbered.addDefinedSprite definition, Tells.story ?_ story⟩
      have supplied (supply : BlockSupply) : Numbered { stage with supply } :=
        numbered.of_ids_eq rfl
      exact ((supplied _).insert_tells (foldl_addDefinedBlock_id _ _)).congr rfl rfl rfl rfl)
  exact told.2

end Stage

end SpriteStage
