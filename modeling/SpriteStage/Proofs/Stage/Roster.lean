/-
Module: SpriteStage.Proofs.Stage.Roster
Purpose: The roster of a stage. Sprites are numbered in the order in which they came, and no two
  numbers have the same id. So a look-up by id finds the only sprite that has it, and putting a new
  record in the place of an old one touches that sprite alone.
Main exports: renewed, Stage.ids, Stage.Numbered, Stage.Numbered.nodup, Stage.Numbered.eq_of_id_eq,
  Stage.ofProject_cases, Stage.ofProject_induction, Stage.ofProject_numbered, Stage.ofProject_config
-/
import Mathlib.Data.List.Nodup
import SpriteStage.Stage.Edit
import SpriteStage.Stage.Play

namespace SpriteStage

/-! ## Sprites keep their ids -/

namespace Sprite

@[simp] theorem hush_id (sprite : Sprite) : sprite.hush.id = sprite.id := rfl

@[simp] theorem reset_id (sprite : Sprite) : sprite.reset.id = sprite.id := rfl

@[simp] theorem apply_id (sprite : Sprite) (update : Update) :
    (sprite.apply update).id = sprite.id := by
  cases update with
  | pose pose => rfl
  | speech voice text => cases voice <;> rfl

@[simp] theorem apply_blocks (sprite : Sprite) (update : Update) :
    (sprite.apply update).blocks = sprite.blocks := by
  cases update with
  | pose pose => rfl
  | speech voice text => cases voice <;> rfl

end Sprite

/-! ## New records -/

/-- Records of sprites with a new record in the place of the old one. -/
def renewed (record : Sprite) (records : List Sprite) : List Sprite :=
  records.map fun old => if old.id = record.id then record else old

@[simp] theorem renewed_ids (record : Sprite) (records : List Sprite) :
    (renewed record records).map Sprite.id = records.map Sprite.id := by
  rw [renewed, List.map_map]
  apply List.map_congr_left
  intro old _
  by_cases here : old.id = record.id <;> simp [here]

/-- A new record of a sprite that is not there changes nothing. -/
theorem renewed_absent {record : Sprite} {records : List Sprite}
    (absent : record.id ∉ records.map Sprite.id) : renewed record records = records := by
  have others : ∀ other ∈ records, (if other.id = record.id then record else other) = other := by
    intro other member
    apply if_neg
    intro same
    exact absent (same ▸ List.mem_map_of_mem member)
  calc renewed record records = records.map id := List.map_congr_left others
    _ = records := List.map_id _

/-- If no other sprite has its id, a new record takes the place of the old one and that is all. -/
theorem renewed_middle {record old : Sprite} {front back : List Sprite} (same : record.id = old.id)
    (nodup : ((front ++ old :: back).map Sprite.id).Nodup) :
    renewed record (front ++ old :: back) = front ++ record :: back := by
  rw [List.map_append, List.map_cons, List.nodup_middle, List.nodup_cons, List.mem_append,
    not_or, ← same] at nodup
  obtain ⟨⟨before, behind⟩, _⟩ := nodup
  calc renewed record (front ++ old :: back)
      = renewed record front ++ record :: renewed record back := by simp [renewed, same]
    _ = front ++ record :: back := by rw [renewed_absent before, renewed_absent behind]

namespace Stage

/-! ## Numbering -/

/-- The ids of all sprites, in the order of the sprites. -/
def ids (stage : Stage) : List SpriteId := stage.sprites.map Sprite.id

/-- Every sprite has the id that belongs to its place. -/
def Numbered (stage : Stage) : Prop :=
  stage.ids = (List.range stage.sprites.length).map fun index => numberedId (index + 1)

/-- Different numbers have different ids: the digits of a number read back as that number. -/
theorem numberedId_injective {first second : Nat} (same : numberedId first = numberedId second) :
    first = second := by
  have texts : "sprite-" ++ first.repr = "sprite-" ++ second.repr := congrArg SpriteId.text same
  have digits : Nat.toDigits 10 first = Nat.toDigits 10 second := by
    simpa using congrArg String.toList texts
  calc first = Nat.ofDigitChars 10 (Nat.toDigits 10 first) 0 :=
        Nat.ofDigitChars_ten_toDigits.symm
    _ = Nat.ofDigitChars 10 (Nat.toDigits 10 second) 0 := by rw [digits]
    _ = second := Nat.ofDigitChars_ten_toDigits

/-- Sprites with the same ids in the same order are numbered alike. -/
theorem Numbered.of_ids_eq {before after : Stage} (numbered : before.Numbered)
    (same : after.ids = before.ids) : after.Numbered := by
  have lengths : after.sprites.length = before.sprites.length := by
    simpa [ids] using congrArg List.length same
  unfold Numbered
  rw [same, lengths]
  exact numbered

/-- A numbered roster stays one when the next number is added at its end. -/
theorem Numbered.of_ids_append {before after : Stage} (numbered : before.Numbered)
    (grown : after.ids = before.ids ++ [numberedId before.nextNumber]) : after.Numbered := by
  have lengths : after.sprites.length = before.sprites.length + 1 := by
    simpa [ids] using congrArg List.length grown
  unfold Numbered at numbered ⊢
  rw [grown, numbered, lengths, List.range_succ]
  simp [nextNumber]

theorem Numbered.nodup {stage : Stage} (numbered : stage.Numbered) : stage.ids.Nodup := by
  rw [numbered]
  refine List.Pairwise.map _ ?_ List.nodup_range
  intro first second different same
  exact different (Nat.succ.inj (numberedId_injective same))

/-- An id names at most one sprite. -/
theorem Numbered.eq_of_id_eq {stage : Stage} (numbered : stage.Numbered) {first second : Sprite}
    (firstMember : first ∈ stage.sprites) (secondMember : second ∈ stage.sprites)
    (same : first.id = second.id) : first = second :=
  List.inj_on_of_nodup_map numbered.nodup firstMember secondMember same

/-! ## Looking up and putting back -/

theorem find?_mem {stage : Stage} {id : SpriteId} {sprite : Sprite}
    (found : stage.find? id = some sprite) : sprite ∈ stage.sprites :=
  List.mem_of_find?_eq_some found

theorem find?_id {stage : Stage} {id : SpriteId} {sprite : Sprite}
    (found : stage.find? id = some sprite) : sprite.id = id := by
  simpa using List.find?_some found

theorem find?_isSome_iff {stage : Stage} {id : SpriteId} :
    (stage.find? id).isSome ↔ id ∈ stage.ids := by
  simp [find?, ids]

@[simp] theorem replace_ids (stage : Stage) (sprite : Sprite) :
    (stage.replace sprite).ids = stage.ids :=
  renewed_ids sprite stage.sprites

@[simp] theorem publish_ids (stage : Stage) (event : Event) :
    (stage.publish event).ids = stage.ids := rfl

/-- Publishing records changes nothing but the events. -/
theorem publishAll_eq (stage : Stage) (sprites : List Sprite) :
    stage.publishAll sprites =
      { stage with
        events := sprites.foldl (fun events sprite => events.push (.changed sprite))
          stage.events } := by
  unfold publishAll
  induction sprites generalizing stage with
  | nil => rfl
  | cons sprite rest more =>
      rw [List.foldl_cons, more]
      rfl

/-! ## Setting up -/

theorem insert_ids (stage : Stage) (sprite : Sprite) :
    (stage.insert sprite).ids = stage.ids ++ [sprite.id] := by
  simp [Stage.insert, ids, publish, note]

/-- Inserting the sprite whose turn it is keeps the numbering. -/
theorem Numbered.insert {stage : Stage} (numbered : stage.Numbered) {sprite : Sprite}
    (next : sprite.id = numberedId stage.nextNumber) : (stage.insert sprite).Numbered := by
  apply numbered.of_ids_append
  rw [← next, insert_ids]

/-- The sprite whose turn it is was not there before. -/
theorem Numbered.insert_new {stage : Stage} (numbered : stage.Numbered) {sprite : Sprite}
    (next : sprite.id = numberedId stage.nextNumber) : sprite.id ∉ stage.ids := by
  have nodup := (numbered.insert next).nodup
  rw [insert_ids] at nodup
  intro known
  exact List.disjoint_of_nodup_append nodup known (List.mem_singleton_self _)

theorem Numbered.addSprite {stage : Stage} (numbered : stage.Numbered) :
    stage.addSprite.Numbered :=
  numbered.insert rfl

/-- An update of a block leaves the rest of the sprite alone, whether it applies or not. -/
theorem updateBlock?_frame (sprite : Sprite) (id : BlockId) (change : Arguments) :
    ∃ blocks, (sprite.updateBlock? id change).getD sprite = { sprite with blocks } := by
  unfold Sprite.updateBlock?
  split
  · exact ⟨_, rfl⟩
  · exact ⟨sprite.blocks, rfl⟩

/-- Of a sprite only the blocks are another matter when a block has been appended to it. -/
theorem addDefinedBlock_frame (built : Sprite × BlockSupply) (definition : BlockDefinition) :
    ∃ blocks, addDefinedBlock built definition =
      ({ built.1 with blocks }, ⟨built.2.next + 1⟩) := by
  let block : Block := ⟨⟨built.2.next⟩, definition.opcode, definition.opcode.defaults⟩
  obtain ⟨blocks, same⟩ :=
    updateBlock?_frame (built.1.addBlock block) block.id definition.arguments
  exact ⟨blocks, congrArg (·, _) same⟩

/-- Of a sprite only the blocks are another matter when some have been appended to it. -/
theorem foldl_addDefinedBlock_frame (definitions : List BlockDefinition)
    (built : Sprite × BlockSupply) :
    ∃ blocks, (definitions.foldl addDefinedBlock built).1 = { built.1 with blocks } := by
  induction definitions generalizing built with
  | nil => exact ⟨built.1.blocks, rfl⟩
  | cons definition rest more =>
      obtain ⟨blocks, same⟩ := addDefinedBlock_frame built definition
      rw [List.foldl_cons, same]
      exact more _

theorem foldl_addDefinedBlock_id (definitions : List BlockDefinition)
    (built : Sprite × BlockSupply) :
    (definitions.foldl addDefinedBlock built).1.id = built.1.id := by
  obtain ⟨blocks, same⟩ := foldl_addDefinedBlock_frame definitions built
  rw [same]

theorem Numbered.addDefinedSprite {stage : Stage} (numbered : stage.Numbered)
    (definition : SpriteDefinition) : (stage.addDefinedSprite definition).Numbered := by
  unfold Stage.addDefinedSprite
  exact Numbered.insert (numbered.of_ids_eq rfl) (foldl_addDefinedBlock_id _ _)

theorem bare_numbered (config : Config) : (bare config).Numbered := rfl

/-- A stage is set up with one sprite if the project defines none, or else with those that it defines. -/
theorem ofProject_cases {project : Project} {hosted : Bool} {stage : Stage}
    (built : ofProject project hosted = .ok stage) :
    project.sprites = [] ∧ stage = (bare project.config).addSprite ∨
      project.sprites ≠ [] ∧
        stage = project.sprites.foldl Stage.addDefinedSprite (bare project.config) := by
  unfold ofProject at built
  split at built
  · cases built
  · split at built
    · cases built
    · split at built
      · rename_i none
        exact Or.inl ⟨none, (Except.ok.inj built).symm⟩
      · rename_i some
        exact Or.inr ⟨some, (Except.ok.inj built).symm⟩

/-- What is so without sprites and stays so when sprites are added is so of a stage that was set
up. -/
theorem ofProject_induction {project : Project} {hosted : Bool} {stage : Stage}
    (built : ofProject project hosted = .ok stage) (holds : Stage → Prop)
    (begun : holds (bare project.config))
    (adds : ∀ stage, holds stage → holds stage.addSprite)
    (defines : ∀ stage definition, holds stage → holds (stage.addDefinedSprite definition)) :
    holds stage := by
  have defined : ∀ (definitions : List SpriteDefinition) (stage : Stage), holds stage →
      holds (definitions.foldl Stage.addDefinedSprite stage) := by
    intro definitions
    induction definitions with
    | nil => exact fun _ done => done
    | cons definition rest more =>
        exact fun stage done => more _ (defines stage definition done)
  rcases ofProject_cases built with ⟨_, rfl⟩ | ⟨_, rfl⟩
  · exact adds _ begun
  · exact defined _ _ begun

/-- A stage that was set up has a numbered roster. -/
theorem ofProject_numbered {project : Project} {hosted : Bool} {stage : Stage}
    (built : ofProject project hosted = .ok stage) : stage.Numbered :=
  ofProject_induction built Numbered (bare_numbered project.config)
    (fun _ numbered => numbered.addSprite)
    (fun _ definition numbered => numbered.addDefinedSprite definition)

/-- A stage that was set up has not begun any epoch. -/
theorem ofProject_epoch {project : Project} {hosted : Bool} {stage : Stage}
    (built : ofProject project hosted = .ok stage) : stage.epoch = 0 :=
  ofProject_induction built (fun stage => stage.epoch = 0) rfl (fun _ none => none)
    (fun _ _ none => none)

/-- A stage that was set up goes by what the project says on how to play. -/
theorem ofProject_config {project : Project} {hosted : Bool} {stage : Stage}
    (built : ofProject project hosted = .ok stage) : stage.config = project.config :=
  ofProject_induction built (fun stage => stage.config = project.config) rfl (fun _ same => same)
    (fun _ _ same => same)

/-- On a stage that was set up nobody has swapped. -/
theorem ofProject_unswapped {project : Project} {hosted : Bool} {stage : Stage}
    (built : ofProject project hosted = .ok stage) : stage.swapped = [] :=
  ofProject_induction built (fun stage => stage.swapped = []) rfl (fun _ none => none)
    (fun _ _ none => none)

/-- A stage that was set up does not play. -/
theorem ofProject_resting {project : Project} {hosted : Bool} {stage : Stage}
    (built : ofProject project hosted = .ok stage) : stage.playing = false :=
  ofProject_induction built (fun stage => stage.playing = false) rfl (fun _ rests => rests)
    (fun _ _ rests => rests)

end Stage

end SpriteStage
