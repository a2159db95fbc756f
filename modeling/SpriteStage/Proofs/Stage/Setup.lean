/-
Module: SpriteStage.Proofs.Stage.Setup
Purpose: Stages as projects describe them. Sprites come one after another in the order of their
  definitions, and so do their blocks; a block is looked up by its id once it is there and gets what
  its definition gives to it, and since no earlier block has that id it is the right one. A stage
  can be set up with any capacity but one that is too large for a broadcast channel.
Main exports: Project.cast, Block.Renders, Sprite.Renders, Stage.Renders,
  Stage.foldl_addDefinedBlock_eq, Stage.foldl_addDefinedSprite_renders, Stage.ofProject_renders_iff
-/
import SpriteStage.Proofs.Performance.Roster
import SpriteStage.Proofs.Project.Legible
import SpriteStage.Proofs.Stage.Holdings

namespace SpriteStage

/-! ## What is described -/

/-- The sprites that a project defines, or a nameless one without blocks if it defines none. -/
def Project.cast (project : Project) : List SpriteDefinition :=
  match project.sprites with
  | [] => [{ name := none, x := none, y := none, direction := 90, blocks := [] }]
  | definitions => definitions

/-- The block is as defined: its opcode is the one that the tag names, so that the tag is kept; its
arguments are those of the definition, and else the defaults of the opcode. -/
structure Block.Renders (definition : BlockDefinition) (block : Block) : Prop where
  opcode : block.opcode = .ofTag definition.opcode.tag
  tag : block.opcode.tag = definition.opcode.tag
  arguments : ∀ name, block.arguments.get? name =
    (definition.arguments.get? name).or (block.opcode.defaults.get? name)

/-- The sprite with a number is as defined, at home and silent. -/
structure Sprite.Renders (config : Config) (definition : SpriteDefinition) (number : Nat)
    (sprite : Sprite) : Prop where
  id : sprite.id = ⟨"sprite-" ++ toString number⟩
  name : sprite.name = definition.name.getD ("Sprite " ++ toString number)
  pose : sprite.pose =
    { x := definition.x.getD (config.spriteSpacing * Binary64.ofNat (number - 1))
      y := definition.y.getD 0
      direction := definition.direction }
  home : sprite.home = sprite.pose
  silent : sprite.say = "" ∧ sprite.think = ""
  blocks : List.Forall₂ Block.Renders definition.blocks sprite.blocks

/-- The stage is at rest and has the sprites of the project, numbered in their order. The ids of
their blocks count up in the order of the definitions, and the last sprite is selected. -/
structure Stage.Renders (project : Project) (stage : Stage) : Prop where
  config : stage.config = project.config
  resting : stage.playing = false
  epoch : stage.epoch = 0
  sprites : List.Forall₂ (fun entry sprite => sprite.Renders project.config entry.1 entry.2)
    (project.cast.zipIdx 1) stage.sprites
  created : stage.held.map Block.id = (List.range' 1 stage.held.length).map BlockId.mk
  selected : ∃ last, stage.sprites.getLast? = some last ∧ stage.selected = some last.id

namespace Stage

/-! ## Blocks -/

/-- The blocks that definitions make, with the ids from a number on. -/
def createdBlocks (first : Nat) (definitions : List BlockDefinition) : List Block :=
  (definitions.zipIdx first).map fun (definition, number) =>
    ⟨⟨number⟩, definition.opcode, definition.opcode.defaults.merge definition.arguments⟩

theorem createdBlocks_ids (first : Nat) (definitions : List BlockDefinition) :
    (createdBlocks first definitions).map Block.id =
      (List.range' first definitions.length).map BlockId.mk := by
  rw [← List.zipIdx_map_snd, createdBlocks, List.map_map, List.map_map]
  rfl

/-- If the ids so far are behind those of the supply, each new block gets the arguments that are
meant for it. -/
theorem foldl_addDefinedBlock_eq (definitions : List BlockDefinition)
    {built : Sprite × BlockSupply}
    (behind : ∀ block ∈ built.1.blocks, block.id.number < built.2.next) :
    definitions.foldl addDefinedBlock built =
      ({ built.1 with blocks := built.1.blocks ++ createdBlocks built.2.next definitions },
        ⟨built.2.next + definitions.length⟩) := by
  induction definitions generalizing built with
  | nil => simp [createdBlocks]
  | cons definition rest more =>
      have new : ⟨built.2.next⟩ ∉ built.1.blocks.map Block.id := by
        intro known
        obtain ⟨block, member, same⟩ := List.mem_map.mp known
        have before := behind block member
        rw [same] at before
        exact Nat.lt_irrefl _ before
      rw [List.foldl_cons, addDefinedBlock_eq new, more]
      · simp [Sprite.addBlock, createdBlocks, Nat.add_assoc, Nat.add_comm 1]
      · intro block member
        rcases List.mem_append.mp member with old | last
        · exact Nat.lt_succ_of_lt (behind block old)
        · rw [List.mem_singleton.mp last]
          exact Nat.lt_succ_self _

theorem createdBlocks_renders {definitions : List BlockDefinition}
    (legible : ∀ definition ∈ definitions, definition.Legible) (first : Nat) :
    List.Forall₂ Block.Renders definitions (createdBlocks first definitions) := by
  induction definitions generalizing first with
  | nil => exact .nil
  | cons definition rest more =>
      obtain ⟨here, others⟩ := List.forall_mem_cons.mp legible
      refine .cons ⟨here.opcode, rfl, ?_⟩ (more others (first + 1))
      intro name
      rw [Arguments.get?_merge, ← Arguments.getEntry_eq_lastGiven here.once]
      rfl

/-! ## Sprites -/

/-- A sprite that comes by a definition is as defined, and takes as many ids as it has blocks. -/
theorem addDefinedSprite_renders (stage : Stage) {definition : SpriteDefinition}
    (legible : ∀ block ∈ definition.blocks, block.Legible) :
    ∃ sprite, sprite.Renders stage.config definition stage.nextNumber ∧
      sprite.blocks = createdBlocks stage.supply.next definition.blocks ∧
      stage.addDefinedSprite definition =
        { stage with supply := ⟨stage.supply.next + definition.blocks.length⟩ }.insert sprite := by
  let home : Pose :=
    { x := definition.x.getD (slot stage.config stage.nextNumber)
      y := definition.y.getD 0
      direction := definition.direction }
  let blank := Sprite.create (numberedId stage.nextNumber)
    (definition.name.getD (numberedName stage.nextNumber)) home
  let blocks := createdBlocks stage.supply.next definition.blocks
  have built : definition.blocks.foldl addDefinedBlock (blank, stage.supply) =
      ({ blank with blocks }, ⟨stage.supply.next + definition.blocks.length⟩) :=
    foldl_addDefinedBlock_eq definition.blocks nofun
  refine ⟨{ blank with blocks }, ?_, rfl, ?_⟩
  · exact ⟨rfl, rfl, rfl, rfl, ⟨rfl, rfl⟩, createdBlocks_renders legible _⟩
  · simp only [addDefinedSprite]
    rw [built]

/-- Sprites that come one after another are as defined, numbered one after another, and so are their
blocks. -/
theorem foldl_addDefinedSprite_renders {definitions : List SpriteDefinition}
    (legible : ∀ sprite ∈ definitions, ∀ block ∈ sprite.blocks, block.Legible) (stage : Stage) :
    let after := definitions.foldl Stage.addDefinedSprite stage
    ∃ sprites, after.sprites = stage.sprites ++ sprites ∧
      List.Forall₂ (fun entry sprite => sprite.Renders stage.config entry.1 entry.2)
        (definitions.zipIdx stage.nextNumber) sprites ∧
      (sprites.flatMap Sprite.blocks).map Block.id =
        (List.range' stage.supply.next (sprites.flatMap Sprite.blocks).length).map BlockId.mk := by
  induction definitions generalizing stage with
  | nil => exact ⟨[], (List.append_nil _).symm, .nil, rfl⟩
  | cons definition rest more =>
      obtain ⟨here, others⟩ := List.forall_mem_cons.mp legible
      obtain ⟨sprite, renders, blocks, added⟩ := addDefinedSprite_renders stage here
      obtain ⟨sprites, whole, rendered, ids⟩ := more others (stage.addDefinedSprite definition)
      rw [added] at whole rendered ids
      have number : ({ stage with supply := ⟨stage.supply.next + definition.blocks.length⟩ }.insert
          sprite).nextNumber = stage.nextNumber + 1 := by
        simp [nextNumber, Stage.insert, publish, note]
      rw [number] at rendered
      refine ⟨sprite :: sprites, ?_, .cons renders rendered, ?_⟩
      · rw [List.foldl_cons, added, whole]
        simp [Stage.insert, publish, note]
      · have length : sprite.blocks.length = definition.blocks.length := by
          rw [blocks, createdBlocks, List.length_map, List.length_zipIdx]
        rw [List.flatMap_cons, List.map_append, List.length_append, ids, blocks, createdBlocks_ids,
          ← blocks, length, ← List.range'_append_1, List.map_append]
        rfl

/-! ## Stages -/

/-- A project that has no sprites gets the one of a stage that was set up without a project. -/
theorem ofProject_eq (project : Project) : ofProject project true =
    if largestCapacity < project.config.eventCapacity then
      .error (.capacity project.config.eventCapacity)
    else .ok (project.cast.foldl addDefinedSprite (bare project.config)) := by
  unfold ofProject Project.cast
  cases project.sprites with
  | nil => rfl
  | cons definition rest => rfl

theorem cast_legible {project : Project}
    (legible : ∀ sprite ∈ project.sprites, ∀ block ∈ sprite.blocks, block.Legible) :
    ∀ sprite ∈ project.cast, ∀ block ∈ sprite.blocks, block.Legible := by
  unfold Project.cast
  split
  · simp
  · exact legible

/-- If the definitions are legible, a stage that was set up is as described. -/
theorem ofProject_renders {project : Project} {stage : Stage}
    (legible : ∀ sprite ∈ project.sprites, ∀ block ∈ sprite.blocks, block.Legible)
    (built : ofProject project true = .ok stage) : stage.Renders project := by
  have setUp := built
  rw [ofProject_eq] at setUp
  split at setUp
  · cases setUp
  rw [Except.ok.injEq] at setUp
  obtain ⟨sprites, whole, rendered, ids⟩ :=
    foldl_addDefinedSprite_renders (cast_legible legible) (bare project.config)
  rw [setUp] at whole
  have whole : stage.sprites = sprites := whole
  refine ⟨ofProject_config built, ofProject_resting built, ofProject_epoch built, ?_, ?_, ?_⟩
  · rw [whole]
    exact rendered
  · rw [held, whole]
    exact ids
  · have nonempty : stage.sprites ≠ [] := by
      intro none
      apply ofProject_ids_ne_nil built
      rw [Stage.ids, none]
      rfl
    refine ⟨stage.sprites.getLast nonempty, List.getLast?_eq_some_getLast nonempty, ?_⟩
    rw [ofProject_selected built, Stage.ids, List.getLast?_map,
      List.getLast?_eq_some_getLast nonempty]
    rfl

/-- A stage as described can be set up from a project that was read exactly if subscriptions can
hold as many events as the project asks for. Otherwise there is no stage at all. -/
theorem ofProject_renders_iff {bytes : List UInt8} {project : Project}
    (parsed : Project.parse bytes = .ok project) :
    (∃ stage, ofProject project true = .ok stage ∧ stage.Renders project) ↔
      project.config.eventCapacity ≤ largestCapacity := by
  constructor
  · rintro ⟨stage, built, _⟩
    rw [ofProject_eq] at built
    split at built
    · cases built
    · rename_i small
      exact Nat.le_of_not_lt small
  · intro small
    have built := ofProject_eq project
    rw [if_neg (Nat.not_lt_of_le small)] at built
    exact ⟨_, built, ofProject_renders (Project.parse_legible parsed) built⟩

/-- Two sprites of which only the first has a name. Its second block has a tag that nobody knows. -/
theorem ofProject_renders_iff_pair :
    let text := (r#"{"sprites":[{"name":"Ann","x":5,"blocks":["#.toUTF8.toList
      ++ r#"{"type":"MOTION_MOVE_STEPS","args":{"steps":7}},"#.toUTF8.toList
      ++ r#"{"type":"JUMP"}]},{}]}"#.toUTF8.toList)
    ∃ project stage, Project.parse text = .ok project ∧
      project.config.eventCapacity ≤ largestCapacity ∧ ofProject project true = .ok stage ∧
        stage.Renders project ∧ stage.sprites.map Sprite.name = ["Ann", "Sprite 2"] ∧
          stage.held.map (fun block => block.opcode.tag) = ["MOTION_MOVE_STEPS", "JUMP"] := by
  intro text
  let mover : BlockDefinition := ⟨.moveSteps, ⟨[("steps", .integer 7)]⟩⟩
  let ann : SpriteDefinition := ⟨some "Ann", some 5, none, 90, [mover, ⟨.unknown "JUMP", .empty⟩]⟩
  let project : Project := { sprites := [ann, ⟨none, none, none, 90, []⟩] }
  have parsed : Project.parse text = .ok project := by decide +kernel
  have small : project.config.eventCapacity ≤ largestCapacity := by decide
  obtain ⟨stage, built, renders⟩ := (ofProject_renders_iff parsed).mpr small
  have whole : stage = project.sprites.foldl Stage.addDefinedSprite (.bare project.config) :=
    (Except.ok.inj built).symm
  refine ⟨project, stage, parsed, small, built, renders, ?_⟩
  subst whole
  decide +kernel

/-- A project that asks for one event more than subscriptions can hold is read, but it has no
stage. -/
theorem no_stage_of_vast_capacity :
    let text := r#"{"config":{"event_capacity":9223372036854775808}}"#.toUTF8.toList
    ∃ project, Project.parse text = .ok project ∧
      ∀ stage, ofProject project true ≠ .ok stage := by
  intro text
  let project : Project := { config := { eventCapacity := 9223372036854775808 } }
  have parsed : Project.parse text = .ok project := by decide +kernel
  refine ⟨project, parsed, fun stage built => ?_⟩
  have vast : largestCapacity < project.config.eventCapacity := by decide
  rw [ofProject_eq, if_pos vast] at built
  cases built

end Stage

end SpriteStage
