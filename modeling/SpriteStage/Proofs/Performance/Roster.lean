/-
Module: SpriteStage.Proofs.Performance.Roster
Purpose: The roster of the board. Sprites are numbered in the order in which they came. Once it has
  come a sprite keeps its place, its id, its name and its home, whatever is done with the stage; new
  ones only come behind all others. One of the sprites is always selected: the last one that came or
  that was selected by an edit.
Main exports: Move.selects?, Chronicle.selections, Chronicle.take_selected,
  Chronicle.follow_selected, Chronicle.Sound.follow_identity, Chronicle.roster_kept
-/
import SpriteStage.Proofs.Performance.Alterations
import SpriteStage.Proofs.Stage.Edits

namespace SpriteStage

namespace Stage

/-! ## Places and ids -/

/-- The id of a sprite is that of its place, counted from one. -/
theorem Numbered.id_of_getElem? {stage : Stage} (numbered : stage.Numbered) {index : Nat}
    {sprite : Sprite} (there : stage.sprites[index]? = some sprite) :
    sprite.id = numberedId (index + 1) := by
  obtain ⟨inside, _⟩ := List.getElem?_eq_some_iff.mp there
  have place : stage.ids[index]? = some sprite.id := by rw [ids, List.getElem?_map, there]; rfl
  rw [numbered, List.getElem?_map, List.getElem?_range inside] at place
  exact (Option.some.inj place).symm

/-- A look-up finds the sprite that has the id, which is the only one. -/
theorem Numbered.find?_eq_some_iff {stage : Stage} (numbered : stage.Numbered) {id : SpriteId}
    {sprite : Sprite} : stage.find? id = some sprite ↔ sprite ∈ stage.sprites ∧ sprite.id = id := by
  constructor
  · exact fun found => ⟨find?_mem found, find?_id found⟩
  · rintro ⟨member, rfl⟩
    obtain ⟨other, found⟩ := Option.isSome_iff_exists.mp
      (find?_isSome_iff.mpr (List.mem_map_of_mem member))
    rw [found, numbered.eq_of_id_eq (find?_mem found) member (find?_id found)]

/-! ## Stages that were set up -/

/-- On a stage that was set up the last sprite is selected. -/
theorem ofProject_selected {project : Project} {hosted : Bool} {stage : Stage}
    (built : ofProject project hosted = .ok stage) : stage.selected = stage.ids.getLast? := by
  have inserted : ∀ (stage : Stage) (sprite : Sprite),
      (stage.insert sprite).selected = (stage.insert sprite).ids.getLast? := by
    intro stage sprite
    rw [insert_ids, List.getLast?_concat]
    rfl
  exact ofProject_induction built (fun stage => stage.selected = stage.ids.getLast?) rfl
    (fun _ _ => inserted _ _) (fun _ _ _ => inserted _ _)

/-- A stage that was set up has a sprite. -/
theorem ofProject_ids_ne_nil {project : Project} {hosted : Bool} {stage : Stage}
    (built : ofProject project hosted = .ok stage) : stage.ids ≠ [] := by
  have inserted : ∀ (stage : Stage) (sprite : Sprite), (stage.insert sprite).ids ≠ [] := by
    intro stage sprite
    rw [insert_ids]
    exact List.concat_ne_nil _ _
  rcases ofProject_cases built with ⟨_, rfl⟩ | ⟨some, rfl⟩
  · exact inserted _ _
  · obtain ⟨front, last, whole⟩ := (List.eq_nil_or_concat _).resolve_left some
    rw [whole, List.concat_eq_append, List.foldl_append]
    exact inserted _ _

/-- On a stage that was set up one of its sprites is selected. -/
theorem ofProject_selects {project : Project} {hosted : Bool} {stage : Stage}
    (built : ofProject project hosted = .ok stage) :
    ∃ id ∈ stage.ids, stage.selected = some id := by
  have last := List.getLast?_eq_some_getLast (ofProject_ids_ne_nil built)
  exact ⟨_, List.getLast_mem _, (ofProject_selected built).trans last⟩

/-! ## Selection -/

theorem select_selected (stage : Stage) (id : SpriteId) :
    (stage.select id).1.selected =
      (if (stage.select id).2 then some id else none).or stage.selected := by
  unfold select
  split
  · rfl
  · rfl

/-- A sprite can be selected exactly if the stage has it. -/
theorem select_answers_iff (stage : Stage) (id : SpriteId) :
    (stage.select id).2 = true ↔ id ∈ stage.ids := by
  rcases stage.select_cases id with ⟨unknown, same⟩ | ⟨known, selects⟩
  · simp [same, unknown]
  · simp [selects, known]

theorem edit_selected (stage : Stage) (kind : Edit) (id : SpriteId)
    (change : Sprite → Option Sprite) :
    (stage.edit kind id change).1.selected = stage.selected := by
  rcases edit_cases stage kind id change with ⟨_, refused⟩ | ⟨_, _, _, _, applied⟩
  · rw [refused]
    rfl
  · rw [applied]
    rfl

theorem addBlock_selected (stage : Stage) (id : SpriteId) (opcode : Opcode) :
    (stage.addBlock id opcode).1.selected = stage.selected := by
  rcases stage.addBlock_cases id opcode with ⟨_, refused⟩ | ⟨_, _, applied⟩
  · rw [refused]
    rfl
  · rw [applied]
    rfl

theorem play_selected (stage : Stage) : stage.play.1.selected = stage.selected := by
  unfold play
  split
  · rfl
  · simp only [publishAll_eq]
    rfl

theorem stop_selected (stage : Stage) : stage.stop.selected = stage.selected := by
  simp only [stop, publishAll_eq]
  rfl

theorem receive_selected (stage : Stage) (id : SpriteId) (update : Update) :
    (stage.receive id stage.epoch update).1.selected = stage.selected := by
  rcases stage.receive_cases id update with ⟨_, same⟩ | ⟨_, _, changed | ⟨_, _, _, _, swapped⟩⟩
  · rw [same]
  · rw [changed]
    rfl
  · rw [swapped]
    rfl

end Stage

/-- The sprite that a move selects, by its answer: a new one, or one that an edit could select. -/
def Move.selects? (stage : Stage) : Move → Option SpriteId
  | .amend .addSprite => some stage.nextSprite.id
  | .amend (.select id) => if (stage.select id).2 then some id else none
  | _ => none

namespace Chronicle

/-- The sprites that some moves select, one after another. -/
def selections (chronicle : Chronicle) : List Move → List SpriteId
  | [] => []
  | move :: rest =>
    (move.selects? chronicle.stage).toList ++ (chronicle.take move).selections rest

/-- The sprite that a move selects is selected, and if it selects none the selection stays. -/
theorem take_selected (chronicle : Chronicle) (move : Move) :
    (chronicle.take move).stage.selected =
      (move.selects? chronicle.stage).or chronicle.stage.selected := by
  cases move with
  | play => exact chronicle.stage.play_selected
  | stop => exact chronicle.stage.stop_selected
  | clock time => rfl
  | turn place =>
      obtain ⟨notes, ⟨same, _⟩ | ⟨task, _, _, update, received, _⟩⟩ := chronicle.turn_stage place
      · rw [same]
        rfl
      · rw [received]
        exact Stage.receive_selected { chronicle.stage with notes } task.sprite update
  | amend amendment =>
      cases amendment with
      | addSprite => rfl
      | select id => exact chronicle.stage.select_selected id
      | addBlock id opcode => exact chronicle.stage.addBlock_selected id opcode
      | addBlockToSelected opcode =>
          show (chronicle.stage.addBlockToSelected opcode).1.selected = chronicle.stage.selected
          unfold Stage.addBlockToSelected
          split
          · exact chronicle.stage.addBlock_selected _ opcode
          · rfl
      | removeBlock | reorderBlock | updateBlock | moveSprite =>
          exact chronicle.stage.edit_selected _ _ _

/-- After some moves the sprite that they selected last is selected. -/
theorem follow_selected (chronicle : Chronicle) (moves : List Move) :
    (chronicle.follow moves).stage.selected =
      (chronicle.selections moves).getLast?.or chronicle.stage.selected := by
  induction moves generalizing chronicle with
  | nil => rfl
  | cons move rest later =>
      have next : (chronicle.follow (move :: rest)).stage.selected =
          ((chronicle.take move).selections rest).getLast?.or
            ((move.selects? chronicle.stage).or chronicle.stage.selected) :=
        (later (chronicle.take move)).trans (by rw [take_selected])
      rw [next, selections, List.getLast?_append, Option.or_assoc]
      cases move.selects? chronicle.stage with
      | none => rfl
      | some id => rfl

/-- What is selected is there when the move is over. -/
theorem selects_mem {chronicle : Chronicle} {move : Move} {id : SpriteId}
    (selects : move.selects? chronicle.stage = some id) :
    id ∈ (chronicle.take move).stage.ids := by
  cases move with
  | play | stop | clock | turn => cases selects
  | amend amendment =>
      cases amendment with
      | addSprite =>
          cases selects
          exact Stage.insert_ids _ _ ▸ List.mem_append_right _ (List.mem_singleton_self _)
      | select other =>
          simp only [Move.selects?] at selects
          split at selects
          · rename_i answers
            cases selects
            exact (Stage.amend_steady _ _).ids ((chronicle.stage.select_answers_iff _).mp answers)
          · cases selects
      | addBlock | addBlockToSelected | removeBlock | reorderBlock | updateBlock | moveSprite =>
          cases selects

/-! ## The roster -/

/-- Whatever is done with the stage, every sprite stays in its place and stays who it is. -/
theorem Sound.follow_identity {chronicle : Chronicle} (sound : chronicle.Sound) (moves : List Move)
    {index : Nat} {sprite : Sprite} (there : chronicle.stage.sprites[index]? = some sprite) :
    ∃ same, (chronicle.follow moves).stage.sprites[index]? = some same ∧
      same.identity = sprite.identity := by
  induction moves generalizing chronicle sprite with
  | nil => exact ⟨sprite, there, rfl⟩
  | cons move rest later =>
      obtain ⟨blocks, next⟩ := (sound.take_alters move).getElem? there
      obtain ⟨same, found, identity⟩ := later (sound.take move) next
      exact ⟨same, found, identity.trans (sprite.alter_identity _)⟩

/-- Whoever is on the roster stays on it. -/
theorem Sound.follow_ids {chronicle : Chronicle} (sound : chronicle.Sound) (moves : List Move) :
    chronicle.stage.ids ⊆ (chronicle.follow moves).stage.ids := by
  intro id known
  obtain ⟨sprite, member, rfl⟩ := List.mem_map.mp known
  obtain ⟨index, there⟩ := List.mem_iff_getElem?.mp member
  obtain ⟨same, found, identity⟩ := sound.follow_identity moves there
  exact List.mem_map.mpr ⟨same, List.mem_of_getElem? found, congrArg Prod.fst identity⟩

/-- Whatever is selected is on the roster. -/
theorem Sound.follow_selected_mem {chronicle : Chronicle} (sound : chronicle.Sound)
    (begun : ∃ id ∈ chronicle.stage.ids, chronicle.stage.selected = some id) (moves : List Move) :
    ∃ id ∈ (chronicle.follow moves).stage.ids,
      (chronicle.follow moves).stage.selected = some id := by
  induction moves generalizing chronicle with
  | nil => exact begun
  | cons move rest later =>
      refine later (sound.take move) ?_
      rw [take_selected]
      cases chosen : move.selects? chronicle.stage with
      | some id => exact ⟨id, selects_mem chosen, rfl⟩
      | none =>
          obtain ⟨id, known, selected⟩ := begun
          exact ⟨id, sound.follow_ids [move] known, by rw [selected]; rfl⟩

/-- Whatever is done with a stage, and in whatever order its scripts have their turns: its sprites
are numbered from one on, so that an id names one of them at most; there is at least one; from any
moment on every sprite stays in its place and keeps its id, its name and its home, so that others
only come behind it; and one of them is selected, namely the last one that came or that an edit
answered that it selected. -/
theorem roster_kept {project : Project} {hosted : Bool} {stage : Stage}
    (built : Stage.ofProject project hosted = .ok stage) (moves : List Move) :
    let chronicle := (create stage).follow moves
    let sprites := chronicle.stage.sprites
    (∀ (index : Nat) (sprite : Sprite), sprites[index]? = some sprite →
      sprite.id = ⟨"sprite-" ++ toString (index + 1)⟩) ∧
      (sprites.map Sprite.id).Nodup ∧
      (∀ id sprite, chronicle.stage.find? id = some sprite ↔ sprite ∈ sprites ∧ sprite.id = id) ∧
      sprites ≠ [] ∧
      (∀ more, let later := chronicle.follow more
        ∀ (index : Nat) (sprite : Sprite), sprites[index]? = some sprite →
          ∃ same : Sprite, later.stage.sprites[index]? = some same ∧
            same.id = sprite.id ∧ same.name = sprite.name ∧ same.home = sprite.home) ∧
      (∃ sprite ∈ sprites, chronicle.stage.selected = some sprite.id) ∧
      chronicle.stage.selected =
        (stage.sprites.map Sprite.id ++ (create stage).selections moves).getLast? := by
  intro chronicle sprites
  have begun : (create stage).Sound := .create (Stage.ofProject_numbered built)
  have sound : chronicle.Sound := (begun.follow_story moves).1
  obtain ⟨_, known, selected⟩ := begun.follow_selected_mem (Stage.ofProject_selects built) moves
  obtain ⟨sprite, member, rfl⟩ := List.mem_map.mp known
  refine ⟨?_, sound.numbered.nodup, ?_, ?_, ?_, ?_, ?_⟩
  · exact fun index sprite there => sound.numbered.id_of_getElem? there
  · exact fun id sprite => sound.numbered.find?_eq_some_iff
  · exact List.ne_nil_of_mem member
  · intro more later index sprite there
    obtain ⟨same, found, identity⟩ := sound.follow_identity more there
    obtain ⟨id, rest⟩ := Prod.mk.inj identity
    exact ⟨same, found, id, Prod.mk.inj rest⟩
  · exact ⟨sprite, member, selected⟩
  · rw [follow_selected, List.getLast?_append]
    exact congrArg _ (Stage.ofProject_selected built)

/-- After a visit a third sprite comes, the second one is selected, and nobody by a name that is not
on the roster. The first one has kept its home, wherever it jumped to. -/
theorem roster_kept_visit :
    let edits : List Move :=
      [.amend .addSprite, .amend (.select ⟨"sprite-2"⟩), .amend (.select ⟨"nobody"⟩)]
    ∃ stage, Stage.ofProject neighbours true = .ok stage ∧
      let later := ((create stage).follow (visit ++ edits)).stage
      later.sprites.map Sprite.id = [⟨"sprite-1"⟩, ⟨"sprite-2"⟩, ⟨"sprite-3"⟩] ∧
        (later.sprites.map Sprite.id).Nodup ∧ later.selected = some ⟨"sprite-2"⟩ ∧
        ∃ jumper : Sprite, later.sprites[0]? = some jumper ∧ jumper.pose.x = 110 ∧
          jumper.home.x = 0 := by
  intro edits
  obtain ⟨stage, built⟩ : ∃ stage, Stage.ofProject neighbours true = .ok stage := ⟨_, rfl⟩
  have whole : stage = neighbours.sprites.foldl Stage.addDefinedSprite (.bare neighbours.config) :=
    (Except.ok.inj built).symm
  obtain ⟨_, once, _, _, _, _, selected⟩ := roster_kept built (visit ++ edits)
  obtain ⟨_, _, _, _, stays, _⟩ := roster_kept built []
  obtain ⟨first, there, home⟩ : ∃ first, stage.sprites[0]? = some first ∧ first.home.x = 0 := by
    subst whole
    exact ⟨_, rfl, by decide +kernel⟩
  obtain ⟨jumper, here, _, _, sameHome⟩ := stays (visit ++ edits) 0 first there
  have chosen : (stage.sprites.map Sprite.id ++
      (create stage).selections (visit ++ edits)).getLast? = some ⟨"sprite-2"⟩ := by
    subst whole
    decide +kernel
  have place : (((create stage).follow (visit ++ edits)).stage.sprites[0]?.map
      fun sprite => sprite.pose.x) = some 110 := by
    subst whole
    decide +kernel
  refine ⟨stage, built, ?_, once, selected.trans chosen, jumper, here, ?_, by rw [sameHome, home]⟩
  · subst whole
    decide +kernel
  · have jumped : ((create stage).follow (visit ++ edits)).stage.sprites[0]? = some jumper := here
    rw [jumped] at place
    exact Option.some.inj place

end Chronicle

end SpriteStage
