/-
Module: SpriteStage.Proofs.Stage.Encounter
Purpose: The proximity swap (`swap_if_close`). A sprite that has just moved looks at the other
  sprites in the order of the roster, and swaps its blocks with the first one that is close to it
  and has not swapped with it in this play. The swap exchanges the blocks of the two, begins the
  next epoch and starts a script for each sprite that then has blocks; all else on the stage stays
  as it is. An undefined distance is not close, and nothing is close within an undefined one.
Main exports: Stage.Meets, Stage.Exchanged, Stage.Numbered.swap_exchanged,
  Stage.Numbered.swapIfClose_of_meets, Stage.swapIfClose_of_alone, Stage.Numbered.swapIfClose_acts
-/
import SpriteStage.Proofs.Stage.Scene

namespace SpriteStage

/-! ## Being close -/

theorem unpacked_compare_of_isNaN {a b : Float.Model.UnpackedFloat}
    (undefined : a.isNaN = true ∨ b.isNaN = true) : a.compare b = none := by
  rcases undefined with first | second
  · cases a with
    | notANumber => rfl
    | infinity | zero | finite => cases first
  · cases b with
    | notANumber => cases a <;> rfl
    | infinity | zero | finite => cases second

/-- An undefined number is not less than any, and none is less than it. -/
theorem not_lt_of_isNaN {a b : Float} (undefined : a.isNaN = true ∨ b.isNaN = true) : ¬a < b := by
  intro less
  have unpacked : a.toModel.unpack.lt b.toModel.unpack = true := of_decide_eq_true less
  simp [Float.Model.UnpackedFloat.lt, unpacked_compare_of_isNaN undefined] at unpacked

namespace Stage

/-- Another sprite that is close to the mover and has not swapped with it in this play. -/
structure Meets (stage : Stage) (mover : Sprite) (distance : Float) (other : Sprite) : Prop where
  apart : other.id ≠ mover.id
  close : mover.pose.distance other.pose < distance
  first : SpritePair.of mover.id other.id ∉ stage.swapped

/-- Nobody is met across an undefined distance, or within one. -/
theorem not_meets_of_isNaN {stage : Stage} {mover other : Sprite} {distance : Float}
    (undefined : (mover.pose.distance other.pose).isNaN = true ∨ distance.isNaN = true) :
    ¬stage.Meets mover distance other :=
  fun meets => not_lt_of_isNaN undefined meets.close

/-- The partner is the first sprite of the roster that the mover meets. -/
theorem partner?_eq_some {stage : Stage} {mover partner : Sprite} {distance : Float}
    (found : stage.partner? mover distance = some partner) :
    stage.Meets mover distance partner ∧
      ∃ front back, stage.sprites = front ++ partner :: back ∧
        ∀ other ∈ front, ¬stage.Meets mover distance other := by
  obtain ⟨chosen, front, back, parted, passed⟩ := List.find?_eq_some_iff_append.mp found
  simp only [Bool.and_eq_true, decide_eq_true_eq] at chosen
  refine ⟨⟨chosen.1.1, chosen.1.2, chosen.2⟩, front, back, parted, ?_⟩
  intro other member meets
  have refused := passed other member
  simp [meets.apart, meets.close, meets.first] at refused

theorem partner?_eq_none {stage : Stage} {mover : Sprite} {distance : Float}
    (none : stage.partner? mover distance = none) :
    ∀ other ∈ stage.sprites, ¬stage.Meets mover distance other := by
  intro other member meets
  have refused := List.find?_eq_none.mp none other member
  simp [meets.apart, meets.close, meets.first] at refused

/-! ## Swapping -/

/-- What a swap of two sprites makes of a stage, and the scripts that start with it. -/
structure Exchanged (mover partner : Sprite) (before after : Stage) (scripts : List Script) :
    Prop where
  sprites : after.sprites = before.sprites.map fun old =>
    if old.id = mover.id then { old with blocks := partner.blocks }
    else if old.id = partner.id then { old with blocks := mover.blocks }
    else old
  swapped : after.swapped = SpritePair.of mover.id partner.id :: before.swapped
  epoch : after.epoch = before.epoch + 1
  scripts : scripts = (after.sprites.filter fun sprite => !sprite.blocks.isEmpty).map fun sprite =>
    ⟨sprite.id, sprite.pose, sprite.blocks⟩
  log : after.log = before.log ++
    [.swapped (SpritePair.of mover.id partner.id).1 (SpritePair.of mover.id partner.id).2,
      .changed { mover with blocks := partner.blocks },
      .changed { partner with blocks := mover.blocks }]
  selected : after.selected = before.selected
  playing : after.playing = before.playing
  config : after.config = before.config
  supply : after.supply = before.supply

/-- The roster is the same after a swap. -/
theorem Exchanged.ids {mover partner : Sprite} {before after : Stage} {scripts : List Script}
    (exchanged : Exchanged mover partner before after scripts) : after.ids = before.ids := by
  rw [Stage.ids, exchanged.sprites, List.map_map]
  apply List.map_congr_left
  intro old _
  simp only [Function.comp_apply]
  split
  · rfl
  · split <;> rfl

/-- On a numbered roster a swap exchanges the blocks of the two sprites and leaves all else
alone. -/
theorem Numbered.swap_exchanged {stage : Stage} (numbered : stage.Numbered) {mover partner : Sprite}
    (moving : mover ∈ stage.sprites) (member : partner ∈ stage.sprites)
    (apart : partner.id ≠ mover.id) :
    stage.Exchanged mover partner (stage.swap mover partner).1 (stage.swap mover partner).2 where
  sprites := by
    rw [swap_sprites]
    simp only [replace, List.map_map]
    apply List.map_congr_left
    intro old inside
    by_cases here : old.id = mover.id
    · have same : old = mover := numbered.eq_of_id_eq inside moving here
      simp [same, apart.symm]
    · by_cases there : old.id = partner.id
      · have same : old = partner := numbered.eq_of_id_eq inside member there
        simp [same, apart]
      · simp [here, there]
  swapped := rfl
  epoch := rfl
  scripts := rfl
  log := by
    show log (publishAll _ _) = _
    rw [publishAll_log, publish_log, List.append_assoc]
    rfl
  selected := rfl
  playing := rfl
  config := rfl
  supply := rfl

/-- In the epoch of its script a sprite that meets others swaps with the first of them. -/
theorem Numbered.swapIfClose_of_meets {stage : Stage} (numbered : stage.Numbered) {id : SpriteId}
    {mover : Sprite} (found : stage.find? id = some mover) {distance : Float}
    (somebody : ∃ other ∈ stage.sprites, stage.Meets mover distance other) :
    let result := stage.swapIfClose id stage.epoch distance
    ∃ front partner back, stage.sprites = front ++ partner :: back ∧
      (∀ other ∈ front, ¬stage.Meets mover distance other) ∧ stage.Meets mover distance partner ∧
      stage.Exchanged mover partner result.1 result.2 := by
  simp only [swapIfClose, ne_eq, not_true_eq_false, if_false, found]
  cases chosen : stage.partner? mover distance with
  | none =>
      obtain ⟨other, member, meets⟩ := somebody
      exact absurd meets (partner?_eq_none chosen other member)
  | some partner =>
      obtain ⟨meets, front, back, parted, passed⟩ := partner?_eq_some chosen
      have member : partner ∈ stage.sprites := List.mem_of_find?_eq_some chosen
      exact ⟨front, partner, back, parted, passed, meets,
        numbered.swap_exchanged (find?_mem found) member meets.apart⟩

/-- Nothing happens when the epoch of the script is over, or if its sprite meets nobody. -/
theorem swapIfClose_of_alone {stage : Stage} {id : SpriteId} {mover : Sprite}
    (found : stage.find? id = some mover) {epoch : Nat} {distance : Float}
    (alone : ¬(stage.epoch = epoch ∧ ∃ other ∈ stage.sprites, stage.Meets mover distance other)) :
    stage.swapIfClose id epoch distance = (stage, []) := by
  unfold swapIfClose
  by_cases current : stage.epoch = epoch
  · simp only [current, ne_eq, not_true_eq_false, if_false, found]
    cases chosen : stage.partner? mover distance with
    | none => rfl
    | some partner =>
        have member : partner ∈ stage.sprites := List.mem_of_find?_eq_some chosen
        exact absurd ⟨current, partner, member, (partner?_eq_some chosen).1⟩ alone
  · rw [if_pos current]

/-- The epoch tells whether a sprite swapped: if it did, it is with the first one it meets, and if
not, nothing happened at all. -/
theorem Numbered.swapIfClose_acts {stage : Stage} (numbered : stage.Numbered) {id : SpriteId}
    {mover : Sprite} (found : stage.find? id = some mover) (epoch : Nat) (distance : Float) :
    let result := stage.swapIfClose id epoch distance
    (result.1.epoch ≠ stage.epoch ↔
      stage.epoch = epoch ∧ ∃ other ∈ stage.sprites, stage.Meets mover distance other) ∧
    (result.1.epoch ≠ stage.epoch → ∃ front partner back,
      stage.sprites = front ++ partner :: back ∧
        (∀ other ∈ front, ¬stage.Meets mover distance other) ∧ stage.Meets mover distance partner ∧
        stage.Exchanged mover partner result.1 result.2) ∧
    (result.1.epoch = stage.epoch → result = (stage, [])) := by
  intro result
  by_cases meets : stage.epoch = epoch ∧ ∃ other ∈ stage.sprites, stage.Meets mover distance other
  · obtain ⟨rfl, somebody⟩ := meets
    have swaps := numbered.swapIfClose_of_meets found somebody
    have changed : result.1.epoch ≠ stage.epoch := by
      obtain ⟨_, _, _, _, _, _, exchanged⟩ := swaps
      rw [exchanged.epoch]
      exact Nat.succ_ne_self _
    exact ⟨⟨fun _ => ⟨rfl, somebody⟩, fun _ => changed⟩, fun _ => swaps,
      fun same => absurd same changed⟩
  · have nothing : result = (stage, []) := swapIfClose_of_alone found meets
    have same : result.1.epoch = stage.epoch := congrArg (fun result => result.1.epoch) nothing
    exact ⟨⟨fun changed => absurd same changed, fun acts => absurd acts meets⟩,
      fun changed => absurd same changed, fun _ => nothing⟩

end Stage

end SpriteStage
