/-
Module: SpriteStage.Proofs.Stage.Places
Purpose: Blocks and sprites by their places. Reordering takes a block out of one place and puts it in at
  another, a swap reads and writes two places of the roster, and the pass of a script that repeats is the
  blocks up to a place. Told this way each of them can miss its place, and then there is no answer at all.
  None of them does, as long as no two sprites have one id.
Main exports: takeOut?, putIn?, upTo?, writeAt?, Sprite.reorderByPlaces_eq, Run.passUpTo?_eq,
  Stage.Numbered.swapByPlaces_eq, Stage.Numbered.receiveByPlaces_eq
-/
import Mathlib.Data.List.TakeWhile
import SpriteStage.Proofs.Stage.Encounter
import SpriteStage.Proofs.Sprite.BlockEdits

namespace SpriteStage

/-! ## Places of a list -/

section Lists

variable {α : Type}

/-- The element at a place and the others, if there is one at that place. -/
def takeOut? (list : List α) (place : Nat) : Option (α × List α) :=
  list[place]?.map fun element => (element, list.eraseIdx place)

/-- The list with one more element at a place, if there is such a place, the one behind the end included. -/
def putIn? (list : List α) (place : Nat) (element : α) : Option (List α) :=
  if place ≤ list.length then some (list.insertIdx place element) else none

/-- The elements before a place, if there are as many. -/
def upTo? (list : List α) (place : Nat) : Option (List α) :=
  if place ≤ list.length then some (list.take place) else none

/-- The list with another element at a place, if there is one at that place. -/
def writeAt? (list : List α) (place : Nat) (element : α) : Option (List α) :=
  if place < list.length then some (list.set place element) else none

variable {p : α → Bool} {list : List α} {place : Nat}

/-- The place that a search finds is one of the list, and the element there is the one that is asked for. -/
theorem getElem?_of_findIdx? (found : list.findIdx? p = some place) :
    place < list.length ∧ list[place]? = list.find? p := by
  obtain ⟨inside, _⟩ := List.findIdx?_eq_some_iff_getElem.mp found
  refine ⟨inside, ?_⟩
  rw [List.find?_eq_bind_findIdx?_getElem?, found, Option.bind_some]

theorem findIdx?_congr {q : α → Bool} (same : ∀ element ∈ list, q element = p element) :
    list.findIdx? q = list.findIdx? p := by
  induction list with
  | nil => rfl
  | cons element rest more =>
      obtain ⟨here, others⟩ := List.forall_mem_cons.mp same
      rw [List.findIdx?_cons, List.findIdx?_cons, here, more others]

/-- Elements can be searched together with their places. -/
theorem findIdx?_zipIdx {q : α × Nat → Bool}
    (same : ∀ place element, list[place]? = some element → q (element, place) = p element) :
    list.zipIdx.findIdx? q = list.findIdx? p := by
  have agree : ∀ entry ∈ list.zipIdx, q entry = (p ∘ Prod.fst) entry := by
    rintro ⟨element, place⟩ member
    exact same place element (List.mk_mem_zipIdx_iff_getElem?.mp member)
  calc list.zipIdx.findIdx? q
      = list.zipIdx.findIdx? (p ∘ Prod.fst) := findIdx?_congr agree
    _ = (list.zipIdx.map Prod.fst).findIdx? p := List.findIdx?_map.symm
    _ = list.findIdx? p := by rw [List.zipIdx_map_fst]

/-- The elements up to the place that a search finds are those that are not asked for. -/
theorem upTo?_findIdx? (found : list.findIdx? p = some place) :
    upTo? list place = some (list.takeWhile fun element => !p element) := by
  obtain ⟨inside, first⟩ := List.findIdx?_eq_some_iff_findIdx_eq.mp found
  have through : (list.takeWhile fun element => !p element) = list.take place := by
    rw [List.takeWhile_eq_take_findIdx_not, ← first]
    simp only [Bool.not_not]
  rw [upTo?, if_pos (Nat.le_of_lt inside), through]

end Lists

/-! ## Blocks of a sprite -/

namespace Sprite

/-- Moves a block by its place: the answer is that nothing changes, or the sprite with the block in its new
place. -/
def reorderByPlaces (sprite : Sprite) (source target : BlockId) : Option (Option Sprite) :=
  match sprite.position? source, sprite.position? target with
  | some start, some goal =>
    if start = goal then some none
    else do
      let (moved, others) ← takeOut? sprite.blocks start
      let blocks ← putIn? others goal moved
      return some { sprite with blocks }
  | _, _ => some none

/-- A block that is taken out leaves a place for it wherever there was one. -/
theorem reorderByPlaces_eq (sprite : Sprite) (source target : BlockId) :
    sprite.reorderByPlaces source target = some (sprite.reorderBlock? source target) := by
  unfold reorderByPlaces reorderBlock?
  cases first : sprite.position? source with
  | none => rfl
  | some start =>
      cases second : sprite.position? target with
      | none => rfl
      | some goal =>
          have there := (getElem?_of_findIdx? first).1
          have inside := (getElem?_of_findIdx? second).1
          have room := le_length_eraseIdx there inside
          dsimp only
          split
          · rfl
          · simp [takeOut?, putIn?, List.getElem?_eq_getElem there, room]

end Sprite

/-! ## The pass of a script -/

namespace Run

/-- The blocks that a script goes through: those up to the place of the first one that repeats, or all of them if
none does. -/
def passUpTo? (blocks : List Block) : Option (List Block) :=
  match blocks.findIdx? repeats with
  | some place => upTo? blocks place
  | none => some blocks

theorem passUpTo?_eq (pose : Pose) (blocks : List Block) :
    passUpTo? blocks = some (start pose blocks).body := by
  unfold passUpTo?
  split
  · rename_i place found
    exact upTo?_findIdx? found
  · rename_i none
    have all : ∀ block ∈ blocks, (!repeats block) = true := by
      simpa [List.findIdx?_eq_none_iff] using none
    exact congrArg some (List.takeWhile_eq_self_iff.mpr all).symm

end Run

/-! ## Sprites of a stage -/

namespace Stage

/-- Lets the sprites at two places exchange their blocks, and starts all scripts over. -/
def exchangeByPlaces (stage : Stage) (moving met : Nat) : Option (Stage × List Script) := do
  let mover ← stage.sprites[moving]?
  let partner ← stage.sprites[met]?
  let sprites ← writeAt? stage.sprites moving { mover with blocks := partner.blocks }
  let sprites ← writeAt? sprites met { partner with blocks := mover.blocks }
  let first ← sprites[moving]?
  let second ← sprites[met]?
  let pair := SpritePair.of mover.id partner.id
  let epoch := stage.epoch + 1
  let swapped := { stage with sprites, epoch, swapped := pair :: stage.swapped }
  let swapped := swapped.note (.swapped pair.1 pair.2 epoch)
  let swapped := (swapped.publish (.swapped pair.1 pair.2)).publishAll [first, second]
  return (swapped, swapped.snapshots)

/-- Lets a sprite swap with the first one at another place that is close to it, unless they have swapped
already or the epoch is over. -/
def swapByPlaces (stage : Stage) (id : SpriteId) (epoch : Nat) (distance : Float) :
    Option (Stage × List Script) :=
  if stage.epoch ≠ epoch then some (stage, [])
  else
    match stage.sprites.findIdx? fun sprite => sprite.id = id with
    | none => some (stage, [])
    | some moving => do
      let mover ← stage.sprites[moving]?
      let met := stage.sprites.zipIdx.findIdx? fun entry =>
        entry.2 ≠ moving && decide (mover.pose.distance entry.1.pose < distance) &&
          !stage.swapped.contains (SpritePair.of id entry.1.id)
      match met with
      | none => some (stage, [])
      | some met => stage.exchangeByPlaces moving met

section Places

variable {sprites : List Sprite} (nodup : (sprites.map Sprite.id).Nodup)
include nodup

/-- Sprites at different places have different ids. -/
theorem place_eq_of_id_eq {first second : Nat} {one other : Sprite}
    (here : sprites[first]? = some one) (there : sprites[second]? = some other)
    (same : one.id = other.id) : first = second := by
  have inside : first < (sprites.map Sprite.id).length := by
    rw [List.length_map]
    exact (List.getElem?_eq_some_iff.mp here).1
  apply (List.getElem?_inj inside nodup).mp
  rw [List.getElem?_map, List.getElem?_map, here, there, Option.map_some, Option.map_some, same]

/-- The new record of a sprite stands at the place of the old one. -/
theorem renewed_eq_set {place : Nat} {old record : Sprite} (there : sprites[place]? = some old)
    (same : record.id = old.id) : renewed record sprites = sprites.set place record := by
  apply List.ext_getElem?
  intro i
  rw [renewed, List.getElem?_map, List.getElem?_set]
  by_cases here : place = i
  · subst here
    have inside := (List.getElem?_eq_some_iff.mp there).1
    rw [there, Option.map_some, if_pos same.symm, if_pos rfl, if_pos inside]
  · rw [if_neg here]
    cases at_i : sprites[i]? with
    | none => rfl
    | some other =>
        have apart : other.id ≠ record.id := fun equal =>
          here (place_eq_of_id_eq nodup there at_i (same.symm.trans equal.symm))
        rw [Option.map_some, if_neg apart]

/-- The partner of a mover is found at the same place by places as by ids: another place is another id. -/
theorem findIdx?_partner {moving : Nat} {mover : Sprite} (mover_at : sprites[moving]? = some mover)
    (distance : Float) (swapped : List SpritePair) :
    (sprites.zipIdx.findIdx? fun entry =>
      entry.2 ≠ moving && decide (mover.pose.distance entry.1.pose < distance) &&
        !swapped.contains (SpritePair.of mover.id entry.1.id)) =
    sprites.findIdx? fun other =>
      other.id ≠ mover.id && decide (mover.pose.distance other.pose < distance) &&
        decide (SpritePair.of mover.id other.id ∉ swapped) := by
  apply findIdx?_zipIdx
  intro place other other_at
  have apart : place ≠ moving ↔ other.id ≠ mover.id := by
    refine not_congr ⟨?_, place_eq_of_id_eq nodup other_at mover_at⟩
    rintro rfl
    exact congrArg Sprite.id (Option.some.inj (other_at.symm.trans mover_at))
  have unswapped : (!swapped.contains (SpritePair.of mover.id other.id)) =
      decide (SpritePair.of mover.id other.id ∉ swapped) := by
    rw [List.contains_eq_mem, decide_not]
  simp only [apart, unswapped]

end Places

theorem Numbered.exchangeByPlaces_eq {stage : Stage} (numbered : stage.Numbered) {moving met : Nat}
    {mover partner : Sprite} (mover_at : stage.sprites[moving]? = some mover)
    (partner_at : stage.sprites[met]? = some partner) (apart : partner.id ≠ mover.id) :
    stage.exchangeByPlaces moving met = some (stage.swap mover partner) := by
  have nodup : (stage.sprites.map Sprite.id).Nodup := numbered.nodup
  have moving_inside := (List.getElem?_eq_some_iff.mp mover_at).1
  have met_inside := (List.getElem?_eq_some_iff.mp partner_at).1
  have places : moving ≠ met := by
    rintro rfl
    rw [mover_at, Option.some.injEq] at partner_at
    exact apart (congrArg Sprite.id partner_at.symm)
  unfold exchangeByPlaces swap
  simp only [mover_at, partner_at, Option.bind_eq_bind, Option.bind_some]
  have first_id : ({ mover with blocks := partner.blocks } : Sprite).id = mover.id := rfl
  have second_id : ({ partner with blocks := mover.blocks } : Sprite).id = partner.id := rfl
  generalize ({ mover with blocks := partner.blocks } : Sprite) = first at *
  generalize ({ partner with blocks := mover.blocks } : Sprite) = second at *
  have written : renewed first stage.sprites = stage.sprites.set moving first :=
    renewed_eq_set nodup mover_at first_id
  have partner_still : (renewed first stage.sprites)[met]? = some partner := by
    rw [written, List.getElem?_set_ne places, partner_at]
  have both : renewed second (renewed first stage.sprites) =
      (stage.sprites.set moving first).set met second := by
    rw [← written]
    refine renewed_eq_set ?_ partner_still second_id
    rw [renewed_ids]
    exact nodup
  have first_at : ((stage.sprites.set moving first).set met second)[moving]? = some first := by
    rw [List.getElem?_set_ne places.symm, List.getElem?_set_self moving_inside]
  have second_at : ((stage.sprites.set moving first).set met second)[met]? = some second := by
    rw [List.getElem?_set_self (by rwa [List.length_set])]
  have first_written : writeAt? stage.sprites moving first = some (stage.sprites.set moving first) :=
    if_pos moving_inside
  have second_written : writeAt? (stage.sprites.set moving first) met second =
      some ((stage.sprites.set moving first).set met second) := by
    rw [writeAt?, List.length_set, if_pos met_inside]
  have whole : ((stage.replace first).replace second).sprites =
      (stage.sprites.set moving first).set met second := both
  simp only [first_written, second_written, Option.bind_some, first_at, second_at]
  rw [← whole]
  rfl

/-- If no two sprites have one id, the places are those of the two that swap. -/
theorem Numbered.swapByPlaces_eq {stage : Stage} (numbered : stage.Numbered) (id : SpriteId)
    (epoch : Nat) (distance : Float) :
    stage.swapByPlaces id epoch distance = some (stage.swapIfClose id epoch distance) := by
  have nodup : (stage.sprites.map Sprite.id).Nodup := numbered.nodup
  unfold swapByPlaces swapIfClose
  split
  · rfl
  cases found : stage.sprites.findIdx? fun sprite => sprite.id = id with
  | none =>
      have absent : stage.find? id = none := by
        rw [find?, List.find?_eq_bind_findIdx?_getElem?, found, Option.bind_none]
      rw [absent]
  | some moving =>
      obtain ⟨moving_inside, mover_at⟩ := getElem?_of_findIdx? found
      have there : stage.find? id = some stage.sprites[moving] :=
        mover_at.symm.trans (List.getElem?_eq_getElem moving_inside)
      generalize stage.sprites[moving] = mover at there
      replace mover_at := mover_at.trans there
      obtain rfl : mover.id = id := find?_id there
      have search := findIdx?_partner nodup mover_at distance stage.swapped
      simp only [there, mover_at, Option.bind_eq_bind, Option.bind_some, search]
      cases met_at : stage.sprites.findIdx? fun other =>
          other.id ≠ mover.id && decide (mover.pose.distance other.pose < distance) &&
            decide (SpritePair.of mover.id other.id ∉ stage.swapped) with
      | none =>
          have alone : stage.partner? mover distance = none := by
            rw [partner?, List.find?_eq_bind_findIdx?_getElem?, met_at, Option.bind_none]
          simp only [alone]
      | some met =>
          obtain ⟨met_inside, partner_at⟩ := getElem?_of_findIdx? met_at
          have chosen : stage.partner? mover distance = some stage.sprites[met] :=
            partner_at.symm.trans (List.getElem?_eq_getElem met_inside)
          generalize stage.sprites[met] = partner at chosen
          have meets := (partner?_eq_some chosen).1
          simp only [chosen, numbered.exchangeByPlaces_eq mover_at (partner_at.trans chosen) meets.apart]

/-- Takes an update from a script, with a swap that goes by places. -/
def receiveByPlaces (stage : Stage) (id : SpriteId) (epoch : Nat) (update : Update) :
    Option (Stage × List Script) :=
  if stage.epoch ≠ epoch then some (stage, [])
  else
    match stage.find? id with
    | none => some (stage, [])
    | some sprite =>
      let sprite := sprite.apply update
      let stage := (stage.replace sprite).publish (.changed sprite)
      match update, stage.config.swapDistance with
      | .pose _, some distance => stage.swapByPlaces id epoch distance
      | _, _ => some (stage, [])

theorem Numbered.receiveByPlaces_eq {stage : Stage} (numbered : stage.Numbered) (id : SpriteId)
    (epoch : Nat) (update : Update) :
    stage.receiveByPlaces id epoch update = some (stage.receive id epoch update) := by
  unfold receiveByPlaces receive
  split
  · rfl
  cases stage.find? id with
  | none => rfl
  | some sprite =>
      dsimp only
      have same : ((stage.replace (sprite.apply update)).publish
          (.changed (sprite.apply update))).ids = stage.ids := by
        rw [publish_ids, replace_ids]
      have after := numbered.of_ids_eq same
      generalize (stage.replace (sprite.apply update)).publish
        (.changed (sprite.apply update)) = shown at after ⊢
      cases update with
      | speech voice text => rfl
      | pose pose =>
          cases shown.config.swapDistance with
          | none => rfl
          | some distance => exact after.swapByPlaces_eq id epoch distance

end Stage

end SpriteStage
