/-
Module: SpriteStage.Proofs.Performance.SwapsOnce
Purpose: Two sprites swap at most once in a play. A stage keeps the pairs that have swapped since its last
  play in the order of their ids, so that it does not matter which of the two was the mover; and as long
  as nothing is played the pairs it keeps are the ones it told of. So between two plays it tells of no pair
  twice, and of no more pairs than its sprites can form.
Main exports: Event.swap?, Scene.Paired, Scene.Story.swaps, Scene.Paired.length_le, Chronicle.swaps_once
-/
import Mathlib.Data.Sym.Card
import SpriteStage.Proofs.Performance.Narration

namespace SpriteStage

/-! ## Pairs in either order -/

namespace SpritePair

/-- The two sprites of a pair, in no order. -/
def unordered (pair : SpritePair) : Sym2 SpriteId := s(pair.1, pair.2)

/-- A pair is the same, whichever sprite is given first. -/
theorem of_comm (a b : SpriteId) : of a b = of b a := by
  unfold of
  by_cases down : b.text < a.text
  · rw [if_pos down, if_neg (String.lt_asymm down)]
  · by_cases up : a.text < b.text
    · rw [if_neg down, if_pos up]
    · have texts : a.text = b.text := String.le_antisymm down up
      have same : a = b := congrArg SpriteId.mk texts
      rw [same]

theorem unordered_of (a b : SpriteId) : (of a b).unordered = s(a, b) := by
  unfold of
  split
  · exact Sym2.eq_swap
  · rfl

/-- Two sprites make only one pair. -/
theorem of_eq_of_sym2_eq {a b c d : SpriteId} (same : s(a, b) = s(c, d)) : of a b = of c d := by
  rcases Sym2.eq_iff.mp same with ⟨rfl, rfl⟩ | ⟨rfl, rfl⟩
  · rfl
  · exact of_comm a b

end SpritePair

/-- The two sprites that the event says have swapped. -/
def Event.swap? : Event → Option (Sym2 SpriteId)
  | .swapped first second => some s(first, second)
  | .changed _ | .played _ | .stopped _ => none

theorem Event.filterMap_swap?_changed (sprites : List Sprite) :
    (sprites.map Event.changed).filterMap Event.swap? = [] := by
  simp [Event.swap?]

namespace Scene

/-! ## The pairs that a scene keeps -/

/-- The pairs that have swapped are pairs of two sprites of the scene, and no two of them are the same. -/
structure Paired (scene : Scene) : Prop where
  known : ∀ pair ∈ scene.swapped,
    ∃ a ∈ scene.ids, ∃ b ∈ scene.ids, a ≠ b ∧ pair = SpritePair.of a b
  nodup : (scene.swapped.map SpritePair.unordered).Nodup

theorem Paired.of_none {scene : Scene} (none : scene.swapped = []) : scene.Paired := by
  constructor
  · rw [none]
    exact fun _ member => nomatch member
  · rw [none]
    exact List.nodup_nil

/-- The same pairs among at least the same sprites. -/
theorem Paired.of_subset {before after : Scene} (paired : before.Paired)
    (swapped : after.swapped = before.swapped) (ids : before.ids ⊆ after.ids) : after.Paired := by
  constructor
  · rw [swapped]
    intro pair member
    obtain ⟨a, aKnown, b, bKnown, apart⟩ := paired.known pair member
    exact ⟨a, ids aKnown, b, ids bKnown, apart⟩
  · rw [swapped]
    exact paired.nodup

/-- Two sprites that have swapped in this play are kept as a pair, whichever of them was the mover. -/
theorem Paired.mem_of_sym2_mem {scene : Scene} (paired : scene.Paired) {a b : SpriteId}
    (member : s(a, b) ∈ scene.swapped.map SpritePair.unordered) :
    SpritePair.of a b ∈ scene.swapped := by
  obtain ⟨pair, inside, same⟩ := List.mem_map.mp member
  obtain ⟨c, _, d, _, _, rfl⟩ := paired.known pair inside
  rw [SpritePair.unordered_of] at same
  rw [← SpritePair.of_eq_of_sym2_eq same]
  exact inside

theorem Change.paired {before after : Scene} {told : List Event}
    (change : before.Change told after) (paired : before.Paired) : after.Paired := by
  have stay := change.ids_subset
  cases change with
  | silence | entrance | record | stop => exact paired.of_subset rfl stay
  | play => exact .of_none rfl
  | swap mover partner playing known member apart first =>
      constructor
      · intro pair inside
        rw [exchange_ids]
        rcases List.mem_cons.mp inside with new | old
        · exact ⟨mover.id, known, partner.id, List.mem_map_of_mem member, apart.symm, new⟩
        · exact paired.known pair old
      · apply List.nodup_cons.mpr
        constructor
        · rw [SpritePair.unordered_of]
          -- The swap asked for the pair in the order of the ids, so the other order is no other pair.
          intro before
          exact first (paired.mem_of_sym2_mem before)
        · exact paired.nodup

/-- As long as nothing is played, the pairs that a scene keeps are those that its changes tell of, the
latest first. -/
theorem Change.swaps {before after : Scene} {told : List Event} (change : before.Change told after)
    (unplayed : ∀ epoch, .played epoch ∉ told) :
    after.swapped.map SpritePair.unordered =
      (told.filterMap Event.swap?).reverse ++ before.swapped.map SpritePair.unordered := by
  cases change with
  | silence | entrance | record | swap => rfl
  | play => exact absurd List.mem_cons_self (unplayed _)
  | stop =>
      rw [List.filterMap_cons_none rfl, Event.filterMap_swap?_changed]
      rfl

theorem Story.swaps {start finish : Scene} {told : List Event} (story : start.Story told finish)
    (unplayed : ∀ epoch, .played epoch ∉ told) :
    finish.swapped.map SpritePair.unordered =
      (told.filterMap Event.swap?).reverse ++ start.swapped.map SpritePair.unordered := by
  induction story with
  | beginning => rfl
  | change story change earlier =>
      have first := earlier fun epoch member => unplayed epoch (List.mem_append_left _ member)
      have last := change.swaps fun epoch member => unplayed epoch (List.mem_append_right _ member)
      rw [last, first, List.filterMap_append, List.reverse_append, List.append_assoc]

/-- A scene keeps no more pairs than its sprites can form. -/
theorem Paired.length_le {scene : Scene} (paired : scene.Paired) :
    scene.swapped.length ≤ scene.sprites.length * (scene.sprites.length - 1) / 2 := by
  have inside : (scene.swapped.map SpritePair.unordered).toFinset ⊆
      scene.ids.toFinset.offDiag.image Sym2.mk.uncurry := by
    intro both member
    obtain ⟨pair, kept, rfl⟩ := List.mem_map.mp (List.mem_toFinset.mp member)
    obtain ⟨a, aKnown, b, bKnown, apart, rfl⟩ := paired.known pair kept
    apply Finset.mem_image.mpr
    refine ⟨(a, b), ?_, (SpritePair.unordered_of a b).symm⟩
    exact Finset.mem_offDiag.mpr
      ⟨List.mem_toFinset.mpr aKnown, List.mem_toFinset.mpr bKnown, apart⟩
  calc scene.swapped.length
      = (scene.swapped.map SpritePair.unordered).toFinset.card := by
        rw [List.toFinset_card_of_nodup paired.nodup, List.length_map]
    _ ≤ (scene.ids.toFinset.offDiag.image Sym2.mk.uncurry).card := Finset.card_le_card inside
    _ = scene.ids.toFinset.card.choose 2 := Sym2.card_image_offDiag _
    _ ≤ scene.sprites.length.choose 2 := by
        apply Nat.choose_le_choose
        rw [← List.length_map Sprite.id]
        exact List.toFinset_card_le _
    _ = scene.sprites.length * (scene.sprites.length - 1) / 2 := Nat.choose_two_right _

/-- Only a scene that plays tells of a swap, and it goes on playing. -/
theorem Change.playing_of_swapped {before after : Scene} {told : List Event}
    (change : before.Change told after) {a b : SpriteId} (member : .swapped a b ∈ told) :
    before.playing = true ∧ after.playing = true := by
  cases change with
  | silence | entrance | record | play | stop => simp at member
  | swap _ _ playing => exact ⟨playing, playing⟩

end Scene

namespace Chronicle

/-- Whatever is done with a stage, and in whatever order its scripts have their turns: from any moment on,
as long as it does not begin to play anew, it publishes at most one swap of any two sprites, whichever of
them was the mover, and so no more swaps than its sprites at the end can form pairs. A move that publishes
a swap begins and ends while the stage is playing. -/
theorem swaps_once {project : Project} {hosted : Bool} {stage : Stage}
    (built : Stage.ofProject project hosted = .ok stage) (moves more : List Move) :
    let earlier := (create stage).follow moves
    let later := earlier.follow more
    (∃ told, later.stage.log = earlier.stage.log ++ told ∧
      ((∀ epoch, .played epoch ∉ told) →
        (told.filterMap Event.swap?).Nodup ∧
          let count := later.stage.sprites.length
          (told.filterMap Event.swap?).length ≤ count * (count - 1) / 2)) ∧
      ∀ move, ∃ told, (later.take move).stage.log = later.stage.log ++ told ∧
        ∀ a b, .swapped a b ∈ told →
          later.stage.playing = true ∧ (later.take move).stage.playing = true := by
  intro earlier later
  have sound : earlier.Sound :=
    ((Sound.create (Stage.ofProject_numbered built)).follow_story moves).1
  obtain ⟨laterSound, told, log, tale⟩ := sound.follow_story more
  constructor
  · refine ⟨told, log, ?_⟩
    intro unplayed
    have paired : later.stage.scene.Paired := by
      apply tale.keeps Scene.Paired Scene.Change.paired
      exact (story built moves).keeps Scene.Paired Scene.Change.paired (.of_none rfl)
    have kept := tale.swaps unplayed
    constructor
    · have nodup := paired.nodup
      rw [kept] at nodup
      exact List.nodup_reverse.mp nodup.of_append_left
    · have lengths := congrArg List.length kept
      rw [List.length_map, List.length_append, List.length_reverse] at lengths
      calc (told.filterMap Event.swap?).length
          ≤ later.stage.scene.swapped.length := lengths ▸ Nat.le_add_right _ _
        _ ≤ _ := paired.length_le
  · intro move
    obtain ⟨more, grown, change⟩ := laterSound.take_tells move
    exact ⟨more, grown, fun a b member => change.playing_of_swapped member⟩

/-- In a visit the only two sprites swap once. -/
theorem swaps_once_visit :
    ∃ stage, Stage.ofProject neighbours true = .ok stage ∧
      let earlier := (create stage).follow [.play]
      let later := earlier.follow [.turn 0, .turn 1, .turn 1, .turn 1]
      ∃ told, later.stage.log = earlier.stage.log ++ told ∧
        .swapped ⟨"sprite-1"⟩ ⟨"sprite-2"⟩ ∈ told ∧ (told.filterMap Event.swap?).Nodup ∧
        (told.filterMap Event.swap?).length ≤ 1 := by
  obtain ⟨stage, built⟩ : ∃ stage, Stage.ofProject neighbours true = .ok stage := ⟨_, rfl⟩
  have whole : stage = neighbours.sprites.foldl Stage.addDefinedSprite (.bare neighbours.config) :=
    (Except.ok.inj built).symm
  obtain ⟨⟨told, log, once⟩, _⟩ := swaps_once built [.play] [.turn 0, .turn 1, .turn 1, .turn 1]
  have since : told = (((create stage).follow [.play]).follow
      [.turn 0, .turn 1, .turn 1, .turn 1]).stage.log.drop 5 := by
    have five : ((create stage).follow [.play]).stage.log.length = 5 := by
      subst whole
      decide +kernel
    rw [log, List.drop_left' five]
  have unplayed : ∀ epoch, .played epoch ∉ told := by
    have swapsOnly : told.all fun event => event matches .changed _ | .swapped _ _ := by
      rw [since]
      subst whole
      decide +kernel
    intro epoch member
    cases List.all_eq_true.mp swapsOnly _ member
  have swaps : .swapped ⟨"sprite-1"⟩ ⟨"sprite-2"⟩ ∈ told := by
    rw [since]
    subst whole
    decide +kernel
  have two : (((create stage).follow [.play]).follow
      [.turn 0, .turn 1, .turn 1, .turn 1]).stage.sprites.length = 2 := by
    subst whole
    decide +kernel
  obtain ⟨nodup, few⟩ := once unplayed
  rw [two] at few
  exact ⟨stage, built, told, log, swaps, nodup, few⟩

end Chronicle

end SpriteStage
