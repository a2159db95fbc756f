/-
Module: SpriteStage.Proofs.Performance.Mirror
Purpose: The event log as a mirror of the board. A renderer that sees nothing but the events, and
  keeps the last record of each sprite in the order in which the sprites first came up, has the very
  sprites of the board at any moment; and from the last play or stop it knows whether the stage is
  playing.
Main exports: see, mirror, latest, Scene.Story.mirrored, Scene.Story.curtain, Chronicle.mirror_log
-/
import SpriteStage.Proofs.Performance.Narration

namespace SpriteStage

/-! ## What an onlooker makes of the events -/

namespace Event

/-- Whether the event tells of a play or of a stop. -/
def isCurtain : Event → Bool
  | .played _ | .stopped _ => true
  | .changed _ | .swapped _ _ => false

/-- The record of a sprite in the event. -/
def record? (id : SpriteId) : Event → Option Sprite
  | .changed record => if record.id = id then some record else none
  | .played _ | .stopped _ | .swapped _ _ => none

end Event

/-- The records after one more event. A new record takes the place of the old one, or stands behind
all others if there was none. -/
def see (records : List Sprite) : Event → List Sprite
  | .changed record =>
    if record.id ∈ records.map Sprite.id then renewed record records else records ++ [record]
  | .played _ | .stopped _ | .swapped _ _ => records

/-- The last record of each sprite, in the order in which the sprites first came up. -/
def mirror (events : List Event) : List Sprite := events.foldl see []

/-- The last record of one sprite. -/
def latest (id : SpriteId) (events : List Event) : Option Sprite :=
  (events.filterMap (Event.record? id)).getLast?

theorem see_known {records : List Sprite} {record : Sprite}
    (known : record.id ∈ records.map Sprite.id) :
    see records (.changed record) = renewed record records :=
  if_pos known

/-- One new record of each sprite, in the order of the sprites, and all of them are new. -/
theorem foldl_see_map (change : Sprite → Sprite) (keeps : ∀ sprite, (change sprite).id = sprite.id)
    (seen unseen : List Sprite) (nodup : ((seen ++ unseen).map Sprite.id).Nodup) :
    ((unseen.map change).map Event.changed).foldl see (seen ++ unseen) =
      seen ++ unseen.map change := by
  -- The next event moves the border between the new records and the old ones by one sprite.
  induction unseen generalizing seen with
  | nil => rfl
  | cons sprite rest more =>
      have known : (change sprite).id ∈ (seen ++ sprite :: rest).map Sprite.id := by
        rw [keeps]
        exact List.mem_map_of_mem (List.mem_append_right _ List.mem_cons_self)
      have next : see (seen ++ sprite :: rest) (.changed (change sprite)) =
          (seen ++ [change sprite]) ++ rest := by
        rw [see_known known, renewed_middle (keeps sprite) nodup, List.append_assoc]
        rfl
      rw [List.map_cons, List.map_cons, List.foldl_cons, next, more, List.append_assoc]
      · rfl
      · rw [← next, see_known known, renewed_ids]
        exact nodup

/-- A record that is there after an event came with it, unless it was there before and the event has
no record of its sprite. -/
theorem mem_see {records : List Sprite} {event : Event} {sprite : Sprite}
    (member : sprite ∈ see records event) :
    event.record? sprite.id = some sprite ∨
      event.record? sprite.id = none ∧ sprite ∈ records := by
  cases event with
  | played | stopped | swapped => exact Or.inr ⟨rfl, member⟩
  | changed record =>
      dsimp only [see] at member
      split at member
      · obtain ⟨old, inside, made⟩ := List.mem_map.mp member
        split at made
        · subst made
          exact Or.inl (if_pos rfl)
        · subst made
          rename_i other
          exact Or.inr ⟨if_neg (Ne.symm other), inside⟩
      · rename_i unknown
        rcases List.mem_append.mp member with old | new
        · have other : record.id ≠ sprite.id :=
            fun same => unknown (same ▸ List.mem_map_of_mem old)
          exact Or.inr ⟨if_neg other, old⟩
        · rw [List.mem_singleton.mp new]
          exact Or.inl (if_pos rfl)

theorem latest_concat (id : SpriteId) (events : List Event) (event : Event) :
    latest id (events ++ [event]) = (event.record? id).or (latest id events) := by
  unfold latest
  rw [List.filterMap_append, List.getLast?_append]
  cases here : event.record? id with
  | none => simp [here]
  | some record => simp [here]

/-- A record that is there after some events is the last one of its sprite, unless it was there
before and the events have none. -/
theorem mem_foldl_see {records : List Sprite} {events : List Event} {sprite : Sprite}
    (member : sprite ∈ events.foldl see records) :
    latest sprite.id events = some sprite ∨ sprite ∈ records := by
  -- By the last event: if it has a record of the sprite, no earlier one counts.
  induction events using List.reverseRecOn with
  | nil => exact Or.inr member
  | append_singleton events event earlier =>
      rw [List.foldl_append] at member
      rw [latest_concat]
      rcases mem_see member with new | ⟨none, old⟩
      · rw [new]
        exact Or.inl rfl
      · rw [none, Option.none_or]
        exact earlier old

/-! ## Stories in the mirror -/

namespace Scene

/-- The events of a change turn the records before it into the records after it. -/
theorem Change.mirrored {before after : Scene} {told : List Event}
    (change : before.Change told after) (nodup : before.ids.Nodup) :
    told.foldl see before.sprites = after.sprites := by
  cases change with
  | silence => rfl
  | entrance sprite new => exact if_neg new
  | record sprite known => exact see_known known
  | play resting => exact foldl_see_map Sprite.reset (fun _ => rfl) [] before.sprites nodup
  | stop => exact foldl_see_map Sprite.hush (fun _ => rfl) [] before.sprites nodup
  | swap mover partner playing known member apart first =>
      have shown : see before.sprites (.changed mover) = renewed mover before.sprites :=
        see_known known
      have given : see (renewed mover before.sprites)
          (.changed { mover with blocks := partner.blocks }) =
            renewed { mover with blocks := partner.blocks } (renewed mover before.sprites) := by
        apply see_known
        rw [renewed_ids]
        exact known
      have taken : see (renewed { mover with blocks := partner.blocks }
            (renewed mover before.sprites))
          (.changed { partner with blocks := mover.blocks }) =
            (before.exchange mover partner).sprites := by
        apply see_known
        rw [renewed_ids, renewed_ids]
        exact List.mem_map.mpr ⟨partner, member, rfl⟩
      calc (exchangeEvents mover partner).foldl see before.sprites
          = see (see (see before.sprites (.changed mover))
              (.changed { mover with blocks := partner.blocks }))
              (.changed { partner with blocks := mover.blocks }) := rfl
        _ = (before.exchange mover partner).sprites := by rw [shown, given, taken]

theorem Story.mirrored {start finish : Scene} {told : List Event} (story : start.Story told finish)
    (nodup : start.ids.Nodup) : told.foldl see start.sprites = finish.sprites := by
  induction story with
  | beginning => rfl
  | change story change earlier =>
      rw [List.foldl_append, earlier]
      exact change.mirrored (story.keeps (·.ids.Nodup) Change.ids_nodup nodup)

theorem filter_isCurtain_changed (sprites : List Sprite) :
    (sprites.map Event.changed).filter Event.isCurtain = [] := by
  simp [Event.isCurtain]

/-- Only a play or a stop opens or closes the curtain, and each does so once. -/
theorem Change.curtain {before after : Scene} {told : List Event}
    (change : before.Change told after) :
    told.filter Event.isCurtain = [] ∧ after.playing = before.playing ∨
      told.filter Event.isCurtain = [.played after.epoch] ∧ after.playing = true ∨
      told.filter Event.isCurtain = [.stopped after.epoch] ∧ after.playing = false := by
  cases change with
  | silence | entrance | record | swap => exact Or.inl ⟨rfl, rfl⟩
  | play =>
      rw [List.filter_cons_of_pos rfl, filter_isCurtain_changed]
      exact Or.inr (Or.inl ⟨rfl, rfl⟩)
  | stop =>
      rw [List.filter_cons_of_pos rfl, filter_isCurtain_changed]
      exact Or.inr (Or.inr ⟨rfl, rfl⟩)

/-- Since a scene at rest, the curtain is open if the last play or stop was a play. -/
theorem Story.curtain {start finish : Scene} {told : List Event} (story : start.Story told finish)
    (resting : start.playing = false) :
    finish.playing = true ↔
      ∃ epoch, (told.filter Event.isCurtain).getLast? = some (.played epoch) := by
  induction story with
  | beginning => simp [resting]
  | change story change earlier =>
      rw [List.filter_append]
      rcases change.curtain with ⟨none, same⟩ | ⟨played, plays⟩ | ⟨stopped, stops⟩
      · rw [none, same, List.append_nil]
        exact earlier
      · rw [played, List.getLast?_concat]
        exact ⟨fun _ => ⟨_, rfl⟩, fun _ => plays⟩
      · rw [stopped, List.getLast?_concat, stops]
        constructor
        · rintro ⟨⟩
        · rintro ⟨epoch, ⟨⟩⟩

end Scene

namespace Chronicle

/-- Whatever is done with a stage, and in whatever order its scripts have their turns: the last
record of each sprite in the log, in the order in which the sprites first came up in it, is the
sprite as it stands; and the stage is playing if and only if the last play or stop in the log is a
play. So whatever move comes next, it publishes the new record of every sprite that it changes,
behind all others of that sprite. -/
theorem mirror_log {project : Project} {hosted : Bool} {stage : Stage}
    (built : Stage.ofProject project hosted = .ok stage) (moves : List Move) :
    let chronicle := (create stage).follow moves
    let log := chronicle.stage.log
    mirror log = chronicle.stage.sprites ∧
      (chronicle.stage.playing = true ↔
        ∃ epoch, (log.filter Event.isCurtain).getLast? = some (.played epoch)) ∧
      ∀ move, ∃ told, (chronicle.take move).stage.log = log ++ told ∧
        ∀ sprite ∈ (chronicle.take move).stage.sprites, sprite ∉ chronicle.stage.sprites →
          latest sprite.id told = some sprite := by
  intro chronicle log
  have sound : chronicle.Sound :=
    ((Sound.create (Stage.ofProject_numbered built)).follow_story moves).1
  refine ⟨(story built moves).mirrored List.nodup_nil, (story built moves).curtain rfl, ?_⟩
  intro move
  obtain ⟨told, grown, change⟩ := sound.take_tells move
  refine ⟨told, grown, ?_⟩
  intro sprite member new
  have mirrored : told.foldl see chronicle.stage.sprites = (chronicle.take move).stage.sprites :=
    change.mirrored sound.numbered.nodup
  have seen : sprite ∈ told.foldl see chronicle.stage.sprites := mirrored ▸ member
  exact (mem_foldl_see seen).resolve_right new

/-- In a visit, until it is stopped, the log shows one of the sprites greeting and each with the
block of the other; and the stop publishes the record of the one that it silences. -/
theorem mirror_log_visit :
    ∃ stage, Stage.ofProject neighbours true = .ok stage ∧
      let there := (create stage).follow visit.dropLast
      (mirror there.stage.log).map (fun sprite => (sprite.say, sprite.blocks.map Block.id)) =
          [("hello", [⟨2⟩]), ("", [⟨1⟩])] ∧
        (∃ epoch, (there.stage.log.filter Event.isCurtain).getLast? = some (.played epoch)) ∧
        ∃ told, (there.take .stop).stage.log = there.stage.log ++ told ∧
          ∃ sprite ∈ (there.take .stop).stage.sprites, latest sprite.id told = some sprite := by
  obtain ⟨stage, built⟩ : ∃ stage, Stage.ofProject neighbours true = .ok stage := ⟨_, rfl⟩
  have whole : stage = neighbours.sprites.foldl Stage.addDefinedSprite (.bare neighbours.config) :=
    (Except.ok.inj built).symm
  obtain ⟨shown, curtain, publishes⟩ := mirror_log built visit.dropLast
  obtain ⟨told, log, records⟩ := publishes .stop
  have plays : ((create stage).follow visit.dropLast).stage.playing = true := by
    subst whole
    decide +kernel
  have silenced : ∃ sprite ∈ (((create stage).follow visit.dropLast).take .stop).stage.sprites,
      sprite ∉ ((create stage).follow visit.dropLast).stage.sprites := by
    subst whole
    decide +kernel
  obtain ⟨sprite, member, new⟩ := silenced
  refine ⟨stage, built, ?_, curtain.mp plays, told, log, sprite, member, records sprite member new⟩
  rw [shown]
  subst whole
  decide +kernel

end Chronicle

end SpriteStage
