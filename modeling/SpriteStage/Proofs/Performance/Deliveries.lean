/-
Module: SpriteStage.Proofs.Performance.Deliveries
Purpose: What a delivery is on the stage. A chronicle writes down the updates that sinks apply to
  their sprites. Here that is tied to what everybody can see: when an update is delivered, the new
  record of the sprite stands on the board in the place of the old one and is published, with the
  pose or the text of the update and all else as it was. A turn that delivers nothing leaves board
  and events alone, and no other move delivers anything. So the deliveries are the updates that
  scripts made to the board, one by one.
Main exports: Update.Shown, Stage.Applied, Chronicle.Delivers, Chronicle.take_delivers
-/
import SpriteStage.Proofs.Performance.Chronicle
import SpriteStage.Proofs.Stage.Scene

namespace SpriteStage

/-- What an update makes of the record of its sprite: it has the new pose, or shows the text in its
voice, and then the other voice is silent unless the text is empty. -/
inductive Update.Shown (old : Sprite) : Update → Sprite → Prop where
  | pose (pose : Pose) : Shown old (.pose pose) { old with pose }
  | say (text : String) :
      Shown old (.speech .say text) { old with say := text, think := if text = "" then old.think else "" }
  | think (text : String) :
      Shown old (.speech .think text) { old with think := text, say := if text = "" then old.say else "" }

theorem Sprite.apply_shown (sprite : Sprite) (update : Update) :
    update.Shown sprite (sprite.apply update) := by
  match update with
  | .pose pose => exact .pose pose
  | .speech .say text => exact .say text
  | .speech .think text => exact .think text

namespace Stage

/-- An update has been applied to its sprite. The new record of the sprite has taken the place of
the old one and is published, and perhaps the sprite has then swapped its blocks with a partner; on
the board it shows what the new record says. -/
structure Applied (before after : Stage) (id : SpriteId) (update : Update) (old new : Sprite) : Prop where
  known : before.find? id = some old
  shown : update.Shown old new
  board :
    (after.scene = { before.scene with sprites := renewed new before.sprites } ∧
        after.log = before.log ++ [.changed new]) ∨
      ∃ partner ∈ before.sprites, partner.id ≠ id ∧
        after.scene = before.scene.exchange new partner ∧
        after.log = before.log ++ Scene.exchangeEvents new partner
  live : ∃ record, after.find? id = some record ∧
    record.pose = new.pose ∧ record.say = new.say ∧ record.think = new.think

/-- A new record of another sprite hides nobody. -/
theorem find?_replace_of_ne {stage : Stage} {id : SpriteId} {other : Sprite} (apart : other.id ≠ id) :
    (stage.replace other).find? id = stage.find? id := by
  have alike : ((fun sprite : Sprite => decide (sprite.id = id)) ∘
      fun old => if old.id = other.id then other else old) = fun sprite => decide (sprite.id = id) := by
    funext sprite
    by_cases here : sprite.id = other.id <;> simp [here, apart]
  simp only [find?, replace, List.find?_map, alike]
  cases found : stage.sprites.find? fun sprite => decide (sprite.id = id) with
  | none => rfl
  | some sprite =>
      have own : sprite.id = id := find?_id found
      simp [own, apart.symm]

/-- In its own epoch the stage applies an update to a sprite that it has. -/
theorem receive_applied {stage : Stage} {id : SpriteId} {sprite : Sprite}
    (found : stage.find? id = some sprite) (update : Update) :
    stage.Applied (stage.receive id stage.epoch update).1 id update sprite (sprite.apply update) := by
  have same : (sprite.apply update).id = id := by rw [Sprite.apply_id, find?_id found]
  rcases stage.receive_cases id update with ⟨absent, _⟩ | ⟨known, there, changed | swaps⟩
  · rw [absent] at found
    cases found
  · obtain rfl : known = sprite := Option.some.inj (there.symm.trans found)
    rw [changed]
    exact ⟨found, known.apply_shown update, .inl ⟨rfl, publish_log _ _⟩,
      _, find?_replace found same, rfl, rfl, rfl⟩
  · obtain rfl : known = sprite := Option.some.inj (there.symm.trans found)
    obtain ⟨partner, member, apart, _, swapped⟩ := swaps
    rw [swapped]
    refine ⟨found, known.apply_shown update,
      .inr ⟨partner, member, apart, showing_swap_scene _ _ _, showing_swap_log _ _ _⟩,
      { known.apply update with blocks := partner.blocks }, ?_, rfl, rfl, rfl⟩
    have displayed : (stage.showing (known.apply update)).find? id = some (known.apply update) :=
      find?_replace found same
    have exchanged : ((stage.showing (known.apply update)).replace
        { known.apply update with blocks := partner.blocks }).find? id =
          some { known.apply update with blocks := partner.blocks } := find?_replace displayed same
    have kept (blocks : List Block) : { partner with blocks }.id ≠ id := apart
    unfold find?
    rw [swap_sprites]
    exact (find?_replace_of_ne (kept _)).trans exchanged

end Stage

namespace Chronicle

/-- What a move delivers: nothing, and then a turn changes nothing that anybody could see; or, if it
is a turn, one update, which is applied to its sprite now and in the current epoch. -/
inductive Delivers (before after : Chronicle) : Move → Prop where
  | nothing {move : Move} (same : after.deliveries = before.deliveries)
      (still : ∀ place, move = .turn place →
        after.stage.scene = before.stage.scene ∧ after.stage.log = before.stage.log) :
      Delivers before after move
  | update {place : Nat} (delivery : Delivery) (old new : Sprite)
      (added : after.deliveries = before.deliveries ++ [delivery])
      (time : delivery.time = before.performance.now) (epoch : delivery.epoch = before.stage.epoch)
      (applied : before.stage.Applied after.stage delivery.sprite delivery.update old new) :
      Delivers before after (.turn place)

/-- It is a matter of the stage, the time and what was delivered before. -/
theorem Delivers.congr {before before' after : Chronicle} {move : Move}
    (delivers : before'.Delivers after move) (stage : before'.stage = before.stage)
    (now : before'.performance.now = before.performance.now)
    (deliveries : before'.deliveries = before.deliveries) : before.Delivers after move := by
  cases delivers with
  | nothing same still =>
      rw [stage] at still
      exact .nothing (same.trans deliveries) still
  | update delivery old new added time epoch applied =>
      rw [stage] at epoch applied
      rw [deliveries] at added
      exact .update delivery old new added (time.trans now) epoch applied

/-- The first script in line has its turn. -/
theorem act_delivers (chronicle : Chronicle) (place : Nat) :
    chronicle.Delivers chronicle.act (.turn place) := by
  cases line : chronicle.performance.ready with
  | nil =>
      rw [act_nil line]
      exact .nothing rfl fun _ _ => ⟨rfl, rfl⟩
  | cons task others =>
      obtain ⟨notes, ⟨silent, same⟩ | ⟨current, known, update, received, added⟩⟩ := act_stage line
      · refine .nothing same fun _ _ => ?_
        rw [silent]
        exact ⟨rfl, rfl⟩
      · obtain ⟨old, found⟩ := Option.isSome_iff_exists.mp known
        have there : ({ chronicle.stage with notes } : Stage).find? task.sprite = some old := found
        obtain ⟨_, shown, board, live⟩ := Stage.receive_applied there update
        refine .update _ old (old.apply update) added rfl current ?_
        rw [received]
        exact ⟨found, shown, board, live⟩

/-- Every move delivers what everybody can see. -/
theorem take_delivers (chronicle : Chronicle) (move : Move) :
    chronicle.Delivers (chronicle.take move) move := by
  cases move with
  | amend amendment => exact .nothing rfl nofun
  | play => exact .nothing rfl nofun
  | stop => exact .nothing rfl nofun
  | clock time => exact .nothing rfl nofun
  | turn place =>
      have stage : (chronicle.performance.callUp place).stage = chronicle.stage := by
        rw [Performance.callUp_eq]
      have now : (chronicle.performance.callUp place).now = chronicle.performance.now := by
        rw [Performance.callUp_eq]
      exact (act_delivers _ place).congr stage now rfl

end Chronicle

end SpriteStage
