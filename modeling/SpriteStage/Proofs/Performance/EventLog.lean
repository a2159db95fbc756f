/-
Module: SpriteStage.Proofs.Performance.EventLog
Purpose: The grammar of the event log, which is all that the stage has sent on its broadcast
  channel. Every epoch of the scheduler begins with an event of its own, a play, a stop or a swap,
  so that the current epoch is the number of such events, and a play or a stop carries its number.
  Behind each of them stand the records that belong to it: behind a play those of all sprites at
  home, behind a stop those of all sprites without their speech, and behind a swap those of the
  mover and of its partner.
Main exports: Event.beginsEpoch, Event.carried, Scene.Story.epoch_eq, Scene.Change.played,
  Scene.Change.stopped, Scene.Change.swapped, Chronicle.Publishes, Chronicle.PublishesSwap,
  Chronicle.LogGrammar, Chronicle.log_grammar
-/
import SpriteStage.Proofs.Performance.Narration

namespace SpriteStage

namespace Event

/-- Whether an epoch begins with the event. -/
def beginsEpoch : Event → Bool
  | .changed _ => false
  | .played _ | .stopped _ | .swapped _ _ => true

/-- The epoch that the event carries. -/
def carried : Event → Option Nat
  | .played epoch | .stopped epoch => some epoch
  | .changed _ | .swapped _ _ => none

theorem countP_changed (sprites : List Sprite) :
    (sprites.map Event.changed).countP beginsEpoch = 0 := by
  simp [List.countP_eq_zero, beginsEpoch]

theorem filterMap_changed (sprites : List Sprite) :
    (sprites.map Event.changed).filterMap carried = [] := by
  simp [carried]

end Event

/-- An entry that stands in a list, but not behind its head, is the head. -/
theorem cons_eq_append_of_not_mem {head entry : Event} {tail first last : List Event}
    (same : head :: tail = first ++ entry :: last) (absent : entry ∉ tail) :
    first = [] ∧ head = entry ∧ tail = last := by
  cases first with
  | nil =>
      obtain ⟨one, rest⟩ := List.cons.inj same
      exact ⟨rfl, one, rest⟩
  | cons other others =>
      apply absurd _ absent
      rw [(List.cons.inj same).2]
      simp

namespace Scene

/-! ## Counting epochs -/

/-- A change begins as many epochs as its events say. -/
theorem Change.epoch_eq {before after : Scene} {told : List Event}
    (change : before.Change told after) :
    after.epoch = before.epoch + told.countP Event.beginsEpoch := by
  cases change with
  | silence | entrance | record => rfl
  | play | stop => rw [List.countP_cons_of_pos rfl, Event.countP_changed]
  | swap => rfl

theorem Story.epoch_eq {start finish : Scene} {told : List Event} (story : start.Story told finish) :
    finish.epoch = start.epoch + told.countP Event.beginsEpoch := by
  induction story with
  | beginning => rfl
  | change _ change counted => rw [change.epoch_eq, counted, List.countP_append, Nat.add_assoc]

/-- If the events of a change carry an epoch, it is the one that begins. -/
theorem Change.carried {before after : Scene} {told : List Event}
    (change : before.Change told after) :
    told.filterMap Event.carried = [] ∨
      told.filterMap Event.carried = [after.epoch] ∧ before.epoch < after.epoch := by
  cases change with
  | silence | entrance | record | swap => exact Or.inl rfl
  | play | stop =>
      refine Or.inr ⟨?_, Nat.lt_succ_self _⟩
      show _ :: List.filterMap Event.carried _ = _
      rw [Event.filterMap_changed]

/-- The epochs that the events of a story carry increase. -/
theorem Story.carried_increasing {start finish : Scene} {told : List Event}
    (story : start.Story told finish) :
    (told.filterMap Event.carried).Pairwise (· < ·) ∧
      ∀ epoch ∈ told.filterMap Event.carried, epoch ≤ finish.epoch := by
  induction story with
  | beginning => simp
  | change story change earlier =>
      obtain ⟨increasing, bounded⟩ := earlier
      have grows := change.epoch_eq
      rw [List.filterMap_append]
      rcases change.carried with nothing | ⟨next, later⟩
      · rw [nothing, List.append_nil]
        refine ⟨increasing, fun epoch member => Nat.le_trans (bounded epoch member) ?_⟩
        rw [grows]
        exact Nat.le_add_right _ _
      · rw [next]
        constructor
        · apply List.pairwise_append.mpr
          refine ⟨increasing, List.pairwise_singleton _ _, ?_⟩
          intro epoch member last isLast
          rw [List.mem_singleton.mp isLast]
          exact Nat.lt_of_le_of_lt (bounded epoch member) later
        · intro epoch member
          rcases List.mem_append.mp member with old | new
          · exact Nat.le_trans (bounded epoch old) (Nat.le_of_lt later)
          · exact Nat.le_of_eq (List.mem_singleton.mp new)

/-! ## What stands around the beginning of an epoch -/

/-- Only a play from rest tells of a play, and then the records of all sprites at home follow. -/
theorem Change.played {before after : Scene} {first last : List Event} {epoch : Nat}
    (change : before.Change (first ++ .played epoch :: last) after) :
    first = [] ∧ epoch = before.epoch + 1 ∧
      last = (before.sprites.map Sprite.reset).map Event.changed := by
  generalize whole : first ++ .played epoch :: last = told at change
  have member : Event.played epoch ∈ told := by simp [← whole]
  cases change with
  | silence | entrance | record | stop | swap =>
      simp [exchangeEvents] at member
  | play resting =>
      obtain ⟨none, head, rest⟩ := cons_eq_append_of_not_mem whole.symm (by simp)
      exact ⟨none, (Event.played.inj head).symm, rest.symm⟩

/-- Only a stop tells of a stop, and then the records of all sprites without their speech follow. -/
theorem Change.stopped {before after : Scene} {first last : List Event} {epoch : Nat}
    (change : before.Change (first ++ .stopped epoch :: last) after) :
    first = [] ∧ epoch = before.epoch + 1 ∧
      last = (before.sprites.map Sprite.hush).map Event.changed := by
  generalize whole : first ++ .stopped epoch :: last = told at change
  have member : Event.stopped epoch ∈ told := by simp [← whole]
  cases change with
  | silence | entrance | record | play | swap =>
      simp [exchangeEvents] at member
  | stop =>
      obtain ⟨none, head, rest⟩ := cons_eq_append_of_not_mem whole.symm (by simp)
      exact ⟨none, (Event.stopped.inj head).symm, rest.symm⟩

/-- Only a swap tells of a swap, and then the record of the mover stands before it, and those of
both behind it. -/
theorem Change.swapped {before after : Scene} {first last : List Event} {a b : SpriteId}
    (change : before.Change (first ++ .swapped a b :: last) after) :
    ∃ mover partner, first = [.changed mover] ∧ (a, b) = SpritePair.of mover.id partner.id ∧
      last = [.changed { mover with blocks := partner.blocks },
        .changed { partner with blocks := mover.blocks }] ∧
      before.playing = true ∧ mover.id ∈ before.ids ∧ partner ∈ before.sprites ∧
      partner.id ≠ mover.id ∧ after = before.exchange mover partner := by
  generalize whole : first ++ .swapped a b :: last = told at change
  have member : Event.swapped a b ∈ told := by simp [← whole]
  cases change with
  | silence | entrance | record | play | stop => simp at member
  | swap mover partner playing known inside apart fresh =>
      cases first with
      | nil => cases whole
      | cons head tail =>
          obtain ⟨rfl, behind⟩ := List.cons.inj whole
          obtain ⟨rfl, pair, rest⟩ := cons_eq_append_of_not_mem behind.symm (by simp)
          obtain ⟨one, other⟩ := Event.swapped.inj pair
          exact ⟨mover, partner, rfl, Prod.ext one.symm other.symm, rest.symm, playing, known,
            inside, apart, rfl⟩

end Scene

/-- If an update brings about a swap, the mover is the sprite that the update is for. -/
theorem Stage.receive_exchange {stage : Stage} {id : SpriteId} {update : Update}
    {mover partner : Sprite}
    (log : (stage.receive id stage.epoch update).1.log =
      stage.log ++ Scene.exchangeEvents mover partner) : mover.id = id := by
  rcases stage.receive_cases id update with ⟨_, same⟩ | ⟨sprite, found, changed | swaps⟩
  · rw [same] at log
    simp [Scene.exchangeEvents] at log
  · have shown : (stage.showing (sprite.apply update)).log =
        stage.log ++ [.changed (sprite.apply update)] := publish_log _ _
    rw [changed, shown] at log
    cases List.append_cancel_left log
  · obtain ⟨other, _, _, _, swapped⟩ := swaps
    rw [swapped, showing_swap_log] at log
    have heads := List.cons.inj (List.append_cancel_left log)
    rw [← Event.changed.inj heads.1, Sprite.apply_id, find?_id found]

namespace Chronicle

/-! ## Deliveries -/

/-- Whatever was delivered was delivered in an epoch that has begun. -/
theorem deliveries_dated {project : Project} {hosted : Bool} {stage : Stage}
    (built : Stage.ofProject project hosted = .ok stage) (moves : List Move) :
    let later := (create stage).follow moves
    ∀ delivery ∈ later.deliveries, delivery.epoch ≤ later.stage.epoch := by
  have kept := follow_induction (fun later => later.Sound ∧
    ∀ delivery ∈ later.deliveries, delivery.epoch ≤ later.stage.epoch) ?_ moves (create stage)
    ⟨Sound.create (Stage.ofProject_numbered built), by simp [create]⟩
  · exact kept.2
  · rintro later move ⟨sound, dated⟩
    refine ⟨sound.take move, ?_⟩
    obtain ⟨told, _, change⟩ := sound.take_tells move
    have grows : later.stage.epoch ≤ (later.take move).stage.epoch :=
      Nat.le.intro change.epoch_eq.symm
    have still : ∀ delivery ∈ later.deliveries, delivery.epoch ≤ (later.take move).stage.epoch :=
      fun delivery member => Nat.le_trans (dated delivery member) grows
    cases move with
    | amend | play | stop | clock => exact still
    | turn place =>
        obtain ⟨_, ⟨_, nothing⟩ | ⟨task, _, current, update, _, handed⟩⟩ := later.turn_stage place
        · rw [nothing]
          exact still
        · rw [handed]
          intro delivery member
          rcases List.mem_append.mp member with old | new
          · exact still delivery old
          · rw [List.mem_singleton.mp new]
            exact current ▸ grows

/-- The mover of a swap is the sprite whose script delivered the update that brought the swap
about. -/
theorem exchange_delivered {chronicle : Chronicle} {move : Move} {mover partner : Sprite}
    (playing : chronicle.stage.playing = true)
    (log : (chronicle.take move).stage.log =
      chronicle.stage.log ++ Scene.exchangeEvents mover partner)
    (scene : (chronicle.take move).stage.scene = chronicle.stage.scene.exchange mover partner) :
    ∃ delivery, (chronicle.take move).deliveries = chronicle.deliveries ++ [delivery] ∧
      delivery.sprite = mover.id := by
  have next : (chronicle.take move).stage.epoch = chronicle.stage.epoch + 1 :=
    congrArg Scene.epoch scene
  -- No other move begins an epoch and goes on with the play.
  cases move with
  | amend amendment =>
      have same := (Stage.amend_steady chronicle.stage amendment).epoch
      exact absurd (same.symm.trans next) (Nat.ne_of_lt (Nat.lt_succ_self _))
  | play =>
      have same : (chronicle.take .play).stage.epoch = chronicle.stage.epoch := by
        show chronicle.stage.play.1.epoch = _
        rw [Stage.play_of_playing playing]
        rfl
      exact absurd (same.symm.trans next) (Nat.ne_of_lt (Nat.lt_succ_self _))
  | stop =>
      have stopped : (chronicle.take .stop).stage.playing = false :=
        (Stage.stop_begins chronicle.stage).2
      have goesOn : (chronicle.take .stop).stage.playing = chronicle.stage.playing :=
        congrArg Scene.playing scene
      rw [stopped, playing] at goesOn
      cases goesOn
  | clock time => exact absurd next (Nat.ne_of_lt (Nat.lt_succ_self _))
  | turn place =>
      obtain ⟨notes, ⟨same, _⟩ | ⟨task, _, _, update, received, handed⟩⟩ :=
        chronicle.turn_stage place
      · rw [same] at next
        exact absurd next (Nat.ne_of_lt (Nat.lt_succ_self _))
      · refine ⟨_, handed, ?_⟩
        rw [received] at log
        exact (@Stage.receive_exchange { chronicle.stage with notes } _ _ _ _ log).symm

/-! ## The grammar -/

/-- A stage that was set up has published nothing but records. -/
theorem create_log {project : Project} {hosted : Bool} {stage : Stage}
    (built : Stage.ofProject project hosted = .ok stage) :
    ∀ event ∈ (create stage).stage.log, event.beginsEpoch = false := by
  have counted := (Stage.ofProject_story built).epoch_eq
  have none : stage.log.countP Event.beginsEpoch = 0 := by
    have begun : stage.scene.epoch = 0 := Stage.ofProject_epoch built
    rw [begun] at counted
    exact (Nat.eq_zero_of_add_eq_zero counted.symm).2
  intro event member
  simpa using List.countP_eq_zero.mp none event member

/-- With a move from some moment on, the stage publishes an event of the log, behind all that stands
before the event and together with records that the log goes on with. -/
structure Publishes (there : Chronicle) (move : Move) (before : List Event) (event : Event)
    (ahead records rest : List Event) : Prop where
  /-- All but a few events that the move publishes ahead was published by then. -/
  earlier : there.stage.log ++ ahead = before
  /-- The move publishes the event and the records, and nothing more. -/
  log : (there.take move).stage.log = before ++ event :: records
  /-- The records stand immediately behind the event for good. -/
  follows : records <+: rest

/-- When a play was published, and what with it. -/
theorem Sound.played_moment {start : Chronicle} (sound : start.Sound) {moves : List Move}
    (records : ∀ event ∈ start.stage.log, event.beginsEpoch = false) {before rest : List Event}
    {epoch : Nat} (split : (start.follow moves).stage.log = before ++ .played epoch :: rest) :
    ∃ earlier move, earlier ++ [move] <+: moves ∧
      let there := start.follow earlier
      epoch = there.stage.epoch + 1 ∧
        there.Publishes move before (.played epoch) []
          ((there.stage.sprites.map Sprite.reset).map Event.changed) rest := by
  have new : Event.played epoch ∉ start.stage.log := fun member => nomatch records _ member
  obtain ⟨earlier, move, first, last, inside, whole, follows, published, change⟩ :=
    sound.moment new split
  obtain ⟨rfl, counted, rfl⟩ := change.played
  refine ⟨earlier, move, inside, counted, whole, ?_, follows⟩
  rw [published, ← whole, List.append_nil]
  rfl

/-- When a stop was published, and what with it. -/
theorem Sound.stopped_moment {start : Chronicle} (sound : start.Sound) {moves : List Move}
    (records : ∀ event ∈ start.stage.log, event.beginsEpoch = false) {before rest : List Event}
    {epoch : Nat} (split : (start.follow moves).stage.log = before ++ .stopped epoch :: rest) :
    ∃ earlier move, earlier ++ [move] <+: moves ∧
      let there := start.follow earlier
      epoch = there.stage.epoch + 1 ∧
        there.Publishes move before (.stopped epoch) []
          ((there.stage.sprites.map Sprite.hush).map Event.changed) rest := by
  have new : Event.stopped epoch ∉ start.stage.log := fun member => nomatch records _ member
  obtain ⟨earlier, move, first, last, inside, whole, follows, published, change⟩ :=
    sound.moment new split
  obtain ⟨rfl, counted, rfl⟩ := change.stopped
  refine ⟨earlier, move, inside, counted, whole, ?_, follows⟩
  rw [published, ← whole, List.append_nil]
  rfl

/-- With a move from some moment on a mover and its partner swap, because a script has moved the
mover. -/
structure PublishesSwap (there : Chronicle) (move : Move) (before : List Event) (a b : SpriteId)
    (rest : List Event) (mover partner : Sprite) (delivery : Delivery) : Prop where
  /-- The move delivers one update, which is one of the mover. -/
  delivers : (there.take move).deliveries = there.deliveries ++ [delivery]
  own : delivery.sprite = mover.id
  present : partner ∈ there.stage.sprites
  apart : partner.id ≠ mover.id
  /-- The event names the two, the smaller id first. -/
  pair : (a, b) = SpritePair.of mover.id partner.id
  /-- Ahead of the swap stands the record of the mover, and behind it those of the mover and of its
  partner with their blocks exchanged. -/
  publishes : there.Publishes move before (.swapped a b) [.changed mover]
    [.changed { mover with blocks := partner.blocks },
      .changed { partner with blocks := mover.blocks }] rest

/-- When a swap was published, and what with it. -/
theorem Sound.swapped_moment {start : Chronicle} (sound : start.Sound) {moves : List Move}
    (records : ∀ event ∈ start.stage.log, event.beginsEpoch = false) {before rest : List Event}
    {a b : SpriteId} (split : (start.follow moves).stage.log = before ++ .swapped a b :: rest) :
    ∃ earlier move mover partner delivery, earlier ++ [move] <+: moves ∧
      (start.follow earlier).PublishesSwap move before a b rest mover partner delivery := by
  have new : Event.swapped a b ∉ start.stage.log := fun member => nomatch records _ member
  obtain ⟨earlier, move, first, last, inside, whole, follows, published, change⟩ :=
    sound.moment new split
  obtain ⟨mover, partner, rfl, pair, rfl, playing, _, member, apart, exchanged⟩ := change.swapped
  obtain ⟨delivery, handed, own⟩ : ∃ delivery,
      ((start.follow earlier).take move).deliveries = (start.follow earlier).deliveries ++ [delivery] ∧
        delivery.sprite = mover.id := by
    apply exchange_delivered playing _ exchanged
    rw [published, Scene.exchangeEvents, ← pair]
    rfl
  refine ⟨earlier, move, mover, partner, delivery, inside, handed, own, member, apart, pair, whole, ?_,
    follows⟩
  rw [published, ← whole, List.append_assoc]

/-- The grammar of the log that a stage has published after some moves, and how its epochs are
counted. -/
structure LogGrammar (start : Chronicle) (moves : List Move) : Prop where
  /-- The epoch is the number of plays, stops and swaps that were published. -/
  epoch : (start.follow moves).stage.epoch =
    (start.follow moves).stage.log.countP Event.beginsEpoch
  /-- The epochs that plays and stops carry increase. -/
  increasing : ((start.follow moves).stage.log.filterMap Event.carried).Pairwise (· < ·)
  /-- A play carries the number of such events, itself included. When it is published nothing has
  been delivered in its epoch yet, and behind it stands one record of each sprite in the order of
  the sprites, at home and silent. -/
  played : ∀ before epoch rest,
    (start.follow moves).stage.log = before ++ .played epoch :: rest →
      epoch = before.countP Event.beginsEpoch + 1 ∧
        ∃ earlier move, earlier ++ [move] <+: moves ∧
          let there := start.follow earlier
          (∀ delivery ∈ there.deliveries, delivery.epoch < epoch) ∧
            there.Publishes move before (.played epoch) []
              (there.stage.sprites.map fun sprite =>
                .changed { sprite with pose := sprite.home, say := "", think := "" }) rest
  /-- A stop carries the number of such events, itself included, and behind it stands one record of
  each sprite in the order of the sprites, silent and otherwise unchanged. -/
  stopped : ∀ before epoch rest,
    (start.follow moves).stage.log = before ++ .stopped epoch :: rest →
      epoch = before.countP Event.beginsEpoch + 1 ∧
        ∃ earlier move, earlier ++ [move] <+: moves ∧
          let there := start.follow earlier
          there.Publishes move before (.stopped epoch) []
            (there.stage.sprites.map fun sprite => .changed { sprite with say := "", think := "" }) rest
  /-- A swap is published behind the record of the mover, whose script had moved it, and in front of
  the records of the mover and of its partner. -/
  swapped : ∀ before a b rest, (start.follow moves).stage.log = before ++ .swapped a b :: rest →
    ∃ earlier move mover partner delivery, earlier ++ [move] <+: moves ∧
      (start.follow earlier).PublishesSwap move before a b rest mover partner delivery
  /-- To play during a play does nothing but note that. -/
  playsAgain : (start.follow moves).stage.playing = true →
    ∃ notes, (start.follow moves).take .play =
      (start.follow moves).onStage { (start.follow moves).stage with notes }
  /-- To stop always begins an epoch. -/
  stopBegins : ((start.follow moves).take .stop).stage.epoch = (start.follow moves).stage.epoch + 1

/-- Whatever is done with a stage, and in whatever order its tasks are polled, the log that it
publishes is of the grammar. -/
theorem log_grammar {project : Project} {hosted : Bool} {stage : Stage}
    (built : Stage.ofProject project hosted = .ok stage) (moves : List Move) :
    (create stage).LogGrammar moves := by
  have sound : (create stage).Sound := .create (Stage.ofProject_numbered built)
  have counted : ∀ moves : List Move, ((create stage).follow moves).stage.epoch =
      ((create stage).follow moves).stage.log.countP Event.beginsEpoch :=
    fun moves => (story built moves).epoch_eq.trans (Nat.zero_add _)
  have numbered : ∀ {earlier : List Move} {before : List Event},
      ((create stage).follow earlier).stage.log ++ [] = before →
        ((create stage).follow earlier).stage.epoch = before.countP Event.beginsEpoch := by
    intro earlier before whole
    rw [counted, ← whole, List.append_nil]
  constructor
  case epoch => exact counted moves
  case increasing => exact (story built moves).carried_increasing.1
  case played =>
    intro before epoch rest split
    obtain ⟨earlier, move, inside, next, publishes⟩ := sound.played_moment (create_log built) split
    rw [List.map_map] at publishes
    refine ⟨by rw [next, numbered publishes.earlier], earlier, move, inside, ?_, publishes⟩
    intro delivery member
    rw [next]
    exact Nat.lt_succ_of_le (deliveries_dated built earlier delivery member)
  case stopped =>
    intro before epoch rest split
    obtain ⟨earlier, move, inside, next, publishes⟩ := sound.stopped_moment (create_log built) split
    rw [List.map_map] at publishes
    exact ⟨by rw [next, numbered publishes.earlier], earlier, move, inside, publishes⟩
  case swapped =>
    intro before a b rest split
    exact sound.swapped_moment (create_log built) split
  case playsAgain =>
    intro playing
    exact ⟨_, (sound.follow_story moves).1.play_again playing⟩
  case stopBegins => exact (Stage.stop_begins ((create stage).follow moves).stage).1.epoch

/-- In a visit the play has the number 1, the swap makes 2 and the stop has the number 3; and the
swap, of which the log tells behind six other events, came from one move. -/
theorem log_grammar_visit :
    ∃ stage, Stage.ofProject neighbours true = .ok stage ∧
      let log := ((create stage).follow visit).stage.log
      log.countP Event.beginsEpoch = 3 ∧ ((create stage).follow visit).stage.epoch = 3 ∧
        log.filterMap Event.carried = [1, 3] ∧
        log = log.take 6 ++ .swapped ⟨"sprite-1"⟩ ⟨"sprite-2"⟩ :: log.drop 7 ∧
        ∃ earlier move mover, earlier ++ [move] <+: visit ∧
          ((create stage).follow earlier).stage.log ++ [.changed mover] = log.take 6 := by
  obtain ⟨stage, built⟩ : ∃ stage, Stage.ofProject neighbours true = .ok stage := ⟨_, rfl⟩
  have whole : stage = neighbours.sprites.foldl Stage.addDefinedSprite (.bare neighbours.config) :=
    (Except.ok.inj built).symm
  have grammar := log_grammar built visit
  have three : ((create stage).follow visit).stage.log.countP Event.beginsEpoch = 3 := by
    subst whole
    decide +kernel
  have split : ((create stage).follow visit).stage.log =
      ((create stage).follow visit).stage.log.take 6 ++
        .swapped ⟨"sprite-1"⟩ ⟨"sprite-2"⟩ :: ((create stage).follow visit).stage.log.drop 7 := by
    subst whole
    decide +kernel
  obtain ⟨earlier, move, mover, _, _, inside, swap⟩ := grammar.swapped _ _ _ _ split
  refine ⟨stage, built, three, grammar.epoch.trans three, ?_, split, earlier, move, mover, inside,
    swap.publishes.earlier⟩
  subst whole
  decide +kernel

end Chronicle

end SpriteStage
