/-
Module: SpriteStage.Proofs.Performance.Speech
Purpose: Speech is shown exactly while it is held. On a stage whose sprites do not swap, every sprite shows
  what its script of the current epoch makes it show, and is silent without such a script. So whenever no
  script is in the middle of a turn, a sprite says or thinks something exactly if its script is in the hold
  of a block that does. Who is in the middle of a turn can be told from the moves alone.
Main exports: Sprite.Heeds, Chronicle.Voiced, Chronicle.Sound.take_voiced, Chronicle.midway,
  Chronicle.Settled, Chronicle.midway_subset, Chronicle.speech_held
-/
import SpriteStage.Proofs.Performance.Passage
import SpriteStage.Proofs.Performance.Rest
import SpriteStage.Proofs.Performance.Running
import SpriteStage.Proofs.Script.Speech

namespace SpriteStage

/-! ## What sprites show -/

namespace Sprite

theorem silent_iff {sprite : Sprite} : sprite.Silent ↔ ∀ voice, sprite.shown voice = "" := by
  constructor
  · rintro ⟨said, thought⟩ voice
    cases voice with
    | say => exact said
    | think => exact thought
  · exact fun silent => ⟨silent .say, silent .think⟩

/-- An edit changes nothing that a sprite shows. -/
theorem amend_shown (sprite : Sprite) (amendment : Amendment) (voice : Voice) :
    (sprite.alter amendment.alteration).shown voice = sprite.shown voice := by
  cases amendment with
  | moveSprite id x y =>
      simp only [Amendment.alteration, alter]
      split
      · cases voice <;> rfl
      · rfl
  | _ => rfl

theorem holding_shown (sprite : Sprite) (blocks : List Block) (voice : Voice) :
    (sprite.holding blocks).shown voice = sprite.shown voice := by
  cases voice <;> rfl

/-- When its script has made some progress, a sprite that showed what the script made it show still does;
if that was the end, it is silent. -/
theorem Utters.proceed {sprite : Sprite} {run : Run} (utters : sprite.Utters run)
    (coherent : run.Coherent) (config : Config) :
    let progress := run.proceed config true true
    progress = .ended .finished ∧ sprite.Silent ∨
      (∀ outcome, progress ≠ .ended outcome) ∧
        (sprite.alter (progress.alteration sprite.id)).Utters (progress.run run) := by
  rcases run.proceed_eq config with ⟨through, finished⟩ | ⟨act, later, next, goesOn⟩
  · exact Or.inl ⟨finished, silent_iff.mpr (utters.through through)⟩
  · have performed := utters.next coherent next
    right
    rw [goesOn]
    cases act with
    | check | skip | rest => exact ⟨by simp, performed⟩
    | display update =>
        simp only [Progress.alteration, Sprite.alter, if_true]
        exact ⟨by simp, performed⟩
    | pause length =>
        dsimp only
        split
        · exact ⟨by simp, performed⟩
        · exact ⟨by simp, performed⟩

/-- Of the scripts that run, one that runs the sprite in the epoch makes it show what it shows; if there is
none, the sprite is silent. -/
structure Heeds (running : List Task) (epoch : Nat) (sprite : Sprite) : Prop where
  utters : ∀ task ∈ running, task.key = (sprite.id, epoch) → sprite.Utters task.run
  silent : (∀ task ∈ running, task.key ≠ (sprite.id, epoch)) → sprite.Silent

namespace Heeds

variable {running later : List Task} {epoch : Nat} {sprite other : Sprite}

/-- A sprite heeds its script as long as it shows the same and the script does the same. -/
theorem congr (heeds : sprite.Heeds running epoch) (id : other.id = sprite.id)
    (shown : ∀ voice, other.shown voice = sprite.shown voice)
    (own : ∀ task, task.key = (sprite.id, epoch) → (task ∈ later ↔ task ∈ running)) :
    other.Heeds later epoch where
  utters := by
    rw [id]
    intro task runs key voice
    rw [shown]
    exact heeds.utters task ((own task key).mp runs) key voice
  silent := by
    rw [id]
    intro alone
    have silent := heeds.silent fun task runs key => alone task ((own task key).mpr runs) key
    rw [silent_iff] at silent ⊢
    exact fun voice => (shown voice).trans (silent voice)

/-- A silent sprite heeds scripts that have put up nothing yet. -/
theorem of_silent (silent : sprite.Silent)
    (mute : ∀ task ∈ running, task.key = (sprite.id, epoch) → task.run.todo.voice? = none) :
    sprite.Heeds running epoch where
  utters task runs key := .of_mute (silent_iff.mp silent) (mute task runs key)
  silent _ := silent

end Heeds

end Sprite

/-- Where sprites do not swap, an update of a script leaves the epoch as it is and starts nothing. -/
theorem Stage.receive_unswapped {stage : Stage} (unswapped : stage.config.swapDistance = none)
    (id : SpriteId) (update : Update) :
    ∃ after, stage.receive id stage.epoch update = (after, []) ∧ stage.Steady after := by
  cases found : stage.find? id with
  | none => exact ⟨stage, by simp [receive, found], .refl stage⟩
  | some sprite =>
      refine ⟨_, ?_, publish_replace_steady stage (sprite.apply update) (.changed (sprite.apply update))⟩
      cases update <;> simp [receive, found, unswapped, publish, replace]

namespace Chronicle

/-! ## Every sprite heeds its script -/

/-- What is so of every chronicle whose sprites do not swap: the scripts that run belong to sprites of the
roster and are coherent, and every sprite heeds its script of the current epoch. -/
structure Voiced (chronicle : Chronicle) : Prop where
  unswapped : chronicle.stage.config.swapDistance = none
  known : ∀ task ∈ chronicle.performance.running, task.sprite ∈ chronicle.stage.ids
  coherent : ∀ task ∈ chronicle.performance.running, task.run.Coherent
  heeds : ∀ sprite ∈ chronicle.stage.sprites,
    sprite.Heeds chronicle.performance.running chronicle.stage.epoch

/-- On the same stage with the same scripts every sprite heeds its script. -/
theorem Voiced.of_running {before after : Chronicle} (voiced : before.Voiced)
    (stage : after.stage = before.stage)
    (running : ∀ {task}, task ∈ after.performance.running ↔ task ∈ before.performance.running) :
    after.Voiced where
  unswapped := stage ▸ voiced.unswapped
  known task runs := stage ▸ voiced.known task (running.mp runs)
  coherent task runs := voiced.coherent task (running.mp runs)
  heeds := by
    rw [stage]
    intro sprite member
    exact (voiced.heeds sprite member).congr rfl (fun _ => rfl) fun _ _ => running

namespace Sound

variable {chronicle : Chronicle}

/-- Where sprites do not swap, a turn leaves the epoch as it is and starts nothing. -/
theorem act_within (sound : chronicle.Sound) {task : Task} {others : List Task}
    (line : chronicle.performance.ready = task :: others)
    (unswapped : chronicle.stage.config.swapDistance = none) :
    ∃ stage, chronicle.act = (chronicle.acted task others).onStage stage ∧
      chronicle.stage.Steady stage := by
  by_cases silent : ∀ update run, chronicle.performance.progress task ≠ .displayed update run
  · obtain ⟨notes, acts⟩ := act_silent line silent
    exact ⟨_, acts, chronicle.stage.notes_steady notes⟩
  · simp only [ne_eq, not_forall, not_not] at silent
    obtain ⟨update, run, shown⟩ := silent
    obtain ⟨notes, acts⟩ := act_displayed line shown
    have noted := chronicle.stage.notes_steady notes
    obtain ⟨stage, received, steady⟩ :=
      @Stage.receive_unswapped { chronicle.stage with notes } unswapped task.sprite update
    have still : (chronicle.acted task others).stage.Steady stage := noted.trans steady
    rw [show chronicle.stage.epoch = ({ chronicle.stage with notes } : Stage).epoch from rfl,
      received, (sound.acted line).goOn_steady still] at acts
    exact ⟨stage, acts, still⟩

/-- A script does nothing to any sprite but the one that it runs in the current epoch. -/
theorem alteration_other {task : Task} {sprite : Sprite}
    (other : task.key ≠ (sprite.id, chronicle.stage.epoch)) :
    sprite.alter ((chronicle.performance.progress task).alteration task.sprite) = sprite := by
  cases shown : chronicle.performance.progress task with
  | displayed update run =>
      have current := Performance.epoch_eq_of_displayed shown
      exact if_neg fun same => other (Prod.ext same.symm current)
  | _ => rfl

/-- When some script has had its turn, a sprite of the roster heeds its own script. -/
theorem acted_heeds (sound : chronicle.Sound) (voiced : chronicle.Voiced) {task : Task}
    {others : List Task} (line : chronicle.performance.ready = task :: others) {sprite : Sprite}
    (member : sprite ∈ chronicle.stage.sprites) :
    (sprite.alter ((chronicle.performance.progress task).alteration task.sprite)).Heeds
      (chronicle.acted task others).performance.running chronicle.stage.epoch := by
  have first : task ∈ chronicle.performance.running := by simp [Performance.running, line]
  by_cases own : task.key = (sprite.id, chronicle.stage.epoch)
  · -- Its own script has had the turn: nobody else runs the sprite, before or after.
    obtain ⟨sameSprite, current⟩ : task.sprite = sprite.id ∧ task.epoch = chronicle.stage.epoch :=
      Prod.mk.inj own
    have only : ∀ other ∈ (chronicle.acted task others).performance.running,
        other.key = (sprite.id, chronicle.stage.epoch) →
        (chronicle.performance.progress task).standing chronicle.performance.now ≠ .ended ∧
          other = task.after (chronicle.performance.progress task) := by
      intro other runs key
      rcases mem_acted_running.mp runs with acted | rest
      · exact acted
      · exact absurd (key.trans own.symm) (sound.ne_key line current rest)
    have progress : chronicle.performance.progress task =
        task.run.proceed chronicle.stage.config true true := by
      simp [Performance.progress, current]
    have utters := (voiced.heeds sprite member).utters task first own
    rw [sameSprite]
    rcases utters.proceed (voiced.coherent task first) chronicle.stage.config with
      ⟨ended, silent⟩ | ⟨lasts, goesOn⟩
    · rw [← progress] at ended
      rw [ended] at only ⊢
      exact .of_silent silent fun other runs key => absurd rfl (only other runs key).1
    · rw [← progress] at lasts goesOn
      have runs : task.after (chronicle.performance.progress task) ∈
          (chronicle.acted task others).performance.running := by
        refine mem_acted_running.mpr (Or.inl ⟨?_, rfl⟩)
        cases comes : chronicle.performance.progress task with
        | ended outcome => exact absurd comes (lasts outcome)
        | _ => simp [Progress.standing]
      refine ⟨?_, ?_⟩
      · rw [Sprite.alter_id]
        intro other runs key
        rw [(only other runs key).2]
        exact goesOn
      · rw [Sprite.alter_id]
        intro alone
        exact absurd own (alone (task.after _) runs)
  · -- Another script has had it: the sprite stays as it is, and so does its own script.
    rw [alteration_other own]
    refine (voiced.heeds sprite member).congr rfl (fun _ => rfl) ?_
    intro other key
    have different : other ≠ task := by
      rintro rfl
      exact own key
    rw [mem_acted_running]
    simp only [Performance.running, line, List.cons_append, List.mem_cons, different, false_or]
    constructor
    · rintro (⟨_, rfl⟩ | rest)
      · exact absurd key own
      · exact rest
    · exact Or.inr

/-- After the turn of a script every sprite heeds its script. -/
theorem act_heeds (sound : chronicle.Sound) (voiced : chronicle.Voiced) :
    ∀ sprite ∈ chronicle.act.stage.sprites,
      sprite.Heeds chronicle.act.performance.running chronicle.act.stage.epoch := by
  cases line : chronicle.performance.ready with
  | nil =>
      rw [act_nil line]
      exact voiced.heeds
  | cons task others =>
      have alters := act_alters sound.numbered line
      obtain ⟨stage, acts, steady⟩ := sound.act_within line voiced.unswapped
      rw [acts] at alters ⊢
      intro sprite member
      have epoch : ((chronicle.acted task others).onStage stage).stage.epoch =
          chronicle.stage.epoch := steady.epoch
      rw [epoch]
      rcases alters.mem member with ⟨old, inside, blocks, rfl⟩ | new
      · exact (sound.acted_heeds voiced line inside).congr rfl (Sprite.holding_shown _ _)
          fun _ _ => Iff.rfl
      · cases new

/-- When an epoch begins with a silent sprite, nobody has put up anything for it. -/
theorem heeds_of_opened (sound : chronicle.Sound) {cause : Cause} {stage : Stage}
    {scripts : List Script} (begins : chronicle.stage.Begins stage) {sprite : Sprite}
    (silent : sprite.Silent) :
    sprite.Heeds (chronicle.opened cause stage scripts).performance.running stage.epoch := by
  refine .of_silent silent fun task runs key => ?_
  rcases mem_opened_running.mp runs with old | ⟨script, _, rfl⟩
  · have bounded := sound.bounded task.key (List.mem_map_of_mem (mem_tasks_of_running old))
    have next := begins.epoch
    rw [key] at bounded
    omega
  · rfl

/-- So after a move that silences everybody and begins an epoch every sprite heeds its script. -/
theorem heeds_of_silent (sound : chronicle.Sound) {after : Chronicle}
    (settles : chronicle.Settles after) (next : after.stage.epoch = chronicle.stage.epoch + 1)
    (silent : ∀ sprite ∈ after.stage.sprites, sprite.Silent) :
    ∀ sprite ∈ after.stage.sprites,
      sprite.Heeds after.performance.running after.stage.epoch := by
  cases settles with
  | steady steady => exact absurd (steady.epoch.symm.trans next) (Nat.ne_of_lt (Nat.lt_succ_self _))
  | opens begins => exact fun sprite member => sound.heeds_of_opened begins (silent sprite member)

/-- Whatever move comes next, every sprite heeds its script. -/
theorem take_heeds (sound : chronicle.Sound) (voiced : chronicle.Voiced) (move : Move) :
    ∀ sprite ∈ (chronicle.take move).stage.sprites,
      sprite.Heeds (chronicle.take move).performance.running (chronicle.take move).stage.epoch := by
  have alters := sound.take_alters move
  cases move with
  | amend amendment =>
      have steady := Stage.amend_steady chronicle.stage amendment
      have epoch : (chronicle.take (.amend amendment)).stage.epoch = chronicle.stage.epoch :=
        steady.epoch
      intro sprite member
      rw [epoch]
      rcases alters.mem member with ⟨old, inside, blocks, rfl⟩ | new
      · refine (voiced.heeds old inside).congr (old.alter_id _) ?_ fun _ _ => Iff.rfl
        exact fun voice => (Sprite.holding_shown _ _ _).trans (old.amend_shown amendment voice)
      · -- Nobody runs a sprite that has just come.
        refine .of_silent (entrants_silent new) fun task runs key => ?_
        have known := voiced.known task runs
        rw [(Prod.mk.inj key).1] at known
        cases amendment with
        | addSprite =>
            rw [List.mem_singleton.mp new] at known
            exact absurd known (sound.numbered.insert_new rfl)
        | _ => cases new
  | play =>
      cases playing : chronicle.stage.playing with
      | true =>
          rw [sound.play_again playing]
          exact voiced.heeds
      | false =>
          apply sound.heeds_of_silent sound.play_settles (Stage.play_begins playing).1.epoch
          intro sprite member
          rcases alters.mem member with ⟨old, _, blocks, rfl⟩ | new
          · simp only [alteration, playing, Bool.false_eq_true, if_false]
            exact ⟨rfl, rfl⟩
          · cases new
  | stop =>
      apply sound.heeds_of_silent sound.stop_settles (Stage.stop_begins _).1.epoch
      intro sprite member
      rcases alters.mem member with ⟨old, _, blocks, rfl⟩ | new
      · exact ⟨rfl, rfl⟩
      · cases new
  | clock time =>
      have clocked : (chronicle.take (.clock time)).Voiced :=
        voiced.of_running rfl mem_clock_running
      exact clocked.heeds
  | turn place =>
      have called := sound.callUp place
      have calledVoiced : Voiced
          { chronicle with performance := chronicle.performance.callUp place } :=
        voiced.of_running (by rw [Performance.callUp_eq]) mem_callUp_running
      exact called.act_heeds calledVoiced

/-- Whatever move comes next, every sprite goes on to heed its script. -/
theorem take_voiced (sound : chronicle.Sound) (voiced : chronicle.Voiced) (move : Move) :
    (chronicle.take move).Voiced where
  unswapped := by
    rw [sound.take_config]
    exact voiced.unswapped
  known := by
    have kept := (sound.take_alters move).ids_subset
    exact sound.take_running (fun task runs => kept (voiced.known task runs))
      (fun _ _ known => known)
      fun script started => (Stage.snapshots_sublist _).subset (List.mem_map_of_mem started)
  coherent := by
    refine sound.take_running voiced.coherent (fun task _ coherent => ?_)
      fun script _ => Run.start_coherent script.pose script.blocks
    exact Run.proceed_keeps coherent (fun _ _ next => coherent.next next) _ _
  heeds := sound.take_heeds voiced move

end Sound

/-- Nobody has put up anything on a stage that was set up. -/
theorem create_voiced {project : Project} {hosted : Bool} {stage : Stage}
    (built : Stage.ofProject project hosted = .ok stage)
    (unswapped : project.config.swapDistance = none) : (create stage).Voiced where
  unswapped := by
    show stage.config.swapDistance = none
    rw [Stage.ofProject_config built, unswapped]
  known := by simp
  coherent := by simp
  heeds := by
    have quiet := Stage.ofProject_quiet built
    intro sprite member
    exact .of_silent (quiet.silent (Stage.ofProject_resting built) sprite member) (by simp)

end Chronicle

/-! ## The middle of a turn -/

/-- The scripts that are in the middle of a turn when one script has acted: this one if it goes on at once,
and no longer if it begins to wait or has ended. -/
def Standing.midway (key : SpriteId × Nat) (before : List (SpriteId × Nat)) :
    Standing → List (SpriteId × Nat)
  | .inLine => key :: before.filter fun other => other ≠ key
  | .waiting _ | .ended => before.filter fun other => other ≠ key

theorem Standing.mem_midway {key other : SpriteId × Nat} {before : List (SpriteId × Nat)}
    (standing : Standing) (member : other ∈ before) (different : other ≠ key) :
    other ∈ standing.midway key before := by
  have stays : other ∈ before.filter fun other => other ≠ key :=
    List.mem_filter.mpr ⟨member, decide_eq_true different⟩
  cases standing with
  | inLine => exact List.mem_cons_of_mem _ stays
  | waiting | ended => exact stays

/-- Whoever is in the middle of a turn is still in line when one script has acted. -/
theorem Standing.midway_subset {task after : Task} {others : List Task}
    {before : List (SpriteId × Nat)} (standing : Standing)
    (inLine : before ⊆ (task :: others).map Task.key) (same : after.key = task.key) :
    standing.midway task.key before ⊆ (standing.line after ++ others).map Task.key := by
  have rest : (before.filter fun other => other ≠ task.key) ⊆ others.map Task.key := by
    intro key member
    obtain ⟨inside, different⟩ := List.mem_filter.mp member
    rcases List.mem_cons.mp (inLine inside) with rfl | behind
    · simp at different
    · exact behind
  cases standing with
  | inLine =>
      show _ ⊆ after.key :: others.map Task.key
      rw [same]
      exact List.cons_subset_cons _ rest
  | waiting | ended => exact rest

namespace Chronicle

/-- The scripts that are in the middle of a turn after a move, by their sprites and epochs. -/
def midwayAfter (chronicle : Chronicle) (before : List (SpriteId × Nat)) :
    Move → List (SpriteId × Nat)
  | .turn place =>
    match chronicle.performance.acting place with
    | none => before
    | some task =>
      ((chronicle.performance.progress task).standing chronicle.performance.now).midway task.key before
  | .amend _ | .play | .stop | .clock _ => before

/-- The scripts that are in the middle of a turn after some moves. -/
def midway (chronicle : Chronicle) (before : List (SpriteId × Nat)) :
    List Move → List (SpriteId × Nat)
  | [] => before
  | move :: rest => (chronicle.take move).midway (chronicle.midwayAfter before move) rest

theorem midway_append (chronicle : Chronicle) (before : List (SpriteId × Nat))
    (first second : List Move) :
    chronicle.midway before (first ++ second) =
      (chronicle.follow first).midway (chronicle.midway before first) second := by
  induction first generalizing chronicle before with
  | nil => rfl
  | cons move rest more => exact more (chronicle.take move) (chronicle.midwayAfter before move)

/-- A script of the current epoch that has put up a text and not begun to wait is in the middle of a
turn. -/
def Settled (midway : List (SpriteId × Nat)) (chronicle : Chronicle) : Prop :=
  ∀ task ∈ chronicle.performance.running, task.epoch = chronicle.stage.epoch →
    ∀ voice length, task.run.todo = .hold voice length → task.key ∈ midway

theorem Settled.of_running {before after : Chronicle} {midway : List (SpriteId × Nat)}
    (settled : before.Settled midway) (stage : after.stage = before.stage)
    (running : ∀ {task}, task ∈ after.performance.running ↔ task ∈ before.performance.running) :
    after.Settled midway := by
  intro task runs current
  rw [stage] at current
  exact settled task (running.mp runs) current

/-- When the stage settles, nobody of the current epoch goes on to a hold. -/
theorem Settles.settled {before after : Chronicle} (settles : before.Settles after)
    (sound : before.Sound) {midway : List (SpriteId × Nat)} (settled : before.Settled midway) :
    after.Settled midway := by
  cases settles with
  | steady steady =>
      intro task runs current
      exact settled task runs (current.trans steady.epoch)
  | opens begins =>
      intro task runs current voice length holds
      rcases mem_opened_running.mp runs with old | ⟨script, _, rfl⟩
      · have bounded := sound.bounded task.key (List.mem_map_of_mem (mem_tasks_of_running old))
        have same : task.key.2 = before.stage.epoch + 1 := current.trans begins.epoch
        omega
      · cases holds

/-- A script that still counts goes on in line when it has put up a text. -/
theorem standing_of_hold {performance : Performance} {task : Task} {voice : Voice} {length : Duration}
    (current : task.epoch = performance.stage.epoch)
    (lasts : (performance.progress task).standing performance.now ≠ .ended)
    (holds : ((performance.progress task).run task.run).todo = .hold voice length) :
    (performance.progress task).standing performance.now = .inLine := by
  have progress : performance.progress task =
      task.run.proceed performance.stage.config true true := by
    simp [Performance.progress, current]
  rw [progress] at lasts holds ⊢
  rcases task.run.proceed_eq performance.stage.config with ⟨_, finished⟩ | ⟨act, later, next, goesOn⟩
  · rw [finished] at lasts
    exact absurd rfl lasts
  · rw [goesOn] at holds ⊢
    cases act with
    | check | skip | display => rfl
    | pause length =>
        dsimp only at holds ⊢
        split at holds <;> cases (Run.display_of_hold next holds).choose_spec
    | rest => cases (Run.display_of_hold next holds).choose_spec

/-- After its turn a script is in the middle of it if it goes on to a hold. -/
theorem Sound.acted_settled {chronicle : Chronicle} (sound : chronicle.Sound)
    {midway : List (SpriteId × Nat)} (settled : chronicle.Settled midway) {task : Task}
    {others : List Task} (line : chronicle.performance.ready = task :: others) :
    (chronicle.acted task others).Settled
      (((chronicle.performance.progress task).standing chronicle.performance.now).midway task.key
        midway) := by
  intro other runs current voice length holds
  rcases mem_acted_running.mp runs with ⟨lasts, rfl⟩ | rest
  · have counts : task.epoch = chronicle.stage.epoch := current
    rw [standing_of_hold counts lasts holds]
    exact List.mem_cons_self
  · have different : other.key ≠ task.key := by
      intro same
      have epochs : task.epoch = chronicle.stage.epoch := (Prod.mk.inj same).2.symm.trans current
      exact sound.ne_key line epochs rest same
    have ran : other ∈ chronicle.performance.running := by
      simp only [Performance.running, line, List.cons_append]
      exact List.mem_cons_of_mem _ rest
    exact Standing.mem_midway _ (settled other ran current voice length holds) different

/-- After every move, whoever goes on to a hold is in the middle of a turn. -/
theorem Sound.take_settled {chronicle : Chronicle} (sound : chronicle.Sound)
    {midway : List (SpriteId × Nat)} (settled : chronicle.Settled midway) (move : Move) :
    (chronicle.take move).Settled (chronicle.midwayAfter midway move) := by
  cases move with
  | amend amendment =>
      exact (Settles.steady (Stage.amend_steady chronicle.stage amendment)).settled sound settled
  | play => exact sound.play_settles.settled sound settled
  | stop => exact sound.stop_settles.settled sound settled
  | clock time => exact settled.of_running rfl mem_clock_running
  | turn place =>
      have called := sound.callUp place
      have calledSettled : Settled midway
          { chronicle with performance := chronicle.performance.callUp place } :=
        settled.of_running (by rw [Performance.callUp_eq]) mem_callUp_running
      simp only [Chronicle.take, midwayAfter, Performance.acting]
      rw [Performance.callUp_eq] at called calledSettled ⊢
      generalize (chronicle.performance.callUp place).ready = ready at called calledSettled
      cases ready with
      | nil =>
          rw [act_nil rfl]
          exact calledSettled
      | cons task others =>
          exact (called.act_settles rfl).settled (called.acted rfl)
            (called.acted_settled calledSettled rfl)

/-- After any moves every sprite heeds its script, and whoever goes on to a hold is in the middle of a
turn. -/
theorem Sound.follow_voiced {chronicle : Chronicle} (sound : chronicle.Sound)
    (voiced : chronicle.Voiced) {before : List (SpriteId × Nat)} (settled : chronicle.Settled before)
    (moves : List Move) :
    (chronicle.follow moves).Voiced ∧ (chronicle.follow moves).Settled (chronicle.midway before moves) := by
  induction moves generalizing chronicle before with
  | nil => exact ⟨voiced, settled⟩
  | cons move rest more =>
      exact more (sound.take move) (sound.take_voiced voiced move) (sound.take_settled settled move)

/-! ## Requests -/

/-- A script that acts stays in front of the line if it goes on at once; whoever lines up stands behind. -/
theorem act_ready {chronicle : Chronicle} {task : Task} {others : List Task}
    (line : chronicle.performance.ready = task :: others) :
    let progress := chronicle.performance.progress task
    ∃ more, chronicle.act.performance.ready =
      (progress.standing chronicle.performance.now).line (task.after progress) ++ others ++ more := by
  intro progress
  by_cases silent : ∀ update run, chronicle.performance.progress task ≠ .displayed update run
  · obtain ⟨notes, acts⟩ := act_silent line silent
    rw [acts]
    exact ⟨[], (List.append_nil _).symm⟩
  · simp only [ne_eq, not_forall, not_not] at silent
    obtain ⟨update, run, shown⟩ := silent
    obtain ⟨notes, acts⟩ := act_displayed line shown
    rw [acts]
    exact ⟨_, List.append_assoc _ _ _⟩

/-- Whoever is in the middle of a turn stands in line. -/
theorem midwayAfter_subset {chronicle : Chronicle} {before : List (SpriteId × Nat)}
    (inLine : before ⊆ chronicle.performance.ready.map Task.key) (move : Move) :
    chronicle.midwayAfter before move ⊆ (chronicle.take move).performance.ready.map Task.key := by
  have longer : ∀ {keys : List (SpriteId × Nat)} {ready more : List Task},
      keys ⊆ ready.map Task.key → keys ⊆ (ready ++ more).map Task.key := by
    intro keys ready more inside
    rw [List.map_append]
    exact List.subset_append_of_subset_left _ inside
  cases move with
  | amend amendment => exact inLine
  | play | stop => exact longer (longer inLine)
  | clock time => exact longer inLine
  | turn place =>
      have ordered := (chronicle.performance.callUp_perm place).map Task.key
      have called := List.Subset.trans inLine ordered.symm.subset
      simp only [Chronicle.take, midwayAfter, Performance.acting]
      rw [Performance.callUp_eq]
      generalize (chronicle.performance.callUp place).ready = ready at called
      cases ready with
      | nil =>
          rw [act_nil rfl]
          exact called
      | cons task others =>
          obtain ⟨more, ready⟩ := @act_ready
            { chronicle with performance := { chronicle.performance with ready := task :: others } }
            task others rfl
          simp only [List.head?_cons]
          rw [ready]
          exact longer (Standing.midway_subset _ called (Task.after_key task _))

/-- Whoever is in the middle of a turn after some moves stands in line. -/
theorem midway_subset {chronicle : Chronicle} {before : List (SpriteId × Nat)}
    (inLine : before ⊆ chronicle.performance.ready.map Task.key) (moves : List Move) :
    chronicle.midway before moves ⊆ (chronicle.follow moves).performance.ready.map Task.key := by
  induction moves generalizing chronicle before with
  | nil => exact inLine
  | cons move rest more => exact more (midwayAfter_subset inLine move)

/-- To serve a request is to follow moves on time after which nobody is in the middle of a turn. -/
theorem serve_between {chronicle : Chronicle} {later : Performance} {request : Request}
    (punctual : chronicle.performance.Punctual)
    (serves : chronicle.performance.serve request = some later) :
    ∃ moves, (chronicle.OnTime moves ∧ chronicle.midway [] moves = []) ∧
      (chronicle.follow moves).performance = later ∧ later.Punctual := by
  cases request with
  | amend amendment =>
      cases serves
      exact ⟨[.amend amendment], ⟨⟨trivial, trivial⟩, rfl⟩, rfl, punctual⟩
  | play =>
      cases serves
      exact ⟨[.play], ⟨⟨trivial, trivial⟩, rfl⟩, rfl, punctual.resume _⟩
  | stop =>
      cases serves
      exact ⟨[.stop], ⟨⟨trivial, trivial⟩, rfl⟩, rfl, punctual.resume _⟩
  | advance milliseconds =>
      obtain ⟨moves, onTime, rfl, kept⟩ := advance_onTime punctual serves
      have inLine := midway_subset (List.nil_subset (chronicle.performance.ready.map Task.key)) moves
      rw [Performance.ready_of_advance serves] at inLine
      exact ⟨moves, ⟨onTime, List.subset_nil.mp inLine⟩, rfl, kept⟩

/-- Whatever is done with a stage whose sprites do not swap, and in whatever order its scripts have their
turns: whenever no script is in the middle of a turn, a sprite says or thinks something exactly if the
script that runs it in the current epoch is in the hold of a block that says or thinks it. Between requests
no script is in the middle of a turn. -/
theorem speech_held {project : Project} {hosted : Bool} {stage : Stage}
    (built : Stage.ofProject project hosted = .ok stage)
    (unswapped : project.config.swapDistance = none) :
    (∀ moves, (create stage).midway [] moves = [] →
      let chronicle := (create stage).follow moves
      let running := chronicle.performance.ready ++ chronicle.performance.waiting.map Waiter.task
      ∀ sprite ∈ chronicle.stage.sprites, ∀ voice text, text ≠ "" →
        (sprite.shown voice = text ↔
          ∃ task ∈ running, task.key = (sprite.id, chronicle.stage.epoch) ∧
            task.run.Holds voice text)) ∧
      ∀ requests later, (Performance.create stage).serveAll requests = some later →
        ∃ moves, ((create stage).OnTime moves ∧ (create stage).midway [] moves = []) ∧
          ((create stage).follow moves).performance = later := by
  constructor
  · intro moves between chronicle running sprite member voice text something
    have begun : (create stage).Sound := .create (Stage.ofProject_numbered built)
    obtain ⟨voiced, settled⟩ := begun.follow_voiced (create_voiced built unswapped)
      (show (create stage).Settled [] by simp [Settled]) moves
    rw [between] at settled
    have heeds := voiced.heeds sprite member
    have holds : ∀ task ∈ running, task.key = (sprite.id, chronicle.stage.epoch) →
        (sprite.shown voice = text ↔ task.run.Holds voice text) := by
      intro task runs key
      have waits : ∀ voice length, task.run.todo ≠ .hold voice length := by
        intro voice length todo
        cases settled task runs (Prod.mk.inj key).2 voice length todo
      rw [heeds.utters task runs key voice]
      exact (voiced.coherent task runs).uttered_eq_iff waits voice something
    constructor
    · intro shows
      by_contra nobody
      have silent := heeds.silent fun task runs key =>
        nobody ⟨task, runs, key, (holds task runs key).mp shows⟩
      exact something (shows.symm.trans (Sprite.silent_iff.mp silent voice))
    · rintro ⟨task, runs, key, held⟩
      exact (holds task runs key).mpr held
  · intro requests later serves
    exact serveAll_induction (fun chronicle moves => chronicle.OnTime moves ∧ chronicle.midway [] moves = [])
      (fun _ => ⟨trivial, rfl⟩)
      (fun chronicle first second one two =>
        ⟨onTime_append.mpr ⟨one.1, two.1⟩, by rw [midway_append, one.2, two.2]⟩)
      (fun _ _ _ => serve_between) requests (create stage) later (Performance.create_punctual stage) serves

/-- Both greeters begin to greet, and the greeting of the first one is edited meanwhile. -/
def editedGreeting : List Move :=
  [.play, .turn 0, .turn 0, .turn 0, .turn 0,
    .amend (.updateBlock ⟨"sprite-1"⟩ ⟨1⟩ ⟨[("message", .string "bye")]⟩)]

/-- The first greeter is still in the hold of the greeting that it began with. -/
theorem speech_held_greeters :
    ∃ stage, Stage.ofProject greeters true = .ok stage ∧ greeters.config.swapDistance = none ∧
      (create stage).midway [] editedGreeting = [] ∧
      let chronicle := (create stage).follow editedGreeting
      let running := chronicle.performance.ready ++ chronicle.performance.waiting.map Waiter.task
      ∃ greeter : Sprite, chronicle.stage.sprites[0]? = some greeter ∧
        greeter.shown .say = "hello" ∧ greeter.blocks.map (Block.text · "message") = ["bye"] ∧
        ∃ task ∈ running, task.key = (greeter.id, chronicle.stage.epoch) ∧
          task.run.Holds .say "hello" := by
  obtain ⟨stage, built⟩ : ∃ stage, Stage.ofProject greeters true = .ok stage := ⟨_, rfl⟩
  have whole : stage = greeters.sprites.foldl Stage.addDefinedSprite (.bare greeters.config) :=
    (Except.ok.inj built).symm
  have between : (create stage).midway [] editedGreeting = [] := by
    subst whole
    decide +kernel
  obtain ⟨greeter, first, shows⟩ : ∃ greeter : Sprite,
      ((create stage).follow editedGreeting).stage.sprites[0]? = some greeter ∧
        (greeter.shown .say, greeter.blocks.map (Block.text · "message")) = ("hello", ["bye"]) := by
    apply Option.map_eq_some_iff.mp
    subst whole
    decide +kernel
  obtain ⟨greets, edited⟩ := Prod.mk.inj shows
  refine ⟨stage, built, rfl, between, greeter, first, greets, edited, ?_⟩
  exact ((speech_held built rfl).1 _ between greeter (List.mem_of_getElem? first) .say "hello"
    (by decide)).mp greets

end Chronicle

end SpriteStage
