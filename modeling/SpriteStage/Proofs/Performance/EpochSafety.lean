/-
Module: SpriteStage.Proofs.Performance.EpochSafety
Purpose: Epoch safety. Whatever is done with a stage and in whatever order its tasks are polled, no
  run token is ahead of the scheduler's epoch, each sprite has at most one task of the current
  epoch, and a stage that is not playing has none. A script changes sprites only while its token is
  current, and then only its own sprite, or in a swap its own sprite and the blocks of one partner.
  The invariant is `Chronicle.Sound`. Moves keep it for one of two reasons: they stay within an
  epoch and start nothing, or they begin the next epoch, in which nobody runs yet.
Main exports: Chronicle.Sound, Chronicle.Sound.take, Chronicle.Sound.follow_keys, Stage.Touched,
  Chronicle.epoch_safety
-/
import SpriteStage.Proofs.Performance.Chronicle

namespace SpriteStage

/-- The sprite and the epoch of a script. -/
def Task.key (task : Task) : SpriteId × Nat := (task.sprite, task.epoch)

@[simp] theorem Task.after_key (task : Task) (progress : Progress) :
    (task.after progress).key = task.key := rfl

namespace Chronicle

/-- The sprite and the epoch of every script that ever started. -/
def keys (chronicle : Chronicle) : List (SpriteId × Nat) := chronicle.tasks.map Task.key

/-- What is so of every chronicle: the roster is numbered, only scripts of the current epoch wait,
no script is ahead of the current epoch, no sprite has two scripts of it, and a stage that is not
playing has none. -/
structure Sound (chronicle : Chronicle) : Prop where
  numbered : chronicle.stage.Numbered
  fresh : ∀ waiter ∈ chronicle.performance.waiting, waiter.task.epoch = chronicle.stage.epoch
  bounded : ∀ key ∈ chronicle.keys, key.2 ≤ chronicle.stage.epoch
  single : ∀ id, chronicle.keys.count (id, chronicle.stage.epoch) ≤ 1
  resting : chronicle.stage.playing = false →
    ∀ key ∈ chronicle.keys, key.2 ≠ chronicle.stage.epoch

/-- The scripts of a new epoch come to those that ever started. -/
theorem opened_keys (chronicle : Chronicle) (cause : Cause) (stage : Stage)
    (scripts : List Script) :
    (chronicle.opened cause stage scripts).keys.Perm
      (chronicle.keys ++ scripts.map fun script => (script.sprite, stage.epoch)) := by
  simp only [keys, tasks, opened, List.map_append, List.map_nil, List.append_nil,
    List.append_assoc, List.map_map]
  exact (List.perm_append_comm.append_left _).append_left _

/-- An act changes what a script has done, and not whose script it is. -/
theorem acted_keys {chronicle : Chronicle} {task : Task} {others : List Task}
    (line : chronicle.performance.ready = task :: others) :
    (chronicle.acted task others).keys.Perm chronicle.keys := by
  have spread := (Standing.spread_perm
    ((chronicle.performance.progress task).standing chronicle.performance.now)
    (task.after (chronicle.performance.progress task)) others chronicle.performance.waiting
    chronicle.ended).map Task.key
  simpa [keys, tasks, acted, line] using spread

/-- Whoever goes first, the scripts are the same. -/
theorem callUp_keys (chronicle : Chronicle) (place : Nat) :
    ({ chronicle with performance := chronicle.performance.callUp place } : Chronicle).keys.Perm
      chronicle.keys := by
  rw [Performance.callUp_eq]
  simp only [keys, tasks, List.map_append, List.append_assoc]
  exact ((chronicle.performance.callUp_perm place).map Task.key).append_right _

/-- Scripts that wake up are the scripts that waited. -/
theorem clock_keys (chronicle : Chronicle) (time : Nat) :
    (chronicle.take (.clock time)).keys.Perm chronicle.keys := by
  have parted := ((List.filter_append_perm
    (Performance.isDue (max chronicle.performance.now time))
    chronicle.performance.waiting).map Waiter.task).map Task.key
  simp only [keys, tasks, take, Performance.wakeAt, List.map_append,
    List.append_assoc] at parted ⊢
  rw [← List.append_assoc (List.map Task.key (List.map Waiter.task (List.filter _ _)))]
  exact (parted.append_right _).append_left _

/-- What the stage makes of a move once its scripts have moved: it stays in its epoch and starts
nothing; or the next epoch begins, with the scripts of all sprites that have blocks or, if the stage
was stopped, with none. -/
inductive Settles (before : Chronicle) : Chronicle → Prop where
  | steady {stage : Stage} (steady : before.stage.Steady stage) :
      Settles before (before.onStage stage)
  | opens {cause : Cause} {stage : Stage} {scripts : List Script}
      (begins : before.stage.Begins stage)
      (starts : scripts = stage.snapshots ∧ stage.playing = true ∨ scripts = [] ∧ cause = .stop) :
      Settles before (before.opened cause stage scripts)

/-- When the stage settles, scripts may start, and nobody is forgotten. -/
theorem Settles.keys_subperm {before after : Chronicle} (settles : before.Settles after) :
    before.keys.Subperm after.keys := by
  cases settles with
  | steady => exact List.Subperm.refl _
  | opens =>
      exact (List.sublist_append_left _ _).subperm.trans (opened_keys _ _ _ _).symm.subperm

namespace Sound

theorem create {stage : Stage} (numbered : stage.Numbered) : (create stage).Sound where
  numbered := numbered
  fresh := by simp [Chronicle.create, Performance.create]
  bounded := by simp [Chronicle.create, Performance.create, keys, tasks]
  single := by simp [Chronicle.create, Performance.create, keys, tasks]
  resting := by simp [Chronicle.create, Performance.create, keys, tasks]

/-- A stage with a script of the current epoch is playing. -/
theorem playing {chronicle : Chronicle} (sound : chronicle.Sound) {task : Task}
    (member : task ∈ chronicle.tasks) (current : task.epoch = chronicle.stage.epoch) :
    chronicle.stage.playing = true := by
  cases plays : chronicle.stage.playing with
  | true => rfl
  | false => exact absurd current (sound.resting plays task.key (List.mem_map_of_mem member))

/-- Within an epoch it is enough that nobody starts and nobody of another epoch begins to wait. -/
theorem goesOn {before after : Chronicle} (sound : before.Sound)
    (steady : before.stage.Steady after.stage) (keys : after.keys.Perm before.keys)
    (fresh : ∀ waiter ∈ after.performance.waiting, waiter.task.epoch = before.stage.epoch) :
    after.Sound where
  numbered := steady.numbered sound.numbered
  fresh := by
    rw [steady.epoch]
    exact fresh
  bounded := by
    intro key member
    rw [steady.epoch]
    exact sound.bounded key (keys.mem_iff.mp member)
  single := by
    intro id
    rw [steady.epoch, keys.count_eq]
    exact sound.single id
  resting := by
    intro resting key member
    rw [steady.epoch]
    rw [steady.playing] at resting
    exact sound.resting resting key (keys.mem_iff.mp member)

theorem onStage {chronicle : Chronicle} (sound : chronicle.Sound) {stage : Stage}
    (steady : chronicle.stage.Steady stage) : (chronicle.onStage stage).Sound :=
  sound.goesOn steady (List.Perm.refl _) sound.fresh

/-- A new epoch begins with the scripts that start, one for each sprite that has blocks, or with
nobody on a stage that stops. -/
theorem opened {chronicle : Chronicle} (sound : chronicle.Sound) {stage : Stage}
    (begins : chronicle.stage.Begins stage) (cause : Cause) {scripts : List Script}
    (starts : scripts = stage.snapshots ∧ stage.playing = true ∨ scripts = []) :
    (chronicle.opened cause stage scripts).Sound := by
  have keys := chronicle.opened_keys cause stage scripts
  have numbered : stage.Numbered := sound.numbered.of_ids_eq begins.ids
  have earlier : ∀ key ∈ chronicle.keys, key.2 < stage.epoch := by
    intro key member
    rw [begins.epoch]
    exact Nat.lt_succ_of_le (sound.bounded key member)
  refine ⟨numbered, nofun, ?_, ?_, ?_⟩
  · intro key member
    rcases List.mem_append.mp (keys.mem_iff.mp member) with old | new
    · exact Nat.le_of_lt (earlier key old)
    · obtain ⟨script, _, rfl⟩ := List.mem_map.mp new
      exact Nat.le_refl _
  · intro id
    have absent : (id, stage.epoch) ∉ chronicle.keys := by
      intro member
      exact Nat.lt_irrefl _ (earlier _ member)
    have once : (scripts.map fun script => (script.sprite, stage.epoch)).count
        (id, stage.epoch) ≤ 1 := by
      rcases starts with ⟨rfl, _⟩ | rfl
      · apply List.nodup_iff_count.mp
        have paired := numbered.snapshots_nodup.map
          (fun first second same => (Prod.mk.inj same).1 :
            Function.Injective fun sprite : SpriteId => (sprite, stage.epoch))
        simpa [List.map_map, Function.comp_def] using paired
      · simp
    show List.count (id, stage.epoch) _ ≤ 1
    rw [keys.count_eq, List.count_append, List.count_eq_zero.mpr absent, Nat.zero_add]
    exact once
  · intro resting key member
    rcases List.mem_append.mp (keys.mem_iff.mp member) with old | new
    · exact Nat.ne_of_lt (earlier key old)
    · rcases starts with ⟨_, playing⟩ | rfl
      · rw [show (chronicle.opened cause stage scripts).stage.playing = stage.playing from rfl,
          playing] at resting
        cases resting
      · simp at new

/-- Within an epoch nobody has to line up. -/
theorem goOn_steady {chronicle : Chronicle} (sound : chronicle.Sound) {stage : Stage}
    (steady : chronicle.stage.Steady stage) (cause : Cause) :
    chronicle.goOn cause (chronicle.performance.resume (stage, [])) =
      chronicle.onStage stage := by
  have resumed : chronicle.performance.resume (stage, []) = chronicle.performance.edited stage :=
    Performance.resume_steady (by rw [steady.epoch]; exact sound.fresh)
  rw [resumed, goOn_same (by exact steady.epoch)]
  rfl

/-- With a new epoch everybody lines up. -/
theorem goOn_begins {chronicle : Chronicle} (sound : chronicle.Sound) {stage : Stage}
    (begins : chronicle.stage.Begins stage) (cause : Cause) (scripts : List Script) :
    chronicle.goOn cause (chronicle.performance.resume (stage, scripts)) =
      chronicle.opened cause stage scripts := by
  have stale : ∀ waiter ∈ chronicle.performance.waiting, waiter.task.epoch ≠ stage.epoch := by
    intro waiter member
    rw [begins.epoch, sound.fresh waiter member]
    exact Nat.ne_of_lt (Nat.lt_succ_self _)
  rw [Performance.resume_begins stale, goOn_new (by exact begins.epoch)]
  rfl

theorem callUp {chronicle : Chronicle} (sound : chronicle.Sound) (place : Nat) :
    { chronicle with performance := chronicle.performance.callUp place }.Sound := by
  have keys := chronicle.callUp_keys place
  rw [Performance.callUp_eq] at keys ⊢
  exact sound.goesOn (Stage.Steady.refl _) keys sound.fresh

theorem acted {chronicle : Chronicle} (sound : chronicle.Sound) {task : Task}
    {others : List Task} (line : chronicle.performance.ready = task :: others) :
    (chronicle.acted task others).Sound := by
  refine sound.goesOn (Stage.Steady.refl _) (acted_keys line) ?_
  intro waiter member
  rcases List.mem_append.mp member with old | new
  · exact sound.fresh waiter old
  · exact Performance.epoch_eq_of_waiter new

theorem settles {before after : Chronicle} (sound : before.Sound) (settles : before.Settles after) :
    after.Sound := by
  cases settles with
  | steady steady => exact sound.onStage steady
  | opens begins starts => exact sound.opened begins _ (starts.imp_right And.left)

/-- A play during a play is noted, and that is all. -/
theorem play_again {chronicle : Chronicle} (sound : chronicle.Sound)
    (playing : chronicle.stage.playing = true) :
    chronicle.take .play = chronicle.onStage (chronicle.stage.note .alreadyPlaying) := by
  have noted : chronicle.stage.Steady (chronicle.stage.note .alreadyPlaying) :=
    Stage.notes_steady _ _
  show chronicle.goOn .play (chronicle.performance.resume chronicle.stage.play) = _
  rw [Stage.play_of_playing playing, sound.goOn_steady noted]

theorem play_settles {chronicle : Chronicle} (sound : chronicle.Sound) :
    chronicle.Settles (chronicle.take .play) := by
  cases playing : chronicle.stage.playing with
  | true =>
      rw [sound.play_again playing]
      exact .steady (Stage.notes_steady _ _)
  | false =>
      obtain ⟨begins, plays, scripts⟩ := Stage.play_begins playing
      have parts := sound.goOn_begins begins .play chronicle.stage.play.2
      show chronicle.Settles (chronicle.goOn .play _)
      exact parts ▸ .opens begins (Or.inl ⟨scripts, plays⟩)

theorem stop_settles {chronicle : Chronicle} (sound : chronicle.Sound) :
    chronicle.Settles (chronicle.take .stop) := by
  have begins := (Stage.stop_begins chronicle.stage).1
  show chronicle.Settles (chronicle.goOn .stop (chronicle.performance.resume _))
  rw [sound.goOn_begins begins]
  exact .opens begins (Or.inr ⟨rfl, rfl⟩)

/-- After the progress of a script the stage settles. A script that displays something still counts,
so the stage is playing; and if the update brings about a swap, the scripts that start are those of
a playing stage. -/
theorem act_settles {chronicle : Chronicle} (sound : chronicle.Sound) {task : Task}
    {others : List Task} (line : chronicle.performance.ready = task :: others) :
    (chronicle.acted task others).Settles chronicle.act := by
  by_cases silent : ∀ update run, chronicle.performance.progress task ≠ .displayed update run
  · obtain ⟨notes, acts⟩ := Chronicle.act_silent line silent
    rw [acts]
    exact .steady (chronicle.stage.notes_steady notes)
  · simp only [ne_eq, not_forall, not_not] at silent
    obtain ⟨update, run, shown⟩ := silent
    obtain ⟨notes, acts⟩ := Chronicle.act_displayed line shown
    have current := Performance.epoch_eq_of_displayed shown
    have playing : chronicle.stage.playing = true := sound.playing (by simp [tasks, line]) current
    have acted := sound.acted line
    have noted := chronicle.stage.notes_steady notes
    rw [acts]
    rcases Stage.receive_steady_or_begins { chronicle.stage with notes } task.sprite update with
      ⟨stage, received, steady⟩ | ⟨stage, received, begins, plays⟩
    · have still : (chronicle.acted task others).stage.Steady stage := noted.trans steady
      rw [show chronicle.stage.epoch = ({ chronicle.stage with notes } : Stage).epoch from rfl,
        received, acted.goOn_steady still]
      exact .steady still
    · have next : (chronicle.acted task others).stage.Begins stage :=
        ⟨begins.config, begins.epoch, begins.ids⟩
      rw [show chronicle.stage.epoch = ({ chronicle.stage with notes } : Stage).epoch from rfl,
        received, acted.goOn_begins next]
      exact .opens next (Or.inl ⟨rfl, plays.trans playing⟩)

theorem turn {chronicle : Chronicle} (sound : chronicle.Sound) (place : Nat) :
    (chronicle.take (.turn place)).Sound := by
  have called := sound.callUp place
  show Chronicle.Sound (Chronicle.act _)
  generalize { chronicle with performance := chronicle.performance.callUp place } = next at called
  cases line : next.performance.ready with
  | nil =>
      rw [act_nil line]
      exact called
  | cons task others => exact (called.acted line).settles (called.act_settles line)

theorem clock {chronicle : Chronicle} (sound : chronicle.Sound) (time : Nat) :
    (chronicle.take (.clock time)).Sound := by
  refine sound.goesOn (Stage.Steady.refl _) (chronicle.clock_keys time) ?_
  intro waiter member
  exact sound.fresh waiter (List.mem_of_mem_filter member)

theorem take {chronicle : Chronicle} (sound : chronicle.Sound) (move : Move) :
    (chronicle.take move).Sound := by
  cases move with
  | amend amendment => exact sound.onStage (Stage.amend_steady _ amendment)
  | play => exact sound.settles sound.play_settles
  | stop => exact sound.settles sound.stop_settles
  | turn place => exact sound.turn place
  | clock time => exact sound.clock time

/-- A move adds the scripts that start with it to those that ever started, and forgets nobody. -/
theorem take_keys {chronicle : Chronicle} (sound : chronicle.Sound) (move : Move) :
    chronicle.keys.Subperm (chronicle.take move).keys := by
  cases move with
  | amend amendment => exact List.Subperm.refl _
  | play => exact sound.play_settles.keys_subperm
  | stop => exact sound.stop_settles.keys_subperm
  | clock time => exact (chronicle.clock_keys time).symm.subperm
  | turn place =>
      have called := sound.callUp place
      apply (chronicle.callUp_keys place).symm.subperm.trans
      show List.Subperm _ (Chronicle.act _).keys
      generalize { chronicle with performance := chronicle.performance.callUp place } = next
        at called
      cases line : next.performance.ready with
      | nil =>
          rw [act_nil line]
      | cons task others =>
          exact (acted_keys line).symm.subperm.trans (called.act_settles line).keys_subperm

/-- Nobody who ever started is forgotten. -/
theorem follow_keys {chronicle : Chronicle} (sound : chronicle.Sound) (moves : List Move) :
    chronicle.keys.Subperm (chronicle.follow moves).keys := by
  have kept := follow_induction (fun later => later.Sound ∧ chronicle.keys.Subperm later.keys)
    (fun _ move holds => ⟨holds.1.take move, holds.2.trans (holds.1.take_keys move)⟩) moves _
    ⟨sound, List.Subperm.refl _⟩
  exact kept.2

/-- Every chronicle of a stage that was set up is sound. -/
theorem follow {project : Project} {hosted : Bool} {stage : Stage}
    (built : Stage.ofProject project hosted = .ok stage) (moves : List Move) :
    ((Chronicle.create stage).follow moves).Sound :=
  follow_induction Sound (fun _ move sound => sound.take move) moves _
    (create (Stage.ofProject_numbered built))

end Sound

end Chronicle

/-! ## What scripts do to sprites -/

/-- What an update of a script that still counts can make of the sprites of a stage: it changes the
sprite that the script runs; or it does so and brings about a swap, in which that sprite and one
partner exchange their blocks and the next epoch begins. -/
inductive Stage.Touched (id : SpriteId) (update : Update) (before after : Stage) : Prop where
  | update (epoch : after.epoch = before.epoch)
      (sprites : after.sprites =
        before.sprites.map fun old => if old.id = id then old.apply update else old)
  | swap (mover partner : Sprite) (epoch : after.epoch = before.epoch + 1)
      (moving : mover ∈ before.sprites) (own : mover.id = id)
      (close : partner ∈ before.sprites) (other : partner.id ≠ id)
      (sprites : after.sprites =
        before.sprites.map fun old =>
          if old.id = id then { old.apply update with blocks := partner.blocks }
          else if old.id = partner.id then { old with blocks := mover.blocks }
          else old)

/-- An update of a sprite on a numbered roster touches that sprite, or it and a partner. -/
theorem Stage.Numbered.receive_touched {stage : Stage} (numbered : stage.Numbered)
    (id : SpriteId) (update : Update) :
    (stage.find? id = none ∧ stage.receive id stage.epoch update = (stage, [])) ∨
      (stage.find? id).isSome = true ∧
        Touched id update stage (stage.receive id stage.epoch update).1 := by
  rcases stage.receive_cases id update with unknown | ⟨sprite, found, changed | swaps⟩
  · exact Or.inl unknown
  · rw [changed]
    exact Or.inr ⟨by simp [found], .update rfl (numbered.showing_sprites found update)⟩
  · obtain ⟨partner, member, apart, _, swapped⟩ := swaps
    rw [swapped]
    exact Or.inr ⟨by simp [found], .swap sprite partner rfl (find?_mem found) (find?_id found)
      member apart (numbered.swap_showing_sprites found member apart update)⟩

namespace Chronicle

/-- The next act of the first script in line leaves all sprites and the epoch as they are and
delivers nothing; or the script still counts, and the one update that it delivers touches the
sprites. -/
theorem Sound.act_touched {chronicle : Chronicle} (sound : chronicle.Sound) {task : Task}
    {others : List Task} (line : chronicle.performance.ready = task :: others) :
    (chronicle.act.deliveries = chronicle.deliveries ∧
        chronicle.act.stage.sprites = chronicle.stage.sprites ∧
        chronicle.act.stage.epoch = chronicle.stage.epoch) ∨
      task.epoch = chronicle.stage.epoch ∧ ∃ update,
        chronicle.act.deliveries = chronicle.deliveries ++
          [⟨chronicle.performance.now, task.epoch, task.sprite, update⟩] ∧
        Stage.Touched task.sprite update chronicle.stage chronicle.act.stage := by
  obtain ⟨notes, ⟨same, nothing⟩ | ⟨current, known, update, received, handed⟩⟩ := act_stage line
  · rw [same]
    exact Or.inl ⟨nothing, rfl, rfl⟩
  · have numbered : ({ chronicle.stage with notes } : Stage).Numbered :=
      sound.numbered.of_ids_eq rfl
    rcases numbered.receive_touched task.sprite update with ⟨unknown, _⟩ | ⟨_, touched⟩
    · have absent : chronicle.stage.find? task.sprite = none := unknown
      simp [absent] at known
    · refine Or.inr ⟨current, update, handed, ?_⟩
      rw [received]
      -- The notes aside, the stage is the one before the act.
      cases touched with
      | update epoch sprites => exact .update epoch sprites
      | swap mover partner epoch moving own close other sprites =>
          exact .swap mover partner epoch moving own close other sprites

theorem Sound.turn_touched {chronicle : Chronicle} (sound : chronicle.Sound) {place : Nat}
    {task : Task} (there : chronicle.performance.ready[place]? = some task) :
    let after := chronicle.take (.turn place)
    (after.deliveries = chronicle.deliveries ∧
        after.stage.sprites = chronicle.stage.sprites ∧
        after.stage.epoch = chronicle.stage.epoch) ∨
      task.epoch = chronicle.stage.epoch ∧ ∃ update,
        after.deliveries = chronicle.deliveries ++
          [⟨chronicle.performance.now, task.epoch, task.sprite, update⟩] ∧
        Stage.Touched task.sprite update chronicle.stage after.stage := by
  have called := sound.callUp place
  simp only [Chronicle.take]
  simp only [Performance.callUp, there] at called ⊢
  exact called.act_touched rfl

/-- In every chronicle, which forgets no script that ever started, no script is ahead of the current
epoch, each sprite has at most one script of the current epoch, and none while the stage is not
playing. Whichever script has the next turn, it changes sprites only by an update that it delivers
while its epoch is the current one, and then no others than its own sprite and, in a swap, the
blocks of one partner. -/
theorem epoch_safety {project : Project} {hosted : Bool} {stage : Stage}
    (built : Stage.ofProject project hosted = .ok stage) (moves : List Move) :
    let chronicle := (create stage).follow moves
    let epoch := chronicle.stage.epoch
    (∀ more, chronicle.keys.Subperm (chronicle.follow more).keys) ∧
      (∀ task ∈ chronicle.tasks, task.epoch ≤ epoch) ∧
      (∀ id, (chronicle.tasks.filter fun task => task.sprite = id ∧ task.epoch = epoch).length ≤ 1) ∧
      (chronicle.stage.playing = false → ∀ task ∈ chronicle.tasks, task.epoch ≠ epoch) ∧
      ∀ place task, chronicle.performance.ready[place]? = some task →
        let after := chronicle.take (.turn place)
        (after.deliveries = chronicle.deliveries ∧
            after.stage.sprites = chronicle.stage.sprites ∧ after.stage.epoch = epoch) ∨
          task.epoch = epoch ∧ ∃ update,
            after.deliveries = chronicle.deliveries ++
              [⟨chronicle.performance.now, task.epoch, task.sprite, update⟩] ∧
            Stage.Touched task.sprite update chronicle.stage after.stage := by
  intro chronicle epoch
  have sound : chronicle.Sound := Sound.follow built moves
  refine ⟨sound.follow_keys, ?_, ?_, ?_, ?_⟩
  · intro task member
    exact sound.bounded task.key (List.mem_map_of_mem member)
  · intro id
    have counted := sound.single id
    rw [keys, List.count_eq_countP, List.countP_map, List.countP_eq_length_filter] at counted
    have same : ((fun key => key == (id, epoch)) ∘ Task.key) =
        fun task => decide (task.sprite = id ∧ task.epoch = epoch) := by
      funext task
      rw [Bool.eq_iff_iff]
      simp [Task.key]
    rw [← same]
    exact counted
  · intro resting task member
    exact sound.resting resting task.key (List.mem_map_of_mem member)
  · intro place task there
    exact sound.turn_touched there

/-- Two sprites that greet each other. -/
def greeters : Project :=
  let greeting : SpriteDefinition :=
    { name := none, x := none, y := none, direction := 90
      blocks := [⟨.sayFor, ⟨[("message", .string "hello")]⟩⟩] }
  { sprites := [greeting, greeting] }

/-- Both scripts of the first play are still in line while those of the second one have started. -/
theorem epoch_safety_greeters :
    ∃ stage, Stage.ofProject greeters true = .ok stage ∧
      let chronicle := (create stage).follow [.play, .turn 1, .turn 1, .stop, .play]
      chronicle.stage.epoch = 3 ∧ chronicle.tasks.map Task.epoch = [1, 1, 3, 3] ∧
        (∀ task ∈ chronicle.tasks, task.epoch ≤ chronicle.stage.epoch) ∧
        ∀ id, (chronicle.tasks.filter fun task =>
          task.sprite = id ∧ task.epoch = chronicle.stage.epoch).length ≤ 1 := by
  refine ⟨_, rfl, by decide +kernel, by decide +kernel, ?_, ?_⟩
  · exact (epoch_safety (rfl : Stage.ofProject greeters true = .ok _) _).2.1
  · exact (epoch_safety (rfl : Stage.ofProject greeters true = .ok _) _).2.2.1

end Chronicle

end SpriteStage
