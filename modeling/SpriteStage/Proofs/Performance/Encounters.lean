/-
Module: SpriteStage.Proofs.Performance.Encounters
Purpose: Proximity swaps in a performance. When a script of the current epoch moves its sprite, the
  sink shows the new pose on the board first (`apply`); then, if sprites that come close swap their
  scripts, the sprite swaps with the first one that it meets (`swap_if_close`), and all scripts
  start over in the next epoch. The tasks that ran before deliver nothing more.
Main exports: Chronicle.act_displays, Chronicle.Sound.follow_deliveries, Chronicle.Looks,
  Chronicle.SwapTurn, Chronicle.swaps_when_met
-/
import SpriteStage.Proofs.Performance.EventLog
import SpriteStage.Proofs.Stage.Encounter

namespace SpriteStage

/-- In the epoch of its script a new pose is shown, and then the sprite swaps if it meets
anybody. -/
theorem Stage.receive_pose {stage : Stage} {id : SpriteId} {mover : Sprite} {distance : Float}
    (found : stage.find? id = some mover) (swaps : stage.config.swapDistance = some distance)
    (pose : Pose) :
    stage.receive id stage.epoch (.pose pose) =
      (stage.showing { mover with pose }).swapIfClose id stage.epoch distance := by
  simp only [receive, ne_eq, not_true_eq_false, if_false, found, publish, replace, swaps]
  rfl

namespace Chronicle

/-- What the first script in line displays reaches the stage on which its first turn has been
noted. -/
theorem act_displays {chronicle : Chronicle} {task : Task} {others : List Task} {update : Update}
    {run : Run} (line : chronicle.performance.ready = task :: others)
    (shown : chronicle.performance.progress task = .displayed update run) :
    let acted := chronicle.acted task others
    chronicle.act = acted.goOn .swap (acted.performance.resume
      ((Performance.begin chronicle.stage task).receive task.sprite task.epoch update)) := by
  have config : (Performance.begin chronicle.stage task).config = chronicle.stage.config := by
    obtain ⟨notes, begun⟩ := Performance.begin_eq chronicle.stage task
    rw [begun]
  have epoch : (Performance.begin chronicle.stage task).epoch = chronicle.stage.epoch := by
    obtain ⟨notes, begun⟩ := Performance.begin_eq chronicle.stage task
    rw [begun]
  have comes := shown
  simp only [Performance.progress, ← config, ← epoch] at comes
  simp [act, Performance.act, line, comes, shown, acted, Progress.standing, Standing.leavers,
    Standing.line, Standing.waiters, Task.after, Progress.run, goOn]

/-- Deliveries are never taken back, and those that come later are of the current epoch or a later
one. -/
theorem Sound.follow_deliveries {chronicle : Chronicle} (sound : chronicle.Sound)
    (moves : List Move) :
    ∃ later, (chronicle.follow moves).deliveries = chronicle.deliveries ++ later ∧
      ∀ delivery ∈ later, chronicle.stage.epoch ≤ delivery.epoch := by
  have kept := follow_induction (fun after => after.Sound ∧
    chronicle.stage.epoch ≤ after.stage.epoch ∧
    ∃ later, after.deliveries = chronicle.deliveries ++ later ∧
      ∀ delivery ∈ later, chronicle.stage.epoch ≤ delivery.epoch) ?_ moves chronicle
    ⟨sound, Nat.le_refl _, [], (List.append_nil _).symm, by simp⟩
  · exact kept.2.2
  · rintro after move ⟨soundAfter, reached, later, handed, dated⟩
    obtain ⟨told, _, change⟩ := soundAfter.take_tells move
    have grows : after.stage.epoch ≤ (after.take move).stage.epoch :=
      Nat.le.intro change.epoch_eq.symm
    refine ⟨soundAfter.take move, Nat.le_trans reached grows, ?_⟩
    cases move with
    | amend | play | stop | clock => exact ⟨later, handed, dated⟩
    | turn place =>
        obtain ⟨_, ⟨_, nothing⟩ | ⟨task, _, current, update, _, delivered⟩⟩ := after.turn_stage place
        · exact ⟨later, nothing.trans handed, dated⟩
        · rw [delivered, handed, List.append_assoc]
          refine ⟨_, rfl, ?_⟩
          intro delivery member
          rcases List.mem_append.mp member with old | new
          · exact dated delivery old
          · rw [List.mem_singleton.mp new]
            exact current ▸ reached

/-- The stage on which a script has shown a new pose of its sprite, and has not yet looked for a
partner. -/
def shownTo (chronicle : Chronicle) (task : Task) (live : Sprite) : Stage :=
  (Performance.begin chronicle.stage task).showing live

/-- It is in the same epoch as before, with the same roster. -/
theorem shownTo_kept (chronicle : Chronicle) (task : Task) (live : Sprite) :
    let board := chronicle.shownTo task live
    board.epoch = chronicle.stage.epoch ∧ board.config = chronicle.stage.config ∧
      board.ids = chronicle.stage.ids := by
  obtain ⟨notes, begun⟩ := Performance.begin_eq chronicle.stage task
  simp only [shownTo, begun]
  exact ⟨rfl, rfl, Stage.replace_ids _ _⟩

theorem shownTo_find? {chronicle : Chronicle} {task : Task} {mover live : Sprite}
    (found : chronicle.stage.find? task.sprite = some mover) (same : live.id = task.sprite) :
    (chronicle.shownTo task live).find? task.sprite = some live := by
  obtain ⟨notes, begun⟩ := Performance.begin_eq chronicle.stage task
  rw [shownTo, begun]
  have there : ({ chronicle.stage with notes } : Stage).find? task.sprite = some mover := found
  exact Stage.find?_replace there same

/-- With the turn of a script that moves its sprite, the stage goes on from the new pose. -/
theorem Sound.turn_swaps {chronicle : Chronicle} (sound : chronicle.Sound) {place : Nat} {task : Task}
    {pose : Pose} {run : Run} {mover : Sprite} {distance : Float}
    (there : chronicle.performance.ready[place]? = some task)
    (shown : chronicle.performance.progress task = .displayed (.pose pose) run)
    (found : chronicle.stage.find? task.sprite = some mover)
    (swaps : chronicle.stage.config.swapDistance = some distance) :
    let result := (chronicle.shownTo task { mover with pose }).swapIfClose task.sprite task.epoch
      distance
    let after := chronicle.take (.turn place)
    after.stage = result.1 ∧
      (chronicle.stage.Begins result.1 → after.performance.waiting = [] ∧
        ∃ line, after.performance.ready = line ++ result.2.map (Task.launch result.1.epoch) ∧
          ∀ other ∈ line, other.epoch ≤ chronicle.stage.epoch) := by
  intro result after
  have current : task.epoch = chronicle.stage.epoch := Performance.epoch_eq_of_displayed shown
  let called : Chronicle := { chronicle with performance := chronicle.performance.callUp place }
  have calledSound : called.Sound := sound.callUp place
  have called_eq : called.performance =
      { chronicle.performance with
        ready := task :: chronicle.performance.ready.eraseIdx place } := by
    simp only [called, Performance.callUp, there]
  have line : called.performance.ready = task :: chronicle.performance.ready.eraseIdx place := by
    rw [called_eq]
  have calledStage : called.stage = chronicle.stage := by
    rw [Chronicle.stage, called_eq]
  have calledShown : called.performance.progress task = .displayed (.pose pose) run := by
    rw [called_eq]
    exact shown
  have received : (Performance.begin called.stage task).receive task.sprite task.epoch (.pose pose) =
      result := by
    obtain ⟨notes, begun⟩ := Performance.begin_eq chronicle.stage task
    have known : ({ chronicle.stage with notes } : Stage).find? task.sprite = some mover := found
    simp only [result, shownTo, calledStage, begun, current]
    exact Stage.receive_pose known swaps pose
  have acts := act_displays line calledShown
  rw [received] at acts
  have follows : after = called.act := rfl
  rw [follows, acts]
  refine ⟨rfl, ?_⟩
  intro begins
  have acted := calledSound.acted line
  have next : (called.acted task (chronicle.performance.ready.eraseIdx place)).stage.Begins result.1 := by
    show called.stage.Begins result.1
    rw [calledStage]
    exact begins
  rw [acted.goOn_begins next]
  refine ⟨rfl, _, rfl, ?_⟩
  intro other member
  have known : other.key ∈ (called.acted task (chronicle.performance.ready.eraseIdx place)).keys := by
    apply List.mem_map_of_mem
    exact List.mem_append_left _ member
  rw [← calledStage]
  exact acted.bounded other.key known

/-- What comes of a sprite's looking for a partner on a board, for a script of some epoch and within
some distance. -/
structure Looks (board : Stage) (id : SpriteId) (live : Sprite) (epoch : Nat) (distance : Float) :
    Prop where
  /-- The sprite swaps if and only if the epoch of the script lasts and the sprite meets another
  one, which is close and has not swapped with it in this play. -/
  acts : (board.swapIfClose id epoch distance).1.epoch ≠ board.epoch ↔
    board.epoch = epoch ∧ ∃ other ∈ board.sprites, board.Meets live distance other
  /-- It swaps with the first sprite of the roster that it meets: the two exchange their blocks, the
  next epoch begins, and all else stays as it is. -/
  exchanges : (board.swapIfClose id epoch distance).1.epoch ≠ board.epoch →
    ∃ front partner back, board.sprites = front ++ partner :: back ∧
      (∀ other ∈ front, ¬board.Meets live distance other) ∧ board.Meets live distance partner ∧
      board.Exchanged live partner (board.swapIfClose id epoch distance).1
        (board.swapIfClose id epoch distance).2
  /-- If it does not swap, nothing changes and no script starts. -/
  leaves : (board.swapIfClose id epoch distance).1.epoch = board.epoch →
    board.swapIfClose id epoch distance = (board, [])
  /-- Nothing is close across an undefined distance, or within one. -/
  undefined : ∀ other, (live.pose.distance other.pose).isNaN = true ∨ distance.isNaN = true →
    ¬board.Meets live distance other

/-- What the turn of a script comes to that has shown a new pose of its sprite on a board, if
sprites that come close swap. -/
structure SwapTurn (chronicle : Chronicle) (place : Nat) (task : Task) (board : Stage)
    (distance : Float) : Prop where
  /-- The epoch of the script lasts, and the stage is left as looking for a partner leaves the
  board. -/
  current : task.epoch = board.epoch
  stage : (chronicle.take (.turn place)).stage =
    (board.swapIfClose task.sprite task.epoch distance).1
  /-- After a swap nobody waits. -/
  awake : (board.swapIfClose task.sprite task.epoch distance).1.epoch ≠ board.epoch →
    (chronicle.take (.turn place)).performance.waiting = []
  /-- The scripts that start stand at the end of the line, and everybody else is of an earlier
  epoch. -/
  starts : (board.swapIfClose task.sprite task.epoch distance).1.epoch ≠ board.epoch →
    ∃ line, (chronicle.take (.turn place)).performance.ready =
        line ++ (board.swapIfClose task.sprite task.epoch distance).2.map
          (Task.launch (task.epoch + 1)) ∧
      ∀ other ∈ line, other.epoch ≤ task.epoch
  /-- Whatever is done then, nobody of an earlier epoch delivers anything more. -/
  silences : (board.swapIfClose task.sprite task.epoch distance).1.epoch ≠ board.epoch →
    ∀ more, ∃ later, ((chronicle.take (.turn place)).follow more).deliveries =
        (chronicle.take (.turn place)).deliveries ++ later ∧
      ∀ delivery ∈ later, task.epoch < delivery.epoch

/-- When a script has shown a new pose of its sprite, the sprite looks for a partner as described,
for whatever epoch and distance. If the stage lets sprites swap that come close, that is what comes
of the turn of the script, and after a swap all scripts start over. -/
theorem swaps_when_met {project : Project} {hosted : Bool} {stage : Stage}
    (built : Stage.ofProject project hosted = .ok stage) (moves : List Move) {place : Nat}
    {task : Task} {pose : Pose} {run : Run} {mover : Sprite} :
    let chronicle := (create stage).follow moves
    chronicle.performance.ready[place]? = some task →
    chronicle.performance.progress task = .displayed (.pose pose) run →
    chronicle.stage.find? task.sprite = some mover →
    let live := { mover with pose }
    let board := chronicle.shownTo task live
    (∀ epoch distance, Looks board task.sprite live epoch distance) ∧
      ∀ distance, chronicle.stage.config.swapDistance = some distance →
        chronicle.SwapTurn place task board distance := by
  intro chronicle there shown found live board
  have sound : chronicle.Sound := Sound.follow built moves
  obtain ⟨boardEpoch, boardConfig, boardIds⟩ := chronicle.shownTo_kept task live
  have numbered : board.Numbered := sound.numbered.of_ids_eq boardIds
  have moverId := Stage.find?_id found
  have own : live.id = task.sprite := moverId
  have present : board.find? task.sprite = some live := shownTo_find? found own
  have lasts : task.epoch = chronicle.stage.epoch := Performance.epoch_eq_of_displayed shown
  have current : task.epoch = board.epoch := lasts.trans boardEpoch.symm
  refine ⟨?_, ?_⟩
  · intro epoch distance
    obtain ⟨acts, meeting, alone⟩ := numbered.swapIfClose_acts present epoch distance
    exact ⟨acts, meeting, alone, fun other undefined => Stage.not_meets_of_isNaN undefined⟩
  · intro distance swaps
    obtain ⟨stageAfter, starts⟩ := sound.turn_swaps there shown found swaps
    have swapped : (board.swapIfClose task.sprite task.epoch distance).1.epoch ≠ board.epoch →
        (board.swapIfClose task.sprite task.epoch distance).1.epoch = task.epoch + 1 ∧
          chronicle.stage.Begins (board.swapIfClose task.sprite task.epoch distance).1 := by
      intro changed
      obtain ⟨_, partner, _, _, _, _, exchanged⟩ :=
        (numbered.swapIfClose_acts present task.epoch distance).2.1 changed
      have next := exchanged.epoch
      rw [← current] at next
      exact ⟨next, exchanged.config.trans boardConfig, next.trans (by rw [lasts]),
        exchanged.ids.trans boardIds⟩
    refine ⟨current, stageAfter, fun changed => (starts (swapped changed).2).1, ?starts, ?silences⟩
    case starts =>
      intro changed
      obtain ⟨next, begins⟩ := swapped changed
      obtain ⟨_, line, inLine, earlier⟩ := starts begins
      exact ⟨line, by rw [inLine, next], fun other member => lasts ▸ earlier other member⟩
    case silences =>
      intro changed more
      have soundAfter := sound.take (.turn place)
      obtain ⟨later, handed, dated⟩ := soundAfter.follow_deliveries more
      refine ⟨later, handed, ?_⟩
      intro delivery member
      have reached := dated delivery member
      rw [stageAfter, (swapped changed).1] at reached
      exact reached

/-- In a visit the first sprite jumps next to the second one, meets it, and swaps with it. -/
theorem swaps_when_met_visit :
    ∃ stage, Stage.ofProject neighbours true = .ok stage ∧
      let chronicle := (create stage).follow [.play]
      ∃ task pose run mover, chronicle.performance.ready[0]? = some task ∧
        chronicle.performance.progress task = .displayed (.pose pose) run ∧
        chronicle.stage.find? task.sprite = some mover ∧
        chronicle.stage.config.swapDistance = some 30 ∧
        let live := { mover with pose }
        let board := chronicle.shownTo task live
        let after := chronicle.take (.turn 0)
        ∃ partner, board.Meets live 30 partner ∧
          (∃ scripts, board.Exchanged live partner after.stage scripts) ∧
          after.performance.waiting = [] := by
  obtain ⟨stage, built⟩ : ∃ stage, Stage.ofProject neighbours true = .ok stage := ⟨_, rfl⟩
  have whole : stage = neighbours.sprites.foldl Stage.addDefinedSprite (.bare neighbours.config) :=
    (Except.ok.inj built).symm
  obtain ⟨task, there⟩ : ∃ task,
      ((create stage).follow [.play]).performance.ready[0]? = some task := by
    subst whole
    exact ⟨_, rfl⟩
  obtain ⟨pose, run, shown⟩ : ∃ pose run,
      ((create stage).follow [.play]).performance.progress task = .displayed (.pose pose) run := by
    subst whole
    cases there
    exact ⟨_, _, rfl⟩
  obtain ⟨mover, found⟩ : ∃ mover,
      ((create stage).follow [.play]).stage.find? task.sprite = some mover := by
    subst whole
    cases there
    exact ⟨_, rfl⟩
  have swaps : ((create stage).follow [.play]).stage.config.swapDistance = some 30 := by
    subst whole
    rfl
  obtain ⟨looks, turns⟩ := swaps_when_met built [.play] there shown found
  have turn := turns 30 swaps
  have changed : (((create stage).follow [.play]).take (.turn 0)).stage.epoch = 2 ∧
      ((create stage).follow [.play]).stage.epoch = 1 := by
    subst whole
    decide +kernel
  have epochs := (((create stage).follow [.play]).shownTo_kept task { mover with pose }).1
  rw [turn.stage, ← epochs] at changed
  have swapped := (Nat.ne_of_lt Nat.one_lt_two).symm
  rw [← changed.1, ← changed.2] at swapped
  obtain ⟨_, partner, _, _, _, meets, exchanged⟩ := (looks task.epoch 30).exchanges swapped
  exact ⟨stage, built, task, pose, run, mover, there, shown, found, swaps, partner, meets,
    ⟨_, turn.stage ▸ exchanged⟩, turn.awake swapped⟩

end Chronicle

end SpriteStage
