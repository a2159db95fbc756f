/-
Module: SpriteStage.Proofs.Performance.Effort
Purpose: How much a performance can do before time has to pass. Every task in line with a current
  token can do what is left to it, every other one can only end, and a task that waits can at most
  be made to end; beyond that there are the scripts that swaps may start, all of them anew for each
  pair that has not swapped yet. Every turn uses up some of this effort, and the effort never
  exceeds a burden that neither turns nor the clock make any heavier.
Main exports: Stage.encore, Stage.reserve, Task.effort, Performance.effort, Performance.burden,
  Performance.effort_le_burden, Chronicle.Settles.effort_le, Chronicle.Timely,
  Chronicle.Sound.take_timely, Chronicle.Sound.turn_effort
-/
import Mathlib.Algebra.BigOperators.Group.List.Basic
import Mathlib.Algebra.Order.BigOperators.Group.List
import Mathlib.Algebra.Order.Group.Nat
import Mathlib.Algebra.Ring.Nat
import SpriteStage.Proofs.Performance.Alterations
import SpriteStage.Proofs.Performance.Running
import SpriteStage.Proofs.Performance.SwapsOnce
import SpriteStage.Proofs.Script.Effort
import SpriteStage.Proofs.Stage.Holdings

namespace SpriteStage

/-! ## Acts of blocks and scripts -/

theorem passActs_eq_sum (config : Config) (blocks : List Block) :
    passActs config blocks = (blocks.map (Block.acts config)).sum + 1 := by
  induction blocks with
  | nil => rfl
  | cons block rest more => rw [passActs, more, List.map_cons, List.sum_cons, Nat.add_assoc]

theorem Performance.actsOf_eq_sum (config : Config) (scripts : List (List Block)) :
    actsOf config scripts = (scripts.map (scriptActs config)).sum := by
  induction scripts with
  | nil => rfl
  | cons blocks rest more =>
      rw [List.map_cons, List.sum_cons, ← more]
      rfl

namespace Stage

/-- How many acts the scripts of all sprites can do when they start, before time has to pass. -/
def encore (stage : Stage) : Nat :=
  Performance.actsOf stage.config (stage.sprites.map Sprite.blocks)

/-- How many acts can come from swaps before time has to pass: with each swap all scripts start
anew. -/
def reserve (stage : Stage) : Nat :=
  (stage.sprites.length * stage.sprites.length - stage.swapped.length) * stage.encore

/-- It depends on the blocks of the stage and not on who holds them. -/
theorem encore_eq (stage : Stage) :
    stage.encore =
      2 * (stage.held.map (Block.acts stage.config)).sum + 4 * stage.sprites.length := by
  rw [encore, Performance.actsOf_eq_sum, held]
  induction stage.sprites with
  | nil => rfl
  | cons sprite rest more =>
      simp only [List.map_cons, List.sum_cons, List.flatMap_cons, List.map_append, List.sum_append,
        List.length_cons, more, scriptActs, passActs_eq_sum]
      omega

theorem encore_of_perm {before after : Stage} (config : after.config = before.config)
    (count : after.sprites.length = before.sprites.length) (held : after.held.Perm before.held) :
    after.encore = before.encore := by
  rw [encore_eq, encore_eq, config, count, (held.map (Block.acts before.config)).sum_eq]

/-- The scripts that start when an epoch begins are among those of all sprites. -/
theorem snapshots_acts_le (stage : Stage) :
    (stage.snapshots.map fun script => scriptActs stage.config script.blocks).sum ≤ stage.encore := by
  rw [encore, Performance.actsOf_eq_sum, snapshots, List.map_map, List.map_map]
  exact (List.filter_sublist.map _).sum_le_sum fun _ _ => Nat.zero_le _

/-- An update of a script leaves the sprites their blocks, and a swap hands them on. -/
theorem Numbered.receive_encore {stage : Stage} (numbered : stage.Numbered) (id : SpriteId)
    (update : Update) :
    (stage.receive id stage.epoch update).1.sprites.length = stage.sprites.length ∧
      (stage.receive id stage.epoch update).1.encore = stage.encore := by
  have config : (stage.receive id stage.epoch update).1.config = stage.config := by
    rcases stage.receive_steady_or_begins id update with ⟨after, made, steady⟩ | ⟨after, made, begins, _⟩
    · rw [made]
      exact steady.config
    · rw [made]
      exact begins.config
  have count : (stage.receive id stage.epoch update).1.sprites.length = stage.sprites.length := by
    obtain ⟨blocks, sprites⟩ := numbered.receive_alters id update
    rw [sprites, List.append_nil, List.length_map]
  exact ⟨count, encore_of_perm config count (numbered.receive_books id update).held_perm⟩

/-- An update of a script leaves the epoch and the pairs that have swapped as they are, or begins
the next epoch with one more pair. -/
theorem receive_swapped (stage : Stage) (id : SpriteId) (update : Update) :
    let after := (stage.receive id stage.epoch update).1
    (after.epoch = stage.epoch ∧ after.swapped = stage.swapped) ∨
      (after.epoch = stage.epoch + 1 ∧ after.swapped.length = stage.swapped.length + 1) := by
  intro after
  rcases stage.receive_cases id update with ⟨_, same⟩ | ⟨sprite, _, changed | swaps⟩
  · exact Or.inl (by simp [after, same])
  · exact Or.inl (by simp [after, changed, showing, publish, replace])
  · obtain ⟨partner, _, _, _, swapped⟩ := swaps
    right
    simp only [after, swapped]
    exact ⟨rfl, rfl⟩

/-- If no more pairs have swapped than there can be, a swap takes from the reserve what its scripts
can do. -/
theorem Numbered.receive_reserve {stage : Stage} (numbered : stage.Numbered) (id : SpriteId)
    (update : Update)
    (room : (stage.receive id stage.epoch update).1.swapped.length ≤
      stage.sprites.length * stage.sprites.length) :
    let after := (stage.receive id stage.epoch update).1
    (after.epoch = stage.epoch ∧ after.reserve = stage.reserve) ∨
      (after.epoch = stage.epoch + 1 ∧ after.reserve + after.encore = stage.reserve) := by
  intro after
  obtain ⟨count, encore⟩ := numbered.receive_encore id update
  rcases stage.receive_swapped id update with ⟨epoch, swapped⟩ | ⟨epoch, swapped⟩
  · exact Or.inl ⟨epoch, by rw [reserve, count, swapped, encore, reserve]⟩
  · -- Without room for the pair the subtraction would be cut off, and the reserve would pay nothing.
    refine Or.inr ⟨epoch, ?_⟩
    rw [swapped] at room
    have one : stage.sprites.length * stage.sprites.length - stage.swapped.length =
        stage.sprites.length * stage.sprites.length - (stage.swapped.length + 1) + 1 := by
      omega
    rw [reserve, count, swapped, encore, reserve, one, Nat.succ_mul]

end Stage

/-! ## The effort of a performance -/

/-- How many acts a script in line can do before time has to pass, its end included. A script that
no longer counts ends with its next act. -/
def Task.effort (stage : Stage) (task : Task) : Nat :=
  if task.epoch = stage.epoch then task.run.actsLeft stage.config + 1 else 1

namespace Task

theorem effort_pos (stage : Stage) (task : Task) : 1 ≤ task.effort stage := by
  unfold Task.effort
  split
  · exact Nat.le_add_left _ _
  · exact Nat.le_refl _

theorem effort_of_stale {stage : Stage} {task : Task} (stale : task.epoch ≠ stage.epoch) :
    task.effort stage = 1 :=
  if_neg stale

/-- A script can do no more than what its blocks take. -/
theorem effort_le {stage : Stage} {task : Task}
    (fits : task.run.Fits stage.config task.blocks) :
    task.effort stage ≤ scriptActs stage.config task.blocks := by
  have bound := fits.actsLeft_lt
  unfold Task.effort
  split <;> omega

/-- Scripts that no longer count have one act each. -/
theorem sum_effort_of_stale {stage : Stage} {tasks : List Task}
    (stale : ∀ task ∈ tasks, task.epoch ≠ stage.epoch) :
    (tasks.map (Task.effort stage)).sum = tasks.length := by
  have ones : tasks.map (Task.effort stage) = tasks.map fun _ => 1 :=
    List.map_congr_left fun task member => effort_of_stale (stale task member)
  rw [ones]
  simp

theorem length_le_sum_effort (stage : Stage) (tasks : List Task) :
    tasks.length ≤ (tasks.map (Task.effort stage)).sum := by
  rw [← List.length_map (Task.effort stage)]
  apply List.length_le_sum_of_one_le
  intro effort member
  obtain ⟨task, _, rfl⟩ := List.mem_map.mp member
  exact task.effort_pos stage

/-- Scripts that start can do no more than what their blocks take. -/
theorem sum_effort_launch_le (stage : Stage) (scripts : List Script) :
    ((scripts.map (Task.launch stage.epoch)).map (Task.effort stage)).sum ≤
      (scripts.map fun script => scriptActs stage.config script.blocks).sum := by
  rw [List.map_map]
  apply List.sum_le_sum
  intro script _
  exact effort_le (Run.start_fits stage.config script.pose script.blocks)

end Task

namespace Performance

/-- How many acts a performance can do before time has to pass. -/
def effort (performance : Performance) : Nat :=
  (performance.ready.map (Task.effort performance.stage)).sum + performance.waiting.length +
    performance.stage.reserve

/-- What all scripts that run, and those that swaps may start, can do if they all have their
turn. -/
def burden (performance : Performance) : Nat :=
  actsOf performance.stage.config (performance.running.map Task.blocks) + performance.stage.reserve

/-- The burden is within what is reckoned with. -/
theorem burden_le (performance : Performance) : performance.burden ≤ performance.actsAtOnce :=
  Nat.add_le_add_left (Nat.mul_le_mul_right _ (Nat.sub_le _ _)) _

/-- The burden depends on who runs, and not on whether they wait. -/
theorem burden_of_perm {before after : Performance} (stage : after.stage = before.stage)
    (running : after.running.Perm before.running) : after.burden = before.burden := by
  have same := (running.map Task.blocks).map (scriptActs before.stage.config)
  rw [burden, burden, stage, actsOf_eq_sum, actsOf_eq_sum, same.sum_eq]

/-- The order of the line makes no difference to what a performance can do. -/
theorem callUp_effort (performance : Performance) (place : Nat) :
    (performance.callUp place).effort = performance.effort := by
  have ordered := performance.callUp_perm place
  rw [callUp_eq]
  simp only [effort]
  rw [(ordered.map (Task.effort performance.stage)).sum_eq]

/-- A performance can do no more than its burden. -/
theorem effort_le_burden {performance : Performance}
    (fits : ∀ task ∈ performance.running, task.run.Fits performance.stage.config task.blocks) :
    performance.effort ≤ performance.burden := by
  have inLine : (performance.ready.map (Task.effort performance.stage)).sum ≤
      (performance.ready.map fun task => scriptActs performance.stage.config task.blocks).sum := by
    apply List.sum_le_sum
    intro task member
    exact Task.effort_le (fits task (List.mem_append_left _ member))
  have waits : performance.waiting.length ≤
      (performance.waiting.map fun waiter =>
        scriptActs performance.stage.config waiter.task.blocks).sum := by
    rw [← List.length_map fun waiter : Waiter =>
      scriptActs performance.stage.config waiter.task.blocks]
    apply List.length_le_sum_of_one_le
    intro acts member
    obtain ⟨waiter, _, rfl⟩ := List.mem_map.mp member
    exact Nat.le_add_left 1 _
  rw [burden, actsOf_eq_sum, running, List.map_append, List.map_append, List.sum_append,
    List.map_map, List.map_map, List.map_map]
  exact Nat.add_le_add_right (Nat.add_le_add inLine waits) _

end Performance

/-! ## What scripts spend -/

/-- A script that counts and stays in line has less left to do than before. -/
theorem Run.Fits.actsLeft_of_inLine {config : Config} {blocks : List Block} {run : Run} {now : Nat}
    (fits : run.Fits config blocks) (timed : 1 ≤ config.frameInterval)
    (inLine : (run.proceed config true true).standing now = .inLine) :
    ((run.proceed config true true).run run).actsLeft config < run.actsLeft config := by
  rcases run.proceed_eq config with ⟨_, finished⟩ | ⟨act, later, next, goes⟩
  · rw [finished] at inLine
    cases inLine
  · have spent := fits.spends timed next
    rw [goes] at inLine ⊢
    cases act with
    | check | skip | display =>
        rcases spent with ⟨_, same, _⟩ | same | less
        · cases same
        · cases same
        · exact less
    | pause length =>
        dsimp only at inLine ⊢
        split
        · rename_i none
          rcases spent with ⟨_, same, takesTime⟩ | same | less
          · cases same
            omega
          · cases same
          · exact less
        · rename_i takesTime
          rw [if_neg takesTime] at inLine
          cases inLine
    | rest => cases inLine

namespace Chronicle

variable {chronicle : Chronicle}

/-- Whoever has acted can do less than before, whether it stays in line or waits. -/
theorem spends_turn {task : Task} (timed : 1 ≤ chronicle.stage.config.frameInterval)
    (fits : task.run.Fits chronicle.stage.config task.blocks) :
    let progress := chronicle.performance.progress task
    let standing := progress.standing chronicle.performance.now
    ((standing.line (task.after progress)).map (Task.effort chronicle.stage)).sum +
        (standing.waiters (task.after progress)).length <
      task.effort chronicle.stage := by
  intro progress standing
  by_cases current : task.epoch = chronicle.stage.epoch
  · have counts : progress = task.run.proceed chronicle.stage.config true true := by
      simp [progress, Performance.progress, current]
    have before : task.effort chronicle.stage = task.run.actsLeft chronicle.stage.config + 1 :=
      if_pos current
    have after : (task.after progress).effort chronicle.stage =
        (progress.run task.run).actsLeft chronicle.stage.config + 1 := if_pos current
    cases stands : standing with
    | inLine =>
        have inLine : progress.standing chronicle.performance.now = .inLine := stands
        rw [counts] at inLine
        have less := fits.actsLeft_of_inLine timed inLine
        rw [← counts] at less
        simp only [Standing.line, Standing.waiters, List.map_singleton, List.sum_singleton,
          List.length_nil, Nat.add_zero, before, after]
        exact Nat.succ_lt_succ less
    | waiting wake =>
        rw [before]
        exact Nat.succ_lt_succ (task.run.actsLeft_pos _)
    | ended => exact Task.effort_pos _ _
  · obtain ⟨outcome, ended⟩ := Performance.progress_of_stale current
    have stands : standing = .ended := by
      simp only [standing, progress, ended]
      rfl
    rw [Task.effort_of_stale current, stands]
    exact Nat.zero_lt_one

/-- When a script has made its progress, there is less to do, and the burden is no heavier. -/
theorem acted_effort (timed : 1 ≤ chronicle.stage.config.frameInterval) {task : Task}
    {others : List Task} (line : chronicle.performance.ready = task :: others)
    (fits : task.run.Fits chronicle.stage.config task.blocks) :
    (chronicle.acted task others).performance.effort < chronicle.performance.effort ∧
      (chronicle.acted task others).performance.burden ≤ chronicle.performance.burden := by
  constructor
  · have spent := spends_turn timed fits
    simp only [stage] at spent
    simp only [Performance.effort, acted, line, List.map_append, List.sum_append, List.length_append,
      List.map_cons, List.sum_cons]
    omega
  · simp only [Performance.burden, Performance.running, Performance.actsOf_eq_sum, acted, line]
    apply Nat.add_le_add_right
    cases (chronicle.performance.progress task).standing chronicle.performance.now with
    | inLine => simp [Standing.line, Standing.waiters, Task.after]
    | waiting wake =>
        simp [Standing.line, Standing.waiters, Task.after]
        omega
    | ended => simp [Standing.line, Standing.waiters]

/-- On another stage of the same epoch there is as much to do as before. -/
theorem onStage_effort {stage : Stage} (steady : chronicle.stage.Steady stage)
    (same : stage.reserve = chronicle.stage.reserve) :
    (chronicle.onStage stage).performance.effort = chronicle.performance.effort ∧
      (chronicle.onStage stage).performance.burden = chronicle.performance.burden := by
  have alike : Task.effort stage = Task.effort chronicle.stage := by
    funext task
    rw [Task.effort, Task.effort, steady.epoch, steady.config]
  constructor
  · simp only [Performance.effort, onStage, Performance.edited, same, alike]
  · simp only [Performance.burden, onStage, Performance.edited, Performance.running, same,
      steady.config]

/-- When an epoch begins with scripts taken from the reserve, there is no more to do than before;
for all that ran by then can only end. -/
theorem Sound.opened_effort (sound : chronicle.Sound) {cause : Cause} {stage : Stage}
    {scripts : List Script} (begins : chronicle.stage.Begins stage)
    (starts : (scripts.map fun script => scriptActs stage.config script.blocks).sum + stage.reserve ≤
      chronicle.stage.reserve) :
    (chronicle.opened cause stage scripts).performance.effort ≤ chronicle.performance.effort ∧
      (chronicle.opened cause stage scripts).performance.burden ≤ chronicle.performance.burden := by
  constructor
  · -- Whoever ran until now, in line or waiting, has one act left, so only the new scripts weigh more.
    have stale : ∀ task ∈ chronicle.performance.running, task.epoch ≠ stage.epoch := by
      intro task runs current
      have bounded := sound.bounded task.key (List.mem_map_of_mem (mem_tasks_of_running runs))
      have same : task.key.2 = chronicle.stage.epoch + 1 := current.trans begins.epoch
      omega
    have inLine := Task.sum_effort_of_stale fun task member => stale task (List.mem_append_left _ member)
    have waiting := Task.sum_effort_of_stale fun task member => stale task (List.mem_append_right _ member)
    have ready := Task.length_le_sum_effort chronicle.performance.stage chronicle.performance.ready
    have new := Task.sum_effort_launch_le stage scripts
    rw [List.length_map] at waiting
    simp only [Performance.effort, Chronicle.opened, List.map_append, List.sum_append,
      List.length_nil, inLine, waiting]
    simp only [Chronicle.stage] at starts
    omega
  · simp only [Performance.burden, Chronicle.opened, Performance.running, Performance.actsOf_eq_sum,
      List.map_append, List.sum_append, List.map_nil, List.sum_nil, List.map_map, Function.comp_def,
      Task.launch, begins.config, Chronicle.stage] at starts ⊢
    omega

/-- When the stage settles there is no more to do than before, if a new epoch is paid for by the
reserve. -/
theorem Settles.effort_le {before after : Chronicle} (settles : before.Settles after)
    (sound : before.Sound)
    (reserve : (after.stage.epoch = before.stage.epoch ∧ after.stage.reserve = before.stage.reserve) ∨
      (after.stage.epoch = before.stage.epoch + 1 ∧
        after.stage.reserve + after.stage.encore = before.stage.reserve)) :
    after.performance.effort ≤ before.performance.effort ∧
      after.performance.burden ≤ before.performance.burden := by
  cases settles with
  | steady steady =>
      rcases reserve with ⟨_, same⟩ | ⟨epoch, _⟩
      · exact (onStage_effort steady same).imp Nat.le_of_eq Nat.le_of_eq
      · exact absurd (steady.epoch.symm.trans epoch) (Nat.ne_of_lt (Nat.lt_succ_self _))
  | @opens cause stage scripts begins starts =>
      rcases reserve with ⟨epoch, _⟩ | ⟨_, taken⟩
      · exact absurd (begins.epoch.symm.trans epoch) (Nat.succ_ne_self _)
      · apply sound.opened_effort begins
        have starting : (scripts.map fun script => scriptActs stage.config script.blocks).sum ≤
            stage.encore := by
          rcases starts with ⟨rfl, _⟩ | ⟨rfl, _⟩
          · exact stage.snapshots_acts_le
          · exact Nat.zero_le _
        have paid : stage.reserve + stage.encore = before.stage.reserve := taken
        omega

end Chronicle

/-! ## Effort over moves -/

namespace Performance

/-- Nobody who waits wakes up by a time. -/
def Asleep (performance : Performance) (time : Nat) : Prop :=
  ∀ waiter ∈ performance.waiting, ∀ wake, waiter.wake = some wake → time < wake

/-- Who begins to wait at its turn wakes up later, if at all. -/
theorem lt_of_waiter {performance : Performance} {task : Task} {waiter : Waiter} {wake : Nat}
    (member : waiter ∈ ((performance.progress task).standing performance.now).waiters
      (task.after (performance.progress task)))
    (wakes : waiter.wake = some wake) : performance.now < wake := by
  have comes : task.run.ComesTo performance.stage.config (performance.progress task) :=
    task.run.proceed_comesTo _ _ _
  generalize performance.progress task = progress at comes member
  cases comes with
  | waiting next takesTime =>
      rw [List.mem_singleton.mp member, Option.some.injEq] at wakes
      omega
  | resting =>
      rw [List.mem_singleton.mp member] at wakes
      cases wakes
  | ended | passed | skipped | displayed => cases member

end Performance

namespace Chronicle

variable {chronicle : Chronicle}

/-- What is so of every chronicle if every frame takes time: scripts fit their blocks, nobody waits
for a time that has come, and the pairs that have swapped are pairs of sprites. -/
structure Timely (chronicle : Chronicle) : Prop where
  timed : 1 ≤ chronicle.stage.config.frameInterval
  fits : ∀ task ∈ chronicle.performance.running, task.run.Fits chronicle.stage.config task.blocks
  asleep : chronicle.performance.Asleep chronicle.performance.now
  paired : chronicle.stage.scene.Paired

theorem Timely.create {stage : Stage} (timed : 1 ≤ stage.config.frameInterval)
    (unswapped : stage.swapped = []) : (create stage).Timely where
  timed := timed
  fits := by simp
  asleep := by simp [Chronicle.create, Performance.create, Performance.Asleep]
  paired := .of_none unswapped

/-- When the stage settles, nobody has come to wait for a time that has come. -/
theorem Settles.asleep {before after : Chronicle} (settles : before.Settles after)
    (asleep : before.performance.Asleep before.performance.now) :
    after.performance.Asleep after.performance.now := by
  obtain ⟨now, waiting⟩ := settles.waiting
  rw [now]
  exact fun waiter member => asleep waiter (waiting member)

namespace Sound

/-- Whatever move comes next, nobody waits for a time that has come. -/
theorem take_asleep (sound : chronicle.Sound)
    (asleep : chronicle.performance.Asleep chronicle.performance.now) (move : Move) :
    (chronicle.take move).performance.Asleep (chronicle.take move).performance.now := by
  cases move with
  | amend amendment => exact asleep
  | play => exact sound.play_settles.asleep asleep
  | stop => exact sound.stop_settles.asleep asleep
  | clock time =>
      intro waiter member wake wakes
      have late := (List.mem_filter.mp member).2
      simp only [Performance.isDue, wakes, Option.any_some, Bool.not_eq_true',
        decide_eq_false_iff_not] at late
      exact Nat.lt_of_not_le late
  | turn place =>
      have called := sound.callUp place
      simp only [Chronicle.take]
      rw [Performance.callUp_eq] at called ⊢
      generalize (chronicle.performance.callUp place).ready = ready at called
      cases ready with
      | nil =>
          rw [act_nil rfl]
          exact asleep
      | cons task others =>
          apply (called.act_settles rfl).asleep
          intro waiter member wake wakes
          rcases List.mem_append.mp member with old | new
          · exact asleep waiter old wake wakes
          · exact Performance.lt_of_waiter new wakes

/-- Whatever move comes next, the chronicle stays timely. -/
theorem take_timely (sound : chronicle.Sound) (timely : chronicle.Timely) (move : Move) :
    (chronicle.take move).Timely where
  timed := by
    rw [sound.take_config move]
    exact timely.timed
  fits := by
    rw [sound.take_config move]
    apply sound.take_running timely.fits
    · intro task runs fits
      exact Run.proceed_keeps fits (fun act later next => fits.next next) _ _
    · intro script started
      exact Run.start_fits _ script.pose script.blocks
  asleep := sound.take_asleep timely.asleep move
  paired := by
    obtain ⟨told, _, change⟩ := sound.take_tells move
    exact change.paired timely.paired

/-- The turn of a script leaves the reserve as it is, or begins the next epoch and pays for its
scripts. -/
theorem act_reserve (sound : chronicle.Sound) {task : Task} {others : List Task}
    (line : chronicle.performance.ready = task :: others)
    (paired : chronicle.act.stage.scene.Paired) :
    (chronicle.act.stage.epoch = chronicle.stage.epoch ∧
        chronicle.act.stage.reserve = chronicle.stage.reserve) ∨
      (chronicle.act.stage.epoch = chronicle.stage.epoch + 1 ∧
        chronicle.act.stage.reserve + chronicle.act.stage.encore = chronicle.stage.reserve) := by
  have few := paired.length_le
  obtain ⟨notes, ⟨same, _⟩ | ⟨_, _, update, received, _⟩⟩ := act_stage line
  · rw [same]
    exact Or.inl ⟨rfl, rfl⟩
  · have noted : Stage.Numbered { chronicle.stage with notes } := sound.numbered
    have count := (noted.receive_encore task.sprite update).1
    rw [received] at few ⊢
    apply noted.receive_reserve task.sprite update
    simp only [Stage.scene, count] at few
    calc _ ≤ _ := few
      _ ≤ _ := Nat.div_le_self _ _
      _ ≤ _ := Nat.mul_le_mul_left _ (Nat.sub_le _ _)

/-- After the turn of the first script in line there is less to do, the burden is no heavier, and no
time has passed. -/
theorem act_effort (sound : chronicle.Sound) (timed : 1 ≤ chronicle.stage.config.frameInterval)
    {task : Task} {others : List Task} (line : chronicle.performance.ready = task :: others)
    (fits : task.run.Fits chronicle.stage.config task.blocks)
    (paired : chronicle.act.stage.scene.Paired) :
    chronicle.act.performance.now = chronicle.performance.now ∧
      chronicle.act.performance.effort < chronicle.performance.effort ∧
        chronicle.act.performance.burden ≤ chronicle.performance.burden := by
  have settles := sound.act_settles line
  obtain ⟨less, noHeavier⟩ := acted_effort timed line fits
  obtain ⟨settled, noHeavierSettled⟩ := settles.effort_le (sound.acted line)
    (sound.act_reserve line paired)
  exact ⟨settles.waiting.1, Nat.lt_of_le_of_lt settled less, Nat.le_trans noHeavierSettled noHeavier⟩

/-- And so it is after the turn of anybody in line. -/
theorem turn_effort (sound : chronicle.Sound) (timely : chronicle.Timely) {place : Nat}
    (inLine : place < chronicle.performance.ready.length) :
    let after := (chronicle.take (.turn place)).performance
    after.now = chronicle.performance.now ∧ after.effort < chronicle.performance.effort ∧
      after.burden ≤ chronicle.performance.burden := by
  have called := sound.callUp place
  have paired := (sound.take_timely timely (.turn place)).paired
  have effort := chronicle.performance.callUp_effort place
  have running := callUp_running chronicle.performance place
  have burden := Performance.burden_of_perm (by rw [Performance.callUp_eq]) running
  have length := (chronicle.performance.callUp_perm place).length_eq
  simp only [Chronicle.take] at paired ⊢
  rw [Performance.callUp_eq] at called effort burden running paired ⊢
  generalize (chronicle.performance.callUp place).ready = ready at *
  cases ready with
  | nil =>
      rw [← length] at inLine
      cases inLine
  | cons task others =>
      have first : task.run.Fits chronicle.stage.config task.blocks :=
        timely.fits task (running.mem_iff.mp (List.mem_append_left _ List.mem_cons_self))
      obtain ⟨now, less, noHeavier⟩ := called.act_effort timely.timed rfl first paired
      exact ⟨now, less.trans_eq effort, noHeavier.trans_eq burden⟩

end Sound

end Chronicle

end SpriteStage
