/-
Module: SpriteStage.Proofs.Performance.Running
Purpose: The tasks that run. A task runs from its launch to its end, in line or waiting. Whoever
  runs after a move ran before it, and has made progress at most, or starts with it. So what scripts
  start with and keep with all progress is so of all that run. Of two scripts that run in the
  current epoch no two belong to the same sprite.
Main exports: Performance.running, Chronicle.mem_acted_running, Chronicle.Sound.ne_key,
  Chronicle.Settles.mem_running, Chronicle.Sound.take_config, Chronicle.Sound.take_running
-/
import SpriteStage.Proofs.Performance.EpochSafety
import SpriteStage.Proofs.Script.Acts

namespace SpriteStage

/-- What a run has and keeps with whatever it does next, it has after any progress. -/
theorem Run.proceed_keeps {run : Run} {config : Config} {holds : Run → Prop} (begun : holds run)
    (kept : ∀ act later, run.next config = some (act, later) → holds later)
    (current connected : Bool) : holds ((run.proceed config current connected).run run) := by
  have comes := run.proceed_comesTo config current connected
  generalize run.proceed config current connected = progress at comes
  cases comes with
  | ended => exact begun
  | passed next | skipped next | displayed update next | waiting next | resting next =>
      exact kept _ _ next

/-- The scripts that have started and not ended. -/
def Performance.running (performance : Performance) : List Task :=
  performance.ready ++ performance.waiting.map Waiter.task

namespace Chronicle

/-- Nobody runs before anything has happened. -/
@[simp] theorem create_running (stage : Stage) : (create stage).performance.running = [] := rfl

theorem mem_tasks_of_running {chronicle : Chronicle} {task : Task}
    (runs : task ∈ chronicle.performance.running) : task ∈ chronicle.tasks :=
  List.mem_append_left _ runs

/-- When a script has made its progress, it runs on unless it has ended, and so do all others. -/
theorem mem_acted_running {chronicle : Chronicle} {task other : Task} {others : List Task} :
    other ∈ (chronicle.acted task others).performance.running ↔
      (chronicle.performance.progress task).standing chronicle.performance.now ≠ .ended ∧
          other = task.after (chronicle.performance.progress task) ∨
        other ∈ others ++ chronicle.performance.waiting.map Waiter.task := by
  simp only [Performance.running, acted]
  cases (chronicle.performance.progress task).standing chronicle.performance.now with
  | inLine => simp [Standing.line, Standing.waiters]
  | waiting wake => simp [Standing.line, Standing.waiters, or_comm, or_left_comm]
  | ended => simp [Standing.line, Standing.waiters]

/-- When an epoch begins, everybody runs on, and scripts start. -/
theorem mem_opened_running {chronicle : Chronicle} {cause : Cause} {stage : Stage}
    {scripts : List Script} {task : Task} :
    task ∈ (chronicle.opened cause stage scripts).performance.running ↔
      task ∈ chronicle.performance.running ∨
        ∃ script ∈ scripts, task = Task.launch stage.epoch script := by
  simp [Performance.running, opened, or_assoc, eq_comm]

/-- The clock lets everybody run on. -/
theorem clock_running (chronicle : Chronicle) (time : Nat) :
    (chronicle.take (.clock time)).performance.running.Perm chronicle.performance.running := by
  have parted := (List.filter_append_perm
    (Performance.isDue (max chronicle.performance.now time))
    chronicle.performance.waiting).map Waiter.task
  rw [List.map_append] at parted
  simp only [Performance.running, take, Performance.wakeAt, List.append_assoc]
  exact parted.append_left _

theorem mem_clock_running {chronicle : Chronicle} {time : Nat} {task : Task} :
    task ∈ (chronicle.take (.clock time)).performance.running ↔
      task ∈ chronicle.performance.running :=
  (chronicle.clock_running time).mem_iff

/-- Whoever goes first, the same scripts run. -/
theorem callUp_running (performance : Performance) (place : Nat) :
    (performance.callUp place).running.Perm performance.running := by
  have ordered := performance.callUp_perm place
  rw [Performance.callUp_eq]
  exact ordered.append_right _

theorem mem_callUp_running {performance : Performance} {place : Nat} {task : Task} :
    task ∈ (performance.callUp place).running ↔ task ∈ performance.running :=
  (callUp_running performance place).mem_iff

/-- When the stage settles, no time has passed, and nobody begins to wait. -/
theorem Settles.waiting {before after : Chronicle} (settles : before.Settles after) :
    after.performance.now = before.performance.now ∧
      after.performance.waiting ⊆ before.performance.waiting := by
  cases settles with
  | steady => exact ⟨rfl, List.Subset.refl _⟩
  | opens => exact ⟨rfl, List.nil_subset _⟩

theorem Settles.config {before after : Chronicle} (settles : before.Settles after) :
    after.stage.config = before.stage.config := by
  cases settles with
  | steady steady => exact steady.config
  | opens begins => exact begins.config

/-- When the stage settles, those who run ran before or start. -/
theorem Settles.mem_running {before after : Chronicle} (settles : before.Settles after) {task : Task}
    (runs : task ∈ after.performance.running) :
    task ∈ before.performance.running ∨
      ∃ script ∈ after.stage.snapshots, task = Task.launch after.stage.epoch script := by
  cases settles with
  | steady => exact Or.inl runs
  | opens begins starts =>
      rcases mem_opened_running.mp runs with old | ⟨script, started, rfl⟩
      · exact Or.inl old
      · rcases starts with ⟨rfl, _⟩ | ⟨rfl, _⟩
        · exact Or.inr ⟨script, started, rfl⟩
        · cases started

namespace Sound

variable {chronicle : Chronicle}

/-- The script in line whose turn it is, if it still counts, is the only one that runs its
sprite. -/
theorem ne_key (sound : chronicle.Sound) {task : Task} {others : List Task}
    (line : chronicle.performance.ready = task :: others)
    (current : task.epoch = chronicle.stage.epoch) {other : Task}
    (runs : other ∈ others ++ chronicle.performance.waiting.map Waiter.task) :
    other.key ≠ task.key := by
  intro same
  have single := sound.single task.sprite
  have here : (task.sprite, chronicle.stage.epoch) = task.key := by rw [← current]; rfl
  have behind : task.key ∈
      (others ++ chronicle.performance.waiting.map Waiter.task ++ chronicle.ended).map Task.key := by
    rw [← same]
    exact List.mem_map_of_mem (List.mem_append_left _ runs)
  rw [here, keys, tasks, line, List.cons_append, List.cons_append, List.map_cons,
    List.count_cons_self] at single
  have more := List.count_pos_iff.mpr behind
  omega

/-- Nothing that is done with a stage changes how it is configured. -/
theorem take_config (sound : chronicle.Sound) (move : Move) :
    (chronicle.take move).stage.config = chronicle.stage.config := by
  cases move with
  | amend amendment => exact (Stage.amend_steady chronicle.stage amendment).config
  | play => exact sound.play_settles.config
  | stop => exact sound.stop_settles.config
  | clock time => rfl
  | turn place =>
      have called := sound.callUp place
      simp only [Chronicle.take]
      rw [Performance.callUp_eq] at called ⊢
      generalize (chronicle.performance.callUp place).ready = ready at called
      cases ready with
      | nil => rw [act_nil rfl]
      | cons task others => exact (called.act_settles rfl).config

/-- What a script is like that runs after its turn or starts in it, if it keeps with all progress
what it is like. -/
theorem act_running (sound : chronicle.Sound) {holds : Task → Prop}
    (kept : ∀ task ∈ chronicle.performance.running, holds task)
    (acts : ∀ task ∈ chronicle.performance.running, holds task →
      holds (task.after (chronicle.performance.progress task)))
    (launched : ∀ script ∈ chronicle.act.stage.snapshots,
      holds (Task.launch chronicle.act.stage.epoch script)) :
    ∀ task ∈ chronicle.act.performance.running, holds task := by
  cases line : chronicle.performance.ready with
  | nil =>
      rw [act_nil line]
      exact kept
  | cons task others =>
      intro other runs
      have first : task ∈ chronicle.performance.running := by simp [Performance.running, line]
      rcases (sound.act_settles line).mem_running runs with ran | ⟨script, started, rfl⟩
      · rcases mem_acted_running.mp ran with ⟨_, rfl⟩ | rest
        · exact acts task first (kept task first)
        · apply kept
          simp only [Performance.running, line, List.cons_append]
          exact List.mem_cons_of_mem _ rest
      · exact launched script started

/-- What all scripts that run are like they are still like after a move, if scripts keep it with all
progress and those that start are like that. -/
theorem take_running (sound : chronicle.Sound) {move : Move} {holds : Task → Prop}
    (kept : ∀ task ∈ chronicle.performance.running, holds task)
    (acts : ∀ task ∈ chronicle.performance.running, holds task →
      holds (task.after (chronicle.performance.progress task)))
    (launched : ∀ script ∈ (chronicle.take move).stage.snapshots,
      holds (Task.launch (chronicle.take move).stage.epoch script)) :
    ∀ task ∈ (chronicle.take move).performance.running, holds task := by
  have settled : ∀ {after : Chronicle}, chronicle.Settles after →
      (∀ script ∈ after.stage.snapshots, holds (Task.launch after.stage.epoch script)) →
      ∀ task ∈ after.performance.running, holds task := by
    intro after settles launched task runs
    rcases settles.mem_running runs with ran | ⟨script, started, rfl⟩
    · exact kept task ran
    · exact launched script started
  cases move with
  | amend amendment => exact kept
  | play => exact settled sound.play_settles launched
  | stop => exact settled sound.stop_settles launched
  | clock time => exact fun task runs => kept task (mem_clock_running.mp runs)
  | turn place =>
      have called := sound.callUp place
      have runsOn : ∀ task ∈ (chronicle.performance.callUp place).running,
          task ∈ chronicle.performance.running := fun _ => mem_callUp_running.mp
      simp only [Chronicle.take] at launched ⊢
      rw [Performance.callUp_eq] at called runsOn launched ⊢
      exact called.act_running (fun task runs => kept task (runsOn task runs))
        (fun task runs => acts task (runsOn task runs)) launched

end Sound

end Chronicle

end SpriteStage
