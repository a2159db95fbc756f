/-
Module: SpriteStage.Proofs.Performance.Chronicle
Purpose: Performances move by move. A performance changes because somebody edits, plays or stops the
  stage, because a task that is ready is polled and does its next act, or because the virtual clock
  moves. Any task in line may be polled next, so every order in which the runtime can poll its tasks
  is a list of moves. A chronicle is the trace of a performance, with what a performance forgets:
  the tasks that have completed, how every epoch began, and the updates that sinks delivered to
  their sprites. A chronicle is on time if the clock never passes by anybody who has something to
  do.
Main exports: Move, Chronicle, Chronicle.acted, Chronicle.opened, Chronicle.take, Chronicle.follow,
  Chronicle.OnTime, Chronicle.follow_induction, Chronicle.act_stage, Chronicle.onTime_induction
-/
import Mathlib.Data.List.Perm.Basic
import SpriteStage.Performance
import SpriteStage.Proofs.Stage.Transitions

namespace SpriteStage

/-- One move of a performance. -/
inductive Move where
  | amend (amendment : Amendment)
  | play
  | stop
  /-- The task at a place in line is polled and does its next act. -/
  | turn (place : Nat)
  /-- The clock moves to a time, unless that time is over. -/
  | clock (time : Nat)
deriving DecidableEq, Repr

/-- Where a task stands after some progress at a time: ready to be polled, waiting, or completed. -/
inductive Standing where
  | inLine
  | waiting (wake : Option Nat)
  | ended
deriving DecidableEq, Repr

/-- Where its progress leaves a script. -/
def Progress.standing (now : Nat) : Progress → Standing
  | .ended _ => .ended
  | .passed _ | .skipped _ _ | .displayed _ _ => .inLine
  | .waiting length _ => .waiting (some (now + length))
  | .resting _ => .waiting none

/-- The run after some progress; a run that has ended stays as it was. -/
def Progress.run (before : Run) : Progress → Run
  | .ended _ => before
  | .passed run | .skipped _ run | .displayed _ run | .waiting _ run | .resting run => run

namespace Standing

/-- The script by itself if it is in line, else nobody. -/
def line (task : Task) : Standing → List Task
  | .inLine => [task]
  | _ => []

/-- The script by itself if it waits, else nobody. -/
def waiters (task : Task) : Standing → List Waiter
  | .waiting wake => [⟨wake, task⟩]
  | _ => []

/-- The script by itself if it has ended, else nobody. -/
def leavers (task : Task) : Standing → List Task
  | .ended => [task]
  | _ => []

/-- Wherever it stands, a script is in exactly one of the three lists. -/
theorem spread_perm (standing : Standing) (task : Task) (line : List Task)
    (waiting : List Waiter) (ended : List Task) :
    (standing.line task ++ line ++ (waiting ++ standing.waiters task).map Waiter.task ++
      (ended ++ standing.leavers task)).Perm
        (task :: (line ++ waiting.map Waiter.task ++ ended)) := by
  cases standing with
  | inLine => simp [Standing.line, waiters, leavers]
  | waiting wake =>
      have moved : (line ++ waiting.map Waiter.task ++ task :: ended).Perm
          (task :: (line ++ waiting.map Waiter.task ++ ended)) := List.perm_middle
      simpa [Standing.line, waiters, leavers] using moved
  | ended =>
      have moved : (line ++ waiting.map Waiter.task ++ ended ++ [task]).Perm
          (task :: (line ++ waiting.map Waiter.task ++ ended)) := List.perm_append_singleton _ _
      simpa [Standing.line, waiters, leavers] using moved

end Standing

/-- A script after some progress. -/
def Task.after (task : Task) (progress : Progress) : Task :=
  { task with begun := true, run := progress.run task.run }

namespace Performance

/-- What a script of the performance comes to with its next act. -/
def progress (performance : Performance) (task : Task) : Progress :=
  task.run.proceed performance.stage.config (decide (task.epoch = performance.stage.epoch)) true

end Performance

/-- Why an epoch began. -/
inductive Cause where
  | play
  | stop
  | swap
deriving DecidableEq, Repr

/-- The beginning of an epoch: why and when it began, and the stage at that moment. -/
structure Opening where
  cause : Cause
  time : Nat
  stage : Stage

/-- An update that a sink delivered to its sprite, and the epoch of the run token that it came
with. -/
structure Delivery where
  time : Nat
  epoch : Nat
  sprite : SpriteId
  update : Update
deriving DecidableEq, Repr

/-- A performance and its trace. -/
structure Chronicle where
  performance : Performance
  /-- The tasks that have completed. -/
  ended : List Task
  /-- How the epochs began, the earliest first. -/
  openings : List Opening
  /-- The updates that reached their sprites, the earliest first. -/
  deliveries : List Delivery

namespace Chronicle

/-- The chronicle of a performance that has not begun. -/
def create (stage : Stage) : Chronicle := ⟨Performance.create stage, [], [], []⟩

/-- The stage as it stands. -/
abbrev stage (chronicle : Chronicle) : Stage := chronicle.performance.stage

/-- All tasks that were ever spawned. -/
def tasks (chronicle : Chronicle) : List Task :=
  chronicle.performance.ready ++ chronicle.performance.waiting.map Waiter.task ++ chronicle.ended

/-- Goes on with a performance; if it is in a new epoch, that epoch began for the given cause. -/
def goOn (chronicle : Chronicle) (cause : Cause) (next : Performance) : Chronicle :=
  { chronicle with
    performance := next
    openings :=
      if next.stage.epoch = chronicle.stage.epoch then chronicle.openings
      else chronicle.openings ++ [⟨cause, next.now, next.stage⟩] }

/-- The update that reaches its sprite with some progress of a script, if the stage has the
sprite. -/
def delivered (performance : Performance) (task : Task) : Progress → List Delivery
  | .displayed update _ =>
    if (performance.stage.find? task.sprite).isSome then
      [⟨performance.now, task.epoch, task.sprite, update⟩]
    else []
  | _ => []

/-- The next act of the first script in line. -/
def act (chronicle : Chronicle) : Chronicle :=
  match chronicle.performance.ready, chronicle.performance.act with
  | task :: _, some next =>
    let progress := chronicle.performance.progress task
    { chronicle with
      ended := chronicle.ended ++
        (progress.standing chronicle.performance.now).leavers (task.after progress)
      deliveries := chronicle.deliveries ++ delivered chronicle.performance task progress
      }.goOn .swap next
  | _, _ => chronicle

/-- The first script in line has made its progress, and the stage has not heard of it yet. -/
def acted (chronicle : Chronicle) (task : Task) (others : List Task) : Chronicle :=
  let progress := chronicle.performance.progress task
  let standing := progress.standing chronicle.performance.now
  { chronicle with
    performance :=
      { chronicle.performance with
        ready := standing.line (task.after progress) ++ others
        waiting := chronicle.performance.waiting ++ standing.waiters (task.after progress) }
    ended := chronicle.ended ++ standing.leavers (task.after progress)
    deliveries := chronicle.deliveries ++ delivered chronicle.performance task progress }

/-- The same scripts and the same past on another stage. -/
def onStage (chronicle : Chronicle) (stage : Stage) : Chronicle :=
  { chronicle with performance := chronicle.performance.edited stage }

/-- The next epoch begins: everybody who waits lines up, and behind them the scripts that start. -/
def opened (chronicle : Chronicle) (cause : Cause) (stage : Stage) (scripts : List Script) :
    Chronicle :=
  { chronicle with
    performance :=
      { chronicle.performance with
        stage
        ready := chronicle.performance.ready ++ chronicle.performance.waiting.map Waiter.task ++
          scripts.map (Task.launch stage.epoch)
        waiting := [] }
    openings := chronicle.openings ++ [⟨cause, chronicle.performance.now, stage⟩] }

/-- The chronicle after one more move. -/
def take (chronicle : Chronicle) : Move → Chronicle
  | .amend amendment => chronicle.onStage (chronicle.stage.amend amendment)
  | .play => chronicle.goOn .play chronicle.performance.play
  | .stop => chronicle.goOn .stop chronicle.performance.stop
  | .turn place => { chronicle with performance := chronicle.performance.callUp place }.act
  | .clock time =>
    { chronicle with
      performance := chronicle.performance.wakeAt (max chronicle.performance.now time) }

/-- The chronicle after some moves. -/
def follow (chronicle : Chronicle) (moves : List Move) : Chronicle := moves.foldl take chronicle

/-- What every move keeps is so after any moves. -/
theorem follow_induction (holds : Chronicle → Prop)
    (kept : ∀ chronicle move, holds chronicle → holds (chronicle.take move)) :
    ∀ (moves : List Move) (chronicle : Chronicle), holds chronicle →
      holds (chronicle.follow moves) := by
  intro moves
  induction moves with
  | nil => exact fun _ begun => begun
  | cons move rest more =>
      intro chronicle begun
      exact more (chronicle.take move) (kept chronicle move begun)

end Chronicle

/-! ## What a move does -/

namespace Performance

theorem begin_eq (stage : Stage) (task : Task) :
    ∃ notes, begin stage task = { stage with notes } := by
  unfold begin
  split
  · exact ⟨stage.notes, rfl⟩
  · exact ⟨_, rfl⟩

/-- A script that no longer counts ends with its next act. -/
theorem progress_of_stale {performance : Performance} {task : Task}
    (stale : task.epoch ≠ performance.stage.epoch) :
    ∃ outcome, performance.progress task = .ended outcome := by
  simp only [progress, Run.proceed, stale, decide_false, Bool.not_false, if_true]
  split
  · exact ⟨_, rfl⟩
  · exact ⟨_, rfl⟩

/-- Only a script that still counts displays anything. -/
theorem epoch_eq_of_displayed {performance : Performance} {task : Task} {update : Update}
    {run : Run} (shown : performance.progress task = .displayed update run) :
    task.epoch = performance.stage.epoch := by
  by_contra stale
  obtain ⟨outcome, ended⟩ := progress_of_stale stale
  rw [ended] at shown
  cases shown

/-- Only a script that still counts begins to wait. -/
theorem epoch_eq_of_waiter {performance : Performance} {task : Task} {waiter : Waiter}
    (member : waiter ∈ ((performance.progress task).standing performance.now).waiters
      (task.after (performance.progress task))) :
    waiter.task.epoch = performance.stage.epoch := by
  by_contra stale
  have same : waiter.task.epoch = task.epoch := by
    cases stands : (performance.progress task).standing performance.now with
    | waiting wake =>
        rw [stands] at member
        rw [List.mem_singleton.mp member]
        rfl
    | _ =>
        rw [stands] at member
        cases member
  obtain ⟨outcome, ended⟩ := progress_of_stale (same ▸ stale)
  rw [ended] at member
  cases member

/-- An act that displays nothing leaves the stage alone, its notes apart, and puts the script where
its progress leaves it. -/
theorem act_silent {performance : Performance} {task : Task} {others : List Task}
    (line : performance.ready = task :: others)
    (silent : ∀ update run, performance.progress task ≠ .displayed update run) :
    let progress := performance.progress task
    let standing := progress.standing performance.now
    ∃ notes, performance.act = some
      { stage := { performance.stage with notes }
        now := performance.now
        ready := standing.line (task.after progress) ++ others
        waiting := performance.waiting ++ standing.waiters (task.after progress) } := by
  obtain ⟨notes, begun⟩ := begin_eq performance.stage task
  simp only [progress] at silent ⊢
  simp only [act, line, begun]
  cases comes : task.run.proceed performance.stage.config
      (decide (task.epoch = performance.stage.epoch)) true with
  | displayed update run => exact absurd comes (silent update run)
  | ended | passed | skipped | waiting | resting =>
      apply Exists.intro
      simp only [Progress.standing, Progress.run, Standing.line, Standing.waiters, Task.after,
        List.nil_append, List.cons_append, List.append_nil]
      rfl

/-- An act that displays something hands it to the stage while the script stays in line. -/
theorem act_displayed {performance : Performance} {task : Task} {others : List Task}
    {update : Update} {run : Run} (line : performance.ready = task :: others)
    (shown : performance.progress task = .displayed update run) :
    ∃ notes, performance.act = some
      ({ performance with
          ready := task.after (.displayed update run) :: others }.resume
        ({ performance.stage with notes }.receive task.sprite performance.stage.epoch update)) := by
  obtain ⟨notes, begun⟩ := begin_eq performance.stage task
  have current := epoch_eq_of_displayed shown
  simp only [progress] at shown
  refine ⟨notes, ?_⟩
  simp only [act, line, begun, shown]
  simp only [Task.after, Progress.run, current]

/-- Within an epoch nobody has to line up. -/
theorem resume_steady {performance : Performance} {stage : Stage}
    (fresh : ∀ waiter ∈ performance.waiting, waiter.task.epoch = stage.epoch) :
    performance.resume (stage, []) = { performance with stage } := by
  have nobody : performance.waiting.filter (isStale stage) = [] := by
    simp only [List.filter_eq_nil_iff, isStale, decide_eq_true_eq, not_not]
    exact fresh
  have everybody : (performance.waiting.filter fun waiter => !isStale stage waiter) =
      performance.waiting := by
    simp only [List.filter_eq_self, isStale, Bool.not_eq_true', decide_eq_false_iff_not, not_not]
    exact fresh
  simp [resume, nobody, everybody]

/-- With a new epoch everybody who waits lines up, and behind them the scripts that start. -/
theorem resume_begins {performance : Performance} {stage : Stage}
    (stale : ∀ waiter ∈ performance.waiting, waiter.task.epoch ≠ stage.epoch)
    (scripts : List Script) :
    performance.resume (stage, scripts) =
      { performance with
        stage
        ready := performance.ready ++ performance.waiting.map Waiter.task ++
          scripts.map (Task.launch stage.epoch)
        waiting := [] } := by
  have everybody : performance.waiting.filter (isStale stage) = performance.waiting := by
    simp only [List.filter_eq_self, isStale, decide_eq_true_eq]
    exact stale
  have nobody : (performance.waiting.filter fun waiter => !isStale stage waiter) = [] := by
    simp only [List.filter_eq_nil_iff, isStale, Bool.not_eq_true', decide_eq_false_iff_not,
      not_not]
    exact stale
  simp [resume, nobody, everybody]

/-- Letting a script go first only changes the order of the line. -/
theorem callUp_perm (performance : Performance) (place : Nat) :
    (performance.callUp place).ready.Perm performance.ready := by
  unfold callUp
  cases there : performance.ready[place]? with
  | none => exact List.Perm.refl _
  | some task =>
      obtain ⟨inside, rfl⟩ := List.getElem?_eq_some_iff.mp there
      exact List.getElem_cons_eraseIdx_perm inside

theorem callUp_eq (performance : Performance) (place : Nat) :
    performance.callUp place =
      { performance with ready := (performance.callUp place).ready } := by
  unfold callUp
  split <;> rfl

end Performance

namespace Chronicle

theorem goOn_same {chronicle : Chronicle} {next : Performance}
    (same : next.stage.epoch = chronicle.stage.epoch) (cause : Cause) :
    chronicle.goOn cause next = { chronicle with performance := next } := by
  simp [goOn, same]

theorem goOn_new {chronicle : Chronicle} {next : Performance}
    (new : next.stage.epoch = chronicle.stage.epoch + 1) (cause : Cause) :
    chronicle.goOn cause next =
      { chronicle with
        performance := next
        openings := chronicle.openings ++ [⟨cause, next.now, next.stage⟩] } := by
  simp [goOn, new]

theorem act_nil {chronicle : Chronicle} (line : chronicle.performance.ready = []) :
    chronicle.act = chronicle := by
  simp [act, line]

/-- An act that displays nothing leaves the stage alone, its notes apart. -/
theorem act_silent {chronicle : Chronicle} {task : Task} {others : List Task}
    (line : chronicle.performance.ready = task :: others)
    (silent : ∀ update run, chronicle.performance.progress task ≠ .displayed update run) :
    ∃ notes, chronicle.act =
      (chronicle.acted task others).onStage { chronicle.stage with notes } := by
  obtain ⟨notes, acts⟩ := Performance.act_silent line silent
  have nothing : delivered chronicle.performance task
      (chronicle.performance.progress task) = [] := by
    cases shown : chronicle.performance.progress task with
    | displayed update run => exact absurd shown (silent update run)
    | _ => rfl
  refine ⟨notes, ?_⟩
  simp only [act, line, acts, nothing]
  rw [goOn_same (by rfl)]
  simp [acted, onStage, Performance.edited, nothing]

/-- An act that displays something goes on with what the stage makes of it. -/
theorem act_displayed {chronicle : Chronicle} {task : Task} {others : List Task}
    {update : Update} {run : Run} (line : chronicle.performance.ready = task :: others)
    (shown : chronicle.performance.progress task = .displayed update run) :
    ∃ notes, chronicle.act =
      (chronicle.acted task others).goOn .swap ((chronicle.acted task others).performance.resume
        ({ chronicle.stage with notes }.receive task.sprite chronicle.stage.epoch update)) := by
  obtain ⟨notes, acts⟩ := Performance.act_displayed line shown
  refine ⟨notes, ?_⟩
  simp [act, line, acts, shown, acted, Progress.standing, Standing.leavers, Standing.line,
    Standing.waiters, goOn]

/-- What the next act of the first script in line makes of the stage, its notes apart: nothing, and
then it delivers nothing; or what the stage makes of the update that it delivers, if the script is
one of the current epoch and the stage has its sprite. -/
theorem act_stage {chronicle : Chronicle} {task : Task} {others : List Task}
    (line : chronicle.performance.ready = task :: others) :
    ∃ notes : Journal Note,
      (chronicle.act.stage = { chronicle.stage with notes } ∧
          chronicle.act.deliveries = chronicle.deliveries) ∨
        task.epoch = chronicle.stage.epoch ∧
          (chronicle.stage.find? task.sprite).isSome = true ∧ ∃ update,
            chronicle.act.stage =
              ({ chronicle.stage with notes }.receive task.sprite chronicle.stage.epoch update).1 ∧
            chronicle.act.deliveries = chronicle.deliveries ++
              [⟨chronicle.performance.now, task.epoch, task.sprite, update⟩] := by
  by_cases silent : ∀ update run, chronicle.performance.progress task ≠ .displayed update run
  · obtain ⟨notes, acts⟩ := act_silent line silent
    refine ⟨notes, Or.inl ⟨by rw [acts]; rfl, ?_⟩⟩
    rw [acts]
    cases shown : chronicle.performance.progress task with
    | displayed update run => exact absurd shown (silent update run)
    | _ => simp [onStage, acted, shown, delivered]
  · simp only [ne_eq, not_forall, not_not] at silent
    obtain ⟨update, run, shown⟩ := silent
    obtain ⟨notes, acts⟩ := act_displayed line shown
    have received : chronicle.act.stage =
        ({ chronicle.stage with notes }.receive task.sprite chronicle.stage.epoch update).1 := by
      rw [acts]
      rfl
    have handed : chronicle.act.deliveries = chronicle.deliveries ++
        delivered chronicle.performance task (.displayed update run) := by
      rw [acts, ← shown]
      rfl
    refine ⟨notes, ?_⟩
    cases found : chronicle.stage.find? task.sprite with
    | none =>
        have unknown : ({ chronicle.stage with notes } : Stage).find? task.sprite = none := found
        refine Or.inl ⟨?_, by simp [handed, delivered, found]⟩
        rw [received]
        simp [Stage.receive, unknown]
    | some sprite =>
        exact Or.inr ⟨Performance.epoch_eq_of_displayed shown, rfl, update, received,
          by simp [handed, delivered, found]⟩

end Chronicle

/-! ## Keeping time -/

/-- The clock moves only when nobody stands in line, and not past anybody's wake-up. -/
def Move.OnTime (performance : Performance) : Move → Prop
  | .clock time =>
    performance.ready = [] ∧
      ∀ waiter ∈ performance.waiting, ∀ wake, waiter.wake = some wake → time ≤ wake
  | _ => True

instance (performance : Performance) (move : Move) : Decidable (move.OnTime performance) :=
  match move with
  | .clock time =>
    inferInstanceAs (Decidable (performance.ready = [] ∧
      ∀ waiter ∈ performance.waiting, ∀ wake ∈ waiter.wake, time ≤ wake))
  | .amend _ | .play | .stop | .turn _ => inferInstanceAs (Decidable True)

namespace Chronicle

/-- Every move of the clock is on time. -/
def OnTime (chronicle : Chronicle) : List Move → Prop
  | [] => True
  | move :: rest => move.OnTime chronicle.performance ∧ (chronicle.take move).OnTime rest

instance decidableOnTime (chronicle : Chronicle) :
    (moves : List Move) → Decidable (chronicle.OnTime moves)
  | [] => inferInstanceAs (Decidable True)
  | move :: rest =>
    have := decidableOnTime (chronicle.take move) rest
    inferInstanceAs (Decidable (move.OnTime chronicle.performance ∧
      (chronicle.take move).OnTime rest))

/-- What every move on time keeps is so after any moves on time. -/
theorem onTime_induction (holds : Chronicle → Prop)
    (kept : ∀ chronicle move, holds chronicle → move.OnTime chronicle.performance →
      holds (chronicle.take move)) :
    ∀ (moves : List Move) (chronicle : Chronicle), holds chronicle → chronicle.OnTime moves →
      holds (chronicle.follow moves) := by
  intro moves
  induction moves with
  | nil => exact fun _ begun _ => begun
  | cons move rest more =>
      intro chronicle begun onTime
      exact more (chronicle.take move) (kept chronicle move begun onTime.1) onTime.2

end Chronicle

end SpriteStage
