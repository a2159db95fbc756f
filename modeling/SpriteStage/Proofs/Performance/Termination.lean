/-
Module: SpriteStage.Proofs.Performance.Termination
Purpose: Advancing the virtual clock comes to an end. While tasks are polled the effort of a
  performance goes down, and a move of the clock, which may bring it back up to the burden, leaves
  less time. So in whatever order scripts have their turns, there are only so many moves until
  nobody has anything to do by some time; on the way the stage publishes a few events per move, and
  begins an epoch anew at most once for each pair of sprites that has not swapped yet.
Main exports: Move.Due, Chronicle.DueBy, Chronicle.step, Performance.Idle, Performance.potential,
  Chronicle.Sound.take_potential, Chronicle.Sound.exhausts, Chronicle.Since,
  Chronicle.Sound.advances, Chronicle.advance_terminates
-/
import SpriteStage.Proofs.Performance.Effort
import SpriteStage.Proofs.Performance.Passage

namespace SpriteStage

/-! ## Moves that are due -/

/-- A move that is due by a time: a turn of somebody in line or, if nobody is in line, a move of the
clock to the next wake-up. -/
def Move.Due (target : Nat) (performance : Performance) : Move → Prop
  | .turn place => place < performance.ready.length
  | .clock time =>
    performance.ready = [] ∧ Performance.nextWake performance.waiting = some time ∧ time ≤ target
  | .amend _ | .play | .stop => False

instance (target : Nat) (performance : Performance) (move : Move) :
    Decidable (move.Due target performance) :=
  match move with
  | .turn place => inferInstanceAs (Decidable (place < performance.ready.length))
  | .clock time =>
    inferInstanceAs (Decidable (performance.ready = [] ∧
      Performance.nextWake performance.waiting = some time ∧ time ≤ target))
  | .amend _ | .play | .stop => inferInstanceAs (Decidable False)

namespace Performance

/-- Nobody has anything to do by a time. -/
def Idle (target : Nat) (performance : Performance) : Prop :=
  performance.ready = [] ∧ performance.Asleep target

/-- How much can be done by a time. -/
def potential (target : Nat) (performance : Performance) : Nat :=
  (target - performance.now) * (performance.burden + 1) + performance.effort

/-- The next wake-up is that of somebody who waits. -/
theorem mem_of_nextWake {waiting : List Waiter} {time : Nat} (next : nextWake waiting = some time) :
    ∃ waiter ∈ waiting, waiter.wake = some time :=
  List.mem_filterMap.mp (List.min?_eq_some_iff.mp next).1

/-- The next move by a time: the turn of the task that is polled next or, if no task is ready, a
move of the clock. -/
def nextMove? (order : PollOrder) (target : Nat) (performance : Performance) : Option Move :=
  match performance.ready, nextWake performance.waiting with
  | _ :: _, _ => some (.turn (order.place performance))
  | [], some time => if time ≤ target then some (.clock time) else none
  | [], none => none

variable {order : PollOrder}

theorem nextMove?_due {target : Nat} {performance : Performance} {move : Move}
    (next : performance.nextMove? order target = some move) : move.Due target performance := by
  unfold nextMove? at next
  split at next
  · rename_i line
    cases next
    exact (@stepBy_of_ready performance order target (line ▸ List.cons_ne_nil _ _)).1
  · rename_i line wakes
    split at next
    · cases next
      exact ⟨line, wakes, by assumption⟩
    · cases next
  · cases next

end Performance

namespace Chronicle

/-- Every move is due by a time. -/
def DueBy (target : Nat) (chronicle : Chronicle) : List Move → Prop
  | [] => True
  | move :: rest =>
    move.Due target chronicle.performance ∧ (chronicle.take move).DueBy target rest

instance decidableDueBy (target : Nat) (chronicle : Chronicle) :
    (moves : List Move) → Decidable (chronicle.DueBy target moves)
  | [] => inferInstanceAs (Decidable True)
  | move :: rest =>
    have := decidableDueBy target (chronicle.take move) rest
    inferInstanceAs (Decidable (move.Due target chronicle.performance ∧
      (chronicle.take move).DueBy target rest))

variable {chronicle next : Chronicle} {order : PollOrder} {target : Nat}

/-- The next move by a time is made. -/
def step (order : PollOrder) (target : Nat) (chronicle : Chronicle) : Option Chronicle :=
  (chronicle.performance.nextMove? order target).map chronicle.take

theorem step_cases (steps : chronicle.step order target = some next) :
    ∃ move : Move, move.Due target chronicle.performance ∧ next = chronicle.take move := by
  obtain ⟨move, found, rfl⟩ := Option.map_eq_some_iff.mp steps
  exact ⟨move, Performance.nextMove?_due found, rfl⟩

/-- Nobody's wake-up has been passed. -/
theorem Timely.punctual (timely : chronicle.Timely) : chronicle.performance.Punctual :=
  fun waiter member wake wakes => Nat.le_of_lt (timely.asleep waiter member wake wakes)

/-- The next wake-up is still to come. -/
theorem Timely.lt_of_nextWake (timely : chronicle.Timely) {time : Nat}
    (wakes : Performance.nextWake chronicle.performance.waiting = some time) :
    chronicle.performance.now < time := by
  obtain ⟨waiter, member, wake⟩ := Performance.mem_of_nextWake wakes
  exact timely.asleep waiter member time wake

/-- A step of the performance is the next move, whoever is polled next. -/
theorem Timely.step_performance (timely : chronicle.Timely) :
    chronicle.performance.stepBy order target = (chronicle.step order target).map performance := by
  unfold step Performance.nextMove?
  cases line : chronicle.performance.ready with
  | cons task others =>
      have inLine : chronicle.performance.ready ≠ [] := line ▸ List.cons_ne_nil _ _
      obtain ⟨_, acts⟩ := @Performance.stepBy_of_ready _ order target inLine
      obtain ⟨next, does⟩ :=
        timely.punctual.callUp_acts inLine (order.place chronicle.performance)
      simp only [acts, does, Option.map_some, take_turn does]
  | nil =>
      rw [Performance.stepBy_of_idle line, Performance.tick]
      cases wakes : Performance.nextWake chronicle.performance.waiting with
      | none => rfl
      | some time =>
          have later := timely.lt_of_nextWake wakes
          by_cases due : time ≤ target
          · simp only [due, if_true, Option.map_some, take, Nat.max_eq_right (Nat.le_of_lt later)]
          · simp only [due, if_false, Option.map_none]

namespace Sound

/-- With every move that is due there is less left that can be done by the time. -/
theorem take_potential (sound : chronicle.Sound) (timely : chronicle.Timely) {move : Move}
    (due : move.Due target chronicle.performance) :
    (chronicle.take move).performance.potential target < chronicle.performance.potential target := by
  cases move with
  | amend | play | stop => cases due
  | turn place =>
      obtain ⟨now, less, noHeavier⟩ := sound.turn_effort timely due
      have weighs := Nat.mul_le_mul_left (target - chronicle.performance.now)
        (Nat.add_le_add_right noHeavier 1)
      simp only [Performance.potential, now]
      omega
  | clock time =>
      obtain ⟨line, wakes, inTime⟩ := due
      have later := timely.lt_of_nextWake wakes
      have now : (chronicle.take (.clock time)).performance.now = time :=
        Nat.max_eq_right (Nat.le_of_lt later)
      have burden : (chronicle.take (.clock time)).performance.burden = chronicle.performance.burden :=
        Performance.burden_of_perm rfl (chronicle.clock_running time)
      have effort := Performance.effort_le_burden (sound.take_timely timely (.clock time)).fits
      have left : target - time + 1 ≤ target - chronicle.performance.now := by omega
      rw [burden] at effort
      -- Whoever has woken up has its effort again, but that is no more than the burden, and time has passed.
      rw [Performance.potential, Performance.potential, now, burden]
      calc (target - time) * (chronicle.performance.burden + 1) +
            (chronicle.take (.clock time)).performance.effort
          < (target - time) * (chronicle.performance.burden + 1) + (chronicle.performance.burden + 1) :=
            Nat.add_lt_add_left (Nat.lt_succ_of_le effort) _
        _ = (target - time + 1) * (chronicle.performance.burden + 1) := (Nat.succ_mul _ _).symm
        _ ≤ (target - chronicle.performance.now) * (chronicle.performance.burden + 1) :=
            Nat.mul_le_mul_right _ left
        _ ≤ _ := Nat.le_add_right _ _

/-- So there are no more moves that are due, one after another, than can be done by the time. -/
theorem dueBy_length (sound : chronicle.Sound) (timely : chronicle.Timely) {moves : List Move}
    (due : chronicle.DueBy target moves) : moves.length ≤ chronicle.performance.potential target := by
  induction moves generalizing chronicle with
  | nil => exact Nat.zero_le _
  | cons move rest more =>
      obtain ⟨first, later⟩ := due
      have fewer := more (sound.take move) (sound.take_timely timely move) later
      exact Nat.lt_of_le_of_lt fewer (sound.take_potential timely first)

/-- Whoever is polled first, steps enough for all that can be done take a chronicle, and its
performance with it, through moves that are due until it is idle. -/
theorem exhausts (sound : chronicle.Sound) (timely : chronicle.Timely) (order : PollOrder) (limit : Nat)
    (enough : chronicle.performance.potential target < limit) :
    ∃ moves, chronicle.DueBy target moves ∧
      exhaust (step order target) limit chronicle = some (chronicle.follow moves) ∧
      exhaust (Performance.stepBy order target) limit chronicle.performance =
        some (chronicle.follow moves).performance ∧
      (chronicle.follow moves).performance.Idle target := by
  induction limit generalizing chronicle with
  | zero => cases enough
  | succ limit more =>
      simp only [exhaust, timely.step_performance]
      cases steps : chronicle.step order target with
      | none =>
          have done : chronicle.performance.stepBy order target = none := by
            rw [timely.step_performance, steps]
            rfl
          exact ⟨[], trivial, rfl, rfl, Performance.idle_of_stepBy_eq_none done timely.punctual⟩
      | some next =>
          obtain ⟨move, first, rfl⟩ := step_cases steps
          have less := sound.take_potential timely first
          obtain ⟨moves, later, exhausted, passes, idle⟩ := more (sound.take move)
            (sound.take_timely timely move) (Nat.lt_of_lt_of_le less (Nat.le_of_lt_succ enough))
          exact ⟨move :: moves, ⟨first, later⟩, exhausted, passes, idle⟩

end Sound

/-! ## What happens meanwhile -/

/-- What a number of moves that are due may have done: the roster is as it was, a few events have
been published with each move, and swaps have begun epochs, one for each pair that has swapped
since. -/
structure Since (before after : Chronicle) (moves : Nat) : Prop where
  roster : after.stage.sprites.length = before.stage.sprites.length
  told : ∃ told, after.stage.log = before.stage.log ++ told ∧ told.length ≤ 4 * moves
  restarted : ∃ restarts, after.openings = before.openings ++ restarts ∧
    (∀ opening ∈ restarts, opening.cause = .swap) ∧
    after.stage.swapped.length = before.stage.swapped.length + restarts.length

namespace Since

theorem of_same {before after : Chronicle} (sprites : after.stage.sprites = before.stage.sprites)
    (log : after.stage.log = before.stage.log) (swapped : after.stage.swapped = before.stage.swapped)
    (openings : after.openings = before.openings) (moves : Nat) : before.Since after moves where
  roster := by rw [sprites]
  told := ⟨[], by simp [log], Nat.zero_le _⟩
  restarted := ⟨[], by simp [openings], by simp, by simp [swapped]⟩

theorem trans {before middle after : Chronicle} {first second : Nat}
    (one : before.Since middle first) (two : middle.Since after second) :
    before.Since after (first + second) where
  roster := two.roster.trans one.roster
  told := by
    obtain ⟨told, log, few⟩ := one.told
    obtain ⟨more, grown, fewMore⟩ := two.told
    refine ⟨told ++ more, by rw [grown, log, List.append_assoc], ?_⟩
    rw [List.length_append]
    omega
  restarted := by
    obtain ⟨restarts, openings, swaps, swapped⟩ := one.restarted
    obtain ⟨more, opened, swapsMore, swappedMore⟩ := two.restarted
    refine ⟨restarts ++ more, by rw [opened, openings, List.append_assoc], ?_, ?_⟩
    · intro opening member
      exact (List.mem_append.mp member).elim (swaps opening) (swapsMore opening)
    · rw [List.length_append]
      omega

end Since

/-- If the turn of a script begins an epoch, it does so with a swap. -/
theorem act_openings (chronicle : Chronicle) :
    chronicle.act.openings =
      if chronicle.act.stage.epoch = chronicle.stage.epoch then chronicle.openings
      else chronicle.openings ++
        [⟨.swap, chronicle.act.performance.now, chronicle.act.stage⟩] := by
  unfold act
  split
  · rfl
  · exact (if_pos rfl).symm

theorem turn_openings (chronicle : Chronicle) (place : Nat) :
    let after := chronicle.take (.turn place)
    (after.stage.epoch = chronicle.stage.epoch → after.openings = chronicle.openings) ∧
      (after.stage.epoch ≠ chronicle.stage.epoch →
        after.openings = chronicle.openings ++ [⟨.swap, after.performance.now, after.stage⟩]) := by
  simp only [take]
  rw [Performance.callUp_eq]
  exact ⟨fun same => (act_openings _).trans (if_pos same), fun new => (act_openings _).trans (if_neg new)⟩

/-- With a turn the stage receives one update at most. -/
theorem Sound.turn_since (sound : chronicle.Sound) (place : Nat) :
    chronicle.Since (chronicle.take (.turn place)) 1 := by
  obtain ⟨stays, opens⟩ := chronicle.turn_openings place
  obtain ⟨notes, ⟨same, _⟩ | ⟨task, _, _, update, received, _⟩⟩ := chronicle.turn_stage place
  · have epoch : (chronicle.take (.turn place)).stage.epoch = chronicle.stage.epoch := by rw [same]
    exact .of_same (by rw [same]) (by rw [same]; rfl) (by rw [same]) (stays epoch) 1
  · have noted : Stage.Numbered { chronicle.stage with notes } := sound.numbered
    have roster := (noted.receive_encore task.sprite update).1
    have told := Stage.receive_log { chronicle.stage with notes } task.sprite update
    have swapped := Stage.receive_swapped { chronicle.stage with notes } task.sprite update
    simp only at roster told swapped
    rw [← received] at roster told swapped
    refine ⟨roster, told, ?_⟩
    rcases swapped with ⟨epoch, pairs⟩ | ⟨epoch, pairs⟩
    · exact ⟨[], by rw [stays epoch, List.append_nil], by simp, congrArg List.length pairs⟩
    · have new : (chronicle.take (.turn place)).stage.epoch ≠ chronicle.stage.epoch := by
        rw [epoch]
        exact Nat.succ_ne_self _
      exact ⟨[_], opens new, by simp, pairs⟩

/-- So it is with one move after another. -/
theorem Sound.follow_since (sound : chronicle.Sound) {moves : List Move}
    (due : chronicle.DueBy target moves) :
    chronicle.Since (chronicle.follow moves) moves.length := by
  induction moves generalizing chronicle with
  | nil => exact .of_same rfl rfl rfl rfl 0
  | cons move rest more =>
      obtain ⟨first, later⟩ := due
      have one : chronicle.Since (chronicle.take move) 1 := by
        cases move with
        | amend | play | stop => cases first
        | turn place => exact sound.turn_since place
        | clock time => exact @Since.of_same chronicle (chronicle.take (.clock time)) rfl rfl rfl rfl 1
      have whole := one.trans (more (sound.take move) later)
      rw [List.length_cons, Nat.add_comm]
      exact whole

/-! ## Time passes -/

theorem Sound.follow_timely (sound : chronicle.Sound) (timely : chronicle.Timely) (moves : List Move) :
    (chronicle.follow moves).Sound ∧ (chronicle.follow moves).Timely :=
  follow_induction (fun later => later.Sound ∧ later.Timely)
    (fun _ move holds => ⟨holds.1.take move, holds.1.take_timely holds.2 move⟩) moves _
    ⟨sound, timely⟩

/-- What can be done while some milliseconds pass is within what is reckoned with. -/
theorem Timely.potential_lt (timely : chronicle.Timely) (milliseconds : Nat) :
    chronicle.performance.potential (chronicle.performance.now + milliseconds) <
      (milliseconds + 1) * (chronicle.performance.actsAtOnce + 1) := by
  have effort := Performance.effort_le_burden timely.fits
  have burden := chronicle.performance.burden_le
  rw [Performance.potential, Nat.add_sub_cancel_left]
  calc milliseconds * (chronicle.performance.burden + 1) + chronicle.performance.effort
      < milliseconds * (chronicle.performance.burden + 1) + (chronicle.performance.burden + 1) :=
        Nat.add_lt_add_left (Nat.lt_succ_of_le effort) _
    _ = (milliseconds + 1) * (chronicle.performance.burden + 1) := (Nat.succ_mul _ _).symm
    _ ≤ (milliseconds + 1) * (chronicle.performance.actsAtOnce + 1) :=
        Nat.mul_le_mul_left _ (Nat.add_le_add_right burden 1)

/-- What is reckoned with is enough to let some milliseconds pass. -/
theorem Sound.advances (sound : chronicle.Sound) (timely : chronicle.Timely) (order : PollOrder)
    (milliseconds : Nat) :
    let target := chronicle.performance.now + milliseconds
    ∃ moves, chronicle.DueBy target moves ∧
      let later := (chronicle.follow moves).performance
      later.Idle target ∧
        chronicle.performance.advanceBy order milliseconds = some { later with now := target } := by
  intro target
  obtain ⟨moves, due, _, exhausted, idle⟩ := sound.exhausts timely order
    (chronicle.performance.enough milliseconds) (Nat.lt_succ_of_lt (timely.potential_lt milliseconds))
  refine ⟨moves, due, idle, ?_⟩
  simp only [Performance.advanceBy, exhausted, Option.map_some, target]

/-- On a stage that was set up to take time for every frame, the scripts are on time. -/
theorem create_timely {project : Project} {hosted : Bool} {stage : Stage}
    (built : Stage.ofProject project hosted = .ok stage) (timed : 1 ≤ project.config.frameInterval) :
    (create stage).Sound ∧ (create stage).Timely :=
  ⟨.create (Stage.ofProject_numbered built),
    .create (Stage.ofProject_config built ▸ timed) (Stage.ofProject_unswapped built)⟩

/-- If every frame takes time, letting time pass comes to an end, whatever was done with the stage
before. The scripts go on until nobody is in line and everybody who wakes up does so after that
time. And whichever of those in line has the next turn each time, there are only so many moves, with
four events at most each; swaps start scripts anew at most once for each pair of sprites that had
not yet swapped; and from there the scripts can go on until nobody has anything to do. -/
theorem advance_terminates {project : Project} {hosted : Bool} {stage : Stage}
    (built : Stage.ofProject project hosted = .ok stage) (timed : 1 ≤ project.config.frameInterval)
    (moves : List Move) (milliseconds : Nat) :
    let chronicle := (create stage).follow moves
    let performance := chronicle.performance
    let target := performance.now + milliseconds
    let count := chronicle.stage.sprites.length
    (∃ steps, chronicle.DueBy target steps ∧
      let later := (chronicle.follow steps).performance
      later.Idle target ∧ performance.advance milliseconds = some { later with now := target }) ∧
    ∀ steps, chronicle.DueBy target steps →
      let after := chronicle.follow steps
      steps.length < (milliseconds + 1) * (performance.actsAtOnce + 1) ∧
        (∃ told, after.stage.log = chronicle.stage.log ++ told ∧ told.length ≤ 4 * steps.length) ∧
        (∃ restarts, after.openings = chronicle.openings ++ restarts ∧
          (∀ opening ∈ restarts, opening.cause = .swap) ∧
          chronicle.stage.swapped.length + restarts.length ≤ count * (count - 1) / 2) ∧
        ∃ more, after.DueBy target more ∧ (after.follow more).performance.Idle target := by
  intro chronicle performance target count
  obtain ⟨begun, onTime⟩ := create_timely built timed
  obtain ⟨sound, timely⟩ := begun.follow_timely onTime moves
  constructor
  · exact sound.advances timely .first milliseconds
  · intro steps due after
    obtain ⟨soundAfter, timelyAfter⟩ := sound.follow_timely timely steps
    have since := sound.follow_since due
    obtain ⟨restarts, openings, swaps, swapped⟩ := since.restarted
    have few := timelyAfter.paired.length_le
    obtain ⟨more, dueOn, _, _, idle⟩ := soundAfter.exhausts timelyAfter .first
      (after.performance.potential target + 1) (Nat.lt_succ_self _)
    refine ⟨?_, since.told, ⟨restarts, openings, swaps, ?_⟩, more, dueOn, idle⟩
    · exact Nat.lt_of_le_of_lt (sound.dueBy_length timely due) (timely.potential_lt milliseconds)
    · simp only [Stage.scene, since.roster] at few
      rw [← swapped]
      exact few

/-- Two sprites that go on forever: one jumps next to the other, and that one greets without any
pause. -/
def dancers : Project :=
  let jumper : SpriteDefinition :=
    { name := none, x := none, y := none, direction := 90
      blocks := [⟨.goTo, ⟨[("x", .integer 110)]⟩⟩, ⟨.repeatAnimation, ⟨[]⟩⟩] }
  let greeter : SpriteDefinition :=
    { name := none, x := none, y := none, direction := 90
      blocks := [⟨.sayFor, ⟨[("message", .string "hello"), ("seconds", .integer 0)]⟩⟩,
        ⟨.repeatAnimation, ⟨[]⟩⟩] }
  { config := { swapDistance := some 30 }, sprites := [jumper, greeter] }

/-- When the greeter has put up its greeting, the jumper jumps and they swap, and never again. -/
theorem advance_terminates_dancers :
    ∃ stage, Stage.ofProject dancers true = .ok stage ∧ 1 ≤ dancers.config.frameInterval ∧
      let chronicle := (create stage).follow [.play]
      let steps : List Move := [.turn 1, .turn 1]
      (∃ later, chronicle.performance.advance 100 = some later ∧ later.now = 100) ∧
        chronicle.DueBy 100 steps ∧
        ∃ restarts, (chronicle.follow steps).openings = chronicle.openings ++ restarts ∧
          restarts.length = 1 ∧ chronicle.stage.swapped.length + restarts.length ≤ 1 := by
  obtain ⟨stage, built⟩ : ∃ stage, Stage.ofProject dancers true = .ok stage := ⟨_, rfl⟩
  have whole : stage = dancers.sprites.foldl Stage.addDefinedSprite (.bare dancers.config) :=
    (Except.ok.inj built).symm
  have timed : 1 ≤ dancers.config.frameInterval := by decide
  have now : ((create stage).follow [.play]).performance.now + 100 = 100 := rfl
  have due : ((create stage).follow [.play]).DueBy 100 [.turn 1, .turn 1] := by
    subst whole
    decide +kernel
  have once : ((create stage).follow [.play]).openings.length = 1 ∧
      (((create stage).follow [.play]).follow [.turn 1, .turn 1]).openings.length = 2 ∧
      ((create stage).follow [.play]).stage.sprites.length = 2 := by
    subst whole
    decide +kernel
  obtain ⟨first, second, two⟩ := once
  obtain ⟨⟨steps, _, _, passes⟩, every⟩ := advance_terminates built timed [.play] 100
  obtain ⟨_, _, ⟨restarts, openings, _, few⟩, _⟩ := every [.turn 1, .turn 1] due
  rw [two] at few
  rw [openings, List.length_append, first] at second
  exact ⟨stage, built, timed, ⟨_, passes, now⟩, due, restarts, openings,
    Nat.add_left_cancel second, few⟩

end Chronicle

end SpriteStage
