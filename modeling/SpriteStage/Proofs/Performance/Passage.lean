/-
Module: SpriteStage.Proofs.Performance.Passage
Purpose: The virtual clock. Advancing it is a list of moves: a poll of the first task in line while
  a task is ready, and a move of the clock to the next wake-up of a timer otherwise. In it the clock
  passes nobody by, so what is true of all chronicles on time is true of performances as they are
  run: by requests to edit, play or stop the stage and to let time pass.
Main exports: Performance.Punctual, Chronicle.step_onTime, Chronicle.advance_onTime, Request,
  Performance.serveAll, Chronicle.serveAll_induction, Chronicle.serveAll_onTime
-/
import SpriteStage.Proofs.Performance.Chronicle

namespace SpriteStage

namespace Performance

/-- The clock has passed nobody's wake-up. -/
def Punctual (performance : Performance) : Prop :=
  ∀ waiter ∈ performance.waiting, ∀ wake, waiter.wake = some wake → performance.now ≤ wake

theorem create_punctual (stage : Stage) : (create stage).Punctual := nofun

/-- A changed stage lets nobody begin to wait. -/
theorem Punctual.resume {performance : Performance} (punctual : performance.Punctual)
    (changed : Stage × List Script) : (performance.resume changed).Punctual := by
  intro waiter member
  exact punctual waiter (List.mem_of_mem_filter member)

/-- A script in line can act, which takes no time. -/
theorem act_punctual {performance : Performance} {task : Task} {others : List Task}
    (line : performance.ready = task :: others) (punctual : performance.Punctual) :
    ∃ next, performance.act = some next ∧ next.now = performance.now ∧ next.Punctual := by
  by_cases silent : ∀ update run, performance.progress task ≠ .displayed update run
  · obtain ⟨notes, acts⟩ := act_silent line silent
    refine ⟨_, acts, rfl, ?_⟩
    intro waiter member wake wakes
    rcases List.mem_append.mp member with old | new
    · exact punctual waiter old wake wakes
    · revert new
      cases performance.progress task with
      | waiting length run =>
          intro new
          rw [List.mem_singleton.mp new, Option.some.injEq] at wakes
          exact Nat.le.intro wakes
      | resting run =>
          intro new
          rw [List.mem_singleton.mp new] at wakes
          cases wakes
      | _ => exact nofun
  · simp only [ne_eq, not_forall, not_not] at silent
    obtain ⟨update, run, shown⟩ := silent
    obtain ⟨notes, acts⟩ := act_displayed line shown
    have waits : { performance with
        ready := task.after (.displayed update run) :: others }.Punctual := punctual
    exact ⟨_, acts, rfl, waits.resume _⟩

/-- Calling somebody up leaves nobody in line only if nobody was. -/
theorem callUp_eq_nil_iff {performance : Performance} {place : Nat} :
    (performance.callUp place).ready = [] ↔ performance.ready = [] :=
  ⟨fun nobody => (nobody ▸ performance.callUp_perm place).nil_eq.symm,
    fun nobody => (nobody ▸ performance.callUp_perm place).eq_nil⟩

theorem Punctual.callUp {performance : Performance} (punctual : performance.Punctual) (place : Nat) :
    (performance.callUp place).Punctual := by
  rw [callUp_eq]
  exact punctual

/-- Whoever is called up while somebody is in line can act. -/
theorem Punctual.callUp_acts {performance : Performance} (punctual : performance.Punctual)
    (line : performance.ready ≠ []) (place : Nat) :
    ∃ next, (performance.callUp place).act = some next := by
  obtain ⟨task, others, inLine⟩ := List.exists_cons_of_ne_nil (mt callUp_eq_nil_iff.mp line)
  obtain ⟨next, acts, _⟩ := act_punctual inLine (punctual.callUp place)
  exact ⟨next, acts⟩

/-- The clock moves to the first wake-up, where whoever still waits wakes up later. -/
theorem tick_punctual {performance next : Performance} {target : Nat}
    (ticks : performance.tick target = some next) (punctual : performance.Punctual) :
    ∃ time, next = performance.wakeAt (max performance.now time) ∧ next.now ≤ target ∧
      next.Punctual ∧
      ∀ waiter ∈ performance.waiting, ∀ wake, waiter.wake = some wake → time ≤ wake := by
  unfold tick at ticks
  cases first : nextWake performance.waiting with
  | none => simp [first] at ticks
  | some time =>
      simp only [first] at ticks
      split at ticks
      · rename_i due
        obtain ⟨listed, least⟩ := List.min?_eq_some_iff.mp first
        obtain ⟨sleeper, member, wakes⟩ := List.mem_filterMap.mp listed
        have passed := punctual sleeper member time wakes
        rw [Option.some.injEq] at ticks
        subst ticks
        refine ⟨time, by rw [Nat.max_eq_right passed], due, ?_, ?_⟩
        · intro waiter inside wake wakes
          obtain ⟨inside, late⟩ := List.mem_filter.mp inside
          simp only [isDue, wakes, Option.any_some, Bool.not_eq_true', decide_eq_false_iff_not] at late
          exact Nat.le_of_not_le late
        · intro waiter inside wake wakes
          exact least wake (List.mem_filterMap.mpr ⟨waiter, inside, wakes⟩)
      · cases ticks

/-- If there is nothing to do by some time, nobody is in line and everybody wakes up later. -/
theorem idle_of_step_eq_none {performance : Performance} {target : Nat}
    (done : performance.step target = none) (punctual : performance.Punctual) :
    performance.ready = [] ∧
      ∀ waiter ∈ performance.waiting, ∀ wake, waiter.wake = some wake → target < wake := by
  cases line : performance.ready with
  | cons task others =>
      obtain ⟨next, acts, _⟩ := act_punctual line punctual
      simp [step, line, acts] at done
  | nil =>
      refine ⟨rfl, ?_⟩
      intro waiter inside wake wakes
      simp only [step, line, tick] at done
      have listed : wake ∈ performance.waiting.filterMap Waiter.wake :=
        List.mem_filterMap.mpr ⟨waiter, inside, wakes⟩
      cases first : nextWake performance.waiting with
      | none =>
          rw [nextWake, List.min?_eq_none_iff] at first
          rw [first] at listed
          cases listed
      | some time =>
          simp only [first, ite_eq_right_iff, reduceCtorEq, imp_false] at done
          have least := (List.min?_eq_some_iff.mp first).2 wake listed
          omega

theorem callUp_zero (performance : Performance) : performance.callUp 0 = performance := by
  obtain ⟨_, _, ready, _⟩ := performance
  cases ready with
  | nil => rfl
  | cons task others => rfl

variable {performance : Performance} {order : PollOrder} {target : Nat}

/-- While somebody is in line, the script that is polled next does an act. -/
theorem stepBy_of_ready (line : performance.ready ≠ []) :
    order.place performance < performance.ready.length ∧
      performance.stepBy order target = (performance.callUp (order.place performance)).act := by
  constructor
  · have inLine := List.length_pos_iff.mpr line
    unfold PollOrder.place
    split <;> assumption
  · rw [stepBy, step]
    split
    · rename_i nobody
      exact absurd (callUp_eq_nil_iff.mp nobody) line
    · rfl

/-- When nobody is in line, the clock moves. -/
theorem stepBy_of_idle (line : performance.ready = []) :
    performance.stepBy order target = performance.tick target := by
  have same : performance.callUp (order.place performance) = performance := by
    simp [callUp, line]
  rw [stepBy, same, step, line]

/-- Whoever is polled next, if there is nothing to do then nobody is in line and everybody wakes up
later. -/
theorem idle_of_stepBy_eq_none (done : performance.stepBy order target = none)
    (punctual : performance.Punctual) :
    performance.ready = [] ∧
      ∀ waiter ∈ performance.waiting, ∀ wake, waiter.wake = some wake → target < wake := by
  rw [stepBy] at done
  obtain ⟨nobody, late⟩ := idle_of_step_eq_none done (punctual.callUp _)
  rw [callUp_eq] at late
  exact ⟨callUp_eq_nil_iff.mp nobody, late⟩

/-- Steps in which the first in line is always polled first. -/
theorem stepBy_first : stepBy .first = step := by
  funext target performance
  have place : PollOrder.first.place performance = 0 := ite_self 0
  rw [stepBy, place, callUp_zero]

theorem advance_eq (performance : Performance) (milliseconds : Nat) :
    performance.advance milliseconds =
      (exhaust (step (performance.now + milliseconds)) (performance.enough milliseconds)
        performance).map fun last => { last with now := performance.now + milliseconds } := by
  rw [advance, advanceBy, stepBy_first]

/-- When time has passed, nobody is in line. -/
theorem ready_of_advance {performance later : Performance} {milliseconds : Nat}
    (passes : performance.advance milliseconds = some later) : later.ready = [] := by
  rw [advance_eq] at passes
  obtain ⟨last, exhausted, rfl⟩ := Option.map_eq_some_iff.mp passes
  have done := exhaust_done _ _ _ exhausted
  cases line : last.ready with
  | nil => rfl
  | cons task others =>
      simp only [step, line, act] at done
      split at done <;> cases done

/-- If nobody wakes up by some time, moving the clock there is all that happens. -/
theorem wakeAt_of_late {performance : Performance} {time : Nat}
    (late : ∀ waiter ∈ performance.waiting, ∀ wake, waiter.wake = some wake → time < wake) :
    performance.wakeAt time = { performance with now := time } := by
  have asleep : ∀ waiter ∈ performance.waiting, isDue time waiter = false := by
    intro waiter member
    cases wakes : waiter.wake with
    | none => simp [isDue, wakes]
    | some wake => simpa [isDue, wakes] using late waiter member wake wakes
  have nobody : performance.waiting.filter (isDue time) = [] :=
    List.filter_eq_nil_iff.mpr fun waiter member => by simp [asleep waiter member]
  have everybody : (performance.waiting.filter fun waiter => !isDue time waiter) =
      performance.waiting :=
    List.filter_eq_self.mpr fun waiter member => by simp [asleep waiter member]
  simp [wakeAt, nobody, everybody]

end Performance

namespace Chronicle

theorem onTime_append {chronicle : Chronicle} {first second : List Move} :
    chronicle.OnTime (first ++ second) ↔
      chronicle.OnTime first ∧ (chronicle.follow first).OnTime second := by
  induction first generalizing chronicle with
  | nil => simp [OnTime, follow]
  | cons move rest more =>
      simp only [List.cons_append, OnTime, more, and_assoc]
      rfl

/-- One move more on time. -/
theorem OnTime.concat {chronicle : Chronicle} {moves : List Move} {move : Move}
    (onTime : chronicle.OnTime moves) (next : move.OnTime (chronicle.follow moves).performance) :
    chronicle.OnTime (moves ++ [move]) ∧
      chronicle.follow (moves ++ [move]) = (chronicle.follow moves).take move := by
  refine ⟨onTime_append.mpr ⟨onTime, next, trivial⟩, ?_⟩
  simp [follow]

/-- The turn of the script at a place in line. -/
theorem take_turn {chronicle : Chronicle} {next : Performance} {place : Nat}
    (acts : (chronicle.performance.callUp place).act = some next) :
    (chronicle.take (.turn place)).performance = next := by
  simp only [take, act, acts]
  cases line : (chronicle.performance.callUp place).ready with
  | nil => simp [Performance.act, line] at acts
  | cons task others => rfl

/-- A step that is due by some time is a move on time. -/
theorem step_onTime {chronicle : Chronicle} {next : Performance} {target : Nat}
    (punctual : chronicle.performance.Punctual) (early : chronicle.performance.now ≤ target)
    (steps : chronicle.performance.step target = some next) :
    ∃ move : Move, move.OnTime chronicle.performance ∧ (chronicle.take move).performance = next ∧
      next.Punctual ∧ next.now ≤ target := by
  cases line : chronicle.performance.ready with
  | cons task others =>
      obtain ⟨acted, acts, now, kept⟩ := Performance.act_punctual line punctual
      simp only [Performance.step, line, acts, Option.some.injEq] at steps
      subst steps
      exact ⟨.turn 0, trivial, take_turn (Performance.callUp_zero _ ▸ acts), kept, now.symm ▸ early⟩
  | nil =>
      simp only [Performance.step, line] at steps
      obtain ⟨time, rfl, inTime, kept, least⟩ := Performance.tick_punctual steps punctual
      exact ⟨.clock time, ⟨line, least⟩, rfl, kept, inTime⟩

/-- To let time pass is to follow moves on time. -/
theorem advance_onTime {chronicle : Chronicle} {later : Performance} {milliseconds : Nat}
    (punctual : chronicle.performance.Punctual)
    (passes : chronicle.performance.advance milliseconds = some later) :
    ∃ moves, chronicle.OnTime moves ∧ (chronicle.follow moves).performance = later ∧
      later.Punctual := by
  rw [Performance.advance_eq] at passes
  obtain ⟨last, exhausted, rfl⟩ := Option.map_eq_some_iff.mp passes
  have done := exhaust_done _ _ _ exhausted
  obtain ⟨moves, onTime, rfl, kept, early⟩ := exhaust_induction
    (fun state => ∃ moves, chronicle.OnTime moves ∧ (chronicle.follow moves).performance = state ∧
      state.Punctual ∧ state.now ≤ chronicle.performance.now + milliseconds)
    (by
      rintro state next ⟨moves, onTime, rfl, kept, early⟩ steps
      obtain ⟨move, now, taken, keptNext, earlyNext⟩ := step_onTime kept early steps
      obtain ⟨onTimeNext, follows⟩ := onTime.concat now
      exact ⟨moves ++ [move], onTimeNext, by rw [follows, taken], keptNext, earlyNext⟩)
    _ _ _ ⟨[], trivial, rfl, punctual, Nat.le_add_right _ _⟩ exhausted
  obtain ⟨nobody, late⟩ := Performance.idle_of_step_eq_none done kept
  have now : (Move.clock (chronicle.performance.now + milliseconds)).OnTime
      (chronicle.follow moves).performance :=
    ⟨nobody, fun waiter member wake wakes => Nat.le_of_lt (late waiter member wake wakes)⟩
  obtain ⟨onTimeNext, follows⟩ := onTime.concat now
  refine ⟨_, onTimeNext, ?_, ?_⟩
  · rw [follows]
    simp only [take, Nat.max_eq_right early]
    exact Performance.wakeAt_of_late late
  · intro waiter member wake wakes
    exact Nat.le_of_lt (late waiter member wake wakes)

end Chronicle

/-! ## Requests -/

/-- What can be asked of a performance from outside. -/
inductive Request where
  | amend (amendment : Amendment)
  | play
  | stop
  | advance (milliseconds : Nat)
deriving DecidableEq, Repr

namespace Performance

/-- The performance after a request. -/
def serve (performance : Performance) : Request → Option Performance
  | .amend amendment => some (performance.edited (performance.stage.amend amendment))
  | .play => some performance.play
  | .stop => some performance.stop
  | .advance milliseconds => performance.advance milliseconds

/-- The performance after some requests. -/
def serveAll (performance : Performance) (requests : List Request) : Option Performance :=
  requests.foldlM serve performance

end Performance

namespace Chronicle

/-- To serve a request is to follow moves on time. -/
theorem serve_onTime {chronicle : Chronicle} {later : Performance} {request : Request}
    (punctual : chronicle.performance.Punctual)
    (serves : chronicle.performance.serve request = some later) :
    ∃ moves, chronicle.OnTime moves ∧ (chronicle.follow moves).performance = later ∧
      later.Punctual := by
  cases request with
  | amend amendment =>
      cases serves
      exact ⟨[.amend amendment], ⟨trivial, trivial⟩, rfl, punctual⟩
  | play =>
      cases serves
      exact ⟨[.play], ⟨trivial, trivial⟩, rfl, punctual.resume _⟩
  | stop =>
      cases serves
      exact ⟨[.stop], ⟨trivial, trivial⟩, rfl, punctual.resume _⟩
  | advance milliseconds => exact advance_onTime punctual serves

/-- If to serve a request is to follow moves of some kind, and such moves can follow one another,
then to serve requests one after another is to follow moves of that kind. -/
theorem serveAll_induction (kind : Chronicle → List Move → Prop) (nothing : ∀ chronicle, kind chronicle [])
    (append : ∀ chronicle first second, kind chronicle first → kind (chronicle.follow first) second →
      kind chronicle (first ++ second))
    (serves : ∀ (chronicle : Chronicle) request later, chronicle.performance.Punctual →
      chronicle.performance.serve request = some later →
        ∃ moves, kind chronicle moves ∧ (chronicle.follow moves).performance = later ∧
          later.Punctual) :
    ∀ (requests : List Request) (chronicle : Chronicle) (later : Performance),
      chronicle.performance.Punctual → chronicle.performance.serveAll requests = some later →
        ∃ moves, kind chronicle moves ∧ (chronicle.follow moves).performance = later := by
  intro requests
  induction requests with
  | nil =>
      rintro chronicle later _ ⟨⟩
      exact ⟨[], nothing chronicle, rfl⟩
  | cons request rest more =>
      intro chronicle later punctual served
      obtain ⟨middle, first, servedRest⟩ := Option.bind_eq_some_iff.mp served
      obtain ⟨moves, ofKind, rfl, kept⟩ := serves chronicle request middle punctual first
      obtain ⟨further, ofKindRest, follows⟩ := more _ later kept servedRest
      refine ⟨moves ++ further, append chronicle moves further ofKind ofKindRest, ?_⟩
      rw [← follows]
      simp [follow]

/-- To serve requests one after another is to follow moves on time. -/
theorem serveAll_onTime {chronicle : Chronicle} {later : Performance} {requests : List Request}
    (punctual : chronicle.performance.Punctual)
    (serves : chronicle.performance.serveAll requests = some later) :
    ∃ moves, chronicle.OnTime moves ∧ (chronicle.follow moves).performance = later :=
  serveAll_induction OnTime (fun _ => trivial)
    (fun _ _ _ first second => onTime_append.mpr ⟨first, second⟩) (fun _ _ _ => serve_onTime)
    requests chronicle later punctual serves

end Chronicle

end SpriteStage
