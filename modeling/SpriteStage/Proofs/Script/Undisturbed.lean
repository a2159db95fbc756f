/-
Module: SpriteStage.Proofs.Script.Undisturbed
Purpose: Interpreters that nobody disturbs. A script on its own does one step after another, and a
  step leaves nothing to choose. So of two states that a script comes to, one lies on the way to the
  other, and what it has displayed in the first begins what it has displayed in the second. Steps
  are counted, because scripts that repeat their animation never end.
Main exports: Solo.after, Solo.step_ready, Solo.ReachesIn, Solo.Reaches, Solo.Reaches.total,
  Solo.Reaches.grows, Solo.Undisturbed, Solo.alone, Solo.advance_reaches
-/
import Mathlib.Tactic.Common
import SpriteStage.Script.Solo

namespace SpriteStage

namespace Solo

/-- A script on its own after some progress. -/
def after (solo : Solo) : Progress → Solo
  | .ended outcome => { solo with phase := .ended outcome }
  | .passed run | .skipped _ run => { solo with phase := .ready run }
  | .displayed update run =>
    { solo with phase := .ready run, updates := solo.updates.push (solo.now, update) }
  | .waiting length run => { solo with phase := .waiting (some (solo.now + length)) run }
  | .resting run => { solo with phase := .waiting none run }

/-- A script in line makes the progress that the state of its epoch allows. -/
theorem step_ready {solo : Solo} {run : Run} (ready : solo.phase = .ready run) (target : Nat) :
    solo.step target = some (solo.after (run.proceed solo.config
      (solo.permit.isCurrent solo.epochs) (!solo.epochs.closed))) := by
  simp only [step, ready]
  cases run.proceed solo.config (solo.permit.isCurrent solo.epochs) (!solo.epochs.closed) <;> rfl

/-- What a step does, as far as it can be told without knowing the script: the clock moves to a
wake-up, a wait that was broken off ends the script, or the script makes progress. -/
theorem step_cases {solo next : Solo} {target : Nat} (steps : solo.step target = some next) :
    (∃ wake run, solo.phase = .waiting (some wake) run ∧ wake ≤ target ∧
        next = { solo with now := wake, phase := .ready run }) ∨
      (solo.phase = .interrupted ∧ next = { solo with phase := .ended .cancelled }) ∨
      ∃ run, solo.phase = .ready run ∧ next = solo.after (run.proceed solo.config
        (solo.permit.isCurrent solo.epochs) (!solo.epochs.closed)) := by
  cases phase : solo.phase with
  | unspawned => simp [step, phase] at steps
  | ended outcome => simp [step, phase] at steps
  | interrupted =>
      simp only [step, phase, Option.some.injEq] at steps
      exact Or.inr (Or.inl ⟨rfl, steps.symm⟩)
  | ready run =>
      rw [step_ready phase, Option.some.injEq] at steps
      exact Or.inr (Or.inr ⟨run, rfl, steps.symm⟩)
  | waiting wake run =>
      cases wake with
      | none => simp [step, phase] at steps
      | some wake =>
          simp only [step, phase] at steps
          split at steps
          · rename_i due
            rw [Option.some.injEq] at steps
            exact Or.inl ⟨wake, run, rfl, due, steps.symm⟩
          · cases steps

/-- There is at most one next state, however far the clock may go. -/
theorem step_deterministic {solo first second : Solo} {near far : Nat}
    (one : solo.step near = some first) (two : solo.step far = some second) : first = second := by
  rcases step_cases one with ⟨wake, run, phase, _, rfl⟩ | ⟨phase, rfl⟩ | ⟨run, phase, rfl⟩ <;>
    rcases step_cases two with ⟨wake', run', phase', _, rfl⟩ | ⟨phase', rfl⟩ | ⟨run', phase', rfl⟩ <;>
    rw [phase] at phase' <;> cases phase' <;> rfl

/-! ## Many steps -/

/-- A number of steps leads from one state to another. -/
inductive ReachesIn : Nat → Solo → Solo → Prop where
  | refl (solo : Solo) : ReachesIn 0 solo solo
  | step {count target : Nat} {first middle last : Solo}
      (head : first.step target = some middle) (tail : ReachesIn count middle last) :
      ReachesIn (count + 1) first last

/-- Steps lead from one state to another. -/
def Reaches (first last : Solo) : Prop := ∃ count, ReachesIn count first last

namespace ReachesIn

theorem trans {many more : Nat} {first middle last : Solo} (one : ReachesIn many first middle)
    (two : ReachesIn more middle last) : ReachesIn (many + more) first last := by
  induction one with
  | refl => simpa using two
  | step head tail inner =>
      rw [Nat.add_right_comm]
      exact .step head (inner two)

theorem single {target : Nat} {first last : Solo} (steps : first.step target = some last) :
    ReachesIn 1 first last :=
  .step steps (.refl last)

/-- The state after fewer steps lies on the way to the state after more. -/
theorem rest {few many : Nat} {first middle last : Solo} (one : ReachesIn few first middle)
    (two : ReachesIn many first last) (fewer : few ≤ many) :
    ReachesIn (many - few) middle last := by
  induction one generalizing many with
  | refl => simpa using two
  | step head tail inner =>
      cases two with
      | refl => simp at fewer
      | step head' tail' =>
          rw [step_deterministic head head'] at inner
          have left := inner tail' (Nat.le_of_succ_le_succ fewer)
          simpa using left

/-- What all steps keep is so after any number of them. -/
theorem induction {count : Nat} {first last : Solo} (reaches : ReachesIn count first last)
    (holds : Solo → Prop)
    (kept : ∀ solo next target, holds solo → solo.step target = some next → holds next)
    (begun : holds first) : holds last := by
  induction reaches with
  | refl => exact begun
  | step head tail inner => exact inner (kept _ _ _ begun head)

end ReachesIn

namespace Reaches

theorem refl (solo : Solo) : solo.Reaches solo := ⟨0, .refl solo⟩

theorem trans {first middle last : Solo} (one : first.Reaches middle)
    (two : middle.Reaches last) : first.Reaches last := by
  obtain ⟨many, one⟩ := one
  obtain ⟨more, two⟩ := two
  exact ⟨many + more, one.trans two⟩

theorem single {target : Nat} {first last : Solo} (steps : first.step target = some last) :
    first.Reaches last :=
  ⟨1, .single steps⟩

/-- Of two states that a script comes to, one lies on the way to the other. -/
theorem total {start first second : Solo} (one : start.Reaches first)
    (two : start.Reaches second) : first.Reaches second ∨ second.Reaches first := by
  obtain ⟨few, one⟩ := one
  obtain ⟨many, two⟩ := two
  rcases Nat.le_total few many with fewer | more
  · exact Or.inl ⟨_, one.rest two fewer⟩
  · exact Or.inr ⟨_, two.rest one more⟩

/-- What all steps keep is so ever after. -/
theorem induction {first last : Solo} (reaches : first.Reaches last) (holds : Solo → Prop)
    (kept : ∀ solo next target, holds solo → solo.step target = some next → holds next)
    (begun : holds first) : holds last := by
  obtain ⟨count, reaches⟩ := reaches
  exact reaches.induction holds kept begun

end Reaches

/-- From an outcome there is no way on. -/
theorem Reaches.eq_of_ended {first last : Solo} {outcome : Outcome}
    (ended : first.phase = .ended outcome) (reaches : first.Reaches last) : last = first := by
  obtain ⟨count, reaches⟩ := reaches
  cases reaches with
  | refl => rfl
  | step head tail => simp [step, ended] at head

/-! ## What steps keep -/

theorem after_keeps (solo : Solo) (progress : Progress) :
    (solo.after progress).config = solo.config ∧ (solo.after progress).permit = solo.permit ∧
      (solo.after progress).epochs = solo.epochs := by
  cases progress <;> exact ⟨rfl, rfl, rfl⟩

theorem step_keeps {solo next : Solo} {target : Nat} (steps : solo.step target = some next) :
    next.config = solo.config ∧ next.permit = solo.permit ∧ next.epochs = solo.epochs := by
  rcases step_cases steps with ⟨_, _, _, _, rfl⟩ | ⟨_, rfl⟩ | ⟨_, _, rfl⟩
  · exact ⟨rfl, rfl, rfl⟩
  · exact ⟨rfl, rfl, rfl⟩
  · exact after_keeps solo _

/-- Whatever the script still displays, it does not display it before a time. -/
def SilentBefore (time : Nat) (solo : Solo) : Prop :=
  match solo.phase with
  | .ready _ => time ≤ solo.now
  | .waiting (some wake) _ => time ≤ wake
  | _ => True

theorem SilentBefore.zero (solo : Solo) : solo.SilentBefore 0 := by
  unfold SilentBefore
  split <;> first | exact Nat.zero_le _ | trivial

theorem SilentBefore.step {time target : Nat} {solo next : Solo} (silent : solo.SilentBefore time)
    (steps : solo.step target = some next) :
    next.SilentBefore time ∧ ∃ more, next.updates.toList = solo.updates.toList ++ more ∧
      ∀ entry ∈ more, time ≤ entry.1 := by
  rcases step_cases steps with ⟨wake, run, phase, _, rfl⟩ | ⟨phase, rfl⟩ | ⟨run, phase, rfl⟩
  · refine ⟨?_, [], by simp⟩
    simpa only [SilentBefore, phase] using silent
  · exact ⟨trivial, [], by simp⟩
  · have passed : time ≤ solo.now := by simpa only [SilentBefore, phase] using silent
    cases run.proceed solo.config (solo.permit.isCurrent solo.epochs) (!solo.epochs.closed) with
    | displayed update run =>
        refine ⟨passed, [(solo.now, update)], by simp [after], ?_⟩
        intro entry member
        rw [List.mem_singleton.mp member]
        exact passed
    | waiting length run => exact ⟨Nat.le_add_right_of_le passed, [], by simp [after]⟩
    | ended outcome => exact ⟨trivial, [], by simp [after]⟩
    | resting run => exact ⟨trivial, [], by simp [after]⟩
    | _ => exact ⟨passed, [], by simp [after]⟩

/-- What has been displayed stays, and what is added to it is not earlier than it can be. -/
theorem Reaches.grows {time : Nat} {first last : Solo} (reaches : first.Reaches last)
    (silent : first.SilentBefore time) :
    ∃ more, last.updates.toList = first.updates.toList ++ more ∧
      ∀ entry ∈ more, time ≤ entry.1 := by
  have kept := reaches.induction
    (fun solo => solo.SilentBefore time ∧ ∃ more,
      solo.updates.toList = first.updates.toList ++ more ∧ ∀ entry ∈ more, time ≤ entry.1)
    (by
      rintro solo next target ⟨quiet, more, shown, later⟩ steps
      obtain ⟨quietNext, added, shownNext, laterNext⟩ := quiet.step steps
      refine ⟨quietNext, more ++ added, by rw [shownNext, shown, List.append_assoc], ?_⟩
      intro entry member
      rcases List.mem_append.mp member with old | new
      · exact later entry old
      · exact laterNext entry new)
    ⟨silent, [], by simp⟩
  exact kept.2

/-! ## Nobody disturbs -/

/-- The script plays as configured, its epoch lasts and the count of epochs is open. -/
structure Undisturbed (config : Config) (solo : Solo) : Prop where
  plays : solo.config = config
  current : solo.permit.isCurrent solo.epochs = true
  counting : solo.epochs.closed = false

theorem Undisturbed.step {config : Config} {solo next : Solo} {target : Nat}
    (undisturbed : solo.Undisturbed config) (steps : solo.step target = some next) :
    next.Undisturbed config := by
  obtain ⟨plays, permit, epochs⟩ := step_keeps steps
  refine ⟨plays.trans undisturbed.plays, ?_, ?_⟩
  · rw [permit, epochs]
    exact undisturbed.current
  · rw [epochs]
    exact undisturbed.counting

theorem Undisturbed.reaches {config : Config} {first last : Solo}
    (undisturbed : first.Undisturbed config) (reaches : first.Reaches last) :
    last.Undisturbed config :=
  reaches.induction _ (fun _ _ _ undisturbed steps => undisturbed.step steps) undisturbed

/-- A script in line that nobody disturbs makes all progress that it can. -/
theorem Undisturbed.step_ready {config : Config} {solo : Solo} {run : Run}
    (undisturbed : solo.Undisturbed config) (ready : solo.phase = .ready run) (target : Nat) :
    solo.step target = some (solo.after (run.proceed config true true)) := by
  rw [Solo.step_ready ready, undisturbed.plays, undisturbed.current, undisturbed.counting]
  rfl

/-- A script that is spawned at a time and that nobody disturbs from then on. -/
def alone (config : Config) (pose : Pose) (blocks : List Block) (time : Nat) : Solo :=
  { create config pose blocks with now := time }.spawn

theorem alone_undisturbed (config : Config) (pose : Pose) (blocks : List Block) (time : Nat) :
    (alone config pose blocks time).Undisturbed config :=
  ⟨rfl, rfl, rfl⟩

/-- Letting time pass takes all steps that are due by then. -/
theorem advance_reaches {solo later : Solo} {milliseconds : Nat}
    (passes : solo.advance milliseconds = some later) :
    ∃ last, solo.Reaches last ∧ last.step (solo.now + milliseconds) = none ∧
      later = { last with now := solo.now + milliseconds } := by
  obtain ⟨last, exhausted, rfl⟩ := Option.map_eq_some_iff.mp passes
  refine ⟨last, ?_, exhaust_done _ _ _ exhausted, rfl⟩
  exact exhaust_induction solo.Reaches
    (fun state next reached steps => reached.trans (.single steps)) _ _ _ (.refl solo) exhausted

end Solo

end SpriteStage
