/-
Module: SpriteStage.Proofs.Script.Cancellation
Purpose: Cancelling an interpreter. Between its polls it can be spawned as a task, the scheduler can
  bump its epoch, and the scheduler can be dropped; the clock moves when the task has nothing to do.
  Whatever the schedule, the sink was handed what it would have been handed by some moment if nobody
  had disturbed the script. Once its run token is stale the script displays nothing more and ends
  with its next step, without waiting; so does a script whose wait is broken off because the
  scheduler is gone.
Main exports: Solo.Scheduled, Solo.Scheduled.advance, Solo.Tracks, Solo.Scheduled.tracks,
  Solo.BrokenOff, Solo.cancellation_truncates
-/
import SpriteStage.Proofs.Script.Undisturbed

namespace SpriteStage

/-- What becomes of an act in any state of the epochs: a run that no longer counts, or cannot wait,
is cancelled; otherwise all is as if nobody had disturbed it. -/
theorem Run.proceed_cases (config : Config) (current connected : Bool) (run : Run) :
    (run.proceed config current connected = .ended .cancelled ∧
        (current && connected) = false) ∨
      run.proceed config current connected = run.proceed config true true ∧
        match run.proceed config true true with
        | .ended outcome => outcome = .finished
        | .waiting _ _ | .resting _ => (current && connected) = true
        | .passed _ | .skipped _ _ | .displayed _ _ => current = true := by
  cases next : run.next config with
  | none => exact Or.inr (by simp [proceed, next])
  | some acts =>
      obtain ⟨act, later⟩ := acts
      cases current with
      | false => exact Or.inl (by simp [proceed, next])
      | true =>
          cases act with
          | pause length =>
              cases connected with
              | false => exact Or.inl (by simp [proceed_pause next])
              | true => by_cases none : length.milliseconds = 0 <;> simp [proceed_pause next, none]
          | rest => cases connected <;> simp [proceed, next]
          | _ => exact Or.inr (by simp [proceed, next])

/-- A run that has something left to do is cancelled when it no longer counts. -/
theorem Run.proceed_stale {config : Config} {run : Run} (goesOn : run.next config ≠ none)
    (connected : Bool) : run.proceed config false connected = .ended .cancelled := by
  obtain ⟨⟨act, later⟩, next⟩ := Option.ne_none_iff_exists'.mp goesOn
  simp [proceed, next]

/-- A script with blocks has something to do. -/
theorem Run.start_goesOn (config : Config) (pose : Pose) {blocks : List Block}
    (filled : blocks ≠ []) : (start pose blocks).next config ≠ none := by
  obtain ⟨first, rest, rfl⟩ := List.exists_cons_of_ne_nil filled
  by_cases repeated : repeats first = true
  · simp [start, next, endPass, repeated]
  · simp [start, next, repeated]

namespace Solo

/-! ## Schedules -/

/-- Whether the script is in line. -/
def inLine (solo : Solo) : Bool :=
  match solo.phase with
  | .ready _ => true
  | _ => false

/-- A schedule leads from one state to another. The flag says that the script is in the middle of a
turn; only its own steps can follow then. The clock moves while the script has nothing to do, and
not past its wake-up. -/
inductive Scheduled (first : Solo) : Bool → Solo → Prop where
  | begin : Scheduled first false first
  | spawn {solo : Solo} (before : Scheduled first false solo) : Scheduled first false solo.spawn
  | nextEpoch {solo : Solo} (before : Scheduled first false solo) :
      Scheduled first false solo.nextEpoch
  | close {solo : Solo} (before : Scheduled first false solo) : Scheduled first false solo.close
  | act {busy : Bool} {solo next : Solo} (before : Scheduled first busy solo)
      (acts : solo.step solo.now = some next) : Scheduled first next.inLine next
  | clock {solo : Solo} {time : Nat} (before : Scheduled first false solo)
      (idle : solo.step solo.now = none) (forward : solo.now ≤ time)
      (early : ∀ wake run, solo.phase = .waiting (some wake) run → time ≤ wake) :
      Scheduled first false { solo with now := time }

/-- A wait is broken off if it cannot go on, and then nothing but the phase changes. -/
theorem interrupt_cases (solo : Solo) :
    (solo.interrupt = solo ∧ ∀ wake run, solo.phase = .waiting wake run →
        solo.permit.isInterrupted solo.epochs = false) ∨
      solo.interrupt = { solo with phase := .interrupted } ∧
        solo.permit.isInterrupted solo.epochs = true := by
  cases phase : solo.phase with
  | waiting wake run =>
      cases lapsed : solo.permit.isInterrupted solo.epochs with
      | true => exact Or.inr ⟨by simp [interrupt, phase, lapsed], rfl⟩
      | false => exact Or.inl ⟨by simp [interrupt, phase, lapsed], fun _ _ _ => rfl⟩
  | _ => exact Or.inl ⟨by simp [interrupt, phase], nofun⟩

/-! ## Agreement with a script that nobody disturbs -/

/-- A disturbed script stands where an undisturbed one stands, or has been cut off. While it waits
its wait is not over for good, and the clock has not passed its wake-up. -/
inductive Agrees (solo plain : Solo) : Prop where
  | ready (run : Run) (here : solo.phase = .ready run) (there : plain.phase = .ready run)
      (now : plain.now = solo.now)
  | waiting (wake : Option Nat) (run : Run) (here : solo.phase = .waiting wake run)
      (there : plain.phase = .waiting wake run)
      (fresh : solo.permit.isInterrupted solo.epochs = false)
      (punctual : ∀ time, wake = some time → solo.now ≤ time)
  | finished (here : solo.phase = .ended .finished) (there : plain.phase = .ended .finished)
  | cut (here : solo.phase = .interrupted ∨ solo.phase = .ended .cancelled)
      (lapsed : solo.permit.isInterrupted solo.epochs = true)

/-- What is so of a script after any schedule. Between its turns it has something to do if it is in
line, and what it has displayed is what the undisturbed script has displayed at some moment. -/
structure Tracks (script : Solo) (busy : Bool) (solo : Solo) : Prop where
  plays : solo.config = script.config
  behind : solo.permit.epoch ≤ solo.epochs.current
  goesOn : busy = false → ∀ run, solo.phase = .ready run → run.next solo.config ≠ none
  plain : ∃ plain, script.Reaches plain ∧ plain.updates = solo.updates ∧ Agrees solo plain

namespace Tracks

variable {script solo : Solo} {busy : Bool}

/-- A script that is not in line has only to agree. -/
theorem of_idle (plays : solo.config = script.config)
    (behind : solo.permit.epoch ≤ solo.epochs.current) (idle : solo.inLine = false)
    (plain : ∃ plain, script.Reaches plain ∧ plain.updates = solo.updates ∧ Agrees solo plain) :
    Tracks script false solo := by
  refine ⟨plays, behind, ?_, plain⟩
  intro _ run ready
  simp [inLine, ready] at idle

/-- So has a script in the middle of a turn. -/
theorem of_busy (plays : solo.config = script.config)
    (behind : solo.permit.epoch ≤ solo.epochs.current)
    (plain : ∃ plain, script.Reaches plain ∧ plain.updates = solo.updates ∧ Agrees solo plain) :
    Tracks script true solo :=
  ⟨plays, behind, by simp, plain⟩

/-- A change of the epochs that makes none of them current again. -/
theorem changes (tracks : Tracks script false solo) {epochs : Epochs}
    (behind : solo.permit.epoch ≤ epochs.current)
    (stays : solo.permit.isInterrupted solo.epochs = true →
      solo.permit.isInterrupted epochs = true) :
    Tracks script false (interrupt { solo with epochs }) := by
  obtain ⟨plain, reaches, updates, agrees⟩ := tracks.plain
  rcases interrupt_cases { solo with epochs } with ⟨same, lasts⟩ | ⟨broken, lapsed⟩
  · rw [same]
    refine ⟨tracks.plays, behind, tracks.goesOn, plain, reaches, updates, ?_⟩
    cases agrees with
    | ready run here there now => exact .ready run here there now
    | waiting wake run here there _ punctual =>
        exact .waiting wake run here there (lasts wake run here) punctual
    | finished here there => exact .finished here there
    | cut here lapsed => exact .cut here (stays lapsed)
  · rw [broken]
    exact of_idle tracks.plays behind rfl ⟨plain, reaches, updates, .cut (.inl rfl) lapsed⟩

theorem nextEpoch (tracks : Tracks script false solo) : Tracks script false solo.nextEpoch := by
  apply tracks.changes (Nat.le_trans tracks.behind solo.epochs.le_next)
  simp only [Permit.isInterrupted, Epochs.closed_next, Bool.or_eq_true, Bool.not_eq_true']
  exact Or.imp_left (Permit.isCurrent_next tracks.behind)

theorem close (tracks : Tracks script false solo) : Tracks script false solo.close :=
  tracks.changes tracks.behind fun _ => by simp [Permit.isInterrupted, Epochs.close]

/-- The script has been spawned, and is not spawned again. -/
theorem spawn_eq (tracks : Tracks script busy solo) : solo.spawn = solo := by
  obtain ⟨plain, _, _, agrees⟩ := tracks.plain
  cases agrees with
  | ready run here => simp [Solo.spawn, here]
  | waiting wake run here => simp [Solo.spawn, here]
  | finished here => simp [Solo.spawn, here]
  | cut here => rcases here with here | here <;> simp [Solo.spawn, here]

theorem clock (tracks : Tracks script false solo) {time : Nat}
    (idle : solo.step solo.now = none)
    (early : ∀ wake run, solo.phase = .waiting (some wake) run → time ≤ wake) :
    Tracks script false { solo with now := time } := by
  obtain ⟨plain, reaches, updates, agrees⟩ := tracks.plain
  refine ⟨tracks.plays, tracks.behind, tracks.goesOn, plain, reaches, updates, ?_⟩
  cases agrees with
  | ready run here =>
      rw [step_ready here] at idle
      cases idle
  | waiting wake run here there fresh =>
      exact .waiting wake run here there fresh fun time' wakes => early time' run (wakes ▸ here)
  | finished here there => exact .finished here there
  | cut here lapsed => exact .cut here lapsed

/-- The progress of a disturbed script is that of the undisturbed one, or cuts the script off. -/
theorem proceed (tracks : Tracks script busy solo) (undisturbed : script.Undisturbed script.config)
    {run : Run} (ready : solo.phase = .ready run) :
    let next := solo.after (run.proceed solo.config (solo.permit.isCurrent solo.epochs)
      (!solo.epochs.closed))
    Tracks script next.inLine next := by
  obtain ⟨plain, reaches, updates, agrees⟩ := tracks.plain
  cases agrees with
  | ready run' here there now =>
      rw [ready] at here
      cases here
      have steps := (undisturbed.reaches reaches).step_ready there plain.now
      rw [← tracks.plays] at steps
      have goesOn := reaches.trans (.single steps)
      rcases run.proceed_cases solo.config (solo.permit.isCurrent solo.epochs)
        (!solo.epochs.closed) with ⟨cancelled, lapsed⟩ | ⟨same, rest⟩
      · have interrupted : solo.permit.isInterrupted solo.epochs = true := by
          rw [Permit.isInterrupted_eq, lapsed]
          rfl
        rw [cancelled]
        exact of_idle tracks.plays tracks.behind rfl
          ⟨plain, reaches, updates, .cut (.inr rfl) interrupted⟩
      · have lasts : (solo.permit.isCurrent solo.epochs && !solo.epochs.closed) = true →
            solo.permit.isInterrupted solo.epochs = false := by
          intro counts
          rw [Permit.isInterrupted_eq, counts]
          rfl
        rw [same]
        cases whole : run.proceed solo.config true true with
        | ended outcome =>
            rw [whole] at rest goesOn
            dsimp only at rest
            subst rest
            exact of_idle tracks.plays tracks.behind rfl ⟨_, goesOn, updates, .finished rfl rfl⟩
        | passed later =>
            rw [whole] at goesOn
            exact of_busy tracks.plays tracks.behind
              ⟨_, goesOn, updates, .ready later rfl rfl now⟩
        | skipped tag later =>
            rw [whole] at goesOn
            exact of_busy tracks.plays tracks.behind
              ⟨_, goesOn, updates, .ready later rfl rfl now⟩
        | displayed update later =>
            rw [whole] at goesOn
            have shown : (plain.after (.displayed update later)).updates =
                (solo.after (.displayed update later)).updates := by
              simp [Solo.after, updates, now]
            exact of_busy tracks.plays tracks.behind
              ⟨_, goesOn, shown, .ready later rfl rfl now⟩
        | waiting length later =>
            rw [whole] at rest goesOn
            refine of_idle tracks.plays tracks.behind rfl ⟨_, goesOn, updates,
              .waiting (some (solo.now + length)) later rfl ?_ (lasts rest) ?_⟩
            · simp [Solo.after, now]
            · rintro time ⟨⟩
              exact Nat.le_add_right _ _
        | resting later =>
            rw [whole] at rest goesOn
            exact of_idle tracks.plays tracks.behind rfl
              ⟨_, goesOn, updates, .waiting none later rfl rfl (lasts rest) (by simp)⟩
  | waiting wake run' here => simp [ready] at here
  | finished here => simp [ready] at here
  | cut here => simp [ready] at here

/-- A script that wakes up does so with the undisturbed one. -/
theorem wake (tracks : Tracks script busy solo) {time : Nat} {run : Run}
    (waiting : solo.phase = .waiting (some time) run) :
    Tracks script true { solo with now := time, phase := .ready run } := by
  obtain ⟨plain, reaches, updates, agrees⟩ := tracks.plain
  cases agrees with
  | waiting wake run' here there fresh punctual =>
      rw [waiting] at here
      cases here
      have wakes : plain.step time = some { plain with now := time, phase := .ready run } := by
        simp [step, there]
      exact of_busy tracks.plays tracks.behind
        ⟨_, reaches.trans (.single wakes), updates, .ready run rfl rfl rfl⟩
  | ready run' here => simp [waiting] at here
  | finished here => simp [waiting] at here
  | cut here => simp [waiting] at here

theorem act (tracks : Tracks script busy solo) (undisturbed : script.Undisturbed script.config)
    {next : Solo} (acts : solo.step solo.now = some next) : Tracks script next.inLine next := by
  rcases step_cases acts with ⟨time, run, phase, _, rfl⟩ | ⟨phase, rfl⟩ | ⟨run, phase, rfl⟩
  · exact tracks.wake phase
  · obtain ⟨plain, reaches, updates, agrees⟩ := tracks.plain
    cases agrees with
    | cut here lapsed =>
        exact of_idle tracks.plays tracks.behind rfl
          ⟨plain, reaches, updates, .cut (.inr rfl) lapsed⟩
    | ready run here => simp [phase] at here
    | waiting wake run here => simp [phase] at here
    | finished here => simp [phase] at here
  · exact tracks.proceed undisturbed phase

end Tracks

/-- What is so at the beginning of a schedule is so after it. -/
theorem Scheduled.tracks {script first solo : Solo} {busy : Bool}
    (scheduled : Scheduled first busy solo) (undisturbed : script.Undisturbed script.config)
    (begun : Tracks script false first) : Tracks script busy solo := by
  induction scheduled with
  | begin => exact begun
  | spawn _ inner =>
      rw [inner.spawn_eq]
      exact inner
  | nextEpoch _ inner => exact inner.nextEpoch
  | close _ inner => exact inner.close
  | act _ acts inner => exact inner.act undisturbed acts
  | clock _ idle _ early inner => exact inner.clock idle early

/-! ## Scripts that are over -/

theorem outcome?_eq_some {solo : Solo} {outcome : Outcome} :
    solo.outcome? = some outcome ↔ solo.phase = .ended outcome := by
  unfold outcome?
  cases solo.phase <;> simp

/-- The script displays nothing more: its epoch is over, its wait was broken off, or it has
ended. -/
def Over (solo : Solo) : Prop :=
  solo.permit.isCurrent solo.epochs = false ∨ solo.phase = .interrupted ∨
    ∃ outcome, solo.phase = .ended outcome

theorem Over.interrupt {solo : Solo} (lapsed : solo.Over) : solo.interrupt.Over := by
  rcases solo.interrupt_cases with ⟨same, _⟩ | ⟨broken, _⟩
  · rw [same]
    exact lapsed
  · rw [broken]
    exact Or.inr (Or.inl rfl)

theorem interrupt_updates (solo : Solo) : solo.interrupt.updates = solo.updates := by
  rcases solo.interrupt_cases with ⟨same, _⟩ | ⟨broken, _⟩
  · rw [same]
  · rw [broken]

/-- Between its turns, a script that is over and has not ended is cancelled with its next step,
however far the clock may go. -/
theorem Tracks.cancels {script solo : Solo} (tracks : Tracks script false solo) (lapsed : solo.Over)
    (goesOn : solo.outcome? = none) (target : Nat) :
    solo.step target = some { solo with phase := .ended .cancelled } := by
  obtain ⟨plain, _, _, agrees⟩ := tracks.plain
  cases agrees with
  | ready run here =>
      have stale : solo.permit.isCurrent solo.epochs = false := by simpa [Over, here] using lapsed
      rw [step_ready here, stale, Run.proceed_stale (tracks.goesOn rfl run here)]
      rfl
  | waiting wake run here there fresh =>
      have stale : solo.permit.isCurrent solo.epochs = false := by simpa [Over, here] using lapsed
      simp [Permit.isInterrupted, stale] at fresh
  | finished here => simp [outcome?, here] at goesOn
  | cut here =>
      rcases here with here | here
      · simp [step, here]
      · simp [outcome?, here] at goesOn

/-- Whatever is done with a script that is over, it displays nothing more. -/
theorem Scheduled.silences {script solo later : Solo} {busy : Bool}
    (scheduled : Scheduled solo busy later) (undisturbed : script.Undisturbed script.config)
    (tracks : Tracks script false solo) (lapsed : solo.Over) :
    busy = false ∧ later.Over ∧ later.updates = solo.updates := by
  induction scheduled with
  | begin => exact ⟨rfl, lapsed, rfl⟩
  | spawn before inner =>
      rw [(before.tracks undisturbed tracks).spawn_eq]
      exact inner
  | @nextEpoch middle before inner =>
      obtain ⟨_, lapsed, updates⟩ := inner
      refine ⟨rfl, Over.interrupt ?_, (interrupt_updates _).trans updates⟩
      rcases lapsed with stale | phase
      · exact Or.inl (Permit.isCurrent_next (before.tracks undisturbed tracks).behind stale)
      · exact Or.inr phase
  | close before inner =>
      obtain ⟨_, lapsed, updates⟩ := inner
      exact ⟨rfl, Over.interrupt lapsed, (interrupt_updates _).trans updates⟩
  | @act busy middle next before acts inner =>
      obtain ⟨rfl, lapsed, updates⟩ := inner
      cases outcome : middle.outcome? with
      | none =>
          rw [(before.tracks undisturbed tracks).cancels lapsed outcome, Option.some.injEq] at acts
          subst acts
          exact ⟨rfl, Or.inr (Or.inr ⟨_, rfl⟩), updates⟩
      | some outcome => simp [step, outcome?_eq_some.mp outcome] at acts
  | clock _ _ _ _ inner =>
      obtain ⟨_, lapsed, updates⟩ := inner
      exact ⟨rfl, lapsed, updates⟩

/-- An outcome is final. -/
theorem Scheduled.ended {solo later : Solo} {busy : Bool} {outcome : Outcome}
    (scheduled : Scheduled solo busy later) (ended : solo.phase = .ended outcome) :
    later.phase = .ended outcome := by
  induction scheduled with
  | begin => exact ended
  | spawn _ inner => simp [Solo.spawn, inner]
  | nextEpoch _ inner => simp [Solo.nextEpoch, interrupt, inner]
  | close _ inner => simp [Solo.close, interrupt, inner]
  | act _ acts inner => simp [step, inner] at acts
  | clock _ _ _ _ inner => exact inner

/-- A wait is broken off when the count of epochs is closed. -/
theorem close_waiting {solo : Solo} {wake : Option Nat} {run : Run}
    (waiting : solo.phase = .waiting wake run) :
    solo.close = { solo with epochs := solo.epochs.close, phase := .interrupted } := by
  simp [Solo.close, interrupt, waiting, Permit.isInterrupted, Epochs.close]

/-! ## From setting up to spawning -/

/-- Only a script in line is in the middle of a turn. -/
theorem Scheduled.inLine_of_busy {first solo : Solo} (scheduled : Scheduled first true solo) :
    solo.inLine = true := by
  generalize flag : true = busy at scheduled
  cases scheduled with
  | act _ _ => rfl
  | _ => cases flag

/-- Until a script is spawned, nothing but the epochs and the time changes. -/
theorem Scheduled.unspawned {config : Config} {pose : Pose} {blocks : List Block} {busy : Bool}
    {solo : Solo} (scheduled : Scheduled (create config pose blocks) busy solo)
    (unspawned : solo.phase = .unspawned) :
    solo = { create config pose blocks with epochs := solo.epochs, now := solo.now } ∧
      solo.permit.epoch ≤ solo.epochs.current := by
  induction scheduled with
  | begin => exact ⟨rfl, Nat.le_refl _⟩
  | @spawn middle _ _ => cases phase : middle.phase <;> simp [Solo.spawn, phase] at unspawned
  | @nextEpoch middle _ inner =>
      rcases interrupt_cases { middle with epochs := middle.epochs.next } with
        ⟨same, _⟩ | ⟨broken, _⟩
      · rw [Solo.nextEpoch, same] at unspawned ⊢
        obtain ⟨only, behind⟩ := inner unspawned
        rw [only] at behind ⊢
        exact ⟨rfl, Nat.le_trans behind middle.epochs.le_next⟩
      · rw [Solo.nextEpoch, broken] at unspawned
        cases unspawned
  | @close middle _ inner =>
      rcases interrupt_cases { middle with epochs := middle.epochs.close } with
        ⟨same, _⟩ | ⟨broken, _⟩
      · rw [Solo.close, same] at unspawned ⊢
        obtain ⟨only, behind⟩ := inner unspawned
        rw [only] at behind ⊢
        exact ⟨rfl, behind⟩
      · rw [Solo.close, broken] at unspawned
        cases unspawned
  | act _ acts _ =>
      rcases step_cases acts with ⟨_, _, _, _, rfl⟩ | ⟨_, rfl⟩ | ⟨_, _, rfl⟩
      · cases unspawned
      · cases unspawned
      · revert unspawned
        cases Run.proceed _ _ _ _ <;> exact nofun
  | clock _ _ _ _ inner =>
      obtain ⟨only, behind⟩ := inner unspawned
      rw [only] at behind ⊢
      exact ⟨rfl, behind⟩

/-- When it is spawned, a script with blocks agrees with the undisturbed one. -/
theorem Scheduled.spawns {config : Config} {pose : Pose} {blocks : List Block}
    (filled : blocks ≠ []) {before : Solo}
    (setUp : Scheduled (create config pose blocks) false before)
    (unspawned : before.phase = .unspawned) :
    Tracks (alone config pose blocks before.now) false before.spawn := by
  obtain ⟨only, behind⟩ := setUp.unspawned unspawned
  rw [only] at behind ⊢
  refine ⟨rfl, behind, ?_, _, .refl _, rfl, .ready (Run.start pose blocks) rfl rfl rfl⟩
  rintro - run ⟨⟩
  exact Run.start_goesOn config pose filled

/-! ## Letting time pass -/

/-- The clock has not passed the script's wake-up. -/
def Punctual (solo : Solo) : Prop :=
  ∀ wake run, solo.phase = .waiting (some wake) run → solo.now ≤ wake

theorem Punctual.spawn {solo : Solo} (punctual : solo.Punctual) : solo.spawn.Punctual := by
  unfold Solo.spawn
  split
  · exact nofun
  · exact punctual

/-- A step that is due by some time takes part in a schedule: the clock moves to the wake-up, if it
is not there yet, and the script has its turn. -/
theorem Scheduled.step {first solo next : Solo} {busy : Bool} {target : Nat}
    (scheduled : Scheduled first busy solo) (punctual : solo.Punctual) (early : solo.now ≤ target)
    (steps : solo.step target = some next) :
    Scheduled first next.inLine next ∧ next.Punctual ∧ next.now ≤ target := by
  rcases step_cases steps with ⟨wake, run, phase, due, rfl⟩ | ⟨phase, rfl⟩ | ⟨run, phase, rfl⟩
  · have reached := punctual wake run phase
    have wakes : ({ solo with now := wake } : Solo).step wake =
        some { solo with now := wake, phase := .ready run } := by simp [Solo.step, phase]
    have between : Scheduled first false solo := by
      cases busy with
      | false => exact scheduled
      | true =>
          have ready := scheduled.inLine_of_busy
          simp [Solo.inLine, phase] at ready
    refine ⟨?_, by simp [Punctual], due⟩
    by_cases now : wake = solo.now
    · subst now
      exact .act between wakes
    · have idle : solo.step solo.now = none := by
        simp only [Solo.step, phase, ite_eq_right_iff, reduceCtorEq, imp_false]
        omega
      have moved : Scheduled first false { solo with now := wake } := by
        apply Scheduled.clock between idle reached
        intro wake' run' phase'
        rw [phase] at phase'
        cases phase'
        exact Nat.le_refl _
      exact .act moved wakes
  · have now : solo.step solo.now = some { solo with phase := .ended .cancelled } := by
      simp [Solo.step, phase]
    exact ⟨.act scheduled now, by simp [Punctual], early⟩
  · have now := step_ready phase solo.now
    refine ⟨.act scheduled now, ?_, ?_⟩
    · cases run.proceed solo.config (solo.permit.isCurrent solo.epochs) (!solo.epochs.closed) with
      | waiting length later =>
          rintro wake run' ⟨⟩
          exact Nat.le_add_right _ _
      | _ => simp [Punctual, after]
    · cases run.proceed solo.config (solo.permit.isCurrent solo.epochs) (!solo.epochs.closed) <;>
        exact early

/-- A script that has nothing to do by some time is not in line, wakes up later if at all, and had
nothing to do before. -/
theorem idle_of_step_eq_none {solo : Solo} {target : Nat} (done : solo.step target = none)
    (early : solo.now ≤ target) :
    solo.inLine = false ∧ solo.step solo.now = none ∧
      ∀ wake run, solo.phase = .waiting (some wake) run → target ≤ wake := by
  cases phase : solo.phase with
  | ready run => simp [step_ready phase] at done
  | interrupted => simp [Solo.step, phase] at done
  | unspawned => simp [inLine, Solo.step, phase]
  | ended outcome => simp [inLine, Solo.step, phase]
  | waiting wake run =>
      cases wake with
      | none => simp [inLine, Solo.step, phase]
      | some wake =>
          simp only [Solo.step, phase, ite_eq_right_iff, reduceCtorEq, imp_false] at done
          refine ⟨by simp [inLine, phase], ?_, ?_⟩
          · simp only [Solo.step, phase, ite_eq_right_iff, reduceCtorEq, imp_false]
            omega
          · rintro wake' run' ⟨⟩
            omega

/-- To let time pass is a schedule. -/
theorem Scheduled.advance {first solo later : Solo} {milliseconds : Nat}
    (scheduled : Scheduled first false solo) (punctual : solo.Punctual)
    (passes : solo.advance milliseconds = some later) :
    Scheduled first false later ∧ later.Punctual := by
  obtain ⟨last, exhausted, rfl⟩ := Option.map_eq_some_iff.mp passes
  have done := exhaust_done _ _ _ exhausted
  obtain ⟨⟨busy, reached⟩, onTime, early⟩ := exhaust_induction
    (fun state => (∃ busy, Scheduled first busy state) ∧ state.Punctual ∧
      state.now ≤ solo.now + milliseconds)
    (fun state next holds steps =>
      have kept := holds.1.choose_spec.step holds.2.1 holds.2.2 steps
      ⟨⟨_, kept.1⟩, kept.2⟩)
    _ _ _ ⟨⟨false, scheduled⟩, punctual, Nat.le_add_right _ _⟩ exhausted
  obtain ⟨gone, idle, later⟩ := idle_of_step_eq_none done early
  cases busy with
  | true =>
      rw [reached.inLine_of_busy] at gone
      cases gone
  | false => exact ⟨.clock reached idle early later, later⟩

/-! ## Cancellation -/

/-- A script that is set up with blocks, spawned and then scheduled in any way displays what the
script would have displayed by some moment if nobody had disturbed it; and as long as nobody does,
it stands where that script stands, at its end too. When its epoch is over and it is not in the
middle of a turn, it displays nothing more, and unless it has ended it is cancelled with its next
step, however far the clock may go. The same is so of a script that waits when the count of epochs
is closed. An outcome is final. -/
theorem cancellation_truncates {config : Config} {pose : Pose} {blocks : List Block}
    (filled : blocks ≠ []) {before solo : Solo} {busy : Bool}
    (setUp : Scheduled (create config pose blocks) false before)
    (unspawned : before.phase = .unspawned) (scheduled : Scheduled before.spawn busy solo) :
    let script := alone config pose blocks before.now
    (∃ plain, script.Reaches plain ∧ plain.updates.toList = solo.updates.toList) ∧
      (solo.permit.isInterrupted solo.epochs = false →
        ∃ plain, script.Reaches plain ∧ plain.updates.toList = solo.updates.toList ∧
          plain.phase = solo.phase) ∧
      (busy = false → solo.permit.isCurrent solo.epochs = false →
        (∀ later soon, Scheduled solo soon later →
          later.updates.toList = solo.updates.toList) ∧
        (solo.outcome? = none →
          ∀ target, solo.step target = some { solo with phase := .ended .cancelled })) ∧
      (∀ wake run, solo.phase = .waiting wake run →
        (∀ later soon, Scheduled solo.close soon later →
          later.updates.toList = solo.updates.toList) ∧
        ∀ target, solo.close.step target = some { solo.close with phase := .ended .cancelled }) ∧
      ∀ outcome, solo.outcome? = some outcome →
        ∀ later soon, Scheduled solo soon later → later.outcome? = some outcome := by
  intro script
  have undisturbed : script.Undisturbed script.config := alone_undisturbed config pose blocks _
  have tracks := scheduled.tracks undisturbed (setUp.spawns filled unspawned)
  obtain ⟨plain, reaches, updates, agrees⟩ := tracks.plain
  refine ⟨⟨plain, reaches, by rw [updates]⟩, ?_, ?_, ?_, ?_⟩
  · intro fresh
    refine ⟨plain, reaches, by rw [updates], ?_⟩
    cases agrees with
    | ready run here there => exact there.trans here.symm
    | waiting wake run here there => exact there.trans here.symm
    | finished here there => exact there.trans here.symm
    | cut _ lapsed =>
        rw [fresh] at lapsed
        cases lapsed
  · rintro rfl stale
    refine ⟨fun later soon goesOn => ?_, tracks.cancels (Or.inl stale)⟩
    rw [(goesOn.silences undisturbed tracks (Or.inl stale)).2.2]
  · intro wake run waiting
    have between : busy = false := by
      cases busy with
      | false => rfl
      | true => simpa [inLine, waiting] using scheduled.inLine_of_busy
    subst between
    have broken := close_waiting waiting
    have lapsed : solo.close.Over := Or.inr (Or.inl (by rw [broken]))
    refine ⟨fun later soon goesOn => ?_, tracks.close.cancels lapsed (by simp [broken, outcome?])⟩
    rw [(goesOn.silences undisturbed tracks.close lapsed).2.2, broken]
  · intro outcome ended later soon goesOn
    exact outcome?_eq_some.mpr (goesOn.ended (outcome?_eq_some.mp ended))

/-- A script that walks ten steps. -/
def walk : List Block := [⟨⟨1⟩, .moveSteps, Opcode.moveSteps.defaults⟩]

/-- A walk that begins at the time 5 and whose epoch ends during its second frame. -/
theorem cancellation_truncates_walk :
    ∃ before middle : Solo, (create {} ⟨0, 0, 90⟩ walk).advance 5 = some before ∧
      before.spawn.advance 20 = some middle ∧
      middle.nextEpoch.updates.toList.map Prod.fst = [5, 21] ∧
      ∀ target, middle.nextEpoch.step target =
        some { middle.nextEpoch with phase := .ended .cancelled } := by
  have early : (create {} ⟨0, 0, 90⟩ walk).Punctual := nofun
  refine ⟨_, _, rfl, rfl, by decide +kernel, ?_⟩
  have setUp := Scheduled.advance .begin early
    (rfl : (create {} ⟨0, 0, 90⟩ walk).advance 5 = some _)
  have walked := Scheduled.advance .begin setUp.2.spawn (rfl : Solo.advance _ 20 = some _)
  have truncates := cancellation_truncates (by decide) setUp.1 rfl walked.1.nextEpoch
  exact (truncates.2.2.1 rfl (by decide +kernel)).2 (by decide +kernel)

end Solo

end SpriteStage
