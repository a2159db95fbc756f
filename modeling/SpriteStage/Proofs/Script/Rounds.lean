/-
Module: SpriteStage.Proofs.Script.Rounds
Purpose: Rounds and time, the guard of `repeat`. A script with a repeat goes round and round. If a
  frame takes time, or if some text of a round is held for a time, every round takes time: it pauses
  by itself, or for a frame at its end. So only so much is displayed at any one instant. If frames
  take no time and no text is held, no round takes time, the pause at its end included, and the
  script displays at one instant as much as it likes.
Main exports: Block.Lingers, Run.Paced, Run.BeginsRound, Run.Due, Run.Hasty, Solo.Taking,
  Solo.Stands, Solo.displayedAt, Solo.rounds_take_time
-/
import SpriteStage.Project.Reader
import SpriteStage.Proofs.Script.Effort

namespace SpriteStage

/-- The block puts up a text and holds it for a time. -/
def Block.Lingers (block : Block) : Prop :=
  (block.opcode = .sayFor ∨ block.opcode = .thinkFor) ∧ (Run.holdLength block).milliseconds ≠ 0

instance (block : Block) : Decidable block.Lingers := inferInstanceAs (Decidable (_ ∧ _))

-- A text that is held for less than half a nanosecond is not held at all.
example : ¬ (⟨⟨1⟩, .sayFor, ⟨[("seconds", .float 4e-10)]⟩⟩ : Block).Lingers := by decide +kernel

/-- The block displays something. -/
def Block.displays (block : Block) : Bool :=
  match block.opcode with
  | .whenFlagClicked | .whenSpriteClicked | .repeatAnimation | .unknown _ => false
  | .moveSteps | .turnRight | .turnLeft | .goTo | .sayFor | .thinkFor => true

namespace Run

/-- Frames take time, or one of the blocks holds its text. -/
def Paced (config : Config) (body : List Block) : Prop :=
  0 < config.frameInterval ∨ ∃ block ∈ body, block.Lingers

/-- The next act of the run begins a round: a pass is over, it has paused, and another one is to
come. -/
structure BeginsRound (run : Run) : Prop where
  endless : run.endless = true
  nonempty : run.body ≠ []
  through : run.left = []
  free : run.todo = .block
  rested : run.mark ≠ some run.waited

variable {config : Config} {blocks : List Block} {run later : Run} {act : Act}

/-- A round begins with the first block, and keeps in mind how long the script has paused until
then. -/
theorem BeginsRound.next_eq (begins : run.BeginsRound) (config : Config) :
    ∃ block left, run.body = block :: left ∧ run.next config =
      some ({ run with mark := some run.waited }.beginBlock config block left) := by
  obtain ⟨block, left, whole⟩ := List.exists_cons_of_ne_nil begins.nonempty
  refine ⟨block, left, whole, ?_⟩
  simp [next, begins.free, begins.through, endPass, begins.endless, whole, begins.rested]

theorem Begins.endless {block : Block} {left : List Block}
    (begins : run.Begins config block left act later) : later.endless = run.endless := by
  cases begins <;> rfl

theorem paused_keeps (run : Run) (length : Duration) (todo : Todo) :
    (run.paused length todo).body = run.body ∧ (run.paused length todo).endless = run.endless :=
  ⟨rfl, rfl⟩

/-- Whatever a run does next, it goes through the same blocks, once or over and over. -/
theorem next_keeps (next : run.next config = some (act, later)) :
    later.body = run.body ∧ later.endless = run.endless := by
  cases next_acts next with
  | land | frame | hush | rest => exact ⟨rfl, rfl⟩
  | settle | hold => exact run.paused_keeps _ _
  | breathe => exact run.paused_keeps config.frame .block
  | goOn todo rest begins => exact ⟨begins.keeps.2.1, begins.endless⟩
  | goRound todo through whole paused begins => exact ⟨begins.keeps.2.1, begins.endless⟩

/-- A block that holds its text has the holding in hand once it has begun. -/
theorem beginBlock_todo {block : Block} (lingers : block.Lingers) (config : Config) (run : Run)
    (left : List Block) :
    ∃ voice length, (run.beginBlock config block left).2.todo = .hold voice length ∧
      length.milliseconds ≠ 0 := by
  obtain ⟨say | think, held⟩ := lingers
  · exact ⟨.say, holdLength block, by simp only [beginBlock, say], held⟩
  · exact ⟨.think, holdLength block, by simp only [beginBlock, think], held⟩

/-! ## Rounds that take time -/

/-- The round has not paused yet, and before it is over it will. -/
structure Due (config : Config) (blocks : List Block) (run : Run) : Prop where
  fits : run.Fits config blocks
  marked : run.mark = some run.waited
  ahead : 0 < config.frameInterval ∨ (∃ block ∈ run.left, block.Lingers) ∨
    ∃ voice length, run.todo = .hold voice length ∧ length.milliseconds ≠ 0

namespace Due

/-- Whoever had no text to hold still has ahead what was ahead. -/
theorem stays (due : run.Due config blocks) {pose : Pose} {todo : Todo}
    (fits : { run with pose, todo }.Fits config blocks)
    (free : ∀ voice length, run.todo = .hold voice length → length.milliseconds = 0) :
    { run with pose, todo }.Due config blocks := by
  refine ⟨fits, due.marked, ?_⟩
  rcases due.ahead with timed | inside | ⟨voice, length, held, takesTime⟩
  · exact Or.inl timed
  · exact Or.inr (Or.inl inside)
  · exact absurd (free voice length held) takesTime

/-- So it is after a pause of no length. -/
theorem paused (due : run.Due config blocks) {length : Duration} {todo : Todo}
    (none : length.milliseconds = 0) (fits : (run.paused length todo).Fits config blocks)
    (free : ∀ voice length, run.todo = .hold voice length → length.milliseconds = 0) :
    (run.paused length todo).Due config blocks := by
  have still : run.paused length todo = { run with todo } := by
    rw [Run.paused, due.fits.waited_add none]
  rw [still] at fits ⊢
  exact due.stays fits free

/-- A block that begins, and what is left behind it, is still ahead. -/
theorem begun {block : Block} {left : List Block} (marked : run.mark = some run.waited)
    (begins : run.beginBlock config block left = (act, later)) (fits : later.Fits config blocks)
    (ahead : 0 < config.frameInterval ∨ ∃ other ∈ block :: left, other.Lingers) :
    later.Due config blocks := by
  obtain ⟨rest, body, waited, mark⟩ : later.left = left ∧ later.body = run.body ∧
      later.waited = run.waited ∧ later.mark = run.mark := by
    have keeps := (run.beginBlock_begins config block left).keeps
    rwa [begins] at keeps
  refine ⟨fits, by rw [mark, waited, marked], ?_⟩
  rcases ahead with timed | ⟨other, member, lingers⟩
  · exact Or.inl timed
  · rcases List.mem_cons.mp member with rfl | behind
    · have todo := beginBlock_todo lingers config run left
      rw [begins] at todo
      exact Or.inr (Or.inr todo)
    · rw [rest]
      exact Or.inr (Or.inl ⟨other, behind, lingers⟩)

/-- Between two blocks nothing is held, so that frames take time or a text is held in what is
left. -/
theorem between (due : run.Due config blocks) (idle : run.todo = .block) :
    0 < config.frameInterval ∨ ∃ block ∈ run.left, block.Lingers := by
  rcases due.ahead with timed | inside | ⟨voice, length, held, _⟩
  · exact Or.inl timed
  · exact Or.inr inside
  · rw [idle] at held
    cases held

/-- Whatever the script does next, time passes, or it waits for its end, or the round will still
pause. In particular the round is not over. -/
theorem next (due : run.Due config blocks) (next : run.next config = some (act, later)) :
    (∃ length, act = .pause length ∧ length.milliseconds ≠ 0) ∨ act = .rest ∨
      later.Due config blocks := by
  have fits := due.fits.next next
  cases next_acts next with
  | land glide todo =>
      have stays := due.stays fits (by simp [todo])
      exact Or.inr (Or.inr stays)
  | frame glide left pose todo =>
      have stays := due.stays fits (by simp [todo])
      exact Or.inr (Or.inr stays)
  | settle glide left todo =>
      by_cases none : config.frame.milliseconds = 0
      · have paused := due.paused none fits (by simp [todo])
        exact Or.inr (Or.inr paused)
      · exact Or.inl ⟨_, rfl, none⟩
  | hold voice length todo =>
      by_cases none : length.milliseconds = 0
      · have paused := due.paused none fits (by
          intro other same held
          rw [todo] at held
          cases held
          exact none)
        exact Or.inr (Or.inr paused)
      · exact Or.inl ⟨length, rfl, none⟩
  | hush voice todo =>
      have stays := due.stays fits (by simp [todo])
      exact Or.inr (Or.inr stays)
  | rest => exact Or.inr (Or.inl rfl)
  | breathe todo through idle =>
      -- The round is over without a pause, so that frames take time.
      refine Or.inl ⟨_, rfl, ?_⟩
      rw [config.frame_milliseconds]
      rcases due.between todo with timed | ⟨_, inside, _⟩
      · exact Nat.pos_iff_ne_zero.mp timed
      · rw [through] at inside
        cases inside
  | goOn todo rest begins =>
      rename_i block left
      have begun : run.beginBlock config block left = (act, later) := by
        simpa [Run.next, todo, rest] using next
      have ahead := due.between todo
      rw [rest] at ahead
      exact Or.inr (Or.inr (Due.begun due.marked begun fits ahead))
  | goRound todo through whole paused begins => exact absurd due.marked paused

end Due

/-- When a round begins, its pause is ahead. -/
theorem BeginsRound.due (begins : run.BeginsRound) (fits : run.Fits config blocks)
    (paced : Paced config run.body) (next : run.next config = some (act, later)) :
    later.Due config blocks := by
  obtain ⟨block, left, whole, first⟩ := begins.next_eq config
  rw [first, Option.some.injEq] at next
  rw [Paced, whole] at paced
  have fitsLater : later.Fits config blocks := fits.next (first.trans (congrArg some next))
  exact Due.begun rfl next fitsLater paced

/-! ## Rounds that take no time -/

/-- Whatever the script is going to do, no text will be held. -/
structure Hasty (run : Run) : Prop where
  body : ∀ block ∈ run.body, ¬ block.Lingers
  left : ∀ block ∈ run.left, ¬ block.Lingers
  todo : ∀ voice length, run.todo = .hold voice length → length.milliseconds = 0

namespace Hasty

/-- A script that has no text to hold at the same place of its pass. -/
theorem stays (hasty : run.Hasty) (pose : Pose) (mark : Option Duration) {todo : Todo}
    (free : ∀ voice length, todo = .hold voice length → length.milliseconds = 0) :
    { run with pose, mark, todo }.Hasty :=
  ⟨hasty.body, hasty.left, free⟩

theorem paused (hasty : run.Hasty) (length : Duration) {todo : Todo}
    (free : ∀ voice length, todo = .hold voice length → length.milliseconds = 0) :
    (run.paused length todo).Hasty :=
  ⟨hasty.body, hasty.left, free⟩

theorem begins {block : Block} {left : List Block} (body : ∀ other ∈ run.body, ¬ other.Lingers)
    (hasty : ∀ other ∈ block :: left, ¬ other.Lingers)
    (begins : run.Begins config block left act later) : later.Hasty := by
  obtain ⟨rest, whole, -⟩ := begins.keeps
  refine ⟨whole ▸ body, ?_, ?_⟩
  · rw [rest]
    exact fun other behind => hasty other (List.mem_cons_of_mem block behind)
  · intro voice length holds
    cases begins with
    | pass | skip | jump | animate => cases holds
    | speak other speaks =>
        cases holds
        by_contra held
        refine hasty block List.mem_cons_self ⟨?_, held⟩
        cases voice with
        | say => exact Or.inl speaks
        | think => exact Or.inr speaks

/-- Where frames take no time either, the script does not pause for any time. -/
theorem next (hasty : run.Hasty) (timeless : config.frameInterval = 0)
    (next : run.next config = some (act, later)) :
    later.Hasty ∧ ∀ length, act = .pause length → length.milliseconds = 0 := by
  have frame : config.frame.milliseconds = 0 := config.frame_milliseconds.trans timeless
  cases next_acts next with
  | land glide todo => exact ⟨hasty.stays run.pose run.mark nofun, nofun⟩
  | frame glide left pose todo => exact ⟨hasty.stays pose run.mark nofun, nofun⟩
  | settle glide left todo =>
      refine ⟨hasty.paused config.frame nofun, ?_⟩
      rintro length ⟨⟩
      exact frame
  | hold voice length todo =>
      refine ⟨hasty.paused length nofun, ?_⟩
      rintro other ⟨⟩
      exact hasty.todo voice length todo
  | hush voice todo => exact ⟨hasty.stays run.pose run.mark nofun, nofun⟩
  | rest => exact ⟨hasty, nofun⟩
  | breathe todo through idle =>
      have paused : (run.paused config.frame .block).Hasty := hasty.paused config.frame nofun
      refine ⟨paused.stays _ none paused.todo, ?_⟩
      rintro length ⟨⟩
      exact frame
  | goOn todo rest begins =>
      refine ⟨Hasty.begins hasty.body (rest ▸ hasty.left) begins, ?_⟩
      cases begins <;> nofun
  | goRound todo through whole paused begins =>
      have marked : ∀ other ∈ { run with mark := some run.waited }.body, ¬ other.Lingers := hasty.body
      refine ⟨Hasty.begins marked (whole ▸ hasty.body) begins, ?_⟩
      cases begins <;> nofun

end Hasty

end Run

namespace Solo

variable {config : Config} {blocks : List Block} {solo later : Solo} {target : Nat}

/-! ## Acts and the clock -/

/-- The script on its own when it has done an act that leads to a run. -/
def did (solo : Solo) (run : Run) : Act → Solo
  | .check | .skip _ => { solo with phase := .ready run }
  | .display update =>
    { solo with phase := .ready run, updates := solo.updates.push (solo.now, update) }
  | .pause length =>
    if length.milliseconds = 0 then { solo with phase := .ready run }
    else { solo with phase := .waiting (some (solo.now + length.milliseconds)) run }
  | .rest => { solo with phase := .waiting none run }

/-- What a step is for a script that nobody disturbs: the clock moves to a wake-up, the script is
over, or it does its next act. -/
theorem Undisturbed.step_cases (undisturbed : solo.Undisturbed config)
    (steps : solo.step target = some later) :
    (∃ wake run, solo.phase = .waiting (some wake) run ∧
        later = { solo with now := wake, phase := .ready run }) ∨
      (∃ outcome, later = { solo with phase := .ended outcome }) ∨
      ∃ run act next, solo.phase = .ready run ∧ run.next config = some (act, next) ∧
        later = solo.did next act := by
  rcases Solo.step_cases steps with ⟨wake, run, phase, _, moved⟩ | ⟨_, ended⟩ | ⟨run, phase, _⟩
  · exact Or.inl ⟨wake, run, phase, moved⟩
  · exact Or.inr (Or.inl ⟨_, ended⟩)
  · rw [undisturbed.step_ready phase, Option.some.injEq] at steps
    rcases run.proceed_eq config with ⟨_, finished⟩ | ⟨act, next, acts, progress⟩
    · rw [finished] at steps
      exact Or.inr (Or.inl ⟨_, steps.symm⟩)
    · rw [progress] at steps
      refine Or.inr (Or.inr ⟨run, act, next, phase, acts, steps.symm.trans ?_⟩)
      cases act with
      | check | skip | display | rest => rfl
      | pause length =>
          simp only [did]
          split <;> rfl

/-- What is in hand or waits has a property. -/
def Runs (holds : Run → Prop) (solo : Solo) : Prop :=
  match solo.phase with
  | .ready run | .waiting _ run => holds run
  | _ => True

theorem Runs.did {holds : Run → Prop} {run : Run} (held : holds run) (solo : Solo) (act : Act) :
    (solo.did run act).Runs holds := by
  cases act with
  | check | skip | display | rest => exact held
  | pause length =>
      simp only [Solo.did]
      split <;> exact held

/-- What runs keep with whatever they do next, a script keeps. -/
theorem Runs.step {holds : Run → Prop}
    (kept : ∀ run act next, holds run → run.next config = some (act, next) → holds next)
    (undisturbed : solo.Undisturbed config) (runs : solo.Runs holds)
    (steps : solo.step target = some later) : later.Runs holds := by
  rcases undisturbed.step_cases steps with
    ⟨wake, run, phase, rfl⟩ | ⟨outcome, rfl⟩ | ⟨run, act, next, phase, acts, rfl⟩
  · simpa only [Runs, phase] using runs
  · trivial
  · simp only [Runs, phase] at runs
    exact Runs.did (kept run act next runs acts) solo act

/-- The run goes through the blocks before the first repeat, over and over if there is one. -/
structure RunsThrough (config : Config) (blocks : List Block) (run : Run) : Prop where
  fits : run.Fits config blocks
  body : run.body = Run.bodyOf blocks
  endless : run.endless = blocks.any Run.repeats

/-- All that a script comes to are runs through its blocks. -/
theorem alone_runs {pose : Pose} {time : Nat}
    (reaches : (alone config pose blocks time).Reaches solo) :
    solo.Runs (RunsThrough config blocks) := by
  have undisturbed := alone_undisturbed config pose blocks time
  have start : RunsThrough config blocks (Run.start pose blocks) :=
    ⟨Run.start_fits config pose blocks, rfl, rfl⟩
  have kept := reaches.induction
    (fun state => state.Undisturbed config ∧ state.Runs (RunsThrough config blocks))
    (by
      rintro state next target ⟨calm, runs⟩ steps
      refine ⟨calm.step steps, Runs.step ?_ calm runs steps⟩
      intro run act later through acts
      obtain ⟨body, endless⟩ := Run.next_keeps acts
      exact ⟨through.fits.next acts, body.trans through.body, endless.trans through.endless⟩)
    ⟨undisturbed, start⟩
  exact kept.2

theorem alone_runsThrough {pose : Pose} {time : Nat} {run : Run}
    (reaches : (alone config pose blocks time).Reaches solo) (ready : solo.phase = .ready run) :
    RunsThrough config blocks run := by
  have runs := alone_runs reaches
  simpa only [Runs, ready] using runs

/-- The round that began at a time has taken time, or is going to. -/
def Taking (config : Config) (blocks : List Block) (began : Nat) (solo : Solo) : Prop :=
  match solo.phase with
  | .ready run => began < solo.now ∨ solo.now = began ∧ run.Due config blocks
  | .waiting (some wake) _ => began < wake
  | _ => True

/-- If the pause of the round is still ahead after an act, it is so wherever the act leaves the
script. -/
theorem Taking.did {run : Run} (due : run.Due config blocks) (solo : Solo) (act : Act) :
    (solo.did run act).Taking config blocks solo.now := by
  cases act with
  | check | skip | display => exact Or.inr ⟨rfl, due⟩
  | rest => trivial
  | pause length =>
      simp only [Solo.did]
      split
      · exact Or.inr ⟨rfl, due⟩
      · rename_i takesTime
        exact Nat.lt_add_of_pos_right (Nat.pos_iff_ne_zero.mpr takesTime)

theorem Taking.step {began : Nat} (undisturbed : solo.Undisturbed config)
    (taking : solo.Taking config blocks began) (steps : solo.step target = some later) :
    later.Taking config blocks began := by
  rcases undisturbed.step_cases steps with
    ⟨wake, run, phase, rfl⟩ | ⟨outcome, rfl⟩ | ⟨run, act, next, phase, acts, rfl⟩
  · simp only [Taking, phase] at taking
    exact Or.inl taking
  · trivial
  · simp only [Taking, phase] at taking
    rcases taking with taken | ⟨now, due⟩
    · cases act with
      | check | skip | display => exact Or.inl taken
      | rest => trivial
      | pause length =>
          simp only [Solo.did]
          split
          · exact Or.inl taken
          · exact Nat.lt_add_right _ taken
    · subst now
      rcases due.next acts with ⟨length, rfl, takesTime⟩ | rfl | due'
      · simp only [Solo.did, if_neg takesTime]
        exact Nat.lt_add_of_pos_right (Nat.pos_iff_ne_zero.mpr takesTime)
      · trivial
      · exact Taking.did due' solo act

/-- The script has not left an instant, and never will. -/
def Stands (instant : Nat) (solo : Solo) : Prop :=
  solo.now = instant ∧ (∀ entry ∈ solo.updates.toList, entry.1 = instant) ∧
    match solo.phase with
    | .ready run => run.Hasty
    | .waiting (some _) _ => False
    | _ => True

theorem Stands.step {instant : Nat} (timeless : config.frameInterval = 0)
    (undisturbed : solo.Undisturbed config) (stands : solo.Stands instant)
    (steps : solo.step target = some later) : later.Stands instant := by
  obtain ⟨now, shown, hand⟩ := stands
  rcases undisturbed.step_cases steps with
    ⟨wake, run, phase, rfl⟩ | ⟨outcome, rfl⟩ | ⟨run, act, next, phase, acts, rfl⟩
  · simp only [phase] at hand
  · exact ⟨now, shown, trivial⟩
  · simp only [phase] at hand
    obtain ⟨hasty, short⟩ := hand.next timeless acts
    cases act with
    | check | skip => exact ⟨now, shown, hasty⟩
    | rest => exact ⟨now, shown, trivial⟩
    | pause length =>
        simp only [did, if_pos (short length rfl)]
        exact ⟨now, shown, hasty⟩
    | display update =>
        refine ⟨now, ?_, hasty⟩
        simp only [did, Journal.toList_push, List.mem_append, List.mem_singleton]
        rintro entry (old | rfl)
        · exact shown entry old
        · exact now

/-! ## From round to round -/

/-- Of at least one step there is a first one. -/
theorem ReachesIn.head {count : Nat} {first last : Solo} (reaches : ReachesIn count first last)
    (taken : 1 ≤ count) : ∃ target middle, first.step target = some middle ∧ middle.Reaches last := by
  cases reaches with
  | refl => exact absurd taken (Nat.not_succ_le_zero 0)
  | step head tail => exact ⟨_, _, head, _, tail⟩

/-- The script is about to begin a round. -/
def BeginsRound (solo : Solo) : Prop := ∃ run, solo.phase = .ready run ∧ run.BeginsRound

/-- From the beginning of a round the script comes to the next one, and displays a whole pass on the
way. -/
theorem Undisturbed.comesRound {run : Run} (undisturbed : solo.Undisturbed config)
    (ready : solo.phase = .ready run) (begins : run.BeginsRound) (fits : run.Fits config blocks) :
    ∃ target middle later, solo.step target = some middle ∧ middle.Reaches later ∧
      later.BeginsRound ∧ later.updates.toList =
        solo.updates.toList ++ (Stretch.pass config run.body run.pose solo.now).shown := by
  let here : Stretch := ⟨[], run.pose, solo.now, run.waited.nanoseconds⟩
  have counted : run.waited = .capped here.paused := by
    rw [Duration.capped, Nat.min_eq_right fits.waited]
  have atEnd : Run.AtEnd run.body here run :=
    ⟨rfl, counted, rfl, begins.endless, begins.through, begins.free⟩
  obtain ⟨next, atEnd', rested, leads⟩ := atEnd.again config begins.nonempty begins.rested
  obtain ⟨count, taken, reaches⟩ := leads solo undisturbed ready rfl
  have begins' : next.BeginsRound :=
    ⟨atEnd'.endless, atEnd'.body ▸ begins.nonempty, atEnd'.through, atEnd'.free, rested⟩
  obtain ⟨target, middle, head, tail⟩ := reaches.head taken
  exact ⟨target, middle, _, head, tail, ⟨next, rfl, begins'⟩, comeTo_updates solo next _ _⟩

/-- A script with a repeat, and with blocks before it, comes to the beginning of a round. -/
theorem alone_beginsRound (config : Config) (pose : Pose) (time : Nat)
    (endless : blocks.any Run.repeats = true) (nonempty : Run.bodyOf blocks ≠ []) :
    ∃ solo, (alone config pose blocks time).Reaches solo ∧ solo.BeginsRound := by
  obtain ⟨run, atEnd, rested, leads⟩ := Run.leads_rounds config pose endless nonempty time 0
  obtain ⟨count, _, reaches⟩ := alone_reaches leads
  exact ⟨_, ⟨count, reaches⟩, run, rfl,
    ⟨atEnd.endless, atEnd.body ▸ nonempty, atEnd.through, atEnd.free, rested⟩⟩

/-- Where something in it takes time, a round is over at a later time than it began. -/
theorem now_lt_of_paced {pose : Pose} {time : Nat} {first middle second : Solo}
    (paced : Run.Paced config (Run.bodyOf blocks))
    (reaches : (alone config pose blocks time).Reaches first) (begins : first.BeginsRound)
    (steps : first.step target = some middle) (goesOn : middle.Reaches second)
    (again : second.BeginsRound) : first.now < second.now := by
  have undisturbed := (alone_undisturbed config pose blocks time).reaches reaches
  obtain ⟨run, ready, begins⟩ := begins
  have runs := alone_runsThrough reaches ready
  -- The first act begins a block, so that the clock stands still and the pause of the round is ahead.
  have taking : middle.Taking config blocks first.now := by
    rcases undisturbed.step_cases steps with
      ⟨_, _, waits, _⟩ | ⟨outcome, rfl⟩ | ⟨same, act, next, phase, acts, rfl⟩
    · rw [ready] at waits
      cases waits
    · trivial
    · rw [ready, Phase.ready.injEq] at phase
      subst phase
      exact Taking.did (begins.due runs.fits (runs.body ▸ paced) acts) first act
  obtain ⟨last, ready', begins'⟩ := again
  have kept := goesOn.induction
    (fun state => state.Undisturbed config ∧ state.Taking config blocks first.now)
    (fun _ _ _ held steps => ⟨held.1.step steps, held.2.step held.1 steps⟩)
    ⟨undisturbed.step steps, taking⟩
  have taken := kept.2
  simp only [Taking, ready'] at taken
  rcases taken with taken | ⟨_, due⟩
  · exact taken
  · exact absurd due.marked begins'.rested

end Solo

/-! ## Passes that display something -/

theorem Block.stretch_shown_ne_nil {block : Block} (displays : block.displays = true)
    (config : Config) (pose : Pose) (time : Nat) : (block.stretch config pose time).shown ≠ [] := by
  have animates : ∀ (change : Pose → Pose) (frames : Nat),
      (Stretch.animation config change (max 1 frames) pose time).shown ≠ [] := by
    intro change frames
    simp only [Stretch.animation, ne_eq, List.map_eq_nil_iff, List.range_eq_nil]
    omega
  cases opcode : block.opcode with
  | moveSteps | turnRight | turnLeft =>
      simp only [Block.stretch, opcode]
      exact animates _ _
  | goTo | sayFor | thinkFor =>
      simp only [Block.stretch, opcode]
      exact List.cons_ne_nil _ _
  | whenFlagClicked | whenSpriteClicked | repeatAnimation | unknown =>
      simp [Block.displays, opcode] at displays

theorem Stretch.pass_shown_ne_nil {blocks : List Block} (displays : ∃ block ∈ blocks, block.displays)
    (config : Config) (pose : Pose) (time : Nat) : (pass config blocks pose time).shown ≠ [] := by
  induction blocks generalizing pose time with
  | nil => simp at displays
  | cons first rest more =>
      simp only [pass, followedBy, ne_eq, List.append_eq_nil_iff, not_and]
      intro silent
      obtain ⟨block, member, shows⟩ := displays
      rcases List.mem_cons.mp member with rfl | behind
      · exact absurd silent (Block.stretch_shown_ne_nil shows config pose time)
      · exact more ⟨block, behind, shows⟩ _ _

namespace Solo

variable {config : Config} {blocks : List Block} {solo later : Solo}

/-- The script goes round as often as it likes. If its rounds take time as much time goes by, and if
they display anything as much is displayed. -/
theorem alone_manyRounds (config : Config) (pose : Pose) (time : Nat)
    (endless : blocks.any Run.repeats = true) (nonempty : Run.bodyOf blocks ≠ []) (many : Nat) :
    ∃ solo, (alone config pose blocks time).Reaches solo ∧ solo.BeginsRound ∧
      (Run.Paced config (Run.bodyOf blocks) → many ≤ solo.now) ∧
      ((∃ block ∈ Run.bodyOf blocks, block.displays) → many ≤ solo.updates.toList.length) := by
  induction many with
  | zero =>
      obtain ⟨solo, reaches, begins⟩ := alone_beginsRound config pose time endless nonempty
      exact ⟨solo, reaches, begins, fun _ => Nat.zero_le _, fun _ => Nat.zero_le _⟩
  | succ many rounds =>
      obtain ⟨solo, reaches, begins, timed, shown⟩ := rounds
      have undisturbed := (alone_undisturbed config pose blocks time).reaches reaches
      obtain ⟨run, ready, beginsRun⟩ := begins
      have runs := alone_runsThrough reaches ready
      obtain ⟨target, middle, later, steps, goesOn, again, updates⟩ :=
        undisturbed.comesRound ready beginsRun runs.fits
      refine ⟨later, (reaches.trans (.single steps)).trans goesOn, again, ?_, ?_⟩
      · intro paced
        have passed := now_lt_of_paced paced reaches ⟨run, ready, beginsRun⟩ steps goesOn again
        exact Nat.succ_le_of_lt (Nat.lt_of_le_of_lt (timed paced) passed)
      · intro displays
        have more := Stretch.pass_shown_ne_nil displays config run.pose solo.now
        rw [← runs.body] at more
        have added := List.length_pos_iff.mpr more
        have before := shown displays
        rw [updates, List.length_append]
        omega

/-- What the script has displayed at an instant. -/
def displayedAt (solo : Solo) (instant : Nat) : List (Nat × Update) :=
  solo.updates.toList.filter fun entry => entry.1 = instant

/-- When the clock has left an instant, all that is displayed at it has been displayed. -/
theorem Reaches.displayedAt_eq {instant : Nat} (reaches : solo.Reaches later)
    (silent : solo.SilentBefore (instant + 1)) :
    later.displayedAt instant = solo.displayedAt instant := by
  obtain ⟨more, grown, late⟩ := reaches.grows silent
  have none : more.filter (fun entry => entry.1 = instant) = [] := by
    rw [List.filter_eq_nil_iff]
    intro entry member there
    have passed := late entry member
    have same := of_decide_eq_true there
    omega
  rw [displayedAt, grown, List.filter_append, none, List.append_nil, displayedAt]

/-- Of a later script it has displayed no more at an instant. -/
theorem Reaches.displayedAt_le (reaches : solo.Reaches later) (instant : Nat) :
    (solo.displayedAt instant).length ≤ (later.displayedAt instant).length := by
  obtain ⟨more, grown, _⟩ := reaches.grows (SilentBefore.zero solo)
  rw [displayedAt, displayedAt, grown, List.filter_append, List.length_append]
  exact Nat.le_add_right _ _

/-- A state that bounds all others, at an instant. -/
theorem displayedAt_bounded {start last : Solo} (instant : Nat) (reaches : start.Reaches last)
    (past : last.SilentBefore (instant + 1)) :
    ∀ solo, start.Reaches solo →
      (solo.displayedAt instant).length ≤ (last.displayedAt instant).length := by
  intro solo reached
  rcases reached.total reaches with before | after
  · exact before.displayedAt_le instant
  · rw [after.displayedAt_eq past]

/-! ## Scripts whose rounds take no time -/

theorem timeless_of_unpaced {body : List Block} (unpaced : ¬ Run.Paced config body) :
    config.frameInterval = 0 ∧ ∀ block ∈ body, ¬ block.Lingers := by
  constructor
  · by_contra timed
    exact unpaced (Or.inl (Nat.pos_iff_ne_zero.mpr timed))
  · exact fun block member lingers => unpaced (Or.inr ⟨block, member, lingers⟩)

/-- If nothing takes time in its rounds, the script never leaves the instant at which it starts. -/
theorem alone_stands {pose : Pose} {time : Nat} (unpaced : ¬ Run.Paced config (Run.bodyOf blocks))
    (reaches : (alone config pose blocks time).Reaches solo) : solo.Stands time := by
  obtain ⟨timeless, short⟩ := timeless_of_unpaced unpaced
  have hasty : (Run.start pose blocks).Hasty := ⟨short, short, nofun⟩
  have nothing : ∀ entry ∈ (alone config pose blocks time).updates.toList, entry.1 = time := nofun
  have kept := reaches.induction (fun state => state.Undisturbed config ∧ state.Stands time)
    (fun _ _ _ held steps => ⟨held.1.step steps, held.2.step timeless held.1 steps⟩)
    ⟨alone_undisturbed config pose blocks time, rfl, nothing, hasty⟩
  exact kept.2

/-- Such a script begins a round at the instant at which it began the one before. -/
theorem alone_spins (pose : Pose) (time : Nat) (endless : blocks.any Run.repeats = true)
    (nonempty : Run.bodyOf blocks ≠ []) (unpaced : ¬ Run.Paced config (Run.bodyOf blocks)) :
    ∃ first middle second target, (alone config pose blocks time).Reaches first ∧
      first.BeginsRound ∧ first.step target = some middle ∧ middle.Reaches second ∧
      second.BeginsRound ∧ first.now = second.now := by
  obtain ⟨first, reaches, begins⟩ := alone_beginsRound config pose time endless nonempty
  have undisturbed := (alone_undisturbed config pose blocks time).reaches reaches
  obtain ⟨run, ready, beginsRun⟩ := begins
  have runs := alone_runsThrough reaches ready
  obtain ⟨target, middle, second, steps, goesOn, again, _⟩ :=
    undisturbed.comesRound ready beginsRun runs.fits
  have reaches' := (reaches.trans (.single steps)).trans goesOn
  have stands := (alone_stands unpaced reaches).1
  have stands' := (alone_stands unpaced reaches').1
  exact ⟨first, middle, second, target, reaches, ⟨run, ready, beginsRun⟩, steps, goesOn, again,
    stands.trans stands'.symm⟩

/-- If it displays anything in a round, it displays more than any number of updates at that
instant. -/
theorem alone_floods (pose : Pose) (time : Nat) (endless : blocks.any Run.repeats = true)
    (displays : ∃ block ∈ Run.bodyOf blocks, block.displays)
    (unpaced : ¬ Run.Paced config (Run.bodyOf blocks)) (many : Nat) :
    ∃ solo, (alone config pose blocks time).Reaches solo ∧
      many ≤ (solo.displayedAt time).length := by
  have nonempty : Run.bodyOf blocks ≠ [] := by
    obtain ⟨block, member, _⟩ := displays
    exact List.ne_nil_of_mem member
  obtain ⟨solo, reaches, _, _, shown⟩ :=
    alone_manyRounds config pose time endless nonempty many
  have stands := (alone_stands unpaced reaches).2.1
  have whole : solo.displayedAt time = solo.updates.toList :=
    List.filter_eq_self.mpr fun entry member => decide_eq_true (stands entry member)
  rw [← whole] at shown
  exact ⟨solo, reaches, shown displays⟩

/-- If its rounds take time, or if there are none, a script displays only so much at an instant. -/
theorem alone_bounded (config : Config) (pose : Pose) (blocks : List Block) (time : Nat)
    (paced : blocks.any Run.repeats = true → Run.bodyOf blocks ≠ [] →
      Run.Paced config (Run.bodyOf blocks)) (instant : Nat) :
    ∃ most, ∀ solo, (alone config pose blocks time).Reaches solo →
      (solo.displayedAt instant).length ≤ most := by
  cases endless : blocks.any Run.repeats with
  | false =>
      obtain ⟨last, reaches, ended, _⟩ := alone_finishes config pose time endless
      exact ⟨_, displayedAt_bounded instant reaches (by simp [SilentBefore, ended])⟩
  | true =>
      by_cases nonempty : Run.bodyOf blocks = []
      · refine ⟨0, fun solo reaches => ?_⟩
        obtain ⟨_, silent⟩ := alone_rests config pose time endless nonempty reaches
        simp [displayedAt, silent]
      · obtain ⟨last, reaches, ⟨run, ready, _⟩, timed, _⟩ :=
          alone_manyRounds config pose time endless nonempty (instant + 1)
        have past : last.SilentBefore (instant + 1) := by
          simpa only [SilentBefore, ready] using timed (paced endless nonempty)
        exact ⟨_, displayedAt_bounded instant reaches past⟩

/-- Between the beginnings of two rounds of a script that nobody disturbs time passes, and at every
instant it displays only so much, exactly if the script has no rounds, or frames take time, or a
text is held in a round. Otherwise all rounds are at one instant, and if anything is displayed in
them there is no end of it. -/
theorem rounds_take_time (config : Config) (pose : Pose) (blocks : List Block) (time : Nat) :
    let script := alone config pose blocks time
    let body := Run.bodyOf blocks
    ((∀ first middle second target, script.Reaches first → first.BeginsRound →
        first.step target = some middle → middle.Reaches second → second.BeginsRound →
          first.now < second.now) ∧
      (∀ instant, ∃ most, ∀ solo, script.Reaches solo →
        (solo.displayedAt instant).length ≤ most) ↔
      (blocks.any Run.repeats = true → body ≠ [] →
        0 < config.frameInterval ∨ ∃ block ∈ body, block.Lingers)) ∧
      (blocks.any Run.repeats = true → (∃ block ∈ body, block.displays) →
        config.frameInterval = 0 → (∀ block ∈ body, ¬ block.Lingers) →
          ∀ many, ∃ solo, script.Reaches solo ∧ many ≤ (solo.displayedAt time).length) := by
  intro script body
  refine ⟨⟨?_, ?_⟩, ?_⟩
  · rintro ⟨passes, _⟩ endless nonempty
    by_contra unpaced
    obtain ⟨first, middle, second, target, reaches, begins, steps, goesOn, again, same⟩ :=
      alone_spins pose time endless nonempty unpaced
    have passed := passes first middle second target reaches begins steps goesOn again
    exact Nat.ne_of_lt passed same
  · intro paced
    refine ⟨?_, alone_bounded config pose blocks time paced⟩
    intro first middle second target reaches begins steps goesOn again
    obtain ⟨run, ready, beginsRun⟩ := begins
    have runs := alone_runsThrough reaches ready
    have nonempty : Run.bodyOf blocks ≠ [] := runs.body ▸ beginsRun.nonempty
    have inRounds := paced (runs.endless ▸ beginsRun.endless) nonempty
    exact now_lt_of_paced inRounds reaches ⟨run, ready, beginsRun⟩ steps goesOn again
  · intro endless displays timeless short many
    refine alone_floods pose time endless displays ?_ many
    rintro (timed | ⟨block, member, lingers⟩)
    · exact Nat.ne_of_gt timed timeless
    · exact short block member lingers

/-- A project whose frames take no time. -/
def hurried : List UInt8 :=
  r#"{"config":{"frame_interval_ms":0},"sprites":[]}"#.toUTF8.toList

/-- There is such a project. A script that moves over and over begins its rounds all at once there,
and displays more than any number of updates at the instant at which it starts. -/
theorem rounds_at_once :
    let mover : List Block :=
      [⟨⟨1⟩, .moveSteps, Opcode.moveSteps.defaults⟩, ⟨⟨2⟩, .repeatAnimation, ⟨[]⟩⟩]
    ∃ project, Project.parse hurried = .ok project ∧
      let script := alone project.config ⟨0, 0, 90⟩ mover 0
      (∃ first middle second target, script.Reaches first ∧ first.BeginsRound ∧
        first.step target = some middle ∧ middle.Reaches second ∧ second.BeginsRound ∧
          first.now = second.now) ∧
        ∀ many, ∃ solo, script.Reaches solo ∧ many ≤ (solo.displayedAt 0).length := by
  intro mover
  let project : Project := { config := { frameInterval := 0 } }
  have parsed : Project.parse hurried = .ok project := by decide +kernel
  have body : Run.bodyOf mover = [⟨⟨1⟩, .moveSteps, Opcode.moveSteps.defaults⟩] := rfl
  have unpaced : ¬ Run.Paced project.config (Run.bodyOf mover) := by
    rw [body]
    simp [Run.Paced, Block.Lingers, project]
  have displays : ∃ block ∈ Run.bodyOf mover, block.displays := ⟨_, .head _, rfl⟩
  refine ⟨project, parsed, alone_spins _ 0 rfl (by simp [body]) unpaced, ?_⟩
  exact alone_floods _ 0 rfl displays unpaced

end Solo

end SpriteStage
