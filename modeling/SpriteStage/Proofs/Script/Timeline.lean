/-
Module: SpriteStage.Proofs.Script.Timeline
Purpose: The timelines of scripts, the reference semantics of the interpreter. A block displays
  certain updates at certain times, and leaves a pose and a time at which the next block begins;
  blocks are put one behind another, and passes too. This is said here on its own, without any state
  of a running script and without the functions that the interpreter goes by: what a frame adds to
  the pose, how long a frame and a hold last and which block repeats are all written out. A script
  that nobody disturbs displays exactly its timeline: it ends with it if no block repeats the
  animation, and otherwise comes through round after round of it and never ends. The pauses of a
  script are added up in nanoseconds. Its own count of them stops at the longest time, so a round
  that finds the count full is taken for one without pauses.
Main exports: Stretch, Block.stretch, Stretch.pass, Stretch.rounds, Run.Leads, Solo.follows_timeline
-/
import Mathlib.Data.List.TakeWhile
import Mathlib.Logic.Function.Iterate
import SpriteStage.Proofs.Script.Holds
import SpriteStage.Proofs.Script.Undisturbed

namespace SpriteStage

/-! ## Timelines -/

/-- A stretch of a timeline: what is displayed and when, and the pose and the time at which it ends.
The pauses in it are counted in nanoseconds. -/
structure Stretch where
  shown : List (Nat × Update)
  pose : Pose
  time : Nat
  paused : Nat

namespace Stretch

/-- Nothing happens, in no time. -/
def still (pose : Pose) (time : Nat) : Stretch := ⟨[], pose, time, 0⟩

/-- One stretch and what follows from where it ends. -/
def followedBy (first : Stretch) (next : Pose → Nat → Stretch) : Stretch :=
  let second := next first.pose first.time
  ⟨first.shown ++ second.shown, second.pose, second.time, first.paused + second.paused⟩

/-- Frames that each make the same change of the pose, and are each followed by the wait between two
frames. -/
def animation (config : Config) (change : Pose → Pose) (frames : Nat) (pose : Pose) (time : Nat) :
    Stretch where
  shown := (List.range frames).map fun index =>
    (time + index * config.frameInterval, .pose (change^[index + 1] pose))
  pose := change^[frames] pose
  time := time + frames * config.frameInterval
  paused := frames * (config.frameInterval * 1000000)

/-- The first frame comes at once, the others one interval later. -/
theorem animation_succ (config : Config) (change : Pose → Pose) (frames : Nat) (pose : Pose) (time : Nat) :
    animation config change (frames + 1) pose time =
      let rest := animation config change frames (change pose) (time + config.frameInterval)
      { rest with
        shown := (time, .pose (change pose)) :: rest.shown
        paused := config.frameInterval * 1000000 + rest.paused } := by
  have later : ∀ index, time + (index + 1) * config.frameInterval =
      time + config.frameInterval + index * config.frameInterval := by
    intro index
    rw [Nat.succ_mul, Nat.add_comm (index * _), Nat.add_assoc]
  have counted : (frames + 1) * (config.frameInterval * 1000000) =
      config.frameInterval * 1000000 + frames * (config.frameInterval * 1000000) := by
    rw [Nat.succ_mul, Nat.add_comm]
  simp only [animation, List.range_succ_eq_map, List.map_cons, List.map_map, Stretch.mk.injEq,
    Nat.zero_mul, Nat.add_zero]
  refine ⟨congrArg _ (List.map_congr_left fun index _ => ?_), rfl, later frames, counted⟩
  rw [Function.comp_apply, later]
  rfl

/-- A jump to some place. -/
def jump (x y : Float) (pose : Pose) (time : Nat) : Stretch :=
  let arrived : Pose := ⟨x, y, pose.direction⟩
  ⟨[(time, .pose arrived)], arrived, time, 0⟩

/-- A text that stays up for some nanoseconds, rounded up to whole milliseconds, and is taken
back. -/
def speech (voice : Voice) (text : String) (hold : Nat) (pose : Pose) (time : Nat) : Stretch where
  shown := [(time, .speech voice text), (time + hold ⌈/⌉ 1000000, .speech voice "")]
  pose := pose
  time := time + hold ⌈/⌉ 1000000
  paused := hold

end Stretch

/-- The timeline of a block that begins in a pose at a time. What a frame adds is fixed when the
block begins: a movement goes the same way in all its frames, ninety degrees behind the direction of
the pose. -/
def Block.stretch (config : Config) (block : Block) (pose : Pose) (time : Nat) : Stretch :=
  match block.opcode with
  | .whenFlagClicked | .whenSpriteClicked | .repeatAnimation | .unknown _ => .still pose time
  | .moveSteps =>
    let frames := max 1 config.moveFrames
    let radians := (pose.direction - 90) * Float.ofBits 0x3f91df46a2529d39
    let distance := block.number "steps" / Binary64.ofNat frames
    let dx := distance * radians.cos
    let dy := distance * radians.sin
    .animation config (fun pose => ⟨pose.x + dx, pose.y + dy, pose.direction⟩) frames pose time
  | .turnRight =>
    let frames := max 1 config.turnFrames
    let delta := block.number "degrees" / Binary64.ofNat frames
    .animation config (fun pose => ⟨pose.x, pose.y, pose.direction + delta⟩) frames pose time
  | .turnLeft =>
    let frames := max 1 config.turnFrames
    let delta := -block.number "degrees" / Binary64.ofNat frames
    .animation config (fun pose => ⟨pose.x, pose.y, pose.direction + delta⟩) frames pose time
  | .goTo => .jump (block.number "x") (block.number "y") pose time
  | .sayFor =>
    .speech .say (block.text "message") (holdNanoseconds (block.number "seconds")) pose time
  | .thinkFor =>
    .speech .think (block.text "message") (holdNanoseconds (block.number "seconds")) pose time

namespace Stretch

/-- The timeline of one pass over blocks. -/
def pass (config : Config) : List Block → Pose → Nat → Stretch
  | [], pose, time => still pose time
  | block :: blocks, pose, time =>
    (block.stretch config pose time).followedBy (pass config blocks)

/-- A stretch and the wait of one frame. -/
def breather (config : Config) (stretch : Stretch) : Stretch :=
  { stretch with
    time := stretch.time + config.frameInterval
    paused := stretch.paused + config.frameInterval * 1000000 }

/-- One more pass. If it does not pause, or the count of pauses is full, a wait of one frame comes
after it. -/
def again (config : Config) (body : List Block) (before : Stretch) : Stretch :=
  let whole := before.followedBy (pass config body)
  if whole.paused = before.paused ∨ longestNanoseconds ≤ before.paused then
    whole.breather config
  else whole

theorem again_shown (config : Config) (body : List Block) (before : Stretch) :
    (before.again config body).shown =
      before.shown ++ (pass config body before.pose before.time).shown := by
  unfold again
  dsimp only
  split <;> rfl

/-- The blocks that a script runs: all of them, or those before the first repeat. -/
def played (blocks : List Block) : List Block :=
  blocks.takeWhile fun block => decide (block.opcode ≠ .repeatAnimation)

/-- The timeline of a first pass and a number of further ones. Without blocks there are none. -/
def rounds (config : Config) (body : List Block) (pose : Pose) (time : Nat) : Nat → Stretch
  | 0 => pass config body pose time
  | more + 1 =>
    let before := rounds config body pose time more
    if body = [] then before else before.again config body

theorem rounds_nil (config : Config) (pose : Pose) (time more : Nat) :
    rounds config [] pose time more = still pose time := by
  induction more with
  | zero => rfl
  | succ more before => simpa [rounds] using before

end Stretch

/-! ## Counting pauses -/

namespace Duration

/-- The count of pauses for a number of nanoseconds. -/
def capped (nanoseconds : Nat) : Duration := ⟨min longest.nanoseconds nanoseconds⟩

theorem capped_add (nanoseconds : Nat) (length : Duration) :
    (capped nanoseconds).add length = capped (nanoseconds + length.nanoseconds) := by
  simp only [capped, add, Duration.mk.injEq]
  omega

/-- The count does not change exactly if nothing was added to it or it was full. -/
theorem capped_eq_iff {few many : Nat} (more : few ≤ many) :
    capped few = capped many ↔ many = few ∨ longestNanoseconds ≤ few := by
  have full : longest.nanoseconds = longestNanoseconds := rfl
  unfold capped
  rw [Duration.mk.injEq, full]
  omega

end Duration

theorem Config.frame_milliseconds (config : Config) :
    config.frame.milliseconds = config.frameInterval :=
  Duration.milliseconds_ofMilliseconds _

/-- What the interpreter adds in every frame of a movement. -/
theorem Glide.advance_move (pose : Pose) (steps : Float) (frames : Nat) :
    (Glide.move pose steps frames).advance =
      let radians := (pose.direction - 90) * Float.ofBits 0x3f91df46a2529d39
      let distance := steps / Binary64.ofNat frames
      fun pose => ⟨pose.x + distance * radians.cos, pose.y + distance * radians.sin, pose.direction⟩ := rfl

/-- What it adds in every frame of a turn. -/
theorem Glide.advance_turn (degrees : Float) (frames : Nat) :
    (Glide.turn degrees frames).advance =
      fun pose => ⟨pose.x, pose.y, pose.direction + degrees / Binary64.ofNat frames⟩ := rfl

/-! ## Runs that lead somewhere -/

namespace Solo

/-- The script in line at a later time, with more displayed. -/
def comeTo (solo : Solo) (run : Run) (time : Nat) (shown : List (Nat × Update)) : Solo :=
  { solo with phase := .ready run, now := time, updates := shown.foldl Journal.push solo.updates }

theorem comeTo_comeTo (solo : Solo) (run later : Run) (time after : Nat)
    (shown more : List (Nat × Update)) :
    (solo.comeTo run time shown).comeTo later after more =
      solo.comeTo later after (shown ++ more) := by
  simp [comeTo]

theorem comeTo_updates (solo : Solo) (run : Run) (time : Nat) (shown : List (Nat × Update)) :
    (solo.comeTo run time shown).updates.toList = solo.updates.toList ++ shown := by
  simp only [comeTo]
  induction shown generalizing solo with
  | nil => simp
  | cons entry rest more =>
      have written := more { solo with updates := solo.updates.push entry }
      simpa using written

end Solo

namespace Run

/-- In at least so many steps, a run in line at a time displays certain updates and is in line again
as another run at another time. -/
def Leads (config : Config) (least : Nat) (run : Run) (time : Nat) (shown : List (Nat × Update))
    (later : Run) (after : Nat) : Prop :=
  ∀ solo : Solo, solo.Undisturbed config → solo.phase = .ready run → solo.now = time →
    ∃ count, least ≤ count ∧ Solo.ReachesIn count solo (solo.comeTo later after shown)

namespace Leads

variable {config : Config} {run later : Run} {time : Nat}

theorem refl (config : Config) (run : Run) (time : Nat) : Leads config 0 run time [] run time := by
  rintro solo - ready rfl
  refine ⟨0, Nat.le_refl 0, ?_⟩
  have same : solo.comeTo run solo.now [] = solo := by simp [Solo.comeTo, ← ready]
  rw [same]
  exact .refl solo

theorem trans {few more : Nat} {last : Run} {after final : Nat}
    {shown added : List (Nat × Update)} (one : Leads config few run time shown later after)
    (two : Leads config more later after added last final) :
    Leads config (few + more) run time (shown ++ added) last final := by
  intro solo undisturbed ready now
  obtain ⟨count, enough, reaches⟩ := one solo undisturbed ready now
  obtain ⟨count', enough', reaches'⟩ :=
    two _ (undisturbed.reaches ⟨count, reaches⟩) rfl rfl
  rw [Solo.comeTo_comeTo] at reaches'
  exact ⟨count + count', Nat.add_le_add enough enough', reaches.trans reaches'⟩

theorem mono {few many : Nat} {after : Nat} {shown : List (Nat × Update)}
    (leads : Leads config many run time shown later after) (fewer : few ≤ many) :
    Leads config few run time shown later after := by
  intro solo undisturbed ready now
  obtain ⟨count, enough, reaches⟩ := leads solo undisturbed ready now
  exact ⟨count, Nat.le_trans fewer enough, reaches⟩

theorem check (next : run.next config = some (.check, later)) (time : Nat) :
    Leads config 1 run time [] later time := by
  rintro solo undisturbed ready rfl
  have steps := undisturbed.step_ready ready solo.now
  simp only [proceed, next, Bool.not_true, Bool.false_eq_true, if_false] at steps
  exact ⟨1, Nat.le_refl 1, .single steps⟩

theorem skip {tag : String} (next : run.next config = some (.skip tag, later)) (time : Nat) :
    Leads config 1 run time [] later time := by
  rintro solo undisturbed ready rfl
  have steps := undisturbed.step_ready ready solo.now
  simp only [proceed, next, Bool.not_true, Bool.false_eq_true, if_false] at steps
  exact ⟨1, Nat.le_refl 1, .single steps⟩

theorem display {update : Update} (next : run.next config = some (.display update, later))
    (time : Nat) : Leads config 1 run time [(time, update)] later time := by
  rintro solo undisturbed ready rfl
  have steps := undisturbed.step_ready ready solo.now
  simp only [proceed, next, Bool.not_true, Bool.false_eq_true, if_false] at steps
  exact ⟨1, Nat.le_refl 1, .single steps⟩

/-- A pause ends so many milliseconds later; one of no length is over at once. -/
theorem pause {length : Duration} (next : run.next config = some (.pause length, later))
    (time : Nat) : Leads config 1 run time [] later (time + length.milliseconds) := by
  rintro solo undisturbed ready rfl
  have steps := undisturbed.step_ready ready solo.now
  simp only [proceed_pause next, Bool.not_true, Bool.false_eq_true, if_false] at steps
  by_cases none : length.milliseconds = 0
  · simp only [none, if_true] at steps
    rw [none]
    exact ⟨1, Nat.le_refl 1, .single steps⟩
  · simp only [none, if_false] at steps
    have wakes : (solo.after (.waiting length.milliseconds later)).step
        (solo.now + length.milliseconds) =
          some (solo.comeTo later (solo.now + length.milliseconds) []) := by
      simp [Solo.step, Solo.after, Solo.comeTo]
    exact ⟨2, Nat.le_succ 1, .step steps (.single wakes)⟩

end Leads

end Run

/-! ## Blocks and passes -/

namespace Run

/-- The run between two blocks, with a pose, a count of pauses and the blocks that are left. -/
def between (run : Run) (left : List Block) (pose : Pose) (paused : Nat) : Run :=
  { run with pose, waited := .capped paused, left, todo := .block }

theorem between_self {run : Run} {paused : Nat} (counted : run.waited = .capped paused)
    (left : List Block) :
    { run with left, todo := .block } = run.between left run.pose paused := by
  simp [between, ← counted]

namespace Leads

variable {config : Config} {run base : Run} {paused : Nat}

/-- A pause in hand is taken, counted, and followed by what comes after it. -/
theorem pauseCounted {length : Duration} {todo : Todo} (counted : run.waited = .capped paused)
    (next : run.next config = some (.pause length, run.paused length todo)) (time : Nat) :
    Leads config 1 run time []
      { run with waited := .capped (paused + length.nanoseconds), todo }
      (time + length.milliseconds) := by
  have leads := pause next time
  rwa [Run.paused, counted, Duration.capped_add] at leads

/-- The frames in hand are displayed one after another. -/
theorem animation {glide : Glide} {frames : Nat} (hand : run.todo = .frames glide frames)
    (counted : run.waited = .capped paused) (time : Nat) :
    let stretch := Stretch.animation config glide.advance frames run.pose time
    Leads config 1 run time stretch.shown
      (run.between run.left stretch.pose (paused + stretch.paused)) stretch.time := by
  -- One frame is a display and a pause; the frames that are left begin one interval later.
  induction frames generalizing run paused time with
  | zero =>
      have next : run.next config = some (.check, { run with todo := .block }) := by
        simp [Run.next, hand]
      have leads := check next time
      have same : run.between run.left run.pose paused = { run with todo := .block } :=
        (between_self counted run.left).symm
      simpa [Stretch.animation, same] using leads
  | succ frames more =>
      let shown : Run :=
        { run with pose := glide.advance run.pose, todo := .settle glide frames }
      let settled : Run :=
        { shown with
          waited := .capped (paused + config.frameInterval * 1000000), todo := .frames glide frames }
      have displays : Leads config 1 run time [(time, .pose (glide.advance run.pose))] shown time :=
        display (by simp [Run.next, hand, shown]) time
      have next : shown.next config =
          some (.pause config.frame, shown.paused config.frame (.frames glide frames)) := rfl
      have waited : shown.waited = .capped paused := counted
      have settles : Leads config 1 shown time [] settled (time + config.frame.milliseconds) :=
        pauseCounted waited next time
      rw [config.frame_milliseconds] at settles
      have counted' : settled.waited = .capped (paused + config.frameInterval * 1000000) := rfl
      have rest := more rfl counted' (time + config.frameInterval)
      have whole := ((displays.trans settles).trans rest).mono (Nat.le_add_left 1 (1 + 1))
      rw [Nat.add_assoc] at whole
      rw [Stretch.animation_succ]
      exact whole

/-- A text is displayed, held and taken back. -/
theorem speech {voice : Voice} {text : String} {hold : Duration} {left : List Block}
    (next : run.next config =
      some (.display (.speech voice text), { base with left, todo := .hold voice hold }))
    (counted : base.waited = .capped paused) (time : Nat) :
    let stretch := Stretch.speech voice text hold.nanoseconds base.pose time
    Leads config 1 run time stretch.shown
      (base.between left stretch.pose (paused + stretch.paused)) stretch.time := by
  let held : Run := { base with left, todo := .hold voice hold }
  let done : Run :=
    { held with waited := .capped (paused + hold.nanoseconds), todo := .hush voice }
  have waited : held.waited = .capped paused := counted
  have holds : Leads config 1 held time [] done (time + hold.milliseconds) :=
    pauseCounted waited rfl time
  rw [hold.milliseconds_eq] at holds
  have hushes : done.next config = some (.display (.speech voice ""),
      base.between left base.pose (paused + hold.nanoseconds)) := rfl
  have whole := ((display next time).trans holds).trans (display hushes (time + hold.nanoseconds ⌈/⌉ 1000000))
  exact whole.mono (Nat.le_add_left 1 (1 + 1))

/-- A run whose next act begins a block displays the timeline of that block. -/
theorem block {block : Block} {left : List Block}
    (begins : run.next config = some (base.beginBlock config block left))
    (counted : base.waited = .capped paused) (time : Nat) :
    let stretch := block.stretch config base.pose time
    Leads config 1 run time stretch.shown
      (base.between left stretch.pose (paused + stretch.paused)) stretch.time := by
  have still := between_self counted left
  have animates : ∀ (glide : Glide) (frames : Nat),
      run.next config = some (.check, { base with left, todo := .frames glide frames }) →
      let stretch := Stretch.animation config glide.advance frames base.pose time
      Leads config 1 run time stretch.shown
        (base.between left stretch.pose (paused + stretch.paused)) stretch.time := by
    intro glide frames next
    let shown : Run := { base with left, todo := .frames glide frames }
    have waited : shown.waited = .capped paused := counted
    exact ((check next time).trans (animation rfl waited time)).mono (Nat.le_add_left 1 1)
  cases opcode : block.opcode with
  | moveSteps =>
      simp only [beginBlock, opcode] at begins
      simpa only [Block.stretch, opcode, Glide.advance_move] using animates _ _ begins
  | turnRight =>
      simp only [beginBlock, opcode] at begins
      simpa only [Block.stretch, opcode, Glide.advance_turn] using animates _ _ begins
  | turnLeft =>
      simp only [beginBlock, opcode] at begins
      simpa only [Block.stretch, opcode, Glide.advance_turn] using animates _ _ begins
  | goTo =>
      simp only [beginBlock, opcode, counted] at begins
      simp only [Block.stretch, opcode]
      exact display begins time
  | sayFor =>
      simp only [beginBlock, opcode] at begins
      simp only [Block.stretch, opcode, ← Duration.ofSeconds_nanoseconds]
      exact speech begins counted time
  | thinkFor =>
      simp only [beginBlock, opcode] at begins
      simp only [Block.stretch, opcode, ← Duration.ofSeconds_nanoseconds]
      exact speech begins counted time
  | unknown tag =>
      simp only [beginBlock, opcode, still] at begins
      simp only [Block.stretch, opcode]
      exact skip begins time
  | whenFlagClicked | whenSpriteClicked | repeatAnimation =>
      simp only [beginBlock, opcode, still] at begins
      simp only [Block.stretch, opcode]
      exact check begins time

/-- A run between two blocks displays the timeline of a pass over the blocks that are left. -/
theorem pass (config : Config) (base : Run) (blocks : List Block) (pose : Pose)
    (paused time : Nat) :
    let stretch := Stretch.pass config blocks pose time
    Leads config blocks.length (base.between blocks pose paused) time stretch.shown
      (base.between [] stretch.pose (paused + stretch.paused)) stretch.time := by
  induction blocks generalizing pose paused time with
  | nil => exact refl config _ time
  | cons first rest more =>
      have waited : (base.between (first :: rest) pose paused).waited = .capped paused := rfl
      have begins : (base.between (first :: rest) pose paused).next config =
        some ((base.between (first :: rest) pose paused).beginBlock config first rest) := rfl
      let stretch := first.stretch config pose time
      have goesOn := more stretch.pose (paused + stretch.paused) stretch.time
      have whole := ((block begins waited time).trans goesOn).mono
        (Nat.le_of_eq (Nat.add_comm rest.length 1))
      rw [Nat.add_assoc] at whole
      exact whole

/-- So does a run whose next act begins the first block of the pass. -/
theorem passFrom {first : Block} {rest : List Block}
    (begins : run.next config = some (base.beginBlock config first rest))
    (counted : base.waited = .capped paused) (time : Nat) :
    let stretch := Stretch.pass config (first :: rest) base.pose time
    Leads config 1 run time stretch.shown
      (base.between [] stretch.pose (paused + stretch.paused)) stretch.time := by
  let stretch := first.stretch config base.pose time
  have goesOn := pass config base rest stretch.pose (paused + stretch.paused) stretch.time
  have whole := ((block begins counted time).trans goesOn).mono (Nat.le_add_right 1 rest.length)
  rw [Nat.add_assoc] at whole
  exact whole

end Leads

/-! ## Rounds -/

/-- The blocks of a pass, as a script picks them. -/
def bodyOf (blocks : List Block) : List Block := blocks.takeWhile fun block => !repeats block

theorem bodyOf_eq (blocks : List Block) : bodyOf blocks = Stretch.played blocks := by
  simp [bodyOf, Stretch.played, repeats]

theorem any_repeats_eq_true_iff {blocks : List Block} :
    blocks.any repeats = true ↔ ∃ block ∈ blocks, block.opcode = .repeatAnimation := by
  simp [repeats]

/-- Every script comes through its first pass. -/
theorem leads_pass (config : Config) (pose : Pose) (blocks : List Block) (time : Nat) :
    let stretch := Stretch.pass config (bodyOf blocks) pose time
    Leads config (bodyOf blocks).length (start pose blocks) time stretch.shown
      ((start pose blocks).between [] stretch.pose stretch.paused) stretch.time := by
  have passes := Leads.pass config (start pose blocks) (bodyOf blocks) pose 0 time
  simp only [Nat.zero_add] at passes
  exact passes

/-- The run has come to the end of a pass, and another one is to come. -/
structure AtEnd (body : List Block) (stretch : Stretch) (run : Run) : Prop where
  pose : run.pose = stretch.pose
  counted : run.waited = .capped stretch.paused
  body : run.body = body
  endless : run.endless = true
  through : run.left = []
  free : run.todo = .block

namespace AtEnd

variable {body : List Block} {stretch : Stretch} {run : Run}

/-- Unless the pass has to wait, the next one begins. -/
theorem pass (atEnd : AtEnd body stretch run) (config : Config) (some : body ≠ [])
    (unmarked : run.mark ≠ run.waited) :
    let whole := stretch.followedBy (Stretch.pass config body)
    ∃ later, AtEnd body whole later ∧ later.mark = run.waited ∧
      Leads config 1 run stretch.time
        (Stretch.pass config body stretch.pose stretch.time).shown later whole.time := by
  obtain ⟨first, rest, rfl⟩ := List.exists_cons_of_ne_nil some
  let marked : Run := { run with mark := run.waited }
  have begins : run.next config = marked.beginBlock config first rest := by
    simp [next, atEnd.free, atEnd.through, endPass, atEnd.endless, atEnd.body, unmarked, marked]
  have counted : marked.waited = .capped stretch.paused := atEnd.counted
  have pose : marked.pose = stretch.pose := atEnd.pose
  have passes := Leads.passFrom begins counted stretch.time
  rw [pose] at passes
  refine ⟨marked.between [] _ _, ⟨rfl, rfl, atEnd.body, atEnd.endless, rfl, rfl⟩, rfl, passes⟩

/-- A pause at the end of a pass is counted, and changes nothing else. -/
theorem paused (atEnd : AtEnd body stretch run) (length : Duration) (time : Nat) :
    AtEnd body { stretch with time, paused := stretch.paused + length.nanoseconds }
      { run.paused length .block with mark := none } := by
  have counted : (run.paused length .block).waited =
      .capped (stretch.paused + length.nanoseconds) := by
    rw [Run.paused, atEnd.counted, Duration.capped_add]
  exact ⟨atEnd.pose, counted, atEnd.body, atEnd.endless, atEnd.through, rfl⟩

/-- A pass that has to wait is followed by the wait of one frame. -/
theorem breather (atEnd : AtEnd body stretch run) (config : Config) (some : body ≠ [])
    (marked : run.mark = run.waited) :
    ∃ later, AtEnd body (stretch.breather config) later ∧ later.mark = none ∧
      Leads config 1 run stretch.time [] later (stretch.breather config).time := by
  obtain ⟨first, rest, rfl⟩ := List.exists_cons_of_ne_nil some
  let later : Run := { run.paused config.frame .block with mark := none }
  have next : run.next config = (Act.pause config.frame, later) := by
    simp [Run.next, atEnd.free, atEnd.through, endPass, atEnd.endless, atEnd.body, marked, later]
  have waits := Leads.pause next stretch.time
  rw [config.frame_milliseconds] at waits
  exact ⟨later, atEnd.paused config.frame _, rfl, waits⟩

/-- From a pass that need not wait a run comes to the next such pass. -/
theorem again (atEnd : AtEnd body stretch run) (config : Config) (some : body ≠ [])
    (unmarked : run.mark ≠ run.waited) :
    ∃ later, AtEnd body (stretch.again config body) later ∧ later.mark ≠ later.waited ∧
      Leads config 1 run stretch.time
        (Stretch.pass config body stretch.pose stretch.time).shown later
        (stretch.again config body).time := by
  obtain ⟨ended, atEnd', mark, passes⟩ := atEnd.pass config some unmarked
  have counts : ended.mark = ended.waited ↔
      (stretch.followedBy (Stretch.pass config body)).paused = stretch.paused ∨
        longestNanoseconds ≤ stretch.paused := by
    rw [mark, atEnd'.counted, atEnd.counted, Option.some_inj]
    exact Duration.capped_eq_iff (Nat.le_add_right _ _)
  unfold Stretch.again
  by_cases waits : ended.mark = ended.waited
  · obtain ⟨later, atEnd'', unmarked', pauses⟩ := atEnd'.breather config some waits
    rw [if_pos (counts.mp waits)]
    have whole := (passes.trans pauses).mono (Nat.le_add_left 1 1)
    rw [List.append_nil] at whole
    exact ⟨later, atEnd'', by simp [unmarked'], whole⟩
  · rw [if_neg (mt counts.mpr waits)]
    exact ⟨ended, atEnd', waits, passes⟩

end AtEnd

/-- A script that repeats its animation comes through every round. -/
theorem leads_rounds (config : Config) (pose : Pose) {blocks : List Block}
    (endless : blocks.any repeats = true) (some : bodyOf blocks ≠ []) (time more : Nat) :
    let stretch := Stretch.rounds config (bodyOf blocks) pose time more
    ∃ later, AtEnd (bodyOf blocks) stretch later ∧ later.mark ≠ later.waited ∧
      Leads config more (start pose blocks) time stretch.shown later stretch.time := by
  induction more with
  | zero =>
      refine ⟨(start pose blocks).between [] _ _, ⟨rfl, rfl, rfl, endless, rfl, rfl⟩, ?_,
        (leads_pass config pose blocks time).mono (Nat.zero_le _)⟩
      simp [between, start]
  | succ more rounds =>
      obtain ⟨run, atEnd, unmarked, leads⟩ := rounds
      obtain ⟨later, atEnd', unmarked', goesOn⟩ := atEnd.again config some unmarked
      simp only [Stretch.rounds, if_neg some, Stretch.again_shown]
      exact ⟨later, atEnd', unmarked', leads.trans goesOn⟩

end Run

/-! ## Scripts that nobody disturbs -/

namespace Solo

/-- What its run leads to, a script that nobody disturbs reaches. -/
theorem alone_reaches {config : Config} {pose : Pose} {blocks : List Block} {least time after : Nat}
    {shown : List (Nat × Update)} {later : Run}
    (leads : Run.Leads config least (Run.start pose blocks) time shown later after) :
    ∃ count, least ≤ count ∧ ReachesIn count (alone config pose blocks time)
      ((alone config pose blocks time).comeTo later after shown) :=
  leads _ (alone_undisturbed config pose blocks time) rfl rfl

/-- A script without a repeat ends with its timeline. -/
theorem alone_finishes (config : Config) (pose : Pose) {blocks : List Block} (time : Nat)
    (once : blocks.any Run.repeats = false) :
    let stretch := Stretch.pass config blocks pose time
    ∃ last, (alone config pose blocks time).Reaches last ∧ last.phase = .ended .finished ∧
      last.now = stretch.time ∧ last.updates.toList = stretch.shown := by
  have whole : Run.bodyOf blocks = blocks := by
    rw [Run.bodyOf, List.takeWhile_eq_self_iff]
    simpa using once
  have passes := Run.leads_pass config pose blocks time
  rw [whole] at passes
  obtain ⟨count, _, reaches⟩ := alone_reaches passes
  set through := (Run.start pose blocks).between [] _ _ with throughEq
  have next : through.next config = none := by
    simp [throughEq, Run.next, Run.between, Run.start, Run.endPass, once]
  have undisturbed := (alone_undisturbed config pose blocks time).reaches ⟨count, reaches⟩
  have ends := undisturbed.step_ready rfl 0
  simp only [Run.proceed, next] at ends
  refine ⟨_, ⟨_, reaches.trans (.single ends)⟩, rfl, rfl, ?_⟩
  have shown := comeTo_updates (alone config pose blocks time) through
    (Stretch.pass config blocks pose time).time (Stretch.pass config blocks pose time).shown
  exact shown

/-- A script with a repeat comes through every round of its timeline. -/
theorem alone_goesRound (config : Config) (pose : Pose) {blocks : List Block} (time : Nat)
    (endless : blocks.any Run.repeats = true) (some : Run.bodyOf blocks ≠ []) (more : Nat) :
    let stretch := Stretch.rounds config (Run.bodyOf blocks) pose time more
    ∃ count last run, more ≤ count ∧ ReachesIn count (alone config pose blocks time) last ∧
      last.phase = .ready run ∧ last.now = stretch.time ∧
      last.updates.toList = stretch.shown := by
  obtain ⟨later, _, _, leads⟩ := Run.leads_rounds config pose endless some time more
  obtain ⟨count, enough, reaches⟩ := alone_reaches leads
  exact ⟨count, _, later, enough, reaches, rfl, rfl, comeTo_updates _ _ _ _⟩

/-- A script that begins with a repeat rests at once, and for good. -/
theorem alone_rests (config : Config) (pose : Pose) {blocks : List Block} (time : Nat)
    (endless : blocks.any Run.repeats = true) (none : Run.bodyOf blocks = []) {solo : Solo}
    (reaches : (alone config pose blocks time).Reaches solo) :
    solo.outcome? = .none ∧ solo.updates.toList = [] := by
  have next : (Run.start pose blocks).next config = some (.rest, Run.start pose blocks) := by
    have body : (Run.start pose blocks).body = [] := none
    have left : (Run.start pose blocks).left = [] := none
    have again : (Run.start pose blocks).endless = true := endless
    have hand : (Run.start pose blocks).todo = .block := rfl
    simp [Run.next, Run.endPass, hand, left, body, again]
  have ready : (alone config pose blocks time).phase = .ready (Run.start pose blocks) := rfl
  have rests := (alone_undisturbed config pose blocks time).step_ready ready 0
  simp only [Run.proceed, next] at rests
  obtain ⟨count, reaches⟩ := reaches
  cases reaches with
  | refl => exact ⟨rfl, rfl⟩
  | step head tail =>
      rw [step_deterministic head rests] at tail
      cases tail with
      | refl => exact ⟨rfl, rfl⟩
      | step head' tail' => simp [step, after] at head'

/-- A script that nobody disturbs displays its timeline. If no block repeats the animation, it ends
with the timeline of all blocks, and everything it comes to lies on the way there. Otherwise it runs
the blocks before the first repeat only: it comes through every round of them, never ends, and
displays nothing else. As time passes it comes to where nothing more is due by then. -/
theorem follows_timeline (config : Config) (pose : Pose) (blocks : List Block) (time : Nat) :
    let script := alone config pose blocks time
    let once := Stretch.pass config blocks pose time
    let rounds := Stretch.rounds config (Stretch.played blocks) pose time
    ((∀ block ∈ blocks, block.opcode ≠ .repeatAnimation) →
      ∃ last, script.Reaches last ∧ last.phase = .ended .finished ∧ last.now = once.time ∧
        last.updates.toList = once.shown ∧ ∀ solo, script.Reaches solo → solo.Reaches last) ∧
      ((∃ block ∈ blocks, block.opcode = .repeatAnimation) →
        (∀ more, ∃ solo, script.Reaches solo ∧ solo.now = (rounds more).time ∧
          solo.updates.toList = (rounds more).shown) ∧
        ∀ solo, script.Reaches solo →
          solo.outcome? = none ∧ ∃ more, solo.updates.toList <+: (rounds more).shown) ∧
      ∀ milliseconds later, script.advance milliseconds = some later →
        ∃ solo, script.Reaches solo ∧ solo.step (time + milliseconds) = none ∧
          later = { solo with now := time + milliseconds } := by
  intro script once rounds
  refine ⟨fun plain => ?_, fun again => ?_, fun _ _ passes => advance_reaches passes⟩
  · have plain : blocks.any Run.repeats = false := by simpa [Run.repeats] using plain
    obtain ⟨last, reaches, ended, now, shown⟩ := alone_finishes config pose time plain
    refine ⟨last, reaches, ended, now, shown, ?_⟩
    intro solo reached
    rcases reached.total reaches with before | after
    · exact before
    · rw [after.eq_of_ended ended]
      exact .refl last
  · have endless := Run.any_repeats_eq_true_iff.mpr again
    have same : rounds = Stretch.rounds config (Run.bodyOf blocks) pose time := by rw [Run.bodyOf_eq]
    by_cases none : Run.bodyOf blocks = []
    · have nothing : ∀ more, rounds more = .still pose time := by
        intro more
        rw [same, none, Stretch.rounds_nil]
      refine ⟨fun more => ⟨script, .refl script, ?_, ?_⟩, fun solo reached => ?_⟩
      · rw [nothing more]
        rfl
      · rw [nothing more]
        rfl
      · obtain ⟨goesOn, silent⟩ := alone_rests config pose time endless none reached
        exact ⟨goesOn, 0, by simp [silent]⟩
    · rw [same]
      constructor
      · intro more
        obtain ⟨count, last, _, _, reaches, _, now, shown⟩ :=
          alone_goesRound config pose time endless none more
        exact ⟨last, ⟨count, reaches⟩, now, shown⟩
      · -- After as many rounds as it took steps to come here, the script has come past this state.
        rintro solo ⟨steps, reached⟩
        obtain ⟨count, last, run, enough, reaches, ready, _, shown⟩ :=
          alone_goesRound config pose time endless none steps
        have goesOn : solo.Reaches last := ⟨_, reached.rest reaches enough⟩
        refine ⟨?_, steps, ?_⟩
        · cases phase : solo.phase with
          | ended outcome =>
              rw [goesOn.eq_of_ended phase, phase] at ready
              cases ready
          | _ => simp [outcome?, phase]
        · obtain ⟨added, grown, _⟩ := goesOn.grows (SilentBefore.zero solo)
          rw [← shown, grown]
          exact List.prefix_append _ _

-- Jumping on the spot: the second pass begins at once, and each later one a frame after the last.
example :
    let jump : Block := ⟨⟨1⟩, .goTo, Opcode.goTo.defaults⟩
    (Stretch.rounds {} [jump] ⟨0, 0, 90⟩ 0 3).shown.map Prod.fst = [0, 0, 16, 32] := by
  decide +kernel

end Solo

end SpriteStage
