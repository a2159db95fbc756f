/-
Module: SpriteStage.Proofs.Performance.Bounds
Purpose: Performances stay within their bounds. Whatever a project says, its frames and the times
  for which its texts stay up can be represented, and so can the sum of all pauses of a script.
  Whatever happens to a stage, no move misses a place of a list. So a stage that can be set up plays
  on, whatever is done with it; and it can be set up if a broadcast channel can have the capacity
  that the project asks for.
Main exports: Duration.Bounded, Run.Timely, Chronicle.Secure, Project.frame_bounded,
  Stage.plays_within_bounds
-/
import SpriteStage.Proofs.Binary64.Rounding
import SpriteStage.Proofs.Performance.Running
import SpriteStage.Proofs.Script.Rounds
import SpriteStage.Proofs.Stage.Places
import SpriteStage.Proofs.Stage.Setup

namespace SpriteStage

open Json (bind_eq_ok)

/-! ## Lengths of time -/

namespace Duration

/-- A length of time that can be represented. -/
def Bounded (length : Duration) : Prop := length.nanoseconds ≤ longest.nanoseconds

theorem zero_bounded : zero.Bounded := Nat.zero_le _

/-- A sum is cut off at the longest time. -/
theorem add_bounded (first second : Duration) : (first.add second).Bounded := Nat.min_le_left _ _

theorem ofMilliseconds_bounded {n : Nat} (fits : n < UInt64.size) : (ofMilliseconds n).Bounded := by
  simp only [Bounded, ofMilliseconds, longest, UInt64.size] at *
  omega

theorem roundDiv_le {n d q : Nat} (positive : 0 < d) (least : n ≤ d * q) :
    Binary64.roundDiv n d ≤ q := by
  have parts := Nat.div_add_mod n d
  rw [Binary64.roundDiv]
  generalize n / d = k at *
  generalize n % d = r at *
  rcases Nat.lt_or_ge k q with less | reached
  · split <;> omega
  · have whole : d * q ≤ d * k := Nat.mul_le_mul_left d reached
    have exact_quotient : d * k = d * q := by omega
    have same := Nat.eq_of_mul_eq_mul_left positive exact_quotient
    split <;> omega

theorem units_mono : Monotone Binary64.units :=
  monotone_nat_of_le_succ fun b => Binary64.units_succ b ▸ Nat.le_add_right _ _

/-- Below `2 ^ 64` the doubles are so far apart that rounding to nanoseconds does not reach it. -/
theorem ofSeconds_bounded (seconds : Float) : (ofSeconds seconds).Bounded := by
  rw [ofSeconds]
  split
  · exact zero_bounded
  dsimp only
  split
  · exact Nat.le_refl _
  · rename_i below
    generalize Binary64.magnitude seconds = b at *
    -- The magnitude of `2 ^ 64`, and the one before it.
    have limit : Binary64.units 0x43F0000000000000 =
        0x10000000000000000 * Binary64.unitsPerOne := by decide +kernel
    have before : Binary64.units 0x43EFFFFFFFFFFFFF =
        Binary64.unitsPerOne * (0x10000000000000000 - 0x800) := by decide +kernel
    have less : b < 0x43F0000000000000 := by
      by_contra reached
      have least := units_mono (Nat.le_of_not_lt reached)
      rw [limit] at least
      exact below least
    have least : Binary64.units b * 1000000000 ≤
        Binary64.unitsPerOne * ((0x10000000000000000 - 0x800) * 1000000000) := by
      rw [← Nat.mul_assoc, ← before]
      exact Nat.mul_le_mul_right _ (units_mono (Nat.le_of_lt_succ less))
    have some_unit : 0 < Binary64.unitsPerOne := twoTo_pos 1074
    have rounded := roundDiv_le some_unit least
    generalize Binary64.roundDiv _ Binary64.unitsPerOne = nanoseconds at rounded
    simp only [Bounded, longest]
    omega

end Duration

/-! ## Runs -/

namespace Run

/-- All pauses of a run so far can be represented, and so can the one that it has in hand. -/
structure Timely (run : Run) : Prop where
  waited : run.waited.Bounded
  hold : ∀ voice length, run.todo = .hold voice length → length.Bounded

theorem start_timely (pose : Pose) (blocks : List Block) : (start pose blocks).Timely :=
  ⟨Duration.zero_bounded, nofun⟩

variable {config : Config} {run later : Run} {act : Act}

theorem paused_timely (run : Run) (length : Duration) {todo : Todo}
    (hold : ∀ voice length, todo = .hold voice length → length.Bounded) :
    (run.paused length todo).Timely :=
  ⟨Duration.add_bounded run.waited length, hold⟩

theorem Begins.timely {block : Block} {left : List Block} (timely : run.Timely)
    (begins : run.Begins config block left act later) :
    later.Timely ∧ ∀ length, act = .pause length → length.Bounded := by
  cases begins with
  | pass | skip | jump | animate => exact ⟨⟨timely.waited, nofun⟩, nofun⟩
  | speak voice speaks =>
      refine ⟨⟨timely.waited, ?_⟩, nofun⟩
      rintro _ _ ⟨⟩
      exact Duration.ofSeconds_bounded _

/-- Whatever a run does next, what it pauses for can be represented, and all its pauses together. -/
theorem Timely.next (frame : config.frame.Bounded) (timely : run.Timely)
    (next : run.next config = some (act, later)) :
    later.Timely ∧ ∀ length, act = .pause length → length.Bounded := by
  cases next_acts next with
  | land | frame | hush => exact ⟨⟨timely.waited, nofun⟩, nofun⟩
  | rest => exact ⟨timely, nofun⟩
  | settle glide left todo =>
      refine ⟨run.paused_timely config.frame nofun, ?_⟩
      rintro length ⟨⟩
      exact frame
  | breathe todo through idle =>
      have paused : (run.paused config.frame .block).Timely := run.paused_timely config.frame nofun
      refine ⟨⟨paused.waited, paused.hold⟩, ?_⟩
      rintro length ⟨⟩
      exact frame
  | hold voice length todo =>
      refine ⟨run.paused_timely length nofun, ?_⟩
      rintro _ ⟨⟩
      exact timely.hold voice length todo
  | goOn todo rest begins => exact begins.timely timely
  | goRound todo through whole paused begins =>
      have marked : ({ run with mark := some run.waited } : Run).Timely :=
        ⟨timely.waited, timely.hold⟩
      exact begins.timely marked

end Run

/-! ## Projects -/

theorem Json.Node.readNat_lt {limit n : Nat} {node : Json.Node}
    (reads : node.readNat limit = .ok n) : n < limit := by
  cases node with
  | number literal =>
      obtain ⟨_, _, reads⟩ := bind_eq_ok.mp reads
      split at reads
      · split at reads
        · rename_i below
          cases reads
          exact below
        · cases reads
      · cases reads
  | _ => cases reads

/-- Frames of a configuration that was read are given in 64 bits. -/
theorem Config.ofNode_frameInterval {node : Json.Node} {config : Config}
    (reads : ofNode node = .ok config) : config.frameInterval < UInt64.size := by
  rw [ofNode, map_eq_bind] at reads
  obtain ⟨draft, record, finishes⟩ := bind_eq_ok.mp reads
  have kept : ∀ field ∈ ConfigDraft.fields, field.Keeps fun draft =>
      ∀ n, draft.frameInterval = some n → n < UInt64.size := by
    simp only [ConfigDraft.fields, List.forall_mem_cons, List.not_mem_nil, false_implies,
      implies_true, and_true]
    refine ⟨?_, ?_, ?_, ?_, ?_, ?_⟩
    case refine_1 =>
      intro node draft later reads _
      obtain ⟨n, taken, made⟩ := bind_eq_ok.mp reads
      cases made
      rintro n ⟨⟩
      exact Json.Node.readNat_lt taken
    all_goals
      intro node draft later reads bounded
      obtain ⟨_, _, made⟩ := bind_eq_ok.mp reads
      cases made
      exact bounded
  have bounded := Json.readRecord_keeps kept record (fun _ given => by cases given)
  cases finishes
  cases given : draft.frameInterval with
  | none => simp [ConfigDraft.finish, given, UInt64.size]
  | some n =>
      simp only [ConfigDraft.finish, given, Option.getD_some]
      exact bounded n given

/-- A frame of a project that was read can be represented. -/
theorem Project.frame_bounded {bytes : List UInt8} {project : Project}
    (parsed : parse bytes = .ok project) : project.config.frame.Bounded := by
  obtain ⟨result, reads, whole⟩ := bind_eq_ok.mp parsed
  have same : result = project := by
    split at whole
    · cases whole
    · exact Except.ok.inj whole
  subst same
  rw [ofNode, map_eq_bind] at reads
  obtain ⟨draft, record, finishes⟩ := bind_eq_ok.mp reads
  have kept : ∀ field ∈ ProjectDraft.fields (depthLimit - 1), field.Keeps fun draft =>
      ∀ config, draft.config = some config → config.frameInterval < UInt64.size := by
    simp only [ProjectDraft.fields, List.forall_mem_cons, List.not_mem_nil, false_implies,
      implies_true, and_true]
    constructor
    · intro node draft later reads _
      obtain ⟨config, taken, made⟩ := bind_eq_ok.mp reads
      cases made
      rintro config ⟨⟩
      exact Config.ofNode_frameInterval taken
    · intro node draft later reads bounded
      obtain ⟨_, _, made⟩ := bind_eq_ok.mp reads
      cases made
      exact bounded
  have bounded := Json.readRecord_keeps kept record (fun _ given => by cases given)
  cases finishes
  apply Duration.ofMilliseconds_bounded
  cases given : draft.config with
  | none => simp [ProjectDraft.finish, given, UInt64.size]
  | some config =>
      simp only [ProjectDraft.finish, given, Option.getD_some]
      exact bounded config given

/-! ## Performances -/

/-- What a script goes through is the blocks up to a place that they have, and all its pauses can be
represented. -/
structure Task.Secure (task : Task) : Prop where
  pass : Run.passUpTo? task.blocks = some task.run.body
  timely : task.run.Timely

theorem Task.launch_secure (epoch : Nat) (script : Script) : (Task.launch epoch script).Secure :=
  ⟨Run.passUpTo?_eq script.pose script.blocks, Run.start_timely _ _⟩

namespace Chronicle

/-- No move that comes next goes out of bounds: blocks are reordered and sprites swap at places that
there are, and so are the blocks that scripts repeat; what a script pauses for can be represented,
and so can all its pauses. -/
structure Secure (chronicle : Chronicle) : Prop where
  reorders : ∀ sprite ∈ chronicle.stage.sprites, ∀ source target,
    sprite.reorderByPlaces source target = some (sprite.reorderBlock? source target)
  receives : ∀ id epoch update, chronicle.stage.receiveByPlaces id epoch update =
    some (chronicle.stage.receive id epoch update)
  repeats : ∀ task ∈ chronicle.performance.running, Run.passUpTo? task.blocks = some task.run.body
  waits : ∀ task ∈ chronicle.performance.running, task.run.waited.Bounded
  pauses : ∀ task ∈ chronicle.performance.running, ∀ length later,
    task.run.next chronicle.stage.config = some (.pause length, later) →
      length.Bounded ∧ later.waited.Bounded

/-- Scripts are secure when they start, and stay so with all that they do. -/
theorem Sound.take_secure {chronicle : Chronicle} (sound : chronicle.Sound)
    (frame : chronicle.stage.config.frame.Bounded)
    (secure : ∀ task ∈ chronicle.performance.running, task.Secure) (move : Move) :
    ∀ task ∈ (chronicle.take move).performance.running, task.Secure := by
  apply sound.take_running secure
  · intro task _ secure
    have kept : ∀ act later, task.run.next chronicle.stage.config = some (act, later) →
        later.body = task.run.body ∧ later.Timely :=
      fun act later next =>
        ⟨(Run.next_keeps next).1, (secure.timely.next frame next).1⟩
    have begun : task.run.body = task.run.body ∧ task.run.Timely := ⟨rfl, secure.timely⟩
    obtain ⟨body, timely⟩ := @Run.proceed_keeps task.run chronicle.stage.config
      (fun run => run.body = task.run.body ∧ run.Timely) begun kept
      (decide (task.epoch = chronicle.stage.epoch)) true
    exact ⟨secure.pass.trans (congrArg some body.symm), timely⟩
  · intro script _
    exact Task.launch_secure _ script

theorem follow_secure {project : Project} {stage : Stage}
    (built : Stage.ofProject project true = .ok stage) (frame : project.config.frame.Bounded)
    (moves : List Move) : ((Chronicle.create stage).follow moves).Secure := by
  have begun := Sound.create (Stage.ofProject_numbered built)
  have kept := follow_induction
    (fun later => later.Sound ∧ later.stage.config = project.config ∧
      ∀ task ∈ later.performance.running, task.Secure)
    (fun later move holds => ⟨holds.1.take move, (holds.1.take_config move).trans holds.2.1,
      holds.1.take_secure (holds.2.1 ▸ frame) holds.2.2 move⟩)
    moves _ ⟨begun, Stage.ofProject_config built, by simp [create_running]⟩
  obtain ⟨sound, config, secure⟩ := kept
  refine ⟨fun sprite _ => sprite.reorderByPlaces_eq, sound.numbered.receiveByPlaces_eq,
    fun task runs => (secure task runs).pass, fun task runs => (secure task runs).timely.waited, ?_⟩
  intro task runs length later next
  obtain ⟨timely, bounded⟩ := (secure task runs).timely.next (config ▸ frame) next
  exact ⟨bounded length rfl, timely.waited⟩

end Chronicle

namespace Stage

/-- A capacity that subscriptions can have. -/
def Capacious (events : Nat) : Prop := 0 < events ∧ events ≤ largestCapacity

/-- For a project that was read there is a stage exactly if subscriptions can hold as many events as
it asks for, and at least one; and whatever is done with the stage, nothing goes out of bounds. -/
theorem plays_within_bounds {bytes : List UInt8} {project : Project}
    (parsed : Project.parse bytes = .ok project) :
    ((∃ stage, ofProject project true = .ok stage) ↔
      Capacious (max 1 project.config.eventCapacity)) ∧
    ∀ stage, ofProject project true = .ok stage → ∀ moves : List Move,
      ((Chronicle.create stage).follow moves).Secure := by
  constructor
  · have legal : Capacious (max 1 project.config.eventCapacity) ↔
        ¬largestCapacity < project.config.eventCapacity := by
      simp only [Capacious, largestCapacity]
      omega
    rw [legal, ofProject_eq]
    split
    · rename_i vast
      simp [vast]
    · rename_i small
      simp [small]
  · intro stage built moves
    exact Chronicle.follow_secure built (Project.frame_bounded parsed) moves

/-- A sprite jumps to another one and swaps with it, and from there on its script would go round. -/
theorem plays_within_bounds_jump :
    let text := (r#"{"config":{"swap_distance":5},"sprites":[{"blocks":["#.toUTF8.toList
      ++ r#"{"type":"MOTION_GOTO_XY","args":{"x":120}},"#.toUTF8.toList
      ++ r#"{"type":"CONTROL_REPEAT_ANIMATION"}]},{}]}"#.toUTF8.toList)
    ∃ project stage, Project.parse text = .ok project ∧ ofProject project true = .ok stage ∧
      let later := (Chronicle.create stage).follow [.play, .turn 0]
      later.Secure ∧ later.stage.swapped.length = 1 ∧ later.performance.running.length = 2 := by
  intro text
  let jumping : SpriteDefinition :=
    { name := none, x := none, y := none, direction := 90
      blocks := [⟨.goTo, ⟨[("x", .integer 120)]⟩⟩, ⟨.repeatAnimation, .empty⟩] }
  let project : Project :=
    { config := { swapDistance := some 5 }, sprites := [jumping, { jumping with blocks := [] }] }
  have parsed : Project.parse text = .ok project := by decide +kernel
  have built : ofProject project true = .ok (project.sprites.foldl addDefinedSprite (bare _)) := rfl
  exact ⟨project, _, parsed, built, (plays_within_bounds parsed).2 _ built _, by decide +kernel,
    by decide +kernel⟩

/-- A project that asks for as many events as can be written down is read, but there is no stage for
it. -/
theorem no_stage_for_most_events :
    let text := r#"{"config":{"event_capacity":18446744073709551615}}"#.toUTF8.toList
    ∃ project, Project.parse text = .ok project ∧ ¬∃ stage, ofProject project true = .ok stage := by
  intro text
  let project : Project := { config := { eventCapacity := 18446744073709551615 } }
  have parsed : Project.parse text = .ok project := by decide +kernel
  refine ⟨project, parsed, ?_⟩
  have vast : largestCapacity < project.config.eventCapacity := by decide
  rw [ofProject_eq, if_pos vast]
  rintro ⟨stage, ⟨⟩⟩

end Stage

end SpriteStage
