/-
Module: SpriteStage.Proofs.Script.Effort
Purpose: How much a script can do before time has to pass. Every act that does not let time pass uses up
  something: a frame, a block of the pass, or the one further pass that a script may make; for at the end of
  a pass without any real pause the script pauses for a frame. What is left of all that is never more than
  what two passes can take.
Main exports: Todo.acts, Run.actsLeft, Run.Fits, Run.start_fits, Run.Fits.next, Run.Fits.actsLeft_lt,
  Run.Fits.spends
-/
import SpriteStage.Proofs.Script.Acts
import SpriteStage.Proofs.Script.Timeline

namespace SpriteStage

/-- How many acts can finish what is in hand. -/
def Todo.acts : Todo → Nat
  | .block => 0
  | .frames _ left => 2 * left + 1
  | .settle _ left => 2 * left + 2
  | .hold _ _ => 2
  | .hush _ => 1

namespace Run

/-- How many acts a script can do before time has to pass: what is in hand, the rest of the pass, and one
more pass unless there was no pause since the beginning of this one. -/
def actsLeft (config : Config) (run : Run) : Nat :=
  run.todo.acts + passActs config run.left +
    if run.mark = some run.waited then 0 else passActs config run.body

/-- A script takes its blocks from a list, has no more in hand than belongs to a pass, and its count of
pauses has not run over. -/
structure Fits (config : Config) (blocks : List Block) (run : Run) : Prop where
  body : passActs config run.body ≤ passActs config blocks
  pass : run.todo.acts + passActs config run.left ≤ passActs config run.body
  waited : run.waited.nanoseconds ≤ Duration.longest.nanoseconds

theorem passActs_pos (config : Config) (blocks : List Block) : 1 ≤ passActs config blocks := by
  induction blocks with
  | nil => exact Nat.le_refl 1
  | cons block rest more => exact Nat.le_add_left_of_le more

theorem actsLeft_pos (config : Config) (run : Run) : 1 ≤ run.actsLeft config := by
  have left := passActs_pos config run.left
  unfold actsLeft
  omega

theorem passActs_takeWhile (config : Config) (passes : Block → Bool) (blocks : List Block) :
    passActs config (blocks.takeWhile passes) ≤ passActs config blocks := by
  induction blocks with
  | nil => exact Nat.le_refl _
  | cons block rest more =>
      rw [List.takeWhile_cons]
      split
      · exact Nat.add_le_add_left more _
      · exact passActs_pos config (block :: rest)

theorem start_fits (config : Config) (pose : Pose) (blocks : List Block) :
    (start pose blocks).Fits config blocks where
  body := passActs_takeWhile config _ blocks
  pass := by simp [start, Todo.acts]
  waited := Nat.zero_le _

/-- When a block begins, less is in hand than the block can take. -/
theorem Begins.acts_lt {config : Config} {run later : Run} {block : Block} {left : List Block}
    {act : Act} (begins : run.Begins config block left act later) :
    later.todo.acts < block.acts config := by
  have three : 3 ≤ block.acts config := by
    unfold Block.acts
    split <;> omega
  cases begins with
  | pass | skip | jump =>
      show 0 < block.acts config
      omega
  | animate glide frames acts =>
      rw [acts]
      exact Nat.lt_succ_self _
  | speak => exact three

/-- Nothing else changes when a block begins. -/
theorem Begins.keeps {config : Config} {run later : Run} {block : Block} {left : List Block}
    {act : Act} (begins : run.Begins config block left act later) :
    later.left = left ∧ later.body = run.body ∧ later.waited = run.waited ∧ later.mark = run.mark := by
  cases begins <;> exact ⟨rfl, rfl, rfl, rfl⟩

namespace Fits

variable {config : Config} {blocks : List Block} {run later : Run} {act : Act}

/-- A script that has no more in hand than before at the same place of its pass. -/
theorem stays (fits : run.Fits config blocks) (pose : Pose) (mark : Option Duration) {todo : Todo}
    (fewer : todo.acts ≤ run.todo.acts) : { run with pose, mark, todo }.Fits config blocks :=
  ⟨fits.body, Nat.le_trans (Nat.add_le_add_right fewer _) fits.pass, fits.waited⟩

theorem paused (fits : run.Fits config blocks) (length : Duration) {todo : Todo}
    (fewer : todo.acts ≤ run.todo.acts) : (run.paused length todo).Fits config blocks :=
  ⟨fits.body, Nat.le_trans (Nat.add_le_add_right fewer _) fits.pass, Nat.min_le_left _ _⟩

/-- A block that begins is one of a pass. -/
theorem begins {block : Block} {left : List Block} (fits : run.Fits config blocks)
    (begins : run.Begins config block left act later)
    (inside : passActs config (block :: left) ≤ passActs config run.body) :
    later.Fits config blocks := by
  obtain ⟨rest, body, waited, -⟩ := begins.keeps
  have fewer := begins.acts_lt
  refine ⟨body ▸ fits.body, ?_, waited ▸ fits.waited⟩
  rw [rest, body]
  rw [passActs] at inside
  omega

/-- Whatever it does next, a script fits its blocks. -/
theorem next (fits : run.Fits config blocks) (next : run.next config = some (act, later)) :
    later.Fits config blocks := by
  cases next_acts next with
  | land glide todo => exact fits.stays run.pose run.mark (Nat.zero_le _)
  | frame glide left pose todo =>
      apply fits.stays pose run.mark
      rw [todo]
      exact Nat.le_succ _
  | settle glide left todo =>
      apply fits.paused config.frame
      rw [todo]
      exact Nat.le_succ _
  | hold voice length todo =>
      apply fits.paused length
      rw [todo]
      exact Nat.le_succ 1
  | hush voice todo => exact fits.stays run.pose run.mark (Nat.zero_le _)
  | rest => exact fits
  | breathe todo through idle =>
      exact (fits.paused config.frame (Nat.zero_le _)).stays _ none (Nat.le_refl _)
  | goOn todo rest begins =>
      refine fits.begins begins ?_
      rw [← rest]
      exact Nat.le_trans (Nat.le_add_left _ _) fits.pass
  | goRound todo through whole paused begins =>
      have marked : { run with mark := some run.waited }.Fits config blocks :=
        fits.stays run.pose (some run.waited) (Nat.le_refl _)
      refine marked.begins begins ?_
      rw [whole]

/-- What is left to do is never more than two passes. -/
theorem actsLeft_lt (fits : run.Fits config blocks) :
    run.actsLeft config + 1 < scriptActs config blocks := by
  have body := fits.body
  have pass := fits.pass
  unfold actsLeft scriptActs
  split <;> omega

/-- Without a pause the count of pauses stays what it is. -/
theorem waited_add (fits : run.Fits config blocks) {length : Duration}
    (none : length.milliseconds = 0) : run.waited.add length = run.waited := by
  have nothing : length.nanoseconds = 0 := by
    unfold Duration.milliseconds at none
    omega
  rw [Duration.add, nothing, Nat.add_zero, Nat.min_eq_right fits.waited]

/-- Whatever a script does next, time passes, or it waits for its end, or there is less left to do. -/
theorem spends (timed : 1 ≤ config.frameInterval) (fits : run.Fits config blocks)
    (next : run.next config = some (act, later)) :
    (∃ length, act = .pause length ∧ 1 ≤ length.milliseconds) ∨ act = .rest ∨
      later.actsLeft config < run.actsLeft config := by
  have frame : 1 ≤ config.frame.milliseconds := by
    rw [config.frame_milliseconds]
    exact timed
  cases next_acts next with
  | land glide todo =>
      right; right
      simp only [actsLeft, todo, Todo.acts]
      omega
  | frame glide left pose todo =>
      right; right
      simp only [actsLeft, todo, Todo.acts]
      omega
  | settle => exact Or.inl ⟨_, rfl, frame⟩
  | hold voice length todo =>
      by_cases none : length.milliseconds = 0
      · right; right
        simp only [actsLeft, Run.paused, fits.waited_add none, todo, Todo.acts]
        omega
      · exact Or.inl ⟨length, rfl, Nat.one_le_iff_ne_zero.mpr none⟩
  | hush voice todo =>
      right; right
      simp only [actsLeft, todo, Todo.acts]
      omega
  | rest => exact Or.inr (Or.inl rfl)
  | breathe => exact Or.inl ⟨_, rfl, frame⟩
  | goOn todo rest begins =>
      obtain ⟨left, body, waited, mark⟩ := begins.keeps
      have fewer := begins.acts_lt
      right; right
      simp only [actsLeft, left, body, waited, mark, rest, passActs]
      omega
  | goRound todo through whole paused begins =>
      obtain ⟨left, body, waited, mark⟩ := begins.keeps
      have fewer := begins.acts_lt
      have pass : passActs config run.body = _ := congrArg (passActs config) whole
      rw [passActs] at pass
      right; right
      simp only [actsLeft, left, body, waited, mark, through, passActs, if_true, if_neg paused]
      omega

end Fits

end Run

end SpriteStage
