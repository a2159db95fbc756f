/-
Module: SpriteStage.Proofs.Script.Acts
Purpose: What the interpreter can do next. A block that begins does nothing, jumps, sets off an
  animation or puts up a text. A script goes on with what it has in hand, begins the next block of
  its pass or, if it goes round, the first block of the next pass; and a pass that took no time is
  followed by a pause. All that scripts keep is read off these cases.
Main exports: Run.Begins, Run.beginBlock_begins, Run.Acts, Run.next_acts, Run.proceed_eq,
  Run.proceed_comesTo
-/
import SpriteStage.Script.Run

namespace SpriteStage

/-- The opcode of the blocks that put up a text in this voice. -/
def Voice.opcode : Voice → Opcode
  | .say => .sayFor
  | .think => .thinkFor

namespace Run

/-- What the beginning of a block can be. -/
inductive Begins (config : Config) (run : Run) (block : Block) (left : List Block) :
    Act → Run → Prop where
  | pass : Begins config run block left .check { run with left, todo := .block }
  | skip (tag : String) (unknown : block.opcode = .unknown tag) :
      Begins config run block left (.skip tag) { run with left, todo := .block }
  | jump (pose : Pose) :
      Begins config run block left (.display (.pose pose)) { run with left, pose, todo := .block }
  | animate (glide : Glide) (frames : Nat) (acts : block.acts config = 2 * frames + 2) :
      Begins config run block left .check { run with left, todo := .frames glide frames }
  | speak (voice : Voice) (speaks : block.opcode = voice.opcode) :
      Begins config run block left (.display (.speech voice (block.text "message")))
        { run with left, todo := .hold voice (holdLength block) }

theorem beginBlock_begins (config : Config) (run : Run) (block : Block) (left : List Block) :
    run.Begins config block left (run.beginBlock config block left).1
      (run.beginBlock config block left).2 := by
  cases opcode : block.opcode with
  | whenFlagClicked | whenSpriteClicked | repeatAnimation =>
      simp only [beginBlock, opcode]
      exact .pass
  | moveSteps | turnRight | turnLeft =>
      simp only [beginBlock, opcode]
      exact .animate _ _ (by simp [Block.acts, opcode])
  | goTo =>
      simp only [beginBlock, opcode]
      exact .jump _
  | sayFor =>
      simp only [beginBlock, opcode]
      exact .speak .say opcode
  | thinkFor =>
      simp only [beginBlock, opcode]
      exact .speak .think opcode
  | unknown tag =>
      simp only [beginBlock, opcode]
      exact .skip tag opcode

/-- What the next act of a script can be. -/
inductive Acts (config : Config) (run : Run) : Act → Run → Prop where
  /-- The last frame of an animation is over. -/
  | land (glide : Glide) (todo : run.todo = .frames glide 0) :
      Acts config run .check { run with todo := .block }
  | frame (glide : Glide) (left : Nat) (pose : Pose) (todo : run.todo = .frames glide (left + 1)) :
      Acts config run (.display (.pose pose)) { run with pose, todo := .settle glide left }
  | settle (glide : Glide) (left : Nat) (todo : run.todo = .settle glide left) :
      Acts config run (.pause config.frame) (run.paused config.frame (.frames glide left))
  | hold (voice : Voice) (length : Duration) (todo : run.todo = .hold voice length) :
      Acts config run (.pause length) (run.paused length (.hush voice))
  | hush (voice : Voice) (todo : run.todo = .hush voice) :
      Acts config run (.display (.speech voice "")) { run with todo := .block }
  /-- The next block of the pass. -/
  | goOn {block : Block} {left : List Block} {act : Act} {later : Run} (todo : run.todo = .block)
      (rest : run.left = block :: left) (begins : run.Begins config block left act later) :
      Acts config run act later
  /-- Nothing is to be repeated, for ever. -/
  | rest (todo : run.todo = .block) (through : run.left = []) (nothing : run.body = []) :
      Acts config run .rest run
  /-- A pass that took no time is over. -/
  | breathe (todo : run.todo = .block) (through : run.left = [])
      (idle : run.mark = some run.waited) :
      Acts config run (.pause config.frame) { run.paused config.frame .block with mark := none }
  /-- The first block of the next pass. -/
  | goRound {block : Block} {left : List Block} {act : Act} {later : Run} (todo : run.todo = .block)
      (through : run.left = []) (whole : run.body = block :: left)
      (paused : run.mark ≠ some run.waited)
      (begins : { run with mark := some run.waited }.Begins config block left act later) :
      Acts config run act later

/-- What follows the last block of a pass. -/
theorem endPass_acts {config : Config} {run later : Run} {act : Act} (todo : run.todo = .block)
    (through : run.left = []) (ends : run.endPass config = some (act, later)) :
    run.Acts config act later := by
  unfold endPass at ends
  split at ends
  · cases ends
  · split at ends
    · rename_i nothing
      cases ends
      exact .rest todo through nothing
    · rename_i block left whole
      split at ends
      · rename_i idle
        cases ends
        exact .breathe todo through idle
      · rename_i paused
        have begins := { run with mark := some run.waited }.beginBlock_begins config block left
        rw [Option.some.injEq] at ends
        rw [ends] at begins
        exact .goRound todo through whole paused begins

/-- A script that does something does one of these things. -/
theorem next_acts {config : Config} {run later : Run} {act : Act}
    (next : run.next config = some (act, later)) : run.Acts config act later := by
  unfold Run.next at next
  split at next
  · rename_i glide todo
    cases next
    exact .land glide todo
  · rename_i glide left todo
    cases next
    exact .frame glide left _ todo
  · rename_i glide left todo
    cases next
    exact .settle glide left todo
  · rename_i voice length todo
    cases next
    exact .hold voice length todo
  · rename_i voice todo
    cases next
    exact .hush voice todo
  · rename_i todo
    split at next
    · rename_i block left rest
      have begins := run.beginBlock_begins config block left
      rw [Option.some.injEq] at next
      rw [next] at begins
      exact .goOn todo rest begins
    · rename_i through
      exact endPass_acts todo through next

/-- Only a block whose opcode means nothing is skipped, the next one of the pass or the first one of
the next pass. -/
theorem unknown_of_next_skip {config : Config} {run later : Run} {tag : String}
    (next : run.next config = some (.skip tag, later)) :
    ∃ block ∈ run.left ++ run.body, block.opcode = .unknown tag := by
  cases next_acts next with
  | goOn todo rest begins =>
      cases begins with
      | skip _ unknown => exact ⟨_, by simp [rest], unknown⟩
  | goRound todo through whole paused begins =>
      cases begins with
      | skip _ unknown => exact ⟨_, by simp [whole], unknown⟩

/-- Only between two blocks is a script through. -/
theorem todo_of_next_eq_none {config : Config} {run : Run} (through : run.next config = none) :
    run.todo = .block := by
  unfold Run.next at through
  split at through <;> first | assumption | cases through

/-- While a script counts, its progress is what its next act comes to. -/
theorem proceed_eq (config : Config) (run : Run) :
    (run.next config = none ∧ run.proceed config true true = .ended .finished) ∨
      ∃ act later, run.next config = some (act, later) ∧
        run.proceed config true true =
          match act with
          | .check => .passed later
          | .skip tag => .skipped tag later
          | .display update => .displayed update later
          | .pause length =>
            if length.milliseconds = 0 then .passed later else .waiting length.milliseconds later
          | .rest => .resting later := by
  cases next : run.next config with
  | none => exact Or.inl ⟨rfl, by simp [proceed, next]⟩
  | some acts =>
      obtain ⟨act, later⟩ := acts
      refine Or.inr ⟨act, later, rfl, ?_⟩
      cases act with
      | pause length => simp [proceed_pause next]
      | _ => simp [proceed, next]

/-- What a script can come to, whether it counts or not: it ends, or what is next is done and it
goes on at once, waits for some milliseconds to come, or waits for its end. -/
inductive ComesTo (config : Config) (run : Run) : Progress → Prop where
  | ended (outcome : Outcome) : ComesTo config run (.ended outcome)
  | passed {act : Act} {later : Run} (next : run.next config = some (act, later)) :
      ComesTo config run (.passed later)
  | skipped {later : Run} {tag : String} (next : run.next config = some (.skip tag, later)) :
      ComesTo config run (.skipped tag later)
  | displayed {act : Act} {later : Run} (update : Update) (next : run.next config = some (act, later)) :
      ComesTo config run (.displayed update later)
  | waiting {act : Act} {later : Run} {length : Nat} (next : run.next config = some (act, later))
      (takesTime : 1 ≤ length) : ComesTo config run (.waiting length later)
  | resting {act : Act} {later : Run} (next : run.next config = some (act, later)) :
      ComesTo config run (.resting later)

theorem proceed_comesTo (config : Config) (run : Run) (current connected : Bool) :
    run.ComesTo config (run.proceed config current connected) := by
  cases next : run.next config with
  | none =>
      rw [proceed, next]
      exact .ended .finished
  | some acts =>
      obtain ⟨act, later⟩ := acts
      cases current with
      | false =>
          rw [proceed, next]
          exact .ended .cancelled
      | true =>
          cases act with
          | pause length =>
              rw [proceed_pause next]
              split
              · exact .ended .cancelled
              · split
                · exact .passed next
                · rename_i takesTime
                  exact .waiting next (Nat.one_le_iff_ne_zero.mpr takesTime)
          | check => simpa only [proceed, next] using .passed next
          | skip tag => simpa only [proceed, next] using .skipped next
          | display update => simpa only [proceed, next] using .displayed update next
          | rest =>
              rw [proceed, next]
              cases connected with
              | false => exact .ended .cancelled
              | true => exact .resting next

end Run

end SpriteStage
