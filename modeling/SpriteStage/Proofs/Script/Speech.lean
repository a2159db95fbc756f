/-
Module: SpriteStage.Proofs.Script.Speech
Purpose: What a script makes its sprite show. A text goes up when its block begins and is taken back when
  its time is over; in between the script has that block in hand. So the text that should be up can be read
  off a running script. Whatever the script does next, a sprite that shows what it should shows what it
  should afterwards, and a script that is through leaves a silent sprite behind.
Main exports: Sprite.shown, Run.uttered, Run.Coherent, Run.Holds, Run.Coherent.next, Sprite.Utters,
  Sprite.Utters.proceed
-/
import Mathlib.Data.List.Infix
import SpriteStage.Proofs.Script.Acts

namespace SpriteStage

/-- What a sprite shows in a voice. -/
def Sprite.shown (sprite : Sprite) : Voice → String
  | .say => sprite.say
  | .think => sprite.think

/-- The voice in which a text is up or is taken back. -/
def Todo.voice? : Todo → Option Voice
  | .hold voice _ | .hush voice => some voice
  | .block | .frames _ _ | .settle _ _ => none

namespace Run

/-- The last block that this pass has begun. -/
def inHand? (run : Run) : Option Block :=
  (run.body.take (run.body.length - run.left.length)).getLast?

/-- What the script makes its sprite show in a voice. -/
def uttered (run : Run) (voice : Voice) : String :=
  if run.todo.voice? = some voice then (run.inHand?.map (Block.text · "message")).getD "" else ""

/-- The script is in the hold of a block that shows a text. -/
def Holds (run : Run) (voice : Voice) (text : String) : Prop :=
  run.todo = .hush voice ∧
    ∃ block, block :: run.left <:+ run.body ∧ block.opcode = voice.opcode ∧
      block.text "message" = text

/-- What is left of a pass is a rest of it; and while a text is up or is taken back, the last block that
was begun is one that puts up a text in that voice. -/
structure Coherent (run : Run) : Prop where
  left : run.left <:+ run.body
  speaking : ∀ voice, run.todo.voice? = some voice →
    ∃ block, block :: run.left <:+ run.body ∧ block.opcode = voice.opcode

/-- A script that has no text up has only to be in its pass. -/
theorem Coherent.of_mute {run : Run} (left : run.left <:+ run.body)
    (mute : run.todo.voice? = none) : run.Coherent := by
  refine ⟨left, fun voice speaks => ?_⟩
  rw [mute] at speaks
  cases speaks

/-- A pause leaves a script at the same place of its pass. -/
theorem Coherent.paused {run : Run} (coherent : run.Coherent) (length : Duration) {todo : Todo}
    (mute : todo.voice? = none) : (run.paused length todo).Coherent :=
  .of_mute coherent.left mute

theorem Coherent.marked {run : Run} (coherent : run.Coherent) (mark : Option Duration) :
    { run with mark }.Coherent :=
  ⟨coherent.left, coherent.speaking⟩

theorem start_coherent (pose : Pose) (blocks : List Block) : (start pose blocks).Coherent :=
  .of_mute List.suffix_rfl rfl

theorem inHand?_eq_some {run : Run} {block : Block} (begun : block :: run.left <:+ run.body) :
    run.inHand? = some block := by
  obtain ⟨front, whole⟩ := begun
  have parts : run.body = (front ++ [block]) ++ run.left := by simp [← whole]
  rw [inHand?, parts, List.length_append, Nat.add_sub_cancel, List.take_left]
  exact List.getLast?_concat

/-- A script that has no text up makes its sprite show nothing. -/
theorem uttered_of_mute {run : Run} (mute : run.todo.voice? = none) (voice : Voice) :
    run.uttered voice = "" := by
  simp [uttered, mute]

/-- Unless it is about to begin a hold, a script makes its sprite show something exactly if it is in the
hold of a block that shows it. -/
theorem Coherent.uttered_eq_iff {run : Run} (coherent : run.Coherent)
    (begun : ∀ voice length, run.todo ≠ .hold voice length) (voice : Voice) {text : String}
    (something : text ≠ "") : run.uttered voice = text ↔ run.Holds voice text := by
  constructor
  · rintro rfl
    have speaks : run.todo.voice? = some voice := by
      by_contra silent
      exact something (if_neg silent)
    obtain ⟨block, here, shows⟩ := coherent.speaking voice speaks
    refine ⟨?_, block, here, shows, by simp [uttered, speaks, inHand?_eq_some here]⟩
    cases todo : run.todo with
    | hold kind length => exact absurd todo (begun kind length)
    | hush kind =>
        rw [todo, Todo.voice?, Option.some.injEq] at speaks
        rw [speaks]
    | block | frames | settle =>
        rw [todo] at speaks
        cases speaks
  · rintro ⟨hushes, block, here, -, rfl⟩
    simp [uttered, hushes, Todo.voice?, inHand?_eq_some here]

theorem Begins.coherent {config : Config} {run later : Run} {block : Block} {left : List Block}
    {act : Act} (begins : run.Begins config block left act later)
    (rest : block :: left <:+ run.body) : later.Coherent := by
  have behind : left <:+ run.body := (List.suffix_cons block left).trans rest
  cases begins with
  | pass | skip | jump | animate => exact .of_mute behind rfl
  | speak voice speaks =>
      refine ⟨behind, ?_⟩
      rintro _ ⟨⟩
      exact ⟨block, rest, speaks⟩

/-- Whatever it does next, a script stays coherent. -/
theorem Coherent.next {config : Config} {run later : Run} {act : Act} (coherent : run.Coherent)
    (next : run.next config = some (act, later)) : later.Coherent := by
  cases next_acts next with
  | land | frame | hush => exact .of_mute coherent.left rfl
  | settle => exact coherent.paused config.frame rfl
  | breathe => exact (coherent.paused config.frame rfl).marked none
  | hold voice length todo =>
      refine ⟨coherent.left, fun other speaks => ?_⟩
      apply coherent.speaking other
      rw [todo]
      exact speaks
  | rest => exact coherent
  | goOn todo rest begins => exact begins.coherent (rest ▸ coherent.left)
  | goRound todo through whole _ begins =>
      apply begins.coherent
      rw [whole]

/-- A hold is only ever begun by putting up a text. -/
theorem display_of_hold {config : Config} {run later : Run} {act : Act} {voice : Voice}
    {length : Duration} (next : run.next config = some (act, later))
    (holds : later.todo = .hold voice length) : ∃ update, act = .display update := by
  have begun : ∀ {run later : Run} {block : Block} {left : List Block} {act : Act},
      run.Begins config block left act later → later.todo = .hold voice length →
        ∃ update, act = .display update := by
    intro run later block left act begins holds
    cases begins with
    | speak => exact ⟨_, rfl⟩
    | pass | skip | jump | animate => cases holds
  cases next_acts next with
  | land | frame | settle | hold | hush | breathe => cases holds
  | rest todo =>
      rw [todo] at holds
      cases holds
  | goOn todo rest begins => exact begun begins holds
  | goRound todo through whole _ begins => exact begun begins holds

end Run

/-! ## What sprites show -/

namespace Sprite

/-- The sprite shows what a script makes it show. -/
def Utters (sprite : Sprite) (run : Run) : Prop := ∀ voice, sprite.shown voice = run.uttered voice

/-- The sprite when its script has done something. -/
def perform (sprite : Sprite) : Act → Sprite
  | .display update => sprite.apply update
  | .check | .skip _ | .pause _ | .rest => sprite

/-- The voice that speaks shows the text, the other one nothing unless the text is empty. -/
theorem speak_shown (sprite : Sprite) (spoken voice : Voice) (text : String) :
    (sprite.speak spoken text).shown voice =
      if voice = spoken then text else if text = "" then sprite.shown voice else "" := by
  cases spoken <;> cases voice <;> rfl

theorem pose_shown (sprite : Sprite) (pose : Pose) (voice : Voice) :
    (sprite.apply (.pose pose)).shown voice = sprite.shown voice := by
  cases voice <;> rfl

namespace Utters

variable {config : Config} {sprite : Sprite} {run later : Run} {act : Act}

/-- As long as a script has no text up, its sprite shows nothing. -/
theorem mute (utters : sprite.Utters run) (mute : run.todo.voice? = none) (voice : Voice) :
    sprite.shown voice = "" :=
  (utters voice).trans (run.uttered_of_mute mute voice)

/-- Of a script that has no text up a sprite that shows nothing shows all there is. -/
theorem of_mute (silent : ∀ voice, sprite.shown voice = "") (mute : run.todo.voice? = none) :
    sprite.Utters run :=
  fun voice => (silent voice).trans (run.uttered_of_mute mute voice).symm

/-- A silent sprite shows the text of a block that begins, if the block puts one up. -/
theorem begins {block : Block} {left : List Block} (begins : run.Begins config block left act later)
    (rest : block :: left <:+ run.body) (silent : ∀ voice, sprite.shown voice = "") :
    (sprite.perform act).Utters later := by
  cases begins with
  | pass | skip | animate => exact of_mute silent rfl
  | jump pose => exact of_mute (fun voice => (sprite.pose_shown pose voice).trans (silent voice)) rfl
  | speak spoken =>
      intro voice
      have inHand : Run.inHand?
          { run with left, todo := .hold spoken (Run.holdLength block) } = some block :=
        Run.inHand?_eq_some rest
      rw [perform, apply, speak_shown, silent, Run.uttered, inHand, Todo.voice?]
      by_cases same : voice = spoken
      · simp [same]
      · simp [same, Ne.symm same]

/-- A sprite that shows what its script makes it show does so when the script has done something. -/
theorem next (utters : sprite.Utters run) (coherent : run.Coherent)
    (next : run.next config = some (act, later)) : (sprite.perform act).Utters later := by
  cases Run.next_acts next with
  | land glide todo => exact of_mute (utters.mute (by rw [todo]; rfl)) rfl
  | frame glide left pose todo =>
      refine of_mute (fun voice => ?_) rfl
      exact (sprite.pose_shown pose voice).trans (utters.mute (by rw [todo]; rfl) voice)
  | settle glide left todo => exact of_mute (utters.mute (by rw [todo]; rfl)) rfl
  | hold voice length todo =>
      intro other
      rw [perform, utters other, Run.uttered, todo]
      rfl
  | hush spoken todo =>
      refine of_mute (fun voice => ?_) rfl
      rw [perform, apply, speak_shown, if_pos rfl, utters voice, Run.uttered, todo, Todo.voice?]
      by_cases same : voice = spoken
      · simp [same]
      · simp [same, Ne.symm same]
  | rest todo => exact utters
  | breathe todo => exact of_mute (utters.mute (by rw [todo]; rfl)) rfl
  | goOn todo rest begins =>
      exact Utters.begins begins (rest ▸ coherent.left) (utters.mute (by rw [todo]; rfl))
  | goRound todo through whole _ begins =>
      refine Utters.begins begins ?_ (utters.mute (by rw [todo]; rfl))
      rw [whole]

/-- A script that is through leaves a silent sprite behind. -/
theorem through (utters : sprite.Utters run) (through : run.next config = none) (voice : Voice) :
    sprite.shown voice = "" :=
  utters.mute (by rw [Run.todo_of_next_eq_none through]; rfl) voice

end Utters

end Sprite

end SpriteStage
