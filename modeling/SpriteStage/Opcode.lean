/-
Module: SpriteStage.Opcode
Purpose: Opcodes. What a block does, and the tag under which projects name it. A tag that names none
  of the known opcodes is kept as it stands.
Main exports: Opcode, Opcode.tag, Opcode.ofTag, Opcode.isKnown, Opcode.defaults
-/
import SpriteStage.Arguments

namespace SpriteStage

/-- What a block does. -/
inductive Opcode where
  | whenFlagClicked
  | whenSpriteClicked
  | moveSteps
  | turnRight
  | turnLeft
  | goTo
  | repeatAnimation
  | sayFor
  | thinkFor
  | unknown (tag : String)
deriving DecidableEq, Repr

namespace Opcode

/-- The tag of an opcode (`as_str`). -/
def tag : Opcode → String
  | .whenFlagClicked => "EVENT_WHEN_FLAG_CLICKED"
  | .whenSpriteClicked => "EVENT_WHEN_SPRITE_CLICKED"
  | .moveSteps => "MOTION_MOVE_STEPS"
  | .turnRight => "MOTION_TURN_RIGHT"
  | .turnLeft => "MOTION_TURN_LEFT"
  | .goTo => "MOTION_GOTO_XY"
  | .repeatAnimation => "CONTROL_REPEAT_ANIMATION"
  | .sayFor => "LOOKS_SAY_FOR_SECS"
  | .thinkFor => "LOOKS_THINK_FOR_SECS"
  | .unknown tag => tag

/-- The opcodes that mean something. -/
def known : List Opcode :=
  [.whenFlagClicked, .whenSpriteClicked, .moveSteps, .turnRight, .turnLeft, .goTo,
    .repeatAnimation, .sayFor, .thinkFor]

/-- The opcode with this very tag. -/
def ofTag (tag : String) : Opcode :=
  (known.find? fun opcode => opcode.tag = tag).getD (.unknown tag)

/-- The tag of an opcode is the one it was found by. -/
theorem tag_ofTag (tag : String) : (ofTag tag).tag = tag := by
  unfold ofTag
  cases found : known.find? fun opcode => opcode.tag = tag with
  | none => rfl
  | some opcode => simpa using List.find?_some found

/-- Whether an opcode means something. -/
def isKnown : Opcode → Bool
  | .unknown _ => false
  | _ => true

theorem isKnown_iff_mem (opcode : Opcode) : opcode.isKnown = true ↔ opcode ∈ known := by
  cases opcode <;> simp [isKnown, known]

/-- A tag means something if and only if it is that of a known opcode, to the letter. -/
theorem isKnown_ofTag (tag : String) :
    (ofTag tag).isKnown = true ↔ ∃ opcode ∈ known, opcode.tag = tag := by
  unfold ofTag
  cases found : known.find? fun opcode => opcode.tag = tag with
  | none =>
    have other := List.find?_eq_none.mp found
    simp only [decide_eq_true_eq] at other
    simp only [Option.getD_none, isKnown, Bool.false_eq_true, false_iff, not_exists, not_and]
    exact other
  | some opcode =>
    have member := List.mem_of_find?_eq_some found
    exact iff_of_true ((isKnown_iff_mem opcode).mpr member)
      ⟨opcode, member, by simpa using List.find?_some found⟩

/-- The arguments that a fresh block starts with (`default_args`). -/
def defaults : Opcode → Arguments
  | .moveSteps => ⟨[("steps", .integer 10)]⟩
  | .turnRight | .turnLeft => ⟨[("degrees", .integer 15)]⟩
  | .goTo => ⟨[("x", .integer 0), ("y", .integer 0)]⟩
  | .sayFor | .thinkFor => ⟨[("message", .string ""), ("seconds", .integer 2)]⟩
  | .whenFlagClicked | .whenSpriteClicked | .repeatAnimation | .unknown _ => .empty

end Opcode

end SpriteStage
