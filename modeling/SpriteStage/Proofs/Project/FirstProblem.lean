/-
Module: SpriteStage.Proofs.Project.FirstProblem
Purpose: The first problem of a project text decides. All readers of projects are steady, so a text
  that is wrong stays wrong in the same way whatever is written behind it, and a text that was cut
  off from a good one is good itself or ends too early.
Main exports: Project.ofNode_steady, Project.first_problem_decides
-/
import Mathlib.Control.Monad.Basic
import SpriteStage.Project.Reader
import SpriteStage.Proofs.Json.Decision

namespace SpriteStage

open Json

theorem Value.ofNode_steady (depth : Nat) : Steady (Value.ofNode depth) := by
  intro early late grows
  cases grows with
  | same => exact .same _
  | begun => exact Or.inl rfl
  | text grows => exact grows.decode.map _
  | array grows => exact (Node.inspect_steady depth (.array grows)).bind fun _ => .same _
  | object grows => exact (Node.inspect_steady depth (.object grows)).bind fun _ => .same _

theorem Arguments.ofMembers_steady (depth : Nat) {early late : Members} :
    (arguments : Arguments) → early.GrowsTo late →
      Decides (ofMembers depth early arguments) (ofMembers depth late arguments)
  | _, .same _ => .same _
  | _, .begun _ => Or.inl rfl
  | _, .member key grows rest =>
    key.decode.bind fun _ => (Value.ofNode_steady depth grows).bind fun _ =>
      ofMembers_steady depth _ rest

theorem Arguments.ofNode_steady (depth : Nat) : Steady (Arguments.ofNode depth) := by
  intro early late grows
  have refused := @refuse_steady Arguments _ _ grows
  cases grows with
  | same => exact .same _
  | object grows => exact ofMembers_steady (depth - 1) .empty grows
  | begun => exact Or.inl rfl
  | array | text => exact refused

/-- A field that sets what a steady reader reads is steady. -/
theorem steady_set {read : Node → Except Fault α} (steady : Steady read) (set : α → δ) :
    Steady fun node => return set (← read node) :=
  fun grows => (steady grows).bind fun _ => .same _

theorem Config.ofNode_steady : Steady Config.ofNode := by
  refine fun grows => (readRecord_steady ?_ _ grows).map _
  intro field member draft
  simp only [ConfigDraft.fields, List.mem_cons, List.not_mem_nil, or_false] at member
  rcases member with rfl | rfl | rfl | rfl | rfl | rfl
  · exact steady_set (readNat_steady _) _
  · exact steady_set (readNat_steady _) _
  · exact steady_set (readNat_steady _) _
  · exact steady_set readFloat_steady _
  · exact steady_set (readNat_steady _) _
  · exact steady_set (readOption_steady readFloat_steady rfl) _

theorem BlockDefinition.ofNode_steady (depth : Nat) : Steady (BlockDefinition.ofNode depth) := by
  refine fun grows => (readRecord_steady ?_ _ grows).bind fun _ => .same _
  intro field member draft
  simp only [BlockDraft.fields, List.mem_cons, List.not_mem_nil, or_false] at member
  rcases member with rfl | rfl
  · exact steady_set readText_steady _
  · exact steady_set (Arguments.ofNode_steady _) _

theorem SpriteDefinition.ofNode_steady (depth : Nat) : Steady (SpriteDefinition.ofNode depth) := by
  refine fun grows => (readRecord_steady ?_ _ grows).map _
  intro field member draft
  simp only [SpriteDraft.fields, List.mem_cons, List.not_mem_nil, or_false] at member
  rcases member with rfl | rfl | rfl | rfl | rfl
  · exact steady_set (readOption_steady readText_steady rfl) _
  · exact steady_set (readOption_steady readFloat_steady rfl) _
  · exact steady_set (readOption_steady readFloat_steady rfl) _
  · exact steady_set readFloat_steady _
  · exact steady_set (readList_steady (BlockDefinition.ofNode_steady _)) _

theorem Project.ofNode_steady : Steady Project.ofNode := by
  refine fun grows => (readRecord_steady ?_ _ grows).map _
  intro field member draft
  simp only [ProjectDraft.fields, List.mem_cons, List.not_mem_nil, or_false] at member
  rcases member with rfl | rfl
  · exact steady_set Config.ofNode_steady _
  · exact steady_set (readList_steady (SpriteDefinition.ofNode_steady _)) _

/-- If a text that does not end within a number is not JSON or is of the wrong shape, the same holds
of every continuation of it. So what was cut off from a text that can be read can be read itself or
ends too early. -/
theorem Project.first_problem_decides {text : List UInt8}
    (ends : ∀ b, text.getLast? = some b → inNumber b = false) (more : List UInt8) :
    (∀ fault, fault ≠ .ended → Project.parse text = .error fault →
      Project.parse (text ++ more) = .error fault) ∧
    ∀ project, Project.parse (text ++ more) = .ok project →
      (∃ shorter, Project.parse text = .ok shorter) ∨ Project.parse text = .error .ended := by
  have decides : ∀ fault, fault ≠ .ended → Project.parse text = .error fault →
      Project.parse (text ++ more) = .error fault := fun fault decided fails =>
    readDocument_decides Project.ofNode_steady ends decided fails more
  refine ⟨decides, ?_⟩
  intro project accepts
  cases result : Project.parse text with
  | ok shorter => exact Or.inl ⟨shorter, rfl⟩
  | error fault =>
      by_cases early : fault = .ended
      · exact Or.inr (by rw [early])
      · rw [decides fault early result] at accepts
        cases accepts

/-- An array of fields whose first one is no configuration is wrong as soon as that is seen; an
object that was cut off within its sprites has only ended too early. -/
theorem Project.first_problem_decides_cut :
    let wrong := "[1,".toUTF8.toList
    let cut := r#"{"sprites":["#.toUTF8.toList
    Project.parse (wrong ++ " []]".toUTF8.toList) = .error .mistyped ∧
      (∃ project, Project.parse (cut ++ r"]}".toUTF8.toList) = .ok project) ∧
      ((∃ shorter, Project.parse cut = .ok shorter) ∨ Project.parse cut = .error .ended) := by
  intro wrong cut
  have wrongEnds : ∀ b, wrong.getLast? = some b → inNumber b = false := by decide +kernel
  have cutEnds : ∀ b, cut.getLast? = some b → inNumber b = false := by decide +kernel
  have fails : Project.parse wrong = .error .mistyped := by decide +kernel
  have accepts : Project.parse (cut ++ r"]}".toUTF8.toList) = .ok {} := by decide +kernel
  exact ⟨(first_problem_decides wrongEnds _).1 .mistyped (by decide) fails, ⟨_, accepts⟩,
    (first_problem_decides cutEnds _).2 _ accepts⟩

end SpriteStage
