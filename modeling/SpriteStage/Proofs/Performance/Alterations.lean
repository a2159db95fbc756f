/-
Module: SpriteStage.Proofs.Performance.Alterations
Purpose: What moves of a performance do to sprites. Edits do what they are meant to do, a play from rest
  sends all sprites home, a stop silences them, and a script in its turn hands its update to its own sprite.
  While the stage is not playing nobody is there to hand anything to a sprite, so that stops and edits are
  all that is left.
Main exports: Performance.acting, Chronicle.alteration, Chronicle.entrants, Chronicle.Sound.take_alters,
  Move.alterationAtRest, Chronicle.Sound.alteration_at_rest, Chronicle.take_playing
-/
import SpriteStage.Proofs.Performance.Narration
import SpriteStage.Proofs.Stage.Alterations

namespace SpriteStage

/-- What some progress of a script does to sprites. -/
def Progress.alteration (id : SpriteId) : Progress → Alteration
  | .displayed update _ => .update id update
  | .ended _ | .passed _ | .skipped _ _ | .waiting _ _ | .resting _ => .none

/-- The script whose turn it is if the one at a place in line is called up. -/
def Performance.acting (performance : Performance) (place : Nat) : Option Task :=
  (performance.callUp place).ready.head?

namespace Chronicle

/-- What a move does to sprites, their blocks aside. -/
def alteration (chronicle : Chronicle) : Move → Alteration
  | .amend amendment => amendment.alteration
  | .play => if chronicle.stage.playing then .none else .reset
  | .stop => .hush
  | .turn place =>
    match chronicle.performance.acting place with
    | none => .none
    | some task => (chronicle.performance.progress task).alteration task.sprite
  | .clock _ => .none

/-- The sprites that come with a move. -/
def entrants (chronicle : Chronicle) : Move → List Sprite
  | .amend amendment => chronicle.stage.entrants amendment
  | .play | .stop | .turn _ | .clock _ => []

/-- The next act of the first script in line does to sprites what the progress of the script does. -/
theorem act_alters {chronicle : Chronicle} (numbered : chronicle.stage.Numbered) {task : Task}
    {others : List Task} (line : chronicle.performance.ready = task :: others) :
    chronicle.stage.Alters chronicle.act.stage
      ((chronicle.performance.progress task).alteration task.sprite) [] := by
  by_cases silent : ∀ update run, chronicle.performance.progress task ≠ .displayed update run
  · have nothing : (chronicle.performance.progress task).alteration task.sprite = .none := by
      cases shown : chronicle.performance.progress task with
      | displayed update run => exact absurd shown (silent update run)
      | _ => rfl
    obtain ⟨notes, acts⟩ := act_silent line silent
    rw [acts, nothing]
    exact .of_same rfl fun _ _ => rfl
  · simp only [ne_eq, not_forall, not_not] at silent
    obtain ⟨update, run, shown⟩ := silent
    obtain ⟨notes, acts⟩ := act_displayed line shown
    have noted : ({ chronicle.stage with notes } : Stage).Numbered := numbered
    rw [acts, shown]
    exact noted.receive_alters task.sprite update

/-- Every move does to sprites what is said of it, and brings those that are said to come. -/
theorem Sound.take_alters {chronicle : Chronicle} (sound : chronicle.Sound) (move : Move) :
    chronicle.stage.Alters (chronicle.take move).stage (chronicle.alteration move)
      (chronicle.entrants move) := by
  cases move with
  | amend amendment => exact sound.numbered.amend_alters amendment
  | play =>
      cases playing : chronicle.stage.playing with
      | true =>
          rw [sound.play_again playing]
          simp only [alteration, playing, if_true]
          exact .of_same rfl fun _ _ => rfl
      | false =>
          simp only [alteration, playing, Bool.false_eq_true, if_false]
          exact Stage.play_alters playing
  | stop => exact chronicle.stage.stop_alters
  | clock time => exact .of_same rfl fun _ _ => rfl
  | turn place =>
      simp only [alteration, Chronicle.take, Performance.acting]
      rw [Performance.callUp_eq]
      generalize (chronicle.performance.callUp place).ready = ready
      cases ready with
      | nil =>
          rw [act_nil rfl]
          exact .of_same rfl fun _ _ => rfl
      | cons task others =>
          exact @act_alters
            { chronicle with performance := { chronicle.performance with ready := task :: others } }
            sound.numbered task others rfl

/-! ## Rest -/

/-- Whoever has a turn is one of the scripts of the chronicle. -/
theorem acting_mem {chronicle : Chronicle} {place : Nat} {task : Task}
    (acts : chronicle.performance.acting place = some task) : task ∈ chronicle.tasks := by
  have called : task ∈ (chronicle.performance.callUp place).ready := List.mem_of_mem_head? acts
  have inLine := (chronicle.performance.callUp_perm place).mem_iff.mp called
  simp [tasks, inLine]

/-- A script in its turn leaves it open whether the stage is playing. -/
theorem turn_playing (chronicle : Chronicle) (place : Nat) :
    (chronicle.take (.turn place)).stage.playing = chronicle.stage.playing := by
  obtain ⟨notes, ⟨same, _⟩ | ⟨task, _, _, update, received, _⟩⟩ := chronicle.turn_stage place
  · rw [same]
  · rw [received]
    rcases Stage.receive_steady_or_begins { chronicle.stage with notes } task.sprite update with
      ⟨stage, steadily, steady⟩ | ⟨stage, anew, _, plays⟩
    · exact (congrArg (·.1.playing) steadily).trans steady.playing
    · exact (congrArg (·.1.playing) anew).trans plays

/-- Only a play makes a stage play, and only a stop makes it rest. -/
theorem take_playing (chronicle : Chronicle) (move : Move) :
    (chronicle.take move).stage.playing = true ↔
      move = .play ∨ move ≠ .stop ∧ chronicle.stage.playing = true := by
  cases move with
  | amend amendment =>
      have same : (chronicle.take (.amend amendment)).stage.playing = chronicle.stage.playing :=
        (Stage.amend_steady chronicle.stage amendment).playing
      simp [same]
  | play =>
      have plays : (chronicle.take .play).stage.playing = true := by
        cases playing : chronicle.stage.playing with
        | true =>
            show chronicle.stage.play.1.playing = true
            rw [Stage.play_of_playing playing]
            exact playing
        | false => exact (Stage.play_begins playing).2.1
      simp [plays]
  | stop =>
      have stops : (chronicle.take .stop).stage.playing = false :=
        (Stage.stop_begins chronicle.stage).2
      simp [stops]
  | turn place => simp [chronicle.turn_playing place]
  | clock time =>
      have same : (chronicle.take (.clock time)).stage.playing = chronicle.stage.playing := rfl
      simp [same]

end Chronicle

/-- What a move does to the sprites of a stage that is not playing, unless it is a play. -/
def Move.alterationAtRest : Move → Alteration
  | .amend amendment => amendment.alteration
  | .stop => .hush
  | .play | .turn _ | .clock _ => .none

/-- While the stage is not playing no script has anything to hand to its sprite. -/
theorem Chronicle.Sound.alteration_at_rest {chronicle : Chronicle} (sound : chronicle.Sound)
    (resting : chronicle.stage.playing = false) {move : Move} (still : move ≠ .play) :
    chronicle.alteration move = move.alterationAtRest := by
  cases move with
  | amend | stop | clock => rfl
  | play => exact absurd rfl still
  | turn place =>
      cases acts : chronicle.performance.acting place with
      | none => simp only [alteration, acts, Move.alterationAtRest]
      | some task =>
          simp only [alteration, acts, Move.alterationAtRest]
          cases shown : chronicle.performance.progress task with
          | displayed update run =>
              have current := Performance.epoch_eq_of_displayed shown
              rw [sound.playing (acting_mem acts) current] at resting
              cases resting
          | _ => rfl

end SpriteStage
