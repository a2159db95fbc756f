/-
Module: SpriteStage.Proofs.Performance.BlockLedger
Purpose: The blocks of a chronicle. Whatever is done with a stage, its ledger accounts for all of its
  blocks: none is lost and none is there twice, whichever sprites hold them, and no block has any other
  arguments than those that were given to it.
Main exports: Move.entries, Chronicle.ledger, Chronicle.Sound.take_books, Chronicle.Sound.follow_account,
  Chronicle.blocks_accounted
-/
import SpriteStage.Proofs.Performance.Narration
import SpriteStage.Proofs.Stage.Holdings

namespace SpriteStage

/-- What a move puts into the ledger. -/
def Move.entries (stage : Stage) : Move → List Entry
  | .amend amendment => stage.entries amendment
  | .play | .stop | .turn _ | .clock _ => []

namespace Chronicle

/-- What some moves put into the ledger. -/
def ledger (chronicle : Chronicle) : List Move → List Entry
  | [] => []
  | move :: rest => move.entries chronicle.stage ++ (chronicle.take move).ledger rest

/-- Whatever move comes next, its entries tell what becomes of the blocks. -/
theorem Sound.take_books {chronicle : Chronicle} (sound : chronicle.Sound)
    (once : (chronicle.stage.held.map Block.id).Nodup) (move : Move) :
    chronicle.stage.Books (chronicle.take move).stage (move.entries chronicle.stage) := by
  cases move with
  | amend amendment => exact sound.numbered.amend_books once amendment
  | play => exact chronicle.stage.play_books
  | stop => exact chronicle.stage.stop_books
  | clock time => exact .of_same rfl rfl
  | turn place =>
      obtain ⟨notes, ⟨same, _⟩ | ⟨task, _, _, update, received, _⟩⟩ := chronicle.turn_stage place
      · rw [same]
        exact .of_same rfl rfl
      · have numbered : ({ chronicle.stage with notes } : Stage).Numbered := sound.numbered
        rw [received]
        exact numbered.receive_books task.sprite update

/-- If a ledger accounted for the blocks before some moves, it does so behind them with their entries. -/
theorem Sound.follow_account {chronicle : Chronicle} (sound : chronicle.Sound) {ledger : List Entry}
    (account : chronicle.stage.holdings.Account ledger) (moves : List Move) :
    (chronicle.follow moves).stage.holdings.Account (ledger ++ chronicle.ledger moves) := by
  induction moves generalizing chronicle ledger with
  | nil =>
      rw [Chronicle.ledger, List.append_nil]
      exact account
  | cons move rest later =>
      have next := (sound.take_books account.nodup move).account account
      rw [Chronicle.ledger, ← List.append_assoc]
      exact later (sound.take move) next

/-- Whatever is done with a stage, and in whatever order its scripts have their turns: no two of the
blocks that its sprites hold have the same id; the ids are those of all blocks that its project defined or
an edit answered that it created, but for those that an edit answered that it removed; no block was created
with the id of another one, and none will be by the next edit. Each block has the opcode that it was created
with; and each of its arguments is the last value that was given to it by the defaults of the opcode, by the
definition of the block, or by the updates that applied to it. -/
theorem blocks_accounted {project : Project} {hosted : Bool} {stage : Stage}
    (built : Stage.ofProject project hosted = .ok stage) (moves : List Move) :
    let chronicle := (create stage).follow moves
    let held := chronicle.stage.held
    let ledger := project.ledger ++ (create stage).ledger moves
    let created := ledger.filterMap Entry.created?
    (held.map Block.id).Nodup ∧
      (∀ id, id ∈ held.map Block.id ↔ id ∈ created ∧ id ∉ ledger.filterMap Entry.removed?) ∧
      created.Nodup ∧
      (∀ amendment, ∀ entry ∈ chronicle.stage.entries amendment, ∀ id,
        entry.created? = some id → id ∉ created) ∧
      ∀ block ∈ held, ∃ given, .created block.id block.opcode given ∈ ledger ∧
        ∀ name, block.arguments.get? name = Arguments.lastGiven name
          (block.opcode.defaults.entries ++ given.entries ++
            (ledger.filterMap (Entry.change? block.id)).flatMap Arguments.entries) := by
  intro chronicle held ledger created
  have begun : (create stage).Sound := .create (Stage.ofProject_numbered built)
  have sound : chronicle.Sound := (begun.follow_story moves).1
  have account : chronicle.stage.holdings.Account ledger :=
    begun.follow_account (Stage.ofProject_account built) moves
  refine ⟨account.nodup, account.balance, account.fresh, ?_, ?_⟩
  · intro amendment entry member id creates old
    have next := (sound.take_books account.nodup (.amend amendment)).account account
    have apart := next.fresh
    rw [List.filterMap_append] at apart
    exact List.disjoint_of_nodup_append apart old (List.mem_filterMap.mpr ⟨entry, member, creates⟩)
  · intro block member
    exact account.get?_arguments member

/-- After the swap of a visit the greeter holds the block that the jumper had, with the place where it
jumped to; an update then sends it elsewhere, a new block has the next number, and a removed one is gone. -/
theorem blocks_accounted_visit :
    let edits : List Move :=
      [.amend (.updateBlock ⟨"sprite-2"⟩ ⟨1⟩ ⟨[("x", .integer 7)]⟩),
        .amend (.addBlock ⟨"sprite-1"⟩ .moveSteps), .amend (.removeBlock ⟨"sprite-1"⟩ ⟨2⟩)]
    ∃ stage, Stage.ofProject neighbours true = .ok stage ∧
      let held := ((create stage).follow (visit ++ edits)).stage.held
      held.map Block.id = [⟨3⟩, ⟨1⟩] ∧ (held.map Block.id).Nodup ∧
        ∃ block ∈ held, block.id = ⟨1⟩ ∧ block.arguments.get? "x" = some (.integer 7) := by
  intro edits
  obtain ⟨stage, built⟩ : ∃ stage, Stage.ofProject neighbours true = .ok stage := ⟨_, rfl⟩
  have whole : stage = neighbours.sprites.foldl Stage.addDefinedSprite (.bare neighbours.config) :=
    (Except.ok.inj built).symm
  obtain ⟨once, _, _, _, arguments⟩ := blocks_accounted built (visit ++ edits)
  have held : ((create stage).follow (visit ++ edits)).stage.held.map Block.id = [⟨3⟩, ⟨1⟩] := by
    subst whole
    decide +kernel
  have changes : (neighbours.ledger ++ (create stage).ledger (visit ++ edits)).filterMap
      (Entry.change? ⟨1⟩) = [⟨[("x", .integer 7)]⟩] := by
    subst whole
    decide +kernel
  have known : ⟨1⟩ ∈ ((create stage).follow (visit ++ edits)).stage.held.map Block.id := by
    rw [held]
    exact List.mem_cons_of_mem _ (List.mem_singleton_self _)
  obtain ⟨block, member, jumper⟩ := List.mem_map.mp known
  obtain ⟨given, _, values⟩ := arguments block member
  refine ⟨stage, built, held, once, block, member, jumper, ?_⟩
  rw [values, jumper, changes, Arguments.lastGiven_append]
  rfl

end Chronicle

end SpriteStage
