/-
Module: SpriteStage.Proofs.Project.Legible
Purpose: Blocks of projects that were read. A record is read field by field into a draft, so whatever the
  fields leave as it is holds of the record. The opcode of a block that was read is the one that its tag
  names, and none of its arguments is named twice.
Main exports: Json.readRecord_keeps, BlockDefinition.Legible, Project.parse_legible
-/
import SpriteStage.Proofs.Project.Drafts

namespace SpriteStage

open Json (Node Members Items Fault RecordField bind_eq_ok)

/-! ## What the fields of a record keep -/

namespace Json

variable {δ : Type} {fields : List (RecordField δ)} {holds : δ → Prop}

/-- A field leaves a property of the draft as it is. -/
def RecordField.Keeps (field : RecordField δ) (holds : δ → Prop) : Prop :=
  ∀ node draft later, field.read node draft = .ok later → holds draft → holds later

theorem members_readFields_keeps (kept : ∀ field ∈ fields, field.Keeps holds) {members : Members}
    {draft later : δ} (reads : members.readFields fields draft = .ok later) (begun : holds draft) :
    holds later := by
  match members, reads with
  | .done, reads =>
      cases reads
      exact begun
  | .member key value rest, reads =>
      obtain ⟨name, decodes, reads⟩ := bind_eq_ok.mp reads
      cases asked : fields.find? fun field => field.name = name with
      | none =>
          simp only [asked] at reads
          obtain ⟨_, skips, reads⟩ := bind_eq_ok.mp reads
          exact members_readFields_keeps kept reads begun
      | some field =>
          simp only [asked] at reads
          split at reads
          · cases reads
          · obtain ⟨next, taken, reads⟩ := bind_eq_ok.mp reads
            have member := List.mem_of_find?_eq_some asked
            exact members_readFields_keeps kept reads (kept field member value draft next taken begun)

theorem items_readFields_keeps (kept : ∀ field ∈ fields, field.Keeps holds) {items : Items}
    {draft later : δ} (reads : Items.readFields fields items draft = .ok later)
    (begun : holds draft) : holds later := by
  induction fields generalizing items draft with
  | nil =>
      cases items with
      | done =>
          cases reads
          exact begun
      | _ => cases reads
  | cons field fields more =>
      have others : ∀ other ∈ fields, other.Keeps holds :=
        fun other member => kept other (List.mem_cons_of_mem _ member)
      cases items with
      | done =>
          rw [Items.readFields] at reads
          split at reads
          · cases reads
          · exact more others reads begun
      | cut => cases reads
      | item value rest =>
          obtain ⟨next, taken, reads⟩ := bind_eq_ok.mp reads
          exact more others reads (kept field List.mem_cons_self value draft next taken begun)

/-- What holds of the empty draft and is kept by every field holds of a record that was read. -/
theorem readRecord_keeps (kept : ∀ field ∈ fields, field.Keeps holds) {node : Node} {draft later : δ}
    (reads : node.readRecord fields draft = .ok later) (begun : holds draft) : holds later := by
  cases node with
  | array items => exact items_readFields_keeps kept reads begun
  | object members => exact members_readFields_keeps kept reads begun
  | _ => cases reads

theorem readAll_forall {read : Node → Except Fault α} {holds : α → Prop}
    (each : ∀ {node value}, read node = .ok value → holds value) {items : Items} {values : List α}
    (reads : items.readAll read = .ok values) : ∀ value ∈ values, holds value := by
  match items, reads with
  | .done, reads =>
      cases reads
      exact nofun
  | .item node rest, reads =>
      obtain ⟨first, head, reads⟩ := bind_eq_ok.mp reads
      obtain ⟨others, tail, whole⟩ := bind_eq_ok.mp reads
      cases whole
      exact List.forall_mem_cons.mpr ⟨each head, readAll_forall each tail⟩

/-- What holds of every item holds of all of a list that was read. -/
theorem readList_forall {read : Node → Except Fault α} {holds : α → Prop}
    (each : ∀ {node value}, read node = .ok value → holds value) {node : Node} {values : List α}
    (reads : node.readList read = .ok values) : ∀ value ∈ values, holds value := by
  cases node with
  | array items => exact readAll_forall each reads
  | _ => cases reads

end Json

/-! ## Arguments -/

namespace Arguments

theorem mem_names_setEntry {name other : String} {value : Value} {entries : List (String × Value)}
    (member : other ∈ (setEntry name value entries).map Prod.fst) :
    other = name ∨ other ∈ entries.map Prod.fst := by
  induction entries with
  | nil => simpa [setEntry] using member
  | cons entry rest more =>
      rw [setEntry] at member
      split at member
      · rename_i same
        simpa [same] using member
      · simp only [List.map_cons, List.mem_cons] at member ⊢
        rcases member with here | behind
        · exact Or.inr (Or.inl here)
        · rcases more behind with new | old
          · exact Or.inl new
          · exact Or.inr (Or.inr old)

/-- Giving a value to a name does not name it twice. -/
theorem nodup_setEntry (name : String) (value : Value) {entries : List (String × Value)}
    (once : (entries.map Prod.fst).Nodup) : ((setEntry name value entries).map Prod.fst).Nodup := by
  induction entries with
  | nil => exact List.nodup_singleton name
  | cons entry rest more =>
      obtain ⟨absent, others⟩ := List.nodup_cons.mp once
      rw [setEntry]
      split
      · rename_i same
        rw [List.map_cons]
        exact List.nodup_cons.mpr ⟨same ▸ absent, others⟩
      · rename_i apart
        rw [List.map_cons]
        refine List.nodup_cons.mpr ⟨fun inside => ?_, more others⟩
        rcases mem_names_setEntry inside with same | old
        · exact apart same
        · exact absent old

theorem nodup_ofMembers {depth : Nat} {members : Members} {before after : Arguments}
    (reads : ofMembers depth members before = .ok after)
    (once : (before.entries.map Prod.fst).Nodup) : (after.entries.map Prod.fst).Nodup := by
  match members, reads with
  | .done, reads =>
      cases reads
      exact once
  | .member key value rest, reads =>
      obtain ⟨name, decodes, reads⟩ := bind_eq_ok.mp reads
      obtain ⟨argument, taken, reads⟩ := bind_eq_ok.mp reads
      exact nodup_ofMembers reads (nodup_setEntry name argument once)

/-- Arguments that were read have one value for each name. -/
theorem nodup_ofNode {depth : Nat} {node : Node} {arguments : Arguments}
    (reads : ofNode depth node = .ok arguments) : (arguments.entries.map Prod.fst).Nodup := by
  cases node with
  | object members => exact nodup_ofMembers reads .nil
  | _ => cases reads

end Arguments

/-! ## Blocks -/

/-- The opcode of the block is the one that its tag names, and no argument is named twice. -/
structure BlockDefinition.Legible (definition : BlockDefinition) : Prop where
  opcode : definition.opcode = .ofTag definition.opcode.tag
  once : (definition.arguments.entries.map Prod.fst).Nodup

/-- What is known of a block so far is legible. -/
structure BlockDraft.Legible (draft : BlockDraft) : Prop where
  opcode : ∀ opcode, draft.opcode = some opcode → opcode = .ofTag opcode.tag
  once : ∀ arguments, draft.arguments = some arguments → (arguments.entries.map Prod.fst).Nodup

theorem BlockDraft.fields_legible (depth : Nat) :
    ∀ field ∈ fields depth, field.Keeps BlockDraft.Legible := by
  simp only [fields, List.forall_mem_cons, List.not_mem_nil, false_implies, implies_true, and_true]
  constructor
  · intro node draft later reads legible
    obtain ⟨tag, _, made⟩ := bind_eq_ok.mp reads
    cases made
    refine ⟨?_, legible.once⟩
    rintro opcode ⟨⟩
    rw [Opcode.tag_ofTag]
  · intro node draft later reads legible
    obtain ⟨arguments, taken, made⟩ := bind_eq_ok.mp reads
    cases made
    refine ⟨legible.opcode, ?_⟩
    rintro arguments ⟨⟩
    exact Arguments.nodup_ofNode taken

theorem BlockDefinition.ofNode_legible {depth : Nat} {node : Node} {definition : BlockDefinition}
    (reads : ofNode depth node = .ok definition) : definition.Legible := by
  obtain ⟨draft, record, finishes⟩ := bind_eq_ok.mp reads
  have legible : draft.Legible :=
    Json.readRecord_keeps (BlockDraft.fields_legible _) record ⟨nofun, nofun⟩
  unfold BlockDraft.finish at finishes
  split at finishes
  · rename_i opcode there
    cases finishes
    refine ⟨legible.opcode opcode there, ?_⟩
    cases given : draft.arguments with
    | none => exact .nil
    | some arguments => exact legible.once arguments given
  · cases finishes

/-! ## Sprites and projects -/

theorem SpriteDefinition.ofNode_legible {depth : Nat} {node : Node} {definition : SpriteDefinition}
    (reads : ofNode depth node = .ok definition) : ∀ block ∈ definition.blocks, block.Legible := by
  rw [ofNode, map_eq_bind] at reads
  obtain ⟨draft, record, finishes⟩ := bind_eq_ok.mp reads
  have kept : ∀ field ∈ SpriteDraft.fields (depth - 1), field.Keeps fun draft =>
      ∀ blocks, draft.blocks = some blocks → ∀ block ∈ blocks, block.Legible := by
    simp only [SpriteDraft.fields, List.forall_mem_cons, List.not_mem_nil, false_implies, implies_true,
      and_true]
    refine ⟨?_, ?_, ?_, ?_, ?_⟩
    case refine_5 =>
      intro node draft later reads _
      obtain ⟨blocks, taken, made⟩ := bind_eq_ok.mp reads
      cases made
      rintro blocks ⟨⟩
      exact Json.readList_forall BlockDefinition.ofNode_legible taken
    all_goals
      intro node draft later reads legible
      obtain ⟨_, _, made⟩ := bind_eq_ok.mp reads
      cases made
      exact legible
  have legible := Json.readRecord_keeps kept record (fun _ given => by cases given)
  cases finishes
  cases given : draft.blocks with
  | none => simp [SpriteDraft.finish, given]
  | some blocks =>
      simp only [SpriteDraft.finish, given, Option.getD_some]
      exact legible blocks given

/-- All blocks of a project that was read are legible. -/
theorem Project.parse_legible {bytes : List UInt8} {project : Project}
    (parsed : parse bytes = .ok project) :
    ∀ sprite ∈ project.sprites, ∀ block ∈ sprite.blocks, block.Legible := by
  obtain ⟨result, reads, whole⟩ := bind_eq_ok.mp parsed
  have same : result = project := by
    split at whole
    · cases whole
    · exact Except.ok.inj whole
  subst same
  rw [ofNode, map_eq_bind] at reads
  obtain ⟨draft, record, finishes⟩ := bind_eq_ok.mp reads
  have kept : ∀ field ∈ ProjectDraft.fields (depthLimit - 1), field.Keeps fun draft =>
      ∀ sprites, draft.sprites = some sprites →
        ∀ sprite ∈ sprites, ∀ block ∈ sprite.blocks, block.Legible := by
    simp only [ProjectDraft.fields, List.forall_mem_cons, List.not_mem_nil, false_implies, implies_true,
      and_true]
    constructor
    · intro node draft later reads legible
      obtain ⟨_, _, made⟩ := bind_eq_ok.mp reads
      cases made
      exact legible
    · intro node draft later reads _
      obtain ⟨sprites, taken, made⟩ := bind_eq_ok.mp reads
      cases made
      rintro sprites ⟨⟩
      exact Json.readList_forall SpriteDefinition.ofNode_legible taken
  have legible := Json.readRecord_keeps kept record (fun _ given => by cases given)
  cases finishes
  cases given : draft.sprites with
  | none => simp [ProjectDraft.finish, given]
  | some sprites =>
      simp only [ProjectDraft.finish, given, Option.getD_some]
      exact legible sprites given

end SpriteStage
