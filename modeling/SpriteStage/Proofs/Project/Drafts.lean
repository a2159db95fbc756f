/-
Module: SpriteStage.Proofs.Project.Drafts
Purpose: The four records of a project text. Projects, configurations, sprites and blocks are read as records
  with fields apart from each other, and nothing is read that was not written to its end. Of the
  named values of a block only the last one of each name counts, whatever their order is otherwise.
Main exports: ProjectDraft.reader, ConfigDraft.reader, SpriteDraft.reader, BlockDraft.reader, their lawful,
  Project.ofNode_whole, Arguments.agree_of_perm
-/
import SpriteStage.Proofs.Json.Records
import SpriteStage.Proofs.Sprite.Ledger
import SpriteStage.Project.Reader

namespace SpriteStage

open Json

/-! ## Fields in places of their own -/

theorem ConfigDraft.fields_put : ∀ field ∈ fields, ∃ (α : Type) (parse : Node → Except Fault α)
    (put : α → ConfigDraft → ConfigDraft), RecordReader.Puts field parse put := by
  simp only [fields, List.forall_mem_cons, List.not_mem_nil, false_implies, implies_true, and_true]
  refine ⟨?_, ?_, ?_, ?_, ?_, ?_⟩
  all_goals exact ⟨_, _, _, fun _ _ => rfl, fun _ _ => rfl⟩

theorem ConfigDraft.fields_apart :
    fields.Pairwise fun field other => field.Apart other ∧ other.Apart field := by
  simp only [fields, List.pairwise_cons, List.forall_mem_cons, List.not_mem_nil, false_implies,
    implies_true, and_true, List.Pairwise.nil]
  refine ⟨⟨?_, ?_, ?_, ?_, ?_⟩, ⟨?_, ?_, ?_, ?_⟩, ⟨?_, ?_, ?_⟩, ⟨?_, ?_⟩, ?_⟩
  all_goals
    exact RecordReader.Puts.apart_both ⟨fun _ _ => rfl, fun _ _ => rfl⟩ ⟨fun _ _ => rfl, fun _ _ => rfl⟩
      (fun _ _ => rfl) (fun _ _ => rfl) (fun _ _ _ => rfl)

theorem SpriteDraft.fields_put (depth : Nat) : ∀ field ∈ fields depth,
    ∃ (α : Type) (parse : Node → Except Fault α) (put : α → SpriteDraft → SpriteDraft),
      RecordReader.Puts field parse put := by
  simp only [fields, List.forall_mem_cons, List.not_mem_nil, false_implies, implies_true, and_true]
  refine ⟨?_, ?_, ?_, ?_, ?_⟩
  all_goals exact ⟨_, _, _, fun _ _ => rfl, fun _ _ => rfl⟩

theorem SpriteDraft.fields_apart (depth : Nat) :
    (fields depth).Pairwise fun field other => field.Apart other ∧ other.Apart field := by
  simp only [fields, List.pairwise_cons, List.forall_mem_cons, List.not_mem_nil, false_implies,
    implies_true, and_true, List.Pairwise.nil]
  refine ⟨⟨?_, ?_, ?_, ?_⟩, ⟨?_, ?_, ?_⟩, ⟨?_, ?_⟩, ?_⟩
  all_goals
    exact RecordReader.Puts.apart_both ⟨fun _ _ => rfl, fun _ _ => rfl⟩ ⟨fun _ _ => rfl, fun _ _ => rfl⟩
      (fun _ _ => rfl) (fun _ _ => rfl) (fun _ _ _ => rfl)

theorem BlockDraft.fields_put (depth : Nat) : ∀ field ∈ fields depth,
    ∃ (α : Type) (parse : Node → Except Fault α) (put : α → BlockDraft → BlockDraft),
      RecordReader.Puts field parse put := by
  simp only [fields, List.forall_mem_cons, List.not_mem_nil, false_implies, implies_true, and_true]
  refine ⟨?_, ?_⟩
  all_goals exact ⟨_, _, _, fun _ _ => rfl, fun _ _ => rfl⟩

theorem BlockDraft.fields_apart (depth : Nat) :
    (fields depth).Pairwise fun field other => field.Apart other ∧ other.Apart field := by
  simp only [fields, List.pairwise_cons, List.forall_mem_cons, List.not_mem_nil, false_implies,
    implies_true, and_true, List.Pairwise.nil]
  exact RecordReader.Puts.apart_both ⟨fun _ _ => rfl, fun _ _ => rfl⟩ ⟨fun _ _ => rfl, fun _ _ => rfl⟩
    (fun _ _ => rfl) (fun _ _ => rfl) (fun _ _ _ => rfl)

theorem ProjectDraft.fields_put (depth : Nat) : ∀ field ∈ fields depth,
    ∃ (α : Type) (parse : Node → Except Fault α) (put : α → ProjectDraft → ProjectDraft),
      RecordReader.Puts field parse put := by
  simp only [fields, List.forall_mem_cons, List.not_mem_nil, false_implies, implies_true, and_true]
  refine ⟨?_, ?_⟩
  all_goals exact ⟨_, _, _, fun _ _ => rfl, fun _ _ => rfl⟩

theorem ProjectDraft.fields_apart (depth : Nat) :
    (fields depth).Pairwise fun field other => field.Apart other ∧ other.Apart field := by
  simp only [fields, List.pairwise_cons, List.forall_mem_cons, List.not_mem_nil, false_implies,
    implies_true, and_true, List.Pairwise.nil]
  exact RecordReader.Puts.apart_both ⟨fun _ _ => rfl, fun _ _ => rfl⟩ ⟨fun _ _ => rfl, fun _ _ => rfl⟩
    (fun _ _ => rfl) (fun _ _ => rfl) (fun _ _ _ => rfl)

/-! ## The records -/

/-- How a configuration is read. -/
def ConfigDraft.reader : RecordReader Config where
  Draft := ConfigDraft
  fields := fields
  blank := {}
  finish draft := .ok draft.finish

/-- How a block is read. -/
def BlockDraft.reader (depth : Nat) : RecordReader BlockDefinition where
  Draft := BlockDraft
  fields := fields (depth - 1)
  blank := {}
  finish := finish

/-- How a sprite is read. -/
def SpriteDraft.reader (depth : Nat) : RecordReader SpriteDefinition where
  Draft := SpriteDraft
  fields := fields (depth - 1)
  blank := {}
  finish draft := .ok draft.finish

/-- How a project is read. -/
def ProjectDraft.reader (depth : Nat) : RecordReader Project where
  Draft := ProjectDraft
  fields := fields (depth - 1)
  blank := {}
  finish draft := .ok draft.finish

theorem map_eq_bind (use : α → β) (result : Except Fault α) :
    use <$> result = result >>= fun value => .ok (use value) := by
  cases result with
  | ok value => rfl
  | error fault => rfl

theorem Config.ofNode_eq (node : Node) : Config.ofNode node = ConfigDraft.reader.read node :=
  map_eq_bind _ _

theorem BlockDefinition.ofNode_eq (depth : Nat) (node : Node) :
    BlockDefinition.ofNode depth node = (BlockDraft.reader depth).read node := rfl

theorem SpriteDefinition.ofNode_eq (depth : Nat) (node : Node) :
    SpriteDefinition.ofNode depth node = (SpriteDraft.reader depth).read node :=
  map_eq_bind _ _

theorem Project.ofNode_eq (node : Node) :
    Project.ofNode node = (ProjectDraft.reader depthLimit).read node :=
  map_eq_bind _ _

theorem ConfigDraft.lawful : ConfigDraft.reader.Lawful :=
  .of_puts (by decide) (by decide) fields_put fields_apart

theorem BlockDraft.lawful (depth : Nat) : (BlockDraft.reader depth).Lawful :=
  .of_puts (by simp [reader, fields]) (show ∀ field ∈ fields _, field.isSet {} = false by simp [fields])
    (fields_put _) (fields_apart _)

theorem SpriteDraft.lawful (depth : Nat) : (SpriteDraft.reader depth).Lawful :=
  .of_puts (by simp [reader, fields]) (show ∀ field ∈ fields _, field.isSet {} = false by simp [fields])
    (fields_put _) (fields_apart _)

theorem ProjectDraft.lawful (depth : Nat) : (ProjectDraft.reader depth).Lawful :=
  .of_puts (by simp [reader, fields]) (show ∀ field ∈ fields _, field.isSet {} = false by simp [fields])
    (fields_put _) (fields_apart _)

/-! ## What is read was written -/

theorem Value.ofNode_whole (depth : Nat) : Whole (Value.ofNode depth) := by
  intro node value reads
  cases node with
  | null | bool | number => rfl
  | text text =>
      simp only [ofNode, map_eq_bind] at reads
      obtain ⟨string, decodes, _⟩ := bind_eq_ok.mp reads
      simp only [Node.skip, fault_of_decode decodes]
  | array | object =>
      obtain ⟨_, _, impossible⟩ := bind_eq_ok.mp reads
      cases impossible
  | cutNumber | broken => cases reads

theorem Arguments.ofMembers_whole (depth : Nat) {members : Members} {before after : Arguments}
    (reads : ofMembers depth members before = .ok after) : members.skip = .ok () := by
  match members, reads with
  | .done, _ => rfl
  | .member key value rest, reads =>
      obtain ⟨name, decodes, reads⟩ := bind_eq_ok.mp reads
      obtain ⟨argument, taken, reads⟩ := bind_eq_ok.mp reads
      simp only [Members.skip, fault_of_decode decodes, Value.ofNode_whole depth taken]
      exact ofMembers_whole depth reads

theorem Arguments.ofNode_whole (depth : Nat) : Whole (Arguments.ofNode depth) := by
  intro node arguments reads
  cases node with
  | object members => exact ofMembers_whole (depth - 1) reads
  | _ => cases reads

theorem Config.ofNode_whole : Whole Config.ofNode := by
  intro node config reads
  rw [ofNode, map_eq_bind] at reads
  refine (readRecord_whole ?_ _).bind _ reads
  simp only [ConfigDraft.fields, List.forall_mem_cons, List.not_mem_nil, false_implies, implies_true,
    and_true]
  exact ⟨fun _ => (readNat_whole _).bind _, fun _ => (readNat_whole _).bind _,
    fun _ => (readNat_whole _).bind _, fun _ => readFloat_whole.bind _,
    fun _ => (readNat_whole _).bind _, fun _ => (readOption_whole readFloat_whole).bind _⟩

theorem BlockDefinition.ofNode_whole (depth : Nat) : Whole (BlockDefinition.ofNode depth) := by
  refine (readRecord_whole ?_ _).bind _
  simp only [BlockDraft.fields, List.forall_mem_cons, List.not_mem_nil, false_implies, implies_true,
    and_true]
  exact ⟨fun _ => readText_whole.bind _, fun _ => (Arguments.ofNode_whole _).bind _⟩

theorem SpriteDefinition.ofNode_whole (depth : Nat) : Whole (SpriteDefinition.ofNode depth) := by
  intro node sprite reads
  rw [ofNode, map_eq_bind] at reads
  refine (readRecord_whole ?_ _).bind _ reads
  simp only [SpriteDraft.fields, List.forall_mem_cons, List.not_mem_nil, false_implies, implies_true,
    and_true]
  exact ⟨fun _ => (readOption_whole readText_whole).bind _, fun _ => (readOption_whole readFloat_whole).bind _,
    fun _ => (readOption_whole readFloat_whole).bind _, fun _ => readFloat_whole.bind _,
    fun _ => (readList_whole (BlockDefinition.ofNode_whole _)).bind _⟩

theorem Project.ofNode_whole : Whole Project.ofNode := by
  intro node project reads
  rw [ofNode, map_eq_bind] at reads
  refine (readRecord_whole ?_ _).bind _ reads
  simp only [ProjectDraft.fields, List.forall_mem_cons, List.not_mem_nil, false_implies, implies_true,
    and_true]
  exact ⟨fun _ => Config.ofNode_whole.bind _,
    fun _ => (readList_whole (SpriteDefinition.ofNode_whole _)).bind _⟩

/-! ## Named values -/

/-- The named value that a member is. -/
def Arguments.assigned? (depth : Nat) (member : Text × Node) : Option (String × Value) :=
  match member.1.decode, Value.ofNode depth member.2 with
  | .ok name, .ok value => some (name, value)
  | _, _ => none

/-- Members are read if each of them is a named value, and then the last value of each name counts. -/
theorem Arguments.ofMembers_eq_ok {depth : Nat} {members : List (Text × Node)}
    {before after : Arguments} :
    ofMembers depth (Members.ofList members) before = .ok after ↔
      (∀ member ∈ members, (assigned? depth member).isSome) ∧
        after = before.merge ⟨members.filterMap (assigned? depth)⟩ := by
  induction members generalizing before with
  | nil => exact ⟨fun same => ⟨nofun, (Except.ok.inj same).symm⟩, fun ⟨_, same⟩ => by rw [same]; rfl⟩
  | cons member members more =>
      obtain ⟨key, node⟩ := member
      rw [Members.ofList, ofMembers, List.forall_mem_cons]
      cases decodes : key.decode with
      | error fault => simp [assigned?, decodes, Bind.bind, Except.bind]
      | ok name =>
          cases reads : Value.ofNode depth node with
          | error fault => simp [assigned?, decodes, reads, Bind.bind, Except.bind]
          | ok value =>
              have here : assigned? depth (key, node) = some (name, value) := by
                simp only [assigned?, decodes, reads]
              rw [List.filterMap_cons_some here, here]
              refine more.trans ?_
              simp only [Option.isSome_some, true_and]
              rfl

/-- The last value of a name is that of the last member with the name. -/
theorem Arguments.lastGiven_entries (depth : Nat) (name : String) (members : List (Text × Node)) :
    lastGiven name (members.filterMap (assigned? depth)) =
      lastGiven name
        ((members.filter fun member => member.1.decode = .ok name).filterMap (assigned? depth)) := by
  have named : ((members.filterMap (assigned? depth)).filter fun entry => entry.1 = name) =
      ((members.filter fun member => member.1.decode = .ok name).filterMap (assigned? depth)).filter
        fun entry => entry.1 = name := by
    simp only [List.filter_filterMap, List.filterMap_filter]
    refine List.filterMap_congr fun member _ => ?_
    unfold assigned?
    cases decodes : member.1.decode with
    | error fault => rfl
    | ok other =>
        cases reads : Value.ofNode depth member.2 with
        | error fault => simp
        | ok value => by_cases same : other = name <;> simp [same]
  rw [lastGiven, lastGiven, named]

/-- Named values can be put into any order in which those of one name keep theirs. -/
theorem Arguments.agree_of_perm (depth : Nat) {members others : List (Text × Node)}
    (perm : members.Perm others)
    (inOrder : ∀ name, (members.filter fun member => member.1.decode = .ok name) =
      others.filter fun member => member.1.decode = .ok name) :
    Agree (fun arguments other => arguments.get? = other.get?)
      (Arguments.ofNode depth (.object (Members.ofList members)))
      (Arguments.ofNode depth (.object (Members.ofList others))) := by
  refine .of_ok ?_ ?_
  · intro arguments reads
    obtain ⟨readable, same⟩ := ofMembers_eq_ok.mp reads
    refine ⟨_, ofMembers_eq_ok.mpr ⟨?_, rfl⟩, ?_⟩
    · exact fun member inside => readable member (perm.mem_iff.mpr inside)
    · funext name
      rw [same, get?_merge, get?_merge, lastGiven_entries, inOrder name, ← lastGiven_entries]
  · intro arguments reads
    obtain ⟨readable, _⟩ := ofMembers_eq_ok.mp reads
    exact ⟨_, ofMembers_eq_ok.mpr
      ⟨fun member inside => readable member (perm.mem_iff.mp inside), rfl⟩⟩

end SpriteStage
