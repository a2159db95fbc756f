/-
Module: SpriteStage.Proofs.Project.Spellings
Purpose: All spellings of a project agree. A project text may have blanks in any place between two
  tokens, the members of its records in any order and further members that nobody asks for; what has
  a default may be written out or not, and a record may be the array of its fields. None of this
  changes the project that is read. A field that comes up twice makes the text one of the wrong
  shape.
Main exports: Shape, RecordKind.slots, Respells, Doubled, Project.meaning, Project.spellings_agree
-/
import SpriteStage.Proofs.Project.Drafts

namespace SpriteStage

open Json

/-! ## Spellings -/

/-- The records of a project text. -/
inductive RecordKind where
  | project
  | config
  | sprite
  | block

/-- What a value of a project text is to be. -/
inductive Shape where
  | scalar
  /-- An object of named values. -/
  | arguments
  | record (kind : RecordKind)
  /-- An array of records. -/
  | records (kind : RecordKind)

/-- A field of a record. -/
structure Slot where
  name : String
  shape : Shape
  /-- Whether an array of the fields must have a value for it. -/
  needed : Bool
  /-- The values that say the same as none. -/
  Omissible : Node → Prop

/-- The fields of the records, in their order. -/
def RecordKind.slots : RecordKind → List Slot
  | .project =>
    [⟨"config", .record .config, false, fun node => Config.ofNode node = .ok {}⟩,
     ⟨"sprites", .records .sprite, false, (· = .array .done)⟩]
  | .config =>
    [⟨"frame_interval_ms", .scalar, false, (Node.readNat UInt64.size · = .ok 16)⟩,
     ⟨"move_frames", .scalar, false, (Node.readNat UInt32.size · = .ok 20)⟩,
     ⟨"turn_frames", .scalar, false, (Node.readNat UInt32.size · = .ok 15)⟩,
     ⟨"sprite_spacing", .scalar, false, (Node.readFloat · = .ok 120)⟩,
     ⟨"event_capacity", .scalar, false, (Node.readNat UInt64.size · = .ok 1024)⟩,
     ⟨"swap_distance", .scalar, false, (· = .null)⟩]
  | .sprite =>
    [⟨"name", .scalar, true, (· = .null)⟩,
     ⟨"x", .scalar, true, (· = .null)⟩,
     ⟨"y", .scalar, true, (· = .null)⟩,
     ⟨"direction", .scalar, false, (Node.readFloat · = .ok 90)⟩,
     ⟨"blocks", .records .block, false, (· = .array .done)⟩]
  | .block =>
    [⟨"type", .scalar, true, fun _ => False⟩,
     ⟨"args", .arguments, false, (· = .object .done)⟩]

/-- An object with these members. -/
def object (members : List (Text × Node)) : Node := .object (Members.ofList members)

/-- An array of these items. -/
def array (items : List Node) : Node := .array (Items.ofList items)

/-- One value spells the same as another. -/
inductive Respells : Shape → Node → Node → Prop where
  | refl (shape : Shape) (node : Node) : Respells shape node node
  | symm {shape : Shape} {node other : Node} : Respells shape node other → Respells shape other node
  | trans {shape : Shape} {node other further : Node} :
      Respells shape node other → Respells shape other further → Respells shape node further
  /-- The members of a record may stand in any order. -/
  | permuted {kind : RecordKind} {members others : List (Text × Node)} :
      members.Perm others → Respells (.record kind) (object members) (object others)
  /-- A record may have members with other names, and any values. -/
  | unknown {kind : RecordKind} {members : List (Text × Node)} {key : Text} {name : String} {value : Node} :
      key.decode = .ok name → name ∉ kind.slots.map Slot.name →
        (∃ bytes, Node.WrittenAlone bytes value) →
          Respells (.record kind) (object members) (object ((key, value) :: members))
  /-- A field that is not there may as well have a value that says the same. -/
  | written {kind : RecordKind} {members : List (Text × Node)} {slot : Slot} {key : Text} {value : Node} :
      slot ∈ kind.slots → key.decode = .ok slot.name → slot.Omissible value →
        (∀ member ∈ members, member.1.decode ≠ .ok slot.name) →
          Respells (.record kind) (object members) (object ((key, value) :: members))
  /-- An object of the fields in their order may be the array of their values. -/
  | array {kind : RecordKind} {members : List (Text × Node)} :
      (members.map fun member => member.1.decode) =
        (kind.slots.take members.length).map (fun slot => .ok slot.name) →
      (∀ slot ∈ kind.slots.drop members.length, slot.needed = false) →
        Respells (.record kind) (object members) (array (members.map Prod.snd))
  /-- The value of a field may be spelled in another way. -/
  | member {kind : RecordKind} {members : List (Text × Node)} {slot : Slot} {key : Text}
      {value other : Node} :
      slot ∈ kind.slots → key.decode = .ok slot.name → Respells slot.shape value other →
        Respells (.record kind) (object ((key, value) :: members)) (object ((key, other) :: members))
  /-- A record in an array of records may be spelled in another way. -/
  | item {kind : RecordKind} {before after : List Node} {value other : Node} :
      Respells (.record kind) value other →
        Respells (.records kind) (SpriteStage.array (before ++ value :: after))
          (SpriteStage.array (before ++ other :: after))
  /-- Named values may stand in any order in which those of one name keep theirs. -/
  | arguments {members others : List (Text × Node)} :
      members.Perm others →
      (∀ name, (members.filter fun member => member.1.decode = .ok name) =
        others.filter fun member => member.1.decode = .ok name) →
        Respells .arguments (object members) (object others)

/-- What a record is read as. -/
def RecordKind.Data : RecordKind → Type
  | .project => Project
  | .config => Config
  | .sprite => SpriteDefinition
  | .block => BlockDefinition

/-- How a record is read. -/
def RecordKind.reader : (kind : RecordKind) → (depth : Nat) → RecordReader kind.Data
  | .project, depth => ProjectDraft.reader depth
  | .config, _ => ConfigDraft.reader
  | .sprite, depth => SpriteDraft.reader depth
  | .block, depth => BlockDraft.reader depth

/-- A value that a field can have, or that is refused for nothing but its shape. -/
def RecordKind.Takes (kind : RecordKind) (name : String) (value : Node) : Prop :=
  ∀ depth, ∀ field ∈ (kind.reader depth).fields, field.name = name →
    ∀ {draft fault}, field.read value draft = .error fault → fault = .mistyped

/-- A value with one more occurrence of a field that it has already, in it or in one of its
records. -/
inductive Doubled : Shape → Node → Node → Prop where
  /-- The field comes up again, with any value. -/
  | again {kind : RecordKind} {before after : List (Text × Node)} {slot : Slot} {member : Text × Node}
      {key : Text} {value : Node} :
      slot ∈ kind.slots → member ∈ before → member.1.decode = .ok slot.name →
        key.decode = .ok slot.name →
          Doubled (.record kind) (object (before ++ after)) (object (before ++ (key, value) :: after))
  /-- The field comes up earlier than before, with a value of its own. -/
  | sooner {kind : RecordKind} {before after : List (Text × Node)} {slot : Slot} {member : Text × Node}
      {key : Text} {value : Node} :
      slot ∈ kind.slots → member ∈ after → member.1.decode = .ok slot.name →
        key.decode = .ok slot.name → kind.Takes slot.name value →
          Doubled (.record kind) (object (before ++ after)) (object (before ++ (key, value) :: after))
  | member {kind : RecordKind} {before after : List (Text × Node)} {slot : Slot} {key : Text}
      {value other : Node} :
      slot ∈ kind.slots → key.decode = .ok slot.name → Doubled slot.shape value other →
        Doubled (.record kind) (object (before ++ (key, value) :: after))
          (object (before ++ (key, other) :: after))
  | element {kind : RecordKind} {before after : List Node} {slot : Slot} {value other : Node} :
      kind.slots[before.length]? = some slot → Doubled slot.shape value other →
        Doubled (.record kind) (array (before ++ value :: after)) (array (before ++ other :: after))
  | item {kind : RecordKind} {before after : List Node} {value other : Node} :
      Doubled (.record kind) value other →
        Doubled (.records kind) (array (before ++ value :: after)) (array (before ++ other :: after))

/-! ## What is meant -/

/-- What a block means: its type, and the value of every argument. -/
def BlockDefinition.meaning (block : BlockDefinition) : Opcode × (String → Option Value) :=
  (block.opcode, block.arguments.get?)

/-- What a sprite means: everything that is known of it, with what its blocks mean. -/
def SpriteDefinition.meaning (sprite : SpriteDefinition) :
    Option String × Option Float × Option Float × Float × List (Opcode × (String → Option Value)) :=
  (sprite.name, sprite.x, sprite.y, sprite.direction, sprite.blocks.map BlockDefinition.meaning)

/-- What a project means: its configuration, and what its sprites mean. -/
def Project.meaning (project : Project) :
    Config × List (Option String × Option Float × Option Float × Float ×
      List (Opcode × (String → Option Value))) :=
  (project.config, project.sprites.map SpriteDefinition.meaning)

/-- Records that mean the same. -/
def RecordKind.Same : (kind : RecordKind) → kind.Data → kind.Data → Prop
  | .project => fun (project other : Project) => project.meaning = other.meaning
  | .config => fun (config other : Config) => config = other
  | .sprite => fun (sprite other : SpriteDefinition) => sprite.meaning = other.meaning
  | .block => fun (block other : BlockDefinition) => block.meaning = other.meaning

theorem RecordKind.Same.refl (kind : RecordKind) (value : kind.Data) : kind.Same value value := by
  cases kind <;> exact rfl

theorem RecordKind.Same.symm {kind : RecordKind} {value other : kind.Data}
    (same : kind.Same value other) : kind.Same other value := by
  cases kind <;> exact Eq.symm same

theorem RecordKind.Same.trans {kind : RecordKind} {value other further : kind.Data}
    (same : kind.Same value other) (sameOn : kind.Same other further) : kind.Same value further := by
  cases kind <;> exact Eq.trans same sameOn

/-! ## Lists of records -/

/-- Arrays of values that agree, one by one. -/
theorem readAll_agree {read : Node → Except Fault α} {same : α → α → Prop}
    (refl : ∀ value, same value value) {value other : Node} (agree : Agree same (read value) (read other))
    (before after : List Node) :
    Agree (List.Forall₂ same) ((array (before ++ value :: after)).readList read)
      ((array (before ++ other :: after)).readList read) := by
  have reflList : ∀ values, List.Forall₂ same values values := fun values =>
    List.forall₂_same.mpr fun value _ => refl value
  induction before with
  | nil =>
      refine Agree.bind_of agree ?_
      intro first second here
      exact .bind fun others _ => .cons here (reflList others)
  | cons head before more =>
      refine .bind fun first _ => ?_
      exact more.bind_of fun others => .cons (refl first) others

/-- An array is refused if one of its values is. -/
theorem readAll_refuses {read : Node → Except Fault α} {value other : Node} {fault : Fault}
    (refuses : ∀ result, read value = .ok result → read other = .error fault) {before after : List Node}
    {results : List α} (reads : (array (before ++ value :: after)).readList read = .ok results) :
    (array (before ++ other :: after)).readList read = .error fault := by
  induction before generalizing results with
  | nil =>
      obtain ⟨first, taken, _⟩ := bind_eq_ok.mp reads
      show read other >>= _ = _
      rw [refuses first taken]
      rfl
  | cons head before more =>
      obtain ⟨first, taken, reads⟩ := bind_eq_ok.mp reads
      obtain ⟨others, reads, _⟩ := bind_eq_ok.mp reads
      have fails : (Items.ofList (before ++ other :: after)).readAll read = .error fault := more reads
      show read head >>= _ = _
      rw [taken]
      show (Items.ofList (before ++ other :: after)).readAll read >>= _ = _
      rw [fails]
      rfl

/-! ## Fields -/

/-- Whether two values of a shape are read alike. -/
def Shape.Agrees : Shape → Node → Node → Prop
  | .scalar, node, other => node = other
  | .arguments, node, other => ∀ depth,
      Agree (fun arguments other => arguments.get? = other.get?) (Arguments.ofNode depth node)
        (Arguments.ofNode depth other)
  | .record kind, node, other => ∀ depth,
      Agree kind.Same ((kind.reader depth).read node) ((kind.reader depth).read other)
  | .records kind, node, other => ∀ depth,
      Agree (List.Forall₂ kind.Same) (node.readList (kind.reader depth).read)
        (other.readList (kind.reader depth).read)

/-- Whether a value is refused for its shape where another can be read. -/
def Shape.Refuses : Shape → Node → Node → Prop
  | .scalar, _, _ => False
  | .arguments, _, _ => False
  | .record kind, node, other => ∀ depth result,
      (kind.reader depth).read node = .ok result → (kind.reader depth).read other = .error .mistyped
  | .records kind, node, other => ∀ depth results,
      node.readList (kind.reader depth).read = .ok results →
        other.readList (kind.reader depth).read = .error .mistyped

/-- A field of a record is read as its slot says. -/
structure Slot.Fits {ρ : Type} (slot : Slot) (reader : RecordReader ρ) (same : ρ → ρ → Prop)
    (field : RecordField reader.Draft) : Prop where
  name : slot.name = field.name
  needed : slot.needed = field.needed
  agrees : ∀ {value other}, slot.shape.Agrees value other → ∀ draft,
    Agree same (field.read value draft >>= reader.finish) (field.read other draft >>= reader.finish)
  omits : ∀ {value}, slot.Omissible value → ∀ draft, field.isSet draft = false →
    Agree same (field.read value draft >>= reader.finish) (reader.finish draft)
  refuses : ∀ {value other}, slot.shape.Refuses value other → ∀ {draft next},
    field.read value draft = .ok next → field.read other draft = .error .mistyped

section Fits

variable {ρ α : Type} {slot : Slot} {reader : RecordReader ρ} {same : ρ → ρ → Prop}
  {field : RecordField reader.Draft} {parse : Node → Except Fault α}
  {put : α → reader.Draft → reader.Draft}

/-- A field that puts what it reads into its place fits if what it reads does. -/
theorem Slot.Fits.of_puts (puts : RecordReader.Puts field parse put) (refl : ∀ value, same value value)
    (name : slot.name = field.name) (needed : slot.needed = field.needed) {alike : α → α → Prop}
    (agrees : ∀ {value other}, slot.shape.Agrees value other → Agree alike (parse value) (parse other))
    (keeps : ∀ {a b}, alike a b → ∀ draft,
      Agree same (reader.finish (put a draft)) (reader.finish (put b draft)))
    (refuses : ∀ {value other}, slot.shape.Refuses value other → ∀ a, parse value = .ok a →
      parse other = .error .mistyped)
    (omits : ∀ {value}, slot.Omissible value → ∃ a, parse value = .ok a ∧ ∀ draft,
      field.isSet draft = false → reader.finish (put a draft) = reader.finish draft) :
    slot.Fits reader same field where
  name := name
  needed := needed
  agrees := by
    intro value other agree draft
    rw [puts.reads, puts.reads]
    refine (Agree.bind_of (agrees agree) ?_ : Agree (fun early late =>
      Agree same (reader.finish early) (reader.finish late)) _ _).bind_of id
    exact fun here => keeps here draft
  omits := by
    intro value omissible draft unset
    obtain ⟨a, parses, unchanged⟩ := omits omissible
    refine .of_eq refl ?_
    rw [puts.reads, parses]
    exact unchanged draft unset
  refuses := by
    intro value other refuse draft next taken
    rw [puts.reads] at taken ⊢
    obtain ⟨a, parses, _⟩ := bind_eq_ok.mp taken
    rw [refuses refuse a parses]
    rfl

/-- A field with a scalar value. -/
theorem Slot.Fits.of_scalar (puts : RecordReader.Puts field parse put)
    (refl : ∀ value, same value value)
    (name : slot.name = field.name) (needed : slot.needed = field.needed) (shape : slot.shape = .scalar)
    (omits : ∀ {value}, slot.Omissible value → ∃ a, parse value = .ok a ∧ ∀ draft,
      field.isSet draft = false → reader.finish (put a draft) = reader.finish draft) :
    slot.Fits reader same field := by
  refine @of_puts _ _ _ _ _ _ _ _ puts refl name needed (· = ·) ?_ ?_ ?_ omits
  · intro value other agree
    rw [shape] at agree
    exact .of_eq (fun _ => rfl) (congrArg parse agree)
  · rintro a _ rfl draft
    exact .of_eq refl rfl
  · intro value other refuse
    rw [shape] at refuse
    exact refuse.elim

end Fits

/-- A place that is not set is empty. -/
theorem eq_none_of_unset {place : Option α} (unset : place.isSome = false) : place = none := by
  simpa using unset

theorem ConfigDraft.fits : List.Forall₂
    (fun slot field => slot.Fits ConfigDraft.reader RecordKind.config.Same field)
    RecordKind.config.slots ConfigDraft.fields := by
  have refl := RecordKind.Same.refl .config
  refine .cons ?_ (.cons ?_ (.cons ?_ (.cons ?_ (.cons ?_ (.cons ?_ .nil)))))
  iterate 5
    · refine .of_scalar ⟨fun _ _ => rfl, fun _ _ => rfl⟩ refl rfl rfl rfl fun default => ⟨_, default, ?_⟩
      intro draft unset
      simp only [reader, finish, eq_none_of_unset unset]
      rfl
  · refine .of_scalar ⟨fun _ _ => rfl, fun _ _ => rfl⟩ refl rfl rfl rfl ?_
    rintro _ rfl
    refine ⟨none, rfl, fun draft unset => ?_⟩
    simp only [reader, finish, eq_none_of_unset unset]
    rfl

/-- Lists are the same under a function if their values are, one by one. -/
theorem map_eq_of_forall₂ {view : α → β} {values others : List α}
    (same : List.Forall₂ (fun value other => view value = view other) values others) :
    values.map view = others.map view := by
  rw [← List.forall₂_eq_eq_eq, List.forall₂_map_left_iff, List.forall₂_map_right_iff]
  exact same

theorem BlockDraft.fits (depth : Nat) : List.Forall₂
    (fun slot field => slot.Fits (BlockDraft.reader depth) RecordKind.block.Same field)
    RecordKind.block.slots (BlockDraft.fields (depth - 1)) := by
  have refl := RecordKind.Same.refl .block
  refine .cons ?_ (.cons ?_ .nil)
  · exact .of_scalar ⟨fun _ _ => rfl, fun _ _ => rfl⟩ refl rfl rfl rfl False.elim
  · refine .of_puts ⟨fun _ _ => rfl, fun _ _ => rfl⟩ refl rfl rfl (fun agree => agree _) ?_
      (fun refuse => refuse.elim) ?_
    · rintro arguments other here ⟨opcode, given⟩
      cases opcode with
      | none => trivial
      | some opcode => exact congrArg (Prod.mk opcode) here
    · rintro _ rfl
      refine ⟨.empty, rfl, fun draft unset => ?_⟩
      simp only [reader, finish, eq_none_of_unset unset]
      rfl

theorem SpriteDraft.fits (depth : Nat) : List.Forall₂
    (fun slot field => slot.Fits (SpriteDraft.reader depth) RecordKind.sprite.Same field)
    RecordKind.sprite.slots (SpriteDraft.fields (depth - 1)) := by
  have refl := RecordKind.Same.refl .sprite
  refine .cons ?_ (.cons ?_ (.cons ?_ (.cons ?_ (.cons ?_ .nil))))
  iterate 3
    · refine .of_scalar ⟨fun _ _ => rfl, fun _ _ => rfl⟩ refl rfl rfl rfl ?_
      rintro _ rfl
      refine ⟨none, rfl, fun draft unset => ?_⟩
      simp only [reader, finish, eq_none_of_unset unset]
      rfl
  · refine .of_scalar ⟨fun _ _ => rfl, fun _ _ => rfl⟩ refl rfl rfl rfl fun default => ⟨_, default, ?_⟩
    intro draft unset
    simp only [reader, finish, eq_none_of_unset unset]
    rfl
  · refine .of_puts ⟨fun _ _ => rfl, fun _ _ => rfl⟩ refl rfl rfl (fun agree => agree _) ?_
      (fun refuse => refuse _) ?_
    · intro blocks others here draft
      have blocksMean : blocks.map BlockDefinition.meaning = others.map BlockDefinition.meaning :=
        map_eq_of_forall₂ here
      show SpriteDefinition.meaning _ = SpriteDefinition.meaning _
      simp only [SpriteDefinition.meaning, finish, Option.getD_some]
      rw [blocksMean]
    · rintro _ rfl
      refine ⟨[], rfl, fun draft unset => ?_⟩
      simp only [reader, finish, eq_none_of_unset unset]
      rfl

theorem ProjectDraft.fits (depth : Nat) : List.Forall₂
    (fun slot field => slot.Fits (ProjectDraft.reader depth) RecordKind.project.Same field)
    RecordKind.project.slots (ProjectDraft.fields (depth - 1)) := by
  have refl := RecordKind.Same.refl .project
  refine .cons ?_ (.cons ?_ .nil)
  · refine @Slot.Fits.of_puts _ _ _ _ _ _ _ _ ⟨fun _ _ => rfl, fun _ _ => rfl⟩ refl rfl rfl (· = ·)
      (fun {value other} agree => ?_) ?_ (fun {value other} refuse => ?_) fun default => ⟨_, default, ?_⟩
    · rw [Config.ofNode_eq, Config.ofNode_eq]
      exact agree 0
    · rintro config _ rfl draft
      exact .of_eq refl rfl
    · rw [Config.ofNode_eq, Config.ofNode_eq]
      exact refuse 0
    · intro draft unset
      simp only [reader, finish, eq_none_of_unset unset]
      rfl
  · refine .of_puts ⟨fun _ _ => rfl, fun _ _ => rfl⟩ refl rfl rfl (fun agree => agree _) ?_
      (fun refuse => refuse _) ?_
    · intro sprites others here draft
      have spritesMean : sprites.map SpriteDefinition.meaning = others.map SpriteDefinition.meaning :=
        map_eq_of_forall₂ here
      show Project.meaning _ = Project.meaning _
      simp only [Project.meaning, finish, Option.getD_some]
      rw [spritesMean]
    · rintro _ rfl
      refine ⟨[], rfl, fun draft unset => ?_⟩
      simp only [reader, finish, eq_none_of_unset unset]
      rfl

namespace RecordKind

variable (kind : RecordKind) (depth : Nat)

theorem lawful : (kind.reader depth).Lawful :=
  match kind with
  | .project => ProjectDraft.lawful depth
  | .config => ConfigDraft.lawful
  | .sprite => SpriteDraft.lawful depth
  | .block => BlockDraft.lawful depth

theorem fits : List.Forall₂ (fun slot field => slot.Fits (kind.reader depth) kind.Same field) kind.slots
    (kind.reader depth).fields :=
  match kind with
  | .project => ProjectDraft.fits depth
  | .config => ConfigDraft.fits
  | .sprite => SpriteDraft.fits depth
  | .block => BlockDraft.fits depth

theorem names_eq : kind.slots.map Slot.name = (kind.reader depth).fields.map RecordField.name := by
  rw [← List.forall₂_eq_eq_eq, List.forall₂_map_left_iff, List.forall₂_map_right_iff]
  exact (kind.fits depth).imp fun _ _ fits => fits.name

theorem needed_eq : kind.slots.map Slot.needed = (kind.reader depth).fields.map RecordField.needed := by
  rw [← List.forall₂_eq_eq_eq, List.forall₂_map_left_iff, List.forall₂_map_right_iff]
  exact (kind.fits depth).imp fun _ _ fits => fits.needed

variable {kind}

/-- Every slot has its field. -/
theorem exists_field {slot : Slot} (member : slot ∈ kind.slots) {key : Text}
    (decodes : key.decode = .ok slot.name) :
    ∃ field, (kind.reader depth).field? key = some field ∧
      slot.Fits (kind.reader depth) kind.Same field := by
  obtain ⟨place, here⟩ := List.mem_iff_getElem.mp member
  obtain ⟨within, rfl⟩ := here
  have fits := (kind.fits depth).get within ((kind.fits depth).length_eq ▸ within)
  refine ⟨_, (kind.lawful depth).field?_of_decode (List.getElem_mem _) ?_, fits⟩
  rw [decodes]
  exact congrArg _ fits.name

/-- A key of another name has no field. -/
theorem field?_eq_none {key : Text} {name : String} (decodes : key.decode = .ok name)
    (unknown : name ∉ kind.slots.map Slot.name) : (kind.reader depth).field? key = none := by
  cases asked : (kind.reader depth).field? key with
  | none => rfl
  | some field =>
      have named := RecordReader.decode_of_field? asked
      rw [decodes] at named
      cases named
      rw [kind.names_eq depth] at unknown
      exact absurd (List.mem_map_of_mem (RecordReader.mem_of_field? asked)) unknown

/-- Keys of the first slots are keys of the first fields. -/
theorem fields_of_keys {members : List (Text × Node)}
    (keys : (members.map fun member => member.1.decode) =
      (kind.slots.take members.length).map fun slot => .ok slot.name) :
    (members.map fun member => (kind.reader depth).field? member.1) =
      ((kind.reader depth).fields.take members.length).map some := by
  have names : (kind.slots.take members.length).map Slot.name =
      ((kind.reader depth).fields.take members.length).map RecordField.name := by
    rw [List.map_take, List.map_take, kind.names_eq depth]
  calc (members.map fun member => (kind.reader depth).field? member.1)
      = (members.map fun member => member.1.decode).map (kind.reader depth).named? := by
        rw [List.map_map]
        rfl
    _ = ((kind.slots.take members.length).map Slot.name).map
          fun name => (kind.reader depth).named? (.ok name) := by
        rw [keys, List.map_map, List.map_map]
        rfl
    _ = ((kind.reader depth).fields.take members.length).map some := by
        rw [names, List.map_map]
        exact List.map_congr_left fun field member =>
          (kind.lawful depth).find?_name (List.mem_of_mem_take member)

/-- Where no slot needs a value, neither does a field. -/
theorem free_of_slots {length : Nat} (free : ∀ slot ∈ kind.slots.drop length, slot.needed = false) :
    ∀ field ∈ (kind.reader depth).fields.drop length, field.needed = false := by
  intro field member
  have needed := congrArg (List.drop length) (kind.needed_eq depth)
  rw [← List.map_drop, ← List.map_drop] at needed
  have place : field.needed ∈ (kind.slots.drop length).map Slot.needed := by
    rw [needed]
    exact List.mem_map_of_mem member
  obtain ⟨slot, inside, same⟩ := List.mem_map.mp place
  rw [← same]
  exact free slot inside

end RecordKind

theorem forall₂_trans {same : α → α → Prop}
    (trans : ∀ ⦃value other further⦄, same value other → same other further → same value further)
    {values others furthers : List α} :
    List.Forall₂ same values others → List.Forall₂ same others furthers → List.Forall₂ same values furthers
  | .nil, .nil => .nil
  | .cons first rest, .cons second restOn => .cons (trans first second) (forall₂_trans trans rest restOn)

theorem Shape.Agrees.refl (shape : Shape) (node : Node) : shape.Agrees node node :=
  match shape with
  | .scalar => rfl
  | .arguments => fun _ => .of_eq (fun _ => rfl) rfl
  | .record kind => fun _ => .of_eq (.refl kind) rfl
  | .records kind => fun _ => .of_eq (fun _ => List.forall₂_same.mpr fun _ _ => .refl kind _) rfl

/-- One spelling is read like another. -/
theorem Respells.agrees {shape : Shape} {node other : Node} (respells : Respells shape node other) :
    shape.Agrees node other := by
  induction respells with
  | refl shape node => exact .refl shape node
  | @symm shape _ _ _ agree =>
      cases shape with
      | scalar => exact Eq.symm agree
      | arguments => exact fun depth => (agree depth).symm fun _ _ => Eq.symm
      | record kind => exact fun depth => (agree depth).symm fun _ _ => RecordKind.Same.symm
      | records kind =>
          exact fun depth => (agree depth).symm fun _ _ same =>
            (same.imp fun _ _ => RecordKind.Same.symm).flip
  | @trans shape _ _ _ _ _ agree agreesOn =>
      cases shape with
      | scalar => exact Eq.trans agree agreesOn
      | arguments => exact fun depth => (agree depth).trans (agreesOn depth) fun _ _ _ => Eq.trans
      | record kind => exact fun depth => (agree depth).trans (agreesOn depth) fun _ _ _ => RecordKind.Same.trans
      | records kind =>
          exact fun depth => (agree depth).trans (agreesOn depth) fun _ _ _ =>
            forall₂_trans fun _ _ _ => RecordKind.Same.trans
  | @permuted kind _ _ perm => exact fun depth => (kind.lawful depth).agree_perm (.refl kind) perm
  | @unknown kind members key name value decodes unknown written =>
      intro depth
      obtain ⟨bytes, alone⟩ := written
      refine .of_eq (.refl kind) (Eq.symm ?_)
      exact RecordReader.read_unknown (RecordKind.field?_eq_none depth decodes unknown) decodes alone.skips
        members
  | @written kind members slot key value member decodes omissible absent =>
      intro depth
      obtain ⟨field, known, fits⟩ := RecordKind.exists_field depth member decodes
      refine ((kind.lawful depth).agree_written known (fits.omits omissible) ?_).symm fun _ _ => .symm
      intro other inside asked
      apply absent other inside
      rw [RecordReader.decode_of_field? asked, fits.name]
  | @array kind members keys free =>
      intro depth
      exact (kind.lawful depth).agree_array (.refl kind) (RecordKind.fields_of_keys depth keys)
        (RecordKind.free_of_slots depth free)
  | @member kind members slot key value other member decodes _ agree =>
      intro depth
      obtain ⟨field, known, fits⟩ := RecordKind.exists_field depth member decodes
      exact (kind.lawful depth).agree_member known (fits.agrees agree) members
  | @item kind before after value other _ agree =>
      exact fun depth => readAll_agree (.refl kind) (agree depth) before after
  | arguments perm inOrder => exact fun depth => Arguments.agree_of_perm depth perm inOrder

/-- What is doubled is refused for its shape. -/
theorem Doubled.refuses {shape : Shape} {node other : Node} (doubled : Doubled shape node other) :
    shape.Refuses node other := by
  induction doubled with
  | @again kind before after slot member key value place inside earlier decodes =>
      intro depth result reads
      obtain ⟨field, known, fits⟩ := RecordKind.exists_field depth place decodes
      rw [fits.name] at earlier
      exact (kind.lawful depth).refuses_again reads inside
        ((kind.lawful depth).field?_of_decode (RecordReader.mem_of_field? known) earlier) known value
  | @sooner kind before after slot member key value place inside later decodes takes =>
      intro depth result reads
      obtain ⟨field, known, fits⟩ := RecordKind.exists_field depth place decodes
      rw [fits.name] at later
      exact (kind.lawful depth).refuses_sooner reads inside
        ((kind.lawful depth).field?_of_decode (RecordReader.mem_of_field? known) later) known
        (takes depth field (RecordReader.mem_of_field? known) fits.name.symm)
  | @member kind before after slot key value other place decodes _ refuse =>
      intro depth result reads
      obtain ⟨field, known, fits⟩ := RecordKind.exists_field depth place decodes
      exact RecordReader.read_refuses_member reads known (fits.refuses refuse)
  | @element kind before after slot value other place _ refuse =>
      intro depth result reads
      obtain ⟨within, rfl⟩ := List.getElem?_eq_some_iff.mp place
      have fits := (kind.fits depth).get within ((kind.fits depth).length_eq ▸ within)
      exact RecordReader.read_refuses_element reads (List.getElem?_eq_getElem _) (fits.refuses refuse)
  | @item kind before after value other _ refuse =>
      exact fun depth results reads => readAll_refuses (refuse depth) reads

/-! ## Whole texts -/

/-- A text that is accepted holds one written value. However that value is spelled instead, with
blanks in any places, the text is accepted and means the same project; and if a field comes up in it
twice, the text is refused for its shape. -/
theorem Project.spellings_agree {text : List UInt8} {project : Project}
    (accepts : Project.parse text = .ok project) :
    (∃ node, Node.WrittenAlone text node) ∧ ∀ node, Node.WrittenAlone text node →
      (∀ other spelling, Respells (.record .project) node other → Node.WrittenAlone spelling other →
        ∃ same, Project.parse spelling = .ok same ∧ same.meaning = project.meaning) ∧
      (∀ other spelling, Doubled (.record .project) node other → Node.WrittenAlone spelling other →
        Project.parse spelling = .error .mistyped) := by
  refine ⟨writtenAlone_of_readDocument Project.ofNode_whole accepts, ?_⟩
  intro node alone
  have reads : (ProjectDraft.reader depthLimit).read node = .ok project := by
    rw [← Project.ofNode_eq, ← alone.readDocument_eq Project.ofNode]
    exact accepts
  constructor
  · intro other spelling respells written
    obtain ⟨same, readsOther, means⟩ := (respells.agrees depthLimit).ok reads
    refine ⟨same, ?_, means.symm⟩
    rw [Project.parse, written.readDocument_eq, Project.ofNode_eq]
    exact readsOther
  · intro other spelling doubled written
    rw [Project.parse, written.readDocument_eq, Project.ofNode_eq]
    exact doubled.refuses depthLimit project reads

/-- A sprite may as well say that its first coordinate is unknown, beside a member that nobody asked
for; two lists of sprites are too many. -/
theorem Project.spellings_agree_sprite :
    let text := r#"{"sprites":[{}]}"#.toUTF8.toList
    let spelling := (r#"{ "hue":[1],"#.toUTF8.toList ++ "\n".toUTF8.toList
      ++ r#" "sprites": [ {"x": null} ] }"#.toUTF8.toList)
    let doubled := r#"{"sprites":[{}],"sprites":true}"#.toUTF8.toList
    ∃ project, Project.parse text = .ok project ∧
      (∃ same, Project.parse spelling = .ok same ∧ same.meaning = project.meaning) ∧
        Project.parse doubled = .error .mistyped := by
  intro text spelling doubled
  let key (name : String) : Text := ⟨name.toUTF8.toList.map .plain, none⟩
  let one : Node := .number ⟨⟨false, 1, 0⟩, true⟩
  let bare := (key "sprites", array [object []])
  have alone : Node.WrittenAlone text (object [bare]) :=
    writtenAlone_of_scan (by with_unfolding_all rfl) rfl
  have accepts : Project.parse text = .ok { sprites := [⟨none, none, none, 90, []⟩] } := by
    decide +kernel
  obtain ⟨-, spellings⟩ := Project.spellings_agree accepts
  obtain ⟨agrees, refuses⟩ := spellings _ alone
  refine ⟨_, accepts, agrees (object [(key "hue", array [one]),
    (key "sprites", array [object [(key "x", .null)]])]) spelling ?_ ?_, ?_⟩
  · have coordinate : (⟨"x", .scalar, true, (· = .null)⟩ : Slot) ∈ RecordKind.sprite.slots :=
      .tail _ (.head _)
    have sprite : Respells (.record .sprite) (object []) (object [(key "x", .null)]) :=
      .written coordinate (by decide +kernel) rfl nofun
    have sprites : Respells (.records .sprite) (array [object []]) (array [object [(key "x", .null)]]) :=
      @Respells.item .sprite [] [] _ _ sprite
    have given : Respells (.record .project) (object [bare])
        (object [(key "sprites", array [object [(key "x", .null)]])]) :=
      .member (.tail _ (.head _)) (by decide +kernel) sprites
    have hue : (key "hue").decode = .ok "hue" := by decide +kernel
    exact given.trans (.unknown hue (by decide) ⟨"[1]".toUTF8.toList, writtenAlone_of_scan
      (by with_unfolding_all rfl) rfl⟩)
  · exact writtenAlone_of_scan (by with_unfolding_all rfl) rfl
  · refine refuses (object [bare, (key "sprites", .bool true)]) doubled ?_ ?_
    · have again : (key "sprites").decode = .ok "sprites" := by decide +kernel
      exact @Doubled.again .project [bare] [] _ bare _ _ (.tail _ (.head _)) (.head _) again again
    · exact writtenAlone_of_scan (by with_unfolding_all rfl) rfl

end SpriteStage
