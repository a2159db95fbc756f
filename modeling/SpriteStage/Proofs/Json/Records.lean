/-
Module: SpriteStage.Proofs.Json.Records
Purpose: Records without their order. The fields of a record are apart from each other: each has a place of its
  own in the draft and is read in the same way whatever stands in the other places. So what a record
  comes to is what its fields come to when they are filled in any order, and an object and an array
  of the same values come to the same. Members that nobody asked for do not matter, and a field
  that comes up again is a mistake in the shape of the text.
Main exports: Members.ofList, Items.ofList, fill, RecordReader, RecordReader.Lawful,
  RecordReader.read_object, RecordReader.read_array, RecordReader.outcome_perm
-/
import Mathlib.Control.Monad.Basic
import Mathlib.Data.List.Nodup
import Mathlib.Data.List.Pairwise
import SpriteStage.Proofs.Json.Recovery

namespace SpriteStage.Json

/-! ## Items and members as lists -/

/-- The items of an array that is written to its end. -/
def Items.ofList : List Node → Items
  | [] => .done
  | value :: rest => .item value (Items.ofList rest)

/-- The members of an object that is written to its end. -/
def Members.ofList : List (Text × Node) → Members
  | [] => .done
  | (key, value) :: rest => .member key value (Members.ofList rest)

/-! ## Results that agree -/

/-- Two results that agree: they are both values, and the same ones, or both faults. -/
def Agree (same : α → α → Prop) (first second : Except Fault α) : Prop :=
  match first, second with
  | .ok value, .ok other => same value other
  | .error _, .error _ => True
  | .ok _, .error _ => False
  | .error _, .ok _ => False

namespace Agree

variable {same : α → α → Prop} {first second third : Except Fault α}

theorem of_eq (refl : ∀ value, same value value) (equal : first = second) : Agree same first second := by
  subst equal
  cases first with
  | ok value => exact refl value
  | error fault => trivial

protected theorem symm (symm : ∀ ⦃value other⦄, same value other → same other value)
    (agree : Agree same first second) : Agree same second first := by
  cases first <;> cases second <;> first | exact symm agree | exact agree

theorem trans {further whole : α → α → Prop}
    (agree : Agree same first second) (agreesOn : Agree further second third)
    (trans : ∀ ⦃value other last⦄, same value other → further other last → whole value last) :
    Agree whole first third := by
  cases first <;> cases second <;> cases third <;> first | exact trans agree agreesOn | trivial

/-- Results that agree, each with an equal value in its place. -/
theorem between {early late : Except Fault α} (before : Agree (· = ·) first early)
    (agree : Agree same early late) (behind : Agree (· = ·) late second) : Agree same first second :=
  have joined : Agree same first late := before.trans agree fun | _, _, _, rfl, agree => agree
  joined.trans behind fun | _, _, _, agree, rfl => agree

theorem ok {value : α} (agree : Agree same first second) (accepts : first = .ok value) :
    ∃ other, second = .ok other ∧ same value other := by
  subst accepts
  cases second with
  | ok other => exact ⟨other, rfl, agree⟩
  | error fault => exact agree.elim

/-- Results agree if either is a value as soon as the other is one. -/
theorem of_ok (forth : ∀ value, first = .ok value → ∃ other, second = .ok other ∧ same value other)
    (back : ∀ other, second = .ok other → ∃ value, first = .ok value) : Agree same first second := by
  cases first with
  | ok value =>
      obtain ⟨other, rfl, agree⟩ := forth value rfl
      exact agree
  | error fault =>
      cases second with
      | error => trivial
      | ok other =>
          obtain ⟨value, impossible⟩ := back other rfl
          cases impossible

theorem bind {x : Except Fault δ} {next other : δ → Except Fault α}
    (agree : ∀ draft, x = .ok draft → Agree same (next draft) (other draft)) :
    Agree same (x >>= next) (x >>= other) := by
  cases x with
  | ok draft => exact agree draft rfl
  | error fault => trivial

/-- Doing the same to results that agree. -/
theorem bind_of {before : δ → δ → Prop} {x y : Except Fault δ} (agrees : Agree before x y)
    {next other : δ → Except Fault α}
    (keeps : ∀ {draft late}, before draft late → Agree same (next draft) (other late)) :
    Agree same (x >>= next) (y >>= other) := by
  cases x <;> cases y <;> first | exact keeps agrees | trivial

end Agree

/-! ## Filling a draft -/

/-- Fills fields with values, one after another. -/
def fill : List (RecordField δ × Node) → δ → Except Fault δ
  | [], draft => .ok draft
  | (field, value) :: rest, draft => do
    let draft ← field.read value draft
    fill rest draft

theorem fill_append (first second : List (RecordField δ × Node)) (draft : δ) :
    fill (first ++ second) draft = fill first draft >>= fill second := by
  induction first generalizing draft with
  | nil => rfl
  | cons entry first more =>
      obtain ⟨field, value⟩ := entry
      simp only [List.cons_append, fill, more, bind_assoc]

theorem fill_cons_eq_ok {field : RecordField δ} {value : Node} {rest : List (RecordField δ × Node)}
    {draft late : δ} :
    fill ((field, value) :: rest) draft = .ok late ↔
      ∃ next, field.read value draft = .ok next ∧ fill rest next = .ok late := by
  rw [fill]
  exact bind_eq_ok

/-- Two fields with places of their own. What one of them reads leaves the place of the other alone, and it
does not matter which of them is read first. -/
structure RecordField.Apart (field other : RecordField δ) : Prop where
  keeps : ∀ {value draft next}, field.read value draft = .ok next → other.isSet next = other.isSet draft
  swaps : ∀ {value further draft next late}, field.read value draft = .ok next →
    other.read further next = .ok late →
      ∃ early, other.read further draft = .ok early ∧ field.read value early = .ok late

/-- The fields of a record, what is known before any is read, and what becomes of the draft. -/
structure RecordReader (ρ : Type) where
  Draft : Type
  fields : List (RecordField Draft)
  blank : Draft
  finish : Draft → Except Fault ρ

namespace RecordReader

variable {ρ : Type} (reader : RecordReader ρ)

/-- Reads a record in either of its forms. -/
def read (node : Node) : Except Fault ρ := do
  let draft ← node.readRecord reader.fields reader.blank
  reader.finish draft

/-- What the record is if its fields are filled with values. -/
def outcome (values : List (RecordField reader.Draft × Node)) : Except Fault ρ := do
  let draft ← fill values reader.blank
  reader.finish draft

/-- The fields have names and places of their own, and no place is taken at first. -/
structure Lawful : Prop where
  names : (reader.fields.map RecordField.name).Nodup
  unset : ∀ field ∈ reader.fields, field.isSet reader.blank = false
  sets : ∀ field ∈ reader.fields, ∀ {value draft next},
    field.read value draft = .ok next → field.isSet next = true
  alike : ∀ field ∈ reader.fields, ∀ {value draft next}, field.read value draft = .ok next →
    ∀ other, ∃ late, field.read value other = .ok late
  apart : ∀ field ∈ reader.fields, ∀ other ∈ reader.fields, field.name ≠ other.name → field.Apart other

variable {reader}

/-- A field that reads a value of its own kind and puts it into a place of its own. -/
structure Puts {δ α : Type} (field : RecordField δ) (parse : Node → Except Fault α) (put : α → δ → δ) :
    Prop where
  reads : ∀ value draft, field.read value draft = parse value >>= fun a => .ok (put a draft)
  sets : ∀ a draft, field.isSet (put a draft) = true

theorem Puts.apart {δ α β : Type} {field other : RecordField δ} {parse : Node → Except Fault α}
    {parseOther : Node → Except Fault β} {put : α → δ → δ} {putOther : β → δ → δ}
    (puts : Puts field parse put) (putsOther : Puts other parseOther putOther)
    (keeps : ∀ a draft, other.isSet (put a draft) = other.isSet draft)
    (commute : ∀ a b draft, putOther b (put a draft) = put a (putOther b draft)) :
    field.Apart other := by
  constructor
  · intro value draft next taken
    rw [puts.reads] at taken
    obtain ⟨a, _, same⟩ := bind_eq_ok.mp taken
    cases same
    exact keeps a draft
  · intro value further draft next late taken takenOther
    rw [puts.reads] at taken
    obtain ⟨a, parses, same⟩ := bind_eq_ok.mp taken
    cases same
    rw [putsOther.reads] at takenOther
    obtain ⟨b, parsesOther, same⟩ := bind_eq_ok.mp takenOther
    cases same
    refine ⟨putOther b draft, ?_, ?_⟩
    · rw [putsOther.reads, parsesOther]
      rfl
    · rw [puts.reads, parses, commute]
      rfl

theorem Puts.apart_both {δ α β : Type} {field other : RecordField δ} {parse : Node → Except Fault α}
    {parseOther : Node → Except Fault β} {put : α → δ → δ} {putOther : β → δ → δ}
    (puts : Puts field parse put) (putsOther : Puts other parseOther putOther)
    (keeps : ∀ a draft, other.isSet (put a draft) = other.isSet draft)
    (keepsOther : ∀ b draft, field.isSet (putOther b draft) = field.isSet draft)
    (commute : ∀ a b draft, putOther b (put a draft) = put a (putOther b draft)) :
    field.Apart other ∧ other.Apart field :=
  ⟨puts.apart putsOther keeps commute,
    putsOther.apart puts keepsOther fun b a draft => (commute a b draft).symm⟩

/-- Fields that put what they read into different places make up a lawful record. -/
theorem Lawful.of_puts (names : (reader.fields.map RecordField.name).Nodup)
    (unset : ∀ field ∈ reader.fields, field.isSet reader.blank = false)
    (puts : ∀ field ∈ reader.fields, ∃ (α : Type) (parse : Node → Except Fault α)
      (put : α → reader.Draft → reader.Draft), Puts field parse put)
    (apart : reader.fields.Pairwise fun field other => field.Apart other ∧ other.Apart field) :
    reader.Lawful where
  names := names
  unset := unset
  sets := by
    intro field member value draft next taken
    obtain ⟨α, parse, put, puts⟩ := puts field member
    rw [puts.reads] at taken
    obtain ⟨a, _, same⟩ := bind_eq_ok.mp taken
    cases same
    exact puts.sets a draft
  alike := by
    intro field member value draft next taken other
    obtain ⟨α, parse, put, puts⟩ := puts field member
    rw [puts.reads] at taken
    obtain ⟨a, parses, _⟩ := bind_eq_ok.mp taken
    refine ⟨put a other, ?_⟩
    rw [puts.reads, parses]
    rfl
  apart := by
    intro field member other otherMember differs
    have symm : Std.Symm fun field other : RecordField reader.Draft =>
        field.Apart other ∧ other.Apart field := ⟨fun _ _ => And.symm⟩
    have distinct : field ≠ other := fun same => differs (congrArg RecordField.name same)
    exact (apart.forall member otherMember distinct).1

theorem Lawful.eq_of_name_eq (lawful : reader.Lawful) {field other : RecordField reader.Draft}
    (member : field ∈ reader.fields) (otherMember : other ∈ reader.fields)
    (name : field.name = other.name) : field = other :=
  List.inj_on_of_nodup_map lawful.names member otherMember name

theorem Lawful.find?_name (lawful : reader.Lawful) {field : RecordField reader.Draft}
    (member : field ∈ reader.fields) :
    (reader.fields.find? fun other => other.name = field.name) = some field := by
  cases found : reader.fields.find? fun other => other.name = field.name with
  | none => simpa using List.find?_eq_none.mp found field member
  | some other =>
      have name : other.name = field.name := by simpa using List.find?_some found
      rw [lawful.eq_of_name_eq (List.mem_of_find?_eq_some found) member name]

/-! ## Which members are read -/

variable (reader) in
/-- The field with a name, if there is a name. -/
def named? (name : Except Fault String) : Option (RecordField reader.Draft) :=
  match name with
  | .ok name => reader.fields.find? fun field => field.name = name
  | .error _ => none

variable (reader) in
/-- The field that a key is the name of. -/
def field? (key : Text) : Option (RecordField reader.Draft) := reader.named? key.decode

variable (reader) in
/-- The values of the members that are read, each with its field. -/
def entries (members : List (Text × Node)) : List (RecordField reader.Draft × Node) :=
  members.filterMap fun member => (reader.field? member.1).map fun field => (field, member.2)

variable (reader) in
/-- A member with a name, and with a value that can be skipped if nobody asks for it. -/
def Legible (member : Text × Node) : Prop :=
  (∃ name, member.1.decode = .ok name) ∧ (reader.field? member.1 = none → member.2.skip = .ok ())

/-- Fields with different names, none of them set. -/
structure Fresh (values : List (RecordField δ × Node)) (draft : δ) : Prop where
  distinct : (values.map fun entry => entry.1.name).Nodup
  unset : ∀ entry ∈ values, entry.1.isSet draft = false

theorem mem_of_field? {key : Text} {field : RecordField reader.Draft}
    (known : reader.field? key = some field) : field ∈ reader.fields := by
  unfold field? named? at known
  split at known
  · exact List.mem_of_find?_eq_some known
  · cases known

theorem decode_of_field? {key : Text} {field : RecordField reader.Draft}
    (known : reader.field? key = some field) : key.decode = .ok field.name := by
  unfold field? named? at known
  split at known
  · rename_i name decodes
    have same : field.name = name := by simpa using List.find?_some known
    rw [decodes, same]
  · cases known

theorem Lawful.field?_of_decode (lawful : reader.Lawful) {key : Text} {field : RecordField reader.Draft}
    (member : field ∈ reader.fields) (decodes : key.decode = .ok field.name) :
    reader.field? key = some field := by
  simp only [field?, named?, decodes]
  exact lawful.find?_name member

theorem mem_fields_of_entries {members : List (Text × Node)} {entry : RecordField reader.Draft × Node}
    (member : entry ∈ reader.entries members) : entry.1 ∈ reader.fields := by
  obtain ⟨source, _, found⟩ := List.mem_filterMap.mp member
  obtain ⟨field, known, rfl⟩ := Option.map_eq_some_iff.mp found
  exact mem_of_field? known

theorem entries_append (before after : List (Text × Node)) :
    reader.entries (before ++ after) = reader.entries before ++ reader.entries after :=
  List.filterMap_append

theorem entries_known {key : Text} {field : RecordField reader.Draft}
    (known : reader.field? key = some field) (value : Node) (members : List (Text × Node)) :
    reader.entries ((key, value) :: members) = (field, value) :: reader.entries members := by
  simp [entries, known]

theorem entries_unknown {key : Text} (unknown : reader.field? key = none) (value : Node)
    (members : List (Text × Node)) :
    reader.entries ((key, value) :: members) = reader.entries members := by
  simp [entries, unknown]

theorem readFields_known {key : Text} {field : RecordField reader.Draft}
    (known : reader.field? key = some field) (value : Node) (rest : Members) (draft : reader.Draft) :
    (Members.member key value rest).readFields reader.fields draft =
      if field.isSet draft then .error .mistyped
      else field.read value draft >>= rest.readFields reader.fields := by
  have decodes := decode_of_field? known
  simp only [field?, named?, decodes] at known
  simp only [Members.readFields, decodes, Bind.bind, Except.bind, known]

theorem readFields_unknown {key : Text} (unknown : reader.field? key = none) {name : String}
    (decodes : key.decode = .ok name) {value : Node} (skips : value.skip = .ok ()) (rest : Members)
    (draft : reader.Draft) :
    (Members.member key value rest).readFields reader.fields draft =
      rest.readFields reader.fields draft := by
  simp only [field?, named?, decodes] at unknown
  simp only [Members.readFields, decodes, Bind.bind, Except.bind, unknown, skips]

/-- A member that is read is legible. -/
theorem legible_of_readFields {key : Text} {value : Node} {rest : Members} {draft late : reader.Draft}
    (reads : (Members.member key value rest).readFields reader.fields draft = .ok late) :
    reader.Legible (key, value) := by
  simp only [Members.readFields] at reads
  unfold Legible field? named?
  cases decodes : key.decode with
  | error fault => simp [decodes, Bind.bind, Except.bind] at reads
  | ok name =>
      refine ⟨⟨name, rfl⟩, ?_⟩
      intro unknown
      simp only [decodes, Bind.bind, Except.bind, unknown] at reads
      cases skips : value.skip with
      | error fault => simp [skips] at reads
      | ok => rfl

/-! ## Reading is filling -/

/-- What is filled after a field was read leaves the place of that field alone. -/
theorem Lawful.fresh_cons (lawful : reader.Lawful) {field : RecordField reader.Draft} {value : Node}
    {values : List (RecordField reader.Draft × Node)} (member : field ∈ reader.fields)
    (members : ∀ entry ∈ values, entry.1 ∈ reader.fields) {draft next : reader.Draft}
    (reads : field.read value draft = .ok next) :
    Fresh ((field, value) :: values) draft ↔ field.isSet draft = false ∧ Fresh values next := by
  have isSet := lawful.sets field member reads
  have keeps : ∀ entry ∈ values, entry.1.name ≠ field.name →
      entry.1.isSet next = entry.1.isSet draft := fun entry inside differs =>
    (lawful.apart field member entry.1 (members entry inside) (Ne.symm differs)).keeps reads
  constructor
  · rintro ⟨distinct, unset⟩
    obtain ⟨absent, distinct⟩ := List.nodup_cons.mp distinct
    refine ⟨unset _ List.mem_cons_self, distinct, ?_⟩
    intro entry inside
    have differs : entry.1.name ≠ field.name := fun same =>
      absent (List.mem_map.mpr ⟨entry, inside, same⟩)
    rw [keeps entry inside differs]
    exact unset entry (List.mem_cons_of_mem _ inside)
  · rintro ⟨unset, distinct, unsetNext⟩
    have differs : ∀ entry ∈ values, entry.1.name ≠ field.name := by
      intro entry inside same
      have free := unsetNext entry inside
      rw [lawful.eq_of_name_eq (members entry inside) member same, isSet] at free
      cases free
    refine ⟨List.nodup_cons.mpr ⟨?_, distinct⟩, List.forall_mem_cons.mpr ⟨unset, ?_⟩⟩
    · intro inside
      obtain ⟨entry, member, same⟩ := List.mem_map.mp inside
      exact differs entry member same
    · intro entry inside
      rw [← keeps entry inside (differs entry inside)]
      exact unsetNext entry inside

/-- Members are read if they are legible and no field comes up twice, and reading them is filling their
fields. -/
theorem Lawful.readFields_eq_ok (lawful : reader.Lawful) {members : List (Text × Node)}
    {draft late : reader.Draft} :
    (Members.ofList members).readFields reader.fields draft = .ok late ↔
      (∀ member ∈ members, reader.Legible member) ∧ Fresh (reader.entries members) draft ∧
        fill (reader.entries members) draft = .ok late := by
  induction members generalizing draft with
  | nil => exact ⟨fun same => ⟨nofun, ⟨.nil, nofun⟩, same⟩, fun ⟨_, _, same⟩ => same⟩
  | cons member members more =>
      obtain ⟨key, value⟩ := member
      rw [Members.ofList, List.forall_mem_cons]
      cases asked : reader.field? key with
      | none =>
          rw [entries_unknown asked]
          constructor
          · intro reads
            have legible := legible_of_readFields reads
            obtain ⟨⟨name, decodes⟩, skips⟩ := legible
            rw [readFields_unknown asked decodes (skips asked)] at reads
            obtain ⟨others, fresh, fills⟩ := more.mp reads
            exact ⟨⟨⟨⟨name, decodes⟩, skips⟩, others⟩, fresh, fills⟩
          · rintro ⟨⟨⟨⟨name, decodes⟩, skips⟩, others⟩, fresh, fills⟩
            rw [readFields_unknown asked decodes (skips asked)]
            exact more.mpr ⟨others, fresh, fills⟩
      | some field =>
          have inside := mem_of_field? asked
          have legible : reader.Legible (key, value) := by
            refine ⟨⟨_, decode_of_field? asked⟩, ?_⟩
            intro unknown
            rw [asked] at unknown
            cases unknown
          rw [entries_known asked, readFields_known asked, fill_cons_eq_ok]
          have known : ∀ entry ∈ reader.entries members, entry.1 ∈ reader.fields := fun _ =>
            mem_fields_of_entries
          constructor
          · intro reads
            split at reads
            · cases reads
            rename_i unset
            obtain ⟨next, first, reads⟩ := bind_eq_ok.mp reads
            obtain ⟨others, fresh, fills⟩ := more.mp reads
            refine ⟨⟨legible, others⟩, ?_, next, first, fills⟩
            exact (lawful.fresh_cons inside known first).mpr ⟨by simpa using unset, fresh⟩
          · rintro ⟨⟨_, others⟩, fresh, next, first, fills⟩
            obtain ⟨unset, fresh⟩ := (lawful.fresh_cons inside known first).mp fresh
            rw [unset, first]
            exact more.mpr ⟨others, fresh, fills⟩

/-- Filling does not depend on the order. -/
theorem Lawful.fill_perm (lawful : reader.Lawful) {values others : List (RecordField reader.Draft × Node)}
    (perm : values.Perm others) (members : ∀ entry ∈ values, entry.1 ∈ reader.fields)
    (distinct : (values.map fun entry => entry.1.name).Nodup) {draft late : reader.Draft}
    (fills : fill values draft = .ok late) : fill others draft = .ok late := by
  induction perm generalizing draft with
  | nil => exact fills
  | cons entry perm more =>
      obtain ⟨next, first, fills⟩ := fill_cons_eq_ok.mp fills
      exact fill_cons_eq_ok.mpr ⟨next, first, more (List.forall_mem_cons.mp members).2
        (List.nodup_cons.mp distinct).2 fills⟩
  | swap entry other rest =>
      obtain ⟨next, first, fills⟩ := fill_cons_eq_ok.mp fills
      obtain ⟨further, second, fills⟩ := fill_cons_eq_ok.mp fills
      obtain ⟨absent, _⟩ := List.nodup_cons.mp distinct
      have differs : other.1.name ≠ entry.1.name := fun same =>
        absent (List.mem_map.mpr ⟨entry, List.mem_cons_self, same.symm⟩)
      have apart := lawful.apart other.1 (members _ List.mem_cons_self) entry.1
        (members _ (List.mem_cons_of_mem _ List.mem_cons_self)) differs
      obtain ⟨early, sooner, later⟩ := apart.swaps first second
      exact fill_cons_eq_ok.mpr ⟨early, sooner, fill_cons_eq_ok.mpr ⟨further, later, fills⟩⟩
  | trans first _ more further =>
      refine further ?_ ?_ (more members distinct fills)
      · exact fun entry inside => members entry (first.mem_iff.mpr inside)
      · exact (first.map _).nodup_iff.mp distinct

/-- Filling leaves all other places alone. -/
theorem Lawful.isSet_fill (lawful : reader.Lawful) {values : List (RecordField reader.Draft × Node)}
    (members : ∀ entry ∈ values, entry.1 ∈ reader.fields) {field : RecordField reader.Draft}
    (member : field ∈ reader.fields) (absent : ∀ entry ∈ values, entry.1.name ≠ field.name)
    {draft late : reader.Draft} (fills : fill values draft = .ok late) :
    field.isSet late = field.isSet draft := by
  induction values generalizing draft with
  | nil =>
      cases fills
      rfl
  | cons entry values more =>
      obtain ⟨next, first, fills⟩ := fill_cons_eq_ok.mp fills
      obtain ⟨inside, members⟩ := List.forall_mem_cons.mp members
      obtain ⟨differs, absent⟩ := List.forall_mem_cons.mp absent
      rw [more members absent fills]
      exact (lawful.apart entry.1 inside field member differs).keeps first

/-! ## Objects and arrays -/

theorem Lawful.read_object (lawful : reader.Lawful) {members : List (Text × Node)} {value : ρ} :
    reader.read (.object (Members.ofList members)) = .ok value ↔
      (∀ member ∈ members, reader.Legible member) ∧
        ((reader.entries members).map fun entry => entry.1.name).Nodup ∧
          reader.outcome (reader.entries members) = .ok value := by
  have unset : ∀ entry ∈ reader.entries members, entry.1.isSet reader.blank = false := fun entry inside =>
    lawful.unset entry.1 (mem_fields_of_entries inside)
  constructor
  · intro reads
    obtain ⟨draft, result, finishes⟩ := bind_eq_ok.mp reads
    obtain ⟨legible, fresh, fills⟩ := lawful.readFields_eq_ok.mp result
    exact ⟨legible, fresh.distinct, bind_eq_ok.mpr ⟨draft, fills, finishes⟩⟩
  · rintro ⟨legible, distinct, comes⟩
    obtain ⟨draft, fills, finishes⟩ := bind_eq_ok.mp comes
    refine bind_eq_ok.mpr ⟨draft, ?_, finishes⟩
    exact lawful.readFields_eq_ok.mpr ⟨legible, ⟨distinct, unset⟩, fills⟩

/-- Whatever stands in an array before its end is filled in the order of the fields. -/
theorem readFields_append {δ : Type} (fields : List (RecordField δ)) {before after : List Node}
    (fits : before.length ≤ fields.length) (draft : δ) :
    Items.readFields fields (Items.ofList (before ++ after)) draft =
      fill (fields.zip before) draft >>=
        Items.readFields (fields.drop before.length) (Items.ofList after) := by
  induction before generalizing fields draft with
  | nil =>
      rw [List.zip_nil_right]
      rfl
  | cons value before more =>
      cases fields with
      | nil => cases fits
      | cons field fields =>
          simp only [List.cons_append, Items.ofList, Items.readFields, List.zip_cons_cons, fill,
            List.length_cons, List.drop_succ_cons, bind_assoc]
          exact bind_congr fun draft => more fields (Nat.le_of_succ_le_succ fits) draft

/-- An array may end where no field is left that it must be long enough for. -/
theorem readFields_done {δ : Type} {fields : List (RecordField δ)} {draft late : δ} :
    Items.readFields fields .done draft = .ok late ↔
      (∀ field ∈ fields, field.needed = false) ∧ draft = late := by
  induction fields with
  | nil => exact ⟨fun same => ⟨nofun, Except.ok.inj same⟩, fun ⟨_, same⟩ => congrArg _ same⟩
  | cons field fields more =>
      rw [Items.readFields, List.forall_mem_cons]
      cases needed : field.needed with
      | true => simp
      | false => simpa using more

theorem readFields_eq_ok {δ : Type} {fields : List (RecordField δ)} {values : List Node} {draft late : δ} :
    Items.readFields fields (Items.ofList values) draft = .ok late ↔
      values.length ≤ fields.length ∧ (∀ field ∈ fields.drop values.length, field.needed = false) ∧
        fill (fields.zip values) draft = .ok late := by
  by_cases fits : values.length ≤ fields.length
  · have split := @readFields_append δ fields values [] fits draft
    rw [List.append_nil] at split
    rw [split]
    cases fill (fields.zip values) draft with
    | error fault => exact ⟨nofun, fun ⟨_, _, impossible⟩ => nomatch impossible⟩
    | ok next =>
        refine readFields_done.trans ⟨?_, ?_⟩
        · rintro ⟨free, rfl⟩
          exact ⟨fits, free, rfl⟩
        · rintro ⟨_, free, same⟩
          exact ⟨free, Except.ok.inj same⟩
  · refine ⟨fun reads => ?_, fun ⟨within, _⟩ => absurd within fits⟩
    -- The array goes on behind the last field.
    have behind : (values.take fields.length).length = fields.length :=
      List.length_take_of_le (Nat.le_of_not_le fits)
    obtain ⟨value, after, rest⟩ : ∃ value after, values.drop fields.length = value :: after :=
      List.exists_cons_of_ne_nil fun none => fits (List.drop_eq_nil_iff.mp none)
    rw [← List.take_append_drop fields.length values, readFields_append fields (Nat.le_of_eq behind), behind,
      List.drop_length, rest] at reads
    obtain ⟨_, _, impossible⟩ := bind_eq_ok.mp reads
    cases impossible

theorem read_array {values : List Node} {value : ρ} :
    reader.read (.array (Items.ofList values)) = .ok value ↔
      values.length ≤ reader.fields.length ∧
        (∀ field ∈ reader.fields.drop values.length, field.needed = false) ∧
          reader.outcome (reader.fields.zip values) = .ok value := by
  constructor
  · intro reads
    obtain ⟨draft, result, finishes⟩ := bind_eq_ok.mp reads
    obtain ⟨fits, free, fills⟩ := readFields_eq_ok.mp result
    exact ⟨fits, free, bind_eq_ok.mpr ⟨draft, fills, finishes⟩⟩
  · rintro ⟨fits, free, comes⟩
    obtain ⟨draft, fills, finishes⟩ := bind_eq_ok.mp comes
    exact bind_eq_ok.mpr ⟨draft, readFields_eq_ok.mpr ⟨fits, free, fills⟩, finishes⟩

/-! ## Records that agree -/

variable {same : ρ → ρ → Prop}

theorem Lawful.outcome_perm (lawful : reader.Lawful)
    {values others : List (RecordField reader.Draft × Node)} (perm : values.Perm others)
    (members : ∀ entry ∈ values, entry.1 ∈ reader.fields)
    (distinct : (values.map fun entry => entry.1.name).Nodup) {value : ρ}
    (comes : reader.outcome values = .ok value) : reader.outcome others = .ok value := by
  obtain ⟨draft, fills, finishes⟩ := bind_eq_ok.mp comes
  exact bind_eq_ok.mpr ⟨draft, lawful.fill_perm perm members distinct fills, finishes⟩

/-- Objects that are read under the same conditions agree if what they come to agrees. -/
theorem Lawful.read_agrees (lawful : reader.Lawful) {members others : List (Text × Node)}
    (legible : (∀ member ∈ members, reader.Legible member) ↔ ∀ member ∈ others, reader.Legible member)
    (distinct : ((reader.entries members).map fun entry => entry.1.name).Nodup ↔
      ((reader.entries others).map fun entry => entry.1.name).Nodup)
    (agree : ((reader.entries members).map fun entry => entry.1.name).Nodup →
      Agree same (reader.outcome (reader.entries members)) (reader.outcome (reader.entries others))) :
    Agree same (reader.read (.object (Members.ofList members)))
      (reader.read (.object (Members.ofList others))) := by
  refine .of_ok ?_ ?_
  · intro value reads
    obtain ⟨readable, single, comes⟩ := lawful.read_object.mp reads
    obtain ⟨other, comesTo, agrees⟩ := (agree single).ok comes
    exact ⟨other, lawful.read_object.mpr ⟨legible.mp readable, distinct.mp single, comesTo⟩, agrees⟩
  · intro value reads
    obtain ⟨readable, single, comes⟩ := lawful.read_object.mp reads
    have agrees := agree (distinct.mpr single)
    cases early : reader.outcome (reader.entries members) with
    | error fault =>
        rw [early, comes] at agrees
        exact agrees.elim
    | ok other =>
        exact ⟨other, lawful.read_object.mpr ⟨legible.mpr readable, distinct.mpr single, early⟩⟩

/-- The order of the members does not matter. -/
theorem Lawful.agree_perm (lawful : reader.Lawful) (refl : ∀ value, same value value)
    {members others : List (Text × Node)} (perm : members.Perm others) :
    Agree same (reader.read (.object (Members.ofList members)))
      (reader.read (.object (Members.ofList others))) := by
  have permuted : (reader.entries members).Perm (reader.entries others) := perm.filterMap _
  refine lawful.read_agrees ?_ (permuted.map _).nodup_iff ?_
  · exact ⟨fun legible member inside => legible member (perm.mem_iff.mpr inside),
      fun legible member inside => legible member (perm.mem_iff.mp inside)⟩
  · intro distinct
    refine .of_ok ?_ ?_
    · exact fun value comes =>
        ⟨value, lawful.outcome_perm permuted (fun _ => mem_fields_of_entries) distinct comes, refl value⟩
    · exact fun value comes => ⟨value, lawful.outcome_perm permuted.symm
        (fun _ => mem_fields_of_entries) ((permuted.map _).nodup_iff.mp distinct) comes⟩

/-- A member that nobody asked for does not matter. -/
theorem read_unknown {key : Text} (unknown : reader.field? key = none) {name : String}
    (decodes : key.decode = .ok name) {value : Node} (skips : value.skip = .ok ())
    (members : List (Text × Node)) :
    reader.read (.object (Members.ofList ((key, value) :: members))) =
      reader.read (.object (Members.ofList members)) := by
  simp only [read, Node.readRecord, Members.ofList, readFields_unknown unknown decodes skips]

/-- A member that is read makes no object illegible. -/
theorem legible_cons {key : Text} {field : RecordField reader.Draft}
    (known : reader.field? key = some field) (value : Node) (members : List (Text × Node)) :
    (∀ member ∈ (key, value) :: members, reader.Legible member) ↔
      ∀ member ∈ members, reader.Legible member := by
  rw [List.forall_mem_cons]
  refine ⟨And.right, fun others => ⟨⟨⟨_, decode_of_field? known⟩, ?_⟩, others⟩⟩
  intro unknown
  rw [known] at unknown
  cases unknown

/-- What the first member comes to is what it comes to behind all others. -/
theorem Lawful.outcome_last (lawful : reader.Lawful) {field : RecordField reader.Draft}
    (member : field ∈ reader.fields) (value : Node) {values : List (RecordField reader.Draft × Node)}
    (members : ∀ entry ∈ values, entry.1 ∈ reader.fields)
    (distinct : (((field, value) :: values).map fun entry => entry.1.name).Nodup) :
    Agree (· = ·) (reader.outcome ((field, value) :: values))
      (fill values reader.blank >>= fun draft => field.read value draft >>= reader.finish) := by
  have perm : ((field, value) :: values).Perm (values ++ [(field, value)]) :=
    (List.perm_append_singleton _ _).symm
  have within : ∀ entry ∈ (field, value) :: values, entry.1 ∈ reader.fields :=
    List.forall_mem_cons.mpr ⟨member, members⟩
  have last : reader.outcome (values ++ [(field, value)]) =
      fill values reader.blank >>= fun draft => field.read value draft >>= reader.finish := by
    simp only [outcome, fill_append, fill, bind_assoc]
    rfl
  rw [← last]
  refine .of_ok ?_ ?_
  · exact fun value comes => ⟨value, lawful.outcome_perm perm within distinct comes, rfl⟩
  · intro value comes
    have members : ∀ entry ∈ values ++ [(field, _)], entry.1 ∈ reader.fields := fun entry inside =>
      within entry (perm.mem_iff.mpr inside)
    exact ⟨value, lawful.outcome_perm perm.symm members ((perm.map _).nodup_iff.mp distinct) comes⟩

/-- If a field comes to the same with two values, so does every object. -/
theorem Lawful.agree_member (lawful : reader.Lawful)
    {key : Text} {field : RecordField reader.Draft} (known : reader.field? key = some field)
    {value other : Node} (agree : ∀ draft,
      Agree same (field.read value draft >>= reader.finish) (field.read other draft >>= reader.finish))
    (members : List (Text × Node)) :
    Agree same (reader.read (.object (Members.ofList ((key, value) :: members))))
      (reader.read (.object (Members.ofList ((key, other) :: members)))) := by
  refine lawful.read_agrees ?_ ?_ ?_
  · exact (legible_cons known value members).trans (legible_cons known other members).symm
  · rw [entries_known known, entries_known known]
    rfl
  · rw [entries_known known, entries_known known]
    intro distinct
    have member := mem_of_field? known
    have within : ∀ entry ∈ reader.entries members, entry.1 ∈ reader.fields := fun _ =>
      mem_fields_of_entries
    exact (lawful.outcome_last member value within distinct).between (.bind fun draft _ => agree draft)
      ((lawful.outcome_last member other within distinct).symm fun _ _ => Eq.symm)

/-- If a field comes to what it is without a value, every object can do without it. -/
theorem Lawful.agree_written (lawful : reader.Lawful)
    {key : Text} {field : RecordField reader.Draft} (known : reader.field? key = some field)
    {value : Node} (agree : ∀ draft, field.isSet draft = false →
      Agree same (field.read value draft >>= reader.finish) (reader.finish draft))
    {members : List (Text × Node)} (absent : ∀ member ∈ members, reader.field? member.1 ≠ some field) :
    Agree same (reader.read (.object (Members.ofList ((key, value) :: members))))
      (reader.read (.object (Members.ofList members))) := by
  have member := mem_of_field? known
  have within : ∀ entry ∈ reader.entries members, entry.1 ∈ reader.fields := fun _ =>
    mem_fields_of_entries
  have differs : ∀ entry ∈ reader.entries members, entry.1.name ≠ field.name := by
    intro entry inside name
    obtain ⟨source, place, found⟩ := List.mem_filterMap.mp inside
    obtain ⟨other, asked, rfl⟩ := Option.map_eq_some_iff.mp found
    rw [lawful.eq_of_name_eq (mem_of_field? asked) member name] at asked
    exact absent source place asked
  refine lawful.read_agrees (legible_cons known value members) ?_ ?_
  · rw [entries_known known, List.map_cons, List.nodup_cons]
    refine ⟨And.right, fun distinct => ⟨?_, distinct⟩⟩
    intro inside
    obtain ⟨entry, place, name⟩ := List.mem_map.mp inside
    exact differs entry place name
  · rw [entries_known known]
    intro distinct
    refine (lawful.outcome_last member value within distinct).between (.bind ?_)
      (.of_eq (fun _ => rfl) rfl)
    intro draft fills
    apply agree draft
    rw [lawful.isSet_fill within member differs fills]
    exact lawful.unset field member

/-- Members for one field after another have the values that an array of them has. -/
theorem entries_of_keys {members : List (Text × Node)} {fields : List (RecordField reader.Draft)}
    (keys : members.map (fun member => reader.field? member.1) =
      (fields.take members.length).map some) :
    members.length ≤ fields.length ∧ reader.entries members = fields.zip (members.map Prod.snd) ∧
      (reader.entries members).map Prod.fst = fields.take members.length := by
  induction members generalizing fields with
  | nil => exact ⟨Nat.zero_le _, List.zip_nil_right.symm, rfl⟩
  | cons member members more =>
      cases fields with
      | nil => cases keys
      | cons field fields =>
          obtain ⟨known, keys⟩ := List.cons.inj keys
          obtain ⟨fits, zipped, taken⟩ := more keys
          rw [entries_known known, zipped]
          refine ⟨Nat.succ_le_succ fits, rfl, ?_⟩
          rw [List.map_cons, ← zipped, taken]
          rfl

/-- An array of the first fields agrees with the object of these fields. -/
theorem Lawful.agree_array (lawful : reader.Lawful) (refl : ∀ value, same value value)
    {members : List (Text × Node)}
    (keys : members.map (fun member => reader.field? member.1) =
      (reader.fields.take members.length).map some)
    (free : ∀ field ∈ reader.fields.drop members.length, field.needed = false) :
    Agree same (reader.read (.object (Members.ofList members)))
      (reader.read (.array (Items.ofList (members.map Prod.snd)))) := by
  obtain ⟨fits, zipped, taken⟩ := entries_of_keys keys
  have legible : ∀ member ∈ members, reader.Legible member := by
    intro member inside
    have asked : reader.field? member.1 ∈ members.map fun member => reader.field? member.1 :=
      List.mem_map.mpr ⟨member, inside, rfl⟩
    rw [keys] at asked
    obtain ⟨field, _, known⟩ := List.mem_map.mp asked
    exact (legible_cons known.symm member.2 []).mpr nofun member List.mem_cons_self
  have distinct : ((reader.entries members).map fun entry => entry.1.name).Nodup := by
    have names : ((reader.entries members).map fun entry => entry.1.name) =
        ((reader.entries members).map Prod.fst).map RecordField.name := by
      rw [List.map_map]
      rfl
    rw [names, taken]
    exact lawful.names.sublist ((List.take_sublist _ _).map _)
  have length : (members.map Prod.snd).length = members.length := List.length_map _
  refine .of_ok ?_ ?_
  · intro value reads
    obtain ⟨_, _, comes⟩ := lawful.read_object.mp reads
    rw [zipped] at comes
    exact ⟨value, read_array.mpr ⟨length ▸ fits, length ▸ free, comes⟩, refl value⟩
  · intro value reads
    obtain ⟨_, _, comes⟩ := read_array.mp reads
    rw [← zipped] at comes
    exact ⟨value, lawful.read_object.mpr ⟨legible, distinct, comes⟩⟩

/-! ## Records that are refused -/

/-- What stands in front of a member is read first. -/
theorem readFields_members_append (before after : List (Text × Node)) (draft : reader.Draft) :
    (Members.ofList (before ++ after)).readFields reader.fields draft =
      (Members.ofList before).readFields reader.fields draft >>=
        (Members.ofList after).readFields reader.fields := by
  induction before generalizing draft with
  | nil => rfl
  | cons member before more =>
      obtain ⟨key, value⟩ := member
      simp only [List.cons_append, Members.ofList, Members.readFields, bind_assoc]
      refine bind_congr fun name => ?_
      cases reader.fields.find? fun field => field.name = name with
      | none =>
          simp only [bind_assoc]
          exact bind_congr fun _ => more draft
      | some field =>
          by_cases set : field.isSet draft = true
          · simp only [set, if_true]
            rfl
          · simp only [set, if_false, bind_assoc, Bool.false_eq_true]
            exact bind_congr fun draft => more draft

/-- An object that is read is read up to each of its members. -/
theorem readFields_of_read {before after : List (Text × Node)} {value : ρ}
    (reads : reader.read (.object (Members.ofList (before ++ after))) = .ok value) :
    ∃ draft, (Members.ofList before).readFields reader.fields reader.blank = .ok draft ∧
      ∃ late, (Members.ofList after).readFields reader.fields draft = .ok late := by
  obtain ⟨late, reads, _⟩ := bind_eq_ok.mp reads
  rw [Node.readRecord, readFields_members_append] at reads
  obtain ⟨draft, first, second⟩ := bind_eq_ok.mp reads
  exact ⟨draft, first, late, second⟩

/-- An object is refused as soon as one of its members is. -/
theorem read_of_refused {before after : List (Text × Node)} {draft : reader.Draft}
    (reads : (Members.ofList before).readFields reader.fields reader.blank = .ok draft) {fault : Fault}
    (refused : (Members.ofList after).readFields reader.fields draft = .error fault) :
    reader.read (.object (Members.ofList (before ++ after))) = .error fault := by
  simp only [read, Node.readRecord, readFields_members_append, reads]
  show ((Members.ofList after).readFields reader.fields draft >>= reader.finish) = _
  rw [refused]
  rfl

/-- A field that was read is set. -/
theorem Lawful.isSet_of_readFields (lawful : reader.Lawful) {members : List (Text × Node)}
    {draft late : reader.Draft}
    (reads : (Members.ofList members).readFields reader.fields draft = .ok late)
    {field : RecordField reader.Draft} {member : Text × Node} (inside : member ∈ members)
    (known : reader.field? member.1 = some field) : field.isSet late = true := by
  obtain ⟨_, fresh, fills⟩ := lawful.readFields_eq_ok.mp reads
  have entry : (field, member.2) ∈ reader.entries members :=
    List.mem_filterMap.mpr ⟨member, inside, by rw [known]; rfl⟩
  obtain ⟨before, after, split⟩ := List.append_of_mem entry
  have last : (reader.entries members).Perm (before ++ after ++ [(field, member.2)]) := by
    rw [split]
    exact List.perm_middle.trans (List.perm_append_singleton _ _).symm
  have permuted := lawful.fill_perm last (fun _ => mem_fields_of_entries) fresh.distinct fills
  rw [fill_append] at permuted
  obtain ⟨next, _, permuted⟩ := bind_eq_ok.mp permuted
  obtain ⟨result, reads, same⟩ := fill_cons_eq_ok.mp permuted
  cases same
  exact lawful.sets field (mem_of_field? known) reads

/-- A member of an object, if it is read, is read into a place that is free. -/
theorem readFields_cons_eq_ok {key : Text} {field : RecordField reader.Draft}
    (known : reader.field? key = some field) {value : Node} {rest : Members} {draft late : reader.Draft}
    (reads : (Members.member key value rest).readFields reader.fields draft = .ok late) :
    field.isSet draft = false ∧ ∃ next, field.read value draft = .ok next ∧
      rest.readFields reader.fields next = .ok late := by
  rw [readFields_known known] at reads
  split at reads
  · cases reads
  · rename_i unset
    exact ⟨by simpa using unset, bind_eq_ok.mp reads⟩

/-- A field that comes up again is refused, whatever its value is. -/
theorem Lawful.refuses_again (lawful : reader.Lawful) {before after : List (Text × Node)} {value : ρ}
    (reads : reader.read (.object (Members.ofList (before ++ after))) = .ok value)
    {field : RecordField reader.Draft} {member : Text × Node} (inside : member ∈ before)
    (earlier : reader.field? member.1 = some field) {key : Text} (known : reader.field? key = some field)
    (again : Node) :
    reader.read (.object (Members.ofList (before ++ (key, again) :: after))) = .error .mistyped := by
  obtain ⟨draft, first, _⟩ := readFields_of_read reads
  refine read_of_refused first ?_
  rw [Members.ofList, readFields_known known, lawful.isSet_of_readFields first inside earlier]
  rfl

/-- A field that is put in front of where it comes up is refused as well, unless its value is no JSON of any
shape. -/
theorem Lawful.refuses_sooner (lawful : reader.Lawful) {before after : List (Text × Node)} {value : ρ}
    (reads : reader.read (.object (Members.ofList (before ++ after))) = .ok value)
    {field : RecordField reader.Draft} {member : Text × Node} (inside : member ∈ after)
    (later : reader.field? member.1 = some field) {key : Text} (known : reader.field? key = some field)
    {sooner : Node}
    (shaped : ∀ {draft fault}, field.read sooner draft = .error fault → fault = .mistyped) :
    reader.read (.object (Members.ofList (before ++ (key, sooner) :: after))) = .error .mistyped := by
  obtain ⟨draft, first, late, second⟩ := readFields_of_read reads
  refine read_of_refused first ?_
  obtain ⟨middle, rest, rfl⟩ := List.append_of_mem inside
  obtain ⟨legible, fresh, _⟩ := lawful.readFields_eq_ok.mp second
  rw [entries_append, entries_known later] at fresh
  have unset : field.isSet draft = false :=
    fresh.unset (field, member.2) (List.mem_append_right _ List.mem_cons_self)
  cases taken : field.read sooner draft with
  | error fault =>
      rw [Members.ofList, readFields_known known, unset, taken, shaped taken]
      rfl
  | ok next =>
      -- The members between the two are read behind the first of them as they were without it.
      rw [readFields_members_append] at second
      obtain ⟨further, between, _⟩ := bind_eq_ok.mp second
      obtain ⟨readable, free, fills⟩ := lawful.readFields_eq_ok.mp between
      obtain ⟨ends, last⟩ := lawful.alike field (mem_of_field? known) taken further
      have absent : field.name ∉ (reader.entries middle).map fun entry => entry.1.name := by
        have distinct := fresh.distinct
        rw [List.map_append, List.map_cons] at distinct
        intro inside
        exact (List.nodup_append.mp distinct).2.2 _ inside _ List.mem_cons_self rfl
      have distinct : ((reader.entries middle ++ [(field, sooner)]).map
          fun entry => entry.1.name).Nodup := by
        have perm := (List.perm_append_singleton (field, sooner) (reader.entries middle)).map
          fun entry => entry.1.name
        exact perm.nodup_iff.mpr (List.nodup_cons.mpr ⟨absent, free.distinct⟩)
      have behind : fill (reader.entries middle ++ [(field, sooner)]) draft = .ok ends := by
        rw [fill_append, fills]
        exact fill_cons_eq_ok.mpr ⟨ends, last, rfl⟩
      have inFront : fill ((field, sooner) :: reader.entries middle) draft = .ok ends :=
        lawful.fill_perm (List.perm_append_singleton _ _)
          (List.forall_mem_append.mpr ⟨fun _ => mem_fields_of_entries,
            List.forall_mem_singleton.mpr (mem_of_field? known)⟩) distinct behind
      have start : (Members.ofList ((key, sooner) :: middle)).readFields reader.fields draft =
          .ok ends := by
        refine lawful.readFields_eq_ok.mpr ⟨(legible_cons known sooner middle).mpr readable, ?_, ?_⟩
        · rw [entries_known known]
          exact ⟨List.nodup_cons.mpr ⟨absent, free.distinct⟩,
            List.forall_mem_cons.mpr ⟨unset, free.unset⟩⟩
        · rw [entries_known known]
          exact inFront
      rw [← List.cons_append, readFields_members_append, start]
      show (Members.member member.1 member.2 (Members.ofList rest)).readFields reader.fields ends = _
      rw [readFields_known later, lawful.isSet_of_readFields start List.mem_cons_self known]
      rfl

/-- An object is refused if one of its values is. -/
theorem read_refuses_member {before after : List (Text × Node)} {key : Text} {value other : Node}
    {result : ρ}
    (reads : reader.read (.object (Members.ofList (before ++ (key, value) :: after))) = .ok result)
    {field : RecordField reader.Draft} (known : reader.field? key = some field)
    (refuses : ∀ {draft next}, field.read value draft = .ok next →
      field.read other draft = .error .mistyped) :
    reader.read (.object (Members.ofList (before ++ (key, other) :: after))) = .error .mistyped := by
  obtain ⟨draft, first, late, second⟩ := readFields_of_read reads
  refine read_of_refused first ?_
  obtain ⟨unset, next, taken, _⟩ := readFields_cons_eq_ok known second
  rw [Members.ofList, readFields_known known, unset, refuses taken]
  rfl

/-- An array of fields is refused if one of its values is. -/
theorem read_refuses_element {before after : List Node} {value other : Node} {result : ρ}
    (reads : reader.read (.array (Items.ofList (before ++ value :: after))) = .ok result)
    {field : RecordField reader.Draft} (place : reader.fields[before.length]? = some field)
    (refuses : ∀ {draft next}, field.read value draft = .ok next →
      field.read other draft = .error .mistyped) :
    reader.read (.array (Items.ofList (before ++ other :: after))) = .error .mistyped := by
  obtain ⟨fits, here⟩ := List.getElem?_eq_some_iff.mp place
  have due : reader.fields.drop before.length = field :: reader.fields.drop (before.length + 1) := by
    rw [List.drop_eq_getElem_cons fits, here]
  simp only [read, Node.readRecord, readFields_append _ (Nat.le_of_lt fits), due, Items.ofList,
    Items.readFields] at reads ⊢
  obtain ⟨late, elements, _⟩ := bind_eq_ok.mp reads
  obtain ⟨draft, first, elements⟩ := bind_eq_ok.mp elements
  obtain ⟨next, taken, _⟩ := bind_eq_ok.mp elements
  simp only [first, refuses taken, Bind.bind, Except.bind]

end RecordReader

end SpriteStage.Json
