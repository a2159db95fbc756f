/-
Module: SpriteStage.Proofs.Json.Growth
Purpose: Outlines only grow. What a text is read as so far, every further byte keeps: it adds pieces to a
  text that has not ended, items and members to what is still open, and values where one is due, and
  it touches nothing else. Only a number at the end of a text may still become something else, so
  the outline of a text that does not end within a number grows into that of every continuation.
Main exports: Text.GrowsTo, Node.GrowsTo, Items.GrowsTo, Members.GrowsTo, State.soFar, State.step_grows,
  inNumber, scan_grows
-/
import SpriteStage.Json.Scan

namespace SpriteStage.Json

/-- What was read of a text, and what may have been read of it later. -/
inductive Text.GrowsTo : Text → Text → Prop where
  | same (text : Text) : GrowsTo text text
  | more (pieces more : List Piece) (fault : Option Fault) :
      GrowsTo ⟨pieces, some .ended⟩ ⟨pieces ++ more, fault⟩

mutual

/-- What was read of a value, and what may have been read of it later. -/
inductive Node.GrowsTo : Node → Node → Prop where
  | same (node : Node) : Node.GrowsTo node node
  | begun (node : Node) : Node.GrowsTo (.broken .ended) node
  | text {early late : Text} : early.GrowsTo late → Node.GrowsTo (.text early) (.text late)
  | array {early late : Items} : Items.GrowsTo early late → Node.GrowsTo (.array early) (.array late)
  | object {early late : Members} :
      Members.GrowsTo early late → Node.GrowsTo (.object early) (.object late)

/-- What was read of the items of an array, and what may have been read of them later. -/
inductive Items.GrowsTo : Items → Items → Prop where
  | same (items : Items) : Items.GrowsTo items items
  | begun (items : Items) : Items.GrowsTo (.cut .ended) items
  | item {early late : Node} {rest lateRest : Items} :
      Node.GrowsTo early late → Items.GrowsTo rest lateRest →
        Items.GrowsTo (.item early rest) (.item late lateRest)

/-- What was read of the members of an object, and what may have been read of them later. -/
inductive Members.GrowsTo : Members → Members → Prop where
  | same (members : Members) : Members.GrowsTo members members
  | begun (members : Members) : Members.GrowsTo (.cut .ended) members
  | member {key lateKey : Text} {early late : Node} {rest lateRest : Members} :
      key.GrowsTo lateKey → Node.GrowsTo early late → Members.GrowsTo rest lateRest →
        Members.GrowsTo (.member key early rest) (.member lateKey late lateRest)

end

theorem Text.GrowsTo.trans {first second third : Text} (grows : first.GrowsTo second)
    (growsOn : second.GrowsTo third) : first.GrowsTo third := by
  cases grows with
  | same => exact growsOn
  | more pieces more fault =>
      cases growsOn with
      | same => exact .more pieces more fault
      | more _ further last =>
          rw [List.append_assoc]
          exact .more pieces (more ++ further) last

mutual

theorem Node.GrowsTo.trans {first second third : Node} :
    first.GrowsTo second → second.GrowsTo third → first.GrowsTo third
  | .same _, growsOn => growsOn
  | .begun _, _ => .begun _
  | .text grows, .same _ => .text grows
  | .text grows, .text growsOn => .text (grows.trans growsOn)
  | .array grows, .same _ => .array grows
  | .array grows, .array growsOn => .array (grows.trans growsOn)
  | .object grows, .same _ => .object grows
  | .object grows, .object growsOn => .object (grows.trans growsOn)

theorem Items.GrowsTo.trans {first second third : Items} :
    first.GrowsTo second → second.GrowsTo third → first.GrowsTo third
  | .same _, growsOn => growsOn
  | .begun _, _ => .begun _
  | .item grows rest, .same _ => .item grows rest
  | .item grows rest, .item growsOn restOn => .item (grows.trans growsOn) (rest.trans restOn)

theorem Members.GrowsTo.trans {first second third : Members} :
    first.GrowsTo second → second.GrowsTo third → first.GrowsTo third
  | .same _, growsOn => growsOn
  | .begun _, _ => .begun _
  | .member key grows rest, .same _ => .member key grows rest
  | .member key grows rest, .member keyOn growsOn restOn =>
    .member (key.trans keyOn) (grows.trans growsOn) (rest.trans restOn)

end

theorem Items.GrowsTo.prepend {early late : Items} (grows : early.GrowsTo late) (before : List Node) :
    (Items.prepend before early).GrowsTo (Items.prepend before late) := by
  induction before generalizing early late with
  | nil => exact grows
  | cons value before more => exact more (.item (.same value) grows)

theorem Members.GrowsTo.prepend {early late : Members} (grows : early.GrowsTo late)
    (before : List (Text × Node)) :
    (Members.prepend before early).GrowsTo (Members.prepend before late) := by
  induction before generalizing early late with
  | nil => exact grows
  | cons member before more => exact more (.member (.same member.1) (.same member.2) grows)

/-- The bytes that can stand in a number. -/
def inNumber (b : UInt8) : Bool :=
  (decimalDigit? b).isSome || b = ascii '+' || b = ascii '-' || b = ascii '.' || b = ascii 'e' ||
    b = ascii 'E'

namespace State

theorem enclose_grows {early late : Node} (grows : early.GrowsTo late) (frames : List Frame) :
    (enclose frames early).GrowsTo (enclose frames late) := by
  induction frames generalizing early late with
  | nil => exact grows
  | cons frame outer more =>
      cases frame with
      | items before => exact more (.array (Items.GrowsTo.prepend (.item grows (.same _)) before))
      | members before key =>
          exact more (.object (Members.GrowsTo.prepend (.member (.same key) grows (.same _)) before))

/-- The outline so far: that of the text as it stands, but a number at the end still lacks its end. -/
def soFar (state : State) : Node :=
  match state.point with
  | .number _ _ => enclose state.frames (.broken .ended)
  | _ => state.finish.node

theorem soFar_behind (frames : List Frame) (node : Node) :
    (behind frames node).soFar = enclose frames node := by
  cases frames with
  | nil => rfl
  | cons frame outer => cases frame <;> rfl

theorem endBehind_behind (frames : List Frame) (node : Node) :
    (endBehind (behind frames node).frames (behind frames node).point).node = enclose frames node := by
  cases frames with
  | nil => rfl
  | cons frame outer => cases frame <;> rfl

theorem soFar_grows_finish (state : State) : state.soFar.GrowsTo state.finish.node := by
  obtain ⟨frames, point⟩ := state
  cases point with
  | number phase number =>
      simp only [soFar, finish]
      split
      · rw [endBehind_behind]
        exact enclose_grows (.begun _) frames
      · exact enclose_grows (.begun _) frames
  | _ => exact .same _

/-- Whatever a value begins with, it begins where one is due. -/
theorem openValue_grows (frames : List Frame) (b : UInt8) :
    (enclose frames (.broken .ended)).GrowsTo (openValue frames b).soFar := by
  have grows := fun node => @enclose_grows (.broken .ended) node (.begun node) frames
  unfold openValue
  split
  · exact .same _
  · exact grows _
  · exact grows _
  · exact grows _
  iterate 4 exact grows _
  · repeat' split
    all_goals exact grows _

/-- Behind a complete value more may follow within the innermost frame. -/
theorem after_grows (frames : List Frame) (point : Point) (b : UInt8) :
    (State.mk frames point).soFar.GrowsTo (after frames point b).soFar := by
  have items : ∀ before rest, (enclose frames (.array (Items.prepend before (.cut .ended)))).GrowsTo
      (enclose frames (.array (Items.prepend before rest))) := fun before rest =>
    enclose_grows (.array (Items.GrowsTo.prepend (.begun rest) before)) frames
  have members : ∀ before rest, (enclose frames (cutObject before .ended)).GrowsTo
      (enclose frames (.object (Members.prepend before rest))) := fun before rest =>
    enclose_grows (.object (Members.GrowsTo.prepend (.begun rest) before)) frames
  unfold after
  split
  · exact .same _
  · exact items _ _
  · rw [soFar_behind]
    exact items _ _
  · exact items _ _
  · exact .same _
  · exact .same _
  · rw [soFar_behind]
    exact members _ _
  · exact members _ _
  · exact .same _
  · exact .same _
  · exact .same _

/-- A text only gains pieces. -/
theorem spell_grows {pieces grown : List Piece} {escape next : Escape} {b : UInt8}
    (spells : spell pieces escape b = .more grown next) :
    (Text.ofPieces pieces (some .ended)).GrowsTo (Text.ofPieces grown (some .ended)) := by
  have gains : grown = pieces ∨ ∃ piece, grown = piece :: pieces := by
    unfold spell at spells
    repeat' split at spells
    all_goals
      first
      | cases spells; exact Or.inl rfl
      | cases spells; exact Or.inr ⟨_, rfl⟩
      | cases spells
  rcases gains with rfl | ⟨piece, rfl⟩
  · exact .same _
  · rw [Text.ofPieces, Text.ofPieces, List.reverse_cons]
    exact .more _ _ _

theorem ofPieces_grows (pieces : List Piece) (fault : Option Fault) :
    (Text.ofPieces pieces (some .ended)).GrowsTo (Text.ofPieces pieces fault) := by
  have whole := Text.GrowsTo.more pieces.reverse [] fault
  rwa [List.append_nil] at whole

/-- With one more byte the outline can only grow. -/
theorem step_grows (state : State) (b : UInt8) : state.soFar.GrowsTo (state.step b).soFar := by
  obtain ⟨frames, point⟩ := state
  -- An object whose last member is still being read, up to its key or in its key.
  have member : ∀ members key lateKey late rest, key.GrowsTo lateKey →
      (enclose frames (cutMember members key .ended)).GrowsTo
        (enclose frames (.object (Members.prepend members (.member lateKey late rest)))) :=
    fun members _ _ _ _ grows => enclose_grows
      (.object (Members.GrowsTo.prepend (.member grows (.begun _) (.begun _)) members)) frames
  have cut : ∀ members rest, (enclose frames (cutObject members .ended)).GrowsTo
      (enclose frames (.object (Members.prepend members rest))) :=
    fun members rest => enclose_grows (.object (Members.GrowsTo.prepend (.begun rest) members)) frames
  cases point with
  | value => exact openValue_grows frames b
  | word letter left node =>
      show (enclose frames (.broken .ended)).GrowsTo _
      simp only [step]
      split
      · split
        · rw [soFar_behind]
          exact enclose_grows (.begun _) frames
        · exact .same _
      · exact enclose_grows (.begun _) frames
  | number phase number =>
      show (enclose frames (.broken .ended)).GrowsTo _
      simp only [step]
      split
      · exact .same _
      · exact enclose_grows (.begun _) frames
      · refine (enclose_grows (.begun (.number number.literal)) frames).trans ?_
        rw [← soFar_behind]
        exact after_grows _ _ b
  | text pieces escape =>
      show (enclose frames (.text (Text.ofPieces pieces (some .ended)))).GrowsTo _
      simp only [step]
      split
      · rename_i spells
        exact enclose_grows (.text (spell_grows spells)) frames
      · rw [soFar_behind]
        exact enclose_grows (.text (ofPieces_grows _ _)) frames
      · exact enclose_grows (.text (ofPieces_grows _ _)) frames
  | firstItem =>
      have first : ∀ items, (enclose frames (.array (.cut .ended))).GrowsTo
          (enclose frames (.array items)) := fun items => enclose_grows (.array (.begun items)) frames
      show (enclose frames (.array (.cut .ended))).GrowsTo _
      simp only [step]
      split
      · exact .same _
      · rw [soFar_behind]
        exact first _
      · exact (first _).trans (openValue_grows (.items [] :: frames) b)
  | afterItem items => exact after_grows frames _ b
  | firstKey =>
      show (enclose frames (cutObject [] .ended)).GrowsTo _
      simp only [step]
      split
      · exact .same _
      · rw [soFar_behind]
        exact cut [] .done
      · exact cut [] _
      · exact cut [] _
  | nextKey members =>
      show (enclose frames (cutObject members .ended)).GrowsTo _
      simp only [step]
      split
      · exact .same _
      · exact cut members _
      · exact cut members _
  | key members pieces escape =>
      show (enclose frames (cutMember members (Text.ofPieces pieces (some .ended)) .ended)).GrowsTo _
      simp only [step]
      split
      · rename_i spells
        exact member _ _ _ _ _ (spell_grows spells)
      · exact member _ _ _ _ _ (ofPieces_grows _ _)
      · exact member _ _ _ _ _ (ofPieces_grows _ _)
  | colon members key =>
      show (enclose frames (cutMember members key .ended)).GrowsTo _
      simp only [step]
      split
      · exact .same _
      · exact .same _
      · exact member _ _ _ _ _ (.same _)
  | afterMember members => exact after_grows frames _ b
  | complete node => exact after_grows frames _ b
  | trailing node => exact .same _
  | settled node => exact .same _

theorem follow_grows (state : State) (bytes : List UInt8) :
    state.soFar.GrowsTo (bytes.foldl step state).soFar := by
  induction bytes generalizing state with
  | nil => exact .same _
  | cons b bytes more => exact (step_grows state b).trans (more (state.step b))

/-! ## Trailing bytes -/

theorem behind_trailing (frames : List Frame) (node : Node) :
    (endBehind (behind frames node).frames (behind frames node).point).trailing = false := by
  cases frames with
  | nil => rfl
  | cons frame outer => cases frame <;> rfl

/-- If something follows the value, it goes on being so, and nothing else happens. -/
theorem follow_of_trailing {state : State} (trails : state.finish.trailing = true)
    (bytes : List UInt8) : bytes.foldl step state = state := by
  have stays : ∀ b, state.step b = state := by
    obtain ⟨frames, point⟩ := state
    cases point with
    | trailing node => exact fun _ => rfl
    | number phase number =>
        simp only [finish] at trails
        split at trails
        · rw [behind_trailing] at trails
          cases trails
        · cases trails
    | _ => cases trails
  induction bytes with
  | nil => rfl
  | cons b bytes more => rw [List.foldl_cons, stays b, more]

/-! ## The end of a number -/

theorem inNumber_of_more {phase next : Phase} {number grown : Counting} {b : UInt8}
    (more : number.step phase b = .more next grown) : inNumber b = true := by
  unfold inNumber
  cases digit : decimalDigit? b with
  | some d => rfl
  | none => cases phase <;> simp only [Counting.step, digit] at more <;> grind

theorem behind_ne_number (frames : List Frame) (node : Node) (phase : Phase) (number : Counting) :
    (behind frames node).point ≠ .number phase number := by
  cases frames with
  | nil => exact nofun
  | cons frame outer => cases frame <;> exact nofun

theorem openValue_number {frames : List Frame} {phase : Phase} {number : Counting} {b : UInt8}
    (reads : (openValue frames b).point = .number phase number) : inNumber b = true := by
  unfold openValue at reads
  split at reads
  iterate 8 cases reads
  · repeat' split at reads
    iterate 3 cases reads
    · rename_i minus
      rw [minus]
      rfl
    · rename_i more
      exact inNumber_of_more more
    all_goals cases reads

theorem after_ne_number {frames : List Frame} {point : Point} (b : UInt8) {phase : Phase}
    {number : Counting} (elsewhere : ∀ phase number, point ≠ .number phase number) :
    (after frames point b).point ≠ .number phase number := by
  unfold after
  split
  all_goals
    first
    | exact behind_ne_number _ _ _ _
    | exact elsewhere _ _
    | exact nofun

/-- Only a byte of a number leads into a number. -/
theorem step_number {state : State} {b : UInt8} {phase : Phase} {number : Counting}
    (reads : (state.step b).point = .number phase number) : inNumber b = true := by
  obtain ⟨frames, point⟩ := state
  cases point with
  | value => exact openValue_number reads
  | word letter left node =>
      simp only [step] at reads
      split at reads
      · split at reads
        · exact absurd reads (behind_ne_number _ _ _ _)
        · cases reads
      · cases reads
  | number phase number =>
      simp only [step] at reads
      split at reads
      · rename_i more
        exact inNumber_of_more more
      · cases reads
      · exact absurd reads (after_ne_number b (behind_ne_number _ _))
  | text pieces escape =>
      simp only [step] at reads
      split at reads
      · cases reads
      · exact absurd reads (behind_ne_number _ _ _ _)
      · cases reads
  | firstItem =>
      simp only [step] at reads
      split at reads
      · cases reads
      · exact absurd reads (behind_ne_number _ _ _ _)
      · exact openValue_number reads
  | afterItem items => exact absurd reads (after_ne_number b nofun)
  | firstKey =>
      simp only [step] at reads
      split at reads
      · cases reads
      · exact absurd reads (behind_ne_number _ _ _ _)
      · cases reads
      · cases reads
  | nextKey members =>
      simp only [step] at reads
      split at reads <;> cases reads
  | key members pieces escape =>
      simp only [step] at reads
      split at reads <;> cases reads
  | colon members key =>
      simp only [step] at reads
      split at reads <;> cases reads
  | afterMember members => exact absurd reads (after_ne_number b nofun)
  | complete node => exact absurd reads (after_ne_number b nofun)
  | trailing node => cases reads
  | settled node => cases reads

/-- So a text that does not end with such a byte shows all there is of its outline so far. -/
theorem finish_node {bytes : List UInt8}
    (ends : ∀ b, bytes.getLast? = some b → inNumber b = false) :
    let state := bytes.foldl step start
    state.finish.node = state.soFar := by
  intro state
  have elsewhere : ∀ phase number, state.point ≠ .number phase number := by
    intro phase number reads
    rcases List.eq_nil_or_concat bytes with rfl | ⟨front, b, rfl⟩
    · cases reads
    · simp only [state, List.concat_eq_append, List.foldl_append, List.foldl_cons, List.foldl_nil] at reads
      have last := ends b (by simp)
      rw [step_number reads] at last
      cases last
  unfold soFar
  split
  · rename_i reads
    exact absurd reads (elsewhere _ _)
  · rfl

end State

/-- What a text is read as grows into what any continuation of it is read as. -/
theorem scan_grows {bytes : List UInt8} (ends : ∀ b, bytes.getLast? = some b → inNumber b = false)
    (more : List UInt8) :
    (scan bytes).node.GrowsTo (scan (bytes ++ more)).node ∧
      ((scan bytes).trailing = true → scan (bytes ++ more) = scan bytes) := by
  unfold scan
  rw [List.foldl_append]
  constructor
  · rw [State.finish_node ends]
    exact (State.follow_grows _ more).trans (State.soFar_grows_finish _)
  · intro trails
    rw [State.follow_of_trailing trails]

end SpriteStage.Json
