/-
Module: SpriteStage.Proofs.Json.Recovery
Purpose: What is scanned was written. Of every state of the scanner it is told what the bytes that are left
  have to write so that the text ends with a whole value: what the point is waiting for, and then
  what the arrays and objects demand that are open around it. One byte leads from the demands behind
  it to those before it, so a text whose outline can be skipped holds one written value.
Main exports: Closes, State.Demands, State.step_demands, writtenAlone_of_scan
-/
import Mathlib.Data.List.Basic
import SpriteStage.Proofs.Json.Decision
import SpriteStage.Proofs.Json.Scanning

namespace SpriteStage.Json

/-- If a result is a value, so is what it was made of. -/
theorem bind_eq_ok {x : Except ε α} {next : α → Except ε β} {result : β} :
    x >>= next = .ok result ↔ ∃ value, x = .ok value ∧ next value = .ok result := by
  constructor
  · intro succeeds
    cases x with
    | ok value => exact ⟨value, rfl, succeeds⟩
    | error fault => cases succeeds
  · rintro ⟨value, rfl, succeeds⟩
    exact succeeds

/-! ## Outlines with a fault -/

theorem skip_of_item {value : Node} {rest : Items} (skips : (Items.item value rest).skip = .ok ()) :
    value.skip = .ok () ∧ rest.skip = .ok () := by
  obtain ⟨_, first, others⟩ := bind_eq_ok.mp skips
  exact ⟨first, others⟩

theorem skip_of_member {key : Text} {value : Node} {rest : Members}
    (skips : (Members.member key value rest).skip = .ok ()) :
    key.fault = none ∧ value.skip = .ok () ∧ rest.skip = .ok () := by
  simp only [Members.skip] at skips
  cases faults : key.fault with
  | some fault => simp [faults] at skips
  | none =>
      simp only [faults] at skips
      obtain ⟨_, first, others⟩ := bind_eq_ok.mp skips
      exact ⟨rfl, first, others⟩

theorem skip_of_prependItems {before : List Node} {items : Items}
    (skips : (Items.prepend before items).skip = .ok ()) : items.skip = .ok () := by
  induction before generalizing items with
  | nil => exact skips
  | cons value before more => exact (skip_of_item (more skips)).2

theorem skip_of_prependMembers {before : List (Text × Node)} {members : Members}
    (skips : (Members.prepend before members).skip = .ok ()) : members.skip = .ok () := by
  induction before generalizing members with
  | nil => exact skips
  | cons member before more => exact (skip_of_member (more skips)).2.2

/-- What cannot be skipped cannot be skipped within anything else. -/
theorem skip_of_enclose {frames : List Frame} {node : Node}
    (skips : (State.enclose frames node).skip = .ok ()) : node.skip = .ok () := by
  induction frames generalizing node with
  | nil => exact skips
  | cons frame outer more =>
      cases frame with
      | items before => exact (skip_of_item (skip_of_prependItems (more skips))).1
      | members before key => exact (skip_of_member (skip_of_prependMembers (more skips))).2.1

theorem broken_not_skipped (fault : Fault) : (Node.broken fault).skip ≠ .ok () := by
  intro skips
  cases skips

theorem cutText_not_skipped (pieces : List Piece) (fault : Fault) :
    (Node.text (Text.ofPieces pieces (some fault))).skip ≠ .ok () := by
  intro skips
  cases skips

theorem cutArray_not_skipped (items : List Node) (fault : Fault) :
    (Node.array (Items.prepend items (.cut fault))).skip ≠ .ok () := by
  intro skips
  cases skip_of_prependItems skips

theorem cutObject_not_skipped (members : List (Text × Node)) (fault : Fault) :
    (State.cutObject members fault).skip ≠ .ok () := by
  intro skips
  cases skip_of_prependMembers skips

theorem cutMember_not_skipped (members : List (Text × Node)) (key : Text) (fault : Fault) :
    (State.cutMember members key fault).skip ≠ .ok () := by
  intro skips
  cases (skip_of_member (skip_of_prependMembers skips)).2.1

/-! ## Demands -/

/-- What the frames around a value demand of the bytes behind it, if the whole is to be a given value. -/
def Closes : List Frame → Node → List UInt8 → Node → Prop
  | [], node, bytes, whole => whole = node ∧ Blanks bytes []
  | .items before :: outer, node, bytes, whole =>
    ∃ more rest, Items.Written bytes more rest ∧
      Closes outer (.array (Items.prepend (node :: before) more)) rest whole
  | .members before key :: outer, node, bytes, whole =>
    ∃ more rest, Members.Written bytes more rest ∧
      Closes outer (.object (Members.prepend ((key, node) :: before) more)) rest whole

/-- A value is due. -/
def ValueDue (frames : List Frame) (bytes : List UInt8) (whole : Node) : Prop :=
  ∃ start value rest, Blanks bytes start ∧ Node.Written start value rest ∧ Closes frames value rest whole

/-- A colon is due, and then the value of a key. -/
def ColonDue (frames : List Frame) (members : List (Text × Node)) (key : Text) (bytes : List UInt8)
    (whole : Node) : Prop :=
  ∃ before, Blanks bytes (ascii ':' :: before) ∧ ValueDue (.members members key :: frames) before whole

/-- A key is due, and then its value. -/
def KeyDue (frames : List Frame) (members : List (Text × Node)) (bytes : List UInt8) (whole : Node) :
    Prop :=
  ∃ first key colon, Blanks bytes first ∧ Text.Written first key colon ∧
    ColonDue frames members key colon whole

/-- What was spelled of an escape so far. -/
def Escape.spelled : Escape → List UInt8
  | .outside => []
  | .begun => [ascii '\\']
  | .unit digits => ascii '\\' :: ascii 'u' :: digits.reverse

/-- Whether a code unit still lacks a digit. -/
def Escape.open : Escape → Prop
  | .outside | .begun => True
  | .unit digits => digits.length ≤ 3

/-- The rest of a text between quotes is due, and then whatever has to stand behind the text. -/
def PiecesDue (pieces : List Piece) (escape : Escape) (bytes : List UInt8)
    (behind : Text → List UInt8 → Prop) : Prop :=
  escape.open → ∃ more rest, Pieces.Written (escape.spelled ++ bytes) more (ascii '"' :: rest) ∧
    behind ⟨pieces.reverse ++ more, none⟩ rest

/-- What a state demands of the bytes that are left, if the text is to have a given outline. -/
def State.Demands (state : State) (bytes : List UInt8) (whole : Node) : Prop :=
  let frames := state.frames
  match state.point with
  | .value => ValueDue frames bytes whole
  | .word letter left node => ∃ rest, bytes = letter :: (left ++ rest) ∧ Closes frames node rest whole
  | .number phase n =>
    ∃ more rest last m, bytes = more ++ rest ∧ n.run phase more = some (last, m) ∧
      last.canEnd = true ∧ Closes frames (.number m.literal) rest whole
  | .text pieces escape =>
    PiecesDue pieces escape bytes fun text rest => Closes frames (.text text) rest whole
  | .firstItem =>
    (∃ rest, Blanks bytes (ascii ']' :: rest) ∧ Closes frames (.array .done) rest whole) ∨
      ValueDue (.items [] :: frames) bytes whole
  | .afterItem items =>
    ∃ more rest, Items.Written bytes more rest ∧
      Closes frames (.array (Items.prepend items more)) rest whole
  | .firstKey =>
    (∃ rest, Blanks bytes (125 :: rest) ∧ Closes frames (.object .done) rest whole) ∨
      KeyDue frames [] bytes whole
  | .nextKey members => KeyDue frames members bytes whole
  | .key members pieces escape =>
    PiecesDue pieces escape bytes fun key colon => ColonDue frames members key colon whole
  | .colon members key => ColonDue frames members key bytes whole
  | .afterMember members =>
    ∃ more rest, Members.Written bytes more rest ∧
      Closes frames (.object (Members.prepend members more)) rest whole
  | .complete node => whole = node ∧ Blanks bytes []
  | .trailing _ => False
  | .settled node => whole = node

/-- Behind a value, the demands are those of the frames around it. -/
theorem demands_behind (frames : List Frame) (node : Node) (bytes : List UInt8) (whole : Node) :
    (State.behind frames node).Demands bytes whole = Closes frames node bytes whole := by
  cases frames with
  | nil => rfl
  | cons frame outer => cases frame <;> rfl

/-- A settled outline that can be skipped was not settled by a fault. -/
theorem not_demands_settle {frames : List Frame} {node : Node} {bytes : List UInt8} {whole : Node}
    (skips : whole.skip = .ok ()) (faulty : node.skip ≠ .ok ()) :
    ¬(State.settle frames node).Demands bytes whole := by
  rintro rfl
  exact faulty (skip_of_enclose skips)

/-! ## One byte -/

/-- The bytes that have a mark. -/
def Mark.Marks : Mark → UInt8 → Prop
  | .blank, b => isBlank b = true
  | .comma, b => b = ascii ','
  | .colon, b => b = ascii ':'
  | .openArray, b => b = ascii '['
  | .closeArray, b => b = ascii ']'
  | .openObject, b => b = 123
  | .closeObject, b => b = 125
  | .quote, b => b = ascii '"'
  | .other, _ => True

theorem marks_of_mark {b : UInt8} {mark : Mark} (marked : Mark.ofByte b = mark) : mark.Marks b := by
  subst marked
  unfold Mark.ofByte
  by_cases blank : b = ascii ' ' ∨ b = ascii '\n' ∨ b = ascii '\t' ∨ b = ascii '\r'
  · rw [if_pos blank]
    rcases blank with rfl | rfl | rfl | rfl <;> rfl
  · rw [if_neg blank]
    repeat' split
    all_goals first | assumption | trivial

/-- One more byte of a text between quotes. -/
theorem PiecesDue.step {pieces grown : List Piece} {escape next : Escape} {b : UInt8}
    (spells : spell pieces escape b = .more grown next) {bytes : List UInt8}
    {behind : Text → List UInt8 → Prop} (due : PiecesDue grown next bytes behind) :
    PiecesDue pieces escape (b :: bytes) behind := by
  intro isOpen
  cases escape with
  | outside =>
      simp only [spell] at spells
      split at spells
      · cases spells
      rename_i quote
      split at spells
      · rename_i backslash
        cases spells
        rw [backslash]
        exact due trivial
      rename_i backslash
      split at spells
      · cases spells
      rename_i printable
      cases spells
      obtain ⟨more, rest, written, goesOn⟩ := due trivial
      refine ⟨.plain b :: more, rest, .plain printable quote backslash written, ?_⟩
      rwa [List.reverse_cons, List.append_assoc] at goesOn
  | begun =>
      simp only [spell] at spells
      split at spells
      · rename_i unit
        cases spells
        rw [unit]
        exact due (Nat.zero_le 3)
      · split at spells
        · rename_i byte escapes
          cases spells
          obtain ⟨more, rest, written, goesOn⟩ := due trivial
          refine ⟨.escaped byte :: more, rest, .escaped escapes written, ?_⟩
          rwa [List.reverse_cons, List.append_assoc] at goesOn
        · cases spells
  | unit digits =>
      simp only [spell] at spells
      split at spells
      · rename_i few
        cases spells
        obtain ⟨more, rest, written, goesOn⟩ := due (Nat.succ_le_of_lt few)
        refine ⟨more, rest, ?_, goesOn⟩
        simpa [Escape.spelled] using written
      · rename_i enough
        split at spells
        · rename_i code number
          cases spells
          obtain ⟨more, rest, written, goesOn⟩ := due trivial
          obtain ⟨z, y, x, rfl⟩ : ∃ z y x, digits = [z, y, x] :=
            List.length_eq_three.mp (Nat.le_antisymm isOpen (Nat.le_of_not_lt enough))
          refine ⟨.unit code :: more, rest, .unit number written, ?_⟩
          rwa [List.reverse_cons, List.append_assoc] at goesOn
        · cases spells

/-- The closing quote. -/
theorem PiecesDue.close {pieces : List Piece} {escape : Escape} {b : UInt8}
    (closes : spell pieces escape b = .closed) {bytes : List UInt8}
    {behind : Text → List UInt8 → Prop} (goesOn : behind (Text.ofPieces pieces none) bytes) :
    PiecesDue pieces escape (b :: bytes) behind := by
  intro _
  cases escape with
  | outside =>
      simp only [spell] at closes
      split at closes
      · rename_i quote
        rw [quote]
        refine ⟨[], bytes, .none _, ?_⟩
        rwa [List.append_nil]
      · repeat' split at closes
        all_goals cases closes
  | begun =>
      simp only [spell] at closes
      repeat' split at closes
      all_goals cases closes
  | unit digits =>
      simp only [spell] at closes
      repeat' split at closes
      all_goals cases closes

/-- A text between quotes is a key. -/
theorem keyDue_of_pieces {frames : List Frame} {members : List (Text × Node)} {bytes : List UInt8}
    {whole : Node}
    (due : PiecesDue [] .outside bytes fun key colon => ColonDue frames members key colon whole) :
    KeyDue frames members (ascii '"' :: bytes) whole := by
  obtain ⟨more, rest, written, colon⟩ := due trivial
  exact ⟨_, _, rest, .none _, .quoted written, colon⟩

theorem KeyDue.blank {frames : List Frame} {members : List (Text × Node)} {b : UInt8}
    (blank : isBlank b = true) {bytes : List UInt8} {whole : Node} :
    KeyDue frames members bytes whole → KeyDue frames members (b :: bytes) whole
  | ⟨first, key, colon, blanks, written, due⟩ =>
    ⟨first, key, colon, .more blank blanks, written, due⟩

theorem ValueDue.blank {frames : List Frame} {b : UInt8} (blank : isBlank b = true)
    {bytes : List UInt8} {whole : Node} : ValueDue frames bytes whole → ValueDue frames (b :: bytes) whole
  | ⟨start, value, rest, blanks, written, closes⟩ =>
    ⟨start, value, rest, .more blank blanks, written, closes⟩

/-- A count that ends was that of a written number, with its sign in front of it. -/
theorem valueDue_of_counting {negative : Bool} {more rest : List UInt8} {last : Phase} {m : Counting}
    (runs : (Counting.start negative).run .sign more = some (last, m)) (ends : last.canEnd = true)
    {frames : List Frame} {whole : Node} (closes : Closes frames (.number m.literal) rest whole) :
    ValueDue frames ((if negative then ascii '-' :: more else more) ++ rest) whole := by
  obtain ⟨written, rfl, rfl, literal⟩ := Counting.written_of_run runs ends
  rw [literal] at closes
  exact ⟨_, _, rest, .none _, .number written rest, closes⟩

/-- The first byte of a value. -/
theorem openValue_demands {frames : List Frame} {b : UInt8} {bytes : List UInt8} {whole : Node}
    (skips : whole.skip = .ok ()) (demands : (State.openValue frames b).Demands bytes whole) :
    ValueDue frames (b :: bytes) whole := by
  have faulty : ∀ {bytes}, ¬(State.settle frames (.broken .malformed)).Demands bytes whole :=
    not_demands_settle skips (broken_not_skipped .malformed)
  cases mark : Mark.ofByte b with
  | comma | colon | closeArray | closeObject =>
      simp only [State.openValue, mark] at demands
      exact absurd demands faulty
  | blank =>
      have byte : _ = _ := marks_of_mark mark
      simp only [State.openValue, mark] at demands
      exact demands.blank byte
  | openArray =>
      have byte : _ = _ := marks_of_mark mark
      simp only [State.openValue, mark] at demands
      rw [byte]
      rcases demands with ⟨rest, blanks, closes⟩ | ⟨first, value, behind, blanks, written, closes⟩
      · exact ⟨_, _, rest, .none _, .emptyArray blanks, closes⟩
      · obtain ⟨items, rest, others, closes⟩ := closes
        exact ⟨_, _, rest, .none _, .array blanks written others, closes⟩
  | openObject =>
      have byte : _ = _ := marks_of_mark mark
      simp only [State.openValue, mark] at demands
      rw [byte]
      rcases demands with ⟨rest, blanks, closes⟩ | ⟨first, key, colon, blanks, text, due⟩
      · exact ⟨_, _, rest, .none _, .emptyObject blanks, closes⟩
      · obtain ⟨before, colons, start, value, behind, starts, written, closes⟩ := due
        obtain ⟨members, rest, others, closes⟩ := closes
        exact ⟨_, _, rest, .none _, .object blanks text colons starts written others, closes⟩
  | quote =>
      have byte : _ = _ := marks_of_mark mark
      simp only [State.openValue, mark] at demands
      rw [byte]
      obtain ⟨more, rest, written, closes⟩ := demands trivial
      exact ⟨_, _, rest, .none _, .text (.quoted written), closes⟩
  | other =>
      simp only [State.openValue, mark] at demands
      split at demands
      · rename_i letter
        obtain ⟨rest, rfl, closes⟩ := demands
        rw [letter]
        exact ⟨_, _, rest, .none _, .null rest, closes⟩
      split at demands
      · rename_i letter
        obtain ⟨rest, rfl, closes⟩ := demands
        rw [letter]
        exact ⟨_, _, rest, .none _, .true rest, closes⟩
      split at demands
      · rename_i letter
        obtain ⟨rest, rfl, closes⟩ := demands
        rw [letter]
        exact ⟨_, _, rest, .none _, .false rest, closes⟩
      split at demands
      · rename_i minus
        obtain ⟨more, rest, last, m, rfl, runs, ends, closes⟩ := demands
        rw [minus]
        exact valueDue_of_counting runs ends closes
      · split at demands
        · rename_i begins
          obtain ⟨more, rest, last, m, rfl, runs, ends, closes⟩ := demands
          refine @valueDue_of_counting false (b :: more) rest last m ?_ ends _ _ closes
          rw [Counting.run, begins]
          exact runs
        · exact absurd demands faulty
        · exact absurd demands faulty

theorem Items.Written.blank {b : UInt8} (blank : isBlank b = true) {bytes rest : List UInt8}
    {items : Items} : Items.Written bytes items rest → Items.Written (b :: bytes) items rest
  | .close blanks => .close (.more blank blanks)
  | .item comma start value more => .item (.more blank comma) start value more

theorem Members.Written.blank {b : UInt8} (blank : isBlank b = true) {bytes rest : List UInt8}
    {members : Members} : Members.Written bytes members rest → Members.Written (b :: bytes) members rest
  | .close blanks => .close (.more blank blanks)
  | .member comma next key colon start value more =>
    .member (.more blank comma) next key colon start value more

/-- A byte behind an item. -/
theorem afterItem_demands {frames : List Frame} {items : List Node} {b : UInt8} {bytes : List UInt8}
    {whole : Node} (skips : whole.skip = .ok ())
    (demands : (State.after frames (.afterItem items) b).Demands bytes whole) :
    State.Demands ⟨frames, .afterItem items⟩ (b :: bytes) whole := by
  cases mark : Mark.ofByte b with
  | blank =>
      simp only [State.after, mark] at demands
      obtain ⟨more, rest, written, closes⟩ := demands
      exact ⟨more, rest, written.blank (marks_of_mark mark), closes⟩
  | comma =>
      have byte : b = ascii ',' := marks_of_mark mark
      simp only [State.after, mark] at demands
      obtain ⟨start, value, behind, blanks, written, more, rest, others, closes⟩ := demands
      rw [byte]
      exact ⟨.item value more, rest, .item (.none _) blanks written others, closes⟩
  | closeArray =>
      have byte : b = ascii ']' := marks_of_mark mark
      simp only [State.after, mark] at demands
      rw [demands_behind] at demands
      rw [byte]
      exact ⟨.done, bytes, .close (.none _), demands⟩
  | colon | openArray | openObject | closeObject | quote | other =>
      simp only [State.after, mark] at demands
      exact absurd demands (not_demands_settle skips (cutArray_not_skipped items .malformed))

/-- A byte behind a member. -/
theorem afterMember_demands {frames : List Frame} {members : List (Text × Node)} {b : UInt8}
    {bytes : List UInt8} {whole : Node} (skips : whole.skip = .ok ())
    (demands : (State.after frames (.afterMember members) b).Demands bytes whole) :
    State.Demands ⟨frames, .afterMember members⟩ (b :: bytes) whole := by
  cases mark : Mark.ofByte b with
  | blank =>
      simp only [State.after, mark] at demands
      obtain ⟨more, rest, written, closes⟩ := demands
      exact ⟨more, rest, written.blank (marks_of_mark mark), closes⟩
  | comma =>
      have byte : b = ascii ',' := marks_of_mark mark
      simp only [State.after, mark] at demands
      obtain ⟨first, key, colon, blanks, text, before, colons, valueDue⟩ := demands
      obtain ⟨start, value, behind, starts, written, more, rest, others, closes⟩ := valueDue
      rw [byte]
      exact ⟨.member key value more, rest, .member (.none _) blanks text colons starts written others, closes⟩
  | closeObject =>
      have byte : b = 125 := marks_of_mark mark
      simp only [State.after, mark] at demands
      rw [demands_behind] at demands
      rw [byte]
      exact ⟨.done, bytes, .close (.none _), demands⟩
  | colon | openArray | closeArray | openObject | quote | other =>
      simp only [State.after, mark] at demands
      exact absurd demands (not_demands_settle skips (cutObject_not_skipped members .malformed))

/-- A byte behind the value of the whole text. -/
theorem complete_demands {frames : List Frame} {node : Node} {b : UInt8} {bytes : List UInt8}
    {whole : Node} (demands : (State.after frames (.complete node) b).Demands bytes whole) :
    State.Demands ⟨frames, .complete node⟩ (b :: bytes) whole := by
  cases mark : Mark.ofByte b with
  | blank =>
      simp only [State.after, mark] at demands
      exact ⟨demands.1, .more (marks_of_mark mark) demands.2⟩
  | comma | colon | openArray | closeArray | openObject | closeObject | quote | other =>
      simp only [State.after, mark] at demands
      exact demands.elim

/-- A byte behind any value. -/
theorem behind_demands {frames : List Frame} {node : Node} {b : UInt8} {bytes : List UInt8}
    {whole : Node} (skips : whole.skip = .ok ())
    (demands : (State.after (State.behind frames node).frames (State.behind frames node).point b).Demands
      bytes whole) : Closes frames node (b :: bytes) whole := by
  rw [← demands_behind]
  cases frames with
  | nil => exact complete_demands demands
  | cons frame outer =>
      cases frame with
      | items before => exact afterItem_demands skips demands
      | members before key => exact afterMember_demands skips demands

/-- A letter of a word. -/
theorem word_demands {frames : List Frame} {letter : UInt8} {left : List UInt8} {node : Node} {b : UInt8}
    {bytes : List UInt8} {whole : Node} (skips : whole.skip = .ok ())
    (demands : (State.step ⟨frames, .word letter left node⟩ b).Demands bytes whole) :
    State.Demands ⟨frames, .word letter left node⟩ (b :: bytes) whole := by
  simp only [State.step] at demands
  split at demands
  · rename_i due
    rw [due]
    split at demands
    · rw [demands_behind] at demands
      exact ⟨bytes, rfl, demands⟩
    · obtain ⟨rest, rfl, closes⟩ := demands
      exact ⟨rest, rfl, closes⟩
  · exact absurd demands (not_demands_settle skips (broken_not_skipped .malformed))

/-- A byte of a number, or the first byte behind it. -/
theorem number_demands {frames : List Frame} {phase : Phase} {n : Counting} {b : UInt8}
    {bytes : List UInt8} {whole : Node} (skips : whole.skip = .ok ())
    (demands : (State.step ⟨frames, .number phase n⟩ b).Demands bytes whole) :
    State.Demands ⟨frames, .number phase n⟩ (b :: bytes) whole := by
  simp only [State.step] at demands
  split at demands
  · rename_i counts
    obtain ⟨more, rest, last, m, rfl, runs, ends, closes⟩ := demands
    exact ⟨b :: more, rest, last, m, rfl, by rw [Counting.run, counts]; exact runs, ends, closes⟩
  · exact absurd demands (not_demands_settle skips (broken_not_skipped .malformed))
  · rename_i outside
    have ends : phase.canEnd = true := by
      cases phase <;> cases digit : decimalDigit? b <;>
        simp only [Counting.step, digit] at outside <;> grind [Phase.canEnd]
    exact ⟨[], b :: bytes, phase, n, rfl, rfl, ends, behind_demands skips demands⟩

/-- A byte of a text that is a value. -/
theorem text_demands {frames : List Frame} {pieces : List Piece} {escape : Escape} {b : UInt8}
    {bytes : List UInt8} {whole : Node} (skips : whole.skip = .ok ())
    (demands : (State.step ⟨frames, .text pieces escape⟩ b).Demands bytes whole) :
    PiecesDue pieces escape (b :: bytes) fun text rest => Closes frames (.text text) rest whole := by
  simp only [State.step] at demands
  split at demands
  · exact PiecesDue.step ‹_› demands
  · rw [demands_behind] at demands
    exact PiecesDue.close ‹_› demands
  · exact absurd demands (not_demands_settle skips (cutText_not_skipped _ .malformed))

/-- A byte of a key. -/
theorem key_demands {frames : List Frame} {members : List (Text × Node)} {pieces : List Piece}
    {escape : Escape} {b : UInt8} {bytes : List UInt8} {whole : Node} (skips : whole.skip = .ok ())
    (demands : (State.step ⟨frames, .key members pieces escape⟩ b).Demands bytes whole) :
    PiecesDue pieces escape (b :: bytes) fun key colon => ColonDue frames members key colon whole := by
  simp only [State.step] at demands
  split at demands
  · exact PiecesDue.step ‹_› demands
  · exact PiecesDue.close ‹_› demands
  · exact absurd demands (not_demands_settle skips (cutMember_not_skipped members _ .malformed))

/-- A byte behind an opening bracket. -/
theorem firstItem_demands {frames : List Frame} {b : UInt8} {bytes : List UInt8} {whole : Node}
    (skips : whole.skip = .ok ())
    (demands : (State.step ⟨frames, .firstItem⟩ b).Demands bytes whole) :
    State.Demands ⟨frames, .firstItem⟩ (b :: bytes) whole := by
  cases mark : Mark.ofByte b with
  | blank =>
      have blank : isBlank b = true := marks_of_mark mark
      simp only [State.step, mark] at demands
      rcases demands with ⟨rest, blanks, closes⟩ | due
      · exact Or.inl ⟨rest, .more blank blanks, closes⟩
      · exact Or.inr (due.blank blank)
  | closeArray =>
      have byte : b = ascii ']' := marks_of_mark mark
      simp only [State.step, mark] at demands
      rw [demands_behind] at demands
      rw [byte]
      exact Or.inl ⟨bytes, .none _, demands⟩
  | comma | colon | openArray | openObject | closeObject | quote | other =>
      simp only [State.step, mark] at demands
      exact Or.inr (openValue_demands skips demands)

/-- A byte behind a comma in an object. -/
theorem nextKey_demands {frames : List Frame} {members : List (Text × Node)} {b : UInt8}
    {bytes : List UInt8} {whole : Node} (skips : whole.skip = .ok ())
    (demands : (State.step ⟨frames, .nextKey members⟩ b).Demands bytes whole) :
    KeyDue frames members (b :: bytes) whole := by
  cases mark : Mark.ofByte b with
  | blank =>
      simp only [State.step, mark] at demands
      exact KeyDue.blank (marks_of_mark mark) demands
  | quote =>
      have byte : b = ascii '"' := marks_of_mark mark
      simp only [State.step, mark] at demands
      rw [byte]
      exact keyDue_of_pieces demands
  | comma | colon | openArray | closeArray | openObject | closeObject | other =>
      simp only [State.step, mark] at demands
      exact absurd demands (not_demands_settle skips (cutObject_not_skipped members .malformed))

/-- A byte behind an opening brace. -/
theorem firstKey_demands {frames : List Frame} {b : UInt8} {bytes : List UInt8} {whole : Node}
    (skips : whole.skip = .ok ())
    (demands : (State.step ⟨frames, .firstKey⟩ b).Demands bytes whole) :
    State.Demands ⟨frames, .firstKey⟩ (b :: bytes) whole := by
  cases mark : Mark.ofByte b with
  | blank =>
      have blank : isBlank b = true := marks_of_mark mark
      simp only [State.step, mark] at demands
      rcases demands with ⟨rest, blanks, closes⟩ | due
      · exact Or.inl ⟨rest, .more blank blanks, closes⟩
      · exact Or.inr (due.blank blank)
  | closeObject =>
      have byte : b = 125 := marks_of_mark mark
      simp only [State.step, mark] at demands
      rw [demands_behind] at demands
      rw [byte]
      exact Or.inl ⟨bytes, .none _, demands⟩
  | comma | colon | openArray | closeArray | openObject | quote | other =>
      -- From here on it is as behind a comma.
      refine Or.inr (nextKey_demands skips ?_)
      simpa only [State.step, mark] using demands

/-- A byte behind a key. -/
theorem colon_demands {frames : List Frame} {members : List (Text × Node)} {key : Text} {b : UInt8}
    {bytes : List UInt8} {whole : Node} (skips : whole.skip = .ok ())
    (demands : (State.step ⟨frames, .colon members key⟩ b).Demands bytes whole) :
    ColonDue frames members key (b :: bytes) whole := by
  cases mark : Mark.ofByte b with
  | blank =>
      simp only [State.step, mark] at demands
      obtain ⟨before, colons, due⟩ := demands
      exact ⟨before, .more (marks_of_mark mark) colons, due⟩
  | colon =>
      have byte : b = ascii ':' := marks_of_mark mark
      simp only [State.step, mark] at demands
      rw [byte]
      exact ⟨bytes, .none _, demands⟩
  | comma | openArray | closeArray | openObject | closeObject | quote | other =>
      simp only [State.step, mark] at demands
      exact absurd demands (not_demands_settle skips (cutMember_not_skipped members key .malformed))

/-- What is demanded behind a byte makes of it what is demanded before it. -/
theorem State.step_demands {state : State} {b : UInt8} {bytes : List UInt8} {whole : Node}
    (skips : whole.skip = .ok ()) (demands : (state.step b).Demands bytes whole) :
    state.Demands (b :: bytes) whole := by
  obtain ⟨frames, point⟩ := state
  cases point with
  | value => exact openValue_demands skips demands
  | word letter left node => exact word_demands skips demands
  | number phase n => exact number_demands skips demands
  | text pieces escape => exact text_demands skips demands
  | firstItem => exact firstItem_demands skips demands
  | afterItem items => exact afterItem_demands skips demands
  | firstKey => exact firstKey_demands skips demands
  | nextKey members => exact nextKey_demands skips demands
  | key members pieces escape => exact key_demands skips demands
  | colon members key => exact colon_demands skips demands
  | afterMember members => exact afterMember_demands skips demands
  | complete node => exact complete_demands demands
  | trailing node => exact demands
  | settled node => exact demands

/-! ## Whole texts -/

/-- At the end of a text nothing more may be demanded. -/
theorem State.finish_demands {state : State} {whole : Node} (skips : whole.skip = .ok ())
    (ends : state.finish = ⟨whole, false⟩) : state.Demands [] whole := by
  obtain ⟨frames, point⟩ := state
  have faulty : ∀ {frames : List Frame} {node : Node}, node.skip ≠ .ok () →
      (⟨enclose frames node, false⟩ : Document) ≠ ⟨whole, false⟩ := by
    rintro frames node fault same
    cases same
    exact fault (skip_of_enclose skips)
  cases point with
  | number phase n =>
      simp only [finish] at ends
      split at ends
      · rename_i canEnd
        refine ⟨[], [], phase, n, rfl, rfl, canEnd, ?_⟩
        cases frames with
        | nil =>
            cases ends
            exact ⟨rfl, .none _⟩
        | cons frame outer =>
            cases frame with
            | items before => exact absurd ends (faulty (cutArray_not_skipped (_ :: before) .ended))
            | members before key => exact absurd ends (faulty (cutObject_not_skipped (_ :: before) .ended))
      · refine absurd ends (faulty ?_)
        intro skips
        cases skips
  | complete node =>
      cases ends
      exact ⟨rfl, .none _⟩
  | trailing node => cases ends
  | settled node =>
      cases ends
      rfl
  | afterItem items => exact absurd ends (faulty (cutArray_not_skipped items .ended))
  | afterMember members => exact absurd ends (faulty (cutObject_not_skipped members .ended))
  | firstItem => exact absurd ends (faulty (cutArray_not_skipped [] .ended))
  | firstKey => exact absurd ends (faulty (cutObject_not_skipped [] .ended))
  | nextKey members => exact absurd ends (faulty (cutObject_not_skipped members .ended))
  | key members pieces escape => exact absurd ends (faulty (cutMember_not_skipped members _ .ended))
  | colon members key => exact absurd ends (faulty (cutMember_not_skipped members key .ended))
  | text pieces escape => exact absurd ends (faulty (cutText_not_skipped pieces .ended))
  | value | word => exact absurd ends (faulty (broken_not_skipped .ended))

theorem State.run_demands {bytes : List UInt8} {whole : Node} (skips : whole.skip = .ok ()) {state : State}
    (runs : state.run bytes = ⟨whole, false⟩) : state.Demands bytes whole := by
  induction bytes generalizing state with
  | nil => exact finish_demands skips runs
  | cons b bytes more => exact step_demands skips (more runs)

/-- A text whose outline can be skipped holds the value that the outline is. -/
theorem writtenAlone_of_scan {bytes : List UInt8} {node : Node} (scans : scan bytes = ⟨node, false⟩)
    (skips : node.skip = .ok ()) : Node.WrittenAlone bytes node := by
  obtain ⟨start, value, behind, blanks, written, rfl, trails⟩ :=
    @State.run_demands bytes node skips .start scans
  exact .alone blanks written trails

/-! ## What is written can be skipped -/

theorem Text.Written.fault_eq {bytes rest : List UInt8} {text : Text}
    (written : Text.Written bytes text rest) : text.fault = none := by
  cases written with
  | quoted => rfl

mutual

theorem Node.Written.skips {bytes rest : List UInt8} {node : Node} :
    Node.Written bytes node rest → node.skip = .ok ()
  | .null _ => rfl
  | .true _ => rfl
  | .false _ => rfl
  | .number _ _ => rfl
  | .text written => by simp only [Node.skip, written.fault_eq]
  | .emptyArray _ => rfl
  | .array _ value items => by
      simp only [Node.skip, Items.skip, value.skips]
      exact items.skips
  | .emptyObject _ => rfl
  | .object _ key _ _ value members => by
      simp only [Node.skip, Members.skip, key.fault_eq, value.skips]
      exact members.skips

theorem Items.Written.skips {bytes rest : List UInt8} {items : Items} :
    Items.Written bytes items rest → items.skip = .ok ()
  | .close _ => rfl
  | .item _ _ value items => by
      simp only [Items.skip, value.skips]
      exact items.skips

theorem Members.Written.skips {bytes rest : List UInt8} {members : Members} :
    Members.Written bytes members rest → members.skip = .ok ()
  | .close _ => rfl
  | .member _ _ key _ _ value members => by
      simp only [Members.skip, key.fault_eq, value.skips]
      exact members.skips

end

theorem Node.WrittenAlone.skips {bytes : List UInt8} {node : Node} :
    Node.WrittenAlone bytes node → node.skip = .ok ()
  | .alone _ value _ => value.skips

/-! ## What is read can be skipped -/

/-- A reader that takes nothing but what was read to its end. -/
def Whole (read : Node → Except Fault α) : Prop :=
  ∀ ⦃node : Node⦄ ⦃value : α⦄, read node = .ok value → node.skip = .ok ()

/-- What was cut short by a fault has no bytes. -/
theorem decodePieces_of_fault (fault : Fault) (pieces : List Piece) :
    ∃ other, decodePieces (some fault) pieces = .error other := by
  -- Whatever further bytes would be put behind, there are none.
  have fails : ∀ {rest : Except Fault (List UInt8)} (front : List UInt8),
      (∃ other, rest = .error other) → ∃ other, (do return front ++ (← rest)) = .error other := by
    rintro _ front ⟨other, rfl⟩
    exact ⟨other, rfl⟩
  fun_induction decodePieces (some fault) pieces with
  | case1 cut given => exact ⟨cut, rfl⟩
  | case2 given => cases given
  | case3 byte rest further => exact fails [byte] further
  | case4 byte rest further => exact fails [byte] further
  | case5 high isHigh low rest isLow further => exact fails _ further
  | case6 high isHigh low rest notLow => exact ⟨_, rfl⟩
  | case7 high isHigh => exact ⟨_, rfl⟩
  | case8 high rest isHigh noUnit notEmpty => exact ⟨_, rfl⟩
  | case9 low rest notHigh isLow => exact ⟨_, rfl⟩
  | case10 code rest notHigh notLow further => exact fails _ further

theorem fault_of_decode {text : Text} {string : String} (decodes : text.decode = .ok string) :
    text.fault = none := by
  obtain ⟨pieces, fault⟩ := text
  cases fault with
  | none => rfl
  | some fault =>
      obtain ⟨other, fails⟩ := decodePieces_of_fault fault pieces
      simp only [Text.decode, fails] at decodes
      cases decodes

theorem readText_whole : Whole Node.readText := by
  intro node string reads
  cases node with
  | text text => simp only [Node.skip, fault_of_decode reads]
  | _ => cases reads

theorem readFloat_whole : Whole Node.readFloat := by
  intro node x reads
  cases node with
  | number literal => rfl
  | _ => cases reads

theorem readNat_whole (limit : Nat) : Whole (Node.readNat limit) := by
  intro node n reads
  cases node with
  | number literal => rfl
  | _ => cases reads

/-- What is made of a value that was read. -/
theorem Whole.bind {read : Node → Except Fault α} (whole : Whole read) (use : α → Except Fault β) :
    Whole fun node => read node >>= use := by
  intro node result reads
  obtain ⟨value, reads, _⟩ := bind_eq_ok.mp reads
  exact whole reads

theorem readOption_whole {read : Node → Except Fault α} (whole : Whole read) :
    Whole (Node.readOption read) := by
  intro node value reads
  have inside : ∀ {node : Node} {value : Option α}, some <$> read node = .ok value →
      node.skip = .ok () := by
    intro node value reads
    cases result : read node with
    | ok inner => exact whole result
    | error fault =>
        rw [result] at reads
        cases reads
  cases node with
  | null => rfl
  | _ => exact inside reads

theorem readAll_whole {read : Node → Except Fault α} (whole : Whole read) {items : Items}
    {values : List α} (reads : items.readAll read = .ok values) : items.skip = .ok () := by
  match items, reads with
  | .done, _ => rfl
  | .item value rest, reads =>
      obtain ⟨first, head, reads⟩ := bind_eq_ok.mp reads
      obtain ⟨others, tail, _⟩ := bind_eq_ok.mp reads
      simp only [Items.skip, whole head]
      exact readAll_whole whole tail

theorem readList_whole {read : Node → Except Fault α} (whole : Whole read) :
    Whole (Node.readList read) := by
  intro node values reads
  cases node with
  | array items => exact readAll_whole whole reads
  | _ => cases reads

theorem members_readFields_whole {fields : List (RecordField δ)}
    (whole : ∀ field ∈ fields, ∀ draft, Whole fun node => field.read node draft)
    {members : Members} {draft late : δ} (reads : members.readFields fields draft = .ok late) :
    members.skip = .ok () := by
  match members, reads with
  | .done, _ => rfl
  | .member key value rest, reads =>
      obtain ⟨name, decodes, reads⟩ := bind_eq_ok.mp reads
      simp only [Members.skip, fault_of_decode decodes]
      cases asked : fields.find? fun field => field.name = name with
      | none =>
          simp only [asked] at reads
          obtain ⟨_, skips, reads⟩ := bind_eq_ok.mp reads
          rw [skips]
          exact members_readFields_whole whole reads
      | some field =>
          simp only [asked] at reads
          split at reads
          · cases reads
          · obtain ⟨next, taken, reads⟩ := bind_eq_ok.mp reads
            rw [whole field (List.mem_of_find?_eq_some asked) draft taken]
            exact members_readFields_whole whole reads

theorem items_readFields_whole {fields : List (RecordField δ)}
    (whole : ∀ field ∈ fields, ∀ draft, Whole fun node => field.read node draft) {items : Items}
    {draft late : δ} (reads : Items.readFields fields items draft = .ok late) : items.skip = .ok () := by
  induction fields generalizing items draft with
  | nil =>
      cases items with
      | done => rfl
      | _ => cases reads
  | cons field fields more =>
      cases items with
      | done => rfl
      | cut => cases reads
      | item value rest =>
          obtain ⟨next, taken, reads⟩ := bind_eq_ok.mp reads
          simp only [Items.skip, whole field List.mem_cons_self draft taken]
          exact more (fun other member => whole other (List.mem_cons_of_mem _ member)) reads

theorem readRecord_whole {fields : List (RecordField δ)}
    (whole : ∀ field ∈ fields, ∀ draft, Whole fun node => field.read node draft) (draft : δ) :
    Whole (Node.readRecord fields draft) := by
  intro node late reads
  cases node with
  | array items => exact items_readFields_whole whole reads
  | object members => exact members_readFields_whole whole reads
  | _ => cases reads

/-- A text that holds one value is read as that value is. -/
theorem Node.WrittenAlone.readDocument_eq {bytes : List UInt8} {node : Node}
    (alone : Node.WrittenAlone bytes node) (read : Node → Except Fault α) :
    readDocument read bytes = read node := by
  simp only [readDocument, alone.scan_eq]
  cases read node with
  | ok value => rfl
  | error fault => rfl

/-- A text that is read holds one written value. -/
theorem writtenAlone_of_readDocument {read : Node → Except Fault α} (whole : Whole read)
    {bytes : List UInt8} {value : α} (accepts : readDocument read bytes = .ok value) :
    ∃ node, Node.WrittenAlone bytes node := by
  obtain ⟨result, reads, ends⟩ := bind_eq_ok.mp accepts
  cases scans : scan bytes with
  | mk node trailing =>
      rw [scans] at reads ends
      cases trailing with
      | true => cases ends
      | false => exact ⟨node, writtenAlone_of_scan scans (whole reads)⟩

end SpriteStage.Json
