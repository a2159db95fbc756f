/-
Module: SpriteStage.Proofs.Json.Scanning
Purpose: What is written is scanned. Before a written value the scanner may as well stand behind it, whatever
  arrays and objects are open around it. So a text that holds one value, with blanks in any places
  between its tokens, has the outline of that value.
Main exports: State.run, Node.Written.run, Node.WrittenAlone.scan_eq
-/
import SpriteStage.Proofs.Json.Numbers

namespace SpriteStage.Json

/-- The outline of what is left of a text. -/
def State.run (state : State) (bytes : List UInt8) : Document := (bytes.foldl State.step state).finish

/-! ## Blanks -/

theorem mark_of_isBlank {b : UInt8} (blank : isBlank b = true) : Mark.ofByte b = .blank := by
  simp only [isBlank, Bool.or_eq_true, decide_eq_true_eq] at blank
  rcases blank with ((rfl | rfl) | rfl) | rfl <;> rfl

/-- Whether blanks may stand at a point. -/
def Point.rests : Point → Bool
  | .value | .firstItem | .afterItem _ | .firstKey | .nextKey _ | .colon _ _ | .afterMember _
  | .complete _ => true
  | .word _ _ _ | .number _ _ | .text _ _ | .key _ _ _ | .trailing _ | .settled _ => false

theorem step_blank {state : State} (rests : state.point.rests = true) {b : UInt8}
    (blank : isBlank b = true) : state.step b = state := by
  have mark := mark_of_isBlank blank
  obtain ⟨frames, point⟩ := state
  cases point with
  | word | number | text | key | trailing | settled => cases rests
  | value => simp [State.step, State.openValue, mark]
  | firstItem | firstKey | nextKey | colon => simp [State.step, mark]
  | afterItem | afterMember | complete => simp [State.step, State.after, mark]

theorem Blanks.run {bytes rest : List UInt8} (blanks : Blanks bytes rest) {state : State}
    (rests : state.point.rests = true) : state.run bytes = state.run rest := by
  induction blanks with
  | none => rfl
  | more blank _ further =>
      rw [← further, State.run, List.foldl_cons, step_blank rests blank]
      rfl

/-! ## Numbers -/

/-- A text that goes on, if it does, with a byte that no number has. -/
def Delimited (bytes : List UInt8) : Prop :=
  ∀ b rest, bytes = b :: rest → isBlank b = true ∨ b = ascii ',' ∨ b = ascii ']' ∨ b = 125

theorem Blanks.delimited {bytes rest : List UInt8} (blanks : Blanks bytes rest)
    (behind : Delimited rest) : Delimited bytes := by
  cases blanks with
  | none => exact behind
  | more blank _ =>
      rintro b rest ⟨⟩
      exact Or.inl blank

theorem run_of_counting {phase last : Phase} {n m : Counting} {bytes : List UInt8}
    (counts : n.run phase bytes = some (last, m)) (frames : List Frame) (rest : List UInt8) :
    State.run ⟨frames, .number phase n⟩ (bytes ++ rest) = State.run ⟨frames, .number last m⟩ rest := by
  induction bytes generalizing phase n with
  | nil =>
      cases counts
      rfl
  | cons b bytes more =>
      obtain ⟨next, counted, steps, counts⟩ := Counting.run_cons counts
      rw [← more counts]
      show State.run (State.step ⟨frames, .number phase n⟩ b) (bytes ++ rest) = _
      simp only [State.step, steps]

theorem step_behind (frames : List Frame) (node : Node) (b : UInt8) :
    (State.behind frames node).step b =
      State.after (State.behind frames node).frames (State.behind frames node).point b := by
  cases frames with
  | nil => rfl
  | cons frame outer => cases frame <;> rfl

theorem finish_behind (frames : List Frame) (node : Node) :
    (State.behind frames node).finish =
      State.endBehind (State.behind frames node).frames (State.behind frames node).point := by
  cases frames with
  | nil => rfl
  | cons frame outer => cases frame <;> rfl

/-- A number that may end is over as soon as something else follows. -/
theorem run_number {phase : Phase} {n : Counting} (ends : phase.canEnd = true) (frames : List Frame)
    {rest : List UInt8} (delimited : Delimited rest) :
    State.run ⟨frames, .number phase n⟩ rest =
      (State.behind frames (.number n.literal)).run rest := by
  cases rest with
  | nil =>
      show State.finish ⟨frames, .number phase n⟩ = (State.behind frames (.number n.literal)).finish
      rw [finish_behind]
      simp only [State.finish, ends, if_true]
  | cons b rest =>
      have outside : n.step phase b = .over := by
        have marks : decimalDigit? b = none ∧ b ≠ ascii '.' ∧ ¬(b = ascii 'e' ∨ b = ascii 'E') := by
          rcases delimited b rest rfl with blank | rfl | rfl | rfl
          · simp only [isBlank, Bool.or_eq_true, decide_eq_true_eq] at blank
            rcases blank with ((rfl | rfl) | rfl) | rfl <;> decide
          · decide
          · decide
          · decide
        obtain ⟨digit, point, mark⟩ := marks
        cases phase with
        | leadingZero | whole => simp [Counting.step, digit, point, mark]
        | fraction | exponent => simp [Counting.step, digit, mark]
        | sign | point | exponentMark | exponentSign => cases ends
      show State.run (State.step ⟨frames, .number phase n⟩ b) rest =
        State.run ((State.behind frames (.number n.literal)).step b) rest
      rw [step_behind]
      simp only [State.step, outside]

theorem mark_of_isDigit {b : UInt8} (digit : isDigit b = true) :
    Mark.ofByte b = .other ∧ b ≠ ascii 'n' ∧ b ≠ ascii 't' ∧ b ≠ ascii 'f' ∧ b ≠ ascii '-' := by
  have other : ∀ c, isDigit c = false → b ≠ c := by
    rintro _ none rfl
    rw [digit] at none
    cases none
  refine ⟨?_, other _ rfl, other _ rfl, other _ rfl, other _ rfl⟩
  simp [Mark.ofByte, other (ascii ' ') rfl, other (ascii '\n') rfl, other (ascii '\t') rfl,
    other (ascii '\r') rfl, other (ascii ',') rfl, other (ascii ':') rfl, other (ascii '[') rfl,
    other (ascii ']') rfl, other 123 rfl, other 125 rfl, other (ascii '"') rfl]

theorem isDigit_of_begins {negative : Bool} {b : UInt8} {phase : Phase} {n : Counting}
    (begins : Counting.step .sign (.start negative) b = .more phase n) : isDigit b = true := by
  unfold isDigit
  cases digit : decimalDigit? b with
  | none => simp [Counting.step, digit] at begins
  | some d => rfl

/-- Where a number begins with a digit, that digit is its first step. -/
theorem openValue_of_begins {b : UInt8} {phase : Phase} {n : Counting}
    (begins : Counting.step .sign (.start false) b = .more phase n) (frames : List Frame) :
    State.openValue frames b = ⟨frames, .number phase n⟩ := by
  obtain ⟨mark, notN, notT, notF, notMinus⟩ := mark_of_isDigit (isDigit_of_begins begins)
  simp [State.openValue, mark, notN, notT, notF, notMinus, begins]

theorem WrittenNumber.unsigned_begins (written : WrittenNumber) :
    ∃ b bytes, written.unsignedBytes = b :: bytes ∧ isDigit b = true := by
  have digits := written.whole_digits
  rcases written.leading with zero | ⟨b, rest, whole, _⟩
  · exact ⟨_, _, by rw [unsignedBytes, zero]; rfl, rfl⟩
  · rw [whole] at digits
    exact ⟨_, _, by rw [unsignedBytes, whole]; rfl, digits b List.mem_cons_self⟩

theorem run_written (written : WrittenNumber) (frames : List Frame) {rest : List UInt8}
    (delimited : Delimited rest) :
    State.run ⟨frames, .value⟩ (written.bytes ++ rest) =
      (State.behind frames (.number written.literal)).run rest := by
  obtain ⟨last, ends, counts⟩ := written.counts
  rw [← written.count_literal, ← run_number ends frames delimited]
  unfold WrittenNumber.bytes
  cases negative : written.negative with
  | true =>
      rw [negative] at counts
      exact run_of_counting counts frames rest
  | false =>
      rw [negative] at counts
      obtain ⟨b, bytes, first, _⟩ := written.unsigned_begins
      rw [first] at counts ⊢
      obtain ⟨phase, n, begins, counts⟩ := Counting.run_cons counts
      show State.run (State.openValue frames b) (bytes ++ rest) = _
      rw [openValue_of_begins begins]
      exact run_of_counting counts frames rest

/-! ## Texts -/

/-- Written pieces are spelled, wherever a text is read. -/
theorem Pieces.Written.run {bytes rest : List UInt8} {pieces : List Piece}
    (written : Pieces.Written bytes pieces rest) {inside : List Piece → Escape → State}
    (steps : ∀ {before escape b grown next}, spell before escape b = .more grown next →
      (inside before escape).step b = inside grown next) (before : List Piece) :
    (inside before .outside).run bytes = (inside (pieces.reverse ++ before) .outside).run rest := by
  have run_step : ∀ {before escape b grown next} (bytes : List UInt8),
      spell before escape b = .more grown next →
        (inside before escape).run (b :: bytes) = (inside grown next).run bytes := by
    intro before escape b grown next bytes spells
    rw [← steps spells]
    rfl
  have begun : ∀ before, spell before .outside (ascii '\\') = .more before .begun := fun _ => rfl
  induction written generalizing before with
  | none => rfl
  | @plain b _ _ _ printable quote backslash _ more =>
      have stands : spell before .outside b = .more (.plain b :: before) .outside := by
        simp only [spell, quote, backslash, printable, if_false]
      rw [run_step _ stands, more]
      simp
  | @escaped letter byte _ _ _ escapes _ more =>
      have stands : spell before .begun letter = .more (.escaped byte :: before) .outside := by
        have notUnit : letter ≠ ascii 'u' := by
          rintro rfl
          cases escapes
        simp only [spell, notUnit, escapes, if_false]
      rw [run_step _ (begun before), run_step _ stands, more]
      simp
  | @unit a b c d code _ _ _ number _ more =>
      have unit : spell before .begun (ascii 'u') = .more before (.unit []) := rfl
      have first : spell before (.unit []) a = .more before (.unit [a]) := rfl
      have second : spell before (.unit [a]) b = .more before (.unit [b, a]) := rfl
      have third : spell before (.unit [b, a]) c = .more before (.unit [c, b, a]) := rfl
      have last : spell before (.unit [c, b, a]) d = .more (.unit code :: before) .outside := by
        simp [spell, number]
      rw [run_step _ (begun before), run_step _ unit, run_step _ first, run_step _ second,
        run_step _ third, run_step _ last, more]
      simp

theorem run_text {bytes rest : List UInt8} {text : Text} (written : Text.Written bytes text rest)
    (frames : List Frame) :
    State.run ⟨frames, .value⟩ bytes = (State.behind frames (.text text)).run rest := by
  cases written with
  | quoted spelled =>
      rename_i bytes pieces
      have steps : ∀ {before escape b grown next}, spell before escape b = .more grown next →
          State.step ⟨frames, .text before escape⟩ b = ⟨frames, .text grown next⟩ := by
        intro before escape b grown next spells
        simp only [State.step, spells]
      refine (@Pieces.Written.run _ _ _ spelled (fun pieces escape => ⟨frames, .text pieces escape⟩)
        steps []).trans ?_
      show State.run (State.step ⟨frames, .text (pieces.reverse ++ []) .outside⟩ (ascii '"')) rest = _
      simp [State.step, spell, Text.ofPieces]

theorem run_key {bytes rest : List UInt8} {key : Text} (written : Text.Written bytes key rest)
    (frames : List Frame) (members : List (Text × Node)) :
    State.run ⟨frames, .nextKey members⟩ bytes = State.run ⟨frames, .colon members key⟩ rest := by
  cases written with
  | quoted spelled =>
      rename_i bytes pieces
      have steps : ∀ {before escape b grown next}, spell before escape b = .more grown next →
          State.step ⟨frames, .key members before escape⟩ b = ⟨frames, .key members grown next⟩ := by
        intro before escape b grown next spells
        simp only [State.step, spells]
      refine (@Pieces.Written.run _ _ _ spelled
        (fun pieces escape => ⟨frames, .key members pieces escape⟩) steps []).trans ?_
      show State.run (State.step ⟨frames, .key members (pieces.reverse ++ []) .outside⟩ (ascii '"'))
        rest = _
      simp [State.step, spell, Text.ofPieces]

/-! ## Values -/

theorem Items.Written.delimited {bytes rest : List UInt8} {items : Items}
    (written : Items.Written bytes items rest) : Delimited bytes := by
  cases written with
  | close blanks =>
      refine blanks.delimited ?_
      rintro b rest ⟨⟩
      exact Or.inr (Or.inr (Or.inl rfl))
  | item blanks =>
      refine blanks.delimited ?_
      rintro b rest ⟨⟩
      exact Or.inr (Or.inl rfl)

theorem Members.Written.delimited {bytes rest : List UInt8} {members : Members}
    (written : Members.Written bytes members rest) : Delimited bytes := by
  cases written with
  | close blanks =>
      refine blanks.delimited ?_
      rintro b rest ⟨⟩
      exact Or.inr (Or.inr (Or.inr rfl))
  | member blanks =>
      refine blanks.delimited ?_
      rintro b rest ⟨⟩
      exact Or.inr (Or.inl rfl)

/-- A value begins with a byte that neither is a blank nor closes an array. -/
theorem Node.Written.begins {bytes rest : List UInt8} {node : Node}
    (written : Node.Written bytes node rest) :
    ∃ b more, bytes = b :: more ∧ Mark.ofByte b ≠ .blank ∧ Mark.ofByte b ≠ .closeArray := by
  cases written with
  | number number =>
      unfold WrittenNumber.bytes
      split
      · exact ⟨_, _, rfl, by decide, by decide⟩
      · obtain ⟨b, bytes, first, digit⟩ := number.unsigned_begins
        have other := (mark_of_isDigit digit).1
        exact ⟨b, bytes ++ rest, by rw [first, List.cons_append], by simp [other], by simp [other]⟩
  | text written =>
      cases written with
      | quoted => exact ⟨_, _, rfl, by decide, by decide⟩
  | null | true | false | emptyArray | array | emptyObject | object =>
      exact ⟨_, _, rfl, by decide, by decide⟩

/-- The first item of an array is read like any other, whatever it begins with. -/
theorem run_firstItem {b : UInt8} (notBlank : Mark.ofByte b ≠ .blank)
    (notClose : Mark.ofByte b ≠ .closeArray) (more : List UInt8) (frames : List Frame) :
    State.run ⟨frames, .firstItem⟩ (b :: more) =
      State.run ⟨.items [] :: frames, .value⟩ (b :: more) := by
  have opens : State.step ⟨frames, .firstItem⟩ b = State.openValue (.items [] :: frames) b := by
    cases mark : Mark.ofByte b with
    | blank => exact absurd mark notBlank
    | closeArray => exact absurd mark notClose
    | comma | colon | openArray | openObject | closeObject | quote | other =>
        simp only [State.step, mark]
  show State.run (State.step ⟨frames, .firstItem⟩ b) more = _
  rw [opens]
  rfl

theorem run_firstWritten {bytes rest : List UInt8} {node : Node}
    (written : Node.Written bytes node rest) (frames : List Frame) :
    State.run ⟨frames, .firstItem⟩ bytes = State.run ⟨.items [] :: frames, .value⟩ bytes := by
  obtain ⟨b, more, rfl, notBlank, notClose⟩ := written.begins
  exact run_firstItem notBlank notClose more frames

/-- The first key of an object is read like any other. -/
theorem run_firstKey {bytes rest : List UInt8} {key : Text} (written : Text.Written bytes key rest)
    (frames : List Frame) :
    State.run ⟨frames, .firstKey⟩ bytes = State.run ⟨frames, .nextKey []⟩ bytes := by
  cases written with
  | quoted => rfl

mutual

/-- Before a written value the scanner may as well stand behind it. Only a number has to be delimited. -/
theorem Node.Written.run {bytes rest : List UInt8} {node : Node} :
    Node.Written bytes node rest → (frames : List Frame) →
      (∀ literal, node = .number literal → Delimited rest) →
        State.run ⟨frames, .value⟩ bytes = (State.behind frames node).run rest
  | .null _, _, _ => rfl
  | .true _, _, _ => rfl
  | .false _, _, _ => rfl
  | .number written _, frames, delimited => run_written written frames (delimited _ rfl)
  | .text written, frames, _ => run_text written frames
  | .emptyArray blanks, frames, _ => @Blanks.run _ _ blanks ⟨frames, .firstItem⟩ rfl
  | .array blanks value items, frames, _ =>
    (@Blanks.run _ _ blanks ⟨frames, .firstItem⟩ rfl).trans <|
      (run_firstWritten value frames).trans <|
        (Node.Written.run value (.items [] :: frames) fun _ _ => items.delimited).trans <|
          Items.Written.run items frames _
  | .emptyObject blanks, frames, _ => @Blanks.run _ _ blanks ⟨frames, .firstKey⟩ rfl
  | .object blanks text colon before value members, frames, _ =>
    (@Blanks.run _ _ blanks ⟨frames, .firstKey⟩ rfl).trans <|
      (run_firstKey text frames).trans <|
        (run_key text frames []).trans <|
          (@Blanks.run _ _ colon ⟨frames, .colon [] _⟩ rfl).trans <|
            (@Blanks.run _ _ before ⟨.members [] _ :: frames, .value⟩ rfl).trans <|
              (Node.Written.run value (.members [] _ :: frames) fun _ _ => members.delimited).trans <|
                Members.Written.run members frames _

/-- Behind an item the scanner may as well stand behind the array. -/
theorem Items.Written.run {bytes rest : List UInt8} {items : Items} :
    Items.Written bytes items rest → (frames : List Frame) → (before : List Node) →
      State.run ⟨frames, .afterItem before⟩ bytes =
        (State.behind frames (.array (Items.prepend before items))).run rest
  | .close blanks, frames, before => @Blanks.run _ _ blanks ⟨frames, .afterItem before⟩ rfl
  | .item comma blanks value items, frames, before =>
    (@Blanks.run _ _ comma ⟨frames, .afterItem before⟩ rfl).trans <|
      (@Blanks.run _ _ blanks ⟨.items before :: frames, .value⟩ rfl).trans <|
        (Node.Written.run value (.items before :: frames) fun _ _ => items.delimited).trans <|
          Items.Written.run items frames _

/-- Behind a member the scanner may as well stand behind the object. -/
theorem Members.Written.run {bytes rest : List UInt8} {members : Members} :
    Members.Written bytes members rest → (frames : List Frame) → (before : List (Text × Node)) →
      State.run ⟨frames, .afterMember before⟩ bytes =
        (State.behind frames (.object (Members.prepend before members))).run rest
  | .close blanks, frames, before => @Blanks.run _ _ blanks ⟨frames, .afterMember before⟩ rfl
  | .member comma blanks text colon start value members, frames, before =>
    (@Blanks.run _ _ comma ⟨frames, .afterMember before⟩ rfl).trans <|
      (@Blanks.run _ _ blanks ⟨frames, .nextKey before⟩ rfl).trans <|
        (run_key text frames before).trans <|
          (@Blanks.run _ _ colon ⟨frames, .colon before _⟩ rfl).trans <|
            (@Blanks.run _ _ start ⟨.members before _ :: frames, .value⟩ rfl).trans <|
              (Node.Written.run value (.members before _ :: frames) fun _ _ => members.delimited).trans <|
                Members.Written.run members frames _

end

/-- A text that holds one value has the outline of that value. -/
theorem Node.WrittenAlone.scan_eq {bytes : List UInt8} {node : Node}
    (alone : Node.WrittenAlone bytes node) : scan bytes = ⟨node, false⟩ := by
  cases alone with
  | alone blanks value behind =>
      have delimited : Delimited _ := behind.delimited nofun
      calc scan bytes = State.run ⟨[], .value⟩ bytes := rfl
        _ = State.run ⟨[], .value⟩ _ := blanks.run rfl
        _ = State.run ⟨[], .complete node⟩ _ := value.run [] fun _ _ => delimited
        _ = State.run ⟨[], .complete node⟩ [] := behind.run rfl

end SpriteStage.Json
