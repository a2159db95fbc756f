/-
Module: SpriteStage.Proofs.Json.Breaking
Purpose: Where a text breaks off, so does its outline. In place of the value that breaks off stands a node whose
  inspection fails with the fault of the place. All values before it can be inspected, and what is
  written behind it adds to the outline but takes nothing away; if the text ended too early, that node
  and what encloses it are all there is.
Main exports: Document.Shows, Node.Stands.run, Node.Breaks.run, Items.Breaks.run, Member.Breaks.run,
  Members.Breaks.run
-/
import SpriteStage.Proofs.Json.Growth
import SpriteStage.Proofs.Json.Prefixes
import SpriteStage.Proofs.Json.Scalars

namespace SpriteStage.Json

open State (enclose settle behind)

/-! ## Documents -/

/-- What a document shows of a text that broke off with a fault: its outline grew from a given one, and is that one if
the text only ended. -/
structure Document.Shows (document : Document) (fault : Fault) (whole : Node) : Prop where
  grows : whole.GrowsTo document.node
  ends : fault = .ended → document.node = whole

theorem Document.shows_of_eq {document : Document} {whole : Node} (same : document.node = whole)
    (fault : Fault) : document.Shows fault whole :=
  ⟨same ▸ .same _, fun _ => same⟩

/-- What a state has of the outline, later bytes keep. -/
theorem State.shows_soFar (state : State) (bytes : List UInt8) :
    (state.run bytes).Shows .malformed state.soFar :=
  ⟨(state.follow_grows bytes).trans (State.soFar_grows_finish _), nofun⟩

theorem run_settled (node : Node) (bytes : List UInt8) :
    (State.run ⟨[], .settled node⟩ bytes).node = node := by
  induction bytes with
  | nil => rfl
  | cons b bytes more => exact more

theorem run_settle (frames : List Frame) (node : Node) (bytes : List UInt8) :
    ((settle frames node).run bytes).node = enclose frames node := run_settled _ bytes

/-! ## Bytes that are not due -/

theorem marks_of_lacks {b : UInt8} (notBlank : isBlank b = false) : Mark.ofByte b ≠ .blank := by
  intro mark
  rw [show isBlank b = true from marks_of_mark mark] at notBlank
  cases notBlank

/-- A value that does not begin. -/
theorem Lacks.run_value {bytes : List UInt8} {fault : Fault} (lacks : Lacks BeginsValue bytes fault)
    (frames : List Frame) :
    (State.run ⟨frames, .value⟩ bytes).node = enclose frames (.broken fault) := by
  cases lacks with
  | ended => rfl
  | @other b rest notBlank notDue =>
      simp only [BeginsValue, not_or] at notDue
      obtain ⟨notN, notT, notF, notMinus, notDigit, notQuote, notArray, notObject⟩ := notDue
      have settles : State.openValue frames b = settle frames (.broken .malformed) := by
        cases mark : Mark.ofByte b with
        | blank => exact absurd mark (marks_of_lacks notBlank)
        | comma | colon | closeArray | closeObject => simp only [State.openValue, mark]
        | quote => exact absurd (marks_of_mark mark) notQuote
        | openArray => exact absurd (marks_of_mark mark) notArray
        | openObject => exact absurd (marks_of_mark mark) notObject
        | other =>
            have noDigit : decimalDigit? b = none := by
              rw [isDigit, Bool.not_eq_true, Option.isSome_eq_false_iff,
                Option.isNone_iff_eq_none] at notDigit
              exact notDigit
            simp only [State.openValue, mark, notN, notT, notF, notMinus, if_false, Counting.step, noDigit]
      show ((State.openValue frames b).run rest).node = _
      rw [settles, run_settle]

theorem Lacks.run_afterItem {bytes : List UInt8} {fault : Fault}
    (lacks : Lacks FollowsItem bytes fault) (frames : List Frame)
    (before : List Node) : (State.run ⟨frames, .afterItem before⟩ bytes).node =
      enclose frames (.array (Items.prepend before (.cut fault))) := by
  cases lacks with
  | ended => rfl
  | @other b rest notBlank notDue =>
      obtain ⟨notComma, notClose⟩ := not_or.mp notDue
      show ((State.after frames (.afterItem before) b).run rest).node = _
      cases mark : Mark.ofByte b with
      | blank => exact absurd mark (marks_of_lacks notBlank)
      | comma => exact absurd (marks_of_mark mark) notComma
      | closeArray => exact absurd (marks_of_mark mark) notClose
      | colon | openArray | openObject | closeObject | quote | other =>
          simp only [State.after, mark, run_settle]

theorem Lacks.run_afterMember {bytes : List UInt8} {fault : Fault}
    (lacks : Lacks FollowsMember bytes fault) (frames : List Frame)
    (before : List (Text × Node)) : (State.run ⟨frames, .afterMember before⟩ bytes).node =
      enclose frames (.object (Members.prepend before (.cut fault))) := by
  cases lacks with
  | ended => rfl
  | @other b rest notBlank notDue =>
      obtain ⟨notComma, notClose⟩ := not_or.mp notDue
      show ((State.after frames (.afterMember before) b).run rest).node = _
      cases mark : Mark.ofByte b with
      | blank => exact absurd mark (marks_of_lacks notBlank)
      | comma => exact absurd (marks_of_mark mark) notComma
      | closeObject => exact absurd (marks_of_mark mark) notClose
      | colon | openArray | openObject | closeArray | quote | other =>
          simp only [State.after, mark, run_settle]
          rfl

theorem Lacks.run_nextKey {bytes : List UInt8} {fault : Fault}
    (lacks : Lacks (· = ascii '"') bytes fault) (frames : List Frame)
    (before : List (Text × Node)) : (State.run ⟨frames, .nextKey before⟩ bytes).node =
      enclose frames (.object (Members.prepend before (.cut fault))) := by
  cases lacks with
  | ended => rfl
  | @other b rest notBlank notDue =>
      show ((State.step ⟨frames, .nextKey before⟩ b).run rest).node = _
      cases mark : Mark.ofByte b with
      | blank => exact absurd mark (marks_of_lacks notBlank)
      | quote => exact absurd (marks_of_mark mark) notDue
      | comma | colon | openArray | openObject | closeArray | closeObject | other =>
          simp only [State.step, mark, run_settle]
          rfl

theorem Lacks.run_colon {bytes : List UInt8} {fault : Fault}
    (lacks : Lacks (· = ascii ':') bytes fault) (frames : List Frame)
    (before : List (Text × Node)) (key : Text) :
    (State.run ⟨frames, .colon before key⟩ bytes).node =
      enclose frames (State.cutMember before key fault) := by
  cases lacks with
  | ended => rfl
  | @other b rest notBlank notDue =>
      show ((State.step ⟨frames, .colon before key⟩ b).run rest).node = _
      cases mark : Mark.ofByte b with
      | blank => exact absurd mark (marks_of_lacks notBlank)
      | colon => exact absurd (marks_of_mark mark) notDue
      | comma | quote | openArray | openObject | closeArray | closeObject | other =>
          simp only [State.step, mark, run_settle]

/-! ## Words -/

/-- Letters of a word are passed one by one. -/
theorem run_letters {letter due : UInt8} {left front back : List UInt8}
    (word : letter :: left = front ++ due :: back) (node : Node) (frames : List Frame)
    (rest : List UInt8) : State.run ⟨frames, .word letter left node⟩ (front ++ rest) =
      State.run ⟨frames, .word due back node⟩ rest := by
  induction front generalizing letter left with
  | nil =>
      cases word
      rfl
  | cons b front further =>
      obtain ⟨rfl, others⟩ := List.cons.inj word
      obtain ⟨next, left, rfl⟩ : ∃ next more, left = next :: more := by
        cases left with
        | nil => cases front <;> cases others
        | cons next more => exact ⟨next, more, rfl⟩
      show State.run (State.step ⟨frames, .word letter (next :: left) node⟩ letter) (front ++ rest) = _
      simp only [State.step, if_true]
      exact further others

/-- Within a word the scanner waits for the next letter. -/
theorem run_word {front left : List UInt8} {due : UInt8} (some_letter : front ≠ [])
    (word : front ++ due :: left ∈ words) :
    ∃ node, ∀ frames rest, State.run ⟨frames, .value⟩ (front ++ rest) =
      State.run ⟨frames, .word due left node⟩ rest := by
  cases front with
  | nil => exact absurd rfl some_letter
  | cons b front =>
      simp only [words, List.cons_append, List.mem_cons, List.not_mem_nil, or_false] at word
      rcases word with word | word | word
      all_goals
        obtain ⟨rfl, letters⟩ := List.cons.inj word
        exact ⟨_, fun frames rest => run_letters letters.symm _ frames rest⟩

theorem Word.Breaks.run {bytes : List UInt8} {fault : Fault} (breaks : Word.Breaks bytes fault)
    (frames : List Frame) :
    (State.run ⟨frames, .value⟩ bytes).node = enclose frames (.broken fault) := by
  cases breaks with
  | cut some_letter word =>
      obtain ⟨node, runs⟩ := run_word some_letter word
      rw [← List.append_nil bytes, runs]
      rfl
  | @other front left rest due b some_letter word notDue =>
      obtain ⟨node, runs⟩ := run_word some_letter word
      rw [runs]
      show ((State.step ⟨frames, .word due left node⟩ b).run rest).node = _
      simp only [State.step, notDue, if_false, run_settle]

/-! ## Numbers -/

/-- A node that is no number that was written with an exponent and passes for a whole one. -/
def Node.Plain : Node → Prop
  | .number literal => literal.whole = true → literal.value.exponent = 0
  | _ => True

theorem WrittenNumber.plain (written : WrittenNumber) : (Node.number written.literal).Plain := by
  intro whole
  simp only [literal, Bool.and_eq_true, List.isEmpty_iff, Option.isNone_iff_eq_none] at whole
  simp [literal, whole.1, whole.2]

/-- A place where a node stands whose inspection fails, within frames. -/
def Fails (depth : Nat) (fault : Fault) (frames : List Frame) (document : Document) : Prop :=
  ∃ broken : Node, broken.inspect depth = .error fault ∧ broken.Plain ∧
    document.Shows fault (enclose frames broken)

theorem fails_of_broken {document : Document} {fault : Fault} {frames : List Frame}
    (same : document.node = enclose frames (.broken fault)) (depth : Nat) :
    Fails depth fault frames document :=
  ⟨.broken fault, rfl, trivial, Document.shows_of_eq same fault⟩

theorem Number.Breaks.run {bytes : List UInt8} {fault : Fault} (breaks : Number.Breaks bytes fault)
    (depth : Nat) (frames : List Frame) :
    Fails depth fault frames (State.run ⟨frames, .value⟩ bytes) := by
  -- Where a number breaks off, it may not end.
  have unfinished : ∀ {negative unsigned phase n},
      (Counting.start negative).run .sign unsigned = some (phase, n) →
        (∀ written : WrittenNumber, written.bytes ≠ signedBytes negative unsigned) →
          phase.canEnd = false := by
    intro negative unsigned phase n runs none_whole
    by_contra ends
    obtain ⟨written, rfl, rfl, _⟩ := Counting.written_of_run runs (Bool.not_eq_false _ |>.mp ends)
    exact none_whole written written.bytes_eq
  -- A wrong byte settles the outline.
  have settles : ∀ {phase n b} (rest : List UInt8), Counting.step phase n b = .wrong →
      Fails depth .malformed frames (State.run ⟨frames, .number phase n⟩ (b :: rest)) := by
    intro phase n b rest wrong
    refine fails_of_broken ?_ depth
    show ((State.step ⟨frames, .number phase n⟩ b).run rest).node = _
    simp only [State.step, wrong, run_settle]
  cases breaks with
  | cut begins none_whole =>
      obtain ⟨negative, unsigned, phase, n, rfl, runs⟩ := begins.run
      refine ⟨.cutNumber, rfl, trivial, Document.shows_of_eq ?_ _⟩
      rw [← List.append_nil (signedBytes _ _), run_signed runs begins.1]
      show (State.finish ⟨frames, .number phase n⟩).node = _
      simp only [State.finish, unfinished runs none_whole, Bool.false_eq_true, if_false]
  | other begins none_whole stops =>
      obtain ⟨negative, unsigned, phase, n, rfl, runs⟩ := begins.run
      rw [run_signed runs begins.1]
      exact settles _ (Counting.step_eq_wrong (not_more_of_not_numberPrefix runs stops)
        (Or.inl (unfinished runs none_whole)))
  | leadingZero written digit stops =>
      obtain ⟨last, _, counts⟩ := written.counts
      have some_byte := written.bytes_ne_nil
      rw [written.bytes_eq] at some_byte stops ⊢
      rw [run_signed counts some_byte]
      exact settles _ (Counting.step_eq_wrong (not_more_of_not_numberPrefix counts stops) (Or.inr digit))
  | @overflow written rest outside overflows =>
      refine ⟨.number written.literal, ?_, written.plain, ?_⟩
      · rw [Node.inspect, written.literal.toFloat_of_overflows overflows]
        rfl
      · rw [written.run_outside outside, ← State.soFar_behind]
        exact State.shows_soFar _ rest

/-! ## Texts -/

/-- Places where a text between quotes is read, and the outline around the text there. -/
structure Quoting (inside : List Piece → Escape → State) (whole : Text → Fault → Node) : Prop where
  more : ∀ {pieces escape b grown next}, spell pieces escape b = .more grown next →
    (inside pieces escape).step b = inside grown next
  closed : ∀ {pieces escape b}, spell pieces escape b = .closed →
    ((inside pieces escape).step b).soFar = whole (Text.ofPieces pieces none) .ended
  wrong : ∀ {pieces escape b}, spell pieces escape b = .wrong → (inside pieces escape).step b =
    ⟨[], .settled (whole (Text.ofPieces pieces (some .malformed)) .malformed)⟩
  soFar : ∀ pieces escape,
    (inside pieces escape).soFar = whole (Text.ofPieces pieces (some .ended)) .ended
  finish : ∀ pieces escape,
    (inside pieces escape).finish.node = whole (Text.ofPieces pieces (some .ended)) .ended

theorem quoting_text (frames : List Frame) :
    Quoting (fun pieces escape => ⟨frames, .text pieces escape⟩)
      (fun text _ => enclose frames (.text text)) where
  more spells := by simp only [State.step, spells]
  closed spells := by simp only [State.step, spells, State.soFar_behind]
  wrong spells := by simp only [State.step, spells, settle]
  soFar _ _ := rfl
  finish _ _ := rfl

theorem quoting_key (frames : List Frame) (members : List (Text × Node)) :
    Quoting (fun pieces escape => ⟨frames, .key members pieces escape⟩)
      (fun key fault => enclose frames (State.cutMember members key fault)) where
  more spells := by simp only [State.step, spells]
  closed spells := by simp only [State.step, spells]; rfl
  wrong spells := by simp only [State.step, spells, settle]
  soFar _ _ := rfl
  finish _ _ := rfl

section

variable {inside : List Piece → Escape → State} {whole : Text → Fault → Node}
  (quoting : Quoting inside whole)

include quoting

theorem Quoting.run_step {pieces grown : List Piece} {escape next : Escape} {b : UInt8}
    (spells : spell pieces escape b = .more grown next) (rest : List UInt8) :
    (inside pieces escape).run (b :: rest) = (inside grown next).run rest := by
  rw [← quoting.more spells]
  rfl

theorem Quoting.run_wrong {pieces : List Piece} {escape : Escape} {b : UInt8}
    (spells : spell pieces escape b = .wrong) (rest : List UInt8) :
    ((inside pieces escape).run (b :: rest)).node =
      whole (Text.ofPieces pieces (some .malformed)) .malformed := by
  show (((inside pieces escape).step b).run rest).node = _
  rw [quoting.wrong spells, run_settled]

/-- Pieces are passed one by one. -/
theorem Quoting.run_pieces {bytes rest : List UInt8} {pieces : List Piece}
    (written : Pieces.Written bytes pieces rest) :
    (inside [] .outside).run bytes = (inside pieces.reverse .outside).run rest := by
  have runs := written.run quoting.more []
  rwa [List.append_nil] at runs

/-- The digits of a code unit are not looked at while one is missing. -/
theorem Quoting.run_digits {pieces : List Piece} {before digits : List UInt8}
    (few : before.length + digits.length < 4) :
    ((inside pieces (.unit before)).run digits).node =
      whole (Text.ofPieces pieces (some .ended)) .ended := by
  induction digits generalizing before with
  | nil => exact quoting.finish pieces _
  | cons b digits further =>
      rw [List.length_cons] at few
      have takes : spell pieces (.unit before) b = .more pieces (.unit (b :: before)) := by
        rw [spell, if_pos (by omega)]
      rw [quoting.run_step takes]
      exact further (by rw [List.length_cons]; omega)

theorem Quoting.run_cut {pieces : List Piece} {rest : List UInt8} (cut : Piece.Cut rest) :
    ((inside pieces .outside).run rest).node = whole (Text.ofPieces pieces (some .ended)) .ended := by
  have begun : spell pieces .outside (ascii '\\') = .more pieces .begun := rfl
  cases cut with
  | nothing => exact quoting.finish pieces _
  | escape =>
      rw [quoting.run_step begun]
      exact quoting.finish pieces _
  | unit few =>
      have unit : spell pieces .begun (ascii 'u') = .more pieces (.unit []) := rfl
      rw [quoting.run_step begun, quoting.run_step unit]
      exact quoting.run_digits (by simpa using few)

theorem Quoting.run_other {pieces : List Piece} {rest : List UInt8} (other : Piece.Wrong rest) :
    ((inside pieces .outside).run rest).node =
      whole (Text.ofPieces pieces (some .malformed)) .malformed := by
  have begun : spell pieces .outside (ascii '\\') = .more pieces .begun := rfl
  cases other with
  | @control b rest control =>
      have notQuote : b ≠ ascii '"' := by rintro rfl; revert control; decide
      have notBackslash : b ≠ ascii '\\' := by rintro rfl; revert control; decide
      exact quoting.run_wrong (by simp only [spell, notQuote, notBackslash, control, if_true, if_false]) rest
  | @escape letter rest notUnit unknown =>
      rw [quoting.run_step begun]
      exact quoting.run_wrong (by simp only [spell, notUnit, unknown, if_false]) rest
  | @unit a b c d rest bad =>
      have unit : spell pieces .begun (ascii 'u') = .more pieces (.unit []) := rfl
      have first : spell pieces (.unit []) a = .more pieces (.unit [a]) := rfl
      have second : spell pieces (.unit [a]) b = .more pieces (.unit [b, a]) := rfl
      have third : spell pieces (.unit [b, a]) c = .more pieces (.unit [c, b, a]) := rfl
      rw [quoting.run_step begun, quoting.run_step unit, quoting.run_step first,
        quoting.run_step second, quoting.run_step third]
      exact quoting.run_wrong (by simp [spell, bad]) rest

/-- A text that breaks off, wherever it is read. -/
theorem Text.Breaks.run {bytes : List UInt8} {fault : Fault} (breaks : Text.Breaks bytes fault) :
    ∃ body text late, bytes = ascii '"' :: body ∧ text.decode = .error fault ∧
      ((inside [] .outside).run body).Shows fault (whole text late) := by
  cases breaks with
  | @cut bytes rest pieces written cut opens =>
      refine ⟨bytes, ⟨pieces, some .ended⟩, .ended, rfl, Text.decode_cut opens _, ?_⟩
      apply Document.shows_of_eq
      rw [quoting.run_pieces written, quoting.run_cut cut, Text.ofPieces, List.reverse_reverse]
  | @unpaired bytes rest pieces written closed =>
      refine ⟨bytes, ⟨pieces, some .ended⟩, .ended, rfl, Text.decode_unpaired closed _, ?_⟩
      have shows := State.shows_soFar (inside pieces.reverse .outside) rest
      rwa [← quoting.run_pieces written, quoting.soFar, Text.ofPieces, List.reverse_reverse] at shows
  | @other bytes rest pieces written other =>
      have malformed : (⟨pieces, some .malformed⟩ : Text).decode = .error .malformed := by
        by_cases opens : Pieces.Open pieces
        · exact Text.decode_cut opens _
        · exact Text.decode_unpaired opens _
      refine ⟨bytes, ⟨pieces, some .malformed⟩, .malformed, rfl, malformed, ?_⟩
      apply Document.shows_of_eq
      rw [quoting.run_pieces written, quoting.run_other other, Text.ofPieces, List.reverse_reverse]
  | @unspelled _ rest text written unspelled =>
      have malformed := (text.spells_or_malformed written.fault_eq).resolve_left (not_exists.mpr unspelled)
      cases written with
      | @quoted bytes rest pieces written =>
          refine ⟨bytes, ⟨pieces, none⟩, .ended, rfl, malformed, ?_⟩
          have closes : spell pieces.reverse .outside (ascii '"') = .closed := rfl
          have shows := State.shows_soFar ((inside pieces.reverse .outside).step (ascii '"')) rest
          rw [quoting.closed closes, Text.ofPieces, List.reverse_reverse] at shows
          rw [quoting.run_pieces written]
          exact shows

end

/-! ## First bytes -/

theorem notBlank_of_beginsValue {b : UInt8} (begins : BeginsValue b) : isBlank b = false := by
  rcases begins with rfl | rfl | rfl | rfl | digit | rfl | rfl | rfl
  case inr.inr.inr.inr.inl =>
    by_contra blank
    have other := (mark_of_isDigit digit).1
    rw [mark_of_isBlank (Bool.not_eq_false _ |>.mp blank)] at other
    cases other
  all_goals rfl

theorem NumberPrefix.notBlank {front : List UInt8} (begins : NumberPrefix front) :
    ∃ b more, front = b :: more ∧ isBlank b = false := by
  obtain ⟨b, more, rfl, sign | digit⟩ := begins.begins
  · exact ⟨b, more, rfl, notBlank_of_beginsValue (Or.inr (Or.inr (Or.inr (Or.inl sign))))⟩
  · exact ⟨b, more, rfl, notBlank_of_beginsValue (Or.inr (Or.inr (Or.inr (Or.inr (Or.inl digit)))))⟩

theorem word_begins {front left : List UInt8} {due : UInt8} (some_letter : front ≠ [])
    (word : front ++ due :: left ∈ words) : ∃ b more, front = b :: more ∧ isBlank b = false := by
  cases front with
  | nil => exact absurd rfl some_letter
  | cons b front =>
      refine ⟨b, front, rfl, ?_⟩
      simp only [words, List.cons_append, List.mem_cons, List.not_mem_nil, or_false] at word
      rcases word with word | word | word
      all_goals
        rw [(List.cons.inj word).1]
        rfl

/-- Where a value breaks off, it is not for a blank. -/
theorem Node.Breaks.begins {depth : Nat} {bytes : List UInt8} {fault : Fault}
    (breaks : Node.Breaks depth bytes fault) :
    bytes = [] ∧ fault = .ended ∨ ∃ b more, bytes = b :: more ∧ isBlank b = false := by
  have longer : ∀ {front : List UInt8} (rest : List UInt8),
      (∃ b more, front = b :: more ∧ isBlank b = false) →
        ∃ b more, front ++ rest = b :: more ∧ isBlank b = false := by
    rintro _ rest ⟨b, more, rfl, notBlank⟩
    exact ⟨b, more ++ rest, rfl, notBlank⟩
  cases breaks with
  | absent lacks =>
      cases lacks with
      | ended => exact Or.inl ⟨rfl, rfl⟩
      | other notBlank => exact Or.inr ⟨_, _, rfl, notBlank⟩
  | word breaks =>
      cases breaks with
      | cut some_letter word => exact Or.inr (word_begins some_letter word)
      | other some_letter word => exact Or.inr (longer _ (word_begins some_letter word))
  | number breaks =>
      cases breaks with
      | cut begins => exact Or.inr begins.notBlank
      | other begins => exact Or.inr (longer _ begins.notBlank)
      | leadingZero written => exact Or.inr (longer _ written.numberPrefix.notBlank)
      | overflow written => exact Or.inr (longer _ written.numberPrefix.notBlank)
  | text breaks =>
      cases breaks with
      | cut | unpaired | other => exact Or.inr ⟨_, _, rfl, rfl⟩
      | unspelled written =>
          cases written with
          | quoted => exact Or.inr ⟨_, _, rfl, rfl⟩
  | deepArray | firstItem | laterItem => exact Or.inr ⟨_, _, rfl, rfl⟩
  | deepObject | firstMember | laterMember => exact Or.inr ⟨_, _, rfl, rfl⟩

/-! ## Values -/

/-- A value in which nothing is wrong is passed, whatever follows it. -/
theorem Node.Stands.run {depth : Nat} {bytes rest : List UInt8} {node : Node}
    (stands : Node.Stands depth bytes node rest) (frames : List Frame) :
    State.run ⟨frames, .value⟩ bytes = (behind frames node).run rest := by
  obtain ⟨written, _, ends⟩ := stands
  by_cases number : ∃ literal, node = .number literal
  · obtain ⟨literal, rfl⟩ := number
    cases written with
    | number written => exact written.run_outside (ends _ rfl written.numberPrefix) frames
  · exact written.run frames fun literal same => absurd ⟨literal, same⟩ number

/-- Items behind others within frames whose inspection fails. -/
def ItemsFail (depth : Nat) (fault : Fault) (frames : List Frame) (before : List Node)
    (document : Document) : Prop :=
  ∃ items : Items, items.inspect depth = .error fault ∧
    document.Shows fault (enclose frames (.array (Items.prepend before items)))

/-- Members behind others within frames whose inspection fails. -/
def MembersFail (depth : Nat) (fault : Fault) (frames : List Frame) (before : List (Text × Node))
    (document : Document) : Prop :=
  ∃ members : Members, members.inspect depth = .error fault ∧
    document.Shows fault (enclose frames (.object (Members.prepend before members)))

section

variable {depth : Nat} {fault : Fault} {frames : List Frame} {document : Document}

/-- An item that fails makes the items fail. -/
theorem Fails.item {before : List Node} (fails : Fails depth fault (.items before :: frames) document) :
    ItemsFail depth fault frames before document := by
  obtain ⟨broken, fails, _, shows⟩ := fails
  refine ⟨.item broken (.cut .ended), ?_, shows⟩
  rw [Items.inspect, fails]
  rfl

/-- So do the items behind one that can be inspected. -/
theorem ItemsFail.later {before : List Node} {value : Node} (passes : value.inspect depth = .ok ())
    (fails : ItemsFail depth fault frames (value :: before) document) :
    ItemsFail depth fault frames before document := by
  obtain ⟨items, fails, shows⟩ := fails
  refine ⟨.item value items, ?_, shows⟩
  rw [Items.inspect, passes]
  exact fails

theorem ItemsFail.array (nested : 1 < depth)
    (fails : ItemsFail (depth - 1) fault frames [] document) : Fails depth fault frames document := by
  obtain ⟨items, fails, shows⟩ := fails
  refine ⟨.array items, ?_, trivial, shows⟩
  rw [Node.inspect, if_neg (Nat.not_le_of_lt nested)]
  exact fails

/-- A value that fails makes the members fail, if its key can be decoded. -/
theorem Fails.member {before : List (Text × Node)} {key : Text} {name : String}
    (spells : key.Spells name)
    (fails : Fails depth fault (.members before key :: frames) document) :
    MembersFail depth fault frames before document := by
  obtain ⟨broken, fails, _, shows⟩ := fails
  refine ⟨.member key broken (.cut .ended), ?_, shows⟩
  rw [Members.inspect, Text.decode_of_spells spells]
  show (broken.inspect depth >>= fun _ => Members.inspect depth (.cut .ended)) = .error fault
  rw [fails]
  rfl

theorem MembersFail.later {before : List (Text × Node)} {key : Text} {name : String} {value : Node}
    (spells : key.Spells name) (passes : value.inspect depth = .ok ())
    (fails : MembersFail depth fault frames ((key, value) :: before) document) :
    MembersFail depth fault frames before document := by
  obtain ⟨members, fails, shows⟩ := fails
  refine ⟨.member key value members, ?_, shows⟩
  rw [Members.inspect, Text.decode_of_spells spells]
  show (value.inspect depth >>= fun _ => members.inspect depth) = .error fault
  rw [passes]
  exact fails

theorem MembersFail.object (nested : 1 < depth)
    (fails : MembersFail (depth - 1) fault frames [] document) :
    Fails depth fault frames document := by
  obtain ⟨members, fails, shows⟩ := fails
  refine ⟨.object members, ?_, trivial, shows⟩
  rw [Node.inspect, if_neg (Nat.not_le_of_lt nested)]
  exact fails

end

/-- The first item of an array, where it breaks off. -/
theorem Node.Breaks.run_first {depth : Nat} {bytes : List UInt8} {fault : Fault}
    (breaks : Node.Breaks depth bytes fault) (notClose : bytes.head? ≠ some (ascii ']'))
    (frames : List Frame)
    (fails : Fails depth fault (.items [] :: frames)
      (State.run ⟨.items [] :: frames, .value⟩ bytes)) :
    ItemsFail depth fault frames [] (State.run ⟨frames, .firstItem⟩ bytes) := by
  rcases breaks.begins with ⟨rfl, rfl⟩ | ⟨b, more, rfl, notBlank⟩
  · exact ⟨.cut .ended, rfl, Document.shows_of_eq rfl _⟩
  · rw [run_firstItem (marks_of_lacks notBlank) fun mark => notClose (congrArg some (marks_of_mark mark))]
    exact fails.item

/-- The first key of an object, where it breaks off or not. -/
theorem Member.Breaks.run_first {depth : Nat} {bytes : List UInt8} {fault : Fault}
    (breaks : Member.Breaks depth bytes fault) (notClose : bytes.head? ≠ some 125)
    (frames : List Frame) :
    State.run ⟨frames, .firstKey⟩ bytes = State.run ⟨frames, .nextKey []⟩ bytes := by
  cases breaks with
  | key breaks =>
      cases breaks with
      | cut | unpaired | other => rfl
      | unspelled written => exact run_firstKey written frames
  | colon written => exact run_firstKey written frames
  | value written => exact run_firstKey written frames
  | absent lacks =>
      cases lacks with
      | ended => rfl
      | @other b rest notBlank notQuote =>
          show (State.step ⟨frames, .firstKey⟩ b).run rest =
            (State.step ⟨frames, .nextKey []⟩ b).run rest
          cases mark : Mark.ofByte b with
          | blank => exact absurd mark (marks_of_lacks notBlank)
          | quote => exact absurd (marks_of_mark mark) notQuote
          | closeObject => exact absurd (congrArg some (marks_of_mark mark)) notClose
          | comma | colon | openArray | openObject | closeArray | other =>
              simp only [State.step, mark]

mutual

/-- Where a value breaks off, a node stands in the outline that cannot be inspected. -/
theorem Node.Breaks.run {depth : Nat} {bytes : List UInt8} {fault : Fault} :
    Node.Breaks depth bytes fault → (frames : List Frame) →
      Fails depth fault frames (State.run ⟨frames, .value⟩ bytes)
  | .absent lacks, frames => fails_of_broken (lacks.run_value frames) depth
  | .word breaks, frames => fails_of_broken (breaks.run frames) depth
  | .number breaks, frames => breaks.run depth frames
  | .text breaks, frames => by
      obtain ⟨body, text, late, rfl, fails, shows⟩ := Text.Breaks.run (quoting_text frames) breaks
      refine ⟨.text text, ?_, trivial, shows⟩
      rw [Node.inspect, fails]
      rfl
  | .deepArray rest deep, frames =>
      ⟨.array (.cut .ended), by rw [Node.inspect, if_pos deep], trivial,
        State.shows_soFar ⟨frames, .firstItem⟩ rest⟩
  | .deepObject rest deep, frames =>
      ⟨.object (.cut .ended), by rw [Node.inspect, if_pos deep], trivial,
        State.shows_soFar ⟨frames, .firstKey⟩ rest⟩
  | @Node.Breaks.firstItem _ bytes first _ nested blanks notClose value, frames => by
      have fails := Node.Breaks.run value (.items [] :: frames)
      show Fails _ _ _ (State.run ⟨frames, .firstItem⟩ bytes)
      rw [blanks.run rfl]
      exact (value.run_first notClose frames fails).array nested
  | @Node.Breaks.laterItem _ bytes first behind value _ nested blanks stands items, frames => by
      have fails := Items.Breaks.run items frames [value]
      show Fails _ _ _ (State.run ⟨frames, .firstItem⟩ bytes)
      rw [blanks.run rfl, run_firstWritten stands.written, stands.run]
      exact (fails.later stands.fits.inspect).array nested
  | @Node.Breaks.firstMember _ bytes first _ nested blanks notClose member, frames => by
      have fails := Member.Breaks.run member frames []
      show Fails _ _ _ (State.run ⟨frames, .firstKey⟩ bytes)
      rw [blanks.run rfl, member.run_first notClose]
      exact fails.object nested
  | @Node.Breaks.laterMember _ bytes first behind key value _ nested blanks stands members, frames => by
      have fails := Members.Breaks.run members frames [(key, value)]
      obtain ⟨written, spells, colons, starts, stands⟩ := stands
      show Fails _ _ _ (State.run ⟨frames, .firstKey⟩ bytes)
      rw [blanks.run rfl, run_firstKey written, run_key written, colons.run rfl]
      show Fails _ _ _ (State.run ⟨.members [] key :: frames, .value⟩ _)
      rw [starts.run rfl, stands.run]
      exact (fails.later spells stands.fits.inspect).object nested

theorem Items.Breaks.run {depth : Nat} {bytes : List UInt8} {fault : Fault} :
    Items.Breaks depth bytes fault → (frames : List Frame) → (before : List Node) →
      ItemsFail depth fault frames before (State.run ⟨frames, .afterItem before⟩ bytes)
  | .between blanks lacks, frames, before => by
      rw [blanks.run rfl]
      exact ⟨.cut fault, rfl, Document.shows_of_eq (lacks.run_afterItem frames before) fault⟩
  | .item comma blanks value, frames, before => by
      have fails := Node.Breaks.run value (.items before :: frames)
      rw [comma.run rfl]
      show ItemsFail _ _ _ _ (State.run ⟨.items before :: frames, .value⟩ _)
      rw [blanks.run rfl]
      exact fails.item
  | @Items.Breaks.later _ _ _ _ _ value _ comma blanks stands items, frames, before => by
      have fails := Items.Breaks.run items frames (value :: before)
      rw [comma.run rfl]
      show ItemsFail _ _ _ _ (State.run ⟨.items before :: frames, .value⟩ _)
      rw [blanks.run rfl, stands.run]
      exact fails.later stands.fits.inspect

theorem Member.Breaks.run {depth : Nat} {bytes : List UInt8} {fault : Fault} :
    Member.Breaks depth bytes fault → (frames : List Frame) → (before : List (Text × Node)) →
      MembersFail depth fault frames before (State.run ⟨frames, .nextKey before⟩ bytes)
  | .absent lacks, frames, before =>
      ⟨.cut fault, rfl, Document.shows_of_eq (lacks.run_nextKey frames before) fault⟩
  | .key breaks, frames, before => by
      obtain ⟨body, text, late, rfl, fails, shows⟩ := Text.Breaks.run (quoting_key frames before) breaks
      refine ⟨.member text (.broken late) (.cut .ended), ?_, shows⟩
      rw [Members.inspect, fails]
      rfl
  | @Member.Breaks.colon _ _ _ _ key _ _ written spells blanks lacks, frames, before => by
      rw [run_key written, blanks.run rfl]
      refine ⟨.member key (.broken fault) (.cut .ended), ?_,
        Document.shows_of_eq (lacks.run_colon frames before key) fault⟩
      rw [Members.inspect, Text.decode_of_spells spells]
      rfl
  | @Member.Breaks.value _ _ _ _ _ key _ _ written spells colons blanks value, frames, before => by
      have fails := Node.Breaks.run value (.members before key :: frames)
      rw [run_key written, colons.run rfl]
      show MembersFail _ _ _ _ (State.run ⟨.members before key :: frames, .value⟩ _)
      rw [blanks.run rfl]
      exact fails.member spells

theorem Members.Breaks.run {depth : Nat} {bytes : List UInt8} {fault : Fault} :
    Members.Breaks depth bytes fault → (frames : List Frame) → (before : List (Text × Node)) →
      MembersFail depth fault frames before (State.run ⟨frames, .afterMember before⟩ bytes)
  | .between blanks lacks, frames, before => by
      rw [blanks.run rfl]
      exact ⟨.cut fault, rfl, Document.shows_of_eq (lacks.run_afterMember frames before) fault⟩
  | .member comma blanks member, frames, before => by
      have fails := Member.Breaks.run member frames before
      rw [comma.run rfl]
      show MembersFail _ _ _ _ (State.run ⟨frames, .nextKey before⟩ _)
      rw [blanks.run rfl]
      exact fails
  | @Members.Breaks.later _ _ _ _ _ key value _ comma blanks stands members, frames, before => by
      have fails := Members.Breaks.run members frames ((key, value) :: before)
      obtain ⟨written, spells, colons, starts, stands⟩ := stands
      rw [comma.run rfl]
      show MembersFail _ _ _ _ (State.run ⟨frames, .nextKey before⟩ _)
      rw [blanks.run rfl, run_key written, colons.run rfl]
      show MembersFail _ _ _ _ (State.run ⟨.members before key :: frames, .value⟩ _)
      rw [starts.run rfl, stands.run]
      exact fails.later spells stands.fits.inspect

end

end SpriteStage.Json
