/-
Module: SpriteStage.Proofs.Json.Coverage
Purpose: Every text is in order or breaks off somewhere. A text that was to begin with a value begins with one in
  which nothing is wrong, or there is a first place where it breaks off. The induction is on the length
  of the text: whatever follows a token is shorter, so it is known of it already which of the two
  holds.
Main exports: Covered, covered, Node.stands_or_breaks
-/
import SpriteStage.Proofs.Json.Prefixes
import SpriteStage.Proofs.Json.Scalars

namespace SpriteStage.Json

/-! ## Blanks -/

/-- A text that does not begin with a blank. -/
def Unblanked (bytes : List UInt8) : Prop := ∀ b more, bytes = b :: more → isBlank b = false

theorem exists_unblanked (bytes : List UInt8) :
    ∃ start, Blanks bytes start ∧ Unblanked start ∧ start.length ≤ bytes.length := by
  induction bytes with
  | nil => exact ⟨[], .none _, nofun, le_rfl⟩
  | cons b bytes more =>
      by_cases blank : isBlank b = true
      · obtain ⟨start, blanks, unblanked, shorter⟩ := more
        exact ⟨start, .more blank blanks, unblanked, Nat.le_succ_of_le shorter⟩
      · refine ⟨b :: bytes, .none _, ?_, le_rfl⟩
        rintro b more ⟨⟩
        exact Bool.eq_false_of_not_eq_true blank

/-- A text that does not begin with a blank begins with a byte that is due, or lacks it. -/
theorem due_or_lacks (due : UInt8 → Prop) {bytes : List UInt8} (unblanked : Unblanked bytes) :
    (∃ b more, bytes = b :: more ∧ due b) ∨ ∃ fault, Lacks due bytes fault := by
  cases bytes with
  | nil => exact Or.inr ⟨_, .ended⟩
  | cons b bytes =>
      by_cases isDue : due b
      · exact Or.inl ⟨b, bytes, rfl, isDue⟩
      · exact Or.inr ⟨_, .other (unblanked b bytes rfl) isDue⟩

/-! ## Words -/

/-- A text begins with a word, or breaks off within it. -/
theorem word_or_breaks {first : UInt8} {letters : List UInt8} (word : first :: letters ∈ words)
    (bytes : List UInt8) :
    (∃ rest, bytes = letters ++ rest) ∨ ∃ fault, Word.Breaks (first :: bytes) fault := by
  -- The letters that were found already are put in front of those that are left.
  have splits : ∀ {letters : List UInt8} (front bytes : List UInt8),
      first :: front ++ letters ∈ words →
        (∃ rest, bytes = letters ++ rest) ∨ ∃ fault, Word.Breaks (first :: front ++ bytes) fault := by
    intro letters
    induction letters with
    | nil => exact fun _ bytes _ => Or.inl ⟨bytes, rfl⟩
    | cons due letters further =>
        intro front bytes word
        cases bytes with
        | nil =>
            rw [List.append_nil]
            exact Or.inr ⟨_, .cut (List.cons_ne_nil _ _) word⟩
        | cons b bytes =>
            by_cases same : b = due
            · subst same
              rcases further (front ++ [b]) bytes (by simpa using word) with
                ⟨rest, rfl⟩ | ⟨fault, breaks⟩
              · exact Or.inl ⟨rest, rfl⟩
              · exact Or.inr ⟨fault, by simpa using breaks⟩
            · exact Or.inr ⟨_, .other (List.cons_ne_nil _ _) word same⟩
  exact splits [] bytes word

/-! ## Texts -/

/-- A text between quotes is pieces up to a closing quote, or up to where it breaks off. -/
theorem exists_pieces (bytes : List UInt8) :
    ∃ pieces rest, Pieces.Written bytes pieces rest ∧ rest.length ≤ bytes.length ∧
      (Piece.Cut rest ∨ Piece.Wrong rest ∨ ∃ behind, rest = ascii '"' :: behind) := by
  induction length : bytes.length using Nat.strong_induction_on generalizing bytes with
  | h n shorter =>
      subst length
      match bytes with
      | [] => exact ⟨[], [], .none _, le_rfl, Or.inl .nothing⟩
      | b :: bytes =>
          by_cases quote : b = ascii '"'
          · exact ⟨[], _, .none _, le_rfl, Or.inr (Or.inr ⟨bytes, by rw [quote]⟩)⟩
          by_cases backslash : b = ascii '\\'
          · subst backslash
            match bytes with
            | [] => exact ⟨[], _, .none _, le_rfl, Or.inl .escape⟩
            | letter :: bytes =>
                by_cases unit : letter = ascii 'u'
                · subst unit
                  match bytes with
                  | a :: b :: c :: d :: bytes =>
                      cases number : hexNumber? [a, b, c, d] with
                      | none => exact ⟨[], _, .none _, le_rfl, Or.inr (Or.inl (.unit number))⟩
                      | some code =>
                          obtain ⟨pieces, rest, written, less, ends⟩ :=
                            shorter _ (by simp only [List.length_cons]; omega) bytes rfl
                          exact ⟨_, rest, .unit number written, by simp only [List.length_cons]; omega, ends⟩
                  | [] | [_] | [_, _] | [_, _, _] =>
                      exact ⟨[], _, .none _, le_rfl, Or.inl (.unit (by simp))⟩
                · cases escape : shortEscape? letter with
                  | none => exact ⟨[], _, .none _, le_rfl, Or.inr (Or.inl (.escape unit escape))⟩
                  | some byte =>
                      obtain ⟨pieces, rest, written, less, ends⟩ :=
                        shorter _ (by simp only [List.length_cons]; omega) bytes rfl
                      exact ⟨_, rest, .escaped escape written, by simp only [List.length_cons]; omega, ends⟩
          by_cases control : b < 32
          · exact ⟨[], _, .none _, le_rfl, Or.inr (Or.inl (.control control))⟩
          · obtain ⟨pieces, rest, written, less, ends⟩ := shorter _ (Nat.lt_succ_self _) bytes rfl
            exact ⟨_, rest, .plain control quote backslash written, Nat.le_succ_of_le less, ends⟩

/-- A text that begins with a quote is one that spells a string, or breaks off. -/
theorem text_or_breaks (bytes : List UInt8) :
    (∃ text string rest, Text.Written (ascii '"' :: bytes) text rest ∧ text.Spells string ∧
      rest.length < bytes.length) ∨ ∃ fault, Text.Breaks (ascii '"' :: bytes) fault := by
  obtain ⟨pieces, rest, written, less, cut | wrong | ⟨behind, rfl⟩⟩ := exists_pieces bytes
  · by_cases opens : Pieces.Open pieces
    · exact Or.inr ⟨_, .cut written cut opens⟩
    · exact Or.inr ⟨_, .unpaired written opens⟩
  · exact Or.inr ⟨_, .other written wrong⟩
  · by_cases spelled : ∃ string, (⟨pieces, none⟩ : Text).Spells string
    · obtain ⟨string, spells⟩ := spelled
      exact Or.inl ⟨_, string, behind, .quoted written, spells, less⟩
    · exact Or.inr ⟨_, .unspelled (.quoted written) (not_exists.mp spelled)⟩

/-! ## Values -/

theorem Items.fits_done {depth : Nat} (positive : 0 < depth) : Items.Fits depth .done := ⟨trivial, positive⟩

theorem Items.Fits.item {depth : Nat} {value : Node} {rest : Items} (first : value.Fits depth)
    (others : rest.Fits depth) : (Items.item value rest).Fits depth :=
  ⟨⟨first.1, others.1⟩, max_lt first.2 others.2⟩

theorem Items.Fits.array {depth : Nat} {items : Items}
    (fits : items.Fits (depth - 1)) : (Node.array items).Fits depth :=
  ⟨fits.1, Nat.add_lt_of_lt_sub fits.2⟩

theorem Members.fits_done {depth : Nat} (positive : 0 < depth) : Members.Fits depth .done :=
  ⟨trivial, positive⟩

theorem Members.Fits.member {depth : Nat} {key : Text} {name : String} {value : Node} {rest : Members}
    (spells : key.Spells name) (first : value.Fits depth) (others : rest.Fits depth) :
    (Members.member key value rest).Fits depth :=
  ⟨⟨⟨name, spells⟩, first.1, others.1⟩, max_lt first.2 others.2⟩

theorem Members.Fits.object {depth : Nat} {members : Members}
    (fits : members.Fits (depth - 1)) : (Node.object members).Fits depth :=
  ⟨fits.1, Nat.add_lt_of_lt_sub fits.2⟩

/-- What is written without the bytes of a number is no beginning of one. -/
theorem Node.Stands.of_first {depth : Nat} {b : UInt8} {bytes rest : List UInt8} {node : Node}
    (written : Node.Written (b :: bytes) node rest) (fits : node.Fits depth)
    (notMinus : b ≠ ascii '-') (notDigit : isDigit b = false) :
    Node.Stands depth (b :: bytes) node rest := by
  refine ⟨written, fits, ?_⟩
  intro front same begins
  obtain ⟨first, more, rfl, sign | digit⟩ := begins.begins
  · exact absurd ((List.cons.inj same).1.trans sign) notMinus
  · rw [← (List.cons.inj same).1, notDigit] at digit
    cases digit

/-- A text that begins like a number begins with one that stands there, or breaks off. -/
theorem number_or_breaks {b : UInt8} (begins : b = ascii '-' ∨ isDigit b = true) (bytes : List UInt8)
    {depth : Nat} (positive : 0 < depth) :
    (∃ node rest, Node.Stands depth (b :: bytes) node rest ∧ rest.length < (b :: bytes).length) ∨
      ∃ fault, Number.Breaks (b :: bytes) fault := by
  obtain ⟨front, rest, same, isPrefix, longest⟩ :=
    exists_longest (numberPrefix_of_begins begins) bytes
  rw [show b :: bytes = front ++ rest from same]
  by_cases whole : ∃ written : WrittenNumber, written.bytes = front
  · obtain ⟨written, rfl⟩ := whole
    by_cases zero : ∃ b more, rest = b :: more ∧ isDigit b = true
    · obtain ⟨b, more, rfl, digit⟩ := zero
      exact Or.inr ⟨_, .leadingZero written digit (longest b more rfl)⟩
    have outside : Outside written.bytes rest := by
      intro b more follows
      refine ⟨?_, longest b more follows⟩
      by_contra digit
      exact zero ⟨b, more, follows, Bool.not_eq_false _ |>.mp digit⟩
    by_cases overflows : written.literal.Overflows
    · exact Or.inr ⟨_, .overflow written outside overflows⟩
    · refine Or.inl ⟨_, rest, ⟨.number written rest, ⟨overflows, positive⟩, ?_⟩, ?_⟩
      · intro front same _
        rwa [← List.append_cancel_right same]
      · rw [List.length_append]
        exact Nat.lt_add_of_pos_left (List.length_pos_iff.mpr written.bytes_ne_nil)
  · have none_whole := not_exists.mp whole
    cases rest with
    | nil =>
        rw [List.append_nil]
        exact Or.inr ⟨_, .cut isPrefix none_whole⟩
    | cons b rest => exact Or.inr ⟨_, .other isPrefix none_whole (longest b rest rfl)⟩

/-- A text begins with a value in which nothing is wrong, or breaks off within it. -/
def ValueCovered (depth : Nat) (bytes : List UInt8) : Prop :=
  (∃ node rest, Node.Stands depth bytes node rest ∧ rest.length < bytes.length) ∨
    ∃ fault, Node.Breaks depth bytes fault

/-- A text goes on behind an item up to the end of the array, or breaks off before it. -/
def ItemsCovered (depth : Nat) (bytes : List UInt8) : Prop :=
  (∃ items rest, Items.Written bytes items rest ∧ items.Fits depth ∧ rest.length < bytes.length) ∨
    ∃ fault, Items.Breaks depth bytes fault

/-- A text begins with a member in which nothing is wrong, or breaks off within it. -/
def MemberCovered (depth : Nat) (bytes : List UInt8) : Prop :=
  (∃ key value rest, Member.Stands depth bytes key value rest ∧ rest.length < bytes.length) ∨
    ∃ fault, Member.Breaks depth bytes fault

/-- A text goes on behind a member up to the end of the object, or breaks off before it. -/
def MembersCovered (depth : Nat) (bytes : List UInt8) : Prop :=
  (∃ members rest, Members.Written bytes members rest ∧ members.Fits depth ∧
    rest.length < bytes.length) ∨ ∃ fault, Members.Breaks depth bytes fault

/-- Of whatever was to stand at the beginning of a text, it stands there or the text breaks off in it. -/
structure Covered (bytes : List UInt8) : Prop where
  value : ∀ {depth}, 0 < depth → Unblanked bytes → ValueCovered depth bytes
  items : ∀ {depth}, 0 < depth → ItemsCovered depth bytes
  member : ∀ {depth}, 0 < depth → Unblanked bytes → MemberCovered depth bytes
  members : ∀ {depth}, 0 < depth → MembersCovered depth bytes

section

variable {bytes inner : List UInt8} {depth : Nat}
  (shorter : ∀ later : List UInt8, later.length < bytes.length → Covered later)

include shorter

theorem covered_items (positive : 0 < depth) : ItemsCovered depth bytes := by
  obtain ⟨start, blanks, unblanked, less⟩ := exists_unblanked bytes
  obtain ⟨b, more, rfl, rfl | rfl⟩ | ⟨fault, lacks⟩ := due_or_lacks FollowsItem unblanked
  · obtain ⟨first, starts, unblanked, fewer⟩ := exists_unblanked more
    rw [List.length_cons] at less
    rcases (shorter first (by omega)).value positive unblanked with
      ⟨value, behind, stands, left⟩ | ⟨fault, breaks⟩
    · rcases (shorter behind (by omega)).items positive with
        ⟨items, rest, written, fits, fewest⟩ | ⟨fault, breaks⟩
      · exact Or.inl ⟨_, rest, .item blanks starts stands.written written, fits.item stands.fits,
          by omega⟩
      · exact Or.inr ⟨fault, .later blanks starts stands breaks⟩
    · exact Or.inr ⟨fault, .item blanks starts breaks⟩
  · exact Or.inl ⟨_, more, .close blanks, Items.fits_done positive, Nat.lt_of_succ_le less⟩
  · exact Or.inr ⟨fault, .between blanks lacks⟩

theorem covered_member (positive : 0 < depth) (unblanked : Unblanked bytes) :
    MemberCovered depth bytes := by
  obtain ⟨b, bytes, rfl, rfl⟩ | ⟨fault, lacks⟩ := due_or_lacks (· = ascii '"') unblanked
  · rw [List.length_cons] at shorter
    rcases text_or_breaks bytes with ⟨key, name, colon, written, spells, less⟩ | ⟨fault, breaks⟩
    · obtain ⟨next, blanks, unblanked, fewer⟩ := exists_unblanked colon
      obtain ⟨b, before, rfl, rfl⟩ | ⟨fault, lacks⟩ := due_or_lacks (· = ascii ':') unblanked
      · obtain ⟨start, starts, unblanked, left⟩ := exists_unblanked before
        rw [List.length_cons] at fewer
        rcases (shorter start (by omega)).value positive unblanked with
          ⟨value, behind, stands, fewest⟩ | ⟨fault, breaks⟩
        · exact Or.inl ⟨key, value, behind, .member written spells blanks starts stands,
            by rw [List.length_cons]; omega⟩
        · exact Or.inr ⟨fault, .value written spells blanks starts breaks⟩
      · exact Or.inr ⟨fault, .colon written spells blanks lacks⟩
    · exact Or.inr ⟨fault, .key breaks⟩
  · exact Or.inr ⟨fault, .absent lacks⟩

theorem covered_members (positive : 0 < depth) : MembersCovered depth bytes := by
  obtain ⟨start, blanks, unblanked, less⟩ := exists_unblanked bytes
  obtain ⟨b, more, rfl, rfl | rfl⟩ | ⟨fault, lacks⟩ := due_or_lacks FollowsMember unblanked
  · obtain ⟨first, firsts, unblanked, fewer⟩ := exists_unblanked more
    rw [List.length_cons] at less
    rcases (shorter first (by omega)).member positive unblanked with
      ⟨key, value, behind, stands, left⟩ | ⟨fault, breaks⟩
    · rcases (shorter behind (by omega)).members positive with
        ⟨members, rest, others, fits, fewest⟩ | ⟨fault, breaks⟩
      · obtain ⟨written, spells, colons, starts, stands⟩ := stands
        exact Or.inl ⟨_, rest, .member blanks firsts written colons starts stands.written others,
          fits.member spells stands.fits, by omega⟩
      · exact Or.inr ⟨fault, .later blanks firsts stands breaks⟩
    · exact Or.inr ⟨fault, .member blanks firsts breaks⟩
  · exact Or.inl ⟨_, more, .close blanks, Members.fits_done positive, Nat.lt_of_succ_le less⟩
  · exact Or.inr ⟨fault, .between blanks lacks⟩

/-- An array or an object may stand where the nesting does not forbid it. -/
theorem covered_array (opens : bytes = ascii '[' :: inner) : ValueCovered depth bytes := by
  subst opens
  have length : (ascii '[' :: inner).length = inner.length + 1 := rfl
  by_cases deep : depth ≤ 1
  · exact Or.inr ⟨_, .deepArray inner deep⟩
  have nested : 1 < depth := Nat.lt_of_not_le deep
  have some_depth : 0 < depth - 1 := Nat.sub_pos_of_lt nested
  obtain ⟨first, blanks, unblanked, less⟩ := exists_unblanked inner
  by_cases closes : first.head? = some (ascii ']')
  · obtain ⟨rest, rfl⟩ := List.head?_eq_some_iff.mp closes
    rw [List.length_cons] at less
    exact Or.inl ⟨_, rest, .of_first (.emptyArray blanks) (Items.fits_done some_depth).array
      (by decide) (by decide), by omega⟩
  rcases (shorter first (by omega)).value some_depth unblanked with
    ⟨value, behind, stands, fewer⟩ | ⟨fault, breaks⟩
  · rcases (shorter behind (by omega)).items some_depth with
      ⟨items, rest, written, fits, left⟩ | ⟨fault, breaks⟩
    · exact Or.inl ⟨_, rest, .of_first (.array blanks stands.written written)
        (fits.item stands.fits).array (by decide) (by decide), by omega⟩
    · exact Or.inr ⟨fault, .laterItem nested blanks stands breaks⟩
  · exact Or.inr ⟨fault, .firstItem nested blanks closes breaks⟩

theorem covered_object (opens : bytes = 123 :: inner) : ValueCovered depth bytes := by
  subst opens
  have length : ((123 : UInt8) :: inner).length = inner.length + 1 := rfl
  by_cases deep : depth ≤ 1
  · exact Or.inr ⟨_, .deepObject inner deep⟩
  have nested : 1 < depth := Nat.lt_of_not_le deep
  have some_depth : 0 < depth - 1 := Nat.sub_pos_of_lt nested
  obtain ⟨first, blanks, unblanked, less⟩ := exists_unblanked inner
  by_cases closes : first.head? = some 125
  · obtain ⟨rest, rfl⟩ := List.head?_eq_some_iff.mp closes
    rw [List.length_cons] at less
    exact Or.inl ⟨_, rest, .of_first (.emptyObject blanks) (Members.fits_done some_depth).object
      (by decide) (by decide), by omega⟩
  rcases (shorter first (by omega)).member some_depth unblanked with
    ⟨key, value, behind, stands, fewer⟩ | ⟨fault, breaks⟩
  · rcases (shorter behind (by omega)).members some_depth with
      ⟨members, rest, others, fits, left⟩ | ⟨fault, breaks⟩
    · obtain ⟨written, spells, colons, starts, stands⟩ := stands
      exact Or.inl ⟨_, rest, .of_first (.object blanks written colons starts stands.written others)
        (fits.member spells stands.fits).object (by decide) (by decide), by omega⟩
    · exact Or.inr ⟨fault, .laterMember nested blanks stands breaks⟩
  · exact Or.inr ⟨fault, .firstMember nested blanks closes breaks⟩

theorem covered_value (positive : 0 < depth) (unblanked : Unblanked bytes) :
    ValueCovered depth bytes := by
  -- One of the words, whose first letter is there.
  have word : ∀ {first : UInt8} (letters : List UInt8) (node : Node) {bytes : List UInt8},
      first :: letters ∈ words → (∀ rest, Node.Written (first :: letters ++ rest) node rest) →
        node.Fits depth → first ≠ ascii '-' → isDigit first = false →
          ValueCovered depth (first :: bytes) := by
    intro first letters node bytes isWord written fits notMinus notDigit
    rcases word_or_breaks isWord bytes with ⟨rest, rfl⟩ | ⟨fault, breaks⟩
    · refine Or.inl ⟨node, rest, .of_first (written rest) fits notMinus notDigit, ?_⟩
      rw [List.length_cons, List.length_append]
      omega
    · exact Or.inr ⟨fault, .word breaks⟩
  obtain ⟨b, inner, rfl, rfl | rfl | rfl | rfl | digit | rfl | rfl | rfl⟩ | ⟨fault, lacks⟩ :=
    due_or_lacks BeginsValue unblanked
  · exact word [ascii 'u', ascii 'l', ascii 'l'] .null (by decide) .null ⟨trivial, positive⟩
      (by decide) (by decide)
  · exact word [ascii 'r', ascii 'u', ascii 'e'] (.bool true) (by decide) .true ⟨trivial, positive⟩
      (by decide) (by decide)
  · exact word [ascii 'a', ascii 'l', ascii 's', ascii 'e'] (.bool false) (by decide) .false
      ⟨trivial, positive⟩ (by decide) (by decide)
  · exact (number_or_breaks (Or.inl rfl) inner positive).imp_right fun ⟨fault, breaks⟩ =>
      ⟨fault, .number breaks⟩
  · exact (number_or_breaks (Or.inr digit) inner positive).imp_right fun ⟨fault, breaks⟩ =>
      ⟨fault, .number breaks⟩
  · rcases text_or_breaks inner with ⟨text, string, rest, written, spells, less⟩ | ⟨fault, breaks⟩
    · exact Or.inl ⟨_, rest, .of_first (.text written) ⟨⟨string, spells⟩, positive⟩ (by decide)
        (by decide), Nat.lt_succ_of_lt less⟩
    · exact Or.inr ⟨fault, .text breaks⟩
  · exact covered_array shorter rfl
  · exact covered_object shorter rfl
  · exact Or.inr ⟨fault, .absent lacks⟩

end

theorem covered (bytes : List UInt8) : Covered bytes := by
  induction length : bytes.length using Nat.strong_induction_on generalizing bytes with
  | h n further =>
      subst length
      have shorter : ∀ later : List UInt8, later.length < bytes.length → Covered later :=
        fun later less => further later.length less later rfl
      exact ⟨covered_value shorter, covered_items shorter, covered_member shorter,
        covered_members shorter⟩

/-- Behind its blanks a text begins with a value in which nothing is wrong, or breaks off. -/
theorem Node.stands_or_breaks (bytes : List UInt8) {depth : Nat} (positive : 0 < depth) :
    ∃ start, Blanks bytes start ∧
      ((∃ node rest, Node.Stands depth start node rest) ∨ ∃ fault, Node.Breaks depth start fault) := by
  obtain ⟨start, blanks, unblanked, _⟩ := exists_unblanked bytes
  refine ⟨start, blanks, ?_⟩
  rcases (covered start).value positive unblanked with ⟨node, rest, stands, _⟩ | breaks
  · exact Or.inl ⟨node, rest, stands⟩
  · exact Or.inr breaks

end SpriteStage.Json
