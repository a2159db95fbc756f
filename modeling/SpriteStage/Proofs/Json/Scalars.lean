/-
Module: SpriteStage.Proofs.Json.Scalars
Purpose: Scalars and what is in order. A text is decoded to the string that it spells, and to no other; one that was
  cut short fails with the fault that cut it if its pieces may still go on, and is malformed if they
  may not. A number has a double unless it overflows. So a value that fits a depth can be inspected
  at that depth.
Main exports: Text.decode_of_spells, Text.spells_or_malformed, Text.decode_cut, Literal.toFloat_of_overflows,
  Node.Fits.inspect
-/
import SpriteStage.Proofs.Json.Problems
import SpriteStage.Proofs.Json.Recovery

namespace SpriteStage.Json

/-! ## Texts -/

/-- A code unit is whole, or the first half of a pair. -/
theorem Pieces.Spell.of_unit {code : Nat} {pieces : List Piece} {bytes : List UInt8}
    (spells : Pieces.Spell (.unit code :: pieces) bytes) :
    ((code < 0xD800 ∨ 0xE000 ≤ code) ∧ ∃ behind, Pieces.Spell pieces behind) ∨
      ∃ low rest behind, (0xD800 ≤ code ∧ code < 0xDC00) ∧ pieces = .unit low :: rest ∧
        (0xDC00 ≤ low ∧ low < 0xE000) ∧ Pieces.Spell rest behind := by
  cases spells with
  | unit whole spells => exact Or.inl ⟨whole, _, spells⟩
  | pair least below leastLow belowLow spells =>
      exact Or.inr ⟨_, _, _, ⟨least, below⟩, rfl, ⟨leastLow, belowLow⟩, spells⟩

theorem decodePieces_of_spell {pieces : List Piece} {bytes : List UInt8}
    (spells : Pieces.Spell pieces bytes) : decodePieces none pieces = .ok bytes := by
  induction spells with
  | none => rfl
  | plain b _ further => simp only [decodePieces, further]; rfl
  | escaped b _ further => simp only [decodePieces, further]; rfl
  | @unit code pieces bytes whole _ further =>
      have notHigh : ¬(0xD800 ≤ code ∧ code < 0xDC00) := by omega
      have notLow : ¬(0xDC00 ≤ code ∧ code < 0xE000) := by omega
      rw [decodePieces.eq_def]
      simp only [notHigh, notLow, if_false, further]
      rfl
  | @pair high low pieces bytes least below leastLow belowLow _ further =>
      have isHigh : 0xD800 ≤ high ∧ high < 0xDC00 := ⟨least, below⟩
      have isLow : 0xDC00 ≤ low ∧ low < 0xE000 := ⟨leastLow, belowLow⟩
      simp only [decodePieces, isHigh, isLow, and_self, if_true, further]
      rfl

theorem spell_of_decodePieces {pieces : List Piece} {bytes : List UInt8}
    (decodes : decodePieces none pieces = .ok bytes) : Pieces.Spell pieces bytes := by
  fun_induction decodePieces none pieces generalizing bytes with
  | case1 fault given => cases given
  | case2 =>
      cases decodes
      exact .none
  | case3 b rest further =>
      obtain ⟨behind, rest_decodes, ends⟩ := bind_eq_ok.mp decodes
      cases ends
      exact .plain b (further rest_decodes)
  | case4 b rest further =>
      obtain ⟨behind, rest_decodes, ends⟩ := bind_eq_ok.mp decodes
      cases ends
      exact .escaped b (further rest_decodes)
  | case5 high isHigh low rest isLow further =>
      obtain ⟨behind, rest_decodes, ends⟩ := bind_eq_ok.mp decodes
      rw [← Except.ok.inj ends]
      exact .pair isHigh.1 isHigh.2 isLow.1 isLow.2 (further rest_decodes)
  | case6 => cases decodes
  | case7 => cases decodes
  | case8 => cases decodes
  | case9 => cases decodes
  | case10 code rest notHigh notLow further =>
      obtain ⟨behind, rest_decodes, ends⟩ := bind_eq_ok.mp decodes
      rw [← Except.ok.inj ends]
      exact .unit (by omega) (further rest_decodes)

/-- Decoding fails only because of the pieces. -/
theorem decodePieces_fault {pieces : List Piece} {fault : Fault}
    (fails : decodePieces none pieces = .error fault) : fault = .malformed := by
  have passes : ∀ {use : List UInt8 → List UInt8} {rest : Except Fault (List UInt8)},
      (do return use (← rest)) = .error fault → rest = .error fault := by
    intro use rest fails
    cases rest with
    | error other => exact congrArg Except.error (Except.error.inj fails)
    | ok behind => cases fails
  fun_induction decodePieces none pieces with
  | case1 other given => cases given
  | case2 => cases fails
  | case3 b rest further => exact further (passes fails)
  | case4 b rest further => exact further (passes fails)
  | case5 high isHigh low rest isLow further => exact further (passes fails)
  | case6 => exact (Except.error.inj fails).symm
  | case7 => exact (Except.error.inj fails).symm
  | case8 => exact (Except.error.inj fails).symm
  | case9 => exact (Except.error.inj fails).symm
  | case10 code rest notHigh notLow further => exact further (passes fails)

/-- Pieces that may go on fail with the fault that cut them short. -/
theorem decodePieces_of_open {pieces : List Piece} (opens : Pieces.Open pieces) (fault : Fault) :
    decodePieces (some fault) pieces = .error fault := by
  obtain ⟨more, bytes, spells⟩ := opens
  fun_induction decodePieces (some fault) pieces generalizing bytes with
  | case1 other given => exact congrArg Except.error (Option.some.inj given).symm
  | case2 given => cases given
  | case3 b rest further =>
      cases spells with
      | plain _ spells => rw [further _ spells]; rfl
  | case4 b rest further =>
      cases spells with
      | escaped _ spells => rw [further _ spells]; rfl
  | case5 high isHigh low rest isLow further =>
      rcases spells.of_unit with ⟨whole, _⟩ | ⟨_, _, _, _, same, _, spells⟩
      · omega
      · cases same
        rw [further _ spells]; rfl
  | case6 high isHigh low rest notLow =>
      rcases spells.of_unit with ⟨whole, _⟩ | ⟨_, _, _, _, same, isLow, _⟩
      · omega
      · cases same
        exact absurd isLow notLow
  | case7 high isHigh => rfl
  | case8 high rest isHigh noUnit notEmpty =>
      rcases spells.of_unit with ⟨whole, _⟩ | ⟨_, _, _, _, same, _, _⟩
      · omega
      · cases rest with
        | nil => exact absurd rfl notEmpty
        | cons piece rest =>
            cases same
            exact absurd rfl (noUnit _ rest)
  | case9 low rest notHigh isLow =>
      rcases spells.of_unit with ⟨whole, _⟩ | ⟨_, _, _, isHigh, _⟩
      · omega
      · exact absurd isHigh notHigh
  | case10 code rest notHigh notLow further =>
      rcases spells.of_unit with ⟨_, _, spells⟩ | ⟨_, _, _, isHigh, _⟩
      · rw [further _ spells]; rfl
      · exact absurd isHigh notHigh

namespace Pieces

theorem Open.plain {pieces : List Piece} (b : UInt8) :
    Open pieces → Open (.plain b :: pieces)
  | ⟨more, _, spells⟩ => ⟨more, _, .plain b spells⟩

theorem Open.escaped {pieces : List Piece} (b : UInt8) :
    Open pieces → Open (.escaped b :: pieces)
  | ⟨more, _, spells⟩ => ⟨more, _, .escaped b spells⟩

theorem Open.unit {pieces : List Piece} {code : Nat} (whole : code < 0xD800 ∨ 0xE000 ≤ code) :
    Open pieces → Open (.unit code :: pieces)
  | ⟨more, _, spells⟩ => ⟨more, _, .unit whole spells⟩

theorem Open.pair {pieces : List Piece} {high low : Nat} (isHigh : 0xD800 ≤ high ∧ high < 0xDC00)
    (isLow : 0xDC00 ≤ low ∧ low < 0xE000) : Open pieces → Open (.unit high :: .unit low :: pieces)
  | ⟨more, _, spells⟩ => ⟨more, _, .pair isHigh.1 isHigh.2 isLow.1 isLow.2 spells⟩

/-- The first half of a pair may be followed by the second one. -/
theorem open_high {high : Nat} (isHigh : 0xD800 ≤ high ∧ high < 0xDC00) : Open [.unit high] :=
  ⟨[.unit 0xDC00], _, .pair isHigh.1 isHigh.2 le_rfl (by decide) .none⟩

end Pieces

/-- Pieces that may not go on are malformed, whatever cut them short. -/
theorem decodePieces_of_not_open {pieces : List Piece} (closed : ¬Pieces.Open pieces)
    (fault : Option Fault) : decodePieces fault pieces = .error .malformed := by
  fun_induction decodePieces fault pieces with
  | case1 | case2 => exact absurd ⟨[], _, .none⟩ closed
  | case3 b rest further => rw [further fun opens => closed (opens.plain b)]; rfl
  | case4 b rest further => rw [further fun opens => closed (opens.escaped b)]; rfl
  | case5 high isHigh low rest isLow further =>
      rw [further fun opens => closed (opens.pair isHigh isLow)]; rfl
  | case6 => rfl
  | case7 high isHigh => exact absurd (Pieces.open_high isHigh) closed
  | case8 => rfl
  | case9 => rfl
  | case10 code rest notHigh notLow further =>
      rw [further fun opens => closed (opens.unit (by omega))]; rfl

/-- Bytes are those of a string exactly if the string is read from them. -/
theorem fromUTF8?_eq_some_iff {bytes : List UInt8} {string : String} :
    String.fromUTF8? bytes.toByteArray = some string ↔ string.toUTF8.data.toList = bytes := by
  unfold String.fromUTF8?
  constructor
  · intro reads
    split at reads
    · cases reads
      simp [String.fromUTF8]
    · cases reads
  · rintro rfl
    have same : string.toUTF8.data.toList.toByteArray = string.toByteArray :=
      ByteArray.ext (by simp)
    rw [same, dif_pos string.isValidUTF8]
    rfl

namespace Text

theorem decode_of_fault {text : Text} {fault : Fault}
    (fails : decodePieces text.fault text.pieces = .error fault) : text.decode = .error fault := by
  rw [decode, fails]
  rfl

theorem decode_of_bytes {text : Text} {bytes : List UInt8}
    (decodes : decodePieces text.fault text.pieces = .ok bytes) :
    text.decode = (String.fromUTF8? bytes.toByteArray).elim (.error .malformed) .ok := by
  simp only [decode, decodes, Bind.bind, Except.bind]
  cases String.fromUTF8? bytes.toByteArray <;> rfl

/-- A text that was cut short fails with the fault that cut it, if its pieces may go on. -/
theorem decode_cut {pieces : List Piece} (opens : Pieces.Open pieces) (fault : Fault) :
    (⟨pieces, some fault⟩ : Text).decode = .error fault :=
  decode_of_fault (decodePieces_of_open opens fault)

/-- A text whose pieces may not go on is malformed. -/
theorem decode_unpaired {pieces : List Piece} (closed : ¬Pieces.Open pieces) (fault : Option Fault) :
    (⟨pieces, fault⟩ : Text).decode = .error .malformed :=
  decode_of_fault (decodePieces_of_not_open closed fault)

theorem decode_of_spells {text : Text} {string : String} (spells : text.Spells string) :
    text.decode = .ok string := by
  obtain ⟨pieces, fault⟩ := text
  obtain ⟨rfl, spells⟩ := spells
  rw [decode_of_bytes (decodePieces_of_spell spells), fromUTF8?_eq_some_iff.mpr rfl]
  rfl

/-- A text is decoded to the string that it spells, and a text that was read to its end and spells none is malformed. -/
theorem spells_or_malformed {text : Text} (whole : text.fault = none) :
    (∃ string, text.Spells string) ∨ text.decode = .error .malformed := by
  obtain ⟨pieces, fault⟩ := text
  obtain rfl : fault = none := whole
  cases bytes_of : decodePieces none pieces with
  | error fault =>
      obtain rfl := decodePieces_fault bytes_of
      exact Or.inr (decode_of_fault bytes_of)
  | ok bytes =>
      cases reads : String.fromUTF8? bytes.toByteArray with
      | none =>
          right
          rw [decode_of_bytes bytes_of, reads]
          rfl
      | some string =>
          left
          rw [← fromUTF8?_eq_some_iff.mp reads] at bytes_of
          exact ⟨string, rfl, spell_of_decodePieces bytes_of⟩

end Text

/-! ## Numbers -/

namespace Literal

theorem overflows_iff (literal : Literal) :
    literal.Overflows ↔ literal.value.magnitude = Binary64.infinite := by
  have near := literal.value.magnitude_nearest
  rw [Overflows, ← Binary64.nearest_infinite_iff]
  exact ⟨near.unique, fun same => same ▸ near⟩

theorem toFloat_of_overflows {literal : Literal} (overflows : literal.Overflows) :
    literal.toFloat = .error .malformed := by
  have infinite : literal.value.isFinite = false := by
    rw [Decimal.isFinite, (overflows_iff literal).mp overflows]
    rfl
  rw [toFloat, infinite]
  rfl

theorem toFloat_of_not_overflows {literal : Literal} (fits : ¬literal.Overflows) :
    literal.toFloat = .ok literal.value.toFloat := by
  have below : literal.value.magnitude < Binary64.infinite :=
    lt_of_le_of_ne literal.value.magnitude_nearest.bounded (mt (overflows_iff literal).mpr fits)
  have finite : literal.value.isFinite = true := decide_eq_true below
  rw [toFloat, finite]
  rfl

end Literal

/-! ## Values -/

mutual

/-- What fits a depth can be inspected at that depth. -/
theorem Node.Fits.inspect {depth : Nat} : {node : Node} → node.Fits depth → node.inspect depth = .ok ()
  | .null, _ => rfl
  | .bool _, _ => rfl
  | .number literal, fits => by
      rw [Node.inspect, literal.toFloat_of_not_overflows fits.1]
      rfl
  | .text text, fits => by
      obtain ⟨string, spells⟩ := fits.1
      rw [Node.inspect, Text.decode_of_spells spells]
      rfl
  | .array items, ⟨sound, nested⟩ => by
      have nested : items.nesting + 1 < depth := nested
      rw [Node.inspect, if_neg (by omega)]
      exact Items.Fits.inspect ⟨sound, by omega⟩
  | .object members, ⟨sound, nested⟩ => by
      have nested : members.nesting + 1 < depth := nested
      rw [Node.inspect, if_neg (by omega)]
      exact Members.Fits.inspect ⟨sound, by omega⟩

theorem Items.Fits.inspect {depth : Nat} :
    {items : Items} → items.Fits depth → items.inspect depth = .ok ()
  | .done, _ => rfl
  | .item value rest, ⟨⟨sound, others⟩, nested⟩ => by
      obtain ⟨first, later⟩ := max_lt_iff.mp nested
      rw [Items.inspect, Node.Fits.inspect ⟨sound, first⟩]
      exact Items.Fits.inspect ⟨others, later⟩

theorem Members.Fits.inspect {depth : Nat} :
    {members : Members} → members.Fits depth → members.inspect depth = .ok ()
  | .done, _ => rfl
  | .member key value rest, ⟨⟨⟨name, spells⟩, sound, others⟩, nested⟩ => by
      obtain ⟨first, later⟩ := max_lt_iff.mp nested
      rw [Members.inspect, Text.decode_of_spells spells]
      show (value.inspect depth >>= fun _ => rest.inspect depth) = .ok ()
      rw [Node.Fits.inspect ⟨sound, first⟩]
      exact Members.Fits.inspect ⟨others, later⟩

end

end SpriteStage.Json
