/-
Module: SpriteStage.Proofs.Value.Classification
Purpose: What a text is as an argument value. A text that holds a scalar is read as that scalar, and its kind is kept:
  a number is an integer only if it is written as one and fits 64 bits, and otherwise the nearest double.
  Arrays and objects are refused for their kind if nothing else is wrong with them. Any other text is
  refused for the first place where it breaks off. So every text is classified, and in one way only.
Main exports: WrittenNumber.Writes, Value.Classified, Value.read_iff_classified
-/
import SpriteStage.Project.Reader
import SpriteStage.Proofs.Json.Breaking
import SpriteStage.Proofs.Json.Coverage
import SpriteStage.Proofs.Project.FirstProblem

namespace SpriteStage

open Json
open Binary64 (Nearest signed infinite)

/-! ## The classes -/

/-- A number that is written without a fraction and an exponent, that is no zero with a minus sign, and that is a
given whole number. -/
structure Json.WrittenNumber.Writes (written : WrittenNumber) (n : Int) : Prop where
  fraction : written.fraction = []
  exponent : written.exponent = none
  nonzero : written.negative = true → n ≠ 0
  value : n = if written.negative then -(digitsValue 0 written.whole : Int)
    else digitsValue 0 written.whole

/-- Whether a value is an array or an object. -/
def Json.Node.isCompound : Node → Bool
  | .array _ | .object _ => true
  | .null | .bool _ | .number _ | .cutNumber | .text _ | .broken _ => false

/-- What a text comes to as an argument value. -/
inductive Value.Classified (bytes : List UInt8) : Except Fault Value → Prop where
  | null : Node.WrittenAlone bytes .null → Classified bytes (.ok .null)
  | bool (b : Bool) : Node.WrittenAlone bytes (.bool b) → Classified bytes (.ok (.bool b))
  | integer (written : WrittenNumber) {behind : List UInt8} (n : Int64) :
      Blanks bytes (written.bytes ++ behind) → Blanks behind [] → written.Writes n.toInt →
        Classified bytes (.ok (.integer n))
  /-- Any other number is the nearest double, of the sign that is written even if it is zero. -/
  | float (written : WrittenNumber) {behind : List UInt8} {b : Nat} :
      Blanks bytes (written.bytes ++ behind) → Blanks behind [] →
        (∀ n : Int64, ¬written.Writes n.toInt) → Nearest written.literal.value.size b →
          b < infinite → Classified bytes (.ok (.float (signed written.negative b)))
  | string {text : Text} (string : String) :
      Node.WrittenAlone bytes (.text text) → text.Spells string →
        Classified bytes (.ok (.string string))
  /-- An array or an object in which nothing is wrong. -/
  | compound {start rest : List UInt8} {node : Node} :
      Blanks bytes start → Node.Stands depthLimit start node rest → node.isCompound = true →
        Classified bytes (.error .mistyped)
  /-- A scalar, an array or an object in which something is wrong, which includes a number that has no double. -/
  | broken {start : List UInt8} {fault : Fault} :
      Blanks bytes start → Node.Breaks depthLimit start fault → Classified bytes (.error fault)
  /-- A scalar with something else behind it. -/
  | trailing {start rest more : List UInt8} {node : Node} {b : UInt8} :
      Blanks bytes start → Node.Stands depthLimit start node rest → node.isCompound = false →
        Blanks rest (b :: more) → isBlank b = false → Classified bytes (.error .malformed)

/-! ## Numbers -/

namespace Json.WrittenNumber

theorem literal_whole_iff (written : WrittenNumber) :
    written.literal.whole = true ↔ written.fraction = [] ∧ written.exponent = none := by
  simp [literal]

theorem literal_coefficient {written : WrittenNumber} (fraction : written.fraction = []) :
    written.literal.value.coefficient = digitsValue 0 written.whole := by
  simp [literal, fraction, digitsValue]

/-- The whole number of a literal is the one that is written. -/
theorem toInt?_eq_some_iff (written : WrittenNumber) (n : Int) :
    written.literal.toInt? = some n ↔ written.Writes n := by
  have sign : written.literal.value.negative = written.negative := rfl
  constructor
  · intro reads
    by_cases whole : written.literal.whole = true
    · obtain ⟨fraction, exponent⟩ := written.literal_whole_iff.mp whole
      simp only [Literal.toInt?, whole, Bool.not_true, Bool.false_eq_true, if_false] at reads
      rw [literal_coefficient fraction, sign] at reads
      cases negative : written.negative with
      | false =>
          simp only [negative, Bool.not_false, if_true] at reads
          exact ⟨fraction, exponent, by simp [negative], by simp [negative, Option.some.inj reads]⟩
      | true =>
          simp only [negative, Bool.not_true, Bool.false_eq_true, if_false] at reads
          split at reads
          · cases reads
          · rename_i nonzero
            have value := (Option.some.inj reads).symm
            exact ⟨fraction, exponent, fun _ => by omega, by simp [negative, value]⟩
    · simp [Literal.toInt?, whole] at reads
  · rintro ⟨fraction, exponent, nonzero, value⟩
    rw [Literal.toInt?, written.literal_whole_iff.mpr ⟨fraction, exponent⟩,
      literal_coefficient fraction, sign]
    cases negative : written.negative with
    | false => simp [negative, value]
    | true =>
        have some_value := nonzero negative
        simp only [negative, if_true] at value
        have : digitsValue 0 written.whole ≠ 0 := by omega
        simp [this, value]

end Json.WrittenNumber

theorem Json.Literal.of_toInt?_eq_some {literal : Literal} {n : Int}
    (reads : literal.toInt? = some n) :
    literal.whole = true ∧ literal.value.coefficient = n.natAbs := by
  simp only [Literal.toInt?] at reads
  split at reads
  · cases reads
  rename_i whole
  refine ⟨by simpa using whole, ?_⟩
  split at reads
  · rw [← Option.some.inj reads, Int.natAbs_natCast]
  split at reads
  · cases reads
  · rw [← Option.some.inj reads, Int.natAbs_neg, Int.natAbs_natCast]

/-- A whole number of 64 bits has a double. -/
theorem Json.Literal.not_overflows_of_small {literal : Literal} (plain : literal.value.exponent = 0)
    (small : literal.value.coefficient ≤ 0x8000000000000000) : ¬literal.Overflows := by
  intro overflows
  have far : 0x8000000000000000 + twoTo 970 < twoTo 1024 := by decide +kernel
  have size : literal.value.size = literal.value.coefficient := by simp [Decimal.size, plain]
  rw [Literal.Overflows, size, sub_le_iff_le_add] at overflows
  have bound : twoTo 1024 ≤ literal.value.coefficient + twoTo 970 := by exact_mod_cast overflows
  omega

namespace Value

theorem ofLiteral_integer {written : WrittenNumber} {n : Int64} (writes : written.Writes n.toInt) :
    ofLiteral written.literal = .ok (.integer n) := by
  rw [ofLiteral, (written.toInt?_eq_some_iff _).mpr writes]
  simp only [Int64.minValue_le_toInt, Int64.toInt_le, and_self, if_true, Int64.ofInt_toInt]

theorem ofLiteral_float {written : WrittenNumber} (other : ∀ n : Int64, ¬written.Writes n.toInt) :
    ofLiteral written.literal = .float <$> written.literal.toFloat := by
  rw [ofLiteral]
  cases reads : written.literal.toInt? with
  | none => rfl
  | some n =>
      have beyond : ¬(Int64.minValue.toInt ≤ n ∧ n ≤ Int64.maxValue.toInt) := by
        rintro ⟨least, most⟩
        rw [Int64.toInt_minValue] at least
        rw [Int64.toInt_maxValue] at most
        have same := Int64.toInt_ofInt_of_le least (by omega)
        exact other (.ofInt n) (by rw [same]; exact (written.toInt?_eq_some_iff n).mp reads)
      simp only [beyond, if_false]

/-- The double of a number is the nearest one. -/
theorem toFloat_of_nearest {literal : Literal} {b : Nat} (near : Nearest literal.value.size b)
    (finite : b < infinite) : literal.toFloat = .ok (signed literal.value.negative b) := by
  obtain rfl := literal.value.magnitude_nearest.unique near
  have fits : ¬literal.Overflows := fun overflows => finite.ne ((literal.overflows_iff).mp overflows)
  exact literal.toFloat_of_not_overflows fits

/-! ## Values -/

/-- What cannot be inspected is no value, for the same reason. -/
theorem ofNode_of_inspect {depth : Nat} {node : Node} {fault : Fault} (plain : node.Plain)
    (fails : node.inspect depth = .error fault) : ofNode depth node = .error fault := by
  cases node with
  | null => cases fails
  | bool b => cases fails
  | cutNumber => cases fails; rfl
  | broken other => cases fails; rfl
  | text text =>
      cases decodes : text.decode with
      | ok string =>
          rw [Node.inspect, decodes] at fails
          cases fails
      | error other =>
          rw [Node.inspect, decodes] at fails
          rw [ofNode, decodes]
          cases fails
          rfl
  | array items => simp only [ofNode, fails]; rfl
  | object members => simp only [ofNode, fails]; rfl
  | number literal =>
      by_cases overflows : literal.Overflows
      · have unread := literal.toFloat_of_overflows overflows
        rw [Node.inspect, unread] at fails
        cases fails
        rw [ofNode, ofLiteral, unread]
        split
        · rename_i n reads
          obtain ⟨whole, size⟩ := Literal.of_toInt?_eq_some reads
          rw [if_neg]
          · rfl
          · rintro ⟨least, most⟩
            rw [Int64.toInt_minValue] at least
            rw [Int64.toInt_maxValue] at most
            exact Literal.not_overflows_of_small (plain whole) (by omega) overflows
        · rfl
      · rw [Node.inspect, literal.toFloat_of_not_overflows overflows] at fails
        cases fails

/-- A scalar in which nothing is wrong is a value. -/
theorem ofNode_of_fits {depth : Nat} {node : Node} (fits : node.Fits depth)
    (scalar : node.isCompound = false) : ∃ value, ofNode depth node = .ok value := by
  cases node with
  | null => exact ⟨_, rfl⟩
  | bool b => exact ⟨_, rfl⟩
  | cutNumber => exact fits.1.elim
  | broken fault => exact fits.1.elim
  | array items => cases scalar
  | object members => cases scalar
  | text text =>
      obtain ⟨string, spells⟩ := fits.1
      exact ⟨.string string, by rw [ofNode, Text.decode_of_spells spells]; rfl⟩
  | number literal =>
      rw [ofNode, ofLiteral, literal.toFloat_of_not_overflows fits.1]
      repeat' split
      all_goals exact ⟨_, rfl⟩

/-- An array or an object in which nothing is wrong is refused for its kind. -/
theorem ofNode_of_compound {depth : Nat} {node : Node} (fits : node.Fits depth)
    (compound : node.isCompound = true) : ofNode depth node = .error .mistyped := by
  have passes := fits.inspect
  cases node with
  | array items => simp only [ofNode, passes]; rfl
  | object members => simp only [ofNode, passes]; rfl
  | null | bool | number | cutNumber | text | broken => cases compound

end Value

/-! ## Texts -/

/-- Something behind a complete value only adds that there is more. -/
theorem Json.run_trailing (node : Node) {b : UInt8} (notBlank : isBlank b = false)
    (more : List UInt8) : State.run ⟨[], .complete node⟩ (b :: more) = ⟨node, true⟩ := by
  have trails : State.step ⟨[], .complete node⟩ b = ⟨[], .trailing node⟩ := by
    cases mark : Mark.ofByte b with
    | blank => exact absurd mark (marks_of_lacks notBlank)
    | comma | colon | openArray | closeArray | openObject | closeObject | quote | other =>
        simp only [State.step, State.after, mark]
  show (more.foldl State.step (State.step ⟨[], .complete node⟩ b)).finish = _
  rw [trails, State.follow_of_trailing rfl]
  rfl

/-- A text that begins with a value in which nothing is wrong has the outline of that value, and beside it whether
anything but blanks follows. -/
theorem Json.Node.Stands.scan {bytes start behind rest : List UInt8} {node : Node} {depth : Nat}
    (blanks : Blanks bytes start) (stands : Node.Stands depth start node behind)
    (follow : Blanks behind rest) : scan bytes = State.run ⟨[], .complete node⟩ rest :=
  calc Json.scan bytes = State.run ⟨[], .value⟩ bytes := rfl
    _ = State.run ⟨[], .value⟩ start := blanks.run rfl
    _ = State.run ⟨[], .complete node⟩ behind := stands.run []
    _ = State.run ⟨[], .complete node⟩ rest := follow.run rfl

namespace Value

/-- Where a text breaks off, its fault is that of the place. -/
theorem read_of_breaks {bytes start : List UInt8} {fault : Fault} (blanks : Blanks bytes start)
    (breaks : Node.Breaks depthLimit start fault) :
    readDocument (ofNode depthLimit) bytes = .error fault := by
  obtain ⟨broken, fails, plain, shows⟩ := breaks.run []
  have refused := ofNode_of_inspect plain fails
  have outline : (scan bytes).Shows fault broken := by
    rw [show scan bytes = State.run ⟨[], .value⟩ bytes from rfl, blanks.run rfl]
    exact shows
  have reads : ofNode depthLimit (scan bytes).node = .error fault := by
    rcases ofNode_steady depthLimit outline.grows with ended | same
    · rw [refused] at ended
      rw [outline.ends (Except.error.inj ended), refused]
    · rw [same, refused]
  simp only [readDocument, reads]
  rfl

/-- A classified text is read as what it was classified as. -/
theorem Classified.read {bytes : List UInt8} {result : Except Fault Value}
    (classified : Classified bytes result) : readDocument (ofNode depthLimit) bytes = result := by
  have number : ∀ (written : WrittenNumber) {behind : List UInt8},
      Blanks bytes (written.bytes ++ behind) → Blanks behind [] →
        readDocument (ofNode depthLimit) bytes = ofLiteral written.literal := fun written _ blanks ends =>
    (Node.WrittenAlone.alone blanks (.number written _) ends).readDocument_eq _
  cases classified with
  | null alone => exact alone.readDocument_eq _
  | bool b alone => exact alone.readDocument_eq _
  | integer written n blanks ends writes => rw [number written blanks ends, ofLiteral_integer writes]
  | float written blanks ends other near finite =>
      rw [number written blanks ends, ofLiteral_float other, toFloat_of_nearest near finite]
      rfl
  | string string alone spells =>
      rw [alone.readDocument_eq, ofNode, Text.decode_of_spells spells]
      rfl
  | @compound start rest node blanks stands compound =>
      obtain ⟨behind, follow, unblanked, _⟩ := exists_unblanked rest
      have outline : (scan bytes).node = node := by
        rw [stands.scan blanks follow]
        cases behind with
        | nil => rfl
        | cons b more => rw [run_trailing node (unblanked b more rfl)]
      simp only [readDocument, outline, ofNode_of_compound stands.fits compound]
      rfl
  | broken blanks breaks => exact read_of_breaks blanks breaks
  | @trailing start rest more node b blanks stands scalar follow notBlank =>
      obtain ⟨value, reads⟩ := ofNode_of_fits stands.fits scalar
      simp only [readDocument, stands.scan blanks follow, run_trailing node notBlank, reads]
      rfl

/-- A text that holds a scalar in which nothing is wrong is classified as that scalar. -/
theorem classified_of_scalar {bytes start behind : List UInt8} {node : Node}
    (blanks : Blanks bytes start) (stands : Node.Stands depthLimit start node behind)
    (scalar : node.isCompound = false) (ends : Blanks behind []) :
    ∃ result, Classified bytes result := by
  obtain ⟨written, ⟨sound, _⟩, _⟩ := stands
  have alone := Node.WrittenAlone.alone blanks written ends
  cases node with
  | null => exact ⟨_, .null alone⟩
  | bool b => exact ⟨_, .bool b alone⟩
  | text text =>
      obtain ⟨string, spells⟩ := sound
      exact ⟨_, .string string alone spells⟩
  | number literal =>
      cases written with
      | number written =>
          by_cases integer : ∃ n : Int64, written.Writes n.toInt
          · obtain ⟨n, writes⟩ := integer
            exact ⟨_, .integer written n blanks ends writes⟩
          · have near := written.literal.value.magnitude_nearest
            have finite := lt_of_le_of_ne near.bounded (mt written.literal.overflows_iff.mpr sound)
            exact ⟨_, .float written blanks ends (not_exists.mp integer) near finite⟩
  | cutNumber | broken => exact sound.elim
  | array | object => cases scalar

/-- Every text has a class. -/
theorem exists_classified (bytes : List UInt8) : ∃ result, Classified bytes result := by
  obtain ⟨start, blanks, ⟨node, behind, stands⟩ | ⟨fault, breaks⟩⟩ :=
    Node.stands_or_breaks bytes (by decide : 0 < depthLimit)
  · cases compound : node.isCompound with
    | true => exact ⟨_, .compound blanks stands compound⟩
    | false =>
        obtain ⟨rest, follow, unblanked, _⟩ := exists_unblanked behind
        cases rest with
        | nil => exact classified_of_scalar blanks stands compound follow
        | cons b more => exact ⟨_, .trailing blanks stands compound follow (unblanked b more rfl)⟩
  · exact ⟨_, .broken blanks breaks⟩

/-- Reading a text as an argument value comes to what the text is classified as, and to nothing else. -/
theorem read_iff_classified (bytes : List UInt8) (result : Except Fault Value) :
    readDocument (ofNode depthLimit) bytes = result ↔ Classified bytes result := by
  constructor
  · rintro rfl
    obtain ⟨result, classified⟩ := exists_classified bytes
    rw [classified.read]
    exact classified
  · exact Classified.read

/-- A zero keeps its minus sign. -/
example : readDocument (ofNode depthLimit) ("-0".toList.map ascii) = .ok (.float (signed true 0)) := rfl

/-- A number that no digit could mend is a problem before the end of the text is one. -/
example : readDocument (ofNode depthLimit) ("[1e400".toList.map ascii) = .error .malformed ∧
    readDocument (ofNode depthLimit) ("[1e4".toList.map ascii) = .error .ended := by decide +kernel

end Value

end SpriteStage
