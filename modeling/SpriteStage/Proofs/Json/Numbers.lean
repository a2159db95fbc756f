/-
Module: SpriteStage.Proofs.Json.Numbers
Purpose: Counting is reading written numbers. The bytes that take the count from its start to a phase in
  which a number may end are those of a written number, and the count then stands at its literal.
Main exports: Counting.run, WrittenNumber.counts, Counting.written_of_run
-/
import SpriteStage.Proofs.Json.Grammar

namespace SpriteStage.Json

/-! ## Digits -/

theorem decimalDigit?_of_isDigit {b : UInt8} (digit : isDigit b = true) :
    decimalDigit? b = some (b.toNat - 48) := by
  unfold isDigit decimalDigit? at *
  split at digit
  · rename_i inside
    rw [if_pos inside]
  · cases digit

theorem isDigit_of_decimalDigit? {b : UInt8} {d : Nat} (digit : decimalDigit? b = some d) :
    isDigit b = true ∧ d = b.toNat - 48 := by
  have inside : isDigit b = true := by rw [isDigit, digit]; rfl
  rw [decimalDigit?_of_isDigit inside] at digit
  exact ⟨inside, (Option.some.inj digit).symm⟩

/-- A digit that is no zero has a value that is no zero. -/
theorem value_pos {b : UInt8} (digit : isDigit b = true) (notZero : b ≠ ascii '0') :
    ∃ d, b.toNat - 48 = d + 1 := by
  have inside : 48 ≤ b.toNat := by
    unfold isDigit decimalDigit? at digit
    split at digit
    · rename_i inside
      exact inside.1
    · cases digit
  have other : b.toNat ≠ 48 := fun same => notZero (UInt8.toNat_inj.mp same)
  exact ⟨b.toNat - 49, by omega⟩

theorem digitsValue_cons (before : Nat) (b : UInt8) (digits : List UInt8) :
    digitsValue before (b :: digits) = digitsValue (10 * before + (b.toNat - 48)) digits :=
  List.foldl_cons

namespace Counting

/-- Where the bytes of a number take the count, if all of them belong to it. -/
def run (phase : Phase) (n : Counting) : List UInt8 → Option (Phase × Counting)
  | [] => some (phase, n)
  | b :: bytes =>
    match n.step phase b with
    | .more next counted => counted.run next bytes
    | .over | .wrong => none

/-- If all bytes belong to a number, so does the first. -/
theorem run_cons {phase : Phase} {n : Counting} {b : UInt8} {bytes : List UInt8}
    {reached : Phase × Counting} (runs : n.run phase (b :: bytes) = some reached) :
    ∃ next counted, n.step phase b = .more next counted ∧ counted.run next bytes = some reached := by
  rw [run] at runs
  split at runs
  · rename_i next counted steps
    exact ⟨next, counted, steps, runs⟩
  · cases runs
  · cases runs

/-- The count behind more digits of the whole part. -/
def counted (n : Counting) (digits : List UInt8) : Counting :=
  { n with coefficient := digitsValue n.coefficient digits }

/-- The count behind more digits of the fraction. -/
def placed (n : Counting) (digits : List UInt8) : Counting :=
  { n with
    coefficient := digitsValue n.coefficient digits
    places := n.places + digits.length }

/-- The count behind a fraction, if there is one. -/
def pointed (n : Counting) (digits : List UInt8) : Counting :=
  if digits = [] then n else { n.placed digits with whole := false }

/-- The count behind an exponent, if there is one. -/
def scaled (n : Counting) : Option WrittenExponent → Counting
  | none => n
  | some written =>
    { n with
      whole := false
      exponentNegative := decide (written.sign = [ascii '-'])
      exponent := digitsValue 0 written.digits }

theorem unwhole {n : Counting} (already : n.whole = false) : { n with whole := false } = n := by
  cases n
  cases already
  rfl

/-- What stands before a point or an exponent: the digits of a whole part, or the digits of a fraction. -/
def MayScale (phase : Phase) (n : Counting) : Prop :=
  phase = .leadingZero ∨ phase = .whole ∨ phase = .fraction ∧ n.whole = false

theorem MayScale.canEnd {phase : Phase} {n : Counting} (may : MayScale phase n) :
    phase.canEnd = true := by
  rcases may with rfl | rfl | ⟨rfl, _⟩ <;> rfl

theorem MayScale.step_mark {phase : Phase} {n : Counting} (may : MayScale phase n) {mark : UInt8}
    (marks : mark = ascii 'e' ∨ mark = ascii 'E') :
    n.step phase mark = .more .exponentMark { n with whole := false } := by
  rcases may with rfl | rfl | ⟨rfl, whole⟩
  · rcases marks with rfl | rfl <;> rfl
  · rcases marks with rfl | rfl <;> rfl
  · rw [unwhole whole]
    rcases marks with rfl | rfl <;> rfl

/-! ## From the grammar to the count -/

theorem run_whole (n : Counting) {digits : List UInt8} (all : ∀ b ∈ digits, isDigit b = true)
    (rest : List UInt8) : n.run .whole (digits ++ rest) = (n.counted digits).run .whole rest := by
  induction digits generalizing n with
  | nil => rfl
  | cons b digits more =>
      obtain ⟨digit, others⟩ := List.forall_mem_cons.mp all
      simp only [List.cons_append, run, step, decimalDigit?_of_isDigit digit]
      exact more (n.digit (b.toNat - 48)) others

theorem run_fraction (n : Counting) {digits : List UInt8} (all : ∀ b ∈ digits, isDigit b = true)
    (rest : List UInt8) : n.run .fraction (digits ++ rest) = (n.placed digits).run .fraction rest := by
  induction digits generalizing n with
  | nil => rfl
  | cons b digits more =>
      obtain ⟨digit, others⟩ := List.forall_mem_cons.mp all
      simp only [List.cons_append, run, step, decimalDigit?_of_isDigit digit]
      rw [more (n.place (b.toNat - 48)) others]
      simp only [placed, place, Counting.digit, digitsValue_cons, List.length_cons, Nat.add_assoc,
        Nat.add_comm 1]

theorem run_exponent (n : Counting) {digits : List UInt8} (all : ∀ b ∈ digits, isDigit b = true) :
    n.run .exponent digits =
      some (.exponent, { n with exponent := digitsValue n.exponent digits }) := by
  induction digits generalizing n with
  | nil => rfl
  | cons b digits more =>
      obtain ⟨digit, others⟩ := List.forall_mem_cons.mp all
      simp only [run, step, decimalDigit?_of_isDigit digit]
      exact more (n.exponentDigit (b.toNat - 48)) others

/-- The bytes of an exponent, where there may be one. -/
theorem MayScale.run_exponentBytes {phase : Phase} {n : Counting} (may : MayScale phase n)
    (plain : n.exponentNegative = false ∧ n.exponent = 0) (exponent : Option WrittenExponent) :
    ∃ last : Phase, last.canEnd = true ∧
      n.run phase (exponentBytes exponent) = some (last, n.scaled exponent) := by
  cases exponent with
  | none => exact ⟨phase, may.canEnd, rfl⟩
  | some written =>
      obtain ⟨mark, sign, digits, marks, signs, some_digit, all⟩ := written
      obtain ⟨first, digits, rfl⟩ := List.exists_cons_of_ne_nil some_digit
      obtain ⟨digit, others⟩ := List.forall_mem_cons.mp all
      have first_digit := decimalDigit?_of_isDigit digit
      obtain ⟨negative, zero⟩ := plain
      refine ⟨.exponent, rfl, ?_⟩
      rw [exponentBytes, Option.elim_some, WrittenExponent.bytes, run, may.step_mark marks]
      have plus : decimalDigit? (ascii '+') = none := rfl
      have minus : decimalDigit? (ascii '-') = none := rfl
      rcases signs with rfl | rfl | rfl
      · simp only [List.nil_append, run, step, first_digit, run_exponent _ others, scaled, exponentDigit,
          zero, negative, digitsValue_cons]
        rfl
      · simp only [List.singleton_append, run, step, plus, if_true, first_digit, run_exponent _ others,
          scaled, exponentDigit, zero, negative, digitsValue_cons]
        rfl
      · have other : ascii '-' ≠ ascii '+' := by decide
        simp only [List.singleton_append, run, step, minus, other, if_true, if_false, first_digit,
          run_exponent _ others, scaled, exponentDigit, zero, digitsValue_cons]
        rfl

/-- The bytes of a fraction, where there may be one, and of an exponent. -/
theorem run_fractionBytes {phase : Phase} (n : Counting) (may : phase = .leadingZero ∨ phase = .whole)
    (plain : n.exponentNegative = false ∧ n.exponent = 0) {fraction : List UInt8}
    (all : ∀ b ∈ fraction, isDigit b = true) (exponent : Option WrittenExponent) :
    ∃ last : Phase, last.canEnd = true ∧
      n.run phase (fractionBytes fraction ++ exponentBytes exponent) =
        some (last, (n.pointed fraction).scaled exponent) := by
  unfold fractionBytes pointed
  cases fraction with
  | nil =>
      have scales : MayScale phase n := may.imp_right Or.inl
      exact scales.run_exponentBytes plain exponent
  | cons first digits =>
      obtain ⟨digit, others⟩ := List.forall_mem_cons.mp all
      have point : n.step phase (ascii '.') = .more .point { n with whole := false } := by
        rcases may with rfl | rfl <;> rfl
      have behind : ({ n with whole := false } : Counting).run .point
          (first :: (digits ++ exponentBytes exponent)) =
            ({ n.placed (first :: digits) with whole := false } : Counting).run .fraction
              (exponentBytes exponent) := by
        simp only [run, step, decimalDigit?_of_isDigit digit, run_fraction _ others]
        simp only [placed, place, Counting.digit, digitsValue_cons, List.length_cons, Nat.add_assoc,
          Nat.add_comm 1]
      have scales : MayScale .fraction { n.placed (first :: digits) with whole := false } :=
        Or.inr (Or.inr ⟨rfl, rfl⟩)
      obtain ⟨last, ends, runs⟩ := scales.run_exponentBytes plain exponent
      refine ⟨last, ends, ?_⟩
      rw [if_neg (List.cons_ne_nil _ _), if_neg (List.cons_ne_nil _ _), List.cons_append, run, point]
      exact behind.trans runs

end Counting

namespace WrittenNumber

/-- The count behind a written number. -/
def count (written : WrittenNumber) : Counting :=
  (((Counting.start written.negative).counted written.whole).pointed written.fraction).scaled
    written.exponent

theorem count_literal (written : WrittenNumber) : written.count.literal = written.literal := by
  obtain ⟨negative, whole, fraction, exponent, _, _, _⟩ := written
  have digits : ((Counting.start negative).counted whole).pointed fraction =
      { Counting.start negative with
        coefficient := digitsValue (digitsValue 0 whole) fraction
        places := fraction.length
        whole := fraction.isEmpty } := by
    cases fraction with
    | nil => rfl
    | cons first rest =>
        simp [Counting.pointed, Counting.placed, Counting.counted, Counting.start]
  simp only [count, digits, literal, Counting.literal]
  cases exponent with
  | none => simp [Counting.scaled, Counting.start]
  | some written => simp [Counting.scaled, Counting.start, WrittenExponent.value]

/-- The bytes of a written number take the count from its start to its literal. -/
theorem counts (written : WrittenNumber) :
    ∃ last : Phase, last.canEnd = true ∧
      (Counting.start written.negative).run .sign written.unsignedBytes =
        some (last, written.count) := by
  obtain ⟨negative, whole, fraction, exponent, whole_digits, leading, fraction_digits⟩ := written
  have plain : ((Counting.start negative).counted whole).exponentNegative = false ∧
      ((Counting.start negative).counted whole).exponent = 0 := ⟨rfl, rfl⟩
  rcases leading with rfl | ⟨first, rest, rfl, notZero⟩
  · exact Counting.run_fractionBytes _ (Or.inl rfl) plain fraction_digits exponent
  · obtain ⟨digit, others⟩ := List.forall_mem_cons.mp whole_digits
    obtain ⟨last, ends, runs⟩ :=
      Counting.run_fractionBytes _ (Or.inr rfl) plain fraction_digits exponent
    refine ⟨last, ends, ?_⟩
    have begins : (Counting.start negative).step .sign first =
        .more .whole ((Counting.start negative).digit (first.toNat - 48)) := by
      obtain ⟨d, value⟩ := value_pos digit notZero
      simp only [Counting.step, decimalDigit?_of_isDigit digit, value]
    rw [unsignedBytes, List.cons_append, Counting.run, begins]
    exact (Counting.run_whole _ others _).trans runs

end WrittenNumber

/-! ## From the count to the grammar -/

namespace Counting

/-- All that can follow an exponent that has digits are more of them. -/
theorem digits_of_run {n m : Counting} {bytes : List UInt8} {last : Phase}
    (runs : n.run .exponent bytes = some (last, m)) :
    (∀ b ∈ bytes, isDigit b = true) ∧ m = { n with exponent := digitsValue n.exponent bytes } := by
  induction bytes generalizing n with
  | nil =>
      cases runs
      exact ⟨nofun, rfl⟩
  | cons b bytes more =>
      cases digit : decimalDigit? b with
      | none => simp [run, step, digit] at runs
      | some d =>
          obtain ⟨isDigit, rfl⟩ := isDigit_of_decimalDigit? digit
          simp only [run, step, digit] at runs
          obtain ⟨others, same⟩ := more runs
          exact ⟨List.forall_mem_cons.mpr ⟨isDigit, others⟩, same⟩

/-- Where a digit is due there is one. -/
theorem digit_of_run {phase last : Phase} {n m : Counting} {bytes : List UInt8}
    (due : phase = .point ∨ phase = .exponentSign)
    (runs : n.run phase bytes = some (last, m)) (ends : last.canEnd = true) :
    ∃ first rest, bytes = first :: rest ∧ isDigit first = true := by
  cases bytes with
  | nil =>
      cases runs
      rcases due with rfl | rfl <;> cases ends
  | cons first rest =>
      cases digit : decimalDigit? first with
      | none => rcases due with rfl | rfl <;> simp [run, step, digit] at runs
      | some d => exact ⟨first, rest, rfl, (isDigit_of_decimalDigit? digit).1⟩

/-- Behind the mark of an exponent there are perhaps a sign and then digits. -/
theorem exponent_of_run {n m : Counting} {mark : UInt8} {bytes : List UInt8} {last : Phase}
    (marks : mark = ascii 'e' ∨ mark = ascii 'E')
    (plain : n.exponentNegative = false ∧ n.exponent = 0) (whole : n.whole = false)
    (runs : n.run .exponentMark bytes = some (last, m)) (ends : last.canEnd = true) :
    ∃ written : WrittenExponent, written.bytes = mark :: bytes ∧ m = n.scaled (some written) := by
  obtain ⟨negative, zero⟩ := plain
  have unsigned : n = { n with exponentNegative := false } := by
    cases n
    cases negative
    rfl
  -- What digits behind a sign, or behind no sign, make of the count.
  have closes : ∀ (sign : List UInt8) (signed : Counting) (first : UInt8) (digits : List UInt8),
      sign = [] ∨ sign = [ascii '+'] ∨ sign = [ascii '-'] →
        signed = { n with exponentNegative := decide (sign = [ascii '-']) } →
          isDigit first = true →
            (signed.exponentDigit (first.toNat - 48)).run .exponent digits = some (last, m) →
              ∃ written : WrittenExponent, written.bytes = mark :: (sign ++ first :: digits) ∧
                m = n.scaled (some written) := by
    rintro sign signed first digits signs rfl digit runs
    obtain ⟨others, rfl⟩ := digits_of_run runs
    refine ⟨⟨mark, sign, first :: digits, marks, signs, List.cons_ne_nil _ _,
      List.forall_mem_cons.mpr ⟨digit, others⟩⟩, rfl, ?_⟩
    simp only [scaled, exponentDigit, digitsValue_cons, zero, whole]
  cases bytes with
  | nil =>
      cases runs
      cases ends
  | cons b bytes =>
      cases digit : decimalDigit? b with
      | some d =>
          obtain ⟨isDigit, rfl⟩ := isDigit_of_decimalDigit? digit
          simp only [run, step, digit] at runs
          exact closes [] n b bytes (Or.inl rfl) unsigned isDigit runs
      | none =>
          by_cases plus : b = ascii '+'
          · have signs : n.step .exponentMark (ascii '+') = .more .exponentSign n := rfl
            rw [plus, run, signs] at runs
            obtain ⟨first, rest, rfl, isDigit⟩ := digit_of_run (Or.inr rfl) runs ends
            simp only [run, step, decimalDigit?_of_isDigit isDigit] at runs
            rw [plus]
            exact closes [ascii '+'] n first rest (Or.inr (Or.inl rfl)) unsigned isDigit runs
          · by_cases minus : b = ascii '-'
            · have signs : n.step .exponentMark (ascii '-') =
                  .more .exponentSign { n with exponentNegative := true } := rfl
              rw [minus, run, signs] at runs
              obtain ⟨first, rest, rfl, isDigit⟩ := digit_of_run (Or.inr rfl) runs ends
              simp only [run, step, decimalDigit?_of_isDigit isDigit] at runs
              rw [minus]
              exact closes [ascii '-'] { n with exponentNegative := true } first rest
                (Or.inr (Or.inr rfl)) rfl isDigit runs
            · simp [run, step, digit, plus, minus] at runs

/-- Where an exponent may stand, nothing else but one more digit or a point can. -/
theorem MayScale.exponent_of_run {phase last : Phase} {n m : Counting} (may : MayScale phase n)
    (plain : n.exponentNegative = false ∧ n.exponent = 0) {bytes : List UInt8}
    (stops : ∀ b rest, bytes = b :: rest →
      decimalDigit? b = none ∧ (phase = .fraction ∨ b ≠ ascii '.'))
    (runs : n.run phase bytes = some (last, m)) (ends : last.canEnd = true) :
    ∃ exponent, exponentBytes exponent = bytes ∧ m = n.scaled exponent := by
  cases bytes with
  | nil =>
      cases runs
      exact ⟨none, rfl, rfl⟩
  | cons b bytes =>
      obtain ⟨noDigit, noPoint⟩ := stops b bytes rfl
      by_cases marks : b = ascii 'e' ∨ b = ascii 'E'
      · rw [run, may.step_mark marks] at runs
        obtain ⟨written, same, rfl⟩ :=
          @Counting.exponent_of_run { n with whole := false } _ _ _ _ marks plain rfl runs ends
        exact ⟨some written, same, rfl⟩
      · have outside : n.step phase b = .over := by
          rcases may with rfl | rfl | ⟨rfl, _⟩
          · simp [step, noDigit, marks, noPoint.resolve_left]
          · simp [step, noDigit, marks, noPoint.resolve_left]
          · simp [step, noDigit, marks]
        simp [run, outside] at runs

/-- Behind a point and some digits there are more digits and perhaps an exponent. -/
theorem fraction_of_run {n m : Counting} {bytes : List UInt8} {last : Phase}
    (plain : n.exponentNegative = false ∧ n.exponent = 0) (whole : n.whole = false)
    (runs : n.run .fraction bytes = some (last, m)) (ends : last.canEnd = true) :
    ∃ digits exponent, (∀ b ∈ digits, isDigit b = true) ∧ bytes = digits ++ exponentBytes exponent ∧
      m = (n.placed digits).scaled exponent := by
  have scales : MayScale .fraction n := Or.inr (Or.inr ⟨rfl, whole⟩)
  induction bytes generalizing n with
  | nil =>
      cases runs
      exact ⟨[], none, nofun, rfl, rfl⟩
  | cons b bytes more =>
      cases digit : decimalDigit? b with
      | some d =>
          obtain ⟨isDigit, rfl⟩ := isDigit_of_decimalDigit? digit
          simp only [run, step, digit] at runs
          obtain ⟨digits, exponent, all, rfl, rfl⟩ :=
            @more (n.place (b.toNat - 48)) plain whole runs (Or.inr (Or.inr ⟨rfl, whole⟩))
          refine ⟨b :: digits, exponent, List.forall_mem_cons.mpr ⟨isDigit, all⟩, rfl, ?_⟩
          simp only [placed, place, Counting.digit, digitsValue_cons, List.length_cons, Nat.add_assoc,
            Nat.add_comm 1]
      | none =>
          have stops : ∀ first rest, b :: bytes = first :: rest →
              decimalDigit? first = none ∧ (Phase.fraction = .fraction ∨ first ≠ ascii '.') := by
            rintro first rest ⟨⟩
            exact ⟨digit, Or.inl rfl⟩
          obtain ⟨exponent, same, scaled⟩ := scales.exponent_of_run plain stops runs ends
          exact ⟨[], exponent, nofun, same.symm, scaled⟩

/-- Behind the whole part there are perhaps a fraction and perhaps an exponent. -/
theorem tail_of_run {phase last : Phase} {n m : Counting} (may : phase = .leadingZero ∨ phase = .whole)
    (plain : n.exponentNegative = false ∧ n.exponent = 0) {bytes : List UInt8}
    (stops : ∀ b rest, bytes = b :: rest → decimalDigit? b = none)
    (runs : n.run phase bytes = some (last, m)) (ends : last.canEnd = true) :
    ∃ fraction exponent, (∀ b ∈ fraction, isDigit b = true) ∧
      bytes = fractionBytes fraction ++ exponentBytes exponent ∧
      m = (n.pointed fraction).scaled exponent := by
  by_cases point : ∃ rest, bytes = ascii '.' :: rest
  · obtain ⟨rest, rfl⟩ := point
    have steps : n.step phase (ascii '.') = .more .point { n with whole := false } := by
      rcases may with rfl | rfl <;> rfl
    rw [run, steps] at runs
    obtain ⟨first, rest, rfl, isDigit⟩ := digit_of_run (Or.inl rfl) runs ends
    simp only [run, step, decimalDigit?_of_isDigit isDigit] at runs
    obtain ⟨digits, exponent, all, rfl, rfl⟩ :=
      @fraction_of_run (Counting.place { n with whole := false } (first.toNat - 48)) _ _ _ plain rfl
        runs ends
    refine ⟨first :: digits, exponent, List.forall_mem_cons.mpr ⟨isDigit, all⟩, rfl, ?_⟩
    simp only [pointed, reduceCtorEq, if_false, placed, place, Counting.digit, digitsValue_cons, List.length_cons,
      Nat.add_assoc, Nat.add_comm 1]
  · have scales : MayScale phase n := may.imp_right Or.inl
    have apart : ∀ b rest, bytes = b :: rest →
        decimalDigit? b = none ∧ (phase = .fraction ∨ b ≠ ascii '.') := by
      rintro b rest rfl
      exact ⟨stops b rest rfl, Or.inr fun same => point ⟨rest, by rw [same]⟩⟩
    obtain ⟨exponent, same, scaled⟩ := scales.exponent_of_run plain apart runs ends
    exact ⟨[], exponent, nofun, same.symm, scaled⟩

/-- Behind the first digit of a whole part there are more digits, and then what may follow them. -/
theorem whole_of_run {n m : Counting} {bytes : List UInt8} {last : Phase}
    (plain : n.exponentNegative = false ∧ n.exponent = 0)
    (runs : n.run .whole bytes = some (last, m)) (ends : last.canEnd = true) :
    ∃ digits fraction exponent, (∀ b ∈ digits, isDigit b = true) ∧
      (∀ b ∈ fraction, isDigit b = true) ∧
      bytes = digits ++ (fractionBytes fraction ++ exponentBytes exponent) ∧
      m = ((n.counted digits).pointed fraction).scaled exponent := by
  induction bytes generalizing n with
  | nil =>
      cases runs
      exact ⟨[], [], none, nofun, nofun, rfl, rfl⟩
  | cons b bytes more =>
      cases digit : decimalDigit? b with
      | some d =>
          obtain ⟨isDigit, rfl⟩ := isDigit_of_decimalDigit? digit
          simp only [run, step, digit] at runs
          obtain ⟨digits, fraction, exponent, all, fractions, rfl, rfl⟩ :=
            @more (n.digit (b.toNat - 48)) plain runs
          exact ⟨b :: digits, fraction, exponent, List.forall_mem_cons.mpr ⟨isDigit, all⟩, fractions, rfl, rfl⟩
      | none =>
          have stops : ∀ first rest, b :: bytes = first :: rest → decimalDigit? first = none := by
            rintro first rest ⟨⟩
            exact digit
          obtain ⟨fraction, exponent, all, same, counts⟩ := tail_of_run (Or.inr rfl) plain stops runs ends
          exact ⟨[], fraction, exponent, nofun, all, same, counts⟩

/-- The bytes that take the count from its start to where a number may end are those of a written number. -/
theorem written_of_run {negative : Bool} {bytes : List UInt8} {last : Phase} {m : Counting}
    (runs : (start negative).run .sign bytes = some (last, m)) (ends : last.canEnd = true) :
    ∃ written : WrittenNumber, written.negative = negative ∧ written.unsignedBytes = bytes ∧
      m.literal = written.literal := by
  cases bytes with
  | nil =>
      cases runs
      cases ends
  | cons b bytes =>
      cases digit : decimalDigit? b with
      | none => simp [run, step, digit] at runs
      | some d =>
          obtain ⟨isDigit, rfl⟩ := isDigit_of_decimalDigit? digit
          by_cases zero : b = ascii '0'
          · have begins : (start negative).step .sign b = .more .leadingZero (start negative) := by
              rw [zero]
              rfl
            rw [run, begins] at runs
            have stops : ∀ first rest, bytes = first :: rest → decimalDigit? first = none := by
              rintro first rest rfl
              cases further : decimalDigit? first with
              | none => rfl
              | some d => simp [run, step, further] at runs
            obtain ⟨fraction, exponent, all, rfl, rfl⟩ :=
              @tail_of_run _ _ (start negative) _ (Or.inl rfl) ⟨rfl, rfl⟩ _ stops runs ends
            refine ⟨⟨negative, [b], fraction, exponent, List.forall_mem_cons.mpr ⟨isDigit, nofun⟩,
              Or.inl (by rw [zero]), all⟩, rfl, rfl, ?_⟩
            rw [← WrittenNumber.count_literal]
            simp only [WrittenNumber.count, zero]
            rfl
          · obtain ⟨d, value⟩ := value_pos isDigit zero
            simp only [run, step, digit, value] at runs
            rw [← value] at runs
            obtain ⟨digits, fraction, exponent, all, fractions, rfl, rfl⟩ :=
              @whole_of_run ((start negative).digit (b.toNat - 48)) _ _ _ ⟨rfl, rfl⟩ runs ends
            refine ⟨⟨negative, b :: digits, fraction, exponent, List.forall_mem_cons.mpr ⟨isDigit, all⟩,
              Or.inr ⟨b, digits, rfl, zero⟩, fractions⟩, rfl, rfl, ?_⟩
            rw [← WrittenNumber.count_literal]
            rfl

end Counting

end SpriteStage.Json
