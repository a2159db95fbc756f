/-
Module: SpriteStage.Proofs.Json.Prefixes
Purpose: What numbers begin with. The bytes that a count takes in are just those that some written number begins
  with, since every count that may not end yet may end behind a zero. So the scanner leaves a number
  exactly where no longer number begins with what it has read.
Main exports: numberPrefix_of_run, NumberPrefix.run, WrittenNumber.run_outside, exists_longest
-/
import SpriteStage.Proofs.Json.Problems
import SpriteStage.Proofs.Json.Scanning

namespace SpriteStage.Json

/-! ## Counts -/

namespace Counting

theorem run_append {phase next : Phase} {n m : Counting} {front : List UInt8}
    (runs : n.run phase front = some (next, m)) (more : List UInt8) :
    n.run phase (front ++ more) = m.run next more := by
  induction front generalizing phase n with
  | nil =>
      cases runs
      rfl
  | cons b front further =>
      obtain ⟨middle, counted, steps, runs⟩ := run_cons runs
      rw [List.cons_append, run, steps]
      exact further runs

theorem run_front {phase : Phase} {n : Counting} {front more : List UInt8} {reached : Phase × Counting}
    (runs : n.run phase (front ++ more) = some reached) :
    ∃ next m, n.run phase front = some (next, m) := by
  induction front generalizing phase n with
  | nil => exact ⟨phase, n, rfl⟩
  | cons b front further =>
      obtain ⟨middle, counted, steps, runs⟩ := run_cons runs
      obtain ⟨next, m, runs⟩ := further runs
      refine ⟨next, m, ?_⟩
      rw [run, steps]
      exact runs

/-- Every count can be led to where a number may end: a zero is enough, if anything is needed. -/
theorem exists_end (phase : Phase) (n : Counting) :
    ∃ more last m, n.run phase more = some (last, m) ∧ last.canEnd = true := by
  cases phase with
  | leadingZero | whole | fraction | exponent => exact ⟨[], _, n, rfl, rfl⟩
  | sign => exact ⟨[ascii '0'], .leadingZero, n, rfl, rfl⟩
  | point => exact ⟨[ascii '0'], .fraction, n.place 0, rfl, rfl⟩
  | exponentMark | exponentSign => exact ⟨[ascii '0'], .exponent, n.exponentDigit 0, rfl, rfl⟩

/-- A number is over only where it may end, and not at a digit. -/
theorem of_step_over {phase : Phase} {n : Counting} {b : UInt8} (ends : n.step phase b = .over) :
    phase.canEnd = true ∧ isDigit b = false := by
  cases digit : decimalDigit? b with
  | none =>
      refine ⟨?_, by rw [isDigit, digit]; rfl⟩
      cases phase with
      | leadingZero | whole | fraction | exponent => rfl
      | sign | point | exponentSign => simp only [step, digit] at ends; cases ends
      | exponentMark =>
          simp only [step, digit] at ends
          repeat' split at ends
          all_goals cases ends
  | some d =>
      cases phase with
      | sign => cases d <;> simp only [step, digit] at ends <;> cases ends
      | leadingZero | whole | point | fraction => simp only [step, digit] at ends; cases ends
      | exponentMark | exponentSign | exponent => simp only [step, digit] at ends; cases ends

/-- A byte that is wrong stands where the number may not end, or is a digit. -/
theorem of_step_wrong {phase : Phase} {n : Counting} {b : UInt8} (wrong : n.step phase b = .wrong) :
    phase.canEnd = false ∨ isDigit b = true := by
  cases digit : decimalDigit? b with
  | some d => exact Or.inr (by rw [isDigit, digit]; rfl)
  | none =>
      left
      cases phase with
      | sign | point | exponentMark | exponentSign => rfl
      | leadingZero | whole | fraction | exponent =>
          simp only [step, digit] at wrong
          repeat' split at wrong
          all_goals cases wrong

section

variable {phase : Phase} {n : Counting} {b : UInt8}
  (stops : ∀ next m, n.step phase b ≠ .more next m)

include stops

/-- Where a number may end, it is over at a byte that neither goes on with it nor is a digit. -/
theorem step_eq_over (ends : phase.canEnd = true) (noDigit : isDigit b = false) :
    n.step phase b = .over := by
  rcases steps : n.step phase b with ⟨next, m⟩ | - | -
  · exact absurd steps (stops next m)
  · rfl
  · rcases of_step_wrong steps with unfinished | digit
    · rw [ends] at unfinished
      cases unfinished
    · rw [noDigit] at digit
      cases digit

/-- Elsewhere a byte that does not go on with a number is wrong. -/
theorem step_eq_wrong (unfit : phase.canEnd = false ∨ isDigit b = true) : n.step phase b = .wrong := by
  rcases steps : n.step phase b with ⟨next, m⟩ | - | -
  · exact absurd steps (stops next m)
  · obtain ⟨ends, noDigit⟩ := of_step_over steps
    rw [ends, noDigit] at unfit
    simp at unfit
  · rfl

end

end Counting

/-! ## Prefixes -/

/-- Bytes with a minus sign in front of them, or without one. -/
def signedBytes (negative : Bool) (bytes : List UInt8) : List UInt8 :=
  if negative then ascii '-' :: bytes else bytes

theorem signedBytes_append (negative : Bool) (front more : List UInt8) :
    signedBytes negative (front ++ more) = signedBytes negative front ++ more := by
  cases negative <;> rfl

theorem WrittenNumber.bytes_eq (written : WrittenNumber) :
    written.bytes = signedBytes written.negative written.unsignedBytes := rfl

theorem WrittenNumber.bytes_ne_nil (written : WrittenNumber) : written.bytes ≠ [] := by
  obtain ⟨b, more, first, _⟩ := written.unsigned_begins
  rw [bytes_eq, first]
  cases written.negative <;> exact List.cons_ne_nil _ _

theorem WrittenNumber.numberPrefix (written : WrittenNumber) : NumberPrefix written.bytes :=
  ⟨written.bytes_ne_nil, written, [], (List.append_nil _).symm⟩

section

variable {negative : Bool} {front : List UInt8} {phase : Phase} {n : Counting}
  (runs : (Counting.start negative).run .sign front = some (phase, n))

include runs

/-- What a count takes in, some number begins with. -/
theorem numberPrefix_of_run (some_byte : signedBytes negative front ≠ []) :
    NumberPrefix (signedBytes negative front) := by
  obtain ⟨more, last, m, further, ends⟩ := Counting.exists_end phase n
  rw [← Counting.run_append runs] at further
  obtain ⟨written, rfl, whole, _⟩ := Counting.written_of_run further ends
  exact ⟨some_byte, written, more, by rw [written.bytes_eq, whole, signedBytes_append]⟩

theorem not_more_of_not_numberPrefix {b : UInt8}
    (stops : ¬NumberPrefix (signedBytes negative front ++ [b])) (next : Phase) (m : Counting) :
    n.step phase b ≠ .more next m := by
  intro steps
  apply stops
  rw [← signedBytes_append]
  refine @numberPrefix_of_run negative (front ++ [b]) next m ?_ ?_
  · rw [Counting.run_append runs, Counting.run, steps]
    rfl
  · cases negative <;> simp [signedBytes]

theorem run_signed (some_byte : signedBytes negative front ≠ []) (frames : List Frame)
    (rest : List UInt8) : State.run ⟨frames, .value⟩ (signedBytes negative front ++ rest) =
      State.run ⟨frames, .number phase n⟩ rest := by
  cases negative with
  | true => exact run_of_counting runs frames rest
  | false =>
      cases front with
      | nil => exact absurd rfl some_byte
      | cons b front =>
          obtain ⟨next, counted, begins, further⟩ := Counting.run_cons runs
          show State.run (State.openValue frames b) (front ++ rest) = _
          rw [openValue_of_begins begins]
          exact run_of_counting further frames rest

end

/-- What a number begins with, a count takes in. -/
theorem NumberPrefix.run {front : List UInt8} (begins : NumberPrefix front) :
    ∃ negative unsigned phase n, front = signedBytes negative unsigned ∧
      (Counting.start negative).run .sign unsigned = some (phase, n) := by
  obtain ⟨some_byte, written, more, whole⟩ := begins
  obtain ⟨last, _, counts⟩ := written.counts
  rw [written.bytes_eq] at whole
  cases negative : written.negative with
  | false =>
      rw [negative] at whole counts
      rw [show written.unsignedBytes = front ++ more from whole] at counts
      obtain ⟨phase, n, runs⟩ := Counting.run_front counts
      exact ⟨false, front, phase, n, rfl, runs⟩
  | true =>
      rw [negative] at whole counts
      cases front with
      | nil => exact absurd rfl some_byte
      | cons b front =>
          obtain ⟨rfl, same⟩ := List.cons.inj whole
          rw [show written.unsignedBytes = front ++ more from same] at counts
          obtain ⟨phase, n, runs⟩ := Counting.run_front counts
          exact ⟨true, front, phase, n, rfl, runs⟩

/-- A number begins with a minus sign or a digit. -/
theorem NumberPrefix.begins {front : List UInt8} (begins : NumberPrefix front) :
    ∃ b more, front = b :: more ∧ (b = ascii '-' ∨ isDigit b = true) := by
  obtain ⟨some_byte, written, more, whole⟩ := begins
  cases front with
  | nil => exact absurd rfl some_byte
  | cons b front =>
      refine ⟨b, front, rfl, ?_⟩
      obtain ⟨first, others, unsigned, digit⟩ := written.unsigned_begins
      rw [written.bytes_eq, unsigned] at whole
      cases negative : written.negative with
      | true =>
          rw [negative] at whole
          exact Or.inl (List.cons.inj whole).1.symm
      | false =>
          rw [negative] at whole
          rw [← (List.cons.inj whole).1]
          exact Or.inr digit

/-- A number that is over is scanned, whatever follows it. -/
theorem WrittenNumber.run_outside (written : WrittenNumber) {rest : List UInt8}
    (outside : Outside written.bytes rest) (frames : List Frame) :
    State.run ⟨frames, .value⟩ (written.bytes ++ rest) =
      (State.behind frames (.number written.literal)).run rest := by
  obtain ⟨last, ends, counts⟩ := written.counts
  rw [written.bytes_eq] at outside ⊢
  rw [run_signed counts written.bytes_ne_nil, ← written.count_literal]
  cases rest with
  | nil =>
      show State.finish ⟨frames, .number last _⟩ = (State.behind frames _).finish
      rw [finish_behind]
      simp only [State.finish, ends, if_true]
  | cons b rest =>
      obtain ⟨noDigit, stops⟩ := outside b rest rfl
      have past := Counting.step_eq_over (not_more_of_not_numberPrefix counts stops) ends noDigit
      show State.run (State.step ⟨frames, .number last _⟩ b) rest =
        State.run ((State.behind frames _).step b) rest
      rw [step_behind]
      simp only [State.step, past]

/-- A digit begins a number, and so does a minus sign. -/
theorem numberPrefix_of_begins {b : UInt8} (begins : b = ascii '-' ∨ isDigit b = true) :
    NumberPrefix [b] := by
  rcases begins with rfl | digit
  · exact @numberPrefix_of_run true [] .sign (.start true) rfl (List.cons_ne_nil _ _)
  · obtain ⟨next, m, steps⟩ : ∃ next m, (Counting.start false).step .sign b = .more next m := by
      cases value : b.toNat - 48 with
      | zero => exact ⟨_, _, by simp only [Counting.step, decimalDigit?_of_isDigit digit, value]; rfl⟩
      | succ d => exact ⟨_, _, by simp only [Counting.step, decimalDigit?_of_isDigit digit, value]; rfl⟩
    have runs : (Counting.start false).run .sign [b] = some (next, m) := by
      rw [Counting.run, steps]
      rfl
    exact numberPrefix_of_run runs (List.cons_ne_nil _ _)

/-- A text that begins like a number begins with a longest such beginning. -/
theorem exists_longest {front : List UInt8} (begins : NumberPrefix front) (rest : List UInt8) :
    ∃ longest behind, front ++ rest = longest ++ behind ∧ NumberPrefix longest ∧
      ∀ b more, behind = b :: more → ¬NumberPrefix (longest ++ [b]) := by
  induction rest generalizing front with
  | nil => exact ⟨front, [], rfl, begins, nofun⟩
  | cons b rest further =>
      by_cases goes : NumberPrefix (front ++ [b])
      · obtain ⟨longest, behind, same, found⟩ := further goes
        exact ⟨longest, behind, by rw [← same, List.append_assoc]; rfl, found⟩
      · refine ⟨front, b :: rest, rfl, begins, ?_⟩
        rintro b more ⟨⟩
        exact goes

end SpriteStage.Json
