/-
Module: SpriteStage.Duration
Purpose: Lengths of time. A length of time is a whole number of nanoseconds up to a largest one.
  Lengths add up to at most the largest one, and waits last whole milliseconds, so a length is
  rounded up to those.
Main exports: Duration, Duration.ofSeconds, Duration.add, Duration.milliseconds
-/
import SpriteStage.Binary64.Nearest

namespace SpriteStage

/-- A length of time. -/
structure Duration where
  nanoseconds : Nat
deriving DecidableEq, Repr

namespace Duration

/-- No time at all. -/
def zero : Duration := ⟨0⟩

/-- The longest time: one nanosecond less than `2 ^ 64` seconds. -/
def longest : Duration := ⟨0x10000000000000000 * 1000000000 - 1⟩

/-- Both lengths together, a saturating sum. -/
def add (a b : Duration) : Duration :=
  ⟨min longest.nanoseconds (a.nanoseconds + b.nanoseconds)⟩

/-- A number of milliseconds. -/
def ofMilliseconds (n : Nat) : Duration := ⟨n * 1000000⟩

/-- The length in whole milliseconds, a begun one counted in full, as timers have it. -/
def milliseconds (d : Duration) : Nat := (d.nanoseconds + 999999) / 1000000

theorem milliseconds_ofMilliseconds (n : Nat) : (ofMilliseconds n).milliseconds = n := by
  simp only [ofMilliseconds, milliseconds]
  omega

theorem milliseconds_pos {d : Duration} (positive : 0 < d.nanoseconds) : 0 < d.milliseconds := by
  unfold milliseconds
  omega

theorem milliseconds_eq_zero_iff {d : Duration} : d.milliseconds = 0 ↔ d.nanoseconds = 0 := by
  unfold milliseconds
  omega

/-- A number of seconds, rounded to the nearest nanosecond, a half to the even one. Negative and
undefined numbers count as no time, too large ones as the longest time. -/
def ofSeconds (seconds : Float) : Duration :=
  let b := Binary64.magnitude seconds
  if Binary64.isUndefined seconds || Binary64.isNegative seconds then zero
  else
    let units := Binary64.units b
    if 0x10000000000000000 * Binary64.unitsPerOne ≤ units then longest
    else ⟨Binary64.roundDiv (units * 1000000000) Binary64.unitsPerOne⟩

end Duration

end SpriteStage
