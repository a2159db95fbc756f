/-
Module: SpriteStage.Epochs
Purpose: The scheduler and its run tokens. Runs are told apart by epochs: `start_run` and `stop_run` of
  the scheduler both begin a new one. A permit is the run token of one epoch and is current as long as
  that epoch lasts. The scheduler publishes its epoch on a watch channel; once it is dropped, the
  channel is closed and the epoch stays what it is.
  A sleeping token selects between its timer and a change on that channel, and finds out in a poll
  which of the two is ready. All changes since the poll before are found at once, and when the timer
  is ready too, either branch may be picked. Whether a change that falls on the deadline comes before
  or after the poll in which the sleeper wakes up is a matter of who began to wait first, and the
  sleeper usually did.
Main exports: Epochs, Permit, Permit.isCurrent, pollSleep, Permit.poll, Permit.sleepFrom,
  Permit.sleep, Permit.stale
-/
import SpriteStage.Duration

namespace SpriteStage

/-- The scheduler as its tokens see it: the epoch at hand, and whether the scheduler was dropped, which
closes the watch channel. -/
structure Epochs where
  current : Nat
  closed : Bool
deriving DecidableEq, Repr

namespace Epochs

/-- A new scheduler. -/
def fresh : Epochs := ⟨0, false⟩

/-- Begins a new epoch, as every start and every stop of a run does, unless the scheduler is gone. -/
def next (epochs : Epochs) : Epochs :=
  if epochs.closed then epochs else { epochs with current := epochs.current + 1 }

theorem closed_next (epochs : Epochs) : epochs.next.closed = epochs.closed := by
  unfold next
  split <;> rfl

theorem le_next (epochs : Epochs) : epochs.current ≤ epochs.next.current := by
  unfold next
  split
  · exact Nat.le_refl _
  · exact Nat.le_succ _

/-- Drops the scheduler. -/
def close (epochs : Epochs) : Epochs := { epochs with closed := true }

/-- What can happen to the scheduler: a bump of its epoch, or its drop. -/
inductive Change where
  | next
  | close
deriving DecidableEq, Repr

/-- The scheduler after a change. -/
def apply (epochs : Epochs) : Change → Epochs
  | .next => epochs.next
  | .close => epochs.close

/-- The scheduler after changes, one after another. -/
def after (epochs : Epochs) (changes : List Change) : Epochs := changes.foldl apply epochs

/-- The scheduler after changes that each have a time. -/
def applyAll (epochs : Epochs) (changes : List (Nat × Change)) : Epochs :=
  epochs.after (changes.map Prod.snd)

end Epochs

/-- A poll of a sleeping run token, which selects between its timer and the end of its run: `due` says
whether the timer is ready, and the end has come unless the epoch is still the token's (`current`) and the
scheduler is still there (`connected`). When both branches are ready either may be picked, and `timerFirst`
says whether it is the timer. Whoever was woken by the timer looks once more whether the epoch lasts.
Nothing is found while neither branch is ready. -/
def pollSleep (timerFirst due current connected : Bool) : Option Bool :=
  if due && (timerFirst || (current && connected)) then some current
  else if current && connected then none
  else some false

/-- The run token of one epoch. -/
structure Permit where
  epoch : Nat
deriving DecidableEq, Repr

namespace Permit

/-- Whether the token's epoch is the one at hand. -/
def isCurrent (permit : Permit) (epochs : Epochs) : Bool :=
  decide (epochs.current = permit.epoch)

/-- Whether a wait for the end of the token's run is over: the epoch has moved on or will never move
again. -/
def isInterrupted (permit : Permit) (epochs : Epochs) : Bool :=
  !permit.isCurrent epochs || epochs.closed

/-- A wait goes on as long as the token's epoch lasts and the scheduler is there. -/
theorem isInterrupted_eq (permit : Permit) (epochs : Epochs) :
    permit.isInterrupted epochs = !(permit.isCurrent epochs && !epochs.closed) := by
  simp [isInterrupted]

/-- An epoch that is over does not come back. -/
theorem isCurrent_next {permit : Permit} {epochs : Epochs}
    (behind : permit.epoch ≤ epochs.current) (stale : permit.isCurrent epochs = false) :
    permit.isCurrent epochs.next = false := by
  cases closed : epochs.closed with
  | true => simpa [Epochs.next, closed] using stale
  | false =>
      simp only [isCurrent, decide_eq_false_iff_not] at stale
      simp only [isCurrent, Epochs.next, closed, Bool.false_eq_true, if_false,
        decide_eq_false_iff_not]
      omega

/-- A poll of a sleep with this token. -/
def poll (permit : Permit) (timerFirst : Bool) (epochs : Epochs) (due : Bool) : Option Bool :=
  pollSleep timerFirst due (permit.isCurrent epochs) (!epochs.closed)

/-- With the watch channel looked at first, a sleep breaks off exactly when its wait is over. -/
@[simp] theorem poll_eq_some_false_iff (permit : Permit) (epochs : Epochs) (due : Bool) :
    permit.poll false epochs due = some false ↔ permit.isInterrupted epochs = true := by
  simp only [poll, pollSleep, isInterrupted]
  cases permit.isCurrent epochs <;> cases epochs.closed <;> cases due <;> decide

/-- The rest of a sleep, after its first poll, by a sleeper that began to wait before anybody else: it is
polled after each change before the deadline, and a change at the deadline comes behind the poll in which the
timer wakes it up. -/
def sleepUntil (permit : Permit) (deadline : Nat) :
    Epochs → List (Nat × Epochs.Change) → Bool × Nat
  | epochs, [] => (permit.isCurrent epochs, deadline)
  | epochs, (time, change) :: later =>
    if deadline ≤ time then (permit.isCurrent epochs, deadline)
    else
      let epochs := epochs.apply change
      match permit.poll false epochs false with
      | some answer => (answer, time)
      | none => sleepUntil permit deadline epochs later

/-- A sleep of some length that begins now: whether the run is still valid afterwards, and when the sleep
ended. A token that is stale does not sleep; else the first poll is at once. -/
def sleepFrom (permit : Permit) (now : Nat) (length : Duration) (epochs : Epochs)
    (changes : List (Nat × Epochs.Change)) : Bool × Nat :=
  let deadline := now + length.milliseconds
  if permit.isCurrent epochs then
    match permit.poll false epochs (decide (deadline ≤ now)) with
    | some answer => (answer, now)
    | none => permit.sleepUntil deadline epochs changes
  else (false, now)

/-- A sleep of some length from time zero. -/
def sleep (permit : Permit) (length : Duration) (epochs : Epochs)
    (changes : List (Nat × Epochs.Change)) : Bool × Nat :=
  permit.sleepFrom 0 length epochs changes

/-- A wait for the end of the token's run, given up at a limit: whether the run ended, and when the
wait did. -/
def staleBy (permit : Permit) (limit : Nat) :
    Nat → Epochs → List (Nat × Epochs.Change) → Bool × Nat
  | now, epochs, changes =>
    if permit.isInterrupted epochs then (true, now)
    else
      match changes with
      | [] => (false, limit)
      | (time, change) :: later =>
        if limit ≤ time then (false, limit)
        else staleBy permit limit time (epochs.apply change) later

/-- A wait for the end of the token's run, from time zero. -/
def stale (permit : Permit) (limit : Nat) (epochs : Epochs)
    (changes : List (Nat × Epochs.Change)) : Bool × Nat :=
  permit.staleBy limit 0 epochs changes

end Permit

end SpriteStage
