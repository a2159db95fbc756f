/-
Module: SpriteStage.Proofs.Epochs.Permits
Purpose: How long run tokens last and how their sleeps end. The epoch of a scheduler never goes
  back, so a token that has gone stale stays so. A sleep runs beside the changes of the scheduler,
  each of which has a time: `Sleep.Step` is what can happen in its course, with the order of a
  change and a poll at one time and the branch that a poll picks left open. However that goes, a
  sleep ends at once with a stale token, with the first change if that comes before the deadline,
  and else at the deadline.
Main exports: Epochs.after_append, Epochs.Seen, Permit.Sleep, Permit.Sleep.Step, Permit.Sleeps,
  Permit.Sleep.Sound, Permit.Sleeps.sleepFrom, Permit.stale_eq, Permit.lapses_and_sleeps
-/
import Mathlib.Logic.Relation
import SpriteStage.Epochs

namespace SpriteStage

namespace Epochs

/-! ## The count only grows -/

theorem after_append (epochs : Epochs) (first second : List Change) :
    epochs.after (first ++ second) = (epochs.after first).after second :=
  List.foldl_append

theorem le_apply (epochs : Epochs) (change : Change) :
    epochs.current ≤ (epochs.apply change).current := by
  cases change with
  | next => exact epochs.le_next
  | close => exact Nat.le_refl _

theorem le_after (epochs : Epochs) (changes : List Change) :
    epochs.current ≤ (epochs.after changes).current := by
  induction changes generalizing epochs with
  | nil => exact Nat.le_refl _
  | cons change changes more => exact Nat.le_trans (epochs.le_apply change) (more _)

/-- A scheduler that is gone does not come back. -/
theorem closed_apply {epochs : Epochs} (change : Change) (closed : epochs.closed = true) :
    (epochs.apply change).closed = true := by
  cases change with
  | next => exact epochs.closed_next.trans closed
  | close => rfl

/-- An epoch that the count of a history has been at, after some of its changes. -/
def Seen (history : List Change) (epoch : Nat) : Prop :=
  ∃ past, past <+: history ∧ (fresh.after past).current = epoch

theorem Seen.le {history : List Change} {epoch : Nat} (seen : Seen history epoch) :
    epoch ≤ (fresh.after history).current := by
  obtain ⟨past, ⟨rest, rfl⟩, rfl⟩ := seen
  rw [after_append]
  exact le_after _ rest

end Epochs

namespace Permit

open Epochs (Change fresh Seen)

variable {permit : Permit} {epochs : Epochs}

/-! ## Permits that have lapsed -/

theorem isCurrent_apply (behind : permit.epoch ≤ epochs.current)
    (stale : permit.isCurrent epochs = false) (change : Change) :
    permit.isCurrent (epochs.apply change) = false := by
  cases change with
  | next => exact isCurrent_next behind stale
  | close => exact stale

theorem isCurrent_after (behind : permit.epoch ≤ epochs.current)
    (stale : permit.isCurrent epochs = false) (changes : List Change) :
    permit.isCurrent (epochs.after changes) = false := by
  induction changes generalizing epochs with
  | nil => exact stale
  | cons change changes more =>
      exact more (Nat.le_trans behind (epochs.le_apply change)) (isCurrent_apply behind stale change)

theorem isInterrupted_after (behind : permit.epoch ≤ epochs.current)
    (interrupted : permit.isInterrupted epochs = true) (changes : List Change) :
    permit.isInterrupted (epochs.after changes) = true := by
  induction changes generalizing epochs with
  | nil => exact interrupted
  | cons change changes more =>
      refine more (Nat.le_trans behind (epochs.le_apply change)) ?_
      cases change with
      | close => simp [isInterrupted, Epochs.apply, Epochs.close]
      | next =>
          rw [isInterrupted, Bool.or_eq_true, Bool.not_eq_true'] at interrupted ⊢
          rcases interrupted with stale | closed
          · exact Or.inl (isCurrent_next behind stale)
          · exact Or.inr ((Epochs.closed_next epochs).trans closed)

/-- A permit is current for no longer than the epoch at hand. -/
theorem epoch_le_of_isCurrent (current : permit.isCurrent epochs = true) :
    permit.epoch ≤ epochs.current := by
  simp only [isCurrent, decide_eq_true_eq] at current
  exact Nat.le_of_eq current.symm

/-- The next epoch is another one. -/
theorem not_isCurrent_next (current : permit.isCurrent epochs = true) (lasting : epochs.closed = false) :
    permit.isCurrent epochs.next = false := by
  simp only [isCurrent, decide_eq_true_eq] at current
  simp only [isCurrent, Epochs.next, lasting, Bool.false_eq_true, if_false, decide_eq_false_iff_not]
  omega

/-- Whatever happens to the count first, it interrupts the wait. -/
theorem isInterrupted_of_changes (current : permit.isCurrent epochs = true) {changes : List Change}
    (some_change : changes ≠ []) : permit.isInterrupted (epochs.after changes) = true := by
  obtain ⟨change, rest, rfl⟩ := List.exists_cons_of_ne_nil some_change
  have behind := epoch_le_of_isCurrent current
  refine isInterrupted_after (Nat.le_trans behind (epochs.le_apply change)) ?_ rest
  cases change with
  | close => simp [isInterrupted, Epochs.apply, Epochs.close]
  | next =>
      rw [isInterrupted, Bool.or_eq_true, Bool.not_eq_true']
      cases closed : epochs.closed with
      | false => exact Or.inl (not_isCurrent_next current closed)
      | true => exact Or.inr ((Epochs.closed_next epochs).trans closed)

/-- If it is not that the count is closed, it is that the epoch is over. -/
theorem not_isCurrent_of_changes (current : permit.isCurrent epochs = true)
    (lasting : epochs.closed = false) {changes : List Change} (some_change : changes ≠ [])
    (no_close : .close ∉ changes) : permit.isCurrent (epochs.after changes) = false := by
  obtain ⟨change, rest, rfl⟩ := List.exists_cons_of_ne_nil some_change
  cases change with
  | close => exact absurd List.mem_cons_self no_close
  | next =>
      have behind := epoch_le_of_isCurrent current
      exact isCurrent_after (Nat.le_trans behind epochs.le_next) (not_isCurrent_next current lasting) rest

/-! ## Polls -/

section Polls

variable (timerFirst : Bool)

/-- Before the deadline a sleeper that nothing interrupts finds nothing. -/
theorem poll_early : permit.poll timerFirst epochs false =
    if permit.isInterrupted epochs then some false else none := by
  rw [isInterrupted_eq, poll, pollSleep]
  cases permit.isCurrent epochs && !epochs.closed <;> rfl

/-- A sleeper whose token is stale finds that out, whichever branch is picked. -/
theorem poll_lapsed (stale : permit.isCurrent epochs = false) (due : Bool) :
    permit.poll timerFirst epochs due = some false := by
  cases due <;> cases timerFirst <;> simp [poll, pollSleep, stale]

/-- A sleeper that nothing has interrupted by its deadline has slept through. -/
theorem poll_through (current : permit.isCurrent epochs = true) (lasting : epochs.closed = false) :
    permit.poll timerFirst epochs true = some true := by
  simp [poll, pollSleep, current, lasting]

/-- At the deadline a poll finds something. -/
theorem poll_due_ne_none : permit.poll timerFirst epochs true ≠ none := by
  unfold poll pollSleep
  split
  · exact nofun
  · split
    · simp_all
    · exact nofun

/-- So does the poll of a sleeper that something has interrupted. -/
theorem poll_interrupted_ne_none (interrupted : permit.isInterrupted epochs = true) (due : Bool) :
    permit.poll timerFirst epochs due ≠ none := by
  cases due with
  | true => exact poll_due_ne_none timerFirst
  | false => simp [poll_early, interrupted]

end Polls

/-! ## The course of a sleep -/

/-- A sleep that goes on: the time, whether the sleeper has been woken, the scheduler, and the
changes of the scheduler that are still to come, each with its time. -/
structure Sleep where
  now : Nat
  woken : Bool
  epochs : Epochs
  ahead : List (Nat × Change)

/-- One thing that can happen in the course of a sleep. A change of the scheduler wakes the sleeper,
and so does the timer at the deadline. A sleeper that has been woken is polled, however much has
happened since it was woken, and goes on sleeping if it finds nothing. The clock moves only while
the sleeper has not been woken; it passes over no change. -/
inductive Sleep.Step (permit : Permit) (deadline : Nat) : Sleep → Sleep → Prop where
  | change {now : Nat} {woken : Bool} {epochs : Epochs} (change : Change) {ahead : List (Nat × Change)} :
      Step permit deadline ⟨now, woken, epochs, (now, change) :: ahead⟩
        ⟨now, true, epochs.apply change, ahead⟩
  | poll {now : Nat} {epochs : Epochs} {ahead : List (Nat × Change)} (timerFirst : Bool)
      (nothing : permit.poll timerFirst epochs (decide (deadline ≤ now)) = none) :
      Step permit deadline ⟨now, true, epochs, ahead⟩ ⟨now, false, epochs, ahead⟩
  | clock {now : Nat} {epochs : Epochs} {ahead : List (Nat × Change)} (time : Nat) (forward : now < time)
      (early : time ≤ deadline) (next : ∀ change ∈ ahead, time ≤ change.1) :
      Step permit deadline ⟨now, false, epochs, ahead⟩ ⟨time, decide (time = deadline), epochs, ahead⟩

/-- A sleep ends with a poll of the woken sleeper that finds an answer. -/
def Sleep.Ends (permit : Permit) (deadline : Nat) (sleep : Sleep) (slept : Bool) : Prop :=
  sleep.woken = true ∧
    ∃ timerFirst, permit.poll timerFirst sleep.epochs (decide (deadline ≤ sleep.now)) = some slept

/-- The ways in which a sleep of some length that begins now can go, with these changes of the
scheduler during the call: whether it was slept through and when it ended, and the changes that had
not happened by then. -/
inductive Sleeps (permit : Permit) (now : Nat) (length : Duration) (epochs : Epochs)
    (changes : List (Nat × Change)) : Bool × Nat → List (Nat × Change) → Prop where
  /-- A token that is stale at the call does not sleep. -/
  | stale (lapsed : permit.isCurrent epochs = false) :
      Sleeps permit now length epochs changes (false, now) changes
  /-- Any other is polled at once, and then whenever it is woken. -/
  | ended {sleep : Sleep} {slept : Bool} (current : permit.isCurrent epochs = true)
      (goes : Relation.ReflTransGen (Sleep.Step permit (now + length.milliseconds))
        ⟨now, true, epochs, changes⟩ sleep)
      (ends : sleep.Ends permit (now + length.milliseconds) slept) :
      Sleeps permit now length epochs changes (slept, sleep.now) sleep.ahead

/-! ## How sleeps end -/

namespace Sleep

variable {sleep later : Sleep} {now deadline : Nat} {changes : List (Nat × Change)}

/-- What is so in the course of a sleep that was begun with a current token: whatever has happened
has happened at the time at hand, and has woken the sleeper. -/
structure Sound (epochs : Epochs) (changes : List (Nat × Change)) (deadline : Nat) (sleep : Sleep) : Prop where
  within : sleep.now ≤ deadline
  sorted : sleep.ahead.Pairwise fun first second => first.1 ≤ second.1
  coming : ∀ change ∈ sleep.ahead, sleep.now ≤ change.1
  happened : ∃ past, changes = past ++ sleep.ahead ∧ sleep.epochs = epochs.applyAll past ∧
    ∀ change ∈ past, change.1 = sleep.now ∧ sleep.woken = true
  asleep : sleep.woken = false → sleep.now < deadline

/-- What the sleeper finds once something has happened. -/
theorem isInterrupted_of_past (current : permit.isCurrent epochs = true) {past : List (Nat × Change)}
    (some_change : past ≠ []) : permit.isInterrupted (epochs.applyAll past) = true :=
  isInterrupted_of_changes current (mt List.map_eq_nil_iff.mp some_change)

theorem Sound.begin (sorted : changes.Pairwise fun first second => first.1 ≤ second.1)
    (coming : ∀ change ∈ changes, now ≤ change.1) (length : Nat) :
    Sound epochs changes (now + length) ⟨now, true, epochs, changes⟩ :=
  ⟨Nat.le_add_right _ _, sorted, coming, ⟨[], rfl, rfl, by simp⟩, nofun⟩

/-- Every step keeps a sleep sound: before the clock moves on, a sleeper that something has woken is
polled, and then it does not go on sleeping. -/
theorem Sound.step (current : permit.isCurrent epochs = true) (sound : Sound epochs changes deadline sleep)
    (steps : Step permit deadline sleep later) : Sound epochs changes deadline later := by
  obtain ⟨within, sorted, coming, ⟨past, split, counts, woke⟩, asleep⟩ := sound
  cases steps with
  | @change now woken epochs' change ahead =>
      refine ⟨within, sorted.of_cons, fun other member => coming other (List.mem_cons_of_mem _ member),
        ⟨past ++ [(now, change)], by simpa using split, ?_, ?_⟩, nofun⟩
      · simp only at counts
        rw [counts, Epochs.applyAll, Epochs.applyAll, List.map_append, Epochs.after_append]
        rfl
      · intro other member
        rcases List.mem_append.mp member with before | this
        · exact ⟨(woke other before).1, rfl⟩
        · rw [List.mem_singleton.mp this]
          exact ⟨rfl, rfl⟩
  | @poll now epochs' ahead timerFirst nothing =>
      have quiet : past = [] := by
        refine Decidable.byContradiction fun some_change => ?_
        have interrupted := isInterrupted_of_past current some_change
        rw [← counts] at interrupted
        exact poll_interrupted_ne_none timerFirst interrupted _ nothing
      refine ⟨within, sorted, coming, ⟨past, split, counts, by simp [quiet]⟩, fun _ => ?_⟩
      refine Nat.lt_of_not_le fun due => ?_
      rw [decide_eq_true due] at nothing
      exact poll_due_ne_none timerFirst nothing
  | @clock now epochs' ahead time forward early next =>
      have quiet : past = [] :=
        List.eq_nil_iff_forall_not_mem.mpr fun change member => nomatch (woke change member).2
      refine ⟨early, sorted, next, ⟨past, split, counts, by simp [quiet]⟩, fun waits => ?_⟩
      exact Nat.lt_of_le_of_ne early (of_decide_eq_false waits)

theorem Sound.reaches (current : permit.isCurrent epochs = true) (sound : Sound epochs changes deadline sleep)
    (goes : Relation.ReflTransGen (Step permit deadline) sleep later) :
    Sound epochs changes deadline later := by
  induction goes with
  | refl => exact sound
  | tail _ steps sound => exact sound.step current steps

/-- A sleep goes on until it ends. -/
theorem Sound.goesOn (sound : Sound epochs changes deadline sleep) :
    (∃ slept, sleep.Ends permit deadline slept) ∨ ∃ later, Step permit deadline sleep later := by
  obtain ⟨time, woken, count, ahead⟩ := sleep
  cases woken with
  | true =>
      cases found : permit.poll true count (decide (deadline ≤ time)) with
      | some slept => exact .inl ⟨slept, rfl, true, found⟩
      | none => exact .inr ⟨_, .poll true found⟩
  | false =>
      have early : time < deadline := sound.asleep rfl
      cases ahead with
      | nil => exact .inr ⟨_, .clock deadline early (Nat.le_refl _) (by simp)⟩
      | cons first rest =>
          obtain ⟨at', change⟩ := first
          rcases Nat.eq_or_lt_of_le (sound.coming _ List.mem_cons_self) with here | forward
          · obtain rfl : time = at' := here
            exact .inr ⟨_, .change change⟩
          · refine .inr ⟨_, .clock (min at' deadline) (Nat.lt_min.mpr ⟨forward, early⟩)
              (Nat.min_le_right _ _) ?_⟩
            intro other member
            rcases List.mem_cons.mp member with rfl | behind
            · exact Nat.min_le_left _ _
            · exact Nat.le_trans (Nat.min_le_left _ _) (List.rel_of_pairwise_cons sound.sorted behind)

/-- How much can still happen in a sleep. -/
def effort (deadline : Nat) (sleep : Sleep) : Nat :=
  2 * (deadline - sleep.now) + 2 * sleep.ahead.length + sleep.woken.toNat

theorem Step.effort_lt (steps : Step permit deadline sleep later) :
    later.effort deadline < sleep.effort deadline := by
  cases steps with
  | change change =>
      simp only [effort, List.length_cons, Bool.toNat_true]
      omega
  | poll => simp [effort]
  | clock time forward early next =>
      have flag := Bool.toNat_le (decide (time = deadline))
      simp only [effort, Bool.toNat_false]
      omega

/-- Whatever has happened so far, a sleep comes to its end. -/
theorem Sound.ends {sleep : Sleep} (current : permit.isCurrent epochs = true)
    (sound : Sound epochs changes deadline sleep) :
    ∃ last slept, Relation.ReflTransGen (Step permit deadline) sleep last ∧
      last.Ends permit deadline slept := by
  rcases sound.goesOn with ⟨slept, ends⟩ | ⟨later, steps⟩
  · exact ⟨sleep, slept, .refl, ends⟩
  · obtain ⟨last, slept, goes, ends⟩ := (sound.step current steps).ends current
    exact ⟨last, slept, .head steps goes, ends⟩
termination_by sleep.effort deadline
decreasing_by exact steps.effort_lt

/-- Once the scheduler is gone the clock does not move until the sleeper is polled, and then it does
not go on sleeping. -/
theorem dropped_reaches {epochs : Epochs} (closed : epochs.closed = true)
    (goes : Relation.ReflTransGen (Step permit deadline) ⟨now, true, epochs, changes⟩ later) :
    later.now = now ∧ later.epochs.closed = true ∧ later.woken = true := by
  induction goes with
  | refl => exact ⟨rfl, closed, rfl⟩
  | tail _ steps before =>
      obtain ⟨here, gone, woken⟩ := before
      cases steps with
      | change change => exact ⟨here, (Epochs.closed_apply change gone), rfl⟩
      | poll timerFirst nothing =>
          refine absurd nothing (poll_interrupted_ne_none timerFirst ?_ _)
          rw [isInterrupted, show _ = true from gone, Bool.or_true]
      | clock => cases woken

/-- If something has happened before the deadline, a sleep ends there and then. -/
theorem Sound.ends_early (sound : Sound epochs changes deadline sleep) {slept : Bool}
    (ends : sleep.Ends permit deadline slept) (current : permit.isCurrent epochs = true)
    (lasting : epochs.closed = false) {time : Nat} {change : Change} {rest : List (Nat × Change)}
    (first : changes = (time, change) :: rest) (early : time < deadline) :
    slept = false ∧ sleep.now = time := by
  obtain ⟨past, split, counts, woke⟩ := sound.happened
  obtain ⟨_, timerFirst, found⟩ := ends
  cases past with
  | nil =>
      -- Nothing has happened, so it is the deadline, and the first change is behind the clock.
      have ahead : (time, change) ∈ sleep.ahead := by
        rw [List.nil_append] at split
        simp [← split, first]
      have notDue : ¬deadline ≤ sleep.now :=
        Nat.not_le_of_lt (Nat.lt_of_le_of_lt (sound.coming _ ahead) early)
      have goesOn : permit.isInterrupted epochs = false := by simp [isInterrupted, current, lasting]
      have same : sleep.epochs = epochs := counts
      rw [decide_eq_false notDue, poll_early, same, goesOn] at found
      cases found
  | cons happened past =>
      have head : happened = (time, change) := by
        rw [first, List.cons_append] at split
        exact (List.cons.inj split).1.symm
      have here : time = sleep.now := by simpa [head] using (woke happened List.mem_cons_self).1
      have notDue : ¬deadline ≤ sleep.now := here ▸ Nat.not_le_of_lt early
      have interrupted := isInterrupted_of_past current (List.cons_ne_nil happened past)
      rw [decide_eq_false notDue, poll_early, counts, interrupted, if_pos rfl] at found
      exact ⟨(Option.some.inj found).symm, here.symm⟩

/-- Else it ends at the deadline, and was slept through if no epoch has begun by then. -/
theorem Sound.ends_late (sound : Sound epochs changes deadline sleep) {slept : Bool}
    (ends : sleep.Ends permit deadline slept) (current : permit.isCurrent epochs = true)
    (lasting : epochs.closed = false) (late : ∀ change ∈ changes, deadline ≤ change.1)
    (no_drop : (deadline, .close) ∉ changes) :
    sleep.now = deadline ∧
      ∃ past, changes = past ++ sleep.ahead ∧ slept = decide (.next ∉ past.map Prod.snd) := by
  obtain ⟨past, split, counts, woke⟩ := sound.happened
  obtain ⟨_, timerFirst, found⟩ := ends
  cases past with
  | nil =>
      have same : sleep.epochs = epochs := counts
      by_cases due : deadline ≤ sleep.now
      · rw [decide_eq_true due, same, poll_through timerFirst current lasting] at found
        exact ⟨Nat.le_antisymm sound.within due, [], split, by simpa using found.symm⟩
      · have goesOn : permit.isInterrupted epochs = false := by simp [isInterrupted, current, lasting]
        rw [decide_eq_false due, poll_early, same, goesOn] at found
        cases found
  | cons happened past =>
      have here : sleep.now = deadline := by
        have member : happened ∈ changes := by simp [split]
        have reached := late happened member
        rw [(woke happened List.mem_cons_self).1] at reached
        exact Nat.le_antisymm sound.within reached
      have bumps : ∀ change ∈ (happened :: past).map Prod.snd, change = .next := by
        intro change member
        obtain ⟨⟨time, change⟩, among, rfl⟩ := List.mem_map.mp member
        cases change with
        | next => rfl
        | close =>
            have coincides : time = deadline := ((woke _ among).1).trans here
            exact absurd (by rw [split, ← coincides]; exact List.mem_append_left _ among) no_drop
      have stale : permit.isCurrent sleep.epochs = false := by
        rw [counts]
        refine not_isCurrent_of_changes current lasting (by simp) ?_
        intro dropped
        cases bumps _ dropped
      have begun : .next ∈ (happened :: past).map Prod.snd := by
        have first := bumps happened.2 (by simp)
        simp [← first]
      rw [poll_lapsed timerFirst stale] at found
      refine ⟨here, happened :: past, split, ?_⟩
      rw [decide_eq_false (not_not_intro begun), ← Option.some.inj found]

end Sleep

/-! ## The sleep of whoever began to wait first -/

/-- `sleepUntil` goes one of the ways that a sleep can go. -/
theorem sleepUntil_ends {now deadline : Nat} (early : now < deadline) {changes : List (Nat × Change)}
    (sorted : changes.Pairwise fun first second => first.1 ≤ second.1)
    (coming : ∀ change ∈ changes, now ≤ change.1) :
    ∃ last slept, Relation.ReflTransGen (Sleep.Step permit deadline) ⟨now, false, epochs, changes⟩ last ∧
      last.Ends permit deadline slept ∧ permit.sleepUntil deadline epochs changes = (slept, last.now) := by
  -- The timer wakes a sleeper that nothing has interrupted.
  have outlasts (epochs : Epochs) {now : Nat} (early : now < deadline) (changes : List (Nat × Change))
      (late : ∀ change ∈ changes, deadline ≤ change.1) :
      ∃ last slept, Relation.ReflTransGen (Sleep.Step permit deadline) ⟨now, false, epochs, changes⟩ last ∧
        last.Ends permit deadline slept ∧ (permit.isCurrent epochs, deadline) = (slept, last.now) :=
    ⟨_, _, .single (.clock deadline early (Nat.le_refl _) late),
      ⟨decide_eq_true rfl, true, by simp [poll, pollSleep]⟩, rfl⟩
  induction changes generalizing now epochs with
  | nil => exact outlasts epochs early [] (by simp)
  | cons first later more =>
      obtain ⟨time, change⟩ := first
      have behind : ∀ other ∈ later, time ≤ other.1 := fun _ => List.rel_of_pairwise_cons sorted
      rw [sleepUntil]
      by_cases late : deadline ≤ time
      · rw [if_pos late]
        refine outlasts epochs early _ ?_
        intro other member
        rcases List.mem_cons.mp member with rfl | member
        · exact late
        · exact Nat.le_trans late (behind other member)
      · have soon := Nat.lt_of_not_le late
        -- The clock moves to the change, which wakes the sleeper.
        have wakes : Relation.ReflTransGen (Sleep.Step permit deadline)
            ⟨now, false, epochs, (time, change) :: later⟩ ⟨time, true, epochs.apply change, later⟩ := by
          rcases Nat.eq_or_lt_of_le (coming _ List.mem_cons_self) with here | forward
          · obtain rfl : now = time := here
            exact .single (.change change)
          · refine .head (.clock time forward (Nat.le_of_lt soon) ?_) (.single (.change change))
            intro other member
            rcases List.mem_cons.mp member with rfl | member
            · exact Nat.le_refl _
            · exact behind other member
        rw [if_neg late]
        cases found : permit.poll false (epochs.apply change) false with
        | some answer =>
            exact ⟨_, answer, wakes, ⟨rfl, false, by rw [decide_eq_false late]; exact found⟩, by simp [found]⟩
        | none =>
            obtain ⟨last, slept, goes, ends, same⟩ :=
              @more (epochs.apply change) time soon sorted.of_cons behind
            have sleepsOn : Sleep.Step permit deadline ⟨time, true, epochs.apply change, later⟩
                ⟨time, false, epochs.apply change, later⟩ :=
              .poll false (by rw [decide_eq_false late]; exact found)
            exact ⟨last, slept, wakes.trans (.head sleepsOn goes), ends, by simpa [found] using same⟩

/-- So does `sleepFrom`. -/
theorem Sleeps.sleepFrom {now : Nat} (length : Duration) {changes : List (Nat × Change)}
    (sorted : changes.Pairwise fun first second => first.1 ≤ second.1)
    (coming : ∀ change ∈ changes, now ≤ change.1) :
    ∃ left, Sleeps permit now length epochs changes (permit.sleepFrom now length epochs changes) left := by
  unfold Permit.sleepFrom
  cases current : permit.isCurrent epochs with
  | false => exact ⟨changes, .stale current⟩
  | true =>
      cases found : permit.poll false epochs (decide (now + length.milliseconds ≤ now)) with
      | some answer =>
          refine ⟨changes, ?_⟩
          simp only [if_true, found]
          exact .ended current .refl ⟨rfl, false, found⟩
      | none =>
          have early : now < now + length.milliseconds := by
            refine Nat.lt_of_not_le fun due => ?_
            rw [decide_eq_true due] at found
            exact poll_due_ne_none false found
          obtain ⟨last, slept, goes, ends, same⟩ := sleepUntil_ends early sorted coming
          refine ⟨last.ahead, ?_⟩
          simp only [if_true, found]
          rw [same]
          exact .ended current (.head (.poll false found) goes) ends

/-! ## Waits for the end of a run -/

/-- A wait for the end of a run ends with the first change of the scheduler, whatever it is. -/
theorem stale_eq (permit : Permit) (limit : Nat) (epochs : Epochs) (changes : List (Nat × Change)) :
    permit.stale limit epochs changes =
      if permit.isInterrupted epochs then (true, 0)
      else
        match changes with
        | [] => (false, limit)
        | (time, _) :: _ => if limit ≤ time then (false, limit) else (true, time) := by
  rw [stale]
  cases changes with
  | nil => rw [staleBy]
  | cons first later =>
      obtain ⟨time, change⟩ := first
      rw [staleBy]
      cases interrupted : permit.isInterrupted epochs with
      | true => rfl
      | false =>
          have current : permit.isCurrent epochs = true := by
            simp only [isInterrupted, Bool.or_eq_false_iff, Bool.not_eq_false'] at interrupted
            exact interrupted.1
          have ended : permit.isInterrupted (epochs.apply change) = true :=
            isInterrupted_of_changes current (List.cons_ne_nil change [])
          have found : permit.staleBy limit time (epochs.apply change) later = (true, time) := by
            cases later <;> rw [staleBy, if_pos ended]
          simp only [found]

/-! ## Tokens and their sleeps -/

/-- The answer to a sleep of some length that begins now, with these changes of the scheduler during
the call, of which some are left when it ends. -/
structure Answers (permit : Permit) (now : Nat) (length : Duration) (epochs : Epochs)
    (changes : List (Nat × Change)) (answer : Bool × Nat) (left : List (Nat × Change)) : Prop where
  /-- A token that is stale at the call does not sleep. -/
  stale : permit.isCurrent epochs = false → answer = (false, now)
  /-- Nor does any token once the scheduler is gone, if the sleep has a length. -/
  dropped : epochs.closed = true → 0 < length.nanoseconds → answer = (false, now)
  /-- A change before the deadline ends the sleep at its own time. -/
  interrupted : permit.isCurrent epochs = true → epochs.closed = false →
    ∀ time change rest, changes = (time, change) :: rest → time < now + length.milliseconds →
      answer = (false, time)
  /-- Without one, and unless the scheduler is dropped at the deadline itself, the sleep lasts until
  the deadline, and the answer is whether no epoch has begun by the poll in which the sleeper wakes
  up. -/
  outlasted : permit.isCurrent epochs = true → epochs.closed = false →
    (∀ change ∈ changes, now + length.milliseconds ≤ change.1) →
    (now + length.milliseconds, .close) ∉ changes →
      ∃ past, changes = past ++ left ∧
        answer = (decide (.next ∉ past.map Prod.snd), now + length.milliseconds)

theorem Sleeps.answers {now : Nat} {length : Duration} {changes left : List (Nat × Change)}
    {answer : Bool × Nat} (sleeps : Sleeps permit now length epochs changes answer left)
    (sorted : changes.Pairwise fun first second => first.1 ≤ second.1)
    (coming : ∀ change ∈ changes, now ≤ change.1) :
    Answers permit now length epochs changes answer left := by
  cases sleeps with
  | stale lapsed =>
      refine ⟨fun _ => rfl, fun _ _ => rfl, ?_, ?_⟩ <;>
      · intro current
        rw [lapsed] at current
        cases current
  | @ended sleep slept current goes ends =>
      have sound := (Sleep.Sound.begin sorted coming length.milliseconds).reaches current goes
      refine ⟨?_, ?_, ?_, ?_⟩
      · intro lapsed
        rw [lapsed] at current
        cases current
      · intro closed positive
        obtain ⟨here, gone, _⟩ := Sleep.dropped_reaches closed goes
        obtain ⟨_, timerFirst, found⟩ := ends
        have notDue : ¬now + length.milliseconds ≤ sleep.now :=
          here ▸ Nat.not_le_of_lt (Nat.lt_add_of_pos_right (Duration.milliseconds_pos positive))
        have interrupted : permit.isInterrupted sleep.epochs = true := by simp [isInterrupted, gone]
        rw [decide_eq_false notDue, poll_early, interrupted, if_pos rfl] at found
        rw [here, ← Option.some.inj found]
      · intro _ lasting time change rest first early
        obtain ⟨rfl, rfl⟩ := sound.ends_early ends current lasting first early
        rfl
      · intro _ lasting late no_drop
        obtain ⟨here, past, split, rfl⟩ := sound.ends_late ends current lasting late no_drop
        exact ⟨past, split, by rw [here]⟩

/-- Run tokens of an epoch that the scheduler has been at. Once such a token is not current it never
is again. A sleep with it, in whatever order its polls and the changes of the scheduler at one time
come, always ends, and with the answer that was asked for; so does the sleep of whoever began to
wait first. -/
theorem lapses_and_sleeps (history : List Change) (permit : Permit) (seen : Seen history permit.epoch) :
    (∀ later more, permit.isCurrent (fresh.after (history ++ later)) = false →
      permit.isCurrent (fresh.after (history ++ later ++ more)) = false) ∧
    ∀ (now : Nat) (length : Duration) (changes : List (Nat × Change)),
      changes.Pairwise (fun first second => first.1 ≤ second.1) → (∀ change ∈ changes, now ≤ change.1) →
        let epochs := fresh.after history
        let deadline := now + length.milliseconds
        (∀ answer left, Sleeps permit now length epochs changes answer left →
          Answers permit now length epochs changes answer left) ∧
        (permit.isCurrent epochs = true →
          ∀ sleep, Relation.ReflTransGen (Sleep.Step permit deadline) ⟨now, true, epochs, changes⟩ sleep →
            ∃ last slept, Relation.ReflTransGen (Sleep.Step permit deadline) sleep last ∧
              last.Ends permit deadline slept) ∧
        ∃ left, Sleeps permit now length epochs changes (permit.sleepFrom now length epochs changes) left := by
  constructor
  · intro later more stale
    rw [Epochs.after_append]
    refine isCurrent_after (Nat.le_trans seen.le ?_) stale more
    rw [Epochs.after_append]
    exact Epochs.le_after _ later
  · intro now length changes sorted coming epochs deadline
    refine ⟨fun answer left sleeps => sleeps.answers sorted coming, ?_, Sleeps.sleepFrom length sorted coming⟩
    intro current sleep goes
    exact ((Sleep.Sound.begin sorted coming length.milliseconds).reaches current goes).ends current

/-- Two epochs begin three milliseconds into a sleep of five, which ends there and then. If they
begin at its deadline the sleep lasts until then, and its answer is whether neither has begun by the
last poll. -/
theorem lapses_and_sleeps_interrupted :
    let permit : Permit := ⟨1⟩
    let epochs := fresh.after [.next]
    let began (time : Nat) : List (Nat × Change) := [(time, .next), (time, .next)]
    Seen [.next] permit.epoch ∧
      permit.isCurrent (fresh.after ([.next] ++ [.next])) = false ∧
      permit.isCurrent (fresh.after ([.next] ++ [.next] ++ [.close])) = false ∧
      (∃ left, Sleeps permit 0 (.ofMilliseconds 5) epochs (began 3) (false, 3) left) ∧
      permit.sleep (.ofMilliseconds 5) epochs (began 3) = (false, 3) ∧
      ∀ answer left, Sleeps permit 0 (.ofMilliseconds 5) epochs (began 5) answer left →
        ∃ past, began 5 = past ++ left ∧ answer = (decide (.next ∉ past.map Prod.snd), 5) := by
  intro permit epochs began
  have seen : Seen [.next] permit.epoch := ⟨[.next], List.prefix_refl _, rfl⟩
  obtain ⟨lapses, sleeps⟩ := lapses_and_sleeps [.next] permit seen
  have five := Duration.milliseconds_ofMilliseconds 5
  generalize Duration.ofMilliseconds 5 = length at five ⊢
  have inOrder (time : Nat) : (began time).Pairwise fun first second => first.1 ≤ second.1 := by simp [began]
  have soon := sleeps 0 length (began 3) (inOrder 3) (by simp)
  have late := sleeps 0 length (began 5) (inOrder 5) (by simp)
  simp only [five, Nat.zero_add] at soon late
  obtain ⟨left, goes⟩ := soon.2.2
  have answer : permit.sleep length epochs (began 3) = (false, 3) :=
    (soon.1 _ left goes).interrupted rfl rfl 3 .next [(3, .next)] rfl (by rw [five]; decide)
  refine ⟨seen, rfl, lapses [.next] [.close] rfl, ⟨left, answer ▸ goes⟩, answer, ?_⟩
  intro answer left goes
  simpa only [five, Nat.zero_add] using
    (late.1 answer left goes).outlasted rfl rfl (by simp [began, five]) (by simp [began])

end Permit

end SpriteStage
