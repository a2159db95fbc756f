/-
Module: SpriteStage.Proofs.Performance.Refinement
Purpose: A performance is made of independent interpreters. Each script that is launched with an
  epoch does what it would do on its own, from the snapshot of its sprite at that moment, as long as
  the epoch lasts: the sprite receives the same updates in the same order at the same times, counted
  from the beginning of the epoch, and none of those due before its end is missing. So neither edits
  nor other scripts nor the order of turns have any influence on what a sprite receives. Every
  script of the current epoch is followed by a script on its own (`Chronicle.Follows`); when the
  epoch is over, what that says about the past stays (`Chronicle.Renders`).
Main exports: Chronicle.roster, Chronicle.received, Chronicle.Follows, Chronicle.Renders,
  Chronicle.Faithful, Chronicle.Faithful.take, Chronicle.refines_solos
-/
import SpriteStage.Proofs.Performance.Deliveries
import SpriteStage.Proofs.Performance.EpochSafety
import SpriteStage.Proofs.Performance.Passage
import SpriteStage.Proofs.Script.Undisturbed

namespace SpriteStage

/-- The updates that reached a sprite in an epoch, with their times. -/
def Delivery.received (epoch : Nat) (id : SpriteId) (deliveries : List Delivery) :
    List (Nat × Update) :=
  (deliveries.filter fun delivery => delivery.epoch = epoch ∧ delivery.sprite = id).map
    fun delivery => (delivery.time, delivery.update)

theorem Delivery.received_append (epoch : Nat) (id : SpriteId) (first second : List Delivery) :
    received epoch id (first ++ second) = received epoch id first ++ received epoch id second := by
  simp [received]

/-- The same updates, later by some time. -/
def delayed (delay : Nat) (updates : List (Nat × Update)) : List (Nat × Update) :=
  updates.map fun entry => (delay + entry.1, entry.2)

/-- A script stands where a script on its own stands that started at some time. If it waits, its
wake-up is still to come. -/
def Standing.Shadows (now start : Nat) (run : Run) (solo : Solo) : Standing → Prop
  | .inLine => solo.phase = .ready run ∧ start + solo.now = now
  | .waiting wake =>
    ∃ own, wake = own.map (start + ·) ∧ solo.phase = .waiting own run ∧
      ∀ time, wake = some time → now ≤ time
  | .ended => ∃ outcome, solo.phase = .ended outcome

/-- Whatever the script on its own displays from here on, it displays now or later. -/
theorem Standing.Shadows.silentBefore {now start : Nat} {run : Run} {solo : Solo}
    {standing : Standing} (shadows : standing.Shadows now start run solo) :
    solo.SilentBefore (now - start) := by
  cases standing with
  | inLine =>
      obtain ⟨phase, time⟩ := shadows
      simp only [Solo.SilentBefore, phase]
      omega
  | waiting wake =>
      obtain ⟨own, rfl, phase, late⟩ := shadows
      cases own with
      | none => simp only [Solo.SilentBefore, phase]
      | some own =>
          have coming := late (start + own) rfl
          simp only [Solo.SilentBefore, phase]
          omega
  | ended =>
      obtain ⟨outcome, phase⟩ := shadows
      simp only [Solo.SilentBefore, phase]

/-- The script on its own makes the same progress as the script that it follows. -/
theorem Standing.Shadows.proceed {now start : Nat} {config : Config} {run : Run} {solo : Solo}
    (shadows : Standing.inLine.Shadows now start run solo)
    (undisturbed : solo.Undisturbed config) :
    let progress := run.proceed config true true
    solo.Reaches (solo.after progress) ∧
      (progress.standing now).Shadows now start (progress.run run) (solo.after progress) := by
  intro progress
  obtain ⟨phase, time⟩ := shadows
  refine ⟨.single (undisturbed.step_ready phase solo.now), ?_⟩
  cases progress with
  | ended outcome => exact ⟨outcome, rfl⟩
  | passed later => exact ⟨rfl, time⟩
  | skipped tag later => exact ⟨rfl, time⟩
  | displayed update later => exact ⟨rfl, time⟩
  | waiting length later =>
      refine ⟨some (solo.now + length), ?_, rfl, ?_⟩
      · simp [← time, Nat.add_assoc]
      · rintro wake ⟨⟩
        exact Nat.le_add_right _ _
  | resting later => exact ⟨none, rfl, rfl, nofun⟩

/-- A script that starts with an epoch, on its own from the time zero. -/
def Opening.alone (opening : Opening) (script : Script) : Solo :=
  Solo.alone opening.stage.config script.pose script.blocks 0

namespace Chronicle

/-- All scripts that ever started, and where they stand. -/
def roster (chronicle : Chronicle) : List (Task × Standing) :=
  chronicle.performance.ready.map (fun task => (task, .inLine)) ++
    chronicle.performance.waiting.map (fun waiter => (waiter.task, .waiting waiter.wake)) ++
    chronicle.ended.map fun task => (task, .ended)

theorem roster_keys (chronicle : Chronicle) :
    chronicle.roster.map (fun member => member.1.key) = chronicle.keys := by
  simp [roster, keys, tasks, Function.comp_def]

/-- The updates that reached a sprite in an epoch. -/
abbrev received (chronicle : Chronicle) (epoch : Nat) (id : SpriteId) : List (Nat × Update) :=
  Delivery.received epoch id chronicle.deliveries

/-- A script that started with an epoch is followed by the script on its own, and its sprite has
received what that script has displayed. -/
def Follows (chronicle : Chronicle) (opening : Opening) (script : Script) : Prop :=
  ∃ task standing solo, (task, standing) ∈ chronicle.roster ∧
    task.key = (script.sprite, opening.stage.epoch) ∧ (opening.alone script).Reaches solo ∧
    standing.Shadows chronicle.performance.now opening.time task.run solo ∧
    chronicle.received opening.stage.epoch script.sprite =
      delayed opening.time solo.updates.toList

/-- Up to a time, a sprite has received what its script would have displayed on its own: it is all
that the script on its own has displayed by some moment, and nothing that this script displays
before the time is missing. -/
def Renders (chronicle : Chronicle) (opening : Opening) (script : Script) (limit : Nat) : Prop :=
  let received := chronicle.received opening.stage.epoch script.sprite
  (∃ solo, (opening.alone script).Reaches solo ∧
    received = delayed opening.time solo.updates.toList) ∧
    ∀ solo, (opening.alone script).Reaches solo → ∀ (place : Nat) (entry : Nat × Update),
      solo.updates.toList[place]? = some entry → opening.time + entry.1 < limit →
        received[place]? = some (opening.time + entry.1, entry.2)

/-- A script that is followed has rendered everything up to now. -/
theorem Follows.renders {chronicle : Chronicle} {opening : Opening} {script : Script}
    (follows : chronicle.Follows opening script) :
    chronicle.Renders opening script chronicle.performance.now := by
  obtain ⟨task, standing, solo, _, _, reaches, shadows, got⟩ := follows
  refine ⟨⟨solo, reaches, got⟩, ?_⟩
  intro other reached place entry there early
  have shown : solo.updates.toList[place]? = some entry := by
    rcases reaches.total reached with further | before
    · -- What the other one displays beyond this one comes too late.
      obtain ⟨more, grown, late⟩ := further.grows shadows.silentBefore
      rw [grown, List.getElem?_append] at there
      split at there
      · exact there
      · have coming := late entry (List.mem_of_getElem? there)
        omega
    · obtain ⟨more, grown, _⟩ := before.grows (Solo.SilentBefore.zero other)
      obtain ⟨inside, _⟩ := List.getElem?_eq_some_iff.mp there
      rw [grown, List.getElem?_append_left inside]
      exact there
  rw [got, delayed, List.getElem?_map, shown]
  rfl

/-- Two scripts of the current epoch and the same sprite are the same. -/
theorem Sound.unique {chronicle : Chronicle} (sound : chronicle.Sound) {first second : Task × Standing}
    (firstMember : first ∈ chronicle.roster) (secondMember : second ∈ chronicle.roster)
    (current : first.1.epoch = chronicle.stage.epoch) (same : first.1.key = second.1.key) :
    first = second := by
  let ofSprite (member : Task × Standing) : Bool :=
    member.1.key == (first.1.sprite, chronicle.stage.epoch)
  have single : (chronicle.roster.filter ofSprite).length ≤ 1 := by
    have counted := sound.single first.1.sprite
    rw [← roster_keys, List.count_eq_countP, List.countP_map, List.countP_eq_length_filter]
      at counted
    exact counted
  have listed : ∀ member ∈ chronicle.roster, first.1.key = member.1.key →
      member ∈ chronicle.roster.filter ofSprite := by
    intro member inside alike
    have here : first.1.key = (first.1.sprite, chronicle.stage.epoch) := by rw [← current]; rfl
    simp [List.mem_filter, inside, ofSprite, ← alike, here]
  have firstListed := listed first firstMember rfl
  have secondListed := listed second secondMember same
  generalize chronicle.roster.filter ofSprite = few at single firstListed secondListed
  cases few with
  | nil => cases firstListed
  | cons only rest =>
      cases List.length_eq_zero_iff.mp (Nat.le_zero.mp (Nat.le_of_succ_le_succ single))
      rw [List.mem_singleton.mp firstListed, List.mem_singleton.mp secondListed]

/-- What is so of the opening of the current epoch, unless the stage was stopped: whoever runs in
the epoch started with it, the scripts that started with it are followed, and nobody else has
received anything. -/
structure Live (chronicle : Chronicle) (opening : Opening) : Prop where
  epoch : opening.stage.epoch = chronicle.stage.epoch
  config : opening.stage.config = chronicle.stage.config
  ids : opening.stage.ids ⊆ chronicle.stage.ids
  started : opening.cause ≠ .stop → ∀ key ∈ chronicle.keys, key.2 = chronicle.stage.epoch →
    key.1 ∈ opening.stage.snapshots.map Script.sprite
  follows : opening.cause ≠ .stop → ∀ script ∈ opening.stage.snapshots,
    chronicle.Follows opening script
  silent : opening.cause ≠ .stop → ∀ id ∉ opening.stage.snapshots.map Script.sprite,
    chronicle.received opening.stage.epoch id = []

/-! ## Acts -/

/-- The script that acts stands where its progress leaves it. -/
theorem mem_acted_roster (chronicle : Chronicle) (task : Task) (others : List Task) :
    (task.after (chronicle.performance.progress task),
      (chronicle.performance.progress task).standing chronicle.performance.now) ∈
        (chronicle.acted task others).roster := by
  cases stands : (chronicle.performance.progress task).standing chronicle.performance.now <;>
    simp [roster, acted, stands, Standing.line, Standing.waiters, Standing.leavers]

/-- All others stand where they stood. -/
theorem mem_acted_roster_of_ne {chronicle : Chronicle} {task : Task} {others : List Task}
    (line : chronicle.performance.ready = task :: others) {member : Task × Standing}
    (inside : member ∈ chronicle.roster) (different : member.1 ≠ task) :
    member ∈ (chronicle.acted task others).roster := by
  simp only [roster, line, List.map_cons, List.cons_append, List.mem_cons, List.mem_append,
    List.mem_map] at inside
  rcases inside with here | (⟨other, there, rfl⟩ | ⟨waiter, there, rfl⟩) | ⟨other, there, rfl⟩
  · exact absurd (congrArg Prod.fst here) different
  · simp [roster, acted, there]
  · apply List.mem_append_left
    apply List.mem_append_right
    exact List.mem_map.mpr ⟨waiter, List.mem_append_left _ there, rfl⟩
  · apply List.mem_append_right
    exact List.mem_map.mpr ⟨other, List.mem_append_left _ there, rfl⟩

/-- What an act delivers goes to the sprite of the script, in the epoch of the script. -/
theorem received_delivered {performance : Performance} {task : Task} {epoch : Nat} {id : SpriteId}
    (different : task.key ≠ (id, epoch)) (progress : Progress) :
    Delivery.received epoch id (delivered performance task progress) = [] := by
  have apart : decide (task.epoch = epoch ∧ task.sprite = id) = false := by
    rw [decide_eq_false_iff_not]
    rintro ⟨rfl, rfl⟩
    exact different rfl
  cases progress with
  | displayed update run =>
      simp only [delivered]
      split
      · simp only [Delivery.received, List.filter_cons, apart, Bool.false_eq_true, if_false,
          List.filter_nil, List.map_nil]
      · rfl
  | _ => rfl

theorem received_acted (chronicle : Chronicle) (task : Task) (others : List Task) (epoch : Nat)
    (id : SpriteId) :
    (chronicle.acted task others).received epoch id = chronicle.received epoch id ++
      Delivery.received epoch id
        (delivered chronicle.performance task (chronicle.performance.progress task)) :=
  Delivery.received_append epoch id _ _

/-- A script that acts is still followed. -/
theorem Follows.acts {chronicle : Chronicle} {opening : Opening} {script : Script}
    (sound : chronicle.Sound) (live : chronicle.Live opening)
    (follows : chronicle.Follows opening script) {task : Task} {others : List Task}
    (line : chronicle.performance.ready = task :: others)
    (acting : task.key = (script.sprite, opening.stage.epoch))
    (present : script.sprite ∈ chronicle.stage.ids) :
    (chronicle.acted task others).Follows opening script := by
  obtain ⟨same, standing, solo, member, key, reaches, shadows, got⟩ := follows
  obtain ⟨spriteEq, epochEq⟩ : task.sprite = script.sprite ∧ task.epoch = opening.stage.epoch :=
    Prod.mk.inj acting
  have current : task.epoch = chronicle.stage.epoch := epochEq.trans live.epoch
  have head : (task, Standing.inLine) ∈ chronicle.roster := by simp [roster, line]
  obtain ⟨rfl, rfl⟩ := Prod.mk.inj (sound.unique head member current (acting.trans key.symm))
  have calm : solo.Undisturbed chronicle.stage.config := by
    rw [← live.config]
    exact (Solo.alone_undisturbed _ _ _ _).reaches reaches
  have progress : chronicle.performance.progress task =
      task.run.proceed chronicle.stage.config true true := by
    simp [Performance.progress, current]
  obtain ⟨goesOn, stands⟩ := shadows.proceed calm
  rw [← progress] at goesOn stands
  refine ⟨_, _, _, chronicle.mem_acted_roster task others, acting, reaches.trans goesOn, stands, ?_⟩
  rw [received_acted, got]
  cases shown : chronicle.performance.progress task with
  | displayed update run =>
      have found : (chronicle.performance.stage.find? script.sprite).isSome = true :=
        Stage.find?_isSome_iff.mpr present
      simp [delivered, found, Delivery.received, spriteEq, epochEq, Solo.after, delayed, shadows.2]
  | _ => simp [delivered, Delivery.received, Solo.after]

/-- A script is still followed when another one acts. -/
theorem Follows.letAct {chronicle : Chronicle} {opening : Opening} {script : Script}
    (follows : chronicle.Follows opening script) {task : Task} {others : List Task}
    (line : chronicle.performance.ready = task :: others)
    (other : task.key ≠ (script.sprite, opening.stage.epoch)) :
    (chronicle.acted task others).Follows opening script := by
  obtain ⟨own, standing, solo, member, key, reaches, shadows, got⟩ := follows
  have different : own ≠ task := by
    rintro rfl
    exact other key
  refine ⟨own, standing, solo, mem_acted_roster_of_ne line member different, key, reaches, shadows,
    ?_⟩
  rw [received_acted, received_delivered other, List.append_nil]
  exact got

theorem Live.acted {chronicle : Chronicle} {opening : Opening} (sound : chronicle.Sound)
    (live : chronicle.Live opening) {task : Task} {others : List Task}
    (line : chronicle.performance.ready = task :: others) :
    (chronicle.acted task others).Live opening where
  epoch := live.epoch
  config := live.config
  ids := live.ids
  started := by
    intro plays key member
    exact live.started plays key ((acted_keys line).mem_iff.mp member)
  follows := by
    intro plays script member
    have follows := live.follows plays script member
    by_cases acting : task.key = (script.sprite, opening.stage.epoch)
    · have present : script.sprite ∈ opening.stage.ids :=
        opening.stage.snapshots_sublist.subset (List.mem_map_of_mem member)
      exact follows.acts sound live line acting (live.ids present)
    · exact follows.letAct line acting
  silent := by
    intro plays id absent
    have other : task.key ≠ (id, opening.stage.epoch) := by
      intro same
      have member : task.key ∈ chronicle.keys := by simp [Chronicle.keys, tasks, line]
      have started := live.started plays task.key member (by rw [same]; exact live.epoch)
      rw [same] at started
      exact absent started
    rw [received_acted, received_delivered other, List.append_nil]
    exact live.silent plays id absent

/-! ## The clock -/

theorem mem_roster_waiting {chronicle : Chronicle} {task : Task} {wake : Option Nat} :
    (task, Standing.waiting wake) ∈ chronicle.roster ↔
      ⟨wake, task⟩ ∈ chronicle.performance.waiting := by
  simp only [roster, List.mem_append, List.mem_map, Prod.mk.injEq, reduceCtorEq, and_false,
    exists_false, false_or, or_false, Standing.waiting.injEq]
  constructor
  · rintro ⟨⟨wake, task⟩, inside, rfl, rfl⟩
    exact inside
  · exact fun inside => ⟨_, inside, rfl, rfl⟩

theorem mem_roster_inLine {chronicle : Chronicle} {task : Task} :
    (task, Standing.inLine) ∈ chronicle.roster ↔ task ∈ chronicle.performance.ready := by
  simp [roster]

/-- A script wakes up together with the script that follows it. -/
theorem Follows.clock {chronicle : Chronicle} {opening : Opening} {script : Script} {time : Nat}
    (follows : chronicle.Follows opening script) (nobody : chronicle.performance.ready = [])
    (early : ∀ waiter ∈ chronicle.performance.waiting, ∀ wake, waiter.wake = some wake →
      time ≤ wake) :
    (chronicle.take (.clock time)).Follows opening script := by
  obtain ⟨task, standing, solo, listed, key, reaches, shadows, got⟩ := follows
  cases standing with
  | inLine =>
      rw [mem_roster_inLine, nobody] at listed
      cases listed
  | ended =>
      have inside : (task, Standing.ended) ∈ (chronicle.take (.clock time)).roster := by
        simpa [roster, take] using listed
      exact ⟨task, .ended, solo, inside, key, reaches, shadows, got⟩
  | waiting wake =>
      rw [mem_roster_waiting] at listed
      obtain ⟨own, wakes, phase, late⟩ := shadows
      by_cases due : Performance.isDue (max chronicle.performance.now time) ⟨wake, task⟩ = true
      · -- The clock does not pass the wake-up, so it is there.
        obtain ⟨moment, rfl, reached⟩ : ∃ moment, wake = some moment ∧
            moment ≤ max chronicle.performance.now time := by
          simpa [Performance.isDue, Option.any_eq_true] using due
        obtain ⟨ownMoment, rfl, same⟩ := Option.map_eq_some_iff.mp wakes.symm
        have arrived : opening.time + ownMoment = max chronicle.performance.now time := by
          have passed := late moment rfl
          have ahead := early _ listed moment rfl
          omega
        have steps : solo.step ownMoment =
            some { solo with now := ownMoment, phase := .ready task.run } := by
          simp [Solo.step, phase]
        have inside : (task, Standing.inLine) ∈ (chronicle.take (.clock time)).roster := by
          refine mem_roster_inLine.mpr (List.mem_append_right _ ?_)
          exact List.mem_map.mpr ⟨_, List.mem_filter.mpr ⟨listed, due⟩, rfl⟩
        exact ⟨task, .inLine, _, inside, key, reaches.trans (.single steps), ⟨rfl, arrived⟩, got⟩
      · have inside : (task, Standing.waiting wake) ∈ (chronicle.take (.clock time)).roster :=
          mem_roster_waiting.mpr (List.mem_filter.mpr ⟨listed, by simpa using due⟩)
        refine ⟨task, .waiting wake, solo, inside, key, reaches, ⟨own, wakes, phase, ?_⟩, got⟩
        intro moment coming
        exact Nat.max_le.mpr ⟨late moment coming, early _ listed moment coming⟩

/-! ## The past -/

/-- What has become of an epoch up to a time, unless the stage was stopped with it. -/
def Rendered (chronicle : Chronicle) (opening : Opening) (limit : Nat) : Prop :=
  opening.cause ≠ .stop →
    (∀ script ∈ opening.stage.snapshots, chronicle.Renders opening script limit) ∧
      ∀ id ∉ opening.stage.snapshots.map Script.sprite,
        chronicle.received opening.stage.epoch id = []

theorem Live.rendered {chronicle : Chronicle} {opening : Opening}
    (live : chronicle.Live opening) :
    chronicle.Rendered opening chronicle.performance.now := by
  intro plays
  exact ⟨fun script member => (live.follows plays script member).renders, live.silent plays⟩

/-- What is delivered in another epoch changes nothing. -/
theorem Rendered.of_received_eq {before after : Chronicle} {opening : Opening} {limit : Nat}
    (rendered : before.Rendered opening limit)
    (same : ∀ id, after.received opening.stage.epoch id = before.received opening.stage.epoch id) :
    after.Rendered opening limit := by
  intro plays
  obtain ⟨scripts, others⟩ := rendered plays
  constructor
  · intro script member
    have renders := scripts script member
    unfold Renders at renders ⊢
    rw [same]
    exact renders
  · intro id absent
    rw [same]
    exact others id absent

/-- What is so of every chronicle on time: every epoch has its opening, each was rendered until the
next one began, the current one is live, and nothing was delivered ahead of it. -/
structure Faithful (chronicle : Chronicle) : Prop where
  counted : chronicle.openings.map (fun opening => opening.stage.epoch) =
    List.range' 1 chronicle.stage.epoch
  past : ∀ number opening next, chronicle.openings[number]? = some opening →
    chronicle.openings[number + 1]? = some next →
      opening.stage.epoch < chronicle.stage.epoch ∧ chronicle.Rendered opening next.time
  live : ∀ opening, chronicle.openings.getLast? = some opening → chronicle.Live opening
  dated : ∀ delivery ∈ chronicle.deliveries, delivery.epoch ≤ chronicle.stage.epoch

namespace Faithful

theorem create {stage : Stage} (new : stage.epoch = 0) : (Chronicle.create stage).Faithful where
  counted := by
    show [] = List.range' 1 stage.epoch
    rw [new]
    rfl
  past := by simp [Chronicle.create]
  live := by simp [Chronicle.create]
  dated := by simp [Chronicle.create]

/-- Within an epoch it is enough that the opening of the epoch stays live, and that nothing is
delivered but in the epoch. -/
theorem goesOn {before after : Chronicle} (faithful : before.Faithful)
    (openings : after.openings = before.openings) (epoch : after.stage.epoch = before.stage.epoch)
    {more : List Delivery} (deliveries : after.deliveries = before.deliveries ++ more)
    (now : ∀ delivery ∈ more, delivery.epoch = before.stage.epoch)
    (live : ∀ opening, before.Live opening → after.Live opening) : after.Faithful where
  counted := by
    rw [openings, epoch]
    exact faithful.counted
  past := by
    rw [openings, epoch]
    intro number opening next here there
    obtain ⟨earlier, rendered⟩ := faithful.past number opening next here there
    refine ⟨earlier, rendered.of_received_eq fun id => ?_⟩
    have nothing : Delivery.received opening.stage.epoch id more = [] := by
      simp only [Delivery.received, List.map_eq_nil_iff, List.filter_eq_nil_iff,
        decide_eq_true_eq, not_and]
      intro delivery member same
      have := now delivery member
      omega
    rw [received, deliveries, Delivery.received_append, nothing, List.append_nil]
  live := by
    rw [openings]
    exact fun opening last => live opening (faithful.live opening last)
  dated := by
    rw [deliveries, epoch]
    intro delivery member
    rcases List.mem_append.mp member with old | new
    · exact faithful.dated delivery old
    · exact Nat.le_of_eq (now delivery new)

theorem onStage {chronicle : Chronicle} (faithful : chronicle.Faithful) {stage : Stage}
    (steady : chronicle.stage.Steady stage) : (chronicle.onStage stage).Faithful := by
  refine faithful.goesOn rfl steady.epoch (List.append_nil _).symm nofun ?_
  intro opening live
  exact
    { epoch := live.epoch.trans steady.epoch.symm
      config := live.config.trans steady.config.symm
      ids := List.Subset.trans live.ids steady.ids
      started := fun plays key member current =>
        live.started plays key member (current.trans steady.epoch)
      follows := live.follows
      silent := live.silent }

theorem acted {chronicle : Chronicle} (faithful : chronicle.Faithful) (sound : chronicle.Sound)
    {task : Task} {others : List Task} (line : chronicle.performance.ready = task :: others) :
    (chronicle.acted task others).Faithful := by
  refine faithful.goesOn rfl rfl rfl ?_ fun opening live => live.acted sound line
  intro delivery member
  cases shown : chronicle.performance.progress task with
  | displayed update run =>
      rw [shown] at member
      simp only [delivered] at member
      split at member
      · rw [List.mem_singleton.mp member]
        exact Performance.epoch_eq_of_displayed shown
      · cases member
  | _ => simp [shown, delivered] at member

/-- The scripts of a new epoch are followed from their beginning. -/
theorem opened_live {chronicle : Chronicle} (faithful : chronicle.Faithful)
    (sound : chronicle.Sound) {cause : Cause} {stage : Stage} {scripts : List Script}
    (begins : chronicle.stage.Begins stage)
    (starts : cause ≠ .stop → scripts = stage.snapshots) :
    (chronicle.opened cause stage scripts).Live ⟨cause, chronicle.performance.now, stage⟩ := by
  have nothing : ∀ id, chronicle.received stage.epoch id = [] := by
    intro id
    simp only [Delivery.received, List.map_eq_nil_iff, List.filter_eq_nil_iff,
      decide_eq_true_eq, not_and]
    intro delivery member same
    have dated := faithful.dated delivery member
    have next := begins.epoch
    omega
  refine ⟨rfl, rfl, List.Subset.refl _, ?_, ?_, fun _ id _ => nothing id⟩
  · intro plays key member current
    rcases List.mem_append.mp ((chronicle.opened_keys cause stage scripts).mem_iff.mp member) with
      old | new
    · have bounded := sound.bounded key old
      have next := begins.epoch
      have same : key.2 = stage.epoch := current
      omega
    · obtain ⟨script, started, rfl⟩ := List.mem_map.mp new
      rw [starts plays] at started
      exact List.mem_map_of_mem started
  · intro plays script member
    refine ⟨Task.launch stage.epoch script, .inLine, _, ?_, rfl, .refl _, ⟨rfl, rfl⟩, ?_⟩
    · have started : script ∈ scripts := (starts plays).symm ▸ member
      simp only [roster, Chronicle.opened, List.map_append, List.map_map, List.mem_append,
        List.mem_map, Function.comp_apply]
      exact Or.inl (Or.inl (Or.inr ⟨script, started, rfl⟩))
    · exact nothing script.sprite

/-- When an epoch ends, it has been rendered until then. -/
theorem opened {chronicle : Chronicle} (faithful : chronicle.Faithful) (sound : chronicle.Sound)
    {cause : Cause} {stage : Stage} {scripts : List Script}
    (begins : chronicle.stage.Begins stage)
    (starts : cause ≠ .stop → scripts = stage.snapshots) :
    (chronicle.opened cause stage scripts).Faithful where
  counted := by
    have last : stage.epoch = 1 + chronicle.stage.epoch := by rw [begins.epoch, Nat.add_comm]
    show (chronicle.openings ++ [_]).map _ = List.range' 1 stage.epoch
    rw [begins.epoch, List.range'_1_concat, List.map_append, faithful.counted, ← last]
    rfl
  past := by
    have later : chronicle.stage.epoch < stage.epoch := by
      rw [begins.epoch]
      exact Nat.lt_succ_self _
    intro number opening next here there
    simp only [Chronicle.opened] at here there
    rcases Nat.lt_trichotomy (number + 1) chronicle.openings.length with inside | last | outside
    · rw [List.getElem?_append_left (by omega)] at here there
      obtain ⟨earlier, rendered⟩ := faithful.past number opening next here there
      exact ⟨Nat.lt_trans earlier later, rendered⟩
    · rw [List.getElem?_append_left (by omega)] at here
      rw [List.getElem?_append_right (by omega), last, Nat.sub_self, List.getElem?_cons_zero,
        Option.some.injEq] at there
      subst there
      have live := faithful.live opening (by
        rw [List.getLast?_eq_getElem?, ← last]
        exact here)
      exact ⟨live.epoch ▸ later, live.rendered⟩
    · rw [List.getElem?_eq_none (by simp; omega)] at there
      cases there
  live := by
    intro opening last
    simp only [Chronicle.opened, List.getLast?_append, List.getLast?_singleton, Option.some_or,
      Option.some.injEq] at last
    subst last
    exact faithful.opened_live sound begins starts
  dated := by
    intro delivery member
    have dated := faithful.dated delivery member
    have next := begins.epoch
    show delivery.epoch ≤ stage.epoch
    omega

theorem settles {before after : Chronicle} (faithful : before.Faithful) (sound : before.Sound)
    (settles : before.Settles after) : after.Faithful := by
  cases settles with
  | steady steady => exact faithful.onStage steady
  | opens begins starts =>
      refine faithful.opened sound begins fun plays => ?_
      rcases starts with ⟨scripts, _⟩ | ⟨_, stopped⟩
      · exact scripts
      · exact absurd stopped plays

theorem callUp {chronicle : Chronicle} (faithful : chronicle.Faithful) (place : Nat) :
    { chronicle with performance := chronicle.performance.callUp place }.Faithful := by
  rw [Performance.callUp_eq]
  have ordered := chronicle.performance.callUp_perm place
  refine faithful.goesOn rfl rfl (List.append_nil _).symm nofun ?_
  intro opening live
  refine ⟨live.epoch, live.config, live.ids, ?_, ?_, live.silent⟩
  · intro plays key member
    apply live.started plays key
    simp only [keys, tasks, List.map_append, List.mem_append, List.mem_map] at member ⊢
    simpa only [ordered.mem_iff] using member
  · intro plays script member
    obtain ⟨task, standing, solo, listed, rest⟩ := live.follows plays script member
    refine ⟨task, standing, solo, ?_, rest⟩
    simp only [roster, List.mem_append, List.mem_map] at listed ⊢
    simpa only [ordered.mem_iff] using listed

theorem turn {chronicle : Chronicle} (faithful : chronicle.Faithful) (sound : chronicle.Sound)
    (place : Nat) : (chronicle.take (.turn place)).Faithful := by
  have called := faithful.callUp place
  have calledSound := sound.callUp place
  show Chronicle.Faithful (Chronicle.act _)
  generalize { chronicle with performance := chronicle.performance.callUp place } = next
    at called calledSound
  cases line : next.performance.ready with
  | nil =>
      rw [act_nil line]
      exact called
  | cons task others =>
      exact (called.acted calledSound line).settles (calledSound.acted line)
        (calledSound.act_settles line)

/-- The scripts that are followed wake up together with the scripts that follow them. -/
theorem clock {chronicle : Chronicle} (faithful : chronicle.Faithful) {time : Nat}
    (onTime : (Move.clock time).OnTime chronicle.performance) :
    (chronicle.take (.clock time)).Faithful := by
  obtain ⟨nobody, early⟩ := onTime
  refine faithful.goesOn rfl rfl (List.append_nil _).symm nofun ?_
  intro opening live
  refine ⟨live.epoch, live.config, live.ids, ?_, ?_, live.silent⟩
  · intro plays key member
    apply live.started plays key
    simp only [keys, tasks, take, Performance.wakeAt, nobody, List.nil_append, List.mem_map,
      List.mem_append, List.mem_filter] at member ⊢
    obtain ⟨task, (⟨waiter, ⟨inside, _⟩, rfl⟩ | ⟨waiter, ⟨inside, _⟩, rfl⟩) | ended, rfl⟩ := member
    · exact ⟨waiter.task, Or.inl ⟨waiter, inside, rfl⟩, rfl⟩
    · exact ⟨waiter.task, Or.inl ⟨waiter, inside, rfl⟩, rfl⟩
    · exact ⟨task, Or.inr ended, rfl⟩
  · intro plays script member
    exact (live.follows plays script member).clock nobody early

theorem take {chronicle : Chronicle} (faithful : chronicle.Faithful) (sound : chronicle.Sound)
    {move : Move} (onTime : move.OnTime chronicle.performance) :
    (chronicle.take move).Faithful := by
  cases move with
  | amend amendment => exact faithful.onStage (Stage.amend_steady _ amendment)
  | play => exact faithful.settles sound sound.play_settles
  | stop => exact faithful.settles sound sound.stop_settles
  | turn place => exact faithful.turn sound place
  | clock time => exact faithful.clock onTime

/-- Every chronicle on time of a stage that was set up is faithful. -/
theorem follow {project : Project} {hosted : Bool} {stage : Stage}
    (built : Stage.ofProject project hosted = .ok stage) {moves : List Move}
    (onTime : (Chronicle.create stage).OnTime moves) :
    ((Chronicle.create stage).follow moves).Faithful := by
  have kept := onTime_induction (fun chronicle => chronicle.Sound ∧ chronicle.Faithful)
    (fun chronicle move holds now => ⟨holds.1.take move, holds.2.take holds.1 now⟩) moves _
    ⟨.create (Stage.ofProject_numbered built), .create (Stage.ofProject_epoch built)⟩ onTime
  exact kept.2

/-- The opening of an epoch stands in its place. -/
theorem opening {chronicle : Chronicle} (faithful : chronicle.Faithful) {earlier : Nat}
    (begun : earlier < chronicle.stage.epoch) :
    ∃ opening, chronicle.openings[earlier]? = some opening ∧
      opening.stage.epoch = earlier + 1 := by
  have counted := congrArg (fun epochs => epochs[earlier]?) faithful.counted
  simp only [List.getElem?_map, List.getElem?_range' begun, Option.map_eq_some_iff] at counted
  obtain ⟨opening, here, epoch⟩ := counted
  exact ⟨opening, here, by omega⟩

end Faithful

/-- Until the next epoch began, or until now, each epoch has been rendered. -/
theorem Faithful.rendered {chronicle : Chronicle} (faithful : chronicle.Faithful) {earlier : Nat}
    {opening : Opening} (here : chronicle.openings[earlier]? = some opening) :
    chronicle.Rendered opening
      ((chronicle.openings[earlier + 1]?.map Opening.time).getD chronicle.performance.now) := by
  cases there : chronicle.openings[earlier + 1]? with
  | some next => exact (faithful.past earlier opening next here there).2
  | none =>
      have last : chronicle.openings.getLast? = some opening := by
        have inside : earlier < chronicle.openings.length :=
          (List.getElem?_eq_some_iff.mp here).choose
        have outside : chronicle.openings.length ≤ earlier + 1 :=
          List.getElem?_eq_none_iff.mp there
        have place : chronicle.openings.length - 1 = earlier := by omega
        rw [List.getLast?_eq_getElem?, place]
        exact here
      exact (faithful.live opening last).rendered

/-- Whatever is done with a stage, and in whatever order its scripts have their turns: every move
delivers what it puts on the board and publishes, and nothing else. As long as the clock passes
nobody by, every epoch has its opening. If it began with a play or a swap, each sprite that had
blocks then receives what its script would display on its own, later by the time at which the epoch
began, up to some moment and at least all that is due before the end of the epoch; and all other
sprites receive nothing. The clock of a performance that serves requests passes nobody by. -/
theorem refines_solos {project : Project} {hosted : Bool} {stage : Stage}
    (built : Stage.ofProject project hosted = .ok stage) :
    (∀ moves move, let before := (create stage).follow moves
      before.Delivers (before.take move) move) ∧
    (∀ moves, (create stage).OnTime moves →
      let chronicle := (create stage).follow moves
      ∀ earlier < chronicle.stage.epoch,
        let next := chronicle.openings[earlier + 1]?
        let limit := (next.map Opening.time).getD chronicle.performance.now
        ∃ opening, chronicle.openings[earlier]? = some opening ∧
          opening.stage.epoch = earlier + 1 ∧
          (opening.cause ≠ .stop →
            (∀ sprite ∈ opening.stage.sprites, sprite.blocks ≠ [] →
              let received := chronicle.received opening.stage.epoch sprite.id
              let alone := Solo.alone opening.stage.config sprite.pose sprite.blocks 0
              (∃ solo, alone.Reaches solo ∧ received = delayed opening.time solo.updates.toList) ∧
                ∀ solo, alone.Reaches solo → ∀ (place : Nat) (entry : Nat × Update),
                  solo.updates.toList[place]? = some entry → opening.time + entry.1 < limit →
                    received[place]? = some (opening.time + entry.1, entry.2)) ∧
            ∀ id, (∀ sprite ∈ opening.stage.sprites, sprite.id = id → sprite.blocks = []) →
              chronicle.received opening.stage.epoch id = [])) ∧
      ∀ requests later, (Performance.create stage).serveAll requests = some later →
        ∃ moves, (create stage).OnTime moves ∧
          ((create stage).follow moves).performance = later := by
  refine ⟨fun moves move => take_delivers _ move, ?_, ?_⟩
  · intro moves onTime chronicle earlier begun next limit
    have faithful : chronicle.Faithful := Faithful.follow built onTime
    obtain ⟨opening, here, epoch⟩ := faithful.opening begun
    refine ⟨opening, here, epoch, fun starts => ?_⟩
    obtain ⟨scripts, others⟩ := faithful.rendered here starts
    constructor
    · intro sprite member some
      exact scripts ⟨sprite.id, sprite.pose, sprite.blocks⟩
        (Stage.mem_snapshots.mpr ⟨sprite, member, some, rfl⟩)
    · intro id none
      refine others id fun listed => ?_
      obtain ⟨script, snapshot, rfl⟩ := List.mem_map.mp listed
      obtain ⟨sprite, member, some, rfl⟩ := Stage.mem_snapshots.mp snapshot
      exact some (none sprite member rfl)
  · intro requests later serves
    exact serveAll_onTime (Performance.create_punctual stage) serves

/-- Two sprites that walk. -/
def walkers : Project :=
  let walking : SpriteDefinition :=
    { name := none, x := none, y := none, direction := 90, blocks := [⟨.moveSteps, .empty⟩] }
  { sprites := [walking, walking] }

/-- A play that begins at the time 5 and is stopped during the second frame of the walks. The second
sprite walks first, and the first one is dragged away before its second frame. -/
def interruptedWalk : List Move :=
  [.clock 5, .play, .turn 1, .turn 0, .turn 0, .turn 0, .turn 0, .turn 0,
    .amend (.moveSprite ⟨"sprite-1"⟩ 7 7), .clock 21, .turn 1, .turn 0, .turn 0, .turn 0,
    .clock 30, .stop]

theorem refines_solos_walkers :
    ∃ stage, Stage.ofProject walkers true = .ok stage ∧
      (create stage).OnTime interruptedWalk ∧
      let chronicle := (create stage).follow interruptedWalk
      chronicle.deliveries.map (fun delivery => (delivery.time, delivery.sprite.text)) =
        [(5, "sprite-2"), (5, "sprite-1"), (21, "sprite-1"), (21, "sprite-2")] ∧
      (∀ moves move, ((create stage).follow moves).Delivers (((create stage).follow moves).take move) move) ∧
      ∃ opening, chronicle.openings[0]? = some opening ∧ opening.time = 5 ∧
        opening.stage.sprites.map (fun sprite => sprite.blocks.length) = [1, 1] ∧
        ∀ sprite ∈ opening.stage.sprites, sprite.blocks ≠ [] →
          ∃ solo, (Solo.alone opening.stage.config sprite.pose sprite.blocks 0).Reaches solo ∧
            chronicle.received opening.stage.epoch sprite.id =
              delayed opening.time solo.updates.toList := by
  obtain ⟨stage, built⟩ : ∃ stage, Stage.ofProject walkers true = .ok stage := ⟨_, rfl⟩
  have whole : stage = walkers.sprites.foldl Stage.addDefinedSprite (.bare walkers.config) :=
    (Except.ok.inj built).symm
  have onTime : (create stage).OnTime interruptedWalk := by
    subst whole
    decide +kernel
  have begun : 0 < ((create stage).follow interruptedWalk).stage.epoch := by
    subst whole
    decide +kernel
  obtain ⟨delivers, renders, _⟩ := refines_solos built
  obtain ⟨opening, first, _, renders⟩ := renders _ onTime 0 begun
  obtain ⟨time, plays, blocks⟩ : opening.time = 5 ∧ opening.cause ≠ .stop ∧
      opening.stage.sprites.map (fun sprite => sprite.blocks.length) = [1, 1] := by
    subst whole
    cases first
    decide
  refine ⟨stage, built, onTime, ?_, delivers, opening, first, time, blocks, ?_⟩
  · subst whole
    decide +kernel
  · intro sprite member some
    exact ((renders plays).1 sprite member some).1

end Chronicle

end SpriteStage
