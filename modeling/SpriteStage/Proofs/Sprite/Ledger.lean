/-
Module: SpriteStage.Proofs.Sprite.Ledger
Purpose: The ledger of all blocks. An entry says that a block was created, removed or updated, and nothing
  else ever becomes of a block. If every change of the blocks that are held goes into the ledger, then the
  ledger accounts for them: which ones they are, what they were created as, and all of their arguments.
Main exports: Arguments.lastGiven, Arguments.get?_overlay, Entry, Holdings, Holdings.Change,
  Holdings.Account, Holdings.Account.change, Holdings.Account.get?_arguments
-/
import Mathlib.Data.List.Induction
import SpriteStage.Proofs.Sprite.BlockEdits

namespace SpriteStage

/-! ## The last value of a name -/

namespace Arguments

/-- The last value that some entries give to a name. -/
def lastGiven (name : String) (entries : List (String × Value)) : Option Value :=
  (entries.filter fun entry => entry.1 = name).getLast?.map Prod.snd

theorem lastGiven_append (name : String) (first second : List (String × Value)) :
    lastGiven name (first ++ second) = (lastGiven name second).or (lastGiven name first) := by
  unfold lastGiven
  rw [List.filter_append, List.getLast?_append, Option.map_or]

theorem lastGiven_singleton (name : String) (entry : String × Value) :
    lastGiven name [entry] = if name = entry.1 then some entry.2 else none := by
  by_cases here : entry.1 = name
  · simp [lastGiven, here]
  · simp [lastGiven, here, Ne.symm here]

/-- After an update a name has the last value that the update gives to it, or else the one from before. -/
theorem get?_merge (arguments update : Arguments) (name : String) :
    (arguments.merge update).get? name =
      (lastGiven name update.entries).or (arguments.get? name) := by
  obtain ⟨entries⟩ := update
  unfold merge
  induction entries using List.reverseRecOn with
  | nil => rfl
  | append_singleton entries entry earlier =>
      rw [List.foldl_append, List.foldl_cons, List.foldl_nil, get?_set, earlier, lastGiven_append,
        lastGiven_singleton]
      split
      · rfl
      · rfl

/-- After some updates, one over the other, a name has the last value that any of them gives to it. -/
theorem get?_overlay (arguments : Arguments) (updates : List Arguments) (name : String) :
    (updates.foldl merge arguments).get? name =
      (lastGiven name (updates.flatMap entries)).or (arguments.get? name) := by
  induction updates generalizing arguments with
  | nil => rfl
  | cons update rest later =>
      rw [List.foldl_cons, later, get?_merge, List.flatMap_cons, lastGiven_append, Option.or_assoc]

/-- If no name comes up twice, the first value of a name is also the last one. -/
theorem getEntry_eq_lastGiven {entries : List (String × Value)}
    (nodup : (entries.map Prod.fst).Nodup) (name : String) :
    getEntry name entries = lastGiven name entries := by
  induction entries with
  | nil => rfl
  | cons entry rest later =>
      rw [List.map_cons, List.nodup_cons] at nodup
      rw [getEntry, ← List.singleton_append, lastGiven_append, lastGiven_singleton]
      by_cases here : entry.1 = name
      · have behind : lastGiven name rest = none := by
          have others : (rest.filter fun entry => entry.1 = name) = [] := by
            apply List.filter_eq_nil_iff.mpr
            intro other member same
            apply nodup.1
            rw [here, ← of_decide_eq_true same]
            exact List.mem_map_of_mem member
          rw [lastGiven, others]
          rfl
        rw [if_pos here, if_pos here.symm, behind]
        rfl
      · rw [if_neg here, if_neg (Ne.symm here), Option.or_none]
        exact later nodup.2

end Arguments

/-- No opcode gives two defaults to one name. -/
theorem Opcode.defaults_nodup (opcode : Opcode) :
    (opcode.defaults.entries.map Prod.fst).Nodup := by
  cases opcode with
  | _ => simp [Opcode.defaults, Arguments.empty]

/-! ## Entries -/

section Concat

variable {α β : Type} {entry : α}

theorem filterMap_concat_of_none (f : α → Option β) (none : f entry = .none) (entries : List α) :
    (entries ++ [entry]).filterMap f = entries.filterMap f := by
  rw [List.filterMap_append, List.filterMap_cons_none none, List.filterMap_nil, List.append_nil]

theorem filterMap_concat_of_some (f : α → Option β) {value : β} (some : f entry = .some value)
    (entries : List α) :
    (entries ++ [entry]).filterMap f = entries.filterMap f ++ [value] := by
  rw [List.filterMap_append, List.filterMap_cons_some some, List.filterMap_nil]

end Concat

/-- What became of a block. -/
inductive Entry where
  /-- A new block, with the arguments that it was given over its defaults. -/
  | created (id : BlockId) (opcode : Opcode) (given : Arguments)
  | removed (id : BlockId)
  | updated (id : BlockId) (change : Arguments)
deriving DecidableEq, Repr

namespace Entry

/-- The block that the entry is about. -/
def id : Entry → BlockId
  | .created id _ _ | .removed id | .updated id _ => id

/-- The block that the entry creates. -/
def created? : Entry → Option BlockId
  | .created id _ _ => some id
  | .removed _ | .updated _ _ => none

/-- The block that the entry removes. -/
def removed? : Entry → Option BlockId
  | .removed id => some id
  | .created _ _ _ | .updated _ _ => none

/-- What the entry changes about a block. -/
def change? (block : BlockId) : Entry → Option Arguments
  | .updated id change => if id = block then some change else none
  | .created _ _ _ | .removed _ => none

theorem change?_updated_self (id : BlockId) (change : Arguments) :
    (updated id change).change? id = some change :=
  if_pos rfl

theorem change?_updated_of_ne {id block : BlockId} (other : block ≠ id) (change : Arguments) :
    (updated id change).change? block = none :=
  if_neg other.symm

theorem id_of_created? {entry : Entry} {id : BlockId} (creates : entry.created? = some id) :
    entry.id = id := by
  cases entry with
  | created => exact Option.some.inj creates
  | removed | updated => cases creates

theorem id_of_removed? {entry : Entry} {id : BlockId} (removes : entry.removed? = some id) :
    entry.id = id := by
  cases entry with
  | removed => exact Option.some.inj removes
  | created | updated => cases removes

theorem id_of_change? {entry : Entry} {id : BlockId} {change : Arguments}
    (changes : entry.change? id = some change) : entry.id = id := by
  cases entry with
  | updated other given =>
      dsimp only [change?] at changes
      split at changes
      · assumption
      · cases changes
  | created | removed => cases changes

end Entry

/-! ## Holdings -/

/-- All blocks that are held, in whatever order, and the supply that new ones come from. -/
structure Holdings where
  supply : BlockSupply
  held : List Block

namespace Holdings

/-- What can become of the blocks that are held, and the entries that it goes into the ledger with. -/
inductive Change (before : Holdings) : List Entry → Holdings → Prop where
  | nothing : Change before [] before
  | creation (opcode : Opcode) (given : Arguments) :
      Change before [.created ⟨before.supply.next⟩ opcode given]
        ⟨⟨before.supply.next + 1⟩,
          before.held ++ [⟨⟨before.supply.next⟩, opcode, opcode.defaults.merge given⟩]⟩
  | removal (id : BlockId) (known : id ∈ before.held.map Block.id) :
      Change before [.removed id]
        { before with held := before.held.filter fun block => block.id ≠ id }
  | update (id : BlockId) (change : Arguments) (known : id ∈ before.held.map Block.id) :
      Change before [.updated id change]
        { before with held := before.held.map fun block =>
            if block.id = id then block.update change else block }

/-- The ledger accounts for the blocks that are held. -/
structure Account (holdings : Holdings) (ledger : List Entry) : Prop where
  nodup : (holdings.held.map Block.id).Nodup
  /-- Nothing is known about a block before it is created. -/
  supplied : ∀ entry ∈ ledger, entry.id.number < holdings.supply.next
  fresh : (ledger.filterMap Entry.created?).Nodup
  balance : ∀ id, id ∈ holdings.held.map Block.id ↔
    id ∈ ledger.filterMap Entry.created? ∧ id ∉ ledger.filterMap Entry.removed?
  origin : ∀ block ∈ holdings.held, ∃ given, .created block.id block.opcode given ∈ ledger ∧
    block.arguments = (ledger.filterMap (Entry.change? block.id)).foldl Arguments.merge
      (block.opcode.defaults.merge given)

/-- A new stock holds nothing. -/
theorem Account.empty : Account ⟨.fresh, []⟩ [] := by
  constructor
  case nodup =>
    exact List.nodup_nil
  case supplied =>
    exact fun _ member => nomatch member
  case fresh =>
    exact List.nodup_nil
  case balance =>
    intro id
    simp
  case origin =>
    exact fun _ member => nomatch member

/-- It does not matter in which order the blocks are held. -/
theorem Account.of_perm {supply : BlockSupply} {before after : List Block} {ledger : List Entry}
    (account : Account ⟨supply, before⟩ ledger) (same : after.Perm before) :
    Account ⟨supply, after⟩ ledger := by
  have ids : (after.map Block.id).Perm (before.map Block.id) := same.map _
  constructor
  case nodup =>
    exact ids.nodup_iff.mpr account.nodup
  case supplied =>
    exact account.supplied
  case fresh =>
    exact account.fresh
  case balance =>
    intro id
    rw [ids.mem_iff]
    exact account.balance id
  case origin =>
    intro block member
    exact account.origin block (same.mem_iff.mp member)

/-- The next block is one that the ledger knows nothing about. -/
theorem Account.unknown {holdings : Holdings} {ledger : List Entry}
    (account : holdings.Account ledger) {entry : Entry} (member : entry ∈ ledger) :
    entry.id ≠ ⟨holdings.supply.next⟩ := by
  intro same
  have less := account.supplied entry member
  rw [same] at less
  exact Nat.lt_irrefl _ less

theorem Account.supplied_of_known {holdings : Holdings} {ledger : List Entry}
    (account : holdings.Account ledger) {id : BlockId}
    (known : id ∈ holdings.held.map Block.id) : id.number < holdings.supply.next := by
  obtain ⟨entry, member, creates⟩ := List.mem_filterMap.mp ((account.balance id).mp known).1
  rw [← Entry.id_of_created? creates]
  exact account.supplied entry member

/-- Whichever blocks the entries of the ledger name, the next one is not among them. -/
theorem Account.next_not_mem {holdings : Holdings} {ledger : List Entry}
    (account : holdings.Account ledger) {f : Entry → Option BlockId}
    (names : ∀ {entry id}, f entry = some id → entry.id = id) :
    ⟨holdings.supply.next⟩ ∉ ledger.filterMap f := by
  intro member
  obtain ⟨entry, inside, named⟩ := List.mem_filterMap.mp member
  exact account.unknown inside (names named)

/-- No block that is held has the number of the next one. -/
theorem Account.next_unheld {holdings : Holdings} {ledger : List Entry}
    (account : holdings.Account ledger) :
    ⟨holdings.supply.next⟩ ∉ holdings.held.map Block.id := by
  intro known
  exact account.next_not_mem Entry.id_of_created? ((account.balance _).mp known).1

theorem Account.creation {holdings : Holdings} {ledger : List Entry}
    (account : holdings.Account ledger) (opcode : Opcode) (given : Arguments) :
    Account ⟨⟨holdings.supply.next + 1⟩,
      holdings.held ++ [⟨⟨holdings.supply.next⟩, opcode, opcode.defaults.merge given⟩]⟩
      (ledger ++ [.created ⟨holdings.supply.next⟩ opcode given]) := by
  have uncreated := account.next_not_mem Entry.id_of_created?
  have unremoved := account.next_not_mem Entry.id_of_removed?
  have unchanged : ledger.filterMap (Entry.change? ⟨holdings.supply.next⟩) = [] := by
    apply List.filterMap_eq_nil_iff.mpr
    intro entry inside
    cases changes : entry.change? ⟨holdings.supply.next⟩ with
    | none => rfl
    | some change => exact absurd (Entry.id_of_change? changes) (account.unknown inside)
  have unheld := account.next_unheld
  constructor
  case nodup =>
    rw [List.map_append]
    exact account.nodup.append (List.nodup_singleton _) (List.disjoint_singleton.mpr unheld)
  case supplied =>
    intro entry member
    rcases List.mem_append.mp member with old | new
    · exact Nat.lt_succ_of_lt (account.supplied entry old)
    · rw [List.mem_singleton.mp new]
      exact Nat.lt_succ_self _
  case fresh =>
    rw [filterMap_concat_of_some Entry.created? rfl]
    exact account.fresh.append (List.nodup_singleton _) (List.disjoint_singleton.mpr uncreated)
  case balance =>
    intro id
    rw [filterMap_concat_of_some Entry.created? rfl, filterMap_concat_of_none Entry.removed? rfl,
      List.map_append, List.mem_append, List.mem_append, account.balance id]
    constructor
    · rintro (⟨created, kept⟩ | new)
      · exact ⟨Or.inl created, kept⟩
      · exact ⟨Or.inr new, List.mem_singleton.mp new ▸ unremoved⟩
    · rintro ⟨old | new, kept⟩
      · exact Or.inl ⟨old, kept⟩
      · exact Or.inr new
  case origin =>
    intro block member
    rw [filterMap_concat_of_none (Entry.change? block.id) rfl]
    rcases List.mem_append.mp member with old | new
    · obtain ⟨other, origin, arguments⟩ := account.origin block old
      exact ⟨other, List.mem_append_left _ origin, arguments⟩
    · rw [List.mem_singleton.mp new]
      refine ⟨given, List.mem_append_right _ (List.mem_singleton_self _), ?_⟩
      rw [unchanged]
      rfl

theorem Account.removal {holdings : Holdings} {ledger : List Entry}
    (account : holdings.Account ledger) {id : BlockId}
    (known : id ∈ holdings.held.map Block.id) :
    Account { holdings with held := holdings.held.filter fun block => block.id ≠ id }
      (ledger ++ [.removed id]) := by
  constructor
  case nodup =>
    exact account.nodup.sublist (List.filter_sublist.map _)
  case supplied =>
    intro entry member
    rcases List.mem_append.mp member with old | new
    · exact account.supplied entry old
    · rw [List.mem_singleton.mp new]
      exact account.supplied_of_known known
  case fresh =>
    rw [filterMap_concat_of_none Entry.created? rfl]
    exact account.fresh
  case balance =>
    intro other
    rw [filterMap_concat_of_none Entry.created? rfl, filterMap_concat_of_some Entry.removed? rfl,
      List.mem_append, not_or, List.mem_singleton, ← and_assoc, ← account.balance other]
    constructor
    · intro member
      obtain ⟨block, kept, rfl⟩ := List.mem_map.mp member
      obtain ⟨inside, different⟩ := List.mem_filter.mp kept
      exact ⟨List.mem_map_of_mem inside, of_decide_eq_true different⟩
    · rintro ⟨member, different⟩
      obtain ⟨block, inside, rfl⟩ := List.mem_map.mp member
      exact List.mem_map_of_mem (List.mem_filter.mpr ⟨inside, decide_eq_true different⟩)
  case origin =>
    intro block member
    obtain ⟨given, origin, arguments⟩ := account.origin block (List.mem_of_mem_filter member)
    rw [filterMap_concat_of_none (Entry.change? block.id) rfl]
    exact ⟨given, List.mem_append_left _ origin, arguments⟩

theorem Account.update {holdings : Holdings} {ledger : List Entry}
    (account : holdings.Account ledger) {id : BlockId} (change : Arguments)
    (known : id ∈ holdings.held.map Block.id) :
    Account { holdings with held := holdings.held.map fun block =>
        if block.id = id then block.update change else block }
      (ledger ++ [.updated id change]) := by
  have ids : (holdings.held.map fun block =>
      if block.id = id then block.update change else block).map Block.id =
        holdings.held.map Block.id := by
    rw [List.map_map]
    apply List.map_congr_left
    intro block _
    by_cases here : block.id = id <;> simp [here]
  constructor
  case nodup =>
    rw [ids]
    exact account.nodup
  case supplied =>
    intro entry member
    rcases List.mem_append.mp member with old | new
    · exact account.supplied entry old
    · rw [List.mem_singleton.mp new]
      exact account.supplied_of_known known
  case fresh =>
    rw [filterMap_concat_of_none Entry.created? rfl]
    exact account.fresh
  case balance =>
    intro other
    rw [ids, filterMap_concat_of_none Entry.created? rfl, filterMap_concat_of_none Entry.removed? rfl]
    exact account.balance other
  case origin =>
    intro block member
    obtain ⟨old, inside, rfl⟩ := List.mem_map.mp member
    obtain ⟨given, origin, arguments⟩ := account.origin old inside
    by_cases here : old.id = id
    · subst here
      rw [if_pos rfl, Block.update_id,
        filterMap_concat_of_some _ (Entry.change?_updated_self old.id change)]
      refine ⟨given, List.mem_append_left _ origin, ?_⟩
      rw [List.foldl_append]
      exact congrArg (Arguments.merge · change) arguments
    · rw [if_neg here, filterMap_concat_of_none _ (Entry.change?_updated_of_ne here change)]
      exact ⟨given, List.mem_append_left _ origin, arguments⟩

/-- Whatever becomes of the blocks, the ledger with its entries accounts for them. -/
theorem Account.change {before after : Holdings} {ledger entries : List Entry}
    (account : before.Account ledger) (change : before.Change entries after) :
    after.Account (ledger ++ entries) := by
  cases change with
  | nothing =>
      rw [List.append_nil]
      exact account
  | creation opcode given => exact account.creation opcode given
  | removal id known => exact account.removal known
  | update id change known => exact account.update change known

/-- The arguments of a block that is held: those that it was created with, over the defaults of its
opcode, and then those of all updates, of which the last one wins. -/
theorem Account.get?_arguments {holdings : Holdings} {ledger : List Entry}
    (account : holdings.Account ledger) {block : Block} (member : block ∈ holdings.held) :
    ∃ given, .created block.id block.opcode given ∈ ledger ∧ ∀ name,
      block.arguments.get? name = Arguments.lastGiven name
        (block.opcode.defaults.entries ++ given.entries ++
          (ledger.filterMap (Entry.change? block.id)).flatMap Arguments.entries) := by
  obtain ⟨given, origin, arguments⟩ := account.origin block member
  refine ⟨given, origin, ?_⟩
  intro name
  have first : block.opcode.defaults.get? name =
      Arguments.lastGiven name block.opcode.defaults.entries :=
    Arguments.getEntry_eq_lastGiven block.opcode.defaults_nodup name
  rw [arguments, Arguments.get?_overlay, Arguments.get?_merge, first, Arguments.lastGiven_append,
    Arguments.lastGiven_append]

end Holdings

end SpriteStage
