/-
Module: SpriteStage.Journal
Purpose: Journals. A journal only grows at its end. It knows its size, and gives back whatever was
  written after a given size, so that a reader who remembers the size at the last look misses
  nothing.
Main exports: Journal, Journal.push, Journal.toList, Journal.since
-/

namespace SpriteStage

/-- Entries in the order in which they were written; the newest stands first inside. -/
structure Journal (α : Type) where
  newestFirst : List α
  size : Nat
  size_eq : size = newestFirst.length

namespace Journal

/-- A journal without entries. -/
def empty : Journal α := ⟨[], 0, rfl⟩

instance : Inhabited (Journal α) := ⟨empty⟩

/-- Writes one more entry. -/
def push (journal : Journal α) (entry : α) : Journal α :=
  ⟨entry :: journal.newestFirst, journal.size + 1, by simp [journal.size_eq]⟩

/-- All entries, the oldest first. -/
def toList (journal : Journal α) : List α := journal.newestFirst.reverse

/-- The entries written after the journal had a given size, the oldest first. -/
def since (journal : Journal α) (size : Nat) : List α :=
  (journal.newestFirst.take (journal.size - size)).reverse

@[simp] theorem toList_empty : (empty : Journal α).toList = [] := rfl

@[simp] theorem toList_push (journal : Journal α) (entry : α) :
    (journal.push entry).toList = journal.toList ++ [entry] := by
  simp [toList, push]

theorem size_eq_length (journal : Journal α) : journal.size = journal.toList.length := by
  simp [toList, journal.size_eq]

/-- What was written since a size is what is left of all entries behind that many. -/
theorem since_eq_drop (journal : Journal α) (size : Nat) :
    journal.since size = journal.toList.drop size := by
  simp [since, toList, List.drop_reverse, journal.size_eq]

end Journal

end SpriteStage
