/-
Module: SpriteStage.Arguments
Purpose: Named arguments. The arguments of a block, one value per name. Setting a name again
  replaces its value in place, and merging an update sets its names one after another, so that the
  later value wins.
Main exports: Arguments, Arguments.get?, Arguments.set, Arguments.merge
-/
import SpriteStage.Value

namespace SpriteStage

/-- Values by name, in the order in which the names first came up. -/
structure Arguments where
  entries : List (String × Value)
deriving DecidableEq, Repr

namespace Arguments

/-- No arguments. -/
def empty : Arguments := ⟨[]⟩

/-- The value of the first entry with a name. -/
def getEntry (name : String) : List (String × Value) → Option Value
  | [] => none
  | entry :: rest => if entry.1 = name then some entry.2 else getEntry name rest

/-- The value of a name. -/
def get? (arguments : Arguments) (name : String) : Option Value :=
  getEntry name arguments.entries

/-- The entries with `name` set to `value`. -/
def setEntry (name : String) (value : Value) : List (String × Value) → List (String × Value)
  | [] => [(name, value)]
  | entry :: rest =>
    if entry.1 = name then (name, value) :: rest else entry :: setEntry name value rest

/-- Gives `name` the value `value`. -/
def set (arguments : Arguments) (name : String) (value : Value) : Arguments :=
  ⟨setEntry name value arguments.entries⟩

/-- Sets every name of the update. -/
def merge (arguments update : Arguments) : Arguments :=
  update.entries.foldl (fun merged entry => merged.set entry.1 entry.2) arguments

theorem getEntry_setEntry (name : String) (value : Value) (entries : List (String × Value))
    (asked : String) :
    getEntry asked (setEntry name value entries) =
      if asked = name then some value else getEntry asked entries := by
  induction entries with
  | nil => grind [setEntry, getEntry]
  | cons entry rest inner => grind [setEntry, getEntry]

/-- A name has the value it was last given. -/
theorem get?_set (arguments : Arguments) (name : String) (value : Value) (asked : String) :
    (arguments.set name value).get? asked =
      if asked = name then some value else arguments.get? asked :=
  getEntry_setEntry name value arguments.entries asked

end Arguments

end SpriteStage
