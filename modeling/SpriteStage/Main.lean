/-
Module: SpriteStage.Main
Purpose: The program. Reads the project that the command line names, plays it, and prints the record
  of every sprite.
-/
import SpriteStage.Headless

namespace SpriteStage

/-- Opens the file at a path. -/
def openFile (path : String) : IO FileContents := do
  try
    let contents ← IO.FS.readBinFile path
    return .bytes contents.data.toList
  catch error =>
    match error with
    | .noFileOrDirectory .. => return .missing
    | .inappropriateType .. => return .directory
    | other => return .unopened (toString other)

/-- The whole program: exit code 0 if the project was played, 1 if it could not be, 2 for a command
line that cannot be understood. -/
def runProgram (pieces : List String) : IO UInt32 := do
  match Options.parse pieces with
  | .error .help =>
    IO.println "Usage: sprite-stage [--seconds <SECONDS>] [PROJECT]"
    return 0
  | .error .version =>
    IO.println "sprite-stage 0.1.0"
    return 0
  | .error misuse =>
    IO.eprintln "Usage: sprite-stage [--seconds <SECONDS>] [PROJECT]"
    return misuse.exitCode.toUInt32
  | .ok options =>
    let contents ← match options.path with
      | some path => openFile path
      | none => pure .missing
    match options.run contents with
    | .error error =>
      IO.eprintln error.message
      return 1
    | .ok none =>
      IO.eprintln "a script goes round without letting time pass"
      return 1
    | .ok (some report) =>
      for line in report.lines do
        IO.println line
      return 0

end SpriteStage

/-- Entry point. -/
def main (pieces : List String) : IO UInt32 := SpriteStage.runProgram pieces
