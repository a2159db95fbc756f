/-
Module: SpriteStage.CommandLine
Purpose: The command line. The command line has one optional argument, the path of a project, and
  one option, `--seconds`, with a value that stands in the next argument or behind an equals sign.
  Everything behind `--` is an argument. A value is judged only when the next known flag or the end
  of the line is reached, so that an unknown flag wins over a bad value right before it.
Main exports: Options, Misuse, Misuse.exitCode, Options.parse
-/
import SpriteStage.Decimal.Numeral

namespace SpriteStage

/-- What was asked for. -/
structure Options where
  path : Option String := none
  /-- How long to play. -/
  seconds : Float := 5

/-- Why there is nothing to play. -/
inductive Misuse where
  | help
  | version
  /-- The length is no number. -/
  | badValue
  /-- There is no value where one is needed. -/
  | missingValue
  /-- A flag has a value and takes none. -/
  | surplusValue
  /-- An option is given twice. -/
  | conflict
  | unknown
deriving DecidableEq, Repr

/-- Asking for help or for the version is no failure. -/
def Misuse.exitCode : Misuse → Nat
  | .help | .version => 0
  | _ => 2

namespace Options

/-- A value that was not judged yet. -/
inductive Pending where
  | nothing
  /-- The length, or the option without its value. -/
  | seconds (value : Option String)
  | path (value : String)
deriving DecidableEq, Repr

/-- What is known of the command line so far. -/
structure Draft where
  seconds : Option Float := none
  path : Option String := none
  pending : Pending := .nothing
  /-- Whether `--` was seen. -/
  argumentsOnly : Bool := false

namespace Draft

/-- Takes the value of `--seconds`. -/
def setSeconds (draft : Draft) (value : String) : Except Misuse Draft :=
  if draft.seconds.isSome then .error .conflict
  else
    match Numeral.ofChars? value.toList with
    | some numeral => .ok { draft with seconds := some numeral.toFloat }
    | none => .error .badValue

/-- Judges the value that is pending. -/
def resolve (draft : Draft) : Except Misuse Draft :=
  let settled := { draft with pending := .nothing }
  match draft.pending with
  | .nothing => .ok draft
  | .seconds none => .error .missingValue
  | .seconds (some value) => settled.setSeconds value
  | .path value =>
    if value = "" then .error .missingValue else .ok { settled with path := some value }

/-- Whether a path was given. -/
def hasPath (draft : Draft) : Bool :=
  draft.path.isSome || match draft.pending with
    | .path _ => true
    | _ => false

/-- Takes an argument that is no flag. -/
def argument (draft : Draft) (text : String) : Except Misuse Draft :=
  if draft.hasPath then .error .unknown
  else do
    let draft ← draft.resolve
    return { draft with pending := .path text }

/-- Takes a flag that begins with two dashes, given without them. -/
def longFlag (draft : Draft) (text : List Char) : Except Misuse Draft :=
  let name := String.ofList (text.takeWhile (· ≠ '='))
  match text.dropWhile (· ≠ '=') with
  | [] =>
    if name = "seconds" then do
      let draft ← draft.resolve
      return { draft with pending := .seconds none }
    else if name = "help" then do
      let _ ← draft.resolve
      .error .help
    else if name = "version" then do
      let _ ← draft.resolve
      .error .version
    else .error .unknown
  | _ :: value =>
    if name = "seconds" then do
      let draft ← draft.resolve
      draft.setSeconds (String.ofList value)
    else if name = "help" ∨ name = "version" then .error .surplusValue
    else .error .unknown

/-- Takes a flag that begins with one dash, given by the letter behind it. -/
def shortFlag (draft : Draft) (letter : Char) : Except Misuse Draft :=
  if letter = 'h' then do
    let _ ← draft.resolve
    .error .help
  else if letter = 'V' then do
    let _ ← draft.resolve
    .error .version
  else .error .unknown

/-- Takes one piece of the command line. -/
def take (draft : Draft) (text : String) : Except Misuse Draft :=
  if draft.argumentsOnly then draft.argument text
  else
    match text.toList with
    | ['-', '-'] => .ok { draft with argumentsOnly := true }
    | '-' :: '-' :: flag => draft.longFlag flag
    | '-' :: letter :: _ => draft.shortFlag letter
    | _ =>
      match draft.pending with
      | .seconds none => .ok { draft with pending := .seconds (some text) }
      | _ => draft.argument text

end Draft

/-- Reads a command line. -/
def parse (pieces : List String) : Except Misuse Options := do
  let draft ← pieces.foldlM Draft.take {}
  let draft ← draft.resolve
  return { path := draft.path, seconds := draft.seconds.getD 5 }

end Options

end SpriteStage
