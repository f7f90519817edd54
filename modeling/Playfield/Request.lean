import Playfield.Binary32.Decimal

/-!
What a call on the command line asks for: a file with a scene, how many frames to run it, and
options. An option may stand anywhere, its value after it or behind an equals sign.
-/

namespace Playfield

/-- A run of a scene in a file. -/
structure Request where
  scene : String
  /-- The frames to run; the settings decide where the number is left open. -/
  frames : Option Nat := none
  /-- A file with settings. -/
  settings : Option String := none
  /-- A seed in place of that of the settings. -/
  seed : Option Nat := none
  /-- Print what is drawn on every frame instead of a summary. -/
  commands : Bool := false
  /-- Print the summary over several lines. -/
  pretty : Bool := false
  deriving DecidableEq, Repr

/-- Why a command line asks for nothing. -/
inductive UsageError where
  | missingScene
  | missingValue (option : String)
  | invalidNumber (text : String)
  | unexpectedArgument (argument : String)
  deriving DecidableEq, Repr

def UsageError.message : UsageError → String
  | .missingScene => "a scene file is required"
  | .missingValue option => "a value is required for '" ++ option ++ "'"
  | .invalidNumber text => "invalid number '" ++ text ++ "'"
  | .unexpectedArgument argument => "unexpected argument '" ++ argument ++ "'"

namespace Request

def usage : String :=
  "usage: playfield SCENE [FRAMES] [--settings FILE] [--seed SEED] [--commands] [--pretty]"

/-- A number written in digits, below a bound. -/
def number (bound : Nat) (text : String) : Except UsageError Nat :=
  let digits := text.toList
  let n := Numeral.digitsValue digits
  if digits.isEmpty || !digits.all Char.isDigit || bound ≤ n then .error (.invalidNumber text)
  else .ok n

/-- The arguments with every value on its own, for options that take one. -/
def separate (arguments : List String) : List String :=
  arguments.flatMap fun argument =>
    if argument.startsWith "--settings=" then ["--settings", (argument.drop 11).toString]
    else if argument.startsWith "--seed=" then ["--seed", (argument.drop 7).toString]
    else [argument]

/-- The scene and the frames, in this order, around the options read so far. -/
def ofPlain (options : Request) : List String → Except UsageError Request
  | [] => .error .missingScene
  | [scene] => .ok { options with scene := scene }
  | [scene, frames] =>
    match number UInt32.size frames with
    | .error e => .error e
    | .ok n => .ok { options with scene := scene, frames := some n }
  | _ :: _ :: extra :: _ => .error (.unexpectedArgument extra)

/-- Read arguments on top of the options read so far; `plain` holds those that belong to no option,
most recent first. -/
def read (options : Request) (plain : List String) : List String → Except UsageError Request
  | [] => ofPlain options plain.reverse
  | "--commands" :: rest => read { options with commands := true } plain rest
  | "--pretty" :: rest => read { options with pretty := true } plain rest
  | "--settings" :: file :: rest => read { options with settings := some file } plain rest
  | "--seed" :: text :: rest =>
    match number UInt64.size text with
    | .error e => .error e
    | .ok seed => read { options with seed := some seed } plain rest
  | argument :: rest =>
    if argument = "--settings" || argument = "--seed" then .error (.missingValue argument)
    else if argument.startsWith "-" then .error (.unexpectedArgument argument)
    else read options (argument :: plain) rest

/-- The request of a command line. -/
def ofArguments (arguments : List String) : Except UsageError Request :=
  read { scene := "" } [] (separate arguments)

end Request

end Playfield
