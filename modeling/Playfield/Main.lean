import Playfield.Json.Writer
import Playfield.Request
import Playfield.Session.Encode
import Playfield.Stage

/-!
The command line: load a scene, run it and print what it comes to as JSON.
-/

namespace Playfield

/-- Read a file, and from it a value of some type. -/
def loadFile (load : String → Except LoadError α) (file : String) : IO α := do
  match load (← IO.FS.readFile file) with
  | .ok value => return value
  | .error e => throw (IO.userError e.message)

/-- Step a number of times, and print every frame on a line of its own. -/
def printFrames : Nat → Stage → IO Unit
  | 0, _ => pure ()
  | n + 1, stage => do
    let (output, after) := stage.step
    IO.println output.encode.compact
    printFrames n after

/-- Do what a request asks for. -/
def Request.perform (request : Request) : IO Unit := do
  let loaded : Settings ←
    match request.settings with
    | some file => loadFile Settings.ofText file
    | none => pure {}
  let settings : Settings :=
    match request.seed with
    | some seed => { loaded with seed := seed.toUInt64 }
    | none => loaded
  let stage := Stage.ofScene (← loadFile Scene.ofText request.scene) settings
  if request.commands then
    printFrames (settings.runFrames request.frames) stage
  else
    let summary := (stage.run request.frames).1.encode
    IO.println (if request.pretty then summary.pretty else summary.compact)

end Playfield

open Playfield in
/-- Run the command line: 0 for success, 1 for a run that fails, 2 for a call that asks for
nothing. -/
def main (arguments : List String) : IO UInt32 := do
  match Request.ofArguments arguments with
  | .error e =>
    IO.eprintln e.message
    IO.eprintln Request.usage
    return 2
  | .ok request =>
    try
      request.perform
      return 0
    catch e =>
      IO.eprintln s!"playfield: {e}"
      return 1
