import Playfield.Clock
import Playfield.Draw.Trail
import Playfield.Frame
import Playfield.Scene.Decode

/-!
Sessions: a scene that is edited and stepped.

A session owns a scene, the states of its agents, their trails and the number of the next frame.
Every step applies the cues of the frame, resolves it and keeps the states for the next one. An
edit of the objects may be refused; it checks what it is given before it changes anything.
-/

namespace Playfield

/-- Why an object is refused. -/
inductive SpecFault where
  | missingId
  | shape (error : Json.DecodeError)
  deriving DecidableEq, Repr

def SpecFault.message : SpecFault → String
  | .missingId => "object spec must include an id"
  | .shape error => error.message

/-- Why an operation on a session fails. -/
inductive SessionError where
  | duplicateId (id : String)
  | objectNotFound (id : String)
  | invalidSpec (fault : SpecFault)
  deriving DecidableEq, Repr

def SessionError.message : SessionError → String
  | .duplicateId id => "Object with id '" ++ id ++ "' already exists"
  | .objectNotFound id => "Object '" ++ id ++ "' not found"
  | .invalidSpec fault => "Invalid object spec: " ++ fault.message

/-- One frame as a renderer gets it. -/
structure StepOutput where
  frame : Nat
  t : Float32
  background : String
  /-- Those of the scene and of the trails, by layer. -/
  commands : List DrawCommand
  objects : ResolvedObjects
  deriving DecidableEq

/-- What a run of several frames comes to. -/
structure RunSummary where
  framesRun : Nat
  /-- The frame that comes next. -/
  endFrame : Nat
  /-- The objects as they were on the last frame of the run. -/
  objects : ResolvedObjects
  deriving DecidableEq

/-- A session. -/
structure Session where
  scene : Scene
  settings : Settings
  /-- The frame that the next step resolves. -/
  frame : Nat := 0
  states : AgentStates := .empty
  trails : TrailRecorder := .fresh
  deriving DecidableEq

namespace Session

def ofScene (scene : Scene) (settings : Settings) : Session :=
  { scene := scene, settings := settings }

/-- A session with an empty scene whose canvas is that of the settings. -/
def ofSettings (settings : Settings) : Session :=
  ofScene
    { background := some settings.background
      width := some settings.width
      height := some settings.height
      fps := some settings.fps }
    settings

/-! ### Editing -/

def object (s : Session) (id : String) : Except SessionError SceneObject :=
  match s.scene.find? id with
  | some o => .ok o
  | none => .error (.objectNotFound id)

/-- An object from JSON. -/
def decodeObject (spec : Json) : Except SessionError SceneObject :=
  match SceneObject.decode spec with
  | .ok o => .ok o
  | .error error => .error (.invalidSpec (.shape error))

/-- A change to a session that comes to a result or is refused. It leaves a session either way. -/
abbrev Edits (α : Type) : Type := ExceptT SessionError (StateM Session) α

/-- Make a change: what it comes to or why it is refused, and the session after it. -/
def Edits.perform (edit : Edits α) (s : Session) : Except SessionError α × Session :=
  edit.run.run s

/-- Append an object. The result is how many there are then. -/
def add (o : SceneObject) : Edits Nat := do
  if o.id.isEmpty then
    throw (.invalidSpec .missingId)
  if (← get).scene.contains o.id then
    throw (.duplicateId o.id)
  modify fun s => { s with scene := { s.scene with objects := s.scene.objects ++ [o] } }
  return (← get).scene.objects.length

/-- Replace the first object with an id by another, which takes its place and its id. -/
def replaceFirst (id : String) (o : SceneObject) : List SceneObject → List SceneObject
  | [] => []
  | first :: rest =>
    if first.id == id then { o with id := id } :: rest else first :: replaceFirst id o rest

/-- Replace an object. It keeps its place and its id, whatever id the new one has. -/
def set (id : String) (o : SceneObject) : Edits Unit := do
  unless (← get).scene.contains id do
    throw (.objectNotFound id)
  modify fun s => { s with scene := { s.scene with objects := replaceFirst id o s.scene.objects } }

/-- Remove an object, which is the result, with its state and its trail. -/
def delete (id : String) : Edits SceneObject := do
  let some o := (← get).scene.find? id | throw (.objectNotFound id)
  modify fun s =>
    { s with scene := { s.scene with objects := s.scene.objects.eraseP fun p => p.id == id } }
  modify fun s => { s with states := s.states.erase id }
  modify fun s => { s with trails := s.trails.retain s.scene }
  return o

/-- Back to frame zero: no agent has a state, no object a trail. -/
def reset (s : Session) : Session :=
  ofScene s.scene s.settings

/-- Go over to another scene and start anew. -/
def replaceScene (s : Session) (scene : Scene) : Session :=
  ofScene scene s.settings

def setEvents (s : Session) (events : List Event) : Session :=
  { s with scene := { s.scene with events := events } }

def setKeyframes (s : Session) (keyframes : List Keyframe) : Session :=
  { s with scene := { s.scene with keyframes := keyframes } }

/-- How many agents have keyframes. -/
def keyframedAgents (s : Session) : Nat :=
  (Cue.group s.scene.keyframes).size

/-! ### Stepping -/

def background (s : Session) : String :=
  s.scene.background.getD s.settings.background

/-- The frame that comes next, and the canvas for it. -/
def context (s : Session) : FrameContext where
  frame := s.frame
  t := Binary32.ofNat s.frame / s.scene.frameRate s.settings
  canvas := s.scene.canvas s.settings
  seed := s.settings.seed

variable {m : Type → Type} [Monad m] [Resolving m]

/-- The next frame as it would be resolved now. The session stays as it is. -/
def previewM (s : Session) : m Frame := do
  let states ← Cue.applyAllM s.scene s.context s.states
  Frame.resolveOrderedM (Order.dependencyOrder s.scene.objects) s.context states

@[inherit_doc previewM]
def preview (s : Session) : Frame :=
  Id.run s.previewM

/-- The session that goes on after a frame. -/
def past (s : Session) (f : Frame) : Session :=
  { s with frame := s.frame + 1, states := f.states }

/-- Resolve the next frame and go on to the one after it. -/
def advance (s : Session) : Frame × Session :=
  (s.preview, s.past s.preview)

/-- A frame for a renderer, its trails included, and the session that goes on after it. Trails come
first on their layer. -/
def render (s : Session) (f : Frame) : StepOutput × Session :=
  let (trails, trailCommands) :=
    s.trails.record s.scene fun id => (f.objects.get? id).map (·.position)
  ({ frame := s.frame
     t := s.context.t
     background := s.background
     commands := DrawCommand.sortByLayer (trailCommands ++ f.commands)
     objects := f.objects },
    { s.past f with trails := trails })

/-- Resolve the next frame for a renderer, trails included. -/
def stepM (s : Session) : m (StepOutput × Session) := do
  let f ← s.previewM
  return s.render f

@[inherit_doc stepM]
def step (s : Session) : StepOutput × Session :=
  Id.run s.stepM

/-- Resolve a number of frames without drawing them; the objects are those of the last one, or
those given where there is none. -/
def advanceByM : Nat → Session → ResolvedObjects → m (ResolvedObjects × Session)
  | 0, s, objects => return (objects, s)
  | n + 1, s, _ => do
    let f ← s.previewM
    advanceByM n (s.past f) f.objects

@[inherit_doc advanceByM]
def advanceBy (n : Nat) (s : Session) (objects : ResolvedObjects) : ResolvedObjects × Session :=
  Id.run (advanceByM n s objects)

/-- Run a number of frames within the limits of the settings, without drawing them. -/
def runM (s : Session) (requested : Option Nat) : m (RunSummary × Session) := do
  let n := s.settings.runFrames requested
  let (objects, after) ← advanceByM n s .empty
  return ({ framesRun := n, endFrame := after.frame, objects := objects }, after)

@[inherit_doc runM]
def run (s : Session) (requested : Option Nat) : RunSummary × Session :=
  Id.run (s.runM requested)

/-- Step a number of times; the output is that of the last step, or the one given. -/
def stepByM : Nat → Session → Option StepOutput → m (Option StepOutput × Session)
  | 0, s, last => return (last, s)
  | n + 1, s, _ => do
    let (output, after) ← s.stepM
    stepByM n after (some output)

@[inherit_doc stepByM]
def stepBy (n : Nat) (s : Session) (last : Option StepOutput) : Option StepOutput × Session :=
  Id.run (stepByM n s last)

/-! ### With a clock -/

/-- A clock for the frame rate of the scene. -/
def clock (s : Session) : Clock :=
  Clock.ofSettings (s.scene.frameRate s.settings) s.settings

/-- Let time pass on a clock and step once for every frame that it fires. The output is that of the
last step. -/
def tick (s : Session) (clock : Clock) (delta : Float32) : Option StepOutput × Session × Clock :=
  let (fired, clock) := clock.advance delta
  let (output, s) := stepBy fired s none
  (output, s, clock)

end Session

end Playfield
