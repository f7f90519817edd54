import Playfield.Random
import Playfield.Resolving
import Playfield.Scene

/-!
What an agent carries from frame to frame, and what it starts with.
-/

namespace Playfield

/-- The state of an agent between two frames. -/
structure AgentState where
  position : Vec2
  velocity : Vec2 := Vec2.zero
  /-- The heading of its wandering, in radians. -/
  wanderAngle : Float32 := 0
  /-- The waypoint that it is heading for. -/
  pathIndex : Nat := 0
  /-- Behaviors that stand in for its own until an event changes them. -/
  behaviorOverride : Option (List WeightedBehavior) := none
  /-- The place where a keyframe puts it on this frame only. -/
  keyframe : Option Vec2 := none
  deriving DecidableEq

/-- The states of the agents by id. -/
abbrev AgentStates := IdMap AgentState

/-- The frame that is resolved, and the canvas that it is resolved for. -/
structure FrameContext where
  frame : Nat
  /-- Seconds since frame zero. -/
  t : Float32
  canvas : Vec2
  seed : UInt64
  deriving DecidableEq

/-! ### Random streams -/

/-- A number for an id, from its bytes one after the other. -/
def streamOf (id : String) : UInt64 :=
  id.toUTF8.toList.foldl (fun h b => (h ^^^ b.toUInt64) * 0x00000100000001b3) 0xcbf29ce484222325

/-- The seed of an agent's random stream on a frame. -/
def frameSeed (seed frame : UInt64) (id : String) : UInt64 :=
  seed ^^^ ((frame + 1) * 0x9E3779B97F4A7C15) ^^^ streamOf id

/-- The seed of the random stream from which an agent takes its first heading. -/
def spawnSeed (seed : UInt64) (id : String) : UInt64 :=
  seed ^^^ streamOf id

/-- The random stream of an agent on a frame. The same agent on the same frame always draws the
same numbers. -/
def frameRandom (seed : UInt64) (frame : Nat) (id : String) : Random :=
  Random.ofSeed (frameSeed seed frame.toUInt64 id)

/-! ### The first state -/

namespace AgentState

/-- What formulas see when an agent appears: frame zero, whatever the frame is now, so that it lands
where it would have been from the start. -/
def spawnScope (ctx : FrameContext) : Formula.Scope where
  frame := 0
  t := 0
  width := ctx.canvas.x
  height := ctx.canvas.y
  objects := .empty
  parent := none

/-- The velocity that an agent starts with: none unless both parts are finite. -/
def spawnVelocity (agent : Agent) : Vec2 :=
  let v : Vec2 := ⟨agent.vx.getD 0, agent.vy.getD 0⟩
  if v.isFinite then v else Vec2.zero

/-- The state in which an object starts at a position. -/
def startAt (o : SceneObject) (ctx : FrameContext) (position : Vec2) : AgentState where
  position := position
  velocity :=
    match o.agent? with
    | some agent => spawnVelocity agent
    | none => Vec2.zero
  wanderAngle := (Random.ofSeed (spawnSeed ctx.seed o.id)).nextUnit.1 * Binary32.tau

variable {m : Type → Type} [Monad m] [Resolving m]

/-- The state in which an object starts. -/
def spawnM (o : SceneObject) (ctx : FrameContext) : m AgentState := do
  let x ← Formula.settleNumberM o.x 0 (spawnScope ctx)
  let y ← Formula.settleNumberM o.y 0 (spawnScope ctx)
  return startAt o ctx ⟨x, y⟩

@[inherit_doc spawnM]
def spawn (o : SceneObject) (ctx : FrameContext) : AgentState :=
  Id.run (spawnM o ctx)

/-- The state that there is, or the one in which an object starts. -/
def orSpawnM (state : Option AgentState) (o : SceneObject) (ctx : FrameContext) : m AgentState :=
  match state with
  | some s => return s
  | none => spawnM o ctx

end AgentState

end Playfield
