import Playfield.Agent.State

/-!
Steering: from what an agent is told to do to the force on it.

Each behavior gives a force from the state of the agent and what it steers by. Wandering and
following a path also change the state, and wandering draws a random number. `steeringForce` adds
the weighted forces up. Agents see each other as they were when the frame began.
-/

namespace Playfield

variable {m : Type → Type} [Monad m] [Resolving m]

/-! ### Parameters -/

/-- What bounds the motion of an agent. -/
structure AgentParams where
  mass : Float32 := 1
  maxSpeed : Float32 := 4
  maxForce : Float32 := 0.3
  damping : Float32 := 1
  deriving DecidableEq

/-- The parameters of an agent; the default stands in for a value that makes no sense. -/
def Agent.params (agent : Agent) : AgentParams :=
  let defaults : AgentParams := {}
  { mass := Binary32.sanitize agent.mass defaults.mass fun m => 0 < m
    maxSpeed := Binary32.sanitize agent.maxSpeed defaults.maxSpeed fun s => 0 ≤ s
    maxForce := Binary32.sanitize agent.maxForce defaults.maxForce fun f => 0 ≤ f
    damping := Binary32.sanitize agent.damping defaults.damping fun d => 0 ≤ d }

/-- Where arriving ends. -/
def arriveDistance : Float32 := 1
def defaultSlowRadius : Float32 := 60
def guardSlowRadius : Float32 := 20
def screenSlowRadius : Float32 := 8
def possessionSlowRadius : Float32 := 6
def defaultSeparateRadius : Float32 := 30
def defaultNeighborRadius : Float32 := 50
def defaultWanderStrength : Float32 := 0.4
def defaultWanderSpeed : Float32 := 1
/-- How far ahead the circle lies on which a wandering agent picks its goal. -/
def wanderDistance : Float32 := 40
def wanderRadius : Float32 := 30
/-- How near a waypoint must be to count as reached. -/
def waypointRadius : Float32 := 20

/-! ### What an agent sees -/

/-- What the behaviors of one agent can see. -/
structure SteeringContext where
  id : String
  params : AgentParams
  /-- The agents as they were when the frame began. -/
  snapshot : AgentStates
  /-- The objects resolved so far on this frame. -/
  objects : Formula.Published

namespace SteeringContext

/-- The position of an id: of the agent, or else of the object resolved with both coordinates. -/
def position? (ctx : SteeringContext) (id : String) : Option Vec2 :=
  match ctx.snapshot.get? id with
  | some state => some state.position
  | none => do
    let fields ← ctx.objects.get? id
    return ⟨← fields.get? "x", ← fields.get? "y"⟩

def target? (ctx : SteeringContext) : Target → Option Vec2
  | .point position => some position
  | .object id => ctx.position? id

def agent? (ctx : SteeringContext) (id : String) : Option AgentState :=
  ctx.snapshot.get? id

/-- The other agents in the order of their ids. -/
def others (ctx : SteeringContext) : List AgentState :=
  (ctx.snapshot.entries.filter fun entry => entry.1 != ctx.id).map (·.2)

end SteeringContext

/-! ### Forces towards and away from a point -/

namespace Steering

/-- Head for a point at full speed. -/
def seek (s : AgentState) (target : Vec2) (maxSpeed : Float32) : Vec2 :=
  (target - s.position).direction * maxSpeed - s.velocity

/-- Whether a point lies beyond a radius, if there is one. -/
def outOfReach (s : AgentState) (target : Vec2) (radius : Option Float32) : Bool :=
  radius.any fun r => r < s.position.distance target

/-- Head away from a point, unless it is out of reach. -/
def flee (s : AgentState) (target : Vec2) (maxSpeed : Float32) (radius : Option Float32) : Vec2 :=
  if outOfReach s target radius then Vec2.zero
  else (s.position - target).direction * maxSpeed - s.velocity

/-- Head for a point, slower and slower inside a radius, and no more once there. -/
def arrive (s : AgentState) (target : Vec2) (maxSpeed slowRadius : Float32) : Vec2 :=
  let d := s.position.distance target
  if d < arriveDistance then Vec2.zero
  else
    let speed := if d < slowRadius then maxSpeed * (d / slowRadius) else maxSpeed
    (target - s.position).direction * speed - s.velocity

/-- Where another agent will be by the time this one could be there. -/
def predict (s target : AgentState) (maxSpeed : Float32) : Vec2 :=
  let time := s.position.distance target.position / (maxSpeed + 0.001)
  target.position + target.velocity * time

def pursue (s target : AgentState) (maxSpeed : Float32) : Vec2 :=
  seek s (predict s target maxSpeed) maxSpeed

def evade (s target : AgentState) (maxSpeed : Float32) (radius : Option Float32) : Vec2 :=
  if outOfReach s target.position radius then Vec2.zero
  else flee s (predict s target maxSpeed) maxSpeed none

/-! ### Forces from neighbors -/

/-- Steer away from neighbors that are too close, the closest counting most. -/
def separate (s : AgentState) (neighbors : List AgentState) (radius maxSpeed : Float32) : Vec2 :=
  let close := neighbors.filter fun other =>
    let d := s.position.distance other.position
    0 < d && d < radius
  if close.isEmpty then Vec2.zero
  else
    let away := close.foldl (fun sum other =>
      sum + (s.position - other.position).direction / s.position.distance other.position) Vec2.zero
    (away / Binary32.ofNat close.length).direction * maxSpeed - s.velocity

/-- The neighbors within a radius. -/
def within (s : AgentState) (neighbors : List AgentState) (radius : Float32) : List AgentState :=
  neighbors.filter fun other => s.position.distance other.position < radius

/-- The mean of a list that is not empty, added up in order. -/
def mean (vectors : List Vec2) : Vec2 :=
  vectors.foldl (· + ·) Vec2.zero / Binary32.ofNat vectors.length

/-- Take the heading that the neighbors have on average. -/
def align (s : AgentState) (neighbors : List AgentState) (radius maxSpeed : Float32) : Vec2 :=
  let near := within s neighbors radius
  if near.isEmpty then Vec2.zero
  else (mean (near.map (·.velocity))).direction * maxSpeed - s.velocity

/-- Head for the middle of the neighbors. -/
def cohere (s : AgentState) (neighbors : List AgentState) (radius maxSpeed : Float32) : Vec2 :=
  let near := within s neighbors radius
  if near.isEmpty then Vec2.zero
  else seek s (mean (near.map (·.position))) maxSpeed

/-! ### Wandering, paths and zones -/

/-- Turn the heading by a random angle, and head for the point at that angle on a circle ahead. -/
def wander (s : AgentState) (strength speed maxSpeed : Float32) (random : Random) :
    Vec2 × AgentState × Random :=
  let (u, random) := random.nextUnit
  let turned := { s with wanderAngle := s.wanderAngle + (u - 0.5) * strength }
  let ahead : Vec2 := turned.position + turned.velocity.direction * wanderDistance
  let target : Vec2 := ahead + Vec2.ofAngle turned.wanderAngle * wanderRadius
  (seek turned target (maxSpeed * speed), turned, random)

/-- The waypoint to head for from waypoint `i`: the next one once it is reached, and after the last
the first again if the path is a loop. -/
def nextWaypointM (s : AgentState) (first : Vec2) (rest : List Vec2) (looped : Bool) (i : Nat) :
    m Nat := do
  let current ← Resolving.waypoint first rest i
  if s.position.distance current < waypointRadius then
    let next ← Resolving.successor (first :: rest).length i
    return if next ≤ rest.length then next else if looped then 0 else rest.length
  else return i

@[inherit_doc nextWaypointM]
def nextWaypoint (s : AgentState) (first : Vec2) (rest : List Vec2) (looped : Bool) (i : Nat) :
    Nat :=
  Id.run (nextWaypointM s first rest looped i)

/-- Head for the current waypoint. An index from a longer path counts as the last waypoint. -/
def followPathM (s : AgentState) (path : List Vec2) (looped : Bool) (maxSpeed : Float32) :
    m (Vec2 × AgentState) :=
  match path with
  | [] => return (Vec2.zero, s)
  | first :: rest => do
    let i ← nextWaypointM s first rest looped (min s.pathIndex rest.length)
    let heading := { s with pathIndex := i }
    let target ← Resolving.waypoint first rest i
    return (seek heading target maxSpeed, heading)

@[inherit_doc followPathM]
def followPath (s : AgentState) (path : List Vec2) (looped : Bool) (maxSpeed : Float32) :
    Vec2 × AgentState :=
  Id.run (followPathM s path looped maxSpeed)

end Steering

/-- The point of a zone to head for from outside it; none inside. From outside a circle that is its
center. -/
def Zone.nearest? (zone : Zone) (position : Vec2) : Option Vec2 :=
  match zone with
  | .circle center radius =>
    if radius < position.distance center then some center else none
  | .rect center size =>
    let half := size / (2 : Float32)
    let low := center - half
    let high := center + half
    let inside := low.x ≤ position.x && low.y ≤ position.y &&
      position.x ≤ high.x && position.y ≤ high.y
    if inside then none else some (position.clamp low high)

/-- Head back to a zone from outside it. -/
def Steering.maintainZone (s : AgentState) (zone : Zone) (maxSpeed : Float32) : Vec2 :=
  match zone.nearest? s.position with
  | some target => seek s target maxSpeed
  | none => Vec2.zero

/-! ### All behaviors of an agent -/

/-- An agent while its behaviors are worked through: its state and its random stream. -/
structure Steered where
  state : AgentState
  random : Random
  deriving DecidableEq

/-- The force of a behavior and the agent after it. There is none where what it steers by cannot be
found. -/
def Steering.forceM? (behavior : Behavior) (ctx : SteeringContext) (a : Steered) :
    m (Option Vec2 × Steered) :=
  let s := a.state
  let maxSpeed := ctx.params.maxSpeed
  match behavior with
  | .seek target | .fastBreak target =>
    return ((ctx.target? target).map fun p => seek s p maxSpeed, a)
  | .flee target radius => return ((ctx.target? target).map fun p => flee s p maxSpeed radius, a)
  | .arrive target slowRadius =>
    return ((ctx.target? target).map fun p =>
      arrive s p maxSpeed (slowRadius.getD defaultSlowRadius), a)
  | .pursue agent => return ((ctx.agent? agent).map fun other => pursue s other maxSpeed, a)
  | .evade agent radius =>
    return ((ctx.agent? agent).map fun other => evade s other maxSpeed radius, a)
  | .wander strength speed =>
    let (force, state, random) := wander s (strength.getD defaultWanderStrength)
      (speed.getD defaultWanderSpeed) maxSpeed a.random
    return (some force, ⟨state, random⟩)
  | .separate radius =>
    return (some (separate s ctx.others (radius.getD defaultSeparateRadius) maxSpeed), a)
  | .align radius =>
    return (some (align s ctx.others (radius.getD defaultNeighborRadius) maxSpeed), a)
  | .cohere radius =>
    return (some (cohere s ctx.others (radius.getD defaultNeighborRadius) maxSpeed), a)
  | .followPath path looped => do
    let (force, state) ← followPathM s path looped maxSpeed
    return (some force, { a with state := state })
  | .maintainZone zone | .defendZone zone => return (some (maintainZone s zone maxSpeed), a)
  | .guard agent =>
    return ((ctx.agent? agent).map fun other => arrive s other.position maxSpeed guardSlowRadius, a)
  | .setScreen handler offset =>
    return ((ctx.agent? handler).map fun other =>
      arrive s (other.position + offset.getD Vec2.zero) maxSpeed screenSlowRadius, a)
  | .unknown => return (none, a)

@[inherit_doc Steering.forceM?]
def Steering.force? (behavior : Behavior) (ctx : SteeringContext) (a : Steered) :
    Option Vec2 × Steered :=
  Id.run (forceM? behavior ctx a)

/-- Add the weighted force of one behavior. A force or a weight that is not finite is left out. -/
def addForceM (ctx : SteeringContext) (sum : Vec2 × Steered) (b : WeightedBehavior) :
    m (Vec2 × Steered) := do
  match ← Steering.forceM? b.behavior ctx sum.2 with
  | (some force, a) =>
    return (if force.isFinite && b.weight.isFinite then sum.1 + force * b.weight else sum.1, a)
  | (none, a) => return (sum.1, a)

@[inherit_doc addForceM]
def addForce (ctx : SteeringContext) (sum : Vec2 × Steered) (b : WeightedBehavior) :
    Vec2 × Steered :=
  Id.run (addForceM ctx sum b)

/-- The force of all behaviors together, no larger than the agent can bear, and the agent after
them. -/
def steeringForceM (behaviors : List WeightedBehavior) (ctx : SteeringContext) (a : Steered) :
    m (Vec2 × Steered) := do
  let (total, a) ← behaviors.foldlM (addForceM ctx) (Vec2.zero, a)
  return (total.clampLength ctx.params.maxForce, a)

@[inherit_doc steeringForceM]
def steeringForce (behaviors : List WeightedBehavior) (ctx : SteeringContext) (a : Steered) :
    Vec2 × Steered :=
  Id.run (steeringForceM behaviors ctx a)

end Playfield
