import Playfield.Formula.Animated
import Playfield.Scene.Behavior

/-!
The objects of a scene: figures to draw, groups that only hold a place, and agents that move.
-/

namespace Playfield

open Formula (Animated Color)

/-- A fading line through the last positions of an object. -/
structure TrailStyle where
  /-- How many positions it keeps; with none there is no trail. -/
  length : Nat
  color : String
  opacity : Float32
  width : Float32
  deriving DecidableEq

/-- Fill and outline of a figure. -/
structure Paint where
  fill : Option (Animated Color) := none
  stroke : Option (Animated Color) := none
  strokeWidth : Option Float32 := none
  deriving DecidableEq

structure Ellipse where
  width : Option (Animated Float32) := none
  height : Option (Animated Float32) := none
  paint : Paint := {}
  deriving DecidableEq

structure Rect where
  width : Option (Animated Float32) := none
  height : Option (Animated Float32) := none
  borderRadius : Option Float32 := none
  paint : Paint := {}
  deriving DecidableEq

structure Line where
  x2 : Option (Animated Float32) := none
  y2 : Option (Animated Float32) := none
  stroke : Option (Animated Color) := none
  strokeWidth : Option Float32 := none
  deriving DecidableEq

structure Arc where
  radiusX : Option (Animated Float32) := none
  radiusY : Option (Animated Float32) := none
  startAngle : Option (Animated Float32) := none
  endAngle : Option (Animated Float32) := none
  counterclockwise : Bool := false
  paint : Paint := {}
  deriving DecidableEq

inductive Align where
  | left | center | right
  deriving DecidableEq, Repr

structure Label where
  text : Option (Animated String) := none
  fontSize : Option Float32 := none
  fontFamily : Option String := none
  fill : Option (Animated Color) := none
  align : Align := .center
  deriving DecidableEq

/-- What happens to an agent that crosses the edge of the canvas. -/
inductive Edges where
  /-- It comes back at the opposite edge. -/
  | wrap
  /-- It moves on. -/
  | unbounded
  deriving DecidableEq, Repr

/-- An agent: how it looks, how it moves and what it does unless an event says otherwise. -/
structure Agent where
  width : Option (Animated Float32) := none
  height : Option (Animated Float32) := none
  paint : Paint := {}
  mass : Option Float32 := none
  maxSpeed : Option Float32 := none
  maxForce : Option Float32 := none
  damping : Option Float32 := none
  /-- The velocity that it starts with. -/
  vx : Option Float32 := none
  vy : Option Float32 := none
  edges : Edges := .unbounded
  behaviors : List WeightedBehavior := []
  deriving DecidableEq

/-- What an object is. -/
inductive ObjectKind where
  | ellipse (figure : Ellipse)
  | rect (figure : Rect)
  | line (figure : Line)
  | arc (figure : Arc)
  | text (figure : Label)
  | group
  | agent (agent : Agent)
  /-- A kind that is not known. It is never drawn. -/
  | unknown
  deriving DecidableEq

def ObjectKind.name : ObjectKind → String
  | .ellipse _ => "ellipse"
  | .rect _ => "rect"
  | .line _ => "line"
  | .arc _ => "arc"
  | .text _ => "text"
  | .group => "group"
  | .agent _ => "agent"
  | .unknown => "unknown"

/-- An object of a scene. -/
structure SceneObject where
  id : String
  parent : Option String := none
  x : Option (Animated Float32) := none
  y : Option (Animated Float32) := none
  opacity : Option (Animated Float32) := none
  visible : Option (Animated Bool) := none
  /-- Lower layers are drawn first. -/
  layer : Float32 := 0
  trail : Option TrailStyle := none
  kind : ObjectKind
  deriving DecidableEq

namespace SceneObject

def agent? (o : SceneObject) : Option Agent :=
  match o.kind with
  | .agent agent => some agent
  | _ => none

def isAgent (o : SceneObject) : Bool :=
  o.agent?.isSome

theorem isAgent_of_agent? {o : SceneObject} {agent : Agent} (is : o.agent? = some agent) :
    o.isAgent := by
  rw [isAgent, is, Option.isSome_some]

/-- The trail of an object, if it has one that keeps any position. -/
def activeTrail? (o : SceneObject) : Option TrailStyle :=
  o.trail.filter fun style => 0 < style.length

end SceneObject

end Playfield
