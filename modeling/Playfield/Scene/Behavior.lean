import Playfield.Vec2

/-!
What an agent can be told to do: steering behaviors with their parameters, each with a weight.
-/

namespace Playfield

/-- What a behavior steers by: an object, found by its id on every frame, or a fixed point. -/
inductive Target where
  | object (id : String)
  | point (position : Vec2)
  deriving DecidableEq

/-- A region of the canvas. A rectangle lies around its center. -/
inductive Zone where
  | rect (center : Vec2) (size : Vec2)
  | circle (center : Vec2) (radius : Float32)
  deriving DecidableEq

/-- A steering behavior. An absent parameter takes its default where it is used. -/
inductive Behavior where
  | seek (target : Target)
  | flee (target : Target) (radius : Option Float32)
  | arrive (target : Target) (slowRadius : Option Float32)
  | pursue (agent : String)
  | evade (agent : String) (radius : Option Float32)
  | wander (strength speed : Option Float32)
  | separate (radius : Option Float32)
  | align (radius : Option Float32)
  | cohere (radius : Option Float32)
  | followPath (path : List Vec2) (looped : Bool)
  | maintainZone (zone : Zone)
  | guard (agent : String)
  | defendZone (zone : Zone)
  | fastBreak (target : Target)
  | setScreen (handler : String) (offset : Option Vec2)
  /-- A behavior of a kind that is not known. It steers nothing. -/
  | unknown
  deriving DecidableEq

/-- A behavior and the weight of its force. -/
structure WeightedBehavior where
  behavior : Behavior
  weight : Float32
  deriving DecidableEq

/-- The weight of a behavior that names none. -/
def defaultWeight : Float32 := 1

/-- A behavior with the default weight. -/
def Behavior.plain (behavior : Behavior) : WeightedBehavior :=
  ⟨behavior, defaultWeight⟩

end Playfield
