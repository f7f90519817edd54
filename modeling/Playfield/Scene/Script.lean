import Playfield.Scene.Behavior

/-!
What a scene has scripted in advance: events that change what agents do, and keyframes that put
them at a place. Their coordinates are those of the scene's court, or of the canvas without one.
-/

namespace Playfield

/-- What an event does when its frame comes. -/
inductive EventKind where
  /-- The ball stays with an agent. -/
  | possession (agent : String) (ball : Option String)
  /-- The ball flies to an agent. -/
  | pass (sender : Option String) (receiver : String) (ball : Option String)
  /-- The ball flies to a place. Without both coordinates nothing happens. -/
  | shot (shooter : Option String) (x y : Option Float32) (ball : Option String)
  /-- Every agent comes to rest. -/
  | timeout
  /-- An agent gets other behaviors. -/
  | behavior (agent : String) (behaviors : List WeightedBehavior)
  /-- An agent, or every one, goes back to its own behaviors. -/
  | release (agent : Option String)
  /-- An event of another kind, which moves nobody. -/
  | other
  deriving DecidableEq

/-- An event on a frame. -/
structure Event where
  frame : Nat
  kind : EventKind
  deriving DecidableEq

/-- The exact place of an agent on a frame. -/
structure Keyframe where
  frame : Nat
  agent : String
  position : Vec2
  deriving DecidableEq

end Playfield
