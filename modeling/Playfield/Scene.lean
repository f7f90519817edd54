import Playfield.Court
import Playfield.Scene.Object
import Playfield.Scene.Script
import Playfield.Settings

/-!
Scenes: objects in the order of their declaration, what is scripted for them, and the canvas.
-/

namespace Playfield

/-- A scene. -/
structure Scene where
  background : Option String := none
  width : Option Float32 := none
  height : Option Float32 := none
  fps : Option Float32 := none
  objects : List SceneObject := []
  events : List Event := []
  keyframes : List Keyframe := []
  /-- The court whose coordinates the script uses. -/
  court : Option Court := none
  deriving DecidableEq

namespace Scene

/-- The first object with an id. -/
def find? (scene : Scene) (id : String) : Option SceneObject :=
  scene.objects.find? fun o => o.id == id

def contains (scene : Scene) (id : String) : Bool :=
  (scene.find? id).isSome

/-- The agents in the order of their declaration. -/
def agents (scene : Scene) : List SceneObject :=
  scene.objects.filter (·.isAgent)

/-- A positive finite number, or the fallback. -/
def positiveOr (value : Option Float32) (fallback : Float32) : Float32 :=
  Binary32.sanitize value fallback fun v => 0 < v

/-- The size of the canvas; the settings stand in for what is absent or not positive. -/
def canvas (scene : Scene) (settings : Settings) : Vec2 :=
  ⟨positiveOr scene.width settings.width, positiveOr scene.height settings.height⟩

/-- Frames in a second; the settings stand in for a rate that is absent or not positive. -/
def frameRate (scene : Scene) (settings : Settings) : Float32 :=
  positiveOr scene.fps settings.fps

end Scene

end Playfield
