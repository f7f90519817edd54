import Playfield.Draw.Command
import Playfield.Scene

/-!
Trails: the last positions of the objects that leave one.

A recorder is fed with the resolved objects of every frame. An object that is not resolved on a
frame keeps its positions; one that no longer leaves a trail loses them.
-/

namespace Playfield

/-- The positions of each object with a trail, oldest first. -/
structure TrailRecorder where
  history : IdMap (List Vec2)
  deriving DecidableEq

namespace TrailRecorder

/-- A trail lies this far below its object. -/
def layerOffset : Float32 := 0.5

def fresh : TrailRecorder := ⟨.empty⟩

def isEmpty (r : TrailRecorder) : Bool :=
  r.history.isEmpty

/-- The positions of an object, oldest first. -/
def points (r : TrailRecorder) (id : String) : List Vec2 :=
  (r.history.get? id).getD []

/-- Whether an id stands for an object that leaves a trail. -/
def leavesTrail (scene : Scene) (id : String) : Bool :=
  ((scene.find? id).bind (·.activeTrail?)).isSome

/-- Forget the objects that leave no trail in a scene. -/
def retain (r : TrailRecorder) (scene : Scene) : TrailRecorder :=
  ⟨r.history.filter fun id _ => leavesTrail scene id⟩

/-- The last `length` of some positions and a new one. -/
def extend (points : List Vec2) (new : Vec2) (length : Nat) : List Vec2 :=
  let all := points ++ [new]
  all.drop (all.length - length)

/-- The command for the trail of an object through some positions. -/
def command (o : SceneObject) (style : TrailStyle) (points : List Vec2) : DrawCommand where
  objectId := o.id
  figure := .trail points style.color style.width
  opacity := style.opacity
  layer := o.layer - layerOffset

/-- Record one object, after the commands of those before it. -/
def recordObject (resolved : String → Option Vec2) (done : TrailRecorder × List DrawCommand)
    (o : SceneObject) : TrailRecorder × List DrawCommand :=
  match o.activeTrail?, resolved o.id with
  | some style, some position =>
    let points := extend (done.1.points o.id) position style.length
    (⟨done.1.history.insert o.id points⟩, done.2 ++ [command o style points])
  | _, _ => done

/-- Record the positions of a frame, and draw the trails of the objects resolved on it. -/
def record (r : TrailRecorder) (scene : Scene) (resolved : String → Option Vec2) :
    TrailRecorder × List DrawCommand :=
  scene.objects.foldl (recordObject resolved) (r.retain scene, [])

end TrailRecorder

end Playfield
