import Playfield.Scene.Object

/-!
Draw commands: figures with everything decided, ready for a renderer.

A command says where its figure stands in pixels and in which colors; it holds no formula and
nothing that refers to the scene. Commands are drawn in the order of their layers.
-/

namespace Playfield

open Formula (Color)

/-- Fill and outline of a drawn figure. -/
structure Brush where
  fill : Color
  stroke : Color
  strokeWidth : Float32
  deriving DecidableEq

/-- What is drawn. -/
inductive Figure where
  | ellipse (position size : Vec2) (brush : Brush)
  | rect (position size : Vec2) (brush : Brush) (borderRadius : Float32)
  | line (position final : Vec2) (stroke : Color) (strokeWidth : Float32)
  | text (position : Vec2) (content : String) (fontSize : Float32) (fontFamily : String)
      (fill : Color) (align : Align)
  | arc (position radii : Vec2) (startAngle endAngle : Float32) (counterclockwise : Bool)
      (brush : Brush)
  /-- The last positions of an object, oldest first. -/
  | trail (points : List Vec2) (color : String) (width : Float32)
  deriving DecidableEq

/-- A figure of an object on a layer. -/
structure DrawCommand where
  objectId : String
  figure : Figure
  opacity : Float32
  layer : Float32
  deriving DecidableEq

namespace Figure

/-- Where a figure stands. A trail stands nowhere in particular. -/
def position? : Figure → Option Vec2
  | .ellipse position _ _ | .rect position _ _ _ | .line position _ _ _ | .text position _ _ _ _ _
  | .arc position _ _ _ _ _ => some position
  | .trail _ _ _ => none

def isTrail : Figure → Bool
  | .trail _ _ _ => true
  | _ => false

end Figure

namespace DrawCommand

/-- Whether one command may be drawn before another. -/
def below (a b : DrawCommand) : Bool :=
  Binary32.rank a.layer ≤ Binary32.rank b.layer

/-- Sort commands by layer; those of one layer stay in their order. -/
def sortByLayer (commands : List DrawCommand) : List DrawCommand :=
  commands.mergeSort below

end DrawCommand

/-- A visible object as it was resolved on a frame. -/
structure ResolvedObject where
  id : String
  kind : String
  position : Vec2
  opacity : Float32
  layer : Float32
  deriving DecidableEq

/-- The visible objects of a frame. -/
abbrev ResolvedObjects := IdMap ResolvedObject

end Playfield
