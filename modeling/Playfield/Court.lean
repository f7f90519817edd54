import Playfield.Vec2

/-!
Courts and the way from their coordinates to the canvas.

A court is measured in feet from its center, `x` along its length and `y` across, up being positive.
The canvas is measured in pixels from its top left corner, down being positive.
-/

namespace Playfield

/-- A scaling around the domain's origin, turned upside down if `flipY`, and a shift:
`canvas = origin + domain * scale`. -/
structure Transform where
  scale : Float32
  origin : Vec2
  flipY : Bool
  deriving DecidableEq

namespace Transform

def identity : Transform :=
  ⟨1, Vec2.zero, false⟩

def apply (t : Transform) (p : Vec2) : Vec2 :=
  t.origin + (⟨p.x, if t.flipY then -p.y else p.y⟩ : Vec2) * t.scale

/-- The way back; a scale of zero leads to the origin. -/
def invert (t : Transform) (p : Vec2) : Vec2 :=
  if t.scale == 0 then Vec2.zero
  else
    let d := (p - t.origin) / t.scale
    if t.flipY then ⟨d.x, -d.y⟩ else d

end Transform

inductive CourtVariant where
  | full | half
  deriving DecidableEq, Repr

/-- A court of some sport. -/
structure Court where
  sport : String := "basketball"
  variant : CourtVariant := .full
  deriving DecidableEq

namespace Court

/-- The part of the canvas that stays free around a court, both sides together, in pixels. -/
def padding : Float32 := 40
def fullLength : Float32 := 94
def width : Float32 := 50
/-- From the center of the court to the basket. -/
def basketX : Float32 := 41.75
/-- How far the middle of a half court lies from the center of the whole. -/
def halfShift : Float32 := 23.5

def length (c : Court) : Float32 :=
  match c.variant with
  | .full => fullLength
  | .half => fullLength / 2

/-- Pixels in a foot, so that the court fits the canvas in both directions. -/
def scale (c : Court) (canvas : Vec2) : Float32 :=
  Binary32.min ((canvas.x - padding) / c.length) ((canvas.y - padding) / width)

/-- The way from a court to a canvas of some size. -/
def transform (c : Court) (canvas : Vec2) : Transform :=
  let scale := c.scale canvas
  let originX :=
    match c.variant with
    | .full => canvas.x / 2
    | .half => canvas.x / 2 - halfShift * scale
  ⟨scale, ⟨originX, canvas.y / 2⟩, true⟩

end Court

/-- The basket at which a shot is taken. -/
inductive CourtSide where
  | right | left
  deriving DecidableEq, Repr

/-- The place on the court of a shot recorded in tenths of a foot from its basket. -/
def CourtSide.shotPosition (side : CourtSide) (x y : Float32) : Vec2 :=
  let position : Vec2 := ⟨Court.basketX - y / 10, x / 10⟩
  match side with
  | .right => position
  | .left => -position

end Playfield
