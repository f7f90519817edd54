import Playfield.Binary32.Elementary

/-!
Vectors of the plane in single precision. Every operation works on the two components one by one,
in the order written here, since rounding makes the order visible.
-/

namespace Playfield

/-- A point or a displacement. -/
structure Vec2 where
  x : Float32
  y : Float32
  deriving DecidableEq

namespace Vec2

def zero : Vec2 := ⟨0, 0⟩

instance : Inhabited Vec2 := ⟨zero⟩

def add (a b : Vec2) : Vec2 := ⟨a.x + b.x, a.y + b.y⟩
def sub (a b : Vec2) : Vec2 := ⟨a.x - b.x, a.y - b.y⟩
def neg (a : Vec2) : Vec2 := ⟨-a.x, -a.y⟩
def scale (a : Vec2) (s : Float32) : Vec2 := ⟨a.x * s, a.y * s⟩
def divide (a : Vec2) (s : Float32) : Vec2 := ⟨a.x / s, a.y / s⟩

instance : Add Vec2 := ⟨add⟩
instance : Sub Vec2 := ⟨sub⟩
instance : Neg Vec2 := ⟨neg⟩
instance : HMul Vec2 Float32 Vec2 := ⟨scale⟩
instance : HDiv Vec2 Float32 Vec2 := ⟨divide⟩

def length (a : Vec2) : Float32 :=
  (a.x * a.x + a.y * a.y).sqrt

def distance (a b : Vec2) : Float32 :=
  (a - b).length

def isFinite (a : Vec2) : Bool :=
  a.x.isFinite && a.y.isFinite

/-- The vector of length one in the same direction, or zero where there is no direction to speak
of. -/
def direction (a : Vec2) : Vec2 :=
  let inverse := 1 / a.length
  if inverse.isFinite && 0 < inverse then a * inverse else zero

/-- The vector of length one at an angle in radians. -/
def ofAngle (angle : Float32) : Vec2 :=
  ⟨Binary32.cos angle, Binary32.sin angle⟩

/-- The weighted mean of two points, `a` at weight zero and `b` at weight one. -/
def lerp (a b : Vec2) (weight : Float32) : Vec2 :=
  a * (1 - weight) + b * weight

/-- The nearest point of the box between two corners; the upper corner wins where they cross. -/
def clamp (a low high : Vec2) : Vec2 :=
  let component (v low high : Float32) : Float32 :=
    let raised := if v > low then v else low
    if raised < high then raised else high
  ⟨component a.x low.x high.x, component a.y low.y high.y⟩

/-- Shorten a vector to a length that it exceeds. -/
def clampLength (a : Vec2) (limit : Float32) : Vec2 :=
  let length := a.length
  if limit < length && 0 < length then a * (limit / length) else a

end Vec2

/-- Bring a coordinate that left `[0, extent]` back by whole extents. Without a positive extent
there is nothing to come back to. -/
def wrapCoordinate (value extent : Float32) : Float32 :=
  if extent ≤ 0 then value
  else if 0 ≤ value && value ≤ extent then value
  else Binary32.remEuclid value extent

end Playfield
