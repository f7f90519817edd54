import Playfield.Binary32

/-!
Elementary functions, computed in double precision and rounded once to single precision.

These are the only operations on numbers that rest on the machine; nothing is known of their
values in the logic, and nothing in the library depends on what they are.
-/

namespace Playfield.Binary32

def viaDouble (f : Float → Float) (x : Float32) : Float32 :=
  (f x.toFloat).toFloat32

def viaDouble₂ (f : Float → Float → Float) (x y : Float32) : Float32 :=
  (f x.toFloat y.toFloat).toFloat32

def sin : Float32 → Float32 := viaDouble Float.sin
def cos : Float32 → Float32 := viaDouble Float.cos
def tan : Float32 → Float32 := viaDouble Float.tan
def asin : Float32 → Float32 := viaDouble Float.asin
def acos : Float32 → Float32 := viaDouble Float.acos
def atan : Float32 → Float32 := viaDouble Float.atan
def atan2 : Float32 → Float32 → Float32 := viaDouble₂ Float.atan2
def exp : Float32 → Float32 := viaDouble Float.exp
def log : Float32 → Float32 := viaDouble Float.log
def pow : Float32 → Float32 → Float32 := viaDouble₂ Float.pow

/-- The length of the hypotenuse: squares and their sum keep all that matters in double
precision. -/
def hypot : Float32 → Float32 → Float32 := viaDouble₂ fun x y => (x * x + y * y).sqrt

def pi : Float32 := 3.14159274
def tau : Float32 := 6.28318548
def euler : Float32 := 2.71828175

end Playfield.Binary32
