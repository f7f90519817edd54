/-!
Single-precision numbers seen exactly.

Core defines the sum, product, quotient and square root of `Float32` in the logic, but leaves the
steps to a whole number and the remainder to the machine. Here they are computed from the exact
value `±m · 2^e` of a number, so that every result is a definition. `nearest` is the one place
where an exact value becomes a number again.
-/

namespace Playfield.Binary32

open Float.Model (Format UnpackedFloat)
open Float.Model.UnpackedFloat (Sign)

/-- The exact value of a number: a zero, an infinity, no number, or `±m · 2^e` with `m > 0`. -/
def exact (x : Float32) : UnpackedFloat :=
  x.toModel.unpack

/-- The number nearest to `±m · 2^e`; a tie goes to the even significand, and a value beyond the
largest number becomes infinity. -/
def nearest (sign : Sign) (m : Nat) (e : Int) : Float32 :=
  .ofModel (.pack (UnpackedFloat.round Format.binary32 sign m e))

def nan : Float32 :=
  .ofModel (.pack .notANumber)

def infinity : Float32 :=
  .ofModel (.pack (.infinity .positive))

/-- The number nearest to a natural number. -/
def ofNat (n : Nat) : Float32 :=
  nearest .positive n 0

/-- The number nearest to an integer; zero is positive. -/
def ofInt (n : Int) : Float32 :=
  if n < 0 then nearest .negative n.natAbs 0 else nearest .positive n.natAbs 0

/-- The number nearest to a double-precision number. -/
def ofDouble (x : Float) : Float32 :=
  match x.toModel.unpack with
  | .finite sign m e _ => nearest sign m e
  | .zero .positive => 0
  | .zero .negative => -0
  | .infinity .positive => infinity
  | .infinity .negative => -infinity
  | .notANumber => nan

/-! ### Whole numbers -/

/-- Cut a number after its binary point. `away sign rest unit` says whether the whole part moves
one away from zero when the part cut off is `rest / unit`. The sign is kept, also on zero. -/
def toWhole (away : Sign → Nat → Nat → Bool) (x : Float32) : Float32 :=
  match exact x with
  | .finite sign m e _ =>
    if 0 ≤ e then x
    else
      let unit := 1 <<< (-e).toNat
      let whole := m / unit
      nearest sign (if away sign (m % unit) unit then whole + 1 else whole) 0
  | _ => x

/-- The largest whole number that is not above `x`. -/
def floor : Float32 → Float32 :=
  toWhole fun sign rest _ => sign == .negative && rest != 0

/-- The smallest whole number that is not below `x`. -/
def ceil : Float32 → Float32 :=
  toWhole fun sign rest _ => sign == .positive && rest != 0

/-- The nearest whole number; a half goes away from zero. -/
def round : Float32 → Float32 :=
  toWhole fun _ rest unit => decide (unit ≤ 2 * rest)

/-! ### Remainders -/

/-- The remainder of `x` by `y` with the sign of `x`. It is exact: no rounding is ever needed. -/
def rem (x y : Float32) : Float32 :=
  match exact x, exact y with
  | .finite sign m e _, .finite _ n f _ =>
    let g := min e f
    nearest sign ((m <<< (e - g).toNat) % (n <<< (f - g).toNat)) g
  | .finite .., .infinity _ => x
  | .zero _, .finite .. => x
  | .zero _, .infinity _ => x
  | _, _ => nan

/-- The remainder moved up by `|y|` when it is negative. -/
def remEuclid (x y : Float32) : Float32 :=
  let r := rem x y
  if r < 0 then r + y.abs else r

/-! ### Choice, sign and order -/

/-- The smaller of two numbers; something that is no number loses. Of two zeros, which are equal
whatever their signs, the second is taken. -/
def min (x y : Float32) : Float32 :=
  if y.isNaN || x < y then x else y

/-- The larger of two numbers; something that is no number loses. Of two zeros, which are equal
whatever their signs, the second is taken. -/
def max (x y : Float32) : Float32 :=
  if y.isNaN || y < x then x else y

/-- One with the sign of `x`, zero for either zero. -/
def sign (x : Float32) : Float32 :=
  if x == 0 then 0 else if x < 0 then -1 else if 0 < x then 1 else nan

/-- The bits of a number from here on have its sign set. -/
def signBit : Nat := 0x80000000

/-- The place of a number in the total order of all numbers: negative infinity first, the negative
zero just before the positive one, positive infinity last. -/
def rank (x : Float32) : Int :=
  let bits := x.toBits.toNat
  if bits < signBit then bits else signBit - 1 - bits

/-- `sanitize value fallback valid` is the value if there is one, finite and valid, else the
fallback. -/
def sanitize (value : Option Float32) (fallback : Float32) (valid : Float32 → Bool) : Float32 :=
  match value with
  | some v => if v.isFinite && valid v then v else fallback
  | none => fallback

end Playfield.Binary32
