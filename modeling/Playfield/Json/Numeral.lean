import Playfield.Binary32.Decimal
import Playfield.Json

/-!
The numbers of JSON texts.

A numeral without point and exponent is an integer if 64 bits hold it. Any other one goes through
double precision to single precision: its leading digits, as many as 64 bits hold, stand for all of
them and are scaled by a power of ten. Each step rounds to the nearest double, so a numeral close to
the middle between two single-precision numbers can be given the farther one.
-/

namespace Playfield.Json

/-! ### Leading digits -/

/-- Append digits to a number as long as 64 bits hold the result; the digits left over are returned
with it. -/
def appendDigits : Nat → List Char → Nat × List Char
  | n, [] => (n, [])
  | n, c :: cs =>
    let longer := 10 * n + (c.toNat - '0'.toNat)
    if longer < UInt64.size then appendDigits longer cs else (n, c :: cs)

/-- The leading digits of a numeral as a number, with the power of ten that scales it. What is left
over before the point counts as places only; the digits after the point are tried nevertheless. -/
def leading (n : Numeral) : Nat × Int :=
  let (whole, places) := appendDigits 0 n.whole
  let (digits, rest) := appendDigits whole n.fraction
  (digits, n.exponent + places.length + rest.length - n.fraction.length)

/-! ### Scaling -/

/-- A power of ten in double precision. -/
def tenTo (n : Nat) : Float :=
  .ofModel (.ofScientific 1 n)

/-- The exponent of the largest power of ten in double precision. -/
def maxPower : Nat := 308

/-- Divide by a power of ten, in two steps where one is too short. A power that two steps cannot
reach leaves nothing of 64 bits. -/
def scaleDown (x : Float) (n : Nat) : Float :=
  if n ≤ maxPower then x / tenTo n
  else if n ≤ 2 * maxPower then x / tenTo maxPower / tenTo (n - maxPower)
  else 0

/-- Multiply by a power of ten, unless the result is beyond double precision. -/
def scaleUp? (x : Float) (n : Nat) : Option Float :=
  if x == 0 then some 0
  else if maxPower < n then none
  else
    let product := x * tenTo n
    if product.isInf then none else some product

/-- The number `digits · 10^exponent` in double precision. -/
def scale? (digits : Nat) (exponent : Int) : Option Float :=
  let x : Float := .ofModel (.ofScientific digits 0)
  match exponent with
  | .ofNat n => scaleUp? x n
  | .negSucc n => some (scaleDown x (n + 1))

/-! ### Values -/

/-- An integer, if 64 bits hold it. The negative zero is none. -/
def integer? (negative : Bool) (whole : List Char) : Option Int :=
  match appendDigits 0 whole with
  | (n, []) =>
    if !negative then some n
    else if 0 < n && 2 * n ≤ UInt64.size then some (-n)
    else none
  | _ => none

/-- A number by way of double precision. -/
def ofScaled (negative : Bool) (n : Numeral) : Json :=
  let (digits, exponent) := leading n
  match scale? digits exponent with
  | some x => .real (if negative then -Binary32.ofDouble x else Binary32.ofDouble x)
  | none => .unreadable

/-- The value of a numeral; `whole` says that it has neither point nor exponent. -/
def ofNumeral (negative whole : Bool) (n : Numeral) : Json :=
  match if whole then integer? negative n.whole else none with
  | some value => .int value
  | none => ofScaled negative n

end Playfield.Json
