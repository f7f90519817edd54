import Playfield.Binary32.Decimal

/-!
The text of a number: the fewest digits that read back as the same number, written positionally.

A number `v` is what every real between two bounds rounds to. On the grid of the multiples of
`10^k` at most two neighbours of `v` can be nearest to it, and if any point of the grid lies between
the bounds, so does one of them. `shortest` walks from coarse grids to fine ones, and the first grid
with a hit gives the fewest digits.
-/

namespace Playfield

namespace Binary32

open Float.Model (Format UnpackedFloat)

/-- The reals that round to one number, in units of `2^exponent`: those between `low` and `high`,
with the bounds themselves exactly if `closed`. -/
structure Interval where
  low : Nat
  value : Nat
  high : Nat
  exponent : Int
  closed : Bool

/-- The reals that round to `m · 2^e`, in quarters of its last place. Just above a power of two the
numbers below stand twice as close. -/
def Interval.around (m : Nat) (e : Int) : Interval where
  low := if m = 0x800000 ∧ Format.binary32.minExponent < e then 4 * m - 1 else 4 * m - 2
  value := 4 * m
  high := 4 * m + 2
  exponent := e - 2
  closed := m % 2 == 0

/-- The multiple of `10^k` in the interval that is nearest to its value, as the multiplier; of two
equally near ones the larger. -/
def Interval.onGrid? (i : Interval) (k : Int) : Option Nat :=
  let times := (1 <<< i.exponent.toNat) * Nat.pow 10 (-k).toNat
  let unit := (1 <<< (-i.exponent).toNat) * Nat.pow 10 k.toNat
  let inside (n : Nat) : Bool :=
    if i.closed then i.low * times ≤ n * unit && n * unit ≤ i.high * times
    else i.low * times < n * unit && n * unit < i.high * times
  let below := i.value * times / unit
  let nearer := if 2 * (i.value * times % unit) < unit then [below, below + 1]
    else [below + 1, below]
  nearer.find? inside

/-- The exponents of ten from the coarsest grid that any number needs to the finest. -/
def gridExponents : List Int :=
  (List.range 84).map fun (i : Nat) => 38 - (i : Int)

/-- The shortest numeral that reads back as `m · 2^e`. -/
def shortest (m : Nat) (e : Int) : Nat × Int :=
  let i := Interval.around m e
  (gridExponents.findSome? fun k => (i.onGrid? k).map fun n => (n, k)).getD (0, 0)

end Binary32

/-- Digits without an exponent: the point stands where it belongs, between zeros where the digits
do not reach it, and a whole number has none. -/
def Decimal.positional (d : Decimal) : String :=
  let digits := (toString d.digits).toList
  let magnitude :=
    if 0 ≤ d.exponent then digits ++ List.replicate d.exponent.toNat '0'
    else
      let places := (-d.exponent).toNat
      if places < digits.length then
        digits.take (digits.length - places) ++ '.' :: digits.drop (digits.length - places)
      else '0' :: '.' :: List.replicate (places - digits.length) '0' ++ digits
  String.ofList (if d.negative then '-' :: magnitude else magnitude)

/-- The text of a number: the fewest digits that read back, no exponent, the sign of zero kept. -/
def Binary32.text (x : Float32) : String :=
  match exact x with
  | .notANumber => "NaN"
  | .infinity s => if s == .negative then "-inf" else "inf"
  | .zero s => Decimal.positional ⟨s == .negative, 0, 0⟩
  | .finite s m e _ =>
    let (digits, exponent) := shortest m e
    Decimal.positional ⟨s == .negative, digits, exponent⟩

end Playfield
