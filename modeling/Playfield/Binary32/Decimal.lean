import Playfield.Binary32

/-!
Decimal numerals: how they are read from text, what they say exactly, and the single-precision
number that each stands for.

The meaning of a numeral is kept as `±digits · 10^exponent`, so reading loses nothing; rounding
happens once, in `toSingle`.
-/

namespace Playfield

/-- A numeral without sign: the digits before and after its point, and its exponent. -/
structure Numeral where
  whole : List Char
  fraction : List Char
  exponent : Int
  deriving DecidableEq, Repr

namespace Numeral

def digitsValue (cs : List Char) : Nat :=
  cs.foldl (fun n c => 10 * n + (c.toNat - '0'.toNat)) 0

/-- Read an optional exponent: nothing, or a letter `e`, an optional sign and digits. -/
def exponent? : List Char → Option Int
  | [] => some 0
  | c :: cs =>
    if c = 'e' || c = 'E' then
      let (negative, digits) :=
        match cs with
        | '-' :: ds => (true, ds)
        | '+' :: ds => (false, ds)
        | ds => (false, ds)
      if digits.isEmpty || !digits.all Char.isDigit then none
      else if negative then some (-digitsValue digits) else some (digitsValue digits)
    else none

/-- Read digits with an optional point and an optional exponent. There is a digit on at least one
side of the point, and nothing is left over. -/
def ofChars? (cs : List Char) : Option Numeral :=
  let whole := cs.takeWhile Char.isDigit
  let (fraction, rest) :=
    match cs.dropWhile Char.isDigit with
    | '.' :: ds => (ds.takeWhile Char.isDigit, ds.dropWhile Char.isDigit)
    | ds => ([], ds)
  if whole.isEmpty && fraction.isEmpty then none
  else (exponent? rest).map fun e => ⟨whole, fraction, e⟩

end Numeral

/-- The exact meaning `±digits · 10^exponent` of a numeral. -/
structure Decimal where
  negative : Bool
  digits : Nat
  exponent : Int
  deriving DecidableEq, Repr

namespace Decimal

/-- What a numeral says. -/
def ofNumeral (negative : Bool) (n : Numeral) : Decimal :=
  ⟨negative, Numeral.digitsValue (n.whole ++ n.fraction), n.exponent - n.fraction.length⟩

/-- The nearest single-precision number; infinity beyond the largest. -/
def toSingle (d : Decimal) : Float32 :=
  let magnitude : Float32 := .ofModel (.ofScientific d.digits d.exponent)
  if d.negative then -magnitude else magnitude

end Decimal

namespace Binary32

/-- The number named by a word, whatever the case of its letters. -/
def ofWord? (cs : List Char) : Option Float32 :=
  let word := cs.map Char.toLower
  if word = "inf".toList || word = "infinity".toList then some infinity
  else if word = "nan".toList then some nan
  else none

/-- Read a number without sign: a numeral or a word. -/
def ofUnsigned? (negative : Bool) (cs : List Char) : Option Float32 :=
  match Numeral.ofChars? cs with
  | some n => some (Decimal.ofNumeral negative n).toSingle
  | none => (ofWord? cs).map fun x => if negative then -x else x

/-- Read a number with an optional sign. -/
def ofChars? : List Char → Option Float32
  | '-' :: cs => ofUnsigned? true cs
  | '+' :: cs => ofUnsigned? false cs
  | cs => ofUnsigned? false cs

end Binary32

end Playfield
