/-!
A stream of random words: a congruential generator with 64 bits of state, whose output is a folded
and rotated part of the state. A seed word is stretched into the state and the increment by a
second generator of the same family.
-/

namespace Playfield

/-- A random stream at one place. The increment tells streams apart. -/
structure Random where
  state : UInt64
  increment : UInt64
  deriving DecidableEq

namespace Random

def multiplier : UInt64 := 6364136223846793005

/-- The output of a state: its upper half folded onto itself and rotated right by its top bits. -/
def output (state : UInt64) : UInt32 :=
  let folded : UInt32 := (((state >>> 18) ^^^ state) >>> 27).toUInt32
  let turn : UInt32 := (state >>> 59).toUInt32
  (folded >>> turn) ||| (folded <<< (32 - turn))

def step (r : Random) : Random :=
  { r with state := r.state * multiplier + r.increment }

/-- The next word and the stream after it. -/
def next (r : Random) : UInt32 × Random :=
  (output r.state, r.step)

/-- The next number in `[0, 1)`, a multiple of `2^-24`. -/
def nextUnit (r : Random) : Float32 × Random :=
  let (word, r) := r.next
  ((word >>> 8).toFloat32 * Float32.ofBits 0x33800000, r)

/-- The seed stretched to a list of words. -/
def seedWords (seed : UInt64) : Nat → List UInt64
  | 0 => []
  | count + 1 =>
    let state := seed * multiplier + 11634580027462260723
    (output state).toUInt64 :: seedWords state count

/-- The stream of a seed. -/
def ofSeed (seed : UInt64) : Random :=
  match seedWords seed 4 with
  | [a, b, c, d] =>
    let increment := (c ||| (d <<< 32)) ||| 1
    step ⟨(a ||| (b <<< 32)) + increment, increment⟩
  | _ => ⟨0, 1⟩

end Random

end Playfield
