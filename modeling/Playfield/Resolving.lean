import Playfield.Formula.Animated
import Playfield.Vec2

/-!
Frames in a monad.

What happens on a frame is written once, for every monad in which properties can be settled and in
which what is partial on a frame can be done. A function whose name ends in an `M` is one for all of
these, or for evaluators. Its namesake without the letter is what it comes to in `Id`, where every
formula is read afresh and nothing is guarded; elsewhere properties are settled through an evaluator
that keeps what it has read, or a partial operation that goes wrong is a fault.
-/

namespace Playfield

open Formula (Animated Color Scope Value)

/-- A monad in which frames can be resolved. -/
class Resolving (m : Type → Type) [Monad m] where
  /-- Settle a property. -/
  settle {α : Type} (read : Value → Option α) (value : Option (Animated α)) (fallback : α)
    (scope : Scope) : m α
  /-- A waypoint by its place on a path. -/
  waypoint (first : Vec2) (rest : List Vec2) (i : Nat) : m Vec2 :=
    pure ((first :: rest).getD i first)
  /-- The place after one on a path of some length. -/
  successor (length i : Nat) : m Nat := pure (i + 1)
  /-- The number of frames from one to a later one. -/
  framesBetween (first last : Nat) : m Nat := pure (last - first)
  /-- The part of a way of so many frames. -/
  partOf (done whole : Nat) : m Float32 :=
    pure (Binary32.ofNat done / Binary32.ofNat whole)

/-- Every formula is read afresh. -/
instance : Resolving Id where
  settle read value fallback scope := Formula.settle read value fallback scope

namespace Formula

variable {m : Type → Type} [Monad m] [Resolving m]

def settleNumberM : Option (Animated Float32) → Float32 → Scope → m Float32 :=
  Resolving.settle Value.finiteNumber?

def settleTruthM : Option (Animated Bool) → Bool → Scope → m Bool :=
  Resolving.settle Value.truth?

def settleTextM : Option (Animated String) → String → Scope → m String :=
  Resolving.settle Value.text?

def settleColorM : Option (Animated Color) → Color → Scope → m Color :=
  Resolving.settle Value.color?

end Formula

end Playfield
