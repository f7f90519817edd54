import Playfield.Formula.Eval

/-!
Properties that are a literal or a formula.

A formula that cannot be read or evaluated, or whose value does not suit the property, gives the
fallback, so one bad property never stops the others.
-/

namespace Playfield.Formula

/-- A property of a scene: a fixed value or a formula evaluated on every frame. -/
inductive Animated (α : Type) where
  | formula (source : String)
  | literal (value : α)
  deriving DecidableEq, Repr

/-- A color; `none` is no paint. -/
abbrev Color := Option String

namespace Value

/-- The value as a finite number, if it is one. -/
def finiteNumber? (v : Value) : Option Float32 :=
  match v.asNumber with
  | .ok x => if x.isFinite then some x else none
  | .error _ => none

def truth? (v : Value) : Option Bool := some v.truthy
def text? (v : Value) : Option String := some v.display
def color? (v : Value) : Option Color := some (some v.display)

end Value

/-- What a property makes of the outcome of its formula. -/
def suited (read : Value → Option α) (fallback : α) (outcome : Except FormulaError Value) : α :=
  match outcome with
  | .ok v => (read v).getD fallback
  | .error _ => fallback

/-- The value of a property, or the fallback where it is absent or fails, by the way in which its
formula is evaluated. -/
def settleBy {m : Type → Type} [Monad m] (evaluate : String → m (Except FormulaError Value))
    (read : Value → Option α) (value : Option (Animated α)) (fallback : α) : m α :=
  match value with
  | none => return fallback
  | some (.literal v) => return v
  | some (.formula source) => return suited read fallback (← evaluate source)

/-- The value of a property, or the fallback where it is absent or fails. -/
def settle (read : Value → Option α) (value : Option (Animated α)) (fallback : α)
    (scope : Scope) : α :=
  Id.run (settleBy (fun source => return evaluate source scope) read value fallback)

def settleNumber : Option (Animated Float32) → Float32 → Scope → Float32 :=
  settle Value.finiteNumber?

def settleTruth : Option (Animated Bool) → Bool → Scope → Bool :=
  settle Value.truth?

def settleText : Option (Animated String) → String → Scope → String :=
  settle Value.text?

/-- An absent color takes the fallback; a literal `none` is no paint. -/
def settleColor : Option (Animated Color) → Color → Scope → Color :=
  settle Value.color?

end Playfield.Formula
