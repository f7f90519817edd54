import Playfield.Formula.Evaluator
import Playfield.Resolving

/-!
Properties settled one after the other through one evaluator.

A computation in `Evaluating` hands the evaluator on from each property that it settles to the next,
so a formula that occurs in many places is read once.
-/

namespace Playfield.Formula

/-- A computation that evaluates formulas on its way. -/
abbrev Evaluating := StateM Evaluator

instance : Resolving Evaluating where
  settle read value fallback scope := fun ev => ev.settle read value fallback scope

end Playfield.Formula
