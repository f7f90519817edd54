import Playfield.Formula.Animated

/-!
Evaluation that reads each formula once.

An evaluator keeps the program of every source it has met, a failed one included, up to a limit;
then it starts over. Each operation returns its result with the evaluator after it.
-/

namespace Playfield.Formula

/-- The programs read so far, by their source. -/
structure Evaluator where
  programs : List (String × Program)

namespace Evaluator

/-- The most programs kept. -/
def capacity : Nat := 1024

def fresh : Evaluator := ⟨[]⟩

/-- The number of programs kept. -/
def size (ev : Evaluator) : Nat :=
  ev.programs.length

/-- Forget every program. -/
def clear (_ : Evaluator) : Evaluator :=
  fresh

/-- The program of a source. A new one is added, to an empty store when the old one is full. -/
def program (ev : Evaluator) (source : String) : Program × Evaluator :=
  match ev.programs.lookup source with
  | some known => (known, ev)
  | none =>
    let new := Expr.parse source
    let kept := if capacity ≤ ev.size then [] else ev.programs
    (new, ⟨(source, new) :: kept⟩)

/-- The value of a formula. -/
def evaluate (ev : Evaluator) (source : String) (scope : Scope) :
    Except FormulaError Value × Evaluator :=
  let (program, ev) := ev.program source
  (runProgram program scope, ev)

/-- The value of a property, or the fallback where it is absent or fails. -/
def settle (ev : Evaluator) (read : Value → Option α) (value : Option (Animated α))
    (fallback : α) (scope : Scope) : α × Evaluator :=
  StateT.run (m := Id) (settleBy (fun source ev => ev.evaluate source scope) read value fallback) ev

end Evaluator

end Playfield.Formula
