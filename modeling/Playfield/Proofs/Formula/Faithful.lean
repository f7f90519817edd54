import Playfield.Formula.Evaluating

/-!
Evaluating through an evaluator gives what evaluating afresh gives.

A faithful evaluator keeps no program but the one of its source. Reading a formula keeps it faithful,
whether the program is kept already, added or the reason to start over, and so does every
computation that settles properties; each comes to the same value through all faithful evaluators
(`Yields`).
-/

namespace Playfield.Formula

/-- Every program kept is that of its source. -/
def Evaluator.Faithful (ev : Evaluator) : Prop :=
  ∀ source program, ev.programs.lookup source = some program → program = Expr.parse source

namespace Evaluator.Faithful

variable {ev : Evaluator}

/-- An evaluator without programs is faithful. -/
theorem fresh : Evaluator.fresh.Faithful := by
  intro source program found
  cases found

/-- Adding the program of a source to some of those kept. -/
theorem add {programs : List (String × Program)} (faithful : Faithful ⟨programs⟩)
    (source : String) : Faithful ⟨(source, Expr.parse source) :: programs⟩ := by
  intro other program found
  rw [List.lookup_cons] at found
  by_cases same : other = source
  · simpa [same] using found.symm
  · rw [beq_false_of_ne same] at found
    exact faithful other program found

/-- A faithful evaluator gives the program of a source and stays faithful. -/
theorem program (faithful : ev.Faithful) (source : String) :
    (ev.program source).1 = Expr.parse source ∧ (ev.program source).2.Faithful := by
  unfold Evaluator.program
  split
  · rename_i known found
    exact ⟨faithful source known found, faithful⟩
  · refine ⟨rfl, ?_⟩
    dsimp only
    split
    · exact fresh.add source
    · exact add faithful source

/-- A faithful evaluator settles a property as it is settled afresh, and stays faithful. -/
theorem settle {α : Type} (faithful : ev.Faithful) (read : Value → Option α)
    (value : Option (Animated α)) (fallback : α) (scope : Scope) :
    (ev.settle read value fallback scope).1 = Formula.settle read value fallback scope ∧
      (ev.settle read value fallback scope).2.Faithful := by
  match value with
  | none => exact ⟨rfl, faithful⟩
  | some (.literal v) => exact ⟨rfl, faithful⟩
  | some (.formula source) =>
    obtain ⟨same, still⟩ := faithful.program source
    exact ⟨congrArg (fun program => suited read fallback (runProgram program scope)) same, still⟩

end Evaluator.Faithful

/-! ### Computations -/

/-- A computation comes to a value through every faithful evaluator, and leaves it faithful. -/
def Yields {α : Type} (m : Evaluating α) (a : α) : Prop :=
  ∀ ev : Evaluator, ev.Faithful → (m.run ev).1 = a ∧ Evaluator.Faithful (m.run ev).2

namespace Yields

variable {α β : Type}

theorem pure (a : α) : Yields (Pure.pure a) a :=
  fun _ faithful => ⟨rfl, faithful⟩

theorem bind {m : Evaluating α} {f : α → Evaluating β} {a : α} {b : β} (first : Yields m a)
    (rest : Yields (f a) b) : Yields (m >>= f) b := by
  intro ev faithful
  obtain ⟨rfl, still⟩ := first ev faithful
  exact rest _ still

end Yields

end Playfield.Formula
