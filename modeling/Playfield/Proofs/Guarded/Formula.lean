import Mathlib.Data.List.Basic
import Playfield.Formula.Animated

/-!
Formulas with every access guarded.

A guarded computation stops with a fault wherever something partial would go wrong: a place outside
a list, a subtraction below zero, a quotient by zero (`Fault`). It meets none if it comes to a value
(`Passes`), and then it is harmless to leave the guards out. A call takes its arguments from a list
by their places, and the number of arguments has been looked at before, so evaluating a formula
meets no fault and comes to what it comes to without guards (`passes_settleG`).

`evaluateG` and `settleG` do what `evaluate` and `settle` do, by the same steps.
-/

namespace Playfield

/-! ### Guards -/

/-- What could go wrong while a frame is resolved. -/
inductive Fault where
  /-- There is no such waypoint on the path. -/
  | waypoint (index length : Nat)
  /-- The index of the next waypoint is too large. Up to the length of a path every number is one
  that a machine can hold. -/
  | waypointOverflow (index : Nat)
  /-- A function has no such argument. -/
  | argument (index length : Nat)
  /-- There is no such object. -/
  | object (index length : Nat)
  /-- A walk from parent to parent has met fewer objects than that. -/
  | visit (index length : Nat)
  /-- There is no number of frames from one frame to an earlier one. -/
  | frameUnderflow (first last : Nat)
  /-- Two keyframes lie no frame apart. -/
  | noDistance
  deriving DecidableEq, Repr

/-- A computation that stops at the first fault. -/
abbrev Guarded := Except Fault

/-- An element of a list by its place. -/
def guardedAt (fault : Nat → Nat → Fault) (list : List α) (i : Nat) : Guarded α :=
  match list[i]? with
  | some a => .ok a
  | none => .error (fault i list.length)

/-- A guarded computation meets no fault and comes to a value. -/
def Passes (c : Guarded α) (a : α) : Prop :=
  c = .ok a

namespace Passes

theorem pure (a : α) : Passes (Pure.pure a) a := rfl

/-- Computations without a fault have none together. -/
theorem bind {c : Guarded α} {a : α} (first : Passes c a) {f : α → Guarded β} {b : β}
    (rest : Passes (f a) b) : Passes (c >>= f) b := by
  rw [first]
  exact rest

/-- A fold over values that stand for others. -/
theorem foldlM_represented (represented : γ → β) {f : β → α → Guarded β} {g : γ → α → γ}
    {list : List α}
    (each : ∀ a ∈ list, ∀ c, Passes (f (represented c) a) (represented (g c a))) (c : γ) :
    Passes (list.foldlM f (represented c)) (represented (list.foldl g c)) := by
  induction list generalizing c with
  | nil => exact .pure _
  | cons a rest ih =>
    obtain ⟨first, each⟩ := List.forall_mem_cons.mp each
    rw [List.foldlM_cons, List.foldl_cons]
    exact .bind (first c) (ih each (g c a))

/-- A place in a list is accessed without a fault. -/
theorem guardedAt {fault : Nat → Nat → Fault} {list : List α} {i : Nat} {a : α}
    (there : list[i]? = some a) : Passes (guardedAt fault list i) a := by
  rw [Passes, Playfield.guardedAt, there]

end Passes

namespace Formula

/-! ### Calculations -/

/-- A calculation with guards: it comes to a value or to an error of the formula. -/
abbrev Calculating := ExceptT EvalError Guarded

/-- An argument that a call does not have is a fault. -/
instance : Evaluation Calculating where
  known outcome := ExceptT.mk (pure outcome)
  argument args i := ExceptT.lift (guardedAt .argument args i)

/-- A calculation meets no fault and has this outcome. -/
def Calculates (c : Calculating α) (outcome : Except EvalError α) : Prop :=
  Passes c.run outcome

namespace Calculates

/-- What is known meets no fault. -/
theorem known (outcome : Except EvalError α) : Calculates (Evaluation.known outcome) outcome :=
  Passes.pure outcome

theorem pure (a : α) : Calculates (Pure.pure a) (.ok a) :=
  Passes.pure (Except.ok a)

/-- Calculations without a fault have none together. -/
theorem bind {c : Calculating α} {outcome : Except EvalError α} (first : Calculates c outcome)
    {f : α → Calculating β} {g : α → Except EvalError β}
    (rest : ∀ a, outcome = .ok a → Calculates (f a) (g a)) :
    Calculates (c >>= f) (outcome >>= g) := by
  refine Passes.bind first ?_
  cases outcome with
  | error e => exact .pure _
  | ok a => exact rest a rfl

/-- Steps over a list without a fault have none together. -/
theorem foldlM {list : List γ} {f : β → γ → Calculating β} {g : β → γ → Except EvalError β}
    (each : ∀ c ∈ list, ∀ b, Calculates (f b c) (g b c)) (b : β) :
    Calculates (list.foldlM f b) (list.foldlM g b) := by
  induction list generalizing b with
  | nil => exact .pure _
  | cons c rest ih =>
    obtain ⟨first, each⟩ := List.forall_mem_cons.mp each
    exact (first b).bind fun next _ => ih each next

end Calculates

/-! ### Calls -/

/-- An argument that is there is read as a number without a fault. -/
theorem calculates_numberM {args : List Value} {i : Nat} (there : i < args.length) :
    Calculates (numberM args i) (numberM args i) := by
  have held : Calculates (ExceptT.lift (guardedAt .argument args i))
      (.ok (args.getD i (.truth false))) := by
    refine Passes.bind (.guardedAt ?_) (.pure _)
    rw [List.getD_eq_getElem?_getD, List.getElem?_eq_getElem there, Option.getD_some]
  exact held.bind fun _ _ => .known _

/-- A function with as many arguments as it takes reaches for no other. -/
theorem calculates_applyM {function : Builtin} {args : List Value}
    (admitted : function.arity.admits args.length) :
    Calculates (function.applyM args) (function.applyM args) := by
  cases function with
  | ofOne f =>
    have one : args.length = 1 := beq_iff_eq.mp admitted
    exact (calculates_numberM (by omega)).bind fun x _ => .known _
  | ofTwo f =>
    have two : args.length = 2 := beq_iff_eq.mp admitted
    exact (calculates_numberM (by omega)).bind fun x _ =>
      (calculates_numberM (by omega)).bind fun y _ => .known _
  | fold f =>
    have some : 1 ≤ args.length := of_decide_eq_true admitted
    refine (calculates_numberM (by omega)).bind fun first _ => ?_
    refine (Calculates.foldlM (fun i inside acc => ?_) first).bind fun all _ => .known _
    have place := List.mem_range'_1.mp inside
    exact (calculates_numberM (by omega)).bind fun x _ => .pure _
  | clamp =>
    have three : args.length = 3 := beq_iff_eq.mp admitted
    exact (calculates_numberM (by omega)).bind fun x _ =>
      (calculates_numberM (by omega)).bind fun low _ =>
        (calculates_numberM (by omega)).bind fun high _ => .known _

/-- A call accesses no argument that is missing. -/
theorem calculates_callNamedM (name : String) (args : List Value) :
    Calculates (callNamedM name args) (callNamed name args) := by
  unfold callNamed callNamedM
  cases Builtin.named? name with
  | none => exact .known _
  | some function =>
    dsimp only
    split
    · exact calculates_applyM ‹_›
    · exact .known _

/-! ### Formulas -/

mutual

/-- Evaluating a formula meets no fault. -/
theorem calculates_evalM (scope : Scope) : (e : Expr) → Calculates (e.evalM scope) (e.eval scope)
  | .number _ | .text _ | .truth _ => .pure _
  | .name _ => .known _
  | .member object _ => (calculates_rootM scope object).bind fun (_, _) _ => .known _
  | .index object key =>
    (calculates_rootM scope object).bind fun (_, _) _ =>
      (calculates_evalM scope key).bind fun _ _ => .known _
  | .unary op operand => (calculates_evalM scope operand).bind fun _ _ => .known _
  | .binary op left right => by
    refine (calculates_evalM scope left).bind fun l _ => ?_
    have both : Calculates (right.evalM scope >>= fun r => pure (Value.truth r.truthy))
        (right.eval scope >>= fun r => pure (Value.truth r.truthy)) :=
      (calculates_evalM scope right).bind fun _ _ => .pure _
    -- Only these two may do without the right side.
    cases op with
    | and =>
      dsimp only
      split
      · exact both
      · exact .pure _
    | or =>
      dsimp only
      split
      · exact .pure _
      · exact both
    | _ => exact (calculates_evalM scope right).bind fun _ _ => .known _
  | .conditional condition yes no => by
    refine (calculates_evalM scope condition).bind fun chosen _ => ?_
    split
    · exact calculates_evalM scope yes
    · exact calculates_evalM scope no
  | .call function args =>
    (calculates_evalArgumentsM scope args).bind fun values _ =>
      calculates_callNamedM function values

theorem calculates_rootM (scope : Scope) : (e : Expr) → Calculates (e.rootM scope) (e.root scope)
  | .name _ => .pure _
  | .member object _ => (calculates_rootM scope object).bind fun (_, _) _ => .pure _
  | .index object key =>
    (calculates_rootM scope object).bind fun (_, _) _ =>
      (calculates_evalM scope key).bind fun _ _ => .pure _
  | .number _ | .text _ | .truth _ | .unary _ _ | .binary _ _ _ | .conditional _ _ _
  | .call _ _ => .known _

theorem calculates_evalArgumentsM (scope : Scope) : (args : List Expr) →
    Calculates (evalArgumentsM scope args) (evalArguments scope args)
  | [] => .pure _
  | first :: rest =>
    (calculates_evalM scope first).bind fun _ _ =>
      (calculates_evalArgumentsM scope rest).bind fun _ _ => .pure _

end

/-! ### Properties -/

/-- Evaluate the formula in a text with guards. -/
def evaluateG (source : String) (scope : Scope) : Guarded (Except FormulaError Value) :=
  runProgramBy (fun expr => (expr.evalM scope : Calculating Value).run) (Expr.parse source)

/-- Settle a property with guards. -/
def settleG (read : Value → Option α) (value : Option (Animated α)) (fallback : α)
    (scope : Scope) : Guarded α :=
  settleBy (evaluateG · scope) read value fallback

/-- Evaluating a text meets no fault. -/
theorem passes_evaluateG (source : String) (scope : Scope) :
    Passes (evaluateG source scope) (evaluate source scope) := by
  unfold evaluateG evaluate runProgram
  cases Expr.parse source with
  | error e => exact .pure _
  | ok expr =>
    refine Passes.bind (calculates_evalM scope expr) ?_
    dsimp only [runProgramBy]
    rw [pure_bind]
    cases expr.eval scope with
    | error e => exact .pure _
    | ok value => exact .pure _

/-- Settling a property meets no fault. -/
theorem passes_settleG (read : Value → Option α) (value : Option (Animated α)) (fallback : α)
    (scope : Scope) : Passes (settleG read value fallback scope) (settle read value fallback scope)
    := by
  match value with
  | none => exact .pure _
  | some (.literal v) => exact .pure _
  | some (.formula source) => exact .bind (passes_evaluateG source scope) (.pure _)

end Formula

end Playfield
