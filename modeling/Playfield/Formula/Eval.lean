import Playfield.Formula.Expr
import Playfield.Formula.Parser
import Playfield.Formula.Value

/-!
The meaning of a formula in a scope.

An operand is evaluated before its operation and the left before the right, except that `and`, `or`
and a conditional leave aside what they do not need. Every number that an operation or a function
computes is finite, or the formula fails.

Evaluation is written once, for every monad in which a formula can fail and the arguments of a call
can be looked up. A function whose name ends in an `M` is one for all of these; its namesake without
the letter is what it comes to in `Except`, where no argument is missing.
-/

namespace Playfield.Formula

/-- A computed number must be finite. -/
def finite (x : Float32) : Except EvalError Value :=
  if x.isFinite then .ok (.number x) else .error .nonFinite

/-! ### Names -/

/-- The value of a plain name. -/
def Scope.identifier (scope : Scope) (id : String) : Except EvalError Value :=
  if id = "frame" then .ok (.number (Binary32.ofNat scope.frame))
  else if id = "t" then .ok (.number scope.t)
  else if id = "width" then .ok (.number scope.width)
  else if id = "height" then .ok (.number scope.height)
  else if id = "pi" || id = "PI" then .ok (.number Binary32.pi)
  else if id = "tau" then .ok (.number Binary32.tau)
  else if id = "e" || id = "E" then .ok (.number Binary32.euler)
  else if id = "objects" || id = "parent" then .error (.typeMismatch .scalar)
  else .error (.unknownIdentifier id)

/-- The field of an object. -/
def Scope.objectField (scope : Scope) (id field : String) : Except EvalError Value :=
  match scope.objects.get? id with
  | none => .error (.unknownMember id)
  | some fields =>
    match fields.get? field with
    | none => .error (.unknownMember (id ++ "." ++ field))
    | some value => .ok (.number value)

/-- The coordinate of the parent. -/
def Scope.parentField (scope : Scope) (field : String) : Except EvalError Value :=
  match scope.parent with
  | none => .error (.unknownIdentifier "parent")
  | some position =>
    if field = "x" then .ok (.number position.x)
    else if field = "y" then .ok (.number position.y)
    else .error (.unknownMember ("parent." ++ field))

/-- The value at the end of a path: `objects` takes an id and a field, `parent` a field. -/
def Scope.path (scope : Scope) (root : String) (keys : List String) : Except EvalError Value :=
  match keys with
  | [id, field] =>
    if root = "objects" then scope.objectField id field else unknown
  | [field] =>
    if root = "parent" then scope.parentField field else unknown
  | _ => unknown
where
  unknown : Except EvalError Value :=
    .error (.unknownMember (root ++ "." ++ String.intercalate "." keys))

/-! ### Operators -/

/-- The remainder that takes the sign of the divisor. -/
def flooredRemainder (x y : Float32) : Except EvalError Value :=
  if y == 0 then .error .divisionByZero
  else finite (x - y * Binary32.floor (x / y))

def UnaryOp.apply (op : UnaryOp) (operand : Value) : Except EvalError Value :=
  match op with
  | .negate => do finite (-(← operand.asNumber))
  | .plus => do finite (← operand.asNumber)
  | .not => .ok (.truth !operand.truthy)

/-- A comparison of two values as numbers. -/
def compareNumbers (holds : Float32 → Float32 → Bool) (left right : Value) :
    Except EvalError Value := do
  let x ← left.asNumber
  let y ← right.asNumber
  return .truth (holds x y)

/-- An operation on two values as numbers. -/
def combineNumbers (operation : Float32 → Float32 → Float32) (left right : Value) :
    Except EvalError Value := do
  let x ← left.asNumber
  let y ← right.asNumber
  finite (operation x y)

/-- Sums join texts: where either side is a text, both are written one after the other. -/
def addValues (left right : Value) : Except EvalError Value :=
  match left, right with
  | .text _, _ | _, .text _ => .ok (.text (left.display ++ right.display))
  | _, _ => combineNumbers (· + ·) left right

/-- A division looks at its divisor first. -/
def divideValues (left right : Value) : Except EvalError Value := do
  let divisor ← right.asNumber
  if divisor == 0 then throw .divisionByZero
  finite ((← left.asNumber) / divisor)

/-- An operator on two values. The logical ones do not come here with a right side that they leave
aside. -/
def BinaryOp.apply (op : BinaryOp) (left right : Value) : Except EvalError Value :=
  match op with
  | .add => addValues left right
  | .subtract => combineNumbers (· - ·) left right
  | .multiply => combineNumbers (· * ·) left right
  | .divide => divideValues left right
  | .modulo => do flooredRemainder (← left.asNumber) (← right.asNumber)
  | .power => combineNumbers Binary32.pow left right
  | .greater => compareNumbers (fun x y => y < x) left right
  | .less => compareNumbers (fun x y => x < y) left right
  | .greaterEqual => compareNumbers (fun x y => y ≤ x) left right
  | .lessEqual => compareNumbers (fun x y => x ≤ y) left right
  | .equal => .ok (.truth (left.same right))
  | .notEqual => .ok (.truth !(left.same right))
  | .and => .ok (.truth (left.truthy && right.truthy))
  | .or => .ok (.truth (left.truthy || right.truthy))

/-! ### Functions -/

/-- The functions that a formula can call. -/
inductive Builtin where
  | ofOne (f : Float32 → Float32)
  | ofTwo (f : Float32 → Float32 → Except EvalError Value)
  | fold (f : Float32 → Float32 → Float32)
  | clamp

/-- The function of a name. -/
def Builtin.named? (name : String) : Option Builtin :=
  [("sin", .ofOne Binary32.sin), ("cos", .ofOne Binary32.cos), ("tan", .ofOne Binary32.tan),
    ("asin", .ofOne Binary32.asin), ("acos", .ofOne Binary32.acos),
    ("atan", .ofOne Binary32.atan), ("abs", .ofOne Float32.abs),
    ("floor", .ofOne Binary32.floor), ("ceil", .ofOne Binary32.ceil),
    ("round", .ofOne Binary32.round), ("sqrt", .ofOne Float32.sqrt),
    ("exp", .ofOne Binary32.exp), ("log", .ofOne Binary32.log), ("sign", .ofOne Binary32.sign),
    ("atan2", .ofTwo fun y x => finite (Binary32.atan2 y x)),
    ("pow", .ofTwo fun x y => finite (Binary32.pow x y)),
    ("hypot", .ofTwo fun x y => finite (Binary32.hypot x y)),
    ("mod", .ofTwo flooredRemainder),
    ("min", .fold Binary32.min), ("max", .fold Binary32.max),
    ("clamp", .clamp)].lookup name

def Builtin.arity : Builtin → Arity
  | .ofOne _ => .exactly 1
  | .ofTwo _ => .exactly 2
  | .fold _ => .atLeast 1
  | .clamp => .exactly 3

/-! ### Evaluation in a monad -/

/-- A monad in which formulas can be evaluated. -/
class Evaluation (m : Type → Type) [Monad m] where
  /-- What is known without looking anything up. -/
  known {α : Type} (outcome : Except EvalError α) : m α
  /-- An argument of a call by its place. -/
  argument (args : List Value) (i : Nat) : m Value

/-- The number of arguments is checked before any is looked up, so a call never comes to see the
default. -/
instance : Evaluation (Except EvalError) where
  known outcome := outcome
  argument args i := .ok (args.getD i (.truth false))

open Evaluation (known argument)

section

variable {m : Type → Type} [Monad m] [Evaluation m]

/-- An argument of a call as a number. -/
def numberM (args : List Value) (i : Nat) : m Float32 := do
  known (← argument args i).asNumber

/-- A function on its arguments. Those after the first one of a fold are taken one by one. -/
def Builtin.applyM (function : Builtin) (args : List Value) : m Value :=
  match function with
  | .ofOne f => do
    let x ← numberM args 0
    known (finite (f x))
  | .ofTwo f => do
    let x ← numberM args 0
    let y ← numberM args 1
    known (f x y)
  | .fold f => do
    let first ← numberM args 0
    let all ← (List.range' 1 (args.length - 1)).foldlM
      (fun acc i => do return f acc (← numberM args i)) first
    known (finite all)
  | .clamp => do
    let x ← numberM args 0
    let low ← numberM args 1
    let high ← numberM args 2
    known (finite (Binary32.min (Binary32.max x low) high))

/-- A call: the function must be known and the number of arguments right before any of them is
looked at. -/
def callNamedM (name : String) (args : List Value) : m Value :=
  match Builtin.named? name with
  | none => known (.error (.unknownFunction name))
  | some function =>
    if function.arity.admits args.length then function.applyM args
    else known (.error (.argumentCount name function.arity args.length))

mutual

/-- The value of a formula. -/
def Expr.evalM (scope : Scope) : Expr → m Value
  | .number value => return .number value
  | .text content => return .text content
  | .truth value => return .truth value
  | .name id => known (scope.identifier id)
  | .member object field => do
    let (root, keys) ← object.rootM scope
    known (scope.path root (keys ++ [field]))
  | .index object key => do
    let (root, keys) ← object.rootM scope
    let v ← key.evalM scope
    known (scope.path root (keys ++ [v.display]))
  | .unary op operand => do
    let v ← operand.evalM scope
    known (op.apply v)
  | .binary op left right => do
    let l ← left.evalM scope
    match op with
    | .and =>
      if l.truthy then return .truth (← right.evalM scope).truthy else return .truth false
    | .or =>
      if l.truthy then return .truth true else return .truth (← right.evalM scope).truthy
    | op =>
      let r ← right.evalM scope
      known (op.apply l r)
  | .conditional condition yes no => do
    if (← condition.evalM scope).truthy then yes.evalM scope else no.evalM scope
  | .call function args => do callNamedM function (← evalArgumentsM scope args)

/-- A selection seen as a path: the name at its root and the keys from there. -/
def Expr.rootM (scope : Scope) : Expr → m (String × List String)
  | .name id => return (id, [])
  | .member object field => do
    let (root, keys) ← object.rootM scope
    return (root, keys ++ [field])
  | .index object key => do
    let (root, keys) ← object.rootM scope
    let v ← key.evalM scope
    return (root, keys ++ [v.display])
  | _ => known (.error (.typeMismatch .path))

/-- The values of the arguments of a call, up to the first that fails. -/
def evalArgumentsM (scope : Scope) : List Expr → m (List Value)
  | [] => return []
  | first :: rest => do
    let v ← first.evalM scope
    let values ← evalArgumentsM scope rest
    return v :: values

end

end

/-! ### Formulas -/

@[inherit_doc callNamedM]
def callNamed (name : String) (args : List Value) : Except EvalError Value :=
  callNamedM name args

@[inherit_doc Expr.evalM]
def Expr.eval (scope : Scope) (e : Expr) : Except EvalError Value :=
  e.evalM scope

@[inherit_doc Expr.rootM]
def Expr.root (scope : Scope) (e : Expr) : Except EvalError (String × List String) :=
  e.rootM scope

@[inherit_doc evalArgumentsM]
def evalArguments (scope : Scope) (args : List Expr) : Except EvalError (List Value) :=
  evalArgumentsM scope args

/-- Why a formula has no value. -/
inductive FormulaError where
  | parse (e : ParseError)
  | eval (e : EvalError)
  deriving DecidableEq, Repr

def FormulaError.message : FormulaError → String
  | .parse e => e.message
  | .eval e => e.message

/-- A formula once read: its tree, or why it has none. -/
abbrev Program := Except ParseError Expr

/-- The value of a program, by the way in which its formula is evaluated. -/
def runProgramBy {m : Type → Type} [Monad m] (eval : Expr → m (Except EvalError Value))
    (program : Program) : m (Except FormulaError Value) :=
  match program with
  | .error e => return .error (.parse e)
  | .ok expr => do
    match ← eval expr with
    | .ok value => return .ok value
    | .error e => return .error (.eval e)

/-- The value of a program. -/
def runProgram (program : Program) (scope : Scope) : Except FormulaError Value :=
  Id.run (runProgramBy (fun expr => return expr.eval scope) program)

/-- The value of the formula in a text. -/
def evaluate (source : String) (scope : Scope) : Except FormulaError Value :=
  runProgram (Expr.parse source) scope

end Playfield.Formula
