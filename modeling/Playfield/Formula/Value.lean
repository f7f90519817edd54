import Playfield.Binary32.Shortest
import Playfield.IdMap
import Playfield.Text.Class
import Playfield.Vec2

/-!
What formulas compute with: the values, the names that a formula can see, and the ways in which an
evaluation fails.
-/

namespace Playfield.Formula

/-- The result of a formula. -/
inductive Value where
  | number (value : Float32)
  | truth (value : Bool)
  | text (content : String)
  deriving DecidableEq

/-- What an operation called for. -/
inductive ValueKind where
  | number | scalar | path
  deriving DecidableEq, Repr

def ValueKind.description : ValueKind → String
  | .number => "number"
  | .scalar => "scalar, found namespace"
  | .path => "namespace"

/-- How many arguments a function takes. -/
inductive Arity where
  | exactly (count : Nat)
  | atLeast (count : Nat)
  deriving DecidableEq, Repr

def Arity.admits : Arity → Nat → Bool
  | .exactly count, given => given == count
  | .atLeast count, given => count ≤ given

def Arity.description : Arity → String
  | .exactly count => toString count
  | .atLeast count => s!"at least {count}"

/-- Why an evaluation fails. -/
inductive EvalError where
  | unknownIdentifier (id : String)
  | unknownMember (path : String)
  | unknownFunction (function : String)
  | argumentCount (function : String) (expected : Arity) (given : Nat)
  | divisionByZero
  | typeMismatch (expected : ValueKind)
  | nonFinite
  deriving DecidableEq, Repr

def EvalError.message : EvalError → String
  | .unknownIdentifier id => "unknown identifier: " ++ id
  | .unknownMember path => "unknown member: " ++ path
  | .unknownFunction function => "unknown function: " ++ function
  | .argumentCount function expected given =>
    "function " ++ function ++ " expected " ++ expected.description ++ " args, got " ++
      toString given
  | .divisionByZero => "division by zero"
  | .typeMismatch expected => "type mismatch: expected " ++ expected.description
  | .nonFinite => "result is not a finite number"

namespace Value

/-- A value as a number: a truth value counts one or zero, a text is read with the white space
around it dropped. -/
def asNumber : Value → Except EvalError Float32
  | .number x => .ok x
  | .truth value => .ok (if value then 1 else 0)
  | .text content =>
    match Binary32.ofChars? (Text.trim content.toList) with
    | some x => .ok x
    | none => .error (.typeMismatch .number)

/-- Whether a value counts as true: a number that is neither zero nor no number, a text with any
character. -/
def truthy : Value → Bool
  | .number x => !(x == 0) && !x.isNaN
  | .truth value => value
  | .text content => !content.isEmpty

/-- A value as text. -/
def display : Value → String
  | .number x => Binary32.text x
  | .truth value => if value then "true" else "false"
  | .text content => content

/-- Equality across kinds: texts with texts and truth values with truth values directly, all else as
numbers where both sides are numbers. -/
def same : Value → Value → Bool
  | .text a, .text b => a == b
  | .truth a, .truth b => a == b
  | a, b =>
    match a.asNumber, b.asNumber with
    | .ok x, .ok y => x == y
    | _, _ => false

end Value

/-- The numeric fields that an object shows to formulas. -/
abbrev Fields := IdMap Float32

/-- The fields of every object resolved so far in a frame. -/
abbrev Published := IdMap Fields

/-- Everything that a formula can see. -/
structure Scope where
  frame : Nat
  t : Float32
  width : Float32
  height : Float32
  objects : Published
  /-- The position of the parent of the object whose formula it is, if that one was resolved. -/
  parent : Option Vec2

end Playfield.Formula
