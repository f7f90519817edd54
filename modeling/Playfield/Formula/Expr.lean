/-!
Formulas as trees.
-/

namespace Playfield.Formula

inductive UnaryOp where
  | negate | plus | not
  deriving DecidableEq, Repr

inductive BinaryOp where
  | add | subtract | multiply | divide | modulo | power
  | greater | less | greaterEqual | lessEqual | equal | notEqual
  | and | or
  deriving DecidableEq, Repr

/-- A formula. -/
inductive Expr where
  | number (value : Float32)
  | text (content : String)
  | truth (value : Bool)
  | name (id : String)
  | member (object : Expr) (field : String)
  | index (object key : Expr)
  | unary (op : UnaryOp) (operand : Expr)
  | binary (op : BinaryOp) (left right : Expr)
  | conditional (condition yes no : Expr)
  | call (function : String) (arguments : List Expr)

end Playfield.Formula
