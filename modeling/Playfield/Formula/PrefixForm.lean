import Playfield.Binary32.Shortest
import Playfield.Formula.Expr
import Playfield.Json.Quoted

/-!
Formulas written with every operator in front and every part in parentheses, so that the tree is
plain to see.
-/

namespace Playfield.Formula

def UnaryOp.label : UnaryOp → String
  | .negate => "Neg"
  | .plus => "Plus"
  | .not => "Not"

def BinaryOp.label : BinaryOp → String
  | .add => "Add"
  | .subtract => "Sub"
  | .multiply => "Mul"
  | .divide => "Div"
  | .modulo => "Mod"
  | .power => "Pow"
  | .greater => "Gt"
  | .less => "Lt"
  | .greaterEqual => "Gte"
  | .lessEqual => "Lte"
  | .equal => "Eq"
  | .notEqual => "Neq"
  | .and => "And"
  | .or => "Or"

mutual

/-- The prefix form of a formula. -/
def Expr.prefixForm : Expr → String
  | .number value => "(num " ++ Binary32.text value ++ ")"
  | .text content => "(str " ++ Json.quote content ++ ")"
  | .truth value => if value then "(bool true)" else "(bool false)"
  | .name id => "(id " ++ Json.quote id ++ ")"
  | .member object field =>
    "(member " ++ Json.quote field ++ " " ++ object.prefixForm ++ ")"
  | .index object key => "(index " ++ object.prefixForm ++ " " ++ key.prefixForm ++ ")"
  | .unary op operand => "(" ++ op.label ++ " " ++ operand.prefixForm ++ ")"
  | .binary op left right =>
    "(" ++ op.label ++ " " ++ left.prefixForm ++ " " ++ right.prefixForm ++ ")"
  | .conditional condition yes no =>
    "(if " ++ condition.prefixForm ++ " " ++ yes.prefixForm ++ " " ++ no.prefixForm ++ ")"
  | .call function args => "(call " ++ Json.quote function ++ argumentsForm args ++ ")"

def argumentsForm : List Expr → String
  | [] => ""
  | first :: rest => " " ++ first.prefixForm ++ argumentsForm rest

end

end Playfield.Formula
