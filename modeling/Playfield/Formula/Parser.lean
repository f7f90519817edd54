import Playfield.Formula.Expr
import Playfield.Formula.Lexer

/-!
From tokens to trees.

A rule reads a prefix of the tokens and returns what is left; where it fails it says which tokens
were left then, and the position in the text follows from their number. Binary operators come in
six levels, all of them left-associative chains; a power takes an operand with prefix operators on
its right. `ternary n` and `prefixed n` may be open inside each other `n` times, so the recursion is
on that number, and the chains end because every link takes an operator token.
-/

namespace Playfield.Formula

/-- Where a rule gave up: the fault and the tokens that were left. -/
structure Stop where
  fault : SyntaxFault
  rest : List Token

/-- A rule of the grammar. -/
abbrev Rule (α : Type) := List Token → Except Stop (α × List Token)

/-- The most tokens that a formula may have. -/
def maxTokens : Nat := 1024

/-- How many conditionals and prefix operators may be open at once. -/
def maxNesting : Nat := 256

/-- Take one symbol. -/
def expect (s : Symbol) (what : Expectation) : List Token → Except Stop (List Token)
  | .symbol found :: rest =>
    if found = s then .ok rest else .error ⟨.expected what, .symbol found :: rest⟩
  | rest => .error ⟨.expected what, rest⟩

/-! ### Binary operators -/

def disjunction? : Token → Option BinaryOp
  | .symbol .either => some .or
  | .name id => if id = "or" then some .or else none
  | _ => none

def conjunction? : Token → Option BinaryOp
  | .symbol .both => some .and
  | .name id => if id = "and" then some .and else none
  | _ => none

def equality? : Token → Option BinaryOp
  | .symbol .equal => some .equal
  | .symbol .notEqual => some .notEqual
  | _ => none

def comparison? : Token → Option BinaryOp
  | .symbol .less => some .less
  | .symbol .lessEqual => some .lessEqual
  | .symbol .greater => some .greater
  | .symbol .greaterEqual => some .greaterEqual
  | _ => none

def sum? : Token → Option BinaryOp
  | .symbol .plus => some .add
  | .symbol .minus => some .subtract
  | _ => none

def product? : Token → Option BinaryOp
  | .symbol .star => some .multiply
  | .symbol .slash => some .divide
  | .symbol .percent => some .modulo
  | _ => none

/-- The levels of binary operators, the loosest first. -/
def levels : List (Token → Option BinaryOp) :=
  [disjunction?, conjunction?, equality?, comparison?, sum?, product?]

/-- Extend `left` by links of one level. The first argument bounds their number. -/
def links (op? : Token → Option BinaryOp) (operand : Rule Expr) : Nat → Expr → Rule Expr
  | 0, left, tokens => .ok (left, tokens)
  | _ + 1, left, [] => .ok (left, [])
  | n + 1, left, token :: tokens =>
    match op? token with
    | none => .ok (left, token :: tokens)
    | some op =>
      match operand tokens with
      | .error stop => .error stop
      | .ok (right, rest) => links op? operand n (.binary op left right) rest

/-- A left-associative chain of operands. -/
def chain (op? : Token → Option BinaryOp) (operand : Rule Expr) : Rule Expr := fun tokens =>
  match operand tokens with
  | .error stop => .error stop
  | .ok (left, rest) => links op? operand rest.length left rest

/-- Chains of every level, each made of those of the next. -/
def chains (operand : Rule Expr) : List (Token → Option BinaryOp) → Rule Expr
  | [] => operand
  | op? :: tighter => chain op? (chains operand tighter)

/-! ### Operands -/

/-- The arguments of a call after its opening parenthesis. The first number bounds how many. -/
def arguments (formula : Rule Expr) : Nat → Rule (List Expr)
  | 0, tokens => .error ⟨.unexpectedEnd, tokens⟩
  | n + 1, tokens =>
    match formula tokens with
    | .error stop => .error stop
    | .ok (first, .symbol .comma :: rest) =>
      match arguments formula n rest with
      | .error stop => .error stop
      | .ok (more, rest) => .ok (first :: more, rest)
    | .ok (first, rest) =>
      match expect .rightParen .closingArguments rest with
      | .error stop => .error stop
      | .ok rest => .ok ([first], rest)

/-- What a name stands for: a truth value, a call if a parenthesis follows, or itself. -/
def named (formula : Rule Expr) (id : String) : Rule Expr := fun tokens =>
  if id = "true" then .ok (.truth true, tokens)
  else if id = "false" then .ok (.truth false, tokens)
  else
    match tokens with
    | .symbol .leftParen :: .symbol .rightParen :: rest => .ok (.call id [], rest)
    | .symbol .leftParen :: rest =>
      match arguments formula (rest.length + 1) rest with
      | .error stop => .error stop
      | .ok (args, rest) => .ok (.call id args, rest)
    | rest => .ok (.name id, rest)

/-- A literal, a name, a call or a formula in parentheses. -/
def primary (formula : Rule Expr) : Rule Expr
  | [] => .error ⟨.unexpectedEnd, []⟩
  | .number value :: rest => .ok (.number value, rest)
  | .text content :: rest => .ok (.text content, rest)
  | .name id :: rest => named formula id rest
  | .symbol .leftParen :: rest =>
    match formula rest with
    | .error stop => .error stop
    | .ok (inner, rest) =>
      match expect .rightParen .closingParen rest with
      | .error stop => .error stop
      | .ok rest => .ok (inner, rest)
  | .symbol s :: rest => .error ⟨.unexpectedSymbol s, .symbol s :: rest⟩

/-- Member selections after an operand. The first number bounds how many. -/
def selections (formula : Rule Expr) : Nat → Expr → Rule Expr
  | n + 1, object, .symbol .dot :: rest =>
    match rest with
    | .name field :: rest => selections formula n (.member object field) rest
    | _ => .error ⟨.expected .memberName, rest.drop 1⟩
  | n + 1, object, .symbol .leftBracket :: rest =>
    match formula rest with
    | .error stop => .error stop
    | .ok (key, rest) =>
      match expect .rightBracket .closingBracket rest with
      | .error stop => .error stop
      | .ok rest => selections formula n (.index object key) rest
  | _, object, rest => .ok (object, rest)

/-- An operand with its selections. -/
def selected (formula : Rule Expr) : Rule Expr := fun tokens =>
  match primary formula tokens with
  | .error stop => .error stop
  | .ok (object, rest) => selections formula rest.length object rest

/-- An operand, raised to a power if a caret follows. -/
def power (formula exponent : Rule Expr) : Rule Expr := fun tokens =>
  match selected formula tokens with
  | .ok (base, .symbol .caret :: rest) =>
    match exponent rest with
    | .error stop => .error stop
    | .ok (raised, rest) => .ok (.binary .power base raised, rest)
  | result => result

/-! ### Prefix operators and conditionals -/

def unary? : Token → Option UnaryOp
  | .symbol .minus => some .negate
  | .symbol .plus => some .plus
  | .symbol .bang => some .not
  | .name id => if id = "not" then some .not else none
  | _ => none

/-- A prefix operator before an operand, or a power. -/
def prefixedOnce (formula operand : Rule Expr) : Rule Expr
  | [] => power formula operand []
  | token :: rest =>
    match unary? token with
    | none => power formula operand (token :: rest)
    | some op =>
      match operand rest with
      | .error stop => .error stop
      | .ok (inner, rest) => .ok (.unary op inner, rest)

/-- A chain of the loosest level, or a choice between two formulas if a question mark follows. -/
def conditional (formula operand : Rule Expr) : Rule Expr := fun tokens =>
  match chains operand levels tokens with
  | .ok (condition, .symbol .question :: rest) =>
    match formula rest with
    | .error stop => .error stop
    | .ok (yes, rest) =>
      match expect .colon .colon rest with
      | .error stop => .error stop
      | .ok rest =>
        match formula rest with
        | .error stop => .error stop
        | .ok (no, rest) => .ok (.conditional condition yes no, rest)
  | result => result

mutual

/-- An operand of a product, with `n` more rules allowed to open. -/
def prefixed : Nat → Rule Expr
  | 0 => fun tokens => .error ⟨.tooDeep, tokens⟩
  | n + 1 => prefixedOnce (ternary n) (prefixed n)

/-- A formula, with `n` more rules allowed to open. -/
def ternary : Nat → Rule Expr
  | 0 => fun tokens => .error ⟨.tooDeep, tokens⟩
  | n + 1 => conditional (ternary n) (prefixed n)

end

/-! ### Whole formulas -/

/-- The tree of a whole formula. -/
def Expr.ofTokens (tokens : List Token) : Except Stop Expr :=
  if maxTokens < tokens.length then .error ⟨.tooLong, tokens⟩
  else
    match ternary maxNesting tokens with
    | .error stop => .error stop
    | .ok (formula, []) => .ok formula
    | .ok (_, rest) => .error ⟨.trailingInput, rest⟩

/-- Where a rule gave up, in the text: at the first token left, or at the end of the text. A formula
that is too long is at fault as a whole. -/
def Stop.position (stop : Stop) (tokens : List Located) (size : Nat) : Nat :=
  if stop.fault = .tooLong then 0
  else
    match tokens.drop (tokens.length - stop.rest.length) with
    | [] => size
    | first :: _ => first.position

/-- The tree of the formula in a text. The end of the text is counted in bytes, as its size. -/
def Expr.parse (source : String) : Except ParseError Expr :=
  match scan source with
  | .error e => .error e
  | .ok tokens =>
    match Expr.ofTokens (tokens.map (·.token)) with
    | .ok formula => .ok formula
    | .error stop => .error ⟨stop.position tokens source.utf8ByteSize, stop.fault⟩

end Playfield.Formula
