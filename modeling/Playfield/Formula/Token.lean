/-!
The words of the formula language, and the ways in which a text fails to be a formula.
-/

namespace Playfield.Formula

/-- Punctuation. -/
inductive Symbol where
  | plus | minus | star | slash | percent | caret
  | leftParen | rightParen | leftBracket | rightBracket
  | comma | dot | question | colon | bang
  | equal | notEqual | less | lessEqual | greater | greaterEqual | both | either
  deriving DecidableEq, Repr

/-- The name under which a misplaced symbol is reported. -/
def Symbol.label : Symbol → String
  | .plus => "Plus"
  | .minus => "Minus"
  | .star => "Star"
  | .slash => "Slash"
  | .percent => "Percent"
  | .caret => "Caret"
  | .leftParen => "LParen"
  | .rightParen => "RParen"
  | .leftBracket => "LBracket"
  | .rightBracket => "RBracket"
  | .comma => "Comma"
  | .dot => "Dot"
  | .question => "Question"
  | .colon => "Colon"
  | .bang => "Bang"
  | .equal => "EqEq"
  | .notEqual => "NotEq"
  | .less => "Lt"
  | .lessEqual => "Lte"
  | .greater => "Gt"
  | .greaterEqual => "Gte"
  | .both => "AndAnd"
  | .either => "OrOr"

/-- One word of a formula. Keywords are names until the grammar gives them their place. -/
inductive Token where
  | number (value : Float32)
  | text (content : String)
  | name (id : String)
  | symbol (s : Symbol)
  deriving DecidableEq

/-- Whether a token can end an operand, so that a point after it selects a member. -/
def Token.endsOperand : Token → Bool
  | .number _ | .text _ | .name _ => true
  | .symbol .rightParen | .symbol .rightBracket => true
  | .symbol _ => false

/-- What a place in a formula calls for. -/
inductive Expectation where
  | colon | closingBracket | closingParen | closingArguments | memberName
  deriving DecidableEq, Repr

def Expectation.description : Expectation → String
  | .colon => "':'"
  | .closingBracket => "']'"
  | .closingParen => "')'"
  | .closingArguments => "')' after arguments"
  | .memberName => "member name after '.'"

/-- Why a text is no formula. -/
inductive SyntaxFault where
  | invalidNumber (text : String)
  | unterminatedText
  | unexpectedCharacter (c : Char)
  | tooLong
  | tooDeep
  | expected (what : Expectation)
  | unexpectedSymbol (s : Symbol)
  | unexpectedEnd
  | trailingInput
  deriving DecidableEq, Repr

def SyntaxFault.message : SyntaxFault → String
  | .invalidNumber text => s!"invalid number '{text}'"
  | .unterminatedText => "unterminated string"
  | .unexpectedCharacter c => s!"unexpected character '{c}'"
  | .tooLong => "expression too long"
  | .tooDeep => "expression nested too deeply"
  | .expected what => "expected " ++ what.description
  | .unexpectedSymbol s => "unexpected token " ++ s.label
  | .unexpectedEnd => "unexpected end of expression"
  | .trailingInput => "unexpected trailing input"

/-- A fault and where in the text it lies. -/
structure ParseError where
  position : Nat
  fault : SyntaxFault
  deriving DecidableEq, Repr

def ParseError.message (e : ParseError) : String :=
  s!"parse error at {e.position}: " ++ e.fault.message

end Playfield.Formula
