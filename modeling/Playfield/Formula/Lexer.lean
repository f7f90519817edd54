import Playfield.Binary32.Decimal
import Playfield.Formula.Token
import Playfield.Text.Class

/-!
From the characters of a formula to its tokens.

`lexeme` reads one token and says how many characters it takes beyond its first; `scan` walks the
characters once, passing over those. A token stands at the index of its first character.
-/

namespace Playfield.Formula

/-- A token and the index of its first character. -/
structure Located where
  token : Token
  position : Nat
  deriving DecidableEq

/-! ### Lexemes -/

def startsName (c : Char) : Bool :=
  Text.isLetter c || c == '_' || c == '$'

def continuesName (c : Char) : Bool :=
  Text.isLetter c || Text.isNumber c || c == '_' || c == '$'

/-- The length of an exponent at the front: a letter `e`, an optional sign and at least one digit.
Without a digit there is none, and the letter starts a name. -/
def exponentWidth : List Char → Nat
  | [] => 0
  | c :: cs =>
    if c = 'e' || c = 'E' then
      let sign := if cs.head?.any (fun s => s == '+' || s == '-') then 1 else 0
      let digits := ((cs.drop sign).takeWhile Char.isDigit).length
      if 0 < digits then 1 + sign + digits else 0
    else 0

/-- A number: digits and points, then an exponent if one follows. -/
def numberLexeme (cs : List Char) : Except SyntaxFault (Token × Nat) :=
  let mantissa := (cs.takeWhile fun c => c.isDigit || c == '.').length
  let width := mantissa + exponentWidth (cs.drop mantissa)
  let text := cs.take width
  match Binary32.ofChars? text with
  | some value => .ok (.number value, width - 1)
  | none => .error (.invalidNumber (String.ofList text))

/-- The characters of a text up to its closing quote, most recent first, and how many characters of
the formula they take, the quote included. A backslash makes the next character plain, or a line
break or tab of `n` or `t`. -/
def quoted (quote : Char) : List Char → List Char → Nat → Option (List Char × Nat)
  | [], _, _ => none
  | c :: cs, content, width =>
    if c = quote then some (content, width + 1)
    else if c = '\\' then
      match cs with
      | [] => none
      | e :: rest =>
        let plain := if e = 'n' then '\n' else if e = 't' then '\t' else e
        quoted quote rest (plain :: content) (width + 2)
    else quoted quote cs (c :: content) (width + 1)

/-- The symbol at the front: two characters before one. -/
def symbol? : Char → List Char → Option (Symbol × Nat)
  | '=', '=' :: _ => some (.equal, 1)
  | '!', '=' :: _ => some (.notEqual, 1)
  | '<', '=' :: _ => some (.lessEqual, 1)
  | '>', '=' :: _ => some (.greaterEqual, 1)
  | '&', '&' :: _ => some (.both, 1)
  | '|', '|' :: _ => some (.either, 1)
  | '+', _ => some (.plus, 0)
  | '-', _ => some (.minus, 0)
  | '*', _ => some (.star, 0)
  | '/', _ => some (.slash, 0)
  | '%', _ => some (.percent, 0)
  | '^', _ => some (.caret, 0)
  | '(', _ => some (.leftParen, 0)
  | ')', _ => some (.rightParen, 0)
  | '[', _ => some (.leftBracket, 0)
  | ']', _ => some (.rightBracket, 0)
  | ',', _ => some (.comma, 0)
  | '.', _ => some (.dot, 0)
  | '?', _ => some (.question, 0)
  | ':', _ => some (.colon, 0)
  | '!', _ => some (.bang, 0)
  | '<', _ => some (.less, 0)
  | '>', _ => some (.greater, 0)
  | _, _ => none

/-- Whether a number starts here: at a digit, or at a point before a digit unless the point selects
a member of the operand before it. -/
def startsNumber (afterOperand : Bool) (c : Char) (cs : List Char) : Bool :=
  c.isDigit || (c == '.' && !afterOperand && (cs.head?.any Char.isDigit))

/-- The token that starts with `c`, and how many characters of `cs` belong to it. -/
def lexeme (afterOperand : Bool) (c : Char) (cs : List Char) :
    Except SyntaxFault (Token × Nat) :=
  if startsNumber afterOperand c cs then numberLexeme (c :: cs)
  else if startsName c then
    let more := cs.takeWhile continuesName
    .ok (.name (String.ofList (c :: more)), more.length)
  else if c = '"' || c = '\'' then
    match quoted c cs [] 0 with
    | some (content, width) => .ok (.text (String.ofList content.reverse), width)
    | none => .error .unterminatedText
  else
    match symbol? c cs with
    | some (s, more) => .ok (.symbol s, more)
    | none => .error (.unexpectedCharacter c)

/-! ### The walk -/

/-- Walk the characters from index `position` on. `skip` characters still belong to the token read
last; `found` holds the tokens so far, most recent first. -/
def scanFrom : List Char → Nat → Nat → List Located → Except ParseError (List Located)
  | [], _, _, found => .ok found.reverse
  | _ :: cs, position, skip + 1, found => scanFrom cs (position + 1) skip found
  | c :: cs, position, 0, found =>
    if Text.isBlank c then scanFrom cs (position + 1) 0 found
    else
      match lexeme (found.head?.any (·.token.endsOperand)) c cs with
      | .ok (token, more) => scanFrom cs (position + 1) more (⟨token, position⟩ :: found)
      | .error fault => .error ⟨position, fault⟩

/-- The tokens of a formula in order. -/
def scan (source : String) : Except ParseError (List Located) :=
  scanFrom source.toList 0 0 []

end Playfield.Formula
