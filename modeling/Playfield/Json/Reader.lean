import Playfield.Json.Numeral

/-!
JSON from text, strictly: one value, nothing after it, no control character inside a text.

Three things keep to the grammar but have no value, and are read as `unreadable`: a number beyond
double precision, a text with half of a character pair, and a list or an object inside 127 others.
The recursion is on a number that no depth of a text can exceed, its length.
-/

namespace Playfield.Json

/-- Why a text is no JSON. -/
inductive ReadFault where
  | unexpectedEnd
  | unexpectedCharacter (c : Char)
  | invalidNumber
  | invalidEscape
  | controlCharacter
  | trailingCharacters
  | unreadable
  deriving DecidableEq, Repr

def ReadFault.message : ReadFault → String
  | .unexpectedEnd => "unexpected end"
  | .unexpectedCharacter c => "unexpected character '" ++ c.toString ++ "'"
  | .invalidNumber => "invalid number"
  | .invalidEscape => "invalid escape"
  | .controlCharacter => "control character in a text"
  | .trailingCharacters => "trailing characters"
  | .unreadable => "number out of range, lone surrogate or nesting too deep"

/-- A rule reads a prefix and returns what is left. -/
abbrev ReadRule (α : Type) := List Char → Except ReadFault (α × List Char)

def isBlank (c : Char) : Bool :=
  c == ' ' || c == '\n' || c == '\t' || c == '\r'

def skipBlanks (cs : List Char) : List Char :=
  cs.dropWhile isBlank

def unexpected : List Char → ReadFault
  | [] => .unexpectedEnd
  | c :: _ => .unexpectedCharacter c

/-! ### Texts -/

def hexValue? (c : Char) : Option Nat :=
  if c.isDigit then some (c.toNat - '0'.toNat)
  else if 'a' ≤ c && c ≤ 'f' then some (c.toNat - 'a'.toNat + 10)
  else if 'A' ≤ c && c ≤ 'F' then some (c.toNat - 'A'.toNat + 10)
  else none

/-- The number of four hexadecimal digits. -/
def hexValue₄? (a b c d : Char) : Option Nat := do
  return (((← hexValue? a) * 16 + (← hexValue? b)) * 16 + (← hexValue? c)) * 16 + (← hexValue? d)

def escaped? (c : Char) : Option Char :=
  if c = '"' || c = '\\' || c = '/' then some c
  else if c = 'b' then some '\x08'
  else if c = 'f' then some '\x0c'
  else if c = 'n' then some '\n'
  else if c = 'r' then some '\r'
  else if c = 't' then some '\t'
  else none

def isUpperHalf (unit : Nat) : Bool :=
  0xD800 ≤ unit && unit < 0xDC00

def isLowerHalf (unit : Nat) : Bool :=
  0xDC00 ≤ unit && unit < 0xE000

/-- The character of two halves. -/
def joinHalves (upper lower : Nat) : Char :=
  Char.ofNat (0x10000 + (upper - 0xD800) * 0x400 + (lower - 0xDC00))

/-- The characters of a text up to here, when something other than a lower half comes next. -/
def settled (upper : Option Nat) (content : Option (List Char)) : Option (List Char) :=
  if upper.isSome then none else content

/-- A text after its opening quote; none if half a character stands alone in it. `upper` is the
first half of a character whose second half must come next; `content` holds the characters so far,
most recent first. -/
def textBody : List Char → Option Nat → Option (List Char) →
    Except ReadFault (Option String × List Char)
  | [], _, _ => .error .unexpectedEnd
  | '\\' :: 'u' :: a :: b :: c :: d :: rest, upper, content =>
    match hexValue₄? a b c d, upper with
    | none, _ => .error .invalidEscape
    | some unit, some high =>
      if isLowerHalf unit then
        textBody rest none (content.map fun cs => joinHalves high unit :: cs)
      else textBody rest none none
    | some unit, none =>
      if isUpperHalf unit then textBody rest (some unit) content
      else if isLowerHalf unit then textBody rest none none
      else textBody rest none (content.map fun cs => Char.ofNat unit :: cs)
  | '\\' :: c :: rest, upper, content =>
    match escaped? c with
    | some plain => textBody rest none ((settled upper content).map fun cs => plain :: cs)
    | none => .error .invalidEscape
  | c :: rest, upper, content =>
    if c = '"' then .ok ((settled upper content).map fun cs => String.ofList cs.reverse, rest)
    else if c.toNat < 0x20 then .error .controlCharacter
    else textBody rest none ((settled upper content).map fun cs => c :: cs)

def quotedText : ReadRule (Option String) := fun cs =>
  textBody cs none (some [])

/-! ### Numbers -/

def isNumberCharacter (c : Char) : Bool :=
  c.isDigit || c == '+' || c == '-' || c == '.' || c == 'e' || c == 'E'

/-- The value of a numeral without its sign. Its digits before the point start with no needless
zero, and a point stands between digits. -/
def unsigned (negative : Bool) (body : List Char) : Except ReadFault Json :=
  let whole := body.takeWhile Char.isDigit
  let rest := body.dropWhile Char.isDigit
  let padded := whole.head? == some '0' && 1 < whole.length
  let bare := rest.head? == some '.' && !(rest.drop 1).head?.any Char.isDigit
  if whole.isEmpty || padded || bare then .error .invalidNumber
  else
    match Numeral.ofChars? body with
    | none => .error .invalidNumber
    | some n => .ok (ofNumeral negative rest.isEmpty n)

def number : ReadRule Json := fun cs =>
  let letters := cs.takeWhile isNumberCharacter
  let value :=
    match letters with
    | '-' :: body => unsigned true body
    | body => unsigned false body
  match value with
  | .ok value => .ok (value, cs.drop letters.length)
  | .error fault => .error fault

/-! ### Values -/

/-- A fixed word. -/
def word (letters : List Char) (value : Json) : ReadRule Json := fun cs =>
  if letters.isPrefixOf cs then .ok (value, cs.drop letters.length)
  else .error (unexpected cs)

/-- The items of a list up to its closing bracket. The first number bounds how many. -/
def itemsBody (item : ReadRule Json) :
    Nat → List Json → List Char → Except ReadFault (List Json × List Char)
  | 0, _, cs => .error (unexpected cs)
  | n + 1, found, cs =>
    match item (skipBlanks cs) with
    | .error fault => .error fault
    | .ok (value, rest) =>
      match skipBlanks rest with
      | ',' :: rest => itemsBody item n (value :: found) rest
      | ']' :: rest => .ok ((value :: found).reverse, rest)
      | rest => .error (unexpected rest)

/-- One name with its value; none if the name is no text. -/
def member (item : ReadRule Json) : ReadRule (Option (String × Json)) := fun cs =>
  match skipBlanks cs with
  | '"' :: rest =>
    match quotedText rest with
    | .error fault => .error fault
    | .ok (name, rest) =>
      match skipBlanks rest with
      | ':' :: rest =>
        match item (skipBlanks rest) with
        | .error fault => .error fault
        | .ok (value, rest) => .ok (name.map fun n => (n, value), rest)
      | rest => .error (unexpected rest)
  | rest => .error (unexpected rest)

/-- The pairs of an object up to its closing brace, if all have names. The first number bounds how
many. -/
def pairsBody (item : ReadRule Json) : Nat → Option (List (String × Json)) →
    ReadRule (Option (List (String × Json)))
  | 0, _, cs => .error (unexpected cs)
  | n + 1, found, cs =>
    match member item cs with
    | .error fault => .error fault
    | .ok (pair, rest) =>
      let found := pair.bind fun p => found.map fun ps => p :: ps
      match skipBlanks rest with
      | ',' :: rest => pairsBody item n found rest
      | '\x7d' :: rest => .ok (found.map List.reverse, rest)
      | rest => .error (unexpected rest)

def listBody (item : ReadRule Json) : ReadRule Json := fun cs =>
  match skipBlanks cs with
  | ']' :: rest => .ok (.list [], rest)
  | cs =>
    match itemsBody item (cs.length + 1) [] cs with
    | .error fault => .error fault
    | .ok (items, rest) => .ok (.list items, rest)

def objectBody (item : ReadRule Json) : ReadRule Json := fun cs =>
  match skipBlanks cs with
  | '\x7d' :: rest => .ok (.object [], rest)
  | cs =>
    match pairsBody item (cs.length + 1) (some []) cs with
    | .error fault => .error fault
    | .ok (some pairs, rest) => .ok (.object pairs, rest)
    | .ok (none, rest) => .ok (.unreadable, rest)

/-- What is too deep inside others, whatever it is. -/
def tooDeep (rule : ReadRule Json) : ReadRule Json := fun cs =>
  match rule cs with
  | .error fault => .error fault
  | .ok (_, rest) => .ok (.unreadable, rest)

/-- A value whose items are read by `item`. It is a list or an object only if there is room. -/
def valueOver (item : ReadRule Json) (room : Bool) : ReadRule Json
  | [] => .error .unexpectedEnd
  | '[' :: rest => if room then listBody item rest else tooDeep (listBody item) rest
  | '\x7b' :: rest => if room then objectBody item rest else tooDeep (objectBody item) rest
  | '"' :: rest =>
    match quotedText rest with
    | .error fault => .error fault
    | .ok (some content, rest) => .ok (.text content, rest)
    | .ok (none, rest) => .ok (.unreadable, rest)
  | 'n' :: rest => word "null".toList .null ('n' :: rest)
  | 't' :: rest => word "true".toList (.bool true) ('t' :: rest)
  | 'f' :: rest => word "false".toList (.bool false) ('f' :: rest)
  | c :: rest =>
    if c.isDigit || c == '-' then number (c :: rest) else .error (.unexpectedCharacter c)

/-- A value with at most `depth` lists and objects inside each other. The first number bounds how
many there are, readable or not. -/
def value : Nat → Nat → ReadRule Json
  | 0, _, cs => .error (unexpected cs)
  | size + 1, depth, cs => valueOver (value size (depth - 1)) (0 < depth) cs

def maxDepth : Nat := 127

/-- The one value of a text. -/
def ofText (content : String) : Except ReadFault Json :=
  let cs := skipBlanks content.toList
  match value (cs.length + 1) maxDepth cs with
  | .error fault => .error fault
  | .ok (found, rest) =>
    if (skipBlanks rest).isEmpty then .ok found else .error .trailingCharacters

end Playfield.Json
