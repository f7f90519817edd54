/-!
JSON values.

A number is kept as the single-precision number or the integer that it is read as: fields of the
library are of these two kinds, and an integer in a file may serve as either. An object keeps its
pairs in order, so a name that stands twice is seen twice. What a text holds but no value can is
`unreadable`; it does no harm in a part that nobody asks for.
-/

namespace Playfield

/-- A JSON value. -/
inductive Json where
  | null
  | bool (value : Bool)
  | int (value : Int)
  | real (value : Float32)
  | text (content : String)
  | list (items : List Json)
  | object (pairs : List (String × Json))
  /-- A number beyond double precision, a text with half a character, or a list or an object too
  deep inside others. -/
  | unreadable
  deriving Inhabited

namespace Json

def ofNat (n : Nat) : Json := .int n

/-- A number, or null for what JSON has no numeral for. -/
def ofReal (x : Float32) : Json :=
  if x.isFinite then .real x else .null

def ofOption (value : Option α) (encode : α → Json) : Json :=
  match value with
  | some v => encode v
  | none => .null

mutual

/-- Whether a value can be read in all its parts. -/
def readable : Json → Bool
  | .unreadable => false
  | .list items => readableItems items
  | .object pairs => readablePairs pairs
  | _ => true

def readableItems : List Json → Bool
  | [] => true
  | first :: rest => first.readable && readableItems rest

def readablePairs : List (String × Json) → Bool
  | [] => true
  | (_, first) :: rest => first.readable && readablePairs rest

end

/-- A pair for a value that is there, none for one that is not. -/
def pair? (name : String) (value : Option α) (encode : α → Json) : List (String × Json) :=
  match value with
  | some v => [(name, encode v)]
  | none => []

end Json

end Playfield
