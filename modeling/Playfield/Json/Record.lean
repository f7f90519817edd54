import Playfield.Binary32
import Playfield.Json

/-!
Reading the fields of structures from JSON values.

A structure is an object whose names are its fields, or a list of its fields in their order. Names
that it does not know are passed over; one that it knows may stand only once. How a field reads an
absent or a null value is its own choice: `required`, `optional`, `withDefault` or `present`.
-/

namespace Playfield.Json

/-- Why a value does not fit a type. -/
inductive DecodeError where
  | mismatch (expected : String)
  | missing (field : String)
  | repeated (field : String)
  | tooMany (expected : String)
  | outOfRange
  deriving DecidableEq, Repr

def DecodeError.message : DecodeError → String
  | .mismatch expected => "invalid value, expected " ++ expected
  | .missing field => "missing field '" ++ field ++ "'"
  | .repeated field => "duplicate field '" ++ field ++ "'"
  | .tooMany expected => "too many elements, expected " ++ expected
  | .outOfRange => "number out of range"

abbrev Decoded (α : Type) := Except DecodeError α

/-! ### Plain values -/

/-- Any number, an integer included. -/
def decodeReal : Json → Decoded Float32
  | .int n => .ok (Binary32.ofInt n)
  | .real x => .ok x
  | _ => .error (.mismatch "number")

/-- An integer from zero up to a bound that it stays below. -/
def decodeNat (bound : Nat) : Json → Decoded Nat
  | .int (.ofNat n) => if n < bound then .ok n else .error .outOfRange
  | .int (.negSucc _) => .error .outOfRange
  | _ => .error (.mismatch "integer")

def decodeWord32 : Json → Decoded Nat := decodeNat UInt32.size
def decodeWord64 : Json → Decoded Nat := decodeNat UInt64.size

def decodeBool : Json → Decoded Bool
  | .bool value => .ok value
  | _ => .error (.mismatch "truth value")

def decodeText : Json → Decoded String
  | .text content => .ok content
  | _ => .error (.mismatch "text")

/-- Decode every item, up to the first that does not fit. -/
def decodeEach (decode : Json → Decoded α) : List Json → Decoded (List α)
  | [] => .ok []
  | first :: rest => do return (← decode first) :: (← decodeEach decode rest)

def decodeList (decode : Json → Decoded α) : Json → Decoded (List α)
  | .list items => decodeEach decode items
  | _ => .error (.mismatch "list")

def decodeKnown (words : List (String × α)) (word : String) : Decoded α :=
  match words.lookup word with
  | some value => .ok value
  | none => .error (.mismatch "known word")

/-- One of some words, alone or as the only name of an object, with null for its value. -/
def decodeWord (words : List (String × α)) : Json → Decoded α
  | .text word | .object [(word, .null)] => decodeKnown words word
  | _ => .error (.mismatch "word")

/-- One of some words. A field of a tagged structure also takes an object without pairs for null. -/
def decodeTaggedWord (words : List (String × α)) : Json → Decoded α
  | .object [(word, .object [])] => decodeKnown words word
  | value => decodeWord words value

/-! ### Structures -/

/-- The fields of a structure by name. -/
structure Record where
  pairs : List (String × Json)

/-- A name among the fields that stands more than once. -/
def repeatedField? (fields : List String) (pairs : List (String × Json)) : Option String :=
  fields.find? fun field => 1 < (pairs.filter fun pair => pair.1 == field).length

/-- The fields of an object. -/
def objectRecord (fields : List String) (pairs : List (String × Json)) : Decoded Record :=
  match repeatedField? fields pairs with
  | some field => .error (.repeated field)
  | none => .ok ⟨pairs⟩

/-- The fields of a list that gives them in order. -/
def listRecord (fields : List String) (items : List Json) : Decoded Record :=
  if fields.length < items.length then .error (.tooMany "fields") else .ok ⟨fields.zip items⟩

/-- The fields of a structure in either form. -/
def record (fields : List String) : Json → Decoded Record
  | .object pairs => objectRecord fields pairs
  | .list items => listRecord fields items
  | _ => .error (.mismatch "structure")

namespace Record

def get? (r : Record) (field : String) : Option Json :=
  r.pairs.lookup field

/-- A field that must be there. -/
def required (r : Record) (field : String) (decode : Json → Decoded α) : Decoded α :=
  match r.get? field with
  | none => .error (.missing field)
  | some value => decode value

/-- A field that may be absent or null. -/
def optional (r : Record) (field : String) (decode : Json → Decoded α) : Decoded (Option α) :=
  match r.get? field with
  | none | some .null => .ok none
  | some value => (decode value).map some

/-- A field that may be absent, but not null. -/
def withDefault (r : Record) (field : String) (default : α) (decode : Json → Decoded α) :
    Decoded α :=
  match r.get? field with
  | none => .ok default
  | some value => decode value

/-- A field that may be absent, for which null is a value of its own. -/
def present (r : Record) (field : String) (decode : Json → Decoded α) : Decoded (Option α) :=
  match r.get? field with
  | none => .ok none
  | some value => (decode value).map some

end Record

/-! ### Tagged structures -/

/-- The word of a tag: a text, or the place of the word among those known. A place beyond them is
the empty word, which names nothing. -/
def tagWord (words : List String) : Json → Decoded String
  | .text word => .ok word
  | .int (.ofNat place) => .ok ((words[place]?).getD "")
  | _ => .error (.mismatch "tag")

end Playfield.Json
