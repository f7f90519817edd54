import Playfield.Binary32.Shortest
import Playfield.Json.Quoted

/-!
JSON as text, on one line or indented.
-/

namespace Playfield.Json

open Binary32 (exact shortest)

/-- A numeral with a point or an exponent, so that it is no integer: positional while the point
stands at most 13 digits to the right or 5 zeros to the left, else with an exponent. -/
def numeral (x : Float32) : String :=
  match exact x with
  | .finite s m e _ =>
    let (digits, exponent) := shortest m e
    let width : Int := (toString digits).length
    let point := width + exponent
    let sign := if s == .negative then "-" else ""
    if -5 ≤ point && point ≤ 13 then
      let body := Decimal.positional ⟨false, digits, exponent⟩
      sign ++ (if 0 ≤ exponent then body ++ ".0" else body)
    else
      sign ++ Decimal.positional ⟨false, digits, 1 - width⟩ ++ "e" ++ toString (point - 1)
  | .zero s => if s == .negative then "-0.0" else "0.0"
  | _ => "null"

mutual

/-- The text of a value without blanks. -/
def compact : Json → String
  | .null | .unreadable => "null"
  | .bool value => if value then "true" else "false"
  | .int value => toString value
  | .real value => numeral value
  | .text content => quote content
  | .list items => "[" ++ compactItems items ++ "]"
  | .object pairs => "\x7b" ++ compactPairs pairs ++ "\x7d"

def compactItems : List Json → String
  | [] => ""
  | [last] => last.compact
  | first :: rest => first.compact ++ "," ++ compactItems rest

def compactPairs : List (String × Json) → String
  | [] => ""
  | [(name, last)] => quote name ++ ":" ++ last.compact
  | (name, first) :: rest => quote name ++ ":" ++ first.compact ++ "," ++ compactPairs rest

end

mutual

/-- The text of a value over several lines; `margin` is the indentation of the line it stands on. -/
def indented (margin : String) : Json → String
  | .list [] => "[]"
  | .object [] => "\x7b\x7d"
  | .list (first :: rest) =>
    "[" ++ indentedItems (margin ++ "  ") (first :: rest) ++ margin ++ "]"
  | .object (first :: rest) =>
    "\x7b" ++ indentedPairs (margin ++ "  ") (first :: rest) ++ margin ++ "\x7d"
  | other => other.compact

def indentedItems (margin : String) : List Json → String
  | [] => ""
  | [last] => margin ++ last.indented margin
  | first :: rest => margin ++ first.indented margin ++ "," ++ indentedItems margin rest

def indentedPairs (margin : String) : List (String × Json) → String
  | [] => ""
  | [(name, last)] => margin ++ quote name ++ ": " ++ last.indented margin
  | (name, first) :: rest =>
    margin ++ quote name ++ ": " ++ first.indented margin ++ "," ++ indentedPairs margin rest

end

/-- The text of a value over several lines. -/
def pretty (value : Json) : String :=
  value.indented "\n"

end Playfield.Json
