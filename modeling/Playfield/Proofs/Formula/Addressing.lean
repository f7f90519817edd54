import Playfield.Proofs.Formula.Layout
import Playfield.Proofs.Formula.ParserComplete
import Playfield.Proofs.Formula.WiderScope

/-!
Every published field has an address.

An id and a field may be any texts. Between quotes, with a backslash before each quote and backslash
of their own, they are read back as they are (`quotes_escape`), so `objects["id"]["field"]` comes to
the value of the field; where both are names, so does `objects.id.field` (`evaluate_address`).
-/

namespace Playfield.Formula

/-! ### Texts between quotes -/

/-- A text with a backslash before each quote of one kind and each backslash. -/
def escape (quote : Char) (content : String) : List Char :=
  content.toList.flatMap fun c => if c = quote ∨ c = '\\' then ['\\', c] else [c]

/-- A text as a formula writes it, between quotes. -/
def quoteWith (quote : Char) (content : String) : String :=
  String.ofList (quote :: (escape quote content ++ [quote]))

/-- An escaped text, between its quotes, stands for the text. -/
theorem quotes_escape {quote : Char} (isQuote : IsQuote quote) (content : String) :
    Quotes quote (escape quote content) content.toList := by
  unfold escape
  induction content.toList with
  | nil => exact .nil
  | cons c cs ih =>
    rw [List.flatMap_cons]
    split
    · rename_i special
      have same : unescaped c = c := by
        rcases special with rfl | rfl
        · rcases isQuote with rfl | rfl <;> rfl
        · rfl
      have escaped := Quotes.escaped (c := c) ih
      rwa [same] at escaped
    · rename_i ordinary
      exact .plain (fun h => ordinary (.inl h)) (fun h => ordinary (.inr h)) ih

/-- A quoted text is read as that text, whatever stands around it. -/
theorem lexes_quoted {quote : Char} (isQuote : IsQuote quote) (content : String)
    (afterOperand : Bool) (rest : List Char) :
    Lexes afterOperand rest (quote :: (escape quote content ++ [quote])) (.text content) := by
  have lexes : Lexes afterOperand rest _ _ := .text isQuote (quotes_escape isQuote content)
  rwa [String.ofList_toList] at lexes

/-! ### Names -/

/-- A text that a formula reads as one name. Keywords are among them. -/
def IsName (id : String) : Prop :=
  ∃ c cs, id.toList = c :: cs ∧ startsName c ∧ cs.all continuesName

/-- A name is read as one token if no character that continues it follows. -/
theorem IsName.lexes {id : String} (isName : IsName id) (afterOperand : Bool) {rest : List Char}
    (halts : Halts continuesName rest) : Lexes afterOperand rest id.toList (.name id) := by
  obtain ⟨c, cs, whole, starts, more⟩ := isName
  obtain rfl : id = String.ofList (c :: cs) := by rw [← whole, String.ofList_toList]
  rw [String.toList_ofList]
  exact .name starts (List.all_eq_true.mp more) halts

/-! ### Brackets and points -/

theorem lexes_leftBracket (afterOperand : Bool) (rest : List Char) :
    Lexes afterOperand rest (Symbol.spelling .leftBracket) (.symbol .leftBracket) :=
  .symbol (by simp) (by simp)

theorem lexes_rightBracket (afterOperand : Bool) (rest : List Char) :
    Lexes afterOperand rest (Symbol.spelling .rightBracket) (.symbol .rightBracket) :=
  .symbol (by simp) (by simp)

/-- A point after an operand selects a member, whatever follows. -/
theorem lexes_dot (rest : List Char) :
    Lexes true rest (Symbol.spelling .dot) (.symbol .dot) :=
  .symbol (fun _ => .inl rfl) (by simp)

/-! ### Addresses -/

theorem isName_objects : IsName "objects" :=
  ⟨'o', "bjects".toList, rfl, by decide, by decide⟩

/-- The piece of a token with no white space before it. -/
def tight {lexeme : List Char} {token : Token} (spells : Spells lexeme token) : Piece :=
  ⟨[], lexeme, token, by simp [Blank], spells⟩

def symbolPiece (s : Symbol) : Piece :=
  tight (.symbol s)

def namePiece {id : String} (isName : IsName id) : Piece :=
  tight (isName.lexes false (halts_nil continuesName)).spells

def textPiece {quote : Char} (isQuote : IsQuote quote) (content : String) : Piece :=
  tight (lexes_quoted isQuote content false []).spells

/-- Legible pieces are scanned to their tokens. -/
theorem scan_pieces {ps : List Piece} (legible : Legible false ps []) :
    scan (String.ofList (written ps [])) = .ok (located 0 ps) := by
  have first : Legible (afterOperand []) ps [] := legible
  rw [scan, String.toList_ofList]
  exact scanFrom_written first (by simp [Blank]) 0

/-- The value of a text that is written by pieces. -/
theorem evaluate_written {ps : List Piece} (legible : Legible false ps []) {source : String}
    (whole : source.toList = written ps []) {e : Expr}
    (parsed : Expr.ofTokens (ps.map (·.token)) = .ok e) {scope : Scope} {value : Value}
    (comes : e.eval scope = .ok value) : evaluate source scope = .ok value := by
  have read : Expr.parse source = .ok e := by
    refine parse_eq_ok_iff.mpr ⟨located 0 ps, ?_, by rwa [map_token_located]⟩
    rw [← scan_pieces legible, ← whole, String.ofList_toList]
  simp only [evaluate, read, runProgram, runProgramBy, comes, pure_bind, Id.run_pure]

/-- **Every published field has an address.** Whatever characters an id and a field are made of, the
field's number is the value of `objects[id][field]` with both written between quotes of either kind,
and of `objects.id.field` where both are names; a keyword is a name here. -/
theorem evaluate_address {scope : Scope} {id field : String} {value : Float32}
    (published : scope.field? id field = some value) :
    (∀ q₁ q₂, IsQuote q₁ → IsQuote q₂ →
      evaluate ("objects[" ++ quoteWith q₁ id ++ "][" ++ quoteWith q₂ field ++ "]") scope =
        .ok (.number value)) ∧
    (IsName id → IsName field →
      evaluate ("objects." ++ id ++ "." ++ field) scope = .ok (.number value)) := by
  have comes : scope.objectField id field = .ok (.number value) :=
    Scope.objectField_eq_ok_iff.mpr ⟨value, published, rfl⟩
  constructor
  · intro q₁ q₂ isQuote₁ isQuote₂
    let ps : List Piece :=
      [namePiece isName_objects, symbolPiece .leftBracket, textPiece isQuote₁ id,
        symbolPiece .rightBracket, symbolPiece .leftBracket, textPiece isQuote₂ field,
        symbolPiece .rightBracket]
    have legible : Legible false ps [] :=
      ⟨isName_objects.lexes _ rfl, lexes_leftBracket _ _, lexes_quoted isQuote₁ id _ _,
        lexes_rightBracket _ _, lexes_leftBracket _ _, lexes_quoted isQuote₂ field _ _,
        lexes_rightBracket _ _, trivial⟩
    refine evaluate_written legible ?_ rfl comes
    simp [ps, written, quoteWith, namePiece, symbolPiece, textPiece, tight, Symbol.spelling]
  · intro isName₁ isName₂
    let ps : List Piece :=
      [namePiece isName_objects, symbolPiece .dot, namePiece isName₁, symbolPiece .dot,
        namePiece isName₂]
    have legible : Legible false ps [] :=
      ⟨isName_objects.lexes _ rfl, lexes_dot _, isName₁.lexes _ rfl, lexes_dot _,
        isName₂.lexes _ rfl, trivial⟩
    refine evaluate_written legible ?_ rfl comes
    simp [ps, written, namePiece, symbolPiece, tight, Symbol.spelling]

/-- A stage whose ids and fields are awkward: quotes of both kinds, backslashes, a line break, a
keyword and nothing at all. -/
def awkward : Scope where
  frame := 0
  t := 0
  width := 800
  height := 600
  objects := (IdMap.empty.insert "say \"it's\\n\"\n" (IdMap.empty.insert "" 7)).insert "not"
    (IdMap.empty.insert "and" 3)
  parent := none

/-- Quotes of both kinds in one address, and keywords in the other. -/
theorem evaluate_address_awkward :
    evaluate ("objects[" ++ quoteWith '"' "say \"it's\\n\"\n" ++ "][" ++ quoteWith '\'' "" ++ "]")
        awkward = .ok (.number 7) ∧
      evaluate "objects.not.and" awkward = .ok (.number 3) := by
  have nothing : awkward.field? "say \"it's\\n\"\n" "" = some 7 := by decide
  have keyword : awkward.field? "not" "and" = some 3 := by decide
  exact ⟨(evaluate_address nothing).1 '"' '\'' (.inl rfl) (.inr rfl),
    (evaluate_address keyword).2 ⟨'n', "ot".toList, rfl, by decide, by decide⟩
      ⟨'a', "nd".toList, rfl, by decide, by decide⟩⟩

end Playfield.Formula
