import Mathlib.Data.List.Forall2
import Playfield.Proofs.Formula.LexerExact

/-!
Formulas as tokens with white space between them.

A `Layout` is a text in which the tokens stand in order, each written out in full after any white
space. Every text that has tokens is one (`exists_layout`), and the lexer finds a token of a layout
where its characters end before what follows (`scanFrom_written`). Since it looks no further than
the next white space, more of it between the tokens changes none of them (`scan_respaced`).
-/

namespace Playfield.Formula

/-! ### Layouts -/

/-- White space and nothing else. -/
def Blank (cs : List Char) : Prop :=
  ∀ c ∈ cs, Text.isBlank c

/-- A token in a text: the white space before it and the characters that write it. -/
structure Piece where
  gap : List Char
  lexeme : List Char
  token : Token
  blank : Blank gap
  spells : Spells lexeme token

/-- Pieces one after the other, and what follows them. -/
def written : List Piece → List Char → List Char
  | [], rest => rest
  | p :: ps, rest => p.gap ++ (p.lexeme ++ written ps rest)

/-- The tokens of pieces, each at the index of its first character, where the first piece begins at
`position`. -/
def located : Nat → List Piece → List Located
  | _, [] => []
  | position, p :: ps =>
    ⟨p.token, position + p.gap.length⟩ ::
      located (position + p.gap.length + p.lexeme.length) ps

/-- Tokens in order with white space between them and at both ends. -/
structure Layout where
  pieces : List Piece
  ending : List Char
  blank : Blank ending

def Layout.text (layout : Layout) : String :=
  String.ofList (written layout.pieces layout.ending)

def Layout.tokens (layout : Layout) : List Located :=
  located 0 layout.pieces

/-- The same token, written alike, after white space if there was some before. It may have been put
in or exchanged, but not taken out altogether. -/
structure Piece.Respaced (p p' : Piece) : Prop where
  lexeme : p'.lexeme = p.lexeme
  token : p'.token = p.token
  gap : p'.gap = [] → p.gap = []

/-- Positions aside, the tokens of a layout are those of its pieces. -/
theorem map_token_located (position : Nat) (ps : List Piece) :
    (located position ps).map (·.token) = ps.map (·.token) := by
  induction ps generalizing position with
  | nil => rfl
  | cons p ps ih => simp only [located, List.map_cons, ih]

/-- A respaced layout has the same tokens. -/
theorem map_token_of_respaced {ps ps' : List Piece} (same : List.Forall₂ Piece.Respaced ps ps') :
    ps'.map (·.token) = ps.map (·.token) := by
  induction same with
  | nil => rfl
  | cons first _ ih => simp only [List.map_cons, first.token, ih]

theorem Piece.lexeme_pos (p : Piece) : 0 < p.lexeme.length := by
  obtain ⟨c, cs, lexeme, -⟩ := p.spells.visible
  simp [lexeme]

/-- No token stands before the position where its pieces begin. -/
theorem le_position_of_mem_located {position : Nat} {ps : List Piece} {t : Located}
    (member : t ∈ located position ps) : position ≤ t.position := by
  induction ps generalizing position with
  | nil => cases member
  | cons p ps ih =>
    rcases List.mem_cons.mp member with rfl | later
    · exact Nat.le_add_right _ _
    · exact Nat.le_trans (by omega) (ih later)

/-- Every token stands after the one before it. -/
theorem pairwise_located (position : Nat) (ps : List Piece) :
    (located position ps).Pairwise (·.position < ·.position) := by
  induction ps generalizing position with
  | nil => exact .nil
  | cons p ps ih =>
    refine .cons (fun t member => ?_) (ih _)
    have after := le_position_of_mem_located member
    have some := p.lexeme_pos
    show position + p.gap.length < t.position
    omega

/-! ### What can be seen of a layout -/

/-- White space hides what follows it. -/
theorem ahead_of_blank {gap : List Char} (blank : Blank gap) (some : gap ≠ []) (rest : List Char) :
    ahead (gap ++ rest) = [] := by
  obtain ⟨c, cs, rfl⟩ := List.exists_cons_of_ne_nil some
  rw [ahead, List.cons_append, List.takeWhile_cons, blank c List.mem_cons_self]
  rfl

/-- What is hidden stays hidden behind the same characters. -/
theorem ahead_append {rest rest' : List Char} (fewer : ahead rest' <+: ahead rest)
    (cs : List Char) : ahead (cs ++ rest') <+: ahead (cs ++ rest) := by
  induction cs with
  | nil => exact fewer
  | cons c cs ih =>
    simp only [ahead, List.cons_append, List.takeWhile_cons] at ih ⊢
    split
    · exact List.cons_prefix_cons.mpr ⟨rfl, ih⟩
    · exact List.nil_prefix

/-- More white space hides what stands behind it. -/
theorem ahead_written {ps ps' : List Piece} (same : List.Forall₂ Piece.Respaced ps ps')
    (ending : List Char) {ending' : List Char} (blank : Blank ending') :
    ahead (written ps' ending') <+: ahead (written ps ending) := by
  induction same with
  | nil =>
    have hidden : ahead ending' = [] := by
      cases ending' with
      | nil => rfl
      | cons c cs => simpa using ahead_of_blank blank (List.cons_ne_nil c cs) []
    simp [written, hidden]
  | @cons p p' ps ps' first _ ih =>
    simp only [written]
    by_cases joined : p'.gap = []
    · rw [joined, first.gap joined, first.lexeme]
      exact ahead_append ih p.lexeme
    · rw [ahead_of_blank p'.blank joined]
      exact List.nil_prefix

/-! ### Reading a layout -/

/-- The characters of each piece end where those of the next begin. -/
def Legible (afterOperand : Bool) : List Piece → List Char → Prop
  | [], _ => True
  | p :: ps, ending =>
    Lexes afterOperand (written ps ending) p.lexeme p.token ∧
      Legible p.token.endsOperand ps ending

/-- A respaced layout is as legible as before. -/
theorem Legible.respaced {afterOperand : Bool} {ps ps' : List Piece} {ending ending' : List Char}
    (legible : Legible afterOperand ps ending) (same : List.Forall₂ Piece.Respaced ps ps')
    (blank : Blank ending') : Legible afterOperand ps' ending' := by
  induction same generalizing afterOperand with
  | nil => trivial
  | cons first rest ih =>
    obtain ⟨lexes, legible⟩ := legible
    refine ⟨?_, ?_⟩
    · rw [first.lexeme, first.token]
      exact lexes.of_ahead (ahead_written rest ending blank)
    · rw [first.token]
      exact ih legible

theorem scanFrom_skip (cs rest : List Char) (position : Nat) (found : List Located) :
    scanFrom (cs ++ rest) position cs.length found =
      scanFrom rest (position + cs.length) 0 found := by
  induction cs generalizing position with
  | nil => rfl
  | cons c cs ih =>
    rw [List.cons_append, List.length_cons, scanFrom, ih, Nat.add_right_comm, Nat.add_assoc]

theorem scanFrom_blank {gap : List Char} (blank : Blank gap) (rest : List Char) (position : Nat)
    (found : List Located) :
    scanFrom (gap ++ rest) position 0 found =
      scanFrom rest (position + gap.length) 0 found := by
  induction gap generalizing position with
  | nil => rfl
  | cons c cs ih =>
    have ⟨first, later⟩ := List.forall_mem_cons.mp blank
    rw [List.cons_append, scanFrom, if_pos first, ih later, List.length_cons, Nat.add_assoc,
      Nat.add_comm 1]

/-- Whether the token read last ends an operand. -/
def afterOperand (found : List Located) : Bool :=
  found.head?.any (·.token.endsOperand)

/-- The characters of a token are read as that token. -/
theorem scanFrom_lexeme {found : List Located} {lexeme rest : List Char} {token : Token}
    (lexes : Lexes (afterOperand found) rest lexeme token) (position : Nat) :
    scanFrom (lexeme ++ rest) position 0 found =
      scanFrom rest (position + lexeme.length) 0 (⟨token, position⟩ :: found) := by
  obtain ⟨c, tail, rfl, visible⟩ := lexes.spells.visible
  have read := lexes.lexeme_eq
  rw [afterOperand] at read
  rw [List.cons_append, scanFrom, visible, read]
  simp only [Bool.false_eq_true, if_false]
  rw [scanFrom_skip, List.length_cons, Nat.add_assoc, Nat.add_comm 1]

/-- The lexer finds the tokens of a layout in their places. -/
theorem scanFrom_written {ps : List Piece} {ending : List Char} {found : List Located}
    (legible : Legible (afterOperand found) ps ending) (blank : Blank ending) (position : Nat) :
    scanFrom (written ps ending) position 0 found =
      .ok (found.reverse ++ located position ps) := by
  induction ps generalizing found position with
  | nil =>
    have read := scanFrom_blank blank [] position found
    rw [List.append_nil] at read
    rw [written, read, scanFrom, located, List.append_nil]
  | cons p ps ih =>
    obtain ⟨lexes, legible⟩ := legible
    have later : Legible (afterOperand (⟨p.token, position + p.gap.length⟩ :: found)) ps ending :=
      legible
    rw [written, scanFrom_blank p.blank, scanFrom_lexeme lexes, ih later, List.reverse_cons,
      List.append_assoc]
    rfl

/-- What the lexer finds tokens in is a layout of them. -/
theorem exists_layout {cs : List Char} {found tokens : List Located} {position : Nat}
    (scanned : scanFrom cs position 0 found = .ok tokens) :
    ∃ ps ending, Blank ending ∧ cs = written ps ending ∧
      Legible (afterOperand found) ps ending ∧ tokens = found.reverse ++ located position ps := by
  induction length : cs.length using Nat.strongRecOn generalizing cs found position with
  | ind size ih =>
    obtain ⟨gap, rest, rfl, blank, halts⟩ := exists_run Text.isBlank cs
    rw [scanFrom_blank blank] at scanned
    cases rest with
    | nil =>
      cases scanned
      exact ⟨[], gap, blank, List.append_nil _, trivial, by rw [located, List.append_nil]⟩
    | cons c cs =>
      rw [scanFrom, halts_cons.mp halts] at scanned
      simp only [Bool.false_eq_true, if_false] at scanned
      split at scanned
      · rename_i token more read
        obtain ⟨tail, rest, rfl, rfl, lexes⟩ := lexes_of_lexeme read
        rw [scanFrom_skip] at scanned
        have shorter : rest.length < size := by
          simp only [List.length_append, List.length_cons] at length
          omega
        obtain ⟨ps, ending, blankEnding, rfl, legible, rfl⟩ := ih _ shorter scanned rfl
        refine ⟨⟨gap, c :: tail, token, blank, lexes.spells⟩ :: ps, ending, blankEnding, rfl,
          ⟨lexes, legible⟩, ?_⟩
        rw [located, List.length_cons, List.reverse_cons, List.append_assoc,
          Nat.add_comm tail.length, ← Nat.add_assoc]
        rfl
      · cases scanned

/-- **A formula is its tokens with white space between them.** A text that has tokens is written by
them in order, each at the index of its first character, with nothing but white space between them
and around them. Any other layout of the same tokens, with white space at least where there was
some, has these tokens in their new places. -/
theorem scan_respaced {source : String} {tokens : List Located}
    (scanned : scan source = .ok tokens) :
    ∃ layout : Layout, layout.text = source ∧ layout.tokens = tokens ∧
      tokens.Pairwise (·.position < ·.position) ∧
      ∀ spaced : Layout, List.Forall₂ Piece.Respaced layout.pieces spaced.pieces →
        scan spaced.text = .ok spaced.tokens ∧
          spaced.tokens.map (·.token) = tokens.map (·.token) := by
  obtain ⟨ps, ending, blank, whole, legible, rfl⟩ := exists_layout scanned
  refine ⟨⟨ps, ending, blank⟩, ?_, rfl, pairwise_located 0 ps, fun spaced same => ⟨?_, ?_⟩⟩
  · rw [Layout.text, ← whole, String.ofList_toList]
  · rw [scan, Layout.text, String.toList_ofList]
    exact scanFrom_written (legible.respaced same spaced.blank) spaced.blank 0
  · rw [Layout.tokens, map_token_located, map_token_of_respaced same]
    exact (map_token_located 0 ps).symm

/-- A number gives back its exponent for want of a digit, and a point after a name selects a member:
neither needs white space, and neither changes with any. -/
theorem scan_respaced_tight :
    let tokens : List Located :=
      [⟨.number 1, 0⟩, ⟨.name "e", 1⟩, ⟨.symbol .plus, 2⟩, ⟨.name "x", 3⟩, ⟨.symbol .dot, 4⟩,
        ⟨.number 5, 5⟩]
    scan "1e+x.5" = .ok tokens ∧
      ∃ layout : Layout, layout.text = "1e+x.5" ∧ layout.tokens = tokens ∧
        tokens.Pairwise (·.position < ·.position) ∧
        ∀ spaced : Layout, List.Forall₂ Piece.Respaced layout.pieces spaced.pieces →
          scan spaced.text = .ok spaced.tokens ∧
            spaced.tokens.map (·.token) = tokens.map (·.token) :=
  ⟨rfl, scan_respaced rfl⟩

end Playfield.Formula
