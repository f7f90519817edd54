import Mathlib.Data.String.Basic
import Playfield.Proofs.Formula.ParserSound

/-!
Where in a text a fault is reported.

Tokens stand at the indices of their first characters, and one that cannot be read is reported there
(`scanFrom_readIn`). A rule of the grammar leaves a part at the end of its tokens, whether it
succeeds or gives up (`Leaves`, `leaves_rules`), so a fault in the grammar is reported at the first
token of that part. Where nothing is left it is reported at the end of the text, and that is counted
in bytes, so it lies beyond the characters where one of them takes several
(`parse_error_place`, `parse_accent_beyond`).
-/

namespace Playfield.Formula

/-! ### Places of tokens -/

/-- The token is what is read at its position in a text. -/
def Located.ReadIn (source : List Char) (t : Located) : Prop :=
  ∃ afterOperand c cs more, source.drop t.position = c :: cs ∧
    lexeme afterOperand c cs = .ok (t.token, more)

/-- The fault is that of reading a token at its position in a text. -/
def ParseError.ReadIn (source : List Char) (e : ParseError) : Prop :=
  ∃ afterOperand c cs, source.drop e.position = c :: cs ∧ lexeme afterOperand c cs = .error e.fault

/-- All tokens, or the fault, are read at their positions in a text. -/
def ReadIn (source : List Char) : Except ParseError (List Located) → Prop
  | .ok tokens => ∀ t ∈ tokens, t.ReadIn source
  | .error e => e.ReadIn source

/-- A scan that goes on from a position reads every token at its own position. -/
theorem scanFrom_readIn {source chars : List Char} {position skip : Nat} {found : List Located}
    (here : source.drop position = chars) (places : ∀ t ∈ found, t.ReadIn source) :
    ReadIn source (scanFrom chars position skip found) := by
  induction chars generalizing position skip found with
  | nil => simpa [scanFrom, ReadIn] using places
  | cons c cs ih =>
    have next : source.drop (position + 1) = cs := by
      rw [← List.drop_drop, here, List.drop_one, List.tail_cons]
    cases skip with
    | succ skip =>
      rw [scanFrom]
      exact ih next places
    | zero =>
      rw [scanFrom]
      split
      · exact ih next places
      · cases read : lexeme (found.head?.any (·.token.endsOperand)) c cs with
        | error fault => exact ⟨_, c, cs, here, read⟩
        | ok lexed =>
          refine ih next fun t member => ?_
          rcases List.mem_cons.mp member with rfl | earlier
          · exact ⟨_, c, cs, lexed.2, here, read⟩
          · exact places t earlier

/-- A scan reads every token, or finds the fault, at its own position. -/
theorem scan_readIn (source : String) : ReadIn source.toList (scan source) :=
  scanFrom_readIn rfl (by simp)

/-- A position where something is read is that of a character. -/
theorem lt_length_of_drop {source cs : List Char} {position : Nat} {c : Char}
    (here : source.drop position = c :: cs) : position < source.length := by
  have rest := congrArg List.length here
  rw [List.length_drop, List.length_cons] at rest
  omega

/-! ### What rules leave -/

/-- What a rule leaves is an end of its tokens, and it does not find the formula too long. -/
def Leaves {α : Type} (tokens : List Token) : Except Stop (α × List Token) → Prop
  | .ok (_, rest) => rest <:+ tokens
  | .error stop => stop.rest <:+ tokens ∧ stop.fault ≠ .tooLong

/-- A rule that leaves an end of the later tokens leaves an end of all of them. -/
theorem Leaves.of_suffix {α : Type} {tokens rest : List Token}
    {outcome : Except Stop (α × List Token)} (leaves : Leaves rest outcome)
    (suffix : rest <:+ tokens) : Leaves tokens outcome := by
  cases outcome with
  | error stop => exact ⟨leaves.1.trans suffix, leaves.2⟩
  | ok read => exact List.IsSuffix.trans leaves suffix

/-- Expecting a symbol leaves an end of the tokens. -/
theorem expect_leaves (s : Symbol) (what : Expectation) {tokens rest : List Token}
    (suffix : rest <:+ tokens) :
    (∀ stop, expect s what rest = .error stop →
      stop.rest <:+ tokens ∧ stop.fault ≠ .tooLong) ∧
    ∀ after, expect s what rest = .ok after → after <:+ tokens := by
  constructor
  · intro stop failed
    unfold expect at failed
    split at failed
    · split at failed
      · cases failed
      · cases failed
        exact ⟨suffix, by simp⟩
    · cases failed
      exact ⟨suffix, by simp⟩
  · intro after closed
    rw [expect_eq_ok_iff.mp closed] at suffix
    exact (List.suffix_cons _ _).trans suffix

section Rules

variable {formula operand : Rule Expr}

/-- The links of a level leave an end of their tokens if the operands do. -/
theorem leaves_links (operands : ∀ tokens, Leaves tokens (operand tokens))
    (op? : Token → Option BinaryOp) (fuel : Nat) (left : Expr) (tokens : List Token) :
    Leaves tokens (links op? operand fuel left tokens) := by
  induction fuel generalizing left tokens with
  | zero => exact List.suffix_rfl
  | succ fuel ih =>
    cases tokens with
    | nil => exact List.suffix_rfl
    | cons token tokens =>
      rw [links]
      split
      · exact List.suffix_rfl
      · have right := operands tokens
        split
        · rename_i failed
          rw [failed] at right
          exact right.of_suffix (List.suffix_cons _ _)
        · rename_i read
          rw [read] at right
          exact (ih _ _).of_suffix (right.trans (List.suffix_cons _ _))

theorem leaves_chain (operands : ∀ tokens, Leaves tokens (operand tokens))
    (op? : Token → Option BinaryOp) (tokens : List Token) :
    Leaves tokens (chain op? operand tokens) := by
  unfold chain
  have first := operands tokens
  split
  · rename_i failed
    rwa [failed] at first
  · rename_i read
    rw [read] at first
    exact (leaves_links operands op? _ _ _).of_suffix first

theorem leaves_chains (operands : ∀ tokens, Leaves tokens (operand tokens))
    (table : List (Token → Option BinaryOp)) (tokens : List Token) :
    Leaves tokens (chains operand table tokens) := by
  induction table generalizing tokens with
  | nil => exact operands tokens
  | cons op? tighter ih => exact leaves_chain ih op? tokens

theorem leaves_arguments (formulas : ∀ tokens, Leaves tokens (formula tokens)) (fuel : Nat)
    (tokens : List Token) : Leaves tokens (arguments formula fuel tokens) := by
  induction fuel generalizing tokens with
  | zero => exact ⟨List.suffix_rfl, by simp⟩
  | succ fuel ih =>
    rw [arguments]
    have first := formulas tokens
    split
    · rename_i failed
      rwa [failed] at first
    · rename_i rest read
      rw [read] at first
      have more := (ih rest).of_suffix ((List.suffix_cons _ rest).trans first)
      split
      · rename_i failed
        rwa [failed] at more
      · rename_i readMore
        rwa [readMore] at more
    · rename_i read
      rw [read] at first
      split
      · exact (expect_leaves _ _ first).1 _ ‹_›
      · exact (expect_leaves _ _ first).2 _ ‹_›

theorem leaves_named (formulas : ∀ tokens, Leaves tokens (formula tokens)) (id : String)
    (tokens : List Token) : Leaves tokens (named formula id tokens) := by
  unfold named
  split
  · exact List.suffix_rfl
  · split
    · exact List.suffix_rfl
    · split
      · exact (List.suffix_cons _ _).trans (List.suffix_cons _ _)
      · rename_i rest _
        have args := (leaves_arguments formulas (rest.length + 1) rest).of_suffix
          (List.suffix_cons (.symbol .leftParen) rest)
        split
        · rename_i failed
          rwa [failed] at args
        · rename_i read
          rwa [read] at args
      · exact List.suffix_rfl

theorem leaves_primary (formulas : ∀ tokens, Leaves tokens (formula tokens))
    (tokens : List Token) : Leaves tokens (primary formula tokens) := by
  unfold primary
  split
  · exact ⟨List.suffix_rfl, by simp⟩
  · exact List.suffix_cons _ _
  · exact List.suffix_cons _ _
  · exact (leaves_named formulas _ _).of_suffix (List.suffix_cons _ _)
  · rename_i rest
    have inner := (formulas rest).of_suffix (List.suffix_cons (.symbol .leftParen) rest)
    split
    · rename_i failed
      rwa [failed] at inner
    · rename_i read
      rw [read] at inner
      split
      · exact (expect_leaves _ _ inner).1 _ ‹_›
      · exact (expect_leaves _ _ inner).2 _ ‹_›
  · exact ⟨List.suffix_rfl, by simp⟩

/-- Selections leave an end of their tokens if formulas do. -/
theorem leaves_selections (formulas : ∀ tokens, Leaves tokens (formula tokens)) (fuel : Nat)
    (object : Expr) (tokens : List Token) :
    Leaves tokens (selections formula fuel object tokens) := by
  induction fuel generalizing object tokens with
  | zero => exact List.suffix_rfl
  | succ fuel ih =>
    unfold selections
    split
    · rename_i rest same
      cases same
      have dotted : rest <:+ .symbol .dot :: rest := List.suffix_cons _ _
      split
      · exact (ih _ _).of_suffix ((List.suffix_cons _ _).trans dotted)
      · exact ⟨(List.drop_suffix 1 rest).trans dotted, by simp⟩
    · rename_i rest same
      cases same
      have key := (formulas rest).of_suffix (List.suffix_cons (.symbol .leftBracket) rest)
      split
      · rename_i failed
        rwa [failed] at key
      · rename_i read
        rw [read] at key
        split
        · exact (expect_leaves _ _ key).1 _ ‹_›
        · exact (ih _ _).of_suffix ((expect_leaves _ _ key).2 _ ‹_›)
    · exact List.suffix_rfl

theorem leaves_selected (formulas : ∀ tokens, Leaves tokens (formula tokens))
    (tokens : List Token) : Leaves tokens (selected formula tokens) := by
  unfold selected
  have object := leaves_primary formulas tokens
  split
  · rename_i failed
    rwa [failed] at object
  · rename_i read
    rw [read] at object
    exact (leaves_selections formulas _ _ _).of_suffix object

theorem leaves_power (formulas : ∀ tokens, Leaves tokens (formula tokens))
    (operands : ∀ tokens, Leaves tokens (operand tokens)) (tokens : List Token) :
    Leaves tokens (power formula operand tokens) := by
  unfold power
  have base := leaves_selected formulas tokens
  split
  · rename_i rest read
    rw [read] at base
    have raised := (operands rest).of_suffix ((List.suffix_cons _ rest).trans base)
    split
    · rename_i failed
      rwa [failed] at raised
    · rename_i readRaised
      rwa [readRaised] at raised
  · exact base

theorem leaves_prefixedOnce (formulas : ∀ tokens, Leaves tokens (formula tokens))
    (operands : ∀ tokens, Leaves tokens (operand tokens)) (tokens : List Token) :
    Leaves tokens (prefixedOnce formula operand tokens) := by
  unfold prefixedOnce
  split
  · exact leaves_power formulas operands []
  · rename_i token rest
    split
    · exact leaves_power formulas operands (token :: rest)
    · have inner := (operands rest).of_suffix (List.suffix_cons token rest)
      split
      · rename_i failed
        rwa [failed] at inner
      · rename_i read
        rwa [read] at inner

theorem leaves_conditional (formulas : ∀ tokens, Leaves tokens (formula tokens))
    (operands : ∀ tokens, Leaves tokens (operand tokens)) (tokens : List Token) :
    Leaves tokens (conditional formula operand tokens) := by
  unfold conditional
  have condition := leaves_chains operands levels tokens
  split
  · rename_i rest read
    rw [read] at condition
    have yes := (formulas rest).of_suffix ((List.suffix_cons _ rest).trans condition)
    split
    · rename_i failed
      rwa [failed] at yes
    · rename_i readYes
      rw [readYes] at yes
      split
      · exact (expect_leaves _ _ yes).1 _ ‹_›
      · rename_i after closed
        have no := (formulas after).of_suffix ((expect_leaves _ _ yes).2 _ closed)
        split
        · rename_i failed
          rwa [failed] at no
        · rename_i readNo
          rwa [readNo] at no
  · exact condition

end Rules

/-- With any number of rules allowed to open, ternaries and unaries leave an end of their tokens. -/
theorem leaves_rules (n : Nat) :
    (∀ tokens, Leaves tokens (ternary n tokens)) ∧ ∀ tokens, Leaves tokens (prefixed n tokens) := by
  induction n with
  | zero =>
    -- No rule may open any more, and both give up with all that is left to them.
    constructor
    · intro tokens
      exact ⟨List.suffix_rfl, by simp⟩
    · intro tokens
      exact ⟨List.suffix_rfl, by simp⟩
  | succ n ih =>
    exact ⟨leaves_conditional ih.1 ih.2, leaves_prefixedOnce ih.1 ih.2⟩

/-! ### Whole formulas -/

/-- A formula that is not too long is given up at an end of its tokens. -/
theorem ofTokens_eq_error {tokens : List Token} {stop : Stop}
    (failed : Expr.ofTokens tokens = .error stop) :
    (maxTokens < tokens.length ∧ stop = ⟨.tooLong, tokens⟩) ∨
      (tokens.length ≤ maxTokens ∧ stop.fault ≠ .tooLong ∧ stop.rest <:+ tokens) := by
  unfold Expr.ofTokens at failed
  split at failed
  · rename_i tooLong
    cases failed
    exact .inl ⟨tooLong, rfl⟩
  · rename_i short
    have leaves := (leaves_rules maxNesting).1 tokens
    split at failed
    · rename_i gaveUp
      cases failed
      rw [gaveUp] at leaves
      exact .inr ⟨Nat.le_of_not_lt short, leaves.2, leaves.1⟩
    · cases failed
    · rename_i read
      cases failed
      rw [read] at leaves
      exact .inr ⟨Nat.le_of_not_lt short, by simp, leaves⟩

/-- The part of the tokens that a rule leaves, with their positions. -/
theorem exists_left_of_suffix {tokens : List Located} {rest : List Token}
    (suffix : rest <:+ tokens.map (·.token)) :
    ∃ read left, tokens = read ++ left ∧ left.map (·.token) = rest := by
  obtain ⟨before, split⟩ := suffix
  obtain ⟨read, left, rfl, -, same⟩ := List.map_eq_append_iff.mp split.symm
  exact ⟨read, left, rfl, same⟩

/-- A rule stops at the first token that is left, or at the end of the text. -/
theorem Stop.position_of_left {fault : SyntaxFault} (short : fault ≠ .tooLong)
    (read left : List Located) (size : Nat) :
    (Stop.mk fault (left.map (·.token))).position (read ++ left) size =
      match left with
      | [] => size
      | first :: _ => first.position := by
  cases left with
  | nil => simp [Stop.position, short]
  | cons first rest => simp [Stop.position, short]

/-! ### Characters and bytes -/

/-- A text has at least as many bytes as characters. -/
theorem length_le_utf8Len (cs : List Char) : cs.length ≤ String.utf8Len cs := by
  induction cs with
  | nil => exact Nat.le_refl 0
  | cons c cs ih =>
    have positive := c.utf8Size_pos
    rw [List.length_cons, String.utf8Len]
    omega

/-- A text has more bytes than characters iff one of them takes several. -/
theorem length_lt_utf8Len_iff {cs : List Char} :
    cs.length < String.utf8Len cs ↔ ∃ c ∈ cs, 1 < c.utf8Size := by
  induction cs with
  | nil => simp [String.utf8Len]
  | cons c cs ih =>
    have positive := c.utf8Size_pos
    have rest := length_le_utf8Len cs
    rw [List.length_cons, String.utf8Len, List.exists_mem_cons_iff, ← ih]
    omega

/-! ### Errors -/

/-- Where a text that is no formula is found at fault. -/
inductive FaultPlace (source : String) : ParseError → Prop where
  /-- A token that cannot be read, at its first character. -/
  | unreadable {e} : scan source = .error e → e.ReadIn source.toList → FaultPlace source e
  /-- Too many tokens, at the beginning. -/
  | whole {tokens} : scan source = .ok tokens → maxTokens < tokens.length →
      FaultPlace source ⟨0, .tooLong⟩
  /-- The first token that is left, at its first character. -/
  | token {read t left fault} : scan source = .ok (read ++ t :: left) →
      Expr.ofTokens ((read ++ t :: left).map (·.token)) =
        .error ⟨fault, (t :: left).map (·.token)⟩ →
      t.ReadIn source.toList → FaultPlace source ⟨t.position, fault⟩
  /-- No token is left: the end of the text, counted in bytes. -/
  | ending {tokens fault} : scan source = .ok tokens →
      Expr.ofTokens (tokens.map (·.token)) = .error ⟨fault, []⟩ →
      FaultPlace source ⟨source.utf8ByteSize, fault⟩

/-- Every fault of a text is found in one of these places. -/
theorem faultPlace_of_parse {source : String} {e : ParseError}
    (failed : Expr.parse source = .error e) : FaultPlace source e := by
  unfold Expr.parse at failed
  have places := scan_readIn source
  split at failed
  · rename_i scanned
    cases failed
    rw [scanned] at places
    exact .unreadable scanned places
  · rename_i tokens scanned
    rw [scanned] at places
    split at failed
    · cases failed
    · rename_i stop gaveUp
      cases failed
      rcases ofTokens_eq_error gaveUp with ⟨tooLong, rfl⟩ | ⟨_, short, suffix⟩
      · rw [List.length_map] at tooLong
        exact .whole scanned tooLong
      · obtain ⟨fault, rest⟩ := stop
        obtain ⟨read, left, rfl, rfl⟩ := exists_left_of_suffix suffix
        rw [Stop.position_of_left short]
        cases left with
        | nil => exact .ending scanned gaveUp
        | cons t left => exact .token scanned gaveUp (places t (by simp))

/-- **Faults are reported at characters, or at the end of the text in bytes.** No position lies
beyond the bytes of the text, and one beyond its characters is the end of a text in which a
character takes several bytes. -/
theorem parse_error_place {source : String} {e : ParseError}
    (failed : Expr.parse source = .error e) :
    FaultPlace source e ∧ e.position ≤ source.utf8ByteSize ∧
      (source.length < e.position →
        e.position = source.utf8ByteSize ∧ ∃ c ∈ source.toList, 1 < c.utf8Size) := by
  have place := faultPlace_of_parse failed
  have le : source.length ≤ source.utf8ByteSize := by
    rw [← String.length_toList, ← String.utf8Len_toList]
    exact length_le_utf8Len _
  have within {position : Nat} (inside : position ≤ source.length) :
      position ≤ source.utf8ByteSize ∧ (source.length < position →
        position = source.utf8ByteSize ∧ ∃ c ∈ source.toList, 1 < c.utf8Size) :=
    ⟨inside.trans le, fun beyond => absurd inside (Nat.not_le.mpr beyond)⟩
  refine ⟨place, ?_⟩
  -- Only the end of the text is counted otherwise than in characters.
  cases place with
  | unreadable _ unread =>
    obtain ⟨_, c, cs, here, _⟩ := unread
    exact within (lt_length_of_drop here).le
  | whole _ _ => exact within (Nat.zero_le _)
  | token _ _ readIn =>
    obtain ⟨_, c, cs, _, here, _⟩ := readIn
    exact within (lt_length_of_drop here).le
  | ending _ _ =>
    refine ⟨Nat.le_refl _, fun beyond => ⟨rfl, ?_⟩⟩
    rw [← String.length_toList, ← String.utf8Len_toList] at beyond
    exact length_lt_utf8Len_iff.mp beyond

/-- A letter of two bytes does not count twice in front of a token. -/
theorem parse_error_place_accent :
    Expr.parse "é )" = .error ⟨2, .trailingInput⟩ ∧ "é )".utf8ByteSize = 4 ∧
      FaultPlace "é )" ⟨2, .trailingInput⟩ := by
  have failed : Expr.parse "é )" = .error ⟨2, .trailingInput⟩ := by rfl
  exact ⟨failed, rfl, (parse_error_place failed).1⟩

/-- It does at the end, which is reported beyond the last of three characters. -/
theorem parse_accent_beyond :
    Expr.parse "é +" = .error ⟨4, .unexpectedEnd⟩ ∧ "é +".length = 3 :=
  ⟨rfl, rfl⟩

end Playfield.Formula
