import Playfield.Proofs.Formula.ParserSound

/-!
The parser as a run on a cursor, with a count of what is open.

`Counting.rule` is the parser with a state: it holds the tokens that are left, counts the ternaries
and unaries that are open and remembers the most that ever were. Its loops go on for as long as the
tokens tell them to. What keeps the definition from running forever is a limit on how many calls may
be open inside each other, a round of a loop being a call in the one before; where the limit is
reached there is no outcome. A run ends if it has an outcome from some limit on, always the same
(`Comes`).
-/

namespace Playfield.Formula

/-- A run under way: the tokens that are left, how many ternaries and unaries are open, and the most
that ever were. -/
structure Cursor where
  rest : List Token
  depth : Nat
  peak : Nat

/-- One rule more is open. -/
def Cursor.opened (c : Cursor) : Cursor :=
  { c with depth := c.depth + 1, peak := max c.peak (c.depth + 1) }

/-- One rule less is open. -/
def Cursor.closed (c : Cursor) : Cursor :=
  { c with depth := c.depth - 1 }

/-- A rule that moves a cursor and reads or gives up, or has no outcome. -/
abbrev Counting (α : Type) := ExceptT Stop (StateT Cursor Option) α

/-- Whether a rule counts as a level of nesting. -/
def Nonterminal.counts : Nonterminal → Bool
  | .ternary | .unary => true
  | .chain _ | .power | .selection | .primary => false

namespace Counting

variable {α β : Type}

/-! ### The parser on a cursor -/

/-- The limit is reached. -/
def limited : Counting α := fun _ => none

/-- Give up where the cursor is. -/
def fail (fault : SyntaxFault) : Counting α := do
  throw ⟨fault, (← get).rest⟩

/-- The token in front. -/
def peek : Counting (Option Token) := do
  return (← get).rest.head?

/-- Pass over the token in front. -/
def advance : Counting Unit :=
  modify fun c => { c with rest := c.rest.tail }

/-- Pass over a symbol if it stands in front. -/
def eat (s : Symbol) : Counting Bool := do
  if (← peek) = some (.symbol s) then
    advance
    return true
  else return false

/-- Pass over a symbol. -/
def expect (s : Symbol) (what : Expectation) : Counting Unit := do
  if ← eat s then return () else fail (.expected what)

/-- Run a rule one level deeper, unless too many are open. The level is left again also when the
rule gives up. -/
def nested (inner : Counting α) : Counting α := fun c =>
  if maxNesting ≤ c.depth then some (.error ⟨.tooDeep, c.rest⟩, c)
  else do
    let (outcome, c) ← inner c.opened
    return (outcome, c.closed)

mutual

/-- A rule of the grammar: its body, one level deeper if it counts as one. -/
def rule : Nat → Nonterminal → Counting Expr
  | 0, _ => limited
  | n + 1, nt => if nt.counts then nested (body n nt) else body n nt

/-- What a rule reads. -/
def body : Nat → Nonterminal → Counting Expr
  | 0, _ => limited
  | n + 1, .ternary => do
    let condition ← rule n (.chain .disjunction)
    if ← eat .question then
      let yes ← rule n .ternary
      expect .colon .colon
      return .conditional condition yes (← rule n .ternary)
    else return condition
  | n + 1, .chain level => do links n level (← rule n level.operand)
  | n + 1, .unary => do
    match (← peek).bind unary? with
    | none => rule n .power
    | some op =>
      advance
      return .unary op (← rule n .unary)
  | n + 1, .power => do
    let base ← rule n .selection
    if ← eat .caret then return .binary .power base (← rule n .unary) else return base
  | n + 1, .selection => do selections n (← rule n .primary)
  | n + 1, .primary => do
    let start := (← get).rest
    let token ← peek
    advance
    match token with
    | none => throw ⟨.unexpectedEnd, start⟩
    | some (.number value) => return .number value
    | some (.text content) => return .text content
    | some (.name id) =>
      if id = "true" then return .truth true
      else if id = "false" then return .truth false
      else if ← eat .leftParen then return .call id (← arguments n)
      else return .name id
    | some (.symbol s) =>
      if s = .leftParen then
        let inner ← rule n .ternary
        expect .rightParen .closingParen
        return inner
      else throw ⟨.unexpectedSymbol s, start⟩

/-- The links of a level after an operand. -/
def links : Nat → Level → Expr → Counting Expr
  | 0, _, _ => limited
  | n + 1, level, left => do
    match (← peek).bind level.operator? with
    | none => return left
    | some op =>
      advance
      links n level (.binary op left (← rule n level.operand))

/-- The selections after an operand. -/
def selections : Nat → Expr → Counting Expr
  | 0, _ => limited
  | n + 1, object => do
    if ← eat .dot then
      let token ← peek
      advance
      match token with
      | some (.name field) => selections n (.member object field)
      | _ => fail (.expected .memberName)
    else if ← eat .leftBracket then
      let key ← rule n .ternary
      expect .rightBracket .closingBracket
      selections n (.index object key)
    else return object

/-- The arguments of a call after its opening parenthesis. -/
def arguments : Nat → Counting (List Expr)
  | 0 => limited
  | n + 1 => do
    if ← eat .rightParen then return [] else someArguments n

/-- One argument or more. -/
def someArguments : Nat → Counting (List Expr)
  | 0 => limited
  | n + 1 => do
    let first ← rule n .ternary
    if ← eat .comma then return first :: (← someArguments n)
    else
      expect .rightParen .closingArguments
      return [first]

end

/-! ### Steps -/

section Steps

variable {x : Counting α} {f : α → Counting β} {c c' : Cursor} {tokens : List Token}
  {depth peak : Nat}

/-- What follows a step that succeeds runs where the step has left the cursor. -/
theorem bind_read {a : α} (h : x c = some (.ok a, c')) : (x >>= f) c = f a c' := by
  change Option.bind (x c) _ = _
  rw [h]
  rfl

/-- A step that gives up ends the run. -/
theorem bind_stopped {stop : Stop} (h : x c = some (.error stop, c')) :
    (x >>= f) c = some (.error stop, c') := by
  change Option.bind (x c) _ = _
  rw [h]
  rfl

theorem bind_get {f : Cursor → Counting β} : (get >>= f) c = f c c :=
  rfl

theorem bind_peek {f : Option Token → Counting β} :
    (Counting.peek >>= f) ⟨tokens, depth, peak⟩ = f tokens.head? ⟨tokens, depth, peak⟩ :=
  rfl

theorem bind_advance {f : Unit → Counting β} :
    (advance >>= f) ⟨tokens, depth, peak⟩ = f () ⟨tokens.tail, depth, peak⟩ :=
  rfl

theorem eat_cons (s : Symbol) :
    eat s ⟨.symbol s :: tokens, depth, peak⟩ = some (.ok true, ⟨tokens, depth, peak⟩) := by
  rw [eat, bind_peek, List.head?_cons, if_pos rfl]
  rfl

theorem eat_of_ne {s : Symbol} (h : ∀ rest, tokens ≠ .symbol s :: rest) :
    eat s ⟨tokens, depth, peak⟩ = some (.ok false, ⟨tokens, depth, peak⟩) := by
  have other : tokens.head? ≠ some (.symbol s) := by
    intro first
    obtain ⟨rest, eq⟩ := List.head?_eq_some_iff.mp first
    exact h rest eq
  rw [eat, bind_peek, if_neg other]
  rfl

/-- An expected symbol is passed over. -/
theorem expect_of_ok {s : Symbol} {what : Expectation} {rest : List Token}
    (h : Formula.expect s what tokens = .ok rest) :
    expect s what ⟨tokens, depth, peak⟩ = some (.ok (), ⟨rest, depth, peak⟩) := by
  rw [expect_eq_ok_iff.mp h, expect, bind_read (eat_cons s)]
  rfl

/-- Where a symbol is missing the cursor stays. -/
theorem expect_of_error {s : Symbol} {what : Expectation} {stop : Stop}
    (h : Formula.expect s what tokens = .error stop) :
    expect s what ⟨tokens, depth, peak⟩ = some (.error stop, ⟨tokens, depth, peak⟩) := by
  have other (rest : List Token) : tokens ≠ .symbol s :: rest := by
    rintro rfl
    rw [expect_eq_ok_iff.mpr rfl] at h
    cases h
  have stopped : stop = ⟨.expected what, tokens⟩ := by
    unfold Formula.expect at h
    split at h
    · split at h
      · cases h
      · exact (Except.error.inj h).symm
    · exact (Except.error.inj h).symm
  rw [expect, bind_read (eat_of_ne other), stopped]
  rfl

end Steps

/-! ### Runs -/

/-- From some limit on there is this outcome. -/
def Comes {ρ : Type} (run : Nat → Option ρ) (outcome : ρ) : Prop :=
  ∃ enough, ∀ limit ≥ enough, run limit = some outcome

section Runs

variable {ρ : Type} {outcome : ρ} {c c' : Cursor}

/-- A run that does not depend on the limit comes to its outcome. -/
theorem comes_const {ran : Option ρ} (h : ran = some outcome) : Comes (fun _ => ran) outcome :=
  ⟨0, fun _ _ => h⟩

/-- A call may be inside another. -/
theorem Comes.of_succ {run : Nat → Option ρ} (h : Comes (fun limit => run (limit + 1)) outcome) :
    Comes run outcome := by
  obtain ⟨enough, all⟩ := h
  refine ⟨enough + 1, fun limit more => ?_⟩
  obtain ⟨limit, rfl⟩ := Nat.exists_eq_add_of_le' (Nat.le_of_add_left_le more)
  exact all limit (Nat.le_of_succ_le_succ more)

/-- Runs one after the other come to an end if both do. -/
theorem Comes.bind {x : Nat → Counting α} {f : Nat → α → Counting β} {a : α}
    {outcome : Except Stop β × Cursor} (first : Comes (x · c) (.ok a, c'))
    (later : Comes (f · a c') outcome) : Comes (fun limit => (x limit >>= f limit) c) outcome := by
  obtain ⟨enough₁, all₁⟩ := first
  obtain ⟨enough₂, all₂⟩ := later
  refine ⟨max enough₁ enough₂, fun limit more => ?_⟩
  exact (bind_read (all₁ limit (by omega))).trans (all₂ limit (by omega))

/-- A run whose first part gives up comes to an end there. -/
theorem Comes.bind_stopped {x : Nat → Counting α} {f : Nat → α → Counting β} {stop : Stop}
    (first : Comes (x · c) (.error stop, c')) :
    Comes (fun limit => (x limit >>= f limit) c) (.error stop, c') := by
  obtain ⟨enough, all⟩ := first
  exact ⟨enough, fun limit more => Counting.bind_stopped (all limit more)⟩

/-- A level that is open for a run is open no more after it. -/
theorem Comes.nested {inner : Nat → Counting α} {outcome : Except Stop α} {tokens rest : List Token}
    {depth peak peak' : Nat} (less : depth < maxNesting)
    (h : Comes (inner · ⟨tokens, depth + 1, max peak (depth + 1)⟩)
      (outcome, ⟨rest, depth + 1, peak'⟩)) :
    Comes (fun limit => nested (inner limit) ⟨tokens, depth, peak⟩)
      (outcome, ⟨rest, depth, peak'⟩) := by
  obtain ⟨enough, all⟩ := h
  refine ⟨enough, fun limit more => ?_⟩
  have ran : inner limit ⟨tokens, depth + 1, max peak (depth + 1)⟩ =
      some (outcome, ⟨rest, depth + 1, peak'⟩) := all limit more
  simp only [Counting.nested, if_neg (Nat.not_le.mpr less), Cursor.opened, ran]
  rfl

end Runs

end Counting

end Playfield.Formula
