import Playfield.Proofs.Formula.Grammar

/-!
The parser reads nothing but what the grammar derives.

`Nonterminal.rule` names the parser of each rule of the grammar. One lemma for each of its functions
says that the tokens it takes derive the tree it returns, provided the rules that it calls do so
(`Reads`); `reads_rules` closes the circle by induction on the number of rules that may still open.
-/

namespace Playfield.Formula

/-! ### The parser by rules of the grammar -/

/-- The operator of a level that the parser sees in a token. -/
def Level.operator? : Level → Token → Option BinaryOp
  | .disjunction => disjunction?
  | .conjunction => conjunction?
  | .equality => equality?
  | .comparison => comparison?
  | .sum => sum?
  | .product => product?

/-- A level and the tighter ones. -/
def Level.table : Level → List (Token → Option BinaryOp)
  | .disjunction => levels
  | .conjunction => levels.drop 1
  | .equality => levels.drop 2
  | .comparison => levels.drop 3
  | .sum => levels.drop 4
  | .product => levels.drop 5

/-- The parser of a rule, with `n` more ternaries and unaries allowed to open. -/
def Nonterminal.rule : Nonterminal → Nat → Rule Expr
  | .ternary, n => Formula.ternary n
  | .chain level, n => chains (prefixed n) level.table
  | .unary, n => Formula.prefixed n
  | .power, n => Formula.power (Formula.ternary n) (Formula.prefixed n)
  | .selection, n => selected (Formula.ternary n)
  | .primary, n => Formula.primary (Formula.ternary n)

/-- The parser of a level reads its operands with its operators between them. -/
theorem rule_chain (level : Level) (n : Nat) :
    (Nonterminal.chain level).rule n = chain level.operator? (level.operand.rule n) := by
  cases level <;> rfl

/-- The parser sees an operator in a token iff the grammar does. -/
theorem operator?_eq_some_iff {level : Level} {t : Token} {op : BinaryOp} :
    level.operator? t = some op ↔ Operator level t op := by
  constructor
  · intro h
    cases t with
    | number _ | text _ => cases level <;> cases h
    | name id =>
      cases level with
      | disjunction =>
        simp only [Level.operator?, disjunction?, Option.ite_none_right_eq_some] at h
        obtain ⟨rfl, h⟩ := h
        cases h
        exact .or
      | conjunction =>
        simp only [Level.operator?, conjunction?, Option.ite_none_right_eq_some] at h
        obtain ⟨rfl, h⟩ := h
        cases h
        exact .and
      | equality | comparison | sum | product => cases h
    | symbol s => cases level <;> cases s <;> cases h <;> constructor
  · intro h
    cases h <;> rfl

theorem unary?_eq_some_iff {t : Token} {op : UnaryOp} :
    unary? t = some op ↔ PrefixOperator t op := by
  constructor
  · intro h
    cases t with
    | number _ | text _ => cases h
    | name id =>
      simp only [unary?, Option.ite_none_right_eq_some] at h
      obtain ⟨rfl, h⟩ := h
      cases h
      exact .not
    | symbol s => cases s <;> cases h <;> constructor
  · intro h
    cases h <;> rfl

/-- No operator of a level stands where its chain ends. -/
theorem operator?_eq_none {level : Level} {t : Token}
    (h : (Nonterminal.chain level).rank < t.rank) : level.operator? t = none := by
  cases found : level.operator? t with
  | none => rfl
  | some op =>
    rw [(operator?_eq_some_iff.mp found).rank] at h
    exact absurd h (Nat.lt_irrefl _)

/-- An expected symbol is found iff it stands in front. -/
theorem expect_eq_ok_iff {s : Symbol} {what : Expectation} {tokens rest : List Token} :
    expect s what tokens = .ok rest ↔ tokens = .symbol s :: rest := by
  cases tokens with
  | nil => simp [expect]
  | cons t tokens =>
    cases t with
    | symbol found =>
      by_cases same : found = s
      · simp [expect, same]
      · simp [expect, same]
    | number _ | text _ | name _ => simp [expect]

/-! ### What the parser reads is derived -/

/-- What a rule returns stands for the tokens that it took. -/
def Reads {α : Type} (r : Rule α) (derives : List Token → α → Prop) : Prop :=
  ∀ tokens a rest, r tokens = .ok (a, rest) → ∃ ts, tokens = ts ++ rest ∧ derives ts a

/-- A derivation with at most `n` ternaries and unaries open at once. -/
def Within (nt : Nonterminal) (n : Nat) (ts : List Token) (e : Expr) : Prop :=
  ∃ d ≤ n, Derives nt d ts e

/-- A rule leaves no more tokens than it was given. -/
theorem Reads.length_le {r : Rule Expr} {derives : List Token → Expr → Prop}
    (h : Reads r derives) {tokens rest : List Token} {e : Expr} (read : r tokens = .ok (e, rest)) :
    rest.length ≤ tokens.length := by
  obtain ⟨ts, rfl, _⟩ := h tokens e rest read
  simp

section Sound

variable {n : Nat}

/-- A rule that has derived its part and takes no more. -/
theorem exists_append_of_ok {derives : List Token → Expr → Prop} {left e : Expr}
    {tokens rest ts : List Token} (derived : derives ts left)
    (h : (.ok (left, tokens) : Except Stop (Expr × List Token)) = .ok (e, rest)) :
    ∃ ts', tokens = ts' ++ rest ∧ derives (ts ++ ts') e := by
  cases h
  exact ⟨[], rfl, by simpa using derived⟩

/-- Links are derived from the tokens that they take, together with those of the chain before them.
-/
theorem reads_links {level : Level} {operand : Rule Expr}
    (reads : Reads operand (Within level.operand n)) {fuel : Nat} {left e : Expr}
    {tokens rest ts : List Token} (derived : Within (.chain level) n ts left)
    (h : links level.operator? operand fuel left tokens = .ok (e, rest)) :
    ∃ ts', tokens = ts' ++ rest ∧ Within (.chain level) n (ts ++ ts') e := by
  induction fuel generalizing left tokens ts with
  | zero => exact exists_append_of_ok derived h
  | succ fuel ih =>
    cases tokens with
    | nil => exact exists_append_of_ok derived h
    | cons t tokens =>
      simp only [links] at h
      split at h
      · exact exists_append_of_ok derived h
      · rename_i op found
        split at h
        · cases h
        · rename_i right after read
          obtain ⟨ts₂, rfl, d₂, le₂, derived₂⟩ := reads tokens right after read
          obtain ⟨d₁, le₁, derived₁⟩ := derived
          have linked : Within (.chain level) n (ts ++ t :: ts₂) (.binary op left right) :=
            ⟨max d₁ d₂, by omega, .link derived₁ (operator?_eq_some_iff.mp found) derived₂⟩
          obtain ⟨ts', rfl, whole⟩ := ih linked h
          exact ⟨t :: ts₂ ++ ts', by simp, by simpa using whole⟩

theorem reads_chain (level : Level) {operand : Rule Expr}
    (reads : Reads operand (Within level.operand n)) :
    Reads (chain level.operator? operand) (Within (.chain level) n) := by
  intro tokens e rest h
  simp only [chain] at h
  split at h
  · cases h
  · rename_i left after read
    obtain ⟨ts, rfl, d, le, derived⟩ := reads tokens left after read
    obtain ⟨ts', rfl, whole⟩ := reads_links reads ⟨d, le, .operand derived⟩ h
    exact ⟨ts ++ ts', by simp, whole⟩

theorem reads_chains (reads : Reads (prefixed n) (Within .unary n)) (level : Level) :
    Reads ((Nonterminal.chain level).rule n) (Within (.chain level) n) := by
  have product := reads_chain .product reads
  have sum := reads_chain .sum product
  have comparison := reads_chain .comparison sum
  have equality := reads_chain .equality comparison
  have conjunction := reads_chain .conjunction equality
  cases level with
  | product => exact product
  | sum => exact sum
  | comparison => exact comparison
  | equality => exact equality
  | conjunction => exact conjunction
  | disjunction => exact reads_chain .disjunction conjunction

/-- What a chain is made of, read by its own rule. -/
theorem reads_operand (reads : Reads (prefixed n) (Within .unary n)) (level : Level) :
    Reads (level.operand.rule n) (Within level.operand n) := by
  cases level with
  | product => exact reads
  | disjunction | conjunction | equality | comparison | sum => exact reads_chains reads _

/-- Arguments are derived from the tokens before the closing parenthesis. -/
theorem reads_arguments {formula : Rule Expr} (reads : Reads formula (Within .ternary n))
    {fuel : Nat} {tokens rest : List Token} {es : List Expr}
    (h : arguments formula fuel tokens = .ok (es, rest)) :
    ∃ ts, tokens = ts ++ .symbol .rightParen :: rest ∧ ∃ d ≤ n, DerivesArguments d ts es := by
  induction fuel generalizing tokens es with
  | zero => cases h
  | succ fuel ih =>
    simp only [arguments] at h
    split at h
    · cases h
    · rename_i first later read
      obtain ⟨ts₁, rfl, d₁, le₁, derived₁⟩ := reads tokens first _ read
      split at h
      · cases h
      · rename_i more after readMore
        cases h
        obtain ⟨ts₂, rfl, d₂, le₂, derived₂⟩ := ih readMore
        exact ⟨ts₁ ++ .symbol .comma :: ts₂, by simp, max d₁ d₂, by omega, .more derived₁ derived₂⟩
    · rename_i first after _ read
      obtain ⟨ts, rfl, d, le, derived⟩ := reads tokens first after read
      split at h
      · cases h
      · rename_i final closed
        cases h
        rw [expect_eq_ok_iff.mp closed]
        exact ⟨ts, rfl, d, le, .last derived⟩

/-- A name, or a call of it, is derived as a primary. -/
theorem reads_named {formula : Rule Expr} (reads : Reads formula (Within .ternary n))
    {id : String} (word : id ≠ "not") {tokens rest : List Token} {e : Expr}
    (h : named formula id tokens = .ok (e, rest)) :
    ∃ ts, .name id :: tokens = ts ++ rest ∧ Within .primary n ts e := by
  unfold named at h
  split at h
  · rename_i isTrue
    cases h
    exact ⟨[.name id], rfl, 0, Nat.zero_le n, isTrue ▸ .yes⟩
  · rename_i notTrue
    split at h
    · rename_i isFalse
      cases h
      exact ⟨[.name id], rfl, 0, Nat.zero_le n, isFalse ▸ .no⟩
    · rename_i notFalse
      have ordinary : Ordinary id := ⟨word, notTrue, notFalse⟩
      split at h
      · cases h
        exact ⟨[.name id, .symbol .leftParen, .symbol .rightParen], rfl, 0, Nat.zero_le n,
          .callEmpty ordinary⟩
      · split at h
        · cases h
        · rename_i args after read
          cases h
          obtain ⟨ts, rfl, d, le, derived⟩ := reads_arguments reads read
          exact ⟨.name id :: .symbol .leftParen :: (ts ++ [.symbol .rightParen]), by simp, d, le,
            .call ordinary derived⟩
      · cases h
        exact ⟨[.name id], rfl, 0, Nat.zero_le n, .name ordinary⟩

/-- No prefix operator stands first. -/
def Unprefixed (tokens : List Token) : Prop :=
  ∀ t ∈ tokens.head?, ∀ op, ¬ PrefixOperator t op

/-- A primary is derived where no prefix operator stands. -/
theorem reads_primary {formula : Rule Expr} (reads : Reads formula (Within .ternary n))
    {tokens rest : List Token} {e : Expr} (unprefixed : Unprefixed tokens)
    (h : primary formula tokens = .ok (e, rest)) :
    ∃ ts, tokens = ts ++ rest ∧ Within .primary n ts e := by
  unfold primary at h
  split at h
  · cases h
  · rename_i value after
    cases h
    exact ⟨[.number value], rfl, 0, Nat.zero_le n, .number value⟩
  · rename_i content after
    cases h
    exact ⟨[.text content], rfl, 0, Nat.zero_le n, .text content⟩
  · rename_i id after
    refine reads_named reads (fun word => ?_) h
    exact unprefixed (.name id) rfl .not (word ▸ .not)
  · split at h
    · cases h
    · rename_i inner after read
      split at h
      · cases h
      · rename_i final closed
        cases h
        obtain ⟨ts, rfl, d, le, derived⟩ := reads _ _ after read
        rw [expect_eq_ok_iff.mp closed]
        exact ⟨.symbol .leftParen :: (ts ++ [.symbol .rightParen]), by simp, d, le,
          .parens derived⟩
  · cases h

/-- Selections are derived from the tokens that they take, together with those of the object. -/
theorem reads_selections {formula : Rule Expr} (reads : Reads formula (Within .ternary n))
    {fuel : Nat} {object e : Expr} {tokens rest ts : List Token}
    (derived : Within .selection n ts object)
    (h : selections formula fuel object tokens = .ok (e, rest)) :
    ∃ ts', tokens = ts' ++ rest ∧ Within .selection n (ts ++ ts') e := by
  induction fuel generalizing object tokens ts with
  | zero => exact exists_append_of_ok derived h
  | succ fuel ih =>
    unfold selections at h
    split at h
    · rename_i eq
      cases eq
      split at h
      · rename_i field after
        obtain ⟨d, le, derived⟩ := derived
        obtain ⟨ts', rfl, whole⟩ := ih ⟨d, le, .member derived⟩ h
        exact ⟨.symbol .dot :: .name field :: ts', rfl, by simpa using whole⟩
      · cases h
    · rename_i eq
      cases eq
      split at h
      · cases h
      · rename_i key after read
        split at h
        · cases h
        · rename_i final closed
          obtain ⟨ts₂, rfl, d₂, le₂, derived₂⟩ := reads _ key after read
          obtain ⟨d₁, le₁, derived₁⟩ := derived
          rw [expect_eq_ok_iff.mp closed]
          obtain ⟨ts', rfl, whole⟩ :=
            ih ⟨max d₁ d₂, by omega, .index derived₁ derived₂⟩ h
          exact ⟨.symbol .leftBracket :: (ts₂ ++ .symbol .rightBracket :: ts'), by simp,
            by simpa using whole⟩
    · exact exists_append_of_ok derived h

theorem reads_selected {formula : Rule Expr} (reads : Reads formula (Within .ternary n))
    {tokens rest : List Token} {e : Expr} (unprefixed : Unprefixed tokens)
    (h : selected formula tokens = .ok (e, rest)) :
    ∃ ts, tokens = ts ++ rest ∧ Within .selection n ts e := by
  simp only [selected] at h
  split at h
  · cases h
  · rename_i object after read
    obtain ⟨ts, rfl, d, le, derived⟩ := reads_primary reads unprefixed read
    obtain ⟨ts', rfl, whole⟩ := reads_selections reads ⟨d, le, .whole derived⟩ h
    exact ⟨ts ++ ts', by simp, whole⟩

theorem reads_power (formulas : Reads (ternary n) (Within .ternary n))
    (exponents : Reads (prefixed n) (Within .unary n)) {tokens rest : List Token} {e : Expr}
    (unprefixed : Unprefixed tokens)
    (h : power (ternary n) (prefixed n) tokens = .ok (e, rest)) :
    ∃ ts, tokens = ts ++ rest ∧ Within .power n ts e := by
  simp only [power] at h
  split at h
  · rename_i base after read
    obtain ⟨ts₁, rfl, d₁, le₁, derived₁⟩ := reads_selected formulas unprefixed read
    split at h
    · cases h
    · rename_i exponent final readExponent
      cases h
      obtain ⟨ts₂, rfl, d₂, le₂, derived₂⟩ := exponents after exponent _ readExponent
      exact ⟨ts₁ ++ .symbol .caret :: ts₂, by simp, max d₁ d₂, by omega,
        .raised derived₁ derived₂⟩
  · obtain ⟨ts, rfl, d, le, derived⟩ := reads_selected formulas unprefixed h
    exact ⟨ts, rfl, d, le, .base derived⟩

/-- A prefixed operand is derived if one with a level less is. -/
theorem reads_prefixed (formulas : Reads (ternary n) (Within .ternary n))
    (operands : Reads (prefixed n) (Within .unary n)) :
    Reads (prefixed (n + 1)) (Within .unary (n + 1)) := by
  intro tokens e rest h
  have plain (unprefixed : Unprefixed tokens)
      (h : power (ternary n) (prefixed n) tokens = .ok (e, rest)) :
      ∃ ts, tokens = ts ++ rest ∧ Within .unary (n + 1) ts e := by
    obtain ⟨ts, rfl, d, le, derived⟩ := reads_power formulas operands unprefixed h
    exact ⟨ts, rfl, d + 1, Nat.succ_le_succ le, .plain derived⟩
  cases tokens with
  | nil => exact plain (by simp [Unprefixed]) h
  | cons t tokens =>
    simp only [prefixed, prefixedOnce] at h
    split at h
    · rename_i noOperator
      refine plain (fun t' first op prefixing => ?_) h
      cases first
      rw [unary?_eq_some_iff.mpr prefixing] at noOperator
      cases noOperator
    · rename_i op found
      split at h
      · cases h
      · rename_i inner after read
        cases h
        obtain ⟨ts, rfl, d, le, derived⟩ := operands tokens inner _ read
        exact ⟨t :: ts, rfl, d + 1, Nat.succ_le_succ le,
          .prefixed (unary?_eq_some_iff.mp found) derived⟩

/-- A formula is derived if one with a level less is. -/
theorem reads_ternary (formulas : Reads (ternary n) (Within .ternary n))
    (operands : Reads (prefixed n) (Within .unary n)) :
    Reads (ternary (n + 1)) (Within .ternary (n + 1)) := by
  intro tokens e rest h
  simp only [ternary, conditional] at h
  split at h
  · rename_i condition after read
    obtain ⟨ts₁, rfl, d₁, le₁, derived₁⟩ :=
      reads_chains operands .disjunction tokens condition _ read
    split at h
    · cases h
    · rename_i yes afterYes readYes
      obtain ⟨ts₂, rfl, d₂, le₂, derived₂⟩ := formulas after yes _ readYes
      split at h
      · cases h
      · rename_i final colon
        rw [expect_eq_ok_iff.mp colon]
        split at h
        · cases h
        · rename_i no afterNo readNo
          cases h
          obtain ⟨ts₃, rfl, d₃, le₃, derived₃⟩ := formulas final no _ readNo
          exact ⟨ts₁ ++ .symbol .question :: (ts₂ ++ .symbol .colon :: ts₃), by simp,
            max d₁ (max d₂ d₃) + 1, by omega, .conditional derived₁ derived₂ derived₃⟩
  · obtain ⟨ts, rfl, d, le, derived⟩ := reads_chains operands .disjunction tokens e rest h
    exact ⟨ts, rfl, d + 1, Nat.succ_le_succ le, .formula derived⟩

end Sound

/-- With any number of rules allowed to open, ternaries and unaries read what the grammar derives
within that number. -/
theorem reads_rules (n : Nat) :
    Reads (ternary n) (Within .ternary n) ∧ Reads (prefixed n) (Within .unary n) := by
  induction n with
  | zero =>
    constructor <;> intro tokens e rest h <;> cases h
  | succ n ih => exact ⟨reads_ternary ih.1 ih.2, reads_prefixed ih.1 ih.2⟩

end Playfield.Formula
