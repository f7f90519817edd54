import Mathlib.Logic.ExistsUnique
import Playfield.Proofs.Formula.ParserSound

/-!
The parser reads everything that the grammar derives.

The parser never goes back, so a derivation has to be found by what follows: a rule that has read
the tokens of a derivation stops there if it ends at the next token (`Completes`). Chains and
selections grow to the left in the grammar and to the right in the parser; for them the statement is
that the tokens read so far have become the left side with which the loop goes on.

With the other direction the parser decides the grammar (`ofTokens_eq_ok_iff_derives`), and the
grammar gives no tokens two trees (`Derives.unique`).
-/

namespace Playfield.Formula

/-! ### Loops do not depend on their bounds -/

/-- Links do not depend on their bound if it is enough. -/
theorem links_congr {op? : Token → Option BinaryOp} {operand : Rule Expr}
    (shrinks : ∀ {tokens e rest}, operand tokens = .ok (e, rest) → rest.length ≤ tokens.length)
    {k₁ k₂ : Nat} {left : Expr} {tokens : List Token} (enough₁ : tokens.length ≤ k₁)
    (enough₂ : tokens.length ≤ k₂) :
    links op? operand k₁ left tokens = links op? operand k₂ left tokens := by
  induction k₁ generalizing k₂ left tokens with
  | zero =>
    obtain rfl := List.length_eq_zero_iff.mp (Nat.le_zero.mp enough₁)
    cases k₂ <;> rfl
  | succ k₁ ih =>
    cases tokens with
    | nil => cases k₂ <;> rfl
    | cons t tokens =>
      rw [List.length_cons] at enough₁ enough₂
      obtain ⟨k₂, rfl⟩ := Nat.exists_eq_succ_of_ne_zero (show k₂ ≠ 0 by omega)
      simp only [links]
      split
      · rfl
      · split
        · rfl
        · rename_i right rest read
          have shorter := shrinks read
          exact ih (by omega) (by omega)

/-- Selections end where neither a point nor a bracket follows. -/
theorem selections_stop {formula : Rule Expr} {fuel : Nat} {object : Expr} {rest : List Token}
    (dot : ¬ ∃ after, rest = .symbol .dot :: after)
    (bracket : ¬ ∃ after, rest = .symbol .leftBracket :: after) :
    selections formula fuel object rest = .ok (object, rest) := by
  unfold selections
  split
  · exact absurd ⟨_, rfl⟩ dot
  · exact absurd ⟨_, rfl⟩ bracket
  · rfl

/-- Selections do not depend on their bound if it is enough. -/
theorem selections_congr {formula : Rule Expr}
    (shrinks : ∀ {tokens e rest}, formula tokens = .ok (e, rest) → rest.length ≤ tokens.length)
    {k₁ k₂ : Nat} {object : Expr} {tokens : List Token} (enough₁ : tokens.length ≤ k₁)
    (enough₂ : tokens.length ≤ k₂) :
    selections formula k₁ object tokens = selections formula k₂ object tokens := by
  induction k₁ generalizing k₂ object tokens with
  | zero =>
    obtain rfl := List.length_eq_zero_iff.mp (Nat.le_zero.mp enough₁)
    cases k₂ <;> rfl
  | succ k₁ ih =>
    by_cases dot : ∃ after, tokens = .symbol .dot :: after
    · obtain ⟨after, rfl⟩ := dot
      rw [List.length_cons] at enough₁ enough₂
      obtain ⟨k₂, rfl⟩ := Nat.exists_eq_succ_of_ne_zero (show k₂ ≠ 0 by omega)
      simp only [selections]
      split
      · rename_i field rest
        rw [List.length_cons] at enough₁ enough₂
        exact ih (by omega) (by omega)
      · rfl
    · by_cases bracket : ∃ after, tokens = .symbol .leftBracket :: after
      · obtain ⟨after, rfl⟩ := bracket
        rw [List.length_cons] at enough₁ enough₂
        obtain ⟨k₂, rfl⟩ := Nat.exists_eq_succ_of_ne_zero (show k₂ ≠ 0 by omega)
        simp only [selections]
        split
        · rfl
        · rename_i key rest read
          have shorter := shrinks read
          split
          · rfl
          · rename_i final closed
            rw [expect_eq_ok_iff.mp closed, List.length_cons] at shorter
            exact ih (by omega) (by omega)
      · rw [selections_stop dot bracket, selections_stop dot bracket]

/-! ### One rule after the other -/

/-- What a rule makes of the tokens of a derivation, with `n` more rules allowed to open. -/
def Completes : Nonterminal → Nat → List Token → Expr → Prop
  | .chain level, n, ts, e => ∀ rest, Ends level.operand rest →
      (Nonterminal.chain level).rule n (ts ++ rest) =
        links level.operator? (level.operand.rule n) rest.length e rest
  | .selection, n, ts, e => ∀ rest, Ends .primary rest →
      selected (ternary n) (ts ++ rest) = selections (ternary n) rest.length e rest
  | nt, n, ts, e => ∀ rest, Ends nt rest → nt.rule n (ts ++ rest) = .ok (e, rest)

/-- Where no selection goes on there is none. -/
theorem selections_of_ends {formula : Rule Expr} {fuel : Nat} {object : Expr}
    {rest : List Token} (ends : Ends .selection rest) :
    selections formula fuel object rest = .ok (object, rest) := by
  refine selections_stop ?_ ?_
  · rintro ⟨after, rfl⟩
    exact absurd (ends_cons.mp ends) (by decide)
  · rintro ⟨after, rfl⟩
    exact absurd (ends_cons.mp ends) (by decide)

/-- A rule reads a derivation up to where it ends. -/
theorem Completes.rule_eq {nt : Nonterminal} {n : Nat} {ts rest : List Token} {e : Expr}
    (h : Completes nt n ts e) (ends : Ends nt rest) : nt.rule n (ts ++ rest) = .ok (e, rest) := by
  cases nt with
  | chain level =>
    rw [h rest (ends.of_le (Nat.le_of_lt (rank_operand_lt level)))]
    cases rest with
    | nil => rfl
    | cons t rest => simp only [List.length_cons, links, operator?_eq_none (ends_cons.mp ends)]
  | selection => exact (h rest (ends.of_le (by decide))).trans (selections_of_ends ends)
  | ternary | unary | power | primary => exact h rest ends

section Complete

variable {n : Nat}

/-- A formula without a condition is its chain. -/
theorem completes_formula {ts : List Token} {e : Expr}
    (h : Completes (.chain .disjunction) n ts e) : Completes .ternary (n + 1) ts e := by
  intro rest ends
  have read : chains (prefixed n) levels (ts ++ rest) = .ok (e, rest) :=
    h.rule_eq (ends.of_le (by decide))
  change conditional (ternary n) (prefixed n) (ts ++ rest) = _
  simp only [conditional, read]
  split
  · rename_i eq
    cases eq
    exact absurd (ends_cons.mp ends) (by decide)
  · rfl

/-- A conditional is read with its three parts. -/
theorem completes_conditional {ts₁ ts₂ ts₃ : List Token} {condition yes no : Expr}
    (h₁ : Completes (.chain .disjunction) n ts₁ condition) (h₂ : Completes .ternary n ts₂ yes)
    (h₃ : Completes .ternary n ts₃ no) :
    Completes .ternary (n + 1) (ts₁ ++ .symbol .question :: (ts₂ ++ .symbol .colon :: ts₃))
      (.conditional condition yes no) := by
  intro rest ends
  have atQuestion : Ends (.chain .disjunction)
      (.symbol .question :: (ts₂ ++ .symbol .colon :: (ts₃ ++ rest))) :=
    ends_cons.mpr (by decide)
  have atColon : Ends .ternary (.symbol .colon :: (ts₃ ++ rest)) := ends_cons.mpr (by decide)
  have read₁ := h₁.rule_eq atQuestion
  have read₂ := h₂.rule_eq atColon
  have read₃ := h₃.rule_eq ends
  simp only [Nonterminal.rule, Level.table] at read₁ read₂ read₃
  change conditional (ternary n) (prefixed n) _ = _
  simp [conditional, read₁, read₂, read₃, expect]

theorem completes_operand {level : Level} {ts : List Token} {e : Expr}
    (h : Completes level.operand n ts e) : Completes (.chain level) n ts e := by
  intro rest ends
  rw [rule_chain, chain, h.rule_eq ends]

/-- An operator and an operand after a chain are linked to it. -/
theorem completes_link {level : Level} {ts₁ ts₂ : List Token} {left right : Expr} {t : Token}
    {op : BinaryOp} (h₁ : Completes (.chain level) n ts₁ left) (operator : Operator level t op)
    (h₂ : Completes level.operand n ts₂ right) :
    Completes (.chain level) n (ts₁ ++ t :: ts₂) (.binary op left right) := by
  intro rest ends
  have link : Ends level.operand (t :: (ts₂ ++ rest)) := by
    rw [ends_cons, operator.rank]
    exact rank_operand_lt level
  rw [List.append_assoc, List.cons_append, h₁ _ link, List.length_cons, links,
    operator?_eq_some_iff.mpr operator]
  simp only [h₂.rule_eq ends]
  exact links_congr (reads_operand (reads_rules n).2 level).length_le (by simp) (Nat.le_refl _)

theorem completes_prefixed {ts : List Token} {e : Expr} {t : Token} {op : UnaryOp}
    (operator : PrefixOperator t op) (h : Completes .unary n ts e) :
    Completes .unary (n + 1) (t :: ts) (.unary op e) := by
  intro rest ends
  have read : prefixed n (ts ++ rest) = .ok (e, rest) := h.rule_eq ends
  change prefixedOnce (ternary n) (prefixed n) (t :: (ts ++ rest)) = _
  simp only [prefixedOnce, unary?_eq_some_iff.mpr operator, read]

theorem completes_plain {ts : List Token} {e : Expr}
    (start : ∃ t rest, ts = t :: rest ∧ startsWith .power t) (h : Completes .power n ts e) :
    Completes .unary (n + 1) ts e := by
  intro rest ends
  obtain ⟨t, ts, rfl, _, unprefixed⟩ := start
  have noOperator : unary? t = none := by
    cases found : unary? t with
    | none => rfl
    | some op => exact absurd (unary?_eq_some_iff.mp found) (unprefixed op)
  change prefixedOnce (ternary n) (prefixed n) (t :: (ts ++ rest)) = _
  simp only [prefixedOnce, noOperator]
  exact h.rule_eq ends

theorem completes_base {ts : List Token} {e : Expr} (h : Completes .selection n ts e) :
    Completes .power n ts e := by
  intro rest ends
  have read : selected (ternary n) (ts ++ rest) = .ok (e, rest) :=
    h.rule_eq (ends.of_le (by decide))
  change power (ternary n) (prefixed n) (ts ++ rest) = _
  simp only [power, read]
  split
  · rename_i eq
    cases eq
    exact absurd (ends_cons.mp ends) (by decide)
  · rfl

theorem completes_raised {ts₁ ts₂ : List Token} {base exponent : Expr}
    (h₁ : Completes .selection n ts₁ base) (h₂ : Completes .unary n ts₂ exponent) :
    Completes .power n (ts₁ ++ .symbol .caret :: ts₂) (.binary .power base exponent) := by
  intro rest ends
  have read₁ : selected (ternary n) (ts₁ ++ .symbol .caret :: (ts₂ ++ rest)) =
      .ok (base, .symbol .caret :: (ts₂ ++ rest)) := h₁.rule_eq (ends_cons.mpr (by decide))
  have read₂ : prefixed n (ts₂ ++ rest) = .ok (exponent, rest) := h₂.rule_eq ends
  change power (ternary n) (prefixed n) _ = _
  simp only [power, List.append_assoc, List.cons_append, read₁, read₂]

theorem completes_whole {ts : List Token} {e : Expr} (h : Completes .primary n ts e) :
    Completes .selection n ts e := by
  intro rest ends
  have read : primary (ternary n) (ts ++ rest) = .ok (e, rest) := h.rule_eq ends
  simp only [selected, read]

theorem completes_member {ts : List Token} {e : Expr} {field : String}
    (h : Completes .selection n ts e) :
    Completes .selection n (ts ++ [.symbol .dot, .name field]) (.member e field) := by
  intro rest ends
  have dot : Ends .primary (.symbol .dot :: .name field :: rest) := ends_cons.mpr (by decide)
  rw [List.append_assoc, show [.symbol .dot, .name field] ++ rest =
    .symbol .dot :: .name field :: rest from rfl, h _ dot, List.length_cons, selections]
  exact selections_congr (reads_rules n).1.length_le (by simp) (Nat.le_refl _)

theorem completes_index {ts₁ ts₂ : List Token} {e key : Expr}
    (h₁ : Completes .selection n ts₁ e) (h₂ : Completes .ternary n ts₂ key) :
    Completes .selection n (ts₁ ++ .symbol .leftBracket :: (ts₂ ++ [.symbol .rightBracket]))
      (.index e key) := by
  intro rest ends
  have bracket : Ends .primary
      (.symbol .leftBracket :: (ts₂ ++ .symbol .rightBracket :: rest)) :=
    ends_cons.mpr (by decide)
  have read : ternary n (ts₂ ++ .symbol .rightBracket :: rest) =
      .ok (key, .symbol .rightBracket :: rest) := h₂.rule_eq (ends_cons.mpr (by decide))
  rw [List.append_assoc, List.cons_append, List.append_assoc, List.singleton_append, h₁ _ bracket,
    List.length_cons, selections]
  simp only [read, expect, if_true]
  exact selections_congr (reads_rules n).1.length_le (by simp; omega) (Nat.le_refl _)

theorem completes_number (value : Float32) :
    Completes .primary n [.number value] (.number value) :=
  fun _ _ => rfl

theorem completes_text (content : String) : Completes .primary n [.text content] (.text content) :=
  fun _ _ => rfl

theorem completes_true : Completes .primary n [.name "true"] (.truth true) :=
  fun _ _ => rfl

theorem completes_false : Completes .primary n [.name "false"] (.truth false) :=
  fun _ _ => rfl

theorem completes_name {id : String} (ordinary : Ordinary id) :
    Completes .primary n [.name id] (.name id) := by
  intro rest ends
  change named (ternary n) id rest = _
  unfold named
  rw [if_neg ordinary.2.1, if_neg ordinary.2.2]
  split
  · exact absurd (ends_cons.mp ends) (by decide)
  · exact absurd (ends_cons.mp ends) (by decide)
  · rfl

/-- A call may have no arguments. -/
theorem completes_callEmpty {id : String} (ordinary : Ordinary id) :
    Completes .primary n [.name id, .symbol .leftParen, .symbol .rightParen] (.call id []) := by
  intro rest _
  change named (ternary n) id (.symbol .leftParen :: .symbol .rightParen :: rest) = _
  unfold named
  rw [if_neg ordinary.2.1, if_neg ordinary.2.2]

/-- The arguments of a call, as long as their bound allows for each of them. -/
def CompletesArguments (n : Nat) (ts : List Token) (es : List Expr) : Prop :=
  ∀ rest fuel, es.length ≤ fuel →
    arguments (ternary n) fuel (ts ++ .symbol .rightParen :: rest) = .ok (es, rest)

theorem completes_last {ts : List Token} {e : Expr} (h : Completes .ternary n ts e) :
    CompletesArguments n ts [e] := by
  intro rest fuel enough
  obtain ⟨fuel, rfl⟩ := Nat.exists_eq_succ_of_ne_zero (Nat.ne_of_gt enough)
  have read : ternary n (ts ++ .symbol .rightParen :: rest) =
      .ok (e, .symbol .rightParen :: rest) := h.rule_eq (ends_cons.mpr (by decide))
  simp only [arguments, read, expect, if_true]

/-- An argument before a comma is read with those after it. -/
theorem completes_more {ts₁ ts₂ : List Token} {e : Expr} {es : List Expr}
    (h₁ : Completes .ternary n ts₁ e) (h₂ : CompletesArguments n ts₂ es) :
    CompletesArguments n (ts₁ ++ .symbol .comma :: ts₂) (e :: es) := by
  intro rest fuel enough
  rw [List.length_cons] at enough
  obtain ⟨fuel, rfl⟩ := Nat.exists_eq_succ_of_ne_zero (show fuel ≠ 0 by omega)
  have read : ternary n (ts₁ ++ .symbol .comma :: (ts₂ ++ .symbol .rightParen :: rest)) =
      .ok (e, .symbol .comma :: (ts₂ ++ .symbol .rightParen :: rest)) :=
    h₁.rule_eq (ends_cons.mpr (by decide))
  rw [List.append_assoc, List.cons_append, arguments]
  simp only [read, h₂ rest fuel (Nat.le_of_succ_le_succ enough)]

/-- A call is read with its arguments. -/
theorem completes_call {id : String} {d : Nat} {ts : List Token} {args : List Expr}
    (ordinary : Ordinary id) (derived : DerivesArguments d ts args)
    (h : CompletesArguments n ts args) :
    Completes .primary n (.name id :: .symbol .leftParen :: (ts ++ [.symbol .rightParen]))
      (.call id args) := by
  intro rest _
  obtain ⟨t, ts, rfl, start⟩ := derived.starts
  have bound := derived.length_le
  rw [show .name id :: .symbol .leftParen :: (t :: ts ++ [.symbol .rightParen]) ++ rest =
    .name id :: .symbol .leftParen :: (t :: ts ++ .symbol .rightParen :: rest) from by simp]
  change named (ternary n) id _ = _
  unfold named
  rw [if_neg ordinary.2.1, if_neg ordinary.2.2]
  split
  · rename_i eq
    simp only [List.cons_append, List.cons.injEq] at eq
    exact absurd eq.2.1 start
  · rename_i after _ eq
    obtain rfl : t :: ts ++ .symbol .rightParen :: rest = after := List.tail_eq_of_cons_eq eq
    have enough : args.length ≤ (t :: ts ++ .symbol .rightParen :: rest).length + 1 := by
      rw [List.length_append]
      omega
    rw [h rest _ enough]
  · rename_i _ other
    exact absurd rfl (other _)

theorem completes_parens {ts : List Token} {e : Expr} (h : Completes .ternary n ts e) :
    Completes .primary n (.symbol .leftParen :: (ts ++ [.symbol .rightParen])) e := by
  intro rest _
  have read : ternary n (ts ++ .symbol .rightParen :: rest) =
      .ok (e, .symbol .rightParen :: rest) := h.rule_eq (ends_cons.mpr (by decide))
  change primary (ternary n) (.symbol .leftParen :: (ts ++ [.symbol .rightParen] ++ rest)) = _
  rw [List.append_assoc, List.singleton_append, primary]
  simp only [read, expect, if_true]

end Complete

mutual

/-- **Completeness.** The parser reads every derivation that opens no more rules than allowed. -/
theorem Derives.completes {nt d ts e} :
    Derives nt d ts e → ∀ {n}, d ≤ n → Completes nt n ts e
  | .formula h, n, le => by
    obtain ⟨n, rfl⟩ := Nat.exists_eq_succ_of_ne_zero (show n ≠ 0 by omega)
    exact completes_formula (h.completes (by omega))
  | .conditional h₁ h₂ h₃, n, le => by
    obtain ⟨n, rfl⟩ := Nat.exists_eq_succ_of_ne_zero (show n ≠ 0 by omega)
    exact completes_conditional (h₁.completes (by omega)) (h₂.completes (by omega))
      (h₃.completes (by omega))
  | .operand h, _, le => completes_operand (h.completes le)
  | .link h₁ operator h₂, _, le =>
    completes_link (h₁.completes (by omega)) operator (h₂.completes (by omega))
  | .prefixed operator h, n, le => by
    obtain ⟨n, rfl⟩ := Nat.exists_eq_succ_of_ne_zero (show n ≠ 0 by omega)
    exact completes_prefixed operator (h.completes (by omega))
  | .plain h, n, le => by
    obtain ⟨n, rfl⟩ := Nat.exists_eq_succ_of_ne_zero (show n ≠ 0 by omega)
    exact completes_plain h.starts (h.completes (by omega))
  | .base h, _, le => completes_base (h.completes le)
  | .raised h₁ h₂, _, le => completes_raised (h₁.completes (by omega)) (h₂.completes (by omega))
  | .whole h, _, le => completes_whole (h.completes le)
  | .member h, _, le => completes_member (h.completes le)
  | .index h₁ h₂, _, le => completes_index (h₁.completes (by omega)) (h₂.completes (by omega))
  | .number value, _, _ => completes_number value
  | .text content, _, _ => completes_text content
  | .yes, _, _ => completes_true
  | .no, _, _ => completes_false
  | .name ordinary, _, _ => completes_name ordinary
  | .callEmpty ordinary, _, _ => completes_callEmpty ordinary
  | .call ordinary h, _, le => completes_call ordinary h (h.completes le)
  | .parens h, _, le => completes_parens (h.completes le)

/-- Arguments are read if as many rules may open as their derivation opens. -/
theorem DerivesArguments.completes {d ts es} :
    DerivesArguments d ts es → ∀ {n}, d ≤ n → CompletesArguments n ts es
  | .last h, _, le => completes_last (h.completes le)
  | .more h₁ h₂, _, le => completes_more (h₁.completes (by omega)) (h₂.completes (by omega))

end

/-! ### Whole formulas -/

/-- A list of tokens has one tree at most, however deep its derivations open. -/
theorem Derives.unique {nt : Nonterminal} {d₁ d₂ : Nat} {ts : List Token} {e₁ e₂ : Expr}
    (h₁ : Derives nt d₁ ts e₁) (h₂ : Derives nt d₂ ts e₂) : e₁ = e₂ := by
  have read₁ := (h₁.completes (Nat.le_max_left d₁ d₂)).rule_eq (ends_nil nt)
  have read₂ := (h₂.completes (Nat.le_max_right d₁ d₂)).rule_eq (ends_nil nt)
  rw [read₁] at read₂
  cases read₂
  rfl

/-- The parser reads all tokens as a tree iff the tree is derived from them within its limit. -/
theorem ternary_eq_ok_iff {n : Nat} {tokens : List Token} {e : Expr} :
    ternary n tokens = .ok (e, []) ↔ Within .ternary n tokens e := by
  constructor
  · intro read
    obtain ⟨ts, rfl, derived⟩ := (reads_rules n).1 tokens e [] read
    simpa using derived
  · rintro ⟨d, le, derived⟩
    have read := (derived.completes le).rule_eq (ends_nil .ternary)
    rwa [List.append_nil] at read

/-- A whole formula is read by the rule for ternaries, with nothing left over. -/
theorem ofTokens_eq_ok_iff {tokens : List Token} {e : Expr} :
    Expr.ofTokens tokens = .ok e ↔
      tokens.length ≤ maxTokens ∧ ternary maxNesting tokens = .ok (e, []) := by
  unfold Expr.ofTokens
  split
  · rename_i tooLong
    simp [Nat.not_le.mpr tooLong]
  · rename_i short
    rw [and_iff_right (Nat.not_lt.mp short)]
    split
    · rename_i stop read
      simp [read]
    · rename_i formula read
      simp [read]
    · rename_i formula rest leftover read
      rw [read]
      constructor
      · intro h
        cases h
      · intro h
        cases h
        exact absurd rfl leftover

/-- A text has the tree of its tokens. -/
theorem parse_eq_ok_iff {source : String} {e : Expr} :
    Expr.parse source = .ok e ↔
      ∃ tokens, scan source = .ok tokens ∧ Expr.ofTokens (tokens.map (·.token)) = .ok e := by
  unfold Expr.parse
  cases scan source with
  | error fault => simp
  | ok tokens => cases read : Expr.ofTokens (tokens.map (·.token)) <;> simp [read]

/-- **The parser decides the grammar.** It returns a tree exactly for a list of at most 1024 tokens
that derives it with at most 256 ternaries and unaries open at once, and no other tree has a
derivation from the same tokens. -/
theorem ofTokens_eq_ok_iff_derives :
    (∀ tokens e, Expr.ofTokens tokens = .ok e ↔
      tokens.length ≤ 1024 ∧ ∃ d ≤ 256, Derives .ternary d tokens e) ∧
    ∀ tokens e, Expr.ofTokens tokens = .ok e → ∃! e', ∃ d, Derives .ternary d tokens e' := by
  have decides (tokens : List Token) (e : Expr) : Expr.ofTokens tokens = .ok e ↔
      tokens.length ≤ 1024 ∧ ∃ d ≤ 256, Derives .ternary d tokens e :=
    ofTokens_eq_ok_iff.trans (and_congr_right fun _ => ternary_eq_ok_iff)
  refine ⟨decides, fun tokens e accepted => ?_⟩
  obtain ⟨_, d, _, derived⟩ := (decides tokens e).mp accepted
  exact ⟨e, ⟨d, derived⟩, fun e' ⟨d', derived'⟩ => derived'.unique derived⟩

/-- Words that are operators in one place and names in another. -/
theorem ofTokens_eq_ok_iff_derives_words :
    let tokens : List Token :=
      [.name "and", .name "and", .name "or", .symbol .dot, .name "not"]
    Expr.ofTokens tokens = .ok (.binary .and (.name "and") (.member (.name "or") "not")) ∧
      ∃! e, ∃ d, Derives .ternary d tokens e :=
  ⟨rfl, ofTokens_eq_ok_iff_derives.2 _ _ rfl⟩

end Playfield.Formula
