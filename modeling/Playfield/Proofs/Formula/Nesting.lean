import Playfield.Proofs.Formula.Counting
import Playfield.Proofs.Formula.ParserComplete
import Playfield.Proofs.Formula.Size

/-!
The parser ends on all tokens, and never opens more rules than it may.

`Follows` says that every run of a counting rule ends, in the way in which the parser's own rule
ends; that as many rules are open then as before, whether it read or gave up; that there were never
more than `maxNesting`; and that success has taken a token. Each rule follows if the rules that it
calls do. Between two calls of the same rule with the same tokens the count has grown, so
`follows_levels` closes the circle by induction on how far it may still grow; the loops take a token
or more in every round and are by induction on the tokens that are left.
-/

namespace Playfield.Formula

namespace Counting

variable {α β : Type}

/-! ### Runs that follow the parser -/

/-- The arguments of a call with its closing parenthesis. -/
def closedArguments (formula : Rule Expr) : Rule (List Expr)
  | .symbol .rightParen :: rest => .ok ([], rest)
  | tokens => Formula.arguments formula (tokens.length + 1) tokens

/-- Arguments that are not closed at once are read one by one. -/
theorem closedArguments_of_ne {formula : Rule Expr} {tokens : List Token}
    (h : ∀ rest, tokens ≠ .symbol .rightParen :: rest) :
    closedArguments formula tokens = Formula.arguments formula (tokens.length + 1) tokens := by
  unfold closedArguments
  split
  · rename_i rest
    exact absurd rfl (h rest)
  · rfl

/-- A name with a parenthesis is a call, if it is no truth value. -/
theorem named_leftParen {formula : Rule Expr} {id : String} (notTrue : id ≠ "true")
    (notFalse : id ≠ "false") (rest : List Token) :
    named formula id (.symbol .leftParen :: rest) =
      match closedArguments formula rest with
      | .error stop => .error stop
      | .ok (args, rest) => .ok (.call id args, rest) := by
  unfold named
  rw [if_neg notTrue, if_neg notFalse]
  split
  · rename_i eq
    cases eq
    rfl
  · rename_i other eq
    cases eq
    cases read : Formula.arguments formula (rest.length + 1) rest <;>
      simp only [closedArguments_of_ne other, read]
  · rename_i noParen
    exact absurd rfl (noParen rest)

/-- How runs end that began with `depth` rules open and have to leave less than `bound` tokens: as
the parser's rule does, with as many rules open as before. -/
def Matches (depth bound : Nat) (outcome : Except Stop (α × List Token))
    (run : Nat → Option (Except Stop α × Cursor)) : Prop :=
  (∃ a rest, outcome = .ok (a, rest) ∧ rest.length < bound ∧
    ∃ peak ≤ maxNesting, Comes run (.ok a, ⟨rest, depth, peak⟩)) ∨
  ∃ stop, outcome = .error stop ∧
    ∃ rest, ∃ peak ≤ maxNesting, Comes run (.error stop, ⟨rest, depth, peak⟩)

/-- Every run with `depth` rules open ends as a rule of the parser does, and takes a token if it
succeeds. -/
def Follows (depth : Nat) (counting : Nat → Counting α) (r : Rule α) : Prop :=
  ∀ tokens peak, peak ≤ maxNesting →
    Matches depth tokens.length (r tokens) (counting · ⟨tokens, depth, peak⟩)

section Matching

variable {depth peak m n : Nat} {tokens : List Token} {outcome : Except Stop (α × List Token)}
  {result : Except Stop (β × List Token)}

/-- Leaving fewer tokens than a bound is leaving fewer than any greater one. -/
theorem Matches.mono {run : Nat → Option (Except Stop α × Cursor)}
    (h : Matches depth m outcome run) (le : m ≤ n) : Matches depth n outcome run := by
  obtain ⟨a, rest, read, shorter, comes⟩ | stopped := h
  · exact .inl ⟨a, rest, read, Nat.lt_of_lt_of_le shorter le, comes⟩
  · exact .inr stopped

/-- A run that matches with one call more matches. -/
theorem Matches.of_succ {run : Nat → Option (Except Stop α × Cursor)}
    (h : Matches depth n outcome fun limit => run (limit + 1)) : Matches depth n outcome run := by
  obtain ⟨a, rest, read, shorter, peak, le, comes⟩ | ⟨stop, read, rest, peak, le, comes⟩ := h
  · exact .inl ⟨a, rest, read, shorter, peak, le, comes.of_succ⟩
  · exact .inr ⟨stop, read, rest, peak, le, comes.of_succ⟩

/-- A run that succeeds at once. -/
theorem matches_pure (a : α) (le : peak ≤ maxNesting) (shorter : tokens.length < n) :
    Matches depth n (.ok (a, tokens)) fun _ => (pure a : Counting α) ⟨tokens, depth, peak⟩ :=
  .inl ⟨a, tokens, rfl, shorter, peak, le, comes_const rfl⟩

/-- A run that gives up at once. -/
theorem matches_stopped (stop : Stop) (le : peak ≤ maxNesting) :
    Matches depth n (.error stop : Except Stop (α × List Token))
      fun _ => some (.error stop, ⟨tokens, depth, peak⟩) :=
  .inr ⟨stop, rfl, tokens, peak, le, comes_const rfl⟩

/-- A run goes on with what it has read, or gives up with the rule. -/
theorem Matches.bind {x : Nat → Counting α} {c : Cursor} {f : Nat → α → Counting β}
    (h : Matches depth m outcome (x · c))
    (stopped : ∀ stop, outcome = .error stop → result = .error stop)
    (next : ∀ a rest peak, outcome = .ok (a, rest) → rest.length < m → peak ≤ maxNesting →
      Matches depth n result (f · a ⟨rest, depth, peak⟩)) :
    Matches depth n result fun limit => (x limit >>= f limit) c := by
  obtain ⟨a, rest, read, shorter, peak, le, comes⟩ | ⟨stop, read, rest, peak, le, comes⟩ := h
  · obtain ⟨b, rest, same, shorter, peak, le, later⟩ | ⟨stop, same, rest, peak, le, later⟩ :=
      next a rest peak read shorter le
    · exact .inl ⟨b, rest, same, shorter, peak, le, comes.bind later⟩
    · exact .inr ⟨stop, same, rest, peak, le, comes.bind later⟩
  · exact .inr ⟨stop, stopped stop read, rest, peak, le, comes.bind_stopped⟩

/-- A run goes on past a symbol, or gives up with the rule. -/
theorem matches_expect {s : Symbol} {what : Expectation} {f : Nat → Unit → Counting β}
    (le : peak ≤ maxNesting)
    (stopped : ∀ stop, Formula.expect s what tokens = .error stop → result = .error stop)
    (next : ∀ rest, Formula.expect s what tokens = .ok rest → tokens = .symbol s :: rest →
      Matches depth n result (f · () ⟨rest, depth, peak⟩)) :
    Matches depth n result fun limit => (expect s what >>= f limit) ⟨tokens, depth, peak⟩ := by
  cases found : Formula.expect s what tokens with
  | error stop =>
    simp only [bind_stopped (expect_of_error found), stopped stop found]
    exact matches_stopped stop le
  | ok rest =>
    simp only [bind_read (expect_of_ok found)]
    exact next rest found (expect_eq_ok_iff.mp found)

end Matching

/-! ### Rule by rule -/

section Rules

variable {depth n : Nat}

/-- A rule that does not count as a level is no more than its body. -/
theorem follows_of_body {nt : Nonterminal} {r : Rule Expr} (counts : nt.counts = false)
    (inner : Follows depth (body · nt) r) : Follows depth (rule · nt) r := by
  intro tokens peak le
  refine Matches.of_succ ?_
  simp only [rule, counts, Bool.false_eq_true, if_false]
  exact inner tokens peak le

/-- A rule that counts as a level, with another level to spare. -/
theorem follows_nested {nt : Nonterminal} {r : Rule Expr} (counts : nt.counts)
    (less : depth < maxNesting) (inner : Follows (depth + 1) (body · nt) r) :
    Follows depth (rule · nt) r := by
  intro tokens peak le
  refine Matches.of_succ ?_
  simp only [rule, counts, if_true]
  obtain ⟨e, rest, read, shorter, peak, le, comes⟩ | ⟨stop, read, rest, peak, le, comes⟩ :=
    inner tokens (max peak (depth + 1)) (Nat.max_le.mpr ⟨le, less⟩)
  · exact .inl ⟨e, rest, read, shorter, peak, le, comes.nested less⟩
  · exact .inr ⟨stop, read, rest, peak, le, comes.nested less⟩

/-- A rule that counts as a level, with no other to spare. -/
theorem follows_tooDeep {nt : Nonterminal} (counts : nt.counts) (full : maxNesting ≤ depth) :
    Follows depth (rule · nt) fun tokens => .error ⟨.tooDeep, tokens⟩ := by
  intro tokens peak le
  refine Matches.of_succ ?_
  simp only [rule, counts, if_true, nested, full]
  exact matches_stopped _ le

/-- The parser bounds the rounds of a loop by the tokens that are left. A run does not, but every
round takes one of them. -/
theorem follows_links {level : Level} {operand : Rule Expr}
    (operands : Follows depth (rule · level.operand) operand) {fuel peak : Nat} {left : Expr}
    {tokens : List Token} (enough : tokens.length ≤ fuel) (le : peak ≤ maxNesting) :
    Matches depth (tokens.length + 1) (Formula.links level.operator? operand fuel left tokens)
      (links · level left ⟨tokens, depth, peak⟩) := by
  induction fuel generalizing left tokens peak with
  | zero =>
    obtain rfl := List.eq_nil_of_length_eq_zero (Nat.eq_zero_of_le_zero enough)
    refine Matches.of_succ ?_
    simp only [links]
    exact matches_pure left le (Nat.lt_succ_self _)
  | succ fuel ih =>
    refine Matches.of_succ ?_
    simp only [links, bind_peek]
    cases tokens with
    | nil => exact matches_pure left le (Nat.lt_succ_self _)
    | cons t tokens =>
      simp only [Formula.links, List.head?_cons, Option.bind_some]
      cases level.operator? t with
      | none => exact matches_pure left le (Nat.lt_succ_self _)
      | some op =>
        simp only [bind_advance, List.tail_cons]
        rw [List.length_cons] at enough ⊢
        refine (operands tokens peak le).bind (fun stop read => by rw [read])
          fun right rest peak read shorter le => ?_
        rw [read]
        exact (ih (by omega) le).mono (by omega)

theorem follows_chain (level : Level) {operand : Rule Expr}
    (operands : Follows depth (rule · level.operand) operand) :
    Follows depth (rule · (.chain level)) (Formula.chain level.operator? operand) := by
  refine follows_of_body rfl fun tokens peak le => Matches.of_succ ?_
  simp only [body, Formula.chain]
  refine (operands tokens peak le).bind (fun stop read => by rw [read])
    fun left rest peak read shorter le => ?_
  rw [read]
  exact (follows_links operands (Nat.le_refl _) le).mono shorter

/-- The counted selections follow the parser if formulas do. -/
theorem follows_selections {formula : Rule Expr}
    (formulas : Follows depth (rule · .ternary) formula) {fuel peak : Nat} {object : Expr}
    {tokens : List Token} (enough : tokens.length ≤ fuel) (le : peak ≤ maxNesting) :
    Matches depth (tokens.length + 1) (Formula.selections formula fuel object tokens)
      (selections · object ⟨tokens, depth, peak⟩) := by
  induction fuel generalizing object tokens peak with
  | zero =>
    obtain rfl := List.eq_nil_of_length_eq_zero (Nat.eq_zero_of_le_zero enough)
    refine Matches.of_succ ?_
    simp only [selections]
    exact matches_pure object le (Nat.lt_succ_self _)
  | succ fuel ih =>
    refine Matches.of_succ ?_
    simp only [selections]
    unfold Formula.selections
    split
    · rename_i eq
      cases eq
      simp only [bind_read (eat_cons .dot), if_true, bind_peek, bind_advance]
      -- the token after the point is gone also where it is no name
      split
      · rename_i field rest
        rw [List.length_cons, List.length_cons] at enough ⊢
        exact (ih (by omega) le).mono (by omega)
      · rename_i rest _ other
        rw [List.drop_one]
        cases rest with
        | nil => exact matches_stopped _ le
        | cons t rest =>
          cases t with
          | name field => exact absurd rfl (other field rest)
          | number _ | text _ | symbol _ => exact matches_stopped _ le
    · rename_i rest eq
      cases eq
      have noDot (after : List Token) : .symbol .leftBracket :: rest ≠ .symbol .dot :: after := by
        simp
      simp only [bind_read (eat_of_ne noDot), Bool.false_eq_true, if_false,
        bind_read (eat_cons .leftBracket), if_true]
      rw [List.length_cons] at enough ⊢
      refine (formulas _ peak le).bind (fun stop read => by rw [read])
        fun key rest peak read shorter le => ?_
      rw [read]
      refine matches_expect le (fun stop found => by simp only [found]) fun rest found eq => ?_
      subst eq
      simp only [found]
      rw [List.length_cons] at shorter
      exact (ih (by omega) le).mono (by omega)
    · rename_i noDot noBracket
      simp only [bind_read (eat_of_ne fun rest => noDot fuel rest rfl), Bool.false_eq_true,
        if_false, bind_read (eat_of_ne fun rest => noBracket fuel rest rfl)]
      exact matches_pure _ le (Nat.lt_succ_self _)

/-- The counted arguments follow the parser, at least one of them, if formulas do. -/
theorem follows_someArguments {formula : Rule Expr}
    (formulas : Follows depth (rule · .ternary) formula) {fuel peak : Nat} {tokens : List Token}
    (enough : tokens.length < fuel) (le : peak ≤ maxNesting) :
    Matches depth tokens.length (Formula.arguments formula fuel tokens)
      (someArguments · ⟨tokens, depth, peak⟩) := by
  induction fuel generalizing tokens peak with
  | zero => exact absurd enough (Nat.not_lt_zero _)
  | succ fuel ih =>
    refine Matches.of_succ ?_
    simp only [someArguments]
    rw [Formula.arguments]
    refine (formulas tokens peak le).bind (fun stop read => by rw [read])
      fun first rest peak read shorter le => ?_
    rw [read]
    split
    · rename_i eq
      cases eq
    · rename_i eq
      cases eq
      simp only [bind_read (eat_cons .comma), if_true]
      rw [List.length_cons] at shorter
      -- The argument and the comma have taken tokens, so that the bound is enough for the others.
      refine (ih (by omega) le).bind (fun stop read => by rw [read])
        fun more rest peak read fewer le => ?_
      rw [read]
      exact matches_pure _ le (by omega)
    · rename_i first rest noComma eq
      cases eq
      simp only [bind_read (eat_of_ne noComma), Bool.false_eq_true, if_false]
      refine matches_expect le (fun stop found => by rw [found]) fun rest found eq => ?_
      subst eq
      rw [found]
      rw [List.length_cons] at shorter
      exact matches_pure _ le (by omega)

theorem follows_arguments {formula : Rule Expr}
    (formulas : Follows depth (rule · .ternary) formula) :
    Follows depth arguments (closedArguments formula) := by
  refine fun tokens peak le => Matches.of_succ ?_
  simp only [arguments]
  by_cases closed : ∃ rest, tokens = .symbol .rightParen :: rest
  · obtain ⟨rest, rfl⟩ := closed
    simp only [bind_read (eat_cons .rightParen), if_true]
    exact matches_pure [] le (Nat.lt_succ_self _)
  · have other := not_exists.mp closed
    simp only [bind_read (eat_of_ne other), Bool.false_eq_true, if_false,
      closedArguments_of_ne other]
    exact follows_someArguments formulas (Nat.lt_succ_self _) le

/-- A counted name, or a call of it, follows the parser if formulas do. -/
theorem follows_named {formula : Rule Expr} (formulas : Follows depth (rule · .ternary) formula)
    (id : String) {tokens : List Token} {peak : Nat} (le : peak ≤ maxNesting) :
    Matches depth (tokens.length + 1) (named formula id tokens) fun limit =>
      (do
        if id = "true" then return .truth true
        else if id = "false" then return .truth false
        else if ← eat .leftParen then return .call id (← arguments limit)
        else return .name id : Counting Expr) ⟨tokens, depth, peak⟩ := by
  by_cases isTrue : id = "true"
  · unfold named
    simp only [if_pos isTrue]
    exact matches_pure _ le (Nat.lt_succ_self _)
  by_cases isFalse : id = "false"
  · unfold named
    simp only [if_neg isTrue, if_pos isFalse]
    exact matches_pure _ le (Nat.lt_succ_self _)
  simp only [if_neg isTrue, if_neg isFalse]
  by_cases paren : ∃ rest, tokens = .symbol .leftParen :: rest
  · obtain ⟨rest, rfl⟩ := paren
    simp only [named_leftParen isTrue isFalse, bind_read (eat_cons .leftParen), if_true]
    refine (follows_arguments formulas rest peak le).bind (fun stop read => by rw [read])
      fun args after peak read shorter le => ?_
    rw [read, List.length_cons]
    exact matches_pure _ le (by omega)
  · simp only [bind_read (eat_of_ne (not_exists.mp paren)), Bool.false_eq_true, if_false]
    unfold named
    rw [if_neg isTrue, if_neg isFalse]
    split
    · exact absurd ⟨_, rfl⟩ paren
    · exact absurd ⟨_, rfl⟩ paren
    · exact matches_pure _ le (Nat.lt_succ_self _)

theorem follows_primary {formula : Rule Expr} (formulas : Follows depth (rule · .ternary) formula) :
    Follows depth (rule · .primary) (Formula.primary formula) := by
  refine follows_of_body rfl fun tokens peak le => Matches.of_succ ?_
  simp only [body, bind_get, bind_peek, bind_advance]
  unfold Formula.primary
  split
  · exact matches_stopped _ le
  · exact matches_pure _ le (Nat.lt_succ_self _)
  · exact matches_pure _ le (Nat.lt_succ_self _)
  · exact follows_named formulas _ le
  · rename_i rest
    simp only [List.head?_cons, List.tail_cons, if_true]
    refine (formulas rest peak le).bind (fun stop read => by rw [read])
      fun inner after peak read shorter le => ?_
    rw [read]
    refine matches_expect le (fun stop found => by simp only [found]) fun final found eq => ?_
    subst eq
    simp only [found]
    rw [List.length_cons] at shorter ⊢
    exact matches_pure _ le (by omega)
  · rename_i s rest noParen
    simp only [List.head?_cons, List.tail_cons, if_neg noParen]
    exact matches_stopped _ le

theorem follows_selected {formula : Rule Expr}
    (formulas : Follows depth (rule · .ternary) formula) :
    Follows depth (rule · .selection) (selected formula) := by
  refine follows_of_body rfl fun tokens peak le => Matches.of_succ ?_
  simp only [body, selected]
  refine (follows_primary formulas tokens peak le).bind (fun stop read => by rw [read])
    fun object rest peak read shorter le => ?_
  rw [read]
  exact (follows_selections formulas (Nat.le_refl _) le).mono shorter

theorem follows_power {formula exponent : Rule Expr}
    (formulas : Follows depth (rule · .ternary) formula)
    (exponents : Follows depth (rule · .unary) exponent) :
    Follows depth (rule · .power) (Formula.power formula exponent) := by
  refine follows_of_body rfl fun tokens peak le => Matches.of_succ ?_
  simp only [body]
  rw [Formula.power]
  refine (follows_selected formulas tokens peak le).bind (fun stop read => by rw [read])
    fun base rest peak read shorter le => ?_
  rw [read]
  split
  · rename_i base rest eq
    cases eq
    simp only [bind_read (eat_cons .caret), if_true]
    rw [List.length_cons] at shorter
    refine (exponents rest peak le).bind (fun stop read => by rw [read])
      fun raised after peak read fewer le => ?_
    rw [read]
    exact matches_pure _ le (by omega)
  · rename_i other
    have noCaret (after : List Token) : rest ≠ .symbol .caret :: after :=
      fun eq => other base after (by rw [eq])
    simp only [bind_read (eat_of_ne noCaret), Bool.false_eq_true, if_false]
    exact matches_pure _ le shorter

theorem follows_conditional {formula operand : Rule Expr}
    (formulas : Follows depth (rule · .ternary) formula)
    (chains : Follows depth (rule · (.chain .disjunction)) (Formula.chains operand levels)) :
    Follows depth (body · .ternary) (conditional formula operand) := by
  refine fun tokens peak le => Matches.of_succ ?_
  simp only [body]
  rw [conditional]
  refine (chains tokens peak le).bind (fun stop read => by rw [read])
    fun condition rest peak read shorter le => ?_
  rw [read]
  split
  · rename_i condition rest eq
    cases eq
    simp only [bind_read (eat_cons .question), if_true]
    rw [List.length_cons] at shorter
    refine (formulas rest peak le).bind (fun stop read => by rw [read])
      fun yes rest peak read fewer le => ?_
    rw [read]
    refine matches_expect le (fun stop found => by simp only [found]) fun rest found eq => ?_
    subst eq
    simp only [found]
    rw [List.length_cons] at fewer
    refine (formulas rest peak le).bind (fun stop read => by rw [read])
      fun no rest peak read fewer le => ?_
    rw [read]
    exact matches_pure _ le (by omega)
  · rename_i other
    have noQuestion (after : List Token) : rest ≠ .symbol .question :: after :=
      fun eq => other condition after (by rw [eq])
    simp only [bind_read (eat_of_ne noQuestion), Bool.false_eq_true, if_false]
    exact matches_pure _ le shorter

theorem follows_prefixed {formula operand : Rule Expr}
    (formulas : Follows depth (rule · .ternary) formula)
    (operands : Follows depth (rule · .unary) operand) :
    Follows depth (body · .unary) (prefixedOnce formula operand) := by
  refine fun tokens peak le => Matches.of_succ ?_
  have powers := follows_power formulas operands
  simp only [body, bind_peek]
  cases tokens with
  | nil => exact powers [] peak le
  | cons t rest =>
    rw [prefixedOnce]
    simp only [List.head?_cons, Option.bind_some]
    cases unary? t with
    | none => exact powers (t :: rest) peak le
    | some op =>
      simp only [bind_advance, List.tail_cons]
      refine (operands rest peak le).bind (fun stop read => by rw [read])
        fun inner after peak read shorter le => ?_
      rw [read, List.length_cons]
      exact matches_pure _ le (by omega)

/-- The counted chains follow the parser, level after level, if their operands do. -/
theorem follows_chains (operands : Follows depth (rule · .unary) (prefixed n)) (level : Level) :
    Follows depth (rule · (.chain level)) ((Nonterminal.chain level).rule n) := by
  have product := follows_chain .product operands
  have sum := follows_chain .sum product
  have comparison := follows_chain .comparison sum
  have equality := follows_chain .equality comparison
  have conjunction := follows_chain .conjunction equality
  cases level with
  | product => exact product
  | sum => exact sum
  | comparison => exact comparison
  | equality => exact equality
  | conjunction => exact conjunction
  | disjunction => exact follows_chain .disjunction conjunction

end Rules

/-! ### All rules -/

/-- The rules that count, where `n` more of them may open. -/
theorem follows_levels (n depth : Nat) (h : maxNesting - depth = n) :
    Follows depth (rule · .ternary) (ternary n) ∧ Follows depth (rule · .unary) (prefixed n) := by
  induction n generalizing depth with
  | zero =>
    have full : maxNesting ≤ depth := Nat.sub_eq_zero_iff_le.mp h
    exact ⟨follows_tooDeep rfl full, follows_tooDeep rfl full⟩
  | succ n ih =>
    have less : depth < maxNesting := by omega
    -- what a rule calls may open one level less
    obtain ⟨formulas, operands⟩ := ih (depth + 1) (by omega)
    exact ⟨follows_nested rfl less
        (follows_conditional formulas (follows_chains operands .disjunction)),
      follows_nested rfl less (follows_prefixed formulas operands)⟩

/-- Every counted rule follows the parser at every depth. -/
theorem follows_rule (depth : Nat) (nt : Nonterminal) :
    Follows depth (rule · nt) (nt.rule (maxNesting - depth)) := by
  obtain ⟨formulas, operands⟩ := follows_levels _ depth rfl
  cases nt with
  | ternary => exact formulas
  | chain level => exact follows_chains operands level
  | unary => exact operands
  | power => exact follows_power formulas operands
  | selection => exact follows_selected formulas
  | primary => exact follows_primary formulas

end Counting

open Counting in
/-- **Formulas are bounded, and so is the reading of them.** The tree of a text has no more nodes
than the text has tokens, it is no higher than that, no more calls than that are ever open inside
each other when it is evaluated, and there are at most 1024 tokens. Whatever the tokens are, every
rule comes to an end, with as many levels of nesting open as before it and never more than 256, and
one that succeeds has taken a token. -/
theorem parse_bounded :
    (∀ source e, Expr.parse source = .ok e → ∃ tokens, scan source = .ok tokens ∧
      tokens.length ≤ 1024 ∧ e.nodes ≤ tokens.length ∧ e.height ≤ e.nodes ∧
      ∀ scope, (e.evalWithin scope tokens.length).run = some (e.eval scope) ∧
        (e.rootWithin scope tokens.length).run = some (e.root scope)) ∧
    ∀ depth,
      (∀ nt, Follows depth (rule · nt) (nt.rule (256 - depth))) ∧
      Follows depth (body · .ternary)
        (conditional (ternary (256 - depth)) (prefixed (256 - depth))) ∧
      Follows depth (body · .unary)
        (prefixedOnce (ternary (256 - depth)) (prefixed (256 - depth))) ∧
      Follows depth Counting.arguments (closedArguments (ternary (256 - depth))) := by
  refine ⟨fun source e accepted => ?_, fun depth => ?_⟩
  · obtain ⟨tokens, scanned, read⟩ := parse_eq_ok_iff.mp accepted
    obtain ⟨short, read⟩ := ofTokens_eq_ok_iff.mp read
    obtain ⟨d, _, derived⟩ := ternary_eq_ok_iff.mp read
    have nodes := derived.nodes_le
    have finishes (scope : Scope) : Finishes scope _ e := derived.finishes
    rw [List.length_map] at short nodes finishes
    exact ⟨tokens, scanned, short, nodes, e.height_le_nodes,
      fun scope => finishes scope _ (Nat.le_refl _)⟩
  · obtain ⟨formulas, operands⟩ := follows_levels _ depth rfl
    exact ⟨follows_rule depth,
      follows_conditional formulas (follows_chains operands .disjunction),
      follows_prefixed formulas operands, follows_arguments formulas⟩

/-- A text with every kind of selection, and a parenthesis that would be one level too much. -/
theorem parse_bounded_call :
    (∃ e, Expr.parse "f(a[b.c], d) ^ -g" = .ok e ∧ e.nodes = 9 ∧
      ∃ tokens, scan "f(a[b.c], d) ^ -g" = .ok tokens ∧ tokens.length ≤ 1024 ∧
        e.nodes ≤ tokens.length ∧ e.height ≤ e.nodes ∧
        ∀ scope, (e.evalWithin scope tokens.length).run = some (e.eval scope) ∧
          (e.rootWithin scope tokens.length).run = some (e.root scope)) ∧
      Counting.Matches 254 2 (.error ⟨.tooDeep, [.name "x"]⟩)
        (Counting.rule · .ternary ⟨[.symbol .leftParen, .name "x"], 254, 254⟩) := by
  have size : (Expr.parse "f(a[b.c], d) ^ -g").toOption.map Expr.nodes = some 9 := by
    decide +kernel
  have tooDeep : ternary 2 [.symbol .leftParen, .name "x"] = .error ⟨.tooDeep, [.name "x"]⟩ := rfl
  have ran := (parse_bounded.2 254).1 .ternary [.symbol .leftParen, .name "x"] 254 (by decide)
  rw [show Nonterminal.ternary.rule (256 - 254) = ternary 2 from rfl, tooDeep] at ran
  cases accepted : Expr.parse "f(a[b.c], d) ^ -g" with
  | error e =>
    rw [accepted] at size
    cases size
  | ok e =>
    rw [accepted] at size
    exact ⟨⟨e, rfl, Option.some.inj size, parse_bounded.1 _ _ accepted⟩, ran⟩

end Playfield.Formula
