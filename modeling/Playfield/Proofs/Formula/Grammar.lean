import Playfield.Formula.Parser

/-!
The grammar of formulas.

`Derives` has one case for every way in which a rule of the grammar can read tokens, and says which
tree it makes of them and how many conditionals and prefix levels are open at once at the deepest
place. It knows nothing of what a parser has to decide. `startsWith` and `rank` say where that can
be seen from one token: with which tokens a rule can begin, and at which tokens it can go on.

* ternary: a disjunction, or `disjunction ? ternary : ternary`
* chain of a level: operands of the next level with operators between them, grouped to the left
* unary: a prefix operator before a unary, or a power
* power: a selection, or `selection ^ unary`
* selection: a primary with `.name` and `[ternary]` after it
* primary: a literal, a name, a call, or `(ternary)`
-/

namespace Playfield.Formula

/-- The levels of binary operators, the loosest first. -/
inductive Level where
  | disjunction | conjunction | equality | comparison | sum | product
  deriving DecidableEq, Repr

/-- The rules of the grammar that make a tree. -/
inductive Nonterminal where
  | ternary
  | chain (level : Level)
  | unary
  | power
  | selection
  | primary
  deriving DecidableEq, Repr

/-- What a chain of a level is made of. -/
def Level.operand : Level → Nonterminal
  | .disjunction => .chain .conjunction
  | .conjunction => .chain .equality
  | .equality => .chain .comparison
  | .comparison => .chain .sum
  | .sum => .chain .product
  | .product => .unary

/-- The tokens that stand for the operators of a level. -/
inductive Operator : Level → Token → BinaryOp → Prop where
  | either : Operator .disjunction (.symbol .either) .or
  | or : Operator .disjunction (.name "or") .or
  | both : Operator .conjunction (.symbol .both) .and
  | and : Operator .conjunction (.name "and") .and
  | equal : Operator .equality (.symbol .equal) .equal
  | notEqual : Operator .equality (.symbol .notEqual) .notEqual
  | less : Operator .comparison (.symbol .less) .less
  | lessEqual : Operator .comparison (.symbol .lessEqual) .lessEqual
  | greater : Operator .comparison (.symbol .greater) .greater
  | greaterEqual : Operator .comparison (.symbol .greaterEqual) .greaterEqual
  | add : Operator .sum (.symbol .plus) .add
  | subtract : Operator .sum (.symbol .minus) .subtract
  | multiply : Operator .product (.symbol .star) .multiply
  | divide : Operator .product (.symbol .slash) .divide
  | modulo : Operator .product (.symbol .percent) .modulo

/-- The tokens that stand for prefix operators. -/
inductive PrefixOperator : Token → UnaryOp → Prop where
  | minus : PrefixOperator (.symbol .minus) .negate
  | plus : PrefixOperator (.symbol .plus) .plus
  | bang : PrefixOperator (.symbol .bang) .not
  | not : PrefixOperator (.name "not") .not

/-- A name that stands for itself. The words `and` and `or` do where no operator can stand. -/
def Ordinary (id : String) : Prop :=
  id ≠ "not" ∧ id ≠ "true" ∧ id ≠ "false"

mutual

/-- A rule reads a list of tokens as a tree, with so many ternaries and unaries open at once. -/
inductive Derives : Nonterminal → Nat → List Token → Expr → Prop where
  | formula {d ts e} : Derives (.chain .disjunction) d ts e → Derives .ternary (d + 1) ts e
  | conditional {d₁ d₂ d₃ ts₁ ts₂ ts₃ condition yes no} :
      Derives (.chain .disjunction) d₁ ts₁ condition → Derives .ternary d₂ ts₂ yes →
      Derives .ternary d₃ ts₃ no →
      Derives .ternary (max d₁ (max d₂ d₃) + 1)
        (ts₁ ++ .symbol .question :: (ts₂ ++ .symbol .colon :: ts₃))
        (.conditional condition yes no)
  | operand {level d ts e} : Derives level.operand d ts e → Derives (.chain level) d ts e
  | link {level d₁ d₂ ts₁ ts₂ left right t op} :
      Derives (.chain level) d₁ ts₁ left → Operator level t op →
      Derives level.operand d₂ ts₂ right →
      Derives (.chain level) (max d₁ d₂) (ts₁ ++ t :: ts₂) (.binary op left right)
  | prefixed {d ts e t op} : PrefixOperator t op → Derives .unary d ts e →
      Derives .unary (d + 1) (t :: ts) (.unary op e)
  | plain {d ts e} : Derives .power d ts e → Derives .unary (d + 1) ts e
  | base {d ts e} : Derives .selection d ts e → Derives .power d ts e
  | raised {d₁ d₂ ts₁ ts₂ base exponent} :
      Derives .selection d₁ ts₁ base → Derives .unary d₂ ts₂ exponent →
      Derives .power (max d₁ d₂) (ts₁ ++ .symbol .caret :: ts₂) (.binary .power base exponent)
  | whole {d ts e} : Derives .primary d ts e → Derives .selection d ts e
  | member {d ts e field} : Derives .selection d ts e →
      Derives .selection d (ts ++ [.symbol .dot, .name field]) (.member e field)
  | index {d₁ d₂ ts₁ ts₂ e key} :
      Derives .selection d₁ ts₁ e → Derives .ternary d₂ ts₂ key →
      Derives .selection (max d₁ d₂)
        (ts₁ ++ .symbol .leftBracket :: (ts₂ ++ [.symbol .rightBracket])) (.index e key)
  | number (value : Float32) : Derives .primary 0 [.number value] (.number value)
  | text (content : String) : Derives .primary 0 [.text content] (.text content)
  | yes : Derives .primary 0 [.name "true"] (.truth true)
  | no : Derives .primary 0 [.name "false"] (.truth false)
  | name {id} : Ordinary id → Derives .primary 0 [.name id] (.name id)
  | callEmpty {id} : Ordinary id →
      Derives .primary 0 [.name id, .symbol .leftParen, .symbol .rightParen] (.call id [])
  | call {id d ts args} : Ordinary id → DerivesArguments d ts args →
      Derives .primary d (.name id :: .symbol .leftParen :: (ts ++ [.symbol .rightParen]))
        (.call id args)
  | parens {d ts e} : Derives .ternary d ts e →
      Derives .primary d (.symbol .leftParen :: (ts ++ [.symbol .rightParen])) e

/-- Ternaries with commas between them. -/
inductive DerivesArguments : Nat → List Token → List Expr → Prop where
  | last {d ts e} : Derives .ternary d ts e → DerivesArguments d ts [e]
  | more {d₁ d₂ ts₁ ts₂ e es} : Derives .ternary d₁ ts₁ e → DerivesArguments d₂ ts₂ es →
      DerivesArguments (max d₁ d₂) (ts₁ ++ .symbol .comma :: ts₂) (e :: es)

end

/-! ### With which tokens a rule begins -/

/-- Tokens with which a tree can begin: no prefix operator where one has been looked for already. -/
def startsWith : Nonterminal → Token → Prop
  | .power, t | .selection, t | .primary, t =>
    t ≠ .symbol .rightParen ∧ ∀ op, ¬ PrefixOperator t op
  | _, t => t ≠ .symbol .rightParen

/-- A primary can begin with any name that is no prefix operator. -/
theorem startsWith_name {id : String} (h : id ≠ "not") : startsWith .primary (.name id) := by
  refine ⟨by simp, fun op prefixing => ?_⟩
  cases prefixing
  exact h rfl

/-- A chain begins as its operands do. -/
theorem startsWith_operand (level : Level) (t : Token) :
    startsWith level.operand t ↔ startsWith (.chain level) t := by
  cases level <;> rfl

mutual

/-- A derivation reads at least one token. -/
theorem Derives.starts {nt d ts e} : Derives nt d ts e → ∃ t rest, ts = t :: rest ∧ startsWith nt t
  | .formula h => h.starts
  | .conditional h _ _ | .link h _ _ => by
    obtain ⟨t, rest, rfl, start⟩ := h.starts
    exact ⟨t, _, rfl, start⟩
  | .operand h => by
    obtain ⟨t, rest, rfl, start⟩ := h.starts
    exact ⟨t, rest, rfl, (startsWith_operand _ t).mp start⟩
  | .prefixed op _ => ⟨_, _, rfl, by cases op <;> simp [startsWith]⟩
  | .plain h => by
    obtain ⟨t, rest, rfl, start⟩ := h.starts
    exact ⟨t, rest, rfl, start.1⟩
  | .base h | .whole h => h.starts
  | .raised h _ | .member h | .index h _ => by
    obtain ⟨t, rest, rfl, start⟩ := h.starts
    exact ⟨t, _, rfl, start⟩
  | .number _ | .text _ => ⟨_, _, rfl, by simp, fun _ op => by cases op⟩
  | .yes | .no => ⟨_, _, rfl, startsWith_name (by decide)⟩
  | .name ordinary | .callEmpty ordinary | .call ordinary _ =>
    ⟨_, _, rfl, startsWith_name ordinary.1⟩
  | .parens _ => ⟨_, _, rfl, by simp, fun _ op => by cases op⟩

/-- Arguments begin with a token that does not close the call. -/
theorem DerivesArguments.starts {d ts es} :
    DerivesArguments d ts es → ∃ t rest, ts = t :: rest ∧ t ≠ .symbol .rightParen
  | .last h => by
    obtain ⟨t, rest, rfl, start⟩ := h.starts
    exact ⟨t, rest, rfl, start⟩
  | .more h _ => by
    obtain ⟨t, rest, rfl, start⟩ := h.starts
    exact ⟨t, _, rfl, start⟩

end

/-- There is a comma between any two arguments. -/
theorem DerivesArguments.length_le {d ts es} :
    DerivesArguments d ts es → es.length ≤ ts.length + 1
  | .last _ => by simp
  | .more _ h => by
    have later := h.length_le
    simp only [List.length_cons, List.length_append]
    omega

/-! ### At which tokens a rule goes on -/

/-- Rules by how much they take in, the tightest first. -/
def Nonterminal.rank : Nonterminal → Nat
  | .primary => 0
  | .selection => 1
  | .power | .unary => 2
  | .chain .product => 3
  | .chain .sum => 4
  | .chain .comparison => 5
  | .chain .equality => 6
  | .chain .conjunction => 7
  | .chain .disjunction => 8
  | .ternary => 9

/-- The rank of the rule that goes on at a token; above all ranks where every rule ends. -/
def Token.rank : Token → Nat
  | .symbol .leftParen => 0
  | .symbol .dot | .symbol .leftBracket => 1
  | .symbol .caret => 2
  | .symbol .star | .symbol .slash | .symbol .percent => 3
  | .symbol .plus | .symbol .minus => 4
  | .symbol .less | .symbol .lessEqual | .symbol .greater | .symbol .greaterEqual => 5
  | .symbol .equal | .symbol .notEqual => 6
  | .symbol .both => 7
  | .symbol .either => 8
  | .symbol .question => 9
  | .name id => if id = "and" then 7 else if id = "or" then 8 else 10
  | _ => 10

/-- What follows is nothing at which a rule goes on. -/
def Ends (nt : Nonterminal) (rest : List Token) : Prop :=
  ∀ t ∈ rest.head?, nt.rank < t.rank

@[simp]
theorem ends_nil (nt : Nonterminal) : Ends nt [] := by
  simp [Ends]

/-- A rule ends at a token iff only looser ones go on there. -/
@[simp]
theorem ends_cons {nt : Nonterminal} {t : Token} {rest : List Token} :
    Ends nt (t :: rest) ↔ nt.rank < t.rank := by
  simp [Ends]

/-- Where a rule ends, every tighter one does. -/
theorem Ends.of_le {nt nt' : Nonterminal} {rest : List Token} (h : Ends nt rest)
    (le : nt'.rank ≤ nt.rank) : Ends nt' rest :=
  fun t first => Nat.lt_of_le_of_lt le (h t first)

/-- The operands of a level are tighter than the level. -/
theorem rank_operand_lt (level : Level) : level.operand.rank < (Nonterminal.chain level).rank := by
  cases level <;> decide

theorem Operator.rank {level : Level} {t : Token} {op : BinaryOp} (h : Operator level t op) :
    t.rank = (Nonterminal.chain level).rank := by
  cases h <;> rfl

end Playfield.Formula
