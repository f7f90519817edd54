import Playfield.Formula.Eval
import Playfield.Proofs.Formula.Grammar

/-!
The size of a formula against the number of its tokens.

A tree has no more nodes than the tokens that derive it, and its height is no more than its nodes.
`Expr.evalWithin` and `Expr.rootWithin` are evaluation with a limit on how many calls may be open
inside each other, and with no answer where one more would be needed. A selection counts twice, once
as a value and once as a path, but it also has two tokens besides those of its object; so as many
calls as there are tokens are always enough (`Derives.finishes`).
-/

namespace Playfield.Formula

/-! ### Nodes and height -/

mutual

/-- How many nodes a tree has. -/
def Expr.nodes : Expr → Nat
  | .number _ | .text _ | .truth _ | .name _ => 1
  | .member object _ => object.nodes + 1
  | .index object key => object.nodes + key.nodes + 1
  | .unary _ operand => operand.nodes + 1
  | .binary _ left right => left.nodes + right.nodes + 1
  | .conditional condition yes no => condition.nodes + yes.nodes + no.nodes + 1
  | .call _ args => nodesOfAll args + 1

/-- How many nodes the trees of a list have together. -/
def nodesOfAll : List Expr → Nat
  | [] => 0
  | first :: rest => first.nodes + nodesOfAll rest

end

mutual

/-- How many nodes the longest path from the top of a tree has. -/
def Expr.height : Expr → Nat
  | .number _ | .text _ | .truth _ | .name _ => 1
  | .member object _ => object.height + 1
  | .index object key => max object.height key.height + 1
  | .unary _ operand => operand.height + 1
  | .binary _ left right => max left.height right.height + 1
  | .conditional condition yes no => max condition.height (max yes.height no.height) + 1
  | .call _ args => heightOfAll args + 1

/-- The greatest height of the trees of a list. -/
def heightOfAll : List Expr → Nat
  | [] => 0
  | first :: rest => max first.height (heightOfAll rest)

end

mutual

/-- A tree is no higher than it has nodes. -/
theorem Expr.height_le_nodes : ∀ e : Expr, e.height ≤ e.nodes
  | .number _ | .text _ | .truth _ | .name _ => Nat.le_refl 1
  | .member object _ => Nat.succ_le_succ object.height_le_nodes
  | .index object key => by
    have h₁ := object.height_le_nodes
    have h₂ := key.height_le_nodes
    simp only [Expr.height, Expr.nodes]
    omega
  | .unary _ operand => Nat.succ_le_succ operand.height_le_nodes
  | .binary _ left right => by
    have h₁ := left.height_le_nodes
    have h₂ := right.height_le_nodes
    simp only [Expr.height, Expr.nodes]
    omega
  | .conditional condition yes no => by
    have h₁ := condition.height_le_nodes
    have h₂ := yes.height_le_nodes
    have h₃ := no.height_le_nodes
    simp only [Expr.height, Expr.nodes]
    omega
  | .call _ args => Nat.succ_le_succ (heightOfAll_le_nodesOfAll args)

theorem heightOfAll_le_nodesOfAll : ∀ es : List Expr, heightOfAll es ≤ nodesOfAll es
  | [] => Nat.le_refl 0
  | first :: rest => by
    have h₁ := first.height_le_nodes
    have h₂ := heightOfAll_le_nodesOfAll rest
    simp only [heightOfAll, nodesOfAll]
    omega

end

mutual

/-- Every node has a token of its own. -/
theorem Derives.nodes_le {nt d ts e} : Derives nt d ts e → e.nodes ≤ ts.length
  | .formula h | .operand h | .plain h | .base h | .whole h => h.nodes_le
  | .conditional h₁ h₂ h₃ => by
    have le₁ := h₁.nodes_le
    have le₂ := h₂.nodes_le
    have le₃ := h₃.nodes_le
    simp only [Expr.nodes, List.length_append, List.length_cons]
    omega
  | .link h₁ _ h₂ | .raised h₁ h₂ | .index h₁ h₂ => by
    have le₁ := h₁.nodes_le
    have le₂ := h₂.nodes_le
    simp only [Expr.nodes, List.length_append, List.length_cons, List.length_nil]
    omega
  | .prefixed _ h => Nat.succ_le_succ h.nodes_le
  | .member h => by
    have le := h.nodes_le
    simp only [Expr.nodes, List.length_append, List.length_cons, List.length_nil]
    omega
  | .number _ | .text _ | .yes | .no | .name _ => Nat.le_refl 1
  | .callEmpty _ => by simp [Expr.nodes, nodesOfAll]
  | .call _ h => by
    have le := h.nodesOfAll_le
    simp only [Expr.nodes, List.length_append, List.length_cons, List.length_nil]
    omega
  | .parens h => by
    have le := h.nodes_le
    simp only [List.length_append, List.length_cons, List.length_nil]
    omega

/-- Arguments have no more nodes than tokens. -/
theorem DerivesArguments.nodesOfAll_le {d ts es} :
    DerivesArguments d ts es → nodesOfAll es ≤ ts.length
  | .last h => h.nodes_le
  | .more h₁ h₂ => by
    have le₁ := h₁.nodes_le
    have le₂ := h₂.nodesOfAll_le
    simp only [nodesOfAll, List.length_append, List.length_cons]
    omega

end

/-! ### Evaluation with a limit on open calls -/

mutual

/-- The value of a formula with at most so many calls of `evalWithin` and `rootWithin` open inside
each other, or nothing where that is not enough. -/
def Expr.evalWithin (scope : Scope) : Nat → Expr → ExceptT EvalError Option Value
  | 0, _ => none
  | _ + 1, .number value => return .number value
  | _ + 1, .text content => return .text content
  | _ + 1, .truth value => return .truth value
  | _ + 1, .name id => scope.identifier id
  | n + 1, .member object field => do
    let (root, keys) ← rootWithin scope n (.member object field)
    scope.path root keys
  | n + 1, .index object key => do
    let (root, keys) ← rootWithin scope n (.index object key)
    scope.path root keys
  | n + 1, .unary op operand => do op.apply (← operand.evalWithin scope n)
  | n + 1, .binary op left right => do
    let l ← left.evalWithin scope n
    match op with
    | .and =>
      if l.truthy then return .truth (← right.evalWithin scope n).truthy else return .truth false
    | .or =>
      if l.truthy then return .truth true else return .truth (← right.evalWithin scope n).truthy
    | op => op.apply l (← right.evalWithin scope n)
  | n + 1, .conditional condition yes no => do
    if (← condition.evalWithin scope n).truthy then yes.evalWithin scope n
    else no.evalWithin scope n
  | n + 1, .call function args => do callNamed function (← args.mapM (Expr.evalWithin scope n))

/-- A selection seen as a path, with the same limit. -/
def Expr.rootWithin (scope : Scope) :
    Nat → Expr → ExceptT EvalError Option (String × List String)
  | 0, _ => none
  | _ + 1, .name id => return (id, [])
  | n + 1, .member object field => do
    let (root, keys) ← object.rootWithin scope n
    return (root, keys ++ [field])
  | n + 1, .index object key => do
    let (root, keys) ← object.rootWithin scope n
    return (root, keys ++ [(← key.evalWithin scope n).display])
  | _ + 1, _ => throw (.typeMismatch .path)

end

section Finishing

variable {scope : Scope} {α β : Type}

/-- Steps that come to their end one after the other do so together. -/
theorem finishes_bind {x : ExceptT EvalError Option α} {y : Except EvalError α}
    {f : α → ExceptT EvalError Option β} {g : α → Except EvalError β} (hx : x.run = some y)
    (hf : ∀ a, (f a).run = some (g a)) : (x >>= f).run = some (y >>= g) := by
  rw [ExceptT.run_bind, hx]
  cases y with
  | error e => rfl
  | ok a => exact hf a

/-- With every limit from `n` on, a formula has its value and its path. -/
def Finishes (scope : Scope) (n : Nat) (e : Expr) : Prop :=
  ∀ limit ≥ n, (e.evalWithin scope limit).run = some (e.eval scope) ∧
    (e.rootWithin scope limit).run = some (e.root scope)

/-- With every limit from `n` on, arguments have their values. -/
def FinishAll (scope : Scope) (n : Nat) (es : List Expr) : Prop :=
  ∀ limit ≥ n, (es.mapM (Expr.evalWithin scope limit)).run = some (evalArguments scope es)

/-- A limit that is enough stays so when it is raised. -/
theorem Finishes.mono {m n : Nat} {e : Expr} (h : Finishes scope m e) (le : m ≤ n) :
    Finishes scope n e :=
  fun limit enough => h limit (Nat.le_trans le enough)

/-- A limit that is enough for one call besides. -/
theorem exists_limit {n limit : Nat} (h : limit ≥ n + 1) : ∃ inner ≥ n, limit = inner + 1 :=
  ⟨limit - 1, by omega, by omega⟩

/-- A formula that is no selection fails as a path in a single call. -/
theorem finishes_of_value {n : Nat} {e : Expr}
    (value : ∀ limit ≥ n, (e.evalWithin scope (limit + 1)).run = some (e.eval scope))
    (path : ∀ limit, (e.rootWithin scope (limit + 1)).run = some (e.root scope)) :
    Finishes scope (n + 1) e := by
  intro limit enough
  obtain ⟨limit, within, rfl⟩ := exists_limit enough
  exact ⟨value limit within, path limit⟩

/-- The value of a selection is what stands at the end of its path, for one call more. -/
theorem finishes_of_path {n : Nat} {e : Expr}
    (path : ∀ limit ≥ n, (e.rootWithin scope (limit + 1)).run = some (e.root scope))
    (bounded : ∀ limit, e.evalWithin scope (limit + 1) =
      e.rootWithin scope limit >>= fun p => liftM (scope.path p.1 p.2))
    (unbounded : e.eval scope = e.root scope >>= fun p => scope.path p.1 p.2) :
    Finishes scope (n + 2) e := by
  have path' : ∀ limit ≥ n + 1, (e.rootWithin scope limit).run = some (e.root scope) := by
    intro limit enough
    obtain ⟨limit, within, rfl⟩ := exists_limit enough
    exact path limit within
  intro limit enough
  refine ⟨?_, path' limit (Nat.le_of_succ_le enough)⟩
  obtain ⟨limit, within, rfl⟩ := exists_limit enough
  rw [bounded, unbounded]
  exact finishes_bind (path' limit within) fun _ => rfl

/-- A selected field takes two calls more than its object. -/
theorem finishes_member {n : Nat} {object : Expr} (h : Finishes scope n object) (field : String) :
    Finishes scope (n + 2) (.member object field) := by
  refine finishes_of_path (fun limit enough => ?_) (fun _ => rfl) ?_
  · exact finishes_bind (h limit enough).2 fun _ => rfl
  · simp only [Expr.eval, Expr.root, Expr.evalM, Expr.rootM, bind_assoc, pure_bind]
    rfl

theorem finishes_index {n₁ n₂ : Nat} {object key : Expr} (h₁ : Finishes scope n₁ object)
    (h₂ : Finishes scope n₂ key) : Finishes scope (max n₁ n₂ + 2) (.index object key) := by
  refine finishes_of_path (fun limit enough => ?_) (fun _ => rfl) ?_
  · exact finishes_bind (h₁ limit (by omega)).2 fun _ =>
      finishes_bind (h₂ limit (by omega)).1 fun _ => rfl
  · simp only [Expr.eval, Expr.root, Expr.evalM, Expr.rootM, bind_assoc, pure_bind]
    rfl

theorem finishes_unary {n : Nat} {operand : Expr} (op : UnaryOp) (h : Finishes scope n operand) :
    Finishes scope (n + 1) (.unary op operand) :=
  finishes_of_value (fun limit enough => finishes_bind (h limit enough).1 fun _ => rfl) fun _ => rfl

/-- A binary operator takes one call more than either operand. -/
theorem finishes_binary {n₁ n₂ : Nat} {left right : Expr} (op : BinaryOp)
    (h₁ : Finishes scope n₁ left) (h₂ : Finishes scope n₂ right) :
    Finishes scope (max n₁ n₂ + 1) (.binary op left right) := by
  refine finishes_of_value (fun limit enough => ?_) fun _ => rfl
  refine finishes_bind (h₁ limit (by omega)).1 fun l => ?_
  have right := (h₂ limit (by omega)).1
  cases op with
  | and =>
    dsimp only
    split
    · exact finishes_bind right fun _ => rfl
    · rfl
  | or =>
    dsimp only
    split
    · rfl
    · exact finishes_bind right fun _ => rfl
  | _ => exact finishes_bind right fun _ => rfl

theorem finishes_conditional {n₁ n₂ n₃ : Nat} {condition yes no : Expr}
    (h₁ : Finishes scope n₁ condition) (h₂ : Finishes scope n₂ yes)
    (h₃ : Finishes scope n₃ no) :
    Finishes scope (max n₁ (max n₂ n₃) + 1) (.conditional condition yes no) := by
  refine finishes_of_value (fun limit enough => ?_) fun _ => rfl
  refine finishes_bind (h₁ limit (by omega)).1 fun value => ?_
  cases value.truthy with
  | true => exact (h₂ limit (by omega)).1
  | false => exact (h₃ limit (by omega)).1

theorem finishAll_nil : FinishAll scope 0 [] :=
  fun _ _ => rfl

/-- Arguments take as many calls as the one that takes the most. -/
theorem finishAll_cons {n₁ n₂ : Nat} {first : Expr} {rest : List Expr}
    (h₁ : Finishes scope n₁ first) (h₂ : FinishAll scope n₂ rest) :
    FinishAll scope (max n₁ n₂) (first :: rest) := by
  intro limit enough
  rw [List.mapM_cons]
  exact finishes_bind (h₁ limit (by omega)).1 fun _ =>
    finishes_bind (h₂ limit (by omega)) fun _ => rfl

theorem finishes_call {n : Nat} {args : List Expr} (function : String)
    (h : FinishAll scope n args) : Finishes scope (n + 1) (.call function args) :=
  finishes_of_value (fun limit enough => finishes_bind (h limit enough) fun _ => rfl) fun _ => rfl

mutual

/-- As many calls as a formula has tokens are enough. -/
theorem Derives.finishes {nt d ts e} : Derives nt d ts e → Finishes scope ts.length e
  | .formula h | .operand h | .plain h | .base h | .whole h => h.finishes
  | .conditional h₁ h₂ h₃ => by
    refine (finishes_conditional h₁.finishes h₂.finishes h₃.finishes).mono ?_
    simp only [List.length_append, List.length_cons]
    omega
  | .link h₁ _ h₂ | .raised h₁ h₂ => by
    refine (finishes_binary _ h₁.finishes h₂.finishes).mono ?_
    simp only [List.length_append, List.length_cons]
    omega
  | .prefixed _ h => finishes_unary _ h.finishes
  | .member h => by simpa using finishes_member h.finishes _
  | .index h₁ h₂ => by
    refine (finishes_index h₁.finishes h₂.finishes).mono ?_
    simp only [List.length_append, List.length_cons, List.length_nil]
    omega
  | .number _ | .text _ | .yes | .no | .name _ => finishes_of_value (fun _ _ => rfl) fun _ => rfl
  | .callEmpty _ => (finishes_call _ finishAll_nil).mono (Nat.le_add_left 1 2)
  | .call _ h => by
    refine (finishes_call _ h.finishAll).mono ?_
    simp only [List.length_append, List.length_cons, List.length_nil]
    omega
  | .parens h => by
    refine h.finishes.mono ?_
    simp only [List.length_append, List.length_cons, List.length_nil]
    omega

/-- As many calls as arguments have tokens are enough. -/
theorem DerivesArguments.finishAll {d ts es} :
    DerivesArguments d ts es → FinishAll scope ts.length es
  | .last h => by simpa using finishAll_cons h.finishes finishAll_nil
  | .more h₁ h₂ => by
    intro limit enough
    simp only [List.length_append, List.length_cons] at enough
    exact finishAll_cons h₁.finishes h₂.finishAll limit (by omega)

end

end Finishing

end Playfield.Formula
