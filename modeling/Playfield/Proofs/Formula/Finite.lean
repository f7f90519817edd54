import Playfield.Proofs.Binary32.Arithmetic
import Playfield.Proofs.Formula.Faithful
import Playfield.Proofs.Formula.ParserComplete
import Playfield.Proofs.Formula.WiderScope

/-!
The numbers that formulas come to.

Every operator and every function hands out finite numbers only (`BinaryOp.ensures_apply`,
`ensures_callNamed`), and a scope whose own numbers are finite shows no others
(`Scope.Finite.path`). A number that is written in a formula is handed on unchecked where nothing is
computed with it, which is where the formula, or what its conditions choose of it, is that number
alone. So a formula comes to a number that is not finite just when it chooses a literal that is not
(`evaluate_not_finite_iff`); one that is too large for single precision is read as infinite.
-/

namespace Playfield.Formula

/-! ### What a computation ensures -/

/-- What the computation comes to, if it succeeds, has the property. -/
def Ensures {ε α : Type} (P : α → Prop) (m : Except ε α) : Prop :=
  ∀ a, m = .ok a → P a

namespace Ensures

variable {ε α β : Type} {P : β → Prop}

theorem ok {b : β} (holds : P b) : Ensures P (.ok b : Except ε β) := by
  intro b' value
  cases value
  exact holds

theorem error (e : ε) : Ensures P (.error e) := by
  intro b value
  cases value

/-- What every continuation ensures is ensured. -/
theorem bind {m : Except ε α} {f : α → Except ε β} (rest : ∀ a, Ensures P (f a)) :
    Ensures P (m >>= f) := by
  cases m with
  | error e => exact error e
  | ok a => exact rest a

end Ensures

/-- A finite number, or no number. -/
def Value.Finite (v : Value) : Prop :=
  ∀ x, v = .number x → x.isFinite

/-- A finite number is finite as a value. -/
theorem Value.finite_number {x : Float32} (finite : x.isFinite) : (Value.number x).Finite := by
  intro y same
  cases same
  exact finite

theorem Value.finite_truth (b : Bool) : (Value.truth b).Finite := by
  intro y same
  cases same

theorem Value.finite_text (content : String) : (Value.text content).Finite := by
  intro y same
  cases same

/-! ### Operators -/

/-- A checked result is finite. -/
theorem ensures_finite (x : Float32) : Ensures Value.Finite (finite x) := by
  unfold finite
  split
  · exact .ok (Value.finite_number ‹_›)
  · exact .error _

/-- A remainder comes to finite values only. -/
theorem ensures_flooredRemainder (x y : Float32) :
    Ensures Value.Finite (flooredRemainder x y) := by
  unfold flooredRemainder
  split
  · exact .error _
  · exact ensures_finite _

theorem UnaryOp.ensures_apply (op : UnaryOp) (operand : Value) :
    Ensures Value.Finite (op.apply operand) := by
  cases op with
  | negate | plus => exact .bind fun _ => ensures_finite _
  | not => exact .ok (Value.finite_truth _)

theorem ensures_compareNumbers (holds : Float32 → Float32 → Bool) (left right : Value) :
    Ensures Value.Finite (compareNumbers holds left right) :=
  .bind fun _ => .bind fun _ => .ok (Value.finite_truth _)

theorem ensures_combineNumbers (operation : Float32 → Float32 → Float32) (left right : Value) :
    Ensures Value.Finite (combineNumbers operation left right) :=
  .bind fun _ => .bind fun _ => ensures_finite _

/-- A sum, of numbers or of texts, comes to finite values only. -/
theorem ensures_addValues (left right : Value) : Ensures Value.Finite (addValues left right) := by
  unfold addValues
  split
  · exact .ok (Value.finite_text _)
  · exact .ok (Value.finite_text _)
  · exact ensures_combineNumbers _ left right

theorem ensures_divideValues (left right : Value) :
    Ensures Value.Finite (divideValues left right) := by
  refine .bind fun divisor => ?_
  split
  · exact .bind fun _ => .bind fun _ => ensures_finite _
  · exact .bind fun _ => ensures_finite _

/-- A binary operator comes to finite values only. -/
theorem BinaryOp.ensures_apply (op : BinaryOp) (left right : Value) :
    Ensures Value.Finite (op.apply left right) := by
  cases op with
  | add => exact ensures_addValues left right
  | subtract | multiply | power => exact ensures_combineNumbers _ left right
  | divide => exact ensures_divideValues left right
  | modulo => exact .bind fun _ => .bind fun _ => ensures_flooredRemainder _ _
  | greater | less | greaterEqual | lessEqual => exact ensures_compareNumbers _ left right
  | equal | notEqual | and | or => exact .ok (Value.finite_truth _)

/-! ### Functions -/

/-- The functions that check their own results do so. -/
theorem ensures_ofTwo {name : String} {f : Float32 → Float32 → Except EvalError Value}
    (known : Builtin.named? name = some (.ofTwo f)) (x y : Float32) :
    Ensures Value.Finite (f x y) := by
  obtain ⟨before, after, table, -⟩ := List.lookup_eq_some_iff.mp known
  have member : (name, Builtin.ofTwo f) ∈ before ++ (name, Builtin.ofTwo f) :: after := by simp
  rw [← table] at member
  simp only [List.mem_cons, Prod.mk.injEq, reduceCtorEq, and_false, false_or, Builtin.ofTwo.injEq,
    List.not_mem_nil, or_false] at member
  rcases member with ⟨-, rfl⟩ | ⟨-, rfl⟩ | ⟨-, rfl⟩ | ⟨-, rfl⟩
  · exact ensures_finite _
  · exact ensures_finite _
  · exact ensures_finite _
  · exact ensures_flooredRemainder x y

/-- A call comes to finite values only. -/
theorem ensures_callNamed (name : String) (args : List Value) :
    Ensures Value.Finite (callNamed name args) := by
  unfold callNamed callNamedM
  split
  · exact .error _
  · rename_i function known
    split
    · cases function with
      | ofOne f => exact .bind fun _ => ensures_finite _
      | ofTwo f => exact .bind fun x => .bind fun y => ensures_ofTwo known x y
      | fold f => exact .bind fun _ => .bind fun _ => ensures_finite _
      | clamp => exact .bind fun _ => .bind fun _ => .bind fun _ => ensures_finite _
    · exact .error _

/-! ### Scopes -/

/-- All numbers that a scope shows are finite, and frames are counted in 64 bits. -/
structure Scope.Finite (scope : Scope) : Prop where
  frame : scope.frame < 2 ^ 64
  t : scope.t.isFinite
  width : scope.width.isFinite
  height : scope.height.isFinite
  field : ∀ id field x, scope.field? id field = some x → x.isFinite
  parent : ∀ position, scope.parent = some position → position.isFinite

namespace Scope.Finite

variable {scope : Scope} (allFinite : scope.Finite)

include allFinite

/-- A name comes to finite values only. -/
theorem identifier (id : String) : Ensures Value.Finite (scope.identifier id) := by
  unfold Scope.identifier
  split_ifs
  · exact .ok (Value.finite_number (Binary32.isFinite_ofNat allFinite.frame))
  · exact .ok (Value.finite_number allFinite.t)
  · exact .ok (Value.finite_number allFinite.width)
  · exact .ok (Value.finite_number allFinite.height)
  · exact .ok (Value.finite_number rfl)
  · exact .ok (Value.finite_number rfl)
  · exact .ok (Value.finite_number rfl)
  · exact .error _
  · exact .error _

theorem objectField (id field : String) : Ensures Value.Finite (scope.objectField id field) := by
  intro v value
  obtain ⟨x, held, rfl⟩ := Scope.objectField_eq_ok_iff.mp value
  exact Value.finite_number (allFinite.field id field x held)

theorem parentField (field : String) : Ensures Value.Finite (scope.parentField field) := by
  unfold Scope.parentField
  cases held : scope.parent with
  | none => exact .error _
  | some position =>
    have finite := allFinite.parent position held
    rw [Vec2.isFinite, Bool.and_eq_true] at finite
    dsimp only
    split_ifs
    · exact .ok (Value.finite_number finite.1)
    · exact .ok (Value.finite_number finite.2)
    · exact .error _

/-- A path comes to finite values only. -/
theorem path (root : String) (keys : List String) :
    Ensures Value.Finite (scope.path root keys) := by
  unfold Scope.path
  split
  · split
    · exact allFinite.objectField _ _
    · exact .error _
  · split
    · exact allFinite.parentField _
    · exact .error _
  · exact .error _

end Scope.Finite

/-! ### Formulas -/

/-- A formula is a number as it is written, or its conditions choose one. -/
inductive Expr.HandsOn (scope : Scope) (x : Float32) : Expr → Prop where
  | literal : HandsOn scope x (.number x)
  | yes {condition yes no v} : condition.eval scope = .ok v → v.truthy = true →
      HandsOn scope x yes → HandsOn scope x (.conditional condition yes no)
  | no {condition yes no v} : condition.eval scope = .ok v → v.truthy = false →
      HandsOn scope x no → HandsOn scope x (.conditional condition yes no)

section Formulas

variable {scope : Scope} {x : Float32}

/-- A choice comes to what its condition chooses. -/
theorem Expr.eval_conditional (condition yes no : Expr) :
    (Expr.conditional condition yes no).eval scope =
      condition.eval scope >>= fun v => if v.truthy then yes.eval scope else no.eval scope := by
  rw [Expr.eval, Expr.evalM]
  rfl

/-- A formula that hands on a number comes to it. -/
theorem Expr.HandsOn.eval_eq {e : Expr} (handsOn : e.HandsOn scope x) :
    e.eval scope = .ok (.number x) := by
  induction handsOn with
  | literal => rfl
  | yes settled truthy _ ih =>
    rw [Expr.eval_conditional, settled]
    exact (if_pos truthy).trans ih
  | no settled truthy _ ih =>
    rw [Expr.eval_conditional, settled]
    exact (if_neg (by simp [truthy])).trans ih

/-- A value of a formula that is no number, a finite one, or one that the formula hands on. -/
def Expr.AccountsFor (scope : Scope) (e : Expr) (v : Value) : Prop :=
  ∀ x, v = .number x → x.isFinite ∨ e.HandsOn scope x

/-- What is finite is accounted for. -/
theorem Ensures.accounted {e : Expr} {m : Except EvalError Value}
    (ensures : Ensures Value.Finite m) : Ensures (e.AccountsFor scope) m := by
  intro v value x same
  exact .inl (ensures v value x same)

/-- What the conditions choose accounts for the value of a choice. -/
theorem Expr.AccountsFor.conditional {condition yes no : Expr} {v w : Value}
    (settled : condition.eval scope = .ok v)
    (accounts : (if v.truthy then yes else no).AccountsFor scope w) :
    (Expr.conditional condition yes no).AccountsFor scope w := by
  intro x same
  rcases accounts x same with finite | handsOn
  · exact .inl finite
  · cases truthy : v.truthy with
    | true =>
      rw [truthy, if_pos rfl] at handsOn
      exact .inr (.yes settled truthy handsOn)
    | false =>
      rw [truthy, if_neg Bool.false_ne_true] at handsOn
      exact .inr (.no settled truthy handsOn)

/-- In a finite scope only a number that is handed on can be infinite or no number. -/
theorem Scope.Finite.eval (allFinite : scope.Finite) :
    (e : Expr) → Ensures (e.AccountsFor scope) (e.eval scope)
  | .number y => by
    rw [Expr.eval, Expr.evalM]
    refine .ok fun x same => ?_
    cases same
    exact .inr .literal
  | .text content => by
    rw [Expr.eval, Expr.evalM]
    exact .accounted (.ok (Value.finite_text content))
  | .truth b => by
    rw [Expr.eval, Expr.evalM]
    exact .accounted (.ok (Value.finite_truth b))
  | .name id => by
    rw [Expr.eval, Expr.evalM]
    exact .accounted (allFinite.identifier id)
  | .member object field => by
    rw [Expr.eval, Expr.evalM]
    exact .accounted (.bind fun rooted => allFinite.path rooted.1 _)
  | .index object key => by
    rw [Expr.eval, Expr.evalM]
    exact .accounted (.bind fun rooted => .bind fun _ => allFinite.path rooted.1 _)
  | .unary op operand => by
    rw [Expr.eval, Expr.evalM]
    exact .accounted (.bind fun _ => op.ensures_apply _)
  | .binary op left right => by
    rw [Expr.eval, Expr.evalM]
    refine .accounted (.bind fun l => ?_)
    have truths : Ensures Value.Finite (right.eval scope >>= fun r => .ok (.truth r.truthy)) :=
      .bind fun r => .ok (Value.finite_truth r.truthy)
    -- `and` and `or` look at their right side only if the left one does not settle them.
    cases op with
    | and =>
      dsimp only
      split
      · exact truths
      · exact .ok (Value.finite_truth false)
    | or =>
      dsimp only
      split
      · exact .ok (Value.finite_truth true)
      · exact truths
    | _ => exact .bind fun r => BinaryOp.ensures_apply _ l r
  | .call function args => by
    rw [Expr.eval, Expr.evalM]
    exact .accounted (.bind fun _ => ensures_callNamed function _)
  | .conditional condition yes no => by
    rw [Expr.eval_conditional]
    cases settled : condition.eval scope with
    | error e => exact .error e
    | ok v =>
      intro w value
      refine .conditional settled ?_
      cases truthy : v.truthy with
      | true => exact allFinite.eval yes w ((if_pos truthy).symm.trans value)
      | false => exact allFinite.eval no w ((if_neg (by simp [truthy])).symm.trans value)

end Formulas

/-! ### Literals in the text -/

/-- A number that a formula hands on is one of its tokens. -/
theorem Derives.mem_of_handsOn {scope : Scope} {x : Float32} {nt d ts e} :
    Derives nt d ts e → e.HandsOn scope x → Token.number x ∈ ts
  | .formula h, handsOn | .operand h, handsOn | .plain h, handsOn | .base h, handsOn
  | .whole h, handsOn => h.mem_of_handsOn handsOn
  | .conditional _ h₁ h₂, handsOn => by
    cases handsOn with
    | yes _ _ handsOn => simp [h₁.mem_of_handsOn handsOn]
    | no _ _ handsOn => simp [h₂.mem_of_handsOn handsOn]
  | .parens h, handsOn => by simp [h.mem_of_handsOn handsOn]
  | .number y, handsOn => by
    cases handsOn
    exact List.mem_singleton_self _
  | .link _ _ _, handsOn | .prefixed _ _, handsOn | .raised _ _, handsOn | .member _, handsOn
  | .index _ _, handsOn | .text _, handsOn | .yes, handsOn | .no, handsOn | .name _, handsOn
  | .callEmpty _, handsOn | .call _ _, handsOn => by cases handsOn

/-- The number that the formula of a text hands on is one of its tokens. -/
theorem exists_token_of_handsOn {source : String} {scope : Scope} {e : Expr} {x : Float32}
    (parsed : Expr.parse source = .ok e) (handsOn : e.HandsOn scope x) :
    ∃ tokens, scan source = .ok tokens ∧ ∃ t ∈ tokens, t.token = .number x := by
  obtain ⟨tokens, scanned, read⟩ := parse_eq_ok_iff.mp parsed
  obtain ⟨d, _, derived⟩ := ternary_eq_ok_iff.mp (ofTokens_eq_ok_iff.mp read).2
  obtain ⟨t, member, same⟩ := List.mem_map.mp (derived.mem_of_handsOn handsOn)
  exact ⟨tokens, scanned, t, member, same⟩

/-- A text comes to a value iff it is a formula that does. -/
theorem evaluate_eq_ok_iff {source : String} {scope : Scope} {v : Value} :
    evaluate source scope = .ok v ↔
      ∃ e, Expr.parse source = .ok e ∧ e.eval scope = .ok v := by
  unfold evaluate runProgram runProgramBy
  cases Expr.parse source with
  | error fault => simp
  | ok e => cases value : e.eval scope <;> simp [value]

/-- **Only literals escape the check.** In a scope without other numbers than finite ones, a formula
comes to a number that is not finite just when its text has that number as a token and hands it on;
all that is computed is finite, or the formula fails. So a text whose own numbers are finite comes
to no other number. -/
theorem evaluate_not_finite_iff {source : String} {scope : Scope} {ev : Evaluator}
    (faithful : ev.Faithful) (allFinite : scope.Finite) (x : Float32) :
    ((ev.evaluate source scope).1 = .ok (.number x) ∧ x.isFinite = false ↔
      ∃ e, Expr.parse source = .ok e ∧ e.HandsOn scope x ∧ x.isFinite = false) ∧
    ((∀ tokens, scan source = .ok tokens → ∀ t ∈ tokens, ∀ y, t.token = .number y → y.isFinite) →
      (ev.evaluate source scope).1 = .ok (.number x) → x.isFinite) := by
  have afresh : (ev.evaluate source scope).1 = evaluate source scope := by
    rw [Evaluator.evaluate, evaluate, ← (faithful.program source).1]
  rw [afresh]
  have cases (value : evaluate source scope = .ok (.number x)) :
      x.isFinite ∨ ∃ e, Expr.parse source = .ok e ∧ e.HandsOn scope x := by
    obtain ⟨e, parsed, value⟩ := evaluate_eq_ok_iff.mp value
    rcases allFinite.eval e _ value x rfl with finite | handsOn
    · exact .inl finite
    · exact .inr ⟨e, parsed, handsOn⟩
  refine ⟨⟨?_, ?_⟩, ?_⟩
  · rintro ⟨value, notFinite⟩
    rcases cases value with finite | ⟨e, parsed, handsOn⟩
    · rw [finite] at notFinite
      cases notFinite
    · exact ⟨e, parsed, handsOn, notFinite⟩
  · rintro ⟨e, parsed, handsOn, notFinite⟩
    exact ⟨evaluate_eq_ok_iff.mpr ⟨e, parsed, handsOn.eval_eq⟩, notFinite⟩
  · intro literals value
    rcases cases value with finite | ⟨e, parsed, handsOn⟩
    · exact finite
    · obtain ⟨tokens, scanned, t, member, same⟩ := exists_token_of_handsOn parsed handsOn
      exact literals tokens scanned t member x same

/-- What the first frame shows to a formula without objects. -/
def opening : Scope :=
  { frame := 0, t := 0, width := 800, height := 600, objects := .empty, parent := none }

theorem opening_finite : opening.Finite := by
  refine ⟨by decide, rfl, rfl, rfl, ?_, ?_⟩
  · intro id field x held
    cases held
  · intro position held
    cases held

/-- A choice that hands on a literal beyond all numbers, and a product that does not. -/
theorem evaluate_not_finite_iff_choice :
    Evaluator.fresh.Faithful ∧ opening.Finite ∧
      (∃ e, Expr.parse "t < 1 ? 1e39 : 2" = .ok e ∧ e.HandsOn opening Binary32.infinity ∧
        Binary32.infinity.isFinite = false) ∧
      (Evaluator.fresh.evaluate "2 * t" opening).1 = .ok (.number 0) ∧ (0 : Float32).isFinite := by
  have value : (Evaluator.fresh.evaluate "t < 1 ? 1e39 : 2" opening).1 =
      .ok (.number Binary32.infinity) := by decide +kernel
  have computed : (Evaluator.fresh.evaluate "2 * t" opening).1 = .ok (.number 0) := rfl
  have scanned : scan "2 * t" = .ok [⟨.number 2, 0⟩, ⟨.symbol .star, 2⟩, ⟨.name "t", 4⟩] := rfl
  have literals : ∀ tokens, scan "2 * t" = .ok tokens → ∀ t ∈ tokens, ∀ y,
      t.token = .number y → y.isFinite := by
    intro tokens read t member y same
    cases scanned.symm.trans read
    simp only [List.mem_cons, List.not_mem_nil, or_false] at member
    rcases member with rfl | rfl | rfl
    · cases same
      rfl
    · cases same
    · cases same
  exact ⟨.fresh, opening_finite,
    (evaluate_not_finite_iff .fresh opening_finite _).1.mp ⟨value, rfl⟩, computed,
    (evaluate_not_finite_iff .fresh opening_finite 0).2 literals computed⟩

/-- A literal too large for single precision comes out infinite, though its sign is enough for the
formula to fail. -/
theorem evaluate_oversized_literal :
    opening.Finite ∧
      (Evaluator.fresh.evaluate "1e39" opening).1 = .ok (.number Binary32.infinity) ∧
      Binary32.infinity.isFinite = false ∧
      (Evaluator.fresh.evaluate "+1e39" opening).1 = .error (.eval .nonFinite) :=
  ⟨opening_finite, by decide +kernel, rfl, by decide +kernel⟩

end Playfield.Formula
