import Playfield.Formula.Eval

/-!
A formula that has a value keeps it where more is shown.

A scope is shown in a wider one if every field of its objects is there with the same value, and its
parent if it has one. What succeeds in the scope comes to the same value in the wider one, step by
step (`Persists`): nothing that a formula can do turns a missing name, field or parent into a value,
neither a choice between formulas nor a key that is computed itself (`eval_of_shownIn`).
-/

namespace Playfield.Formula

/-! ### Computations that keep their value -/

/-- Where the first computation succeeds the second does, with the same value. -/
def Persists {ε α : Type} (first second : Except ε α) : Prop :=
  ∀ a, first = .ok a → second = .ok a

namespace Persists

variable {ε α β : Type}

theorem refl (x : Except ε α) : Persists x x :=
  fun _ value => value

theorem error (e : ε) (x : Except ε α) : Persists (.error e) x := by
  intro a value
  cases value

/-- Steps that keep their values keep them together. -/
theorem bind {x y : Except ε α} {f g : α → Except ε β} (first : Persists x y)
    (rest : ∀ a, Persists (f a) (g a)) : Persists (x >>= f) (y >>= g) := by
  intro b value
  cases held : x with
  | error e =>
    rw [held] at value
    cases value
  | ok a =>
    rw [held] at value
    rw [first a held]
    exact rest a b value

end Persists

/-! ### Wider scopes -/

/-- A field of an object that a formula can see. -/
def Scope.field? (scope : Scope) (id field : String) : Option Float32 :=
  (scope.objects.get? id).bind (·.get? field)

/-- The wider scope shows all that the other one does, with the same values. -/
structure Scope.ShownIn (scope wider : Scope) : Prop where
  frame : wider.frame = scope.frame
  t : wider.t = scope.t
  width : wider.width = scope.width
  height : wider.height = scope.height
  field : ∀ id field value, scope.field? id field = some value → wider.field? id field = some value
  parent : ∀ position, scope.parent = some position → wider.parent = some position

/-- A field of an object comes to the number that the scope shows. -/
theorem Scope.objectField_eq_ok_iff {scope : Scope} {id field : String} {v : Value} :
    scope.objectField id field = .ok v ↔ ∃ x, scope.field? id field = some x ∧ v = .number x := by
  unfold Scope.objectField Scope.field?
  cases scope.objects.get? id with
  | none => simp
  | some fields =>
    cases held : fields.get? field with
    | none => simp [held]
    | some x => simp [held, eq_comm]

namespace Scope.ShownIn

variable {scope wider : Scope}

section Names

variable (shown : scope.ShownIn wider)

include shown

/-- A name means the same in a wider scope. -/
theorem identifier (id : String) : wider.identifier id = scope.identifier id := by
  simp only [Scope.identifier, shown.frame, shown.t, shown.width, shown.height]

/-- A field of an object keeps its value in a wider scope. -/
theorem objectField (id field : String) :
    Persists (scope.objectField id field) (wider.objectField id field) := by
  intro v value
  obtain ⟨x, held, rfl⟩ := Scope.objectField_eq_ok_iff.mp value
  exact Scope.objectField_eq_ok_iff.mpr ⟨x, shown.field id field x held, rfl⟩

theorem parentField (field : String) :
    Persists (scope.parentField field) (wider.parentField field) := by
  unfold Scope.parentField
  cases held : scope.parent with
  | none => exact .error _ _
  | some position =>
    rw [shown.parent position held]
    exact .refl _

theorem path (root : String) (keys : List String) :
    Persists (scope.path root keys) (wider.path root keys) := by
  unfold Scope.path
  split
  · split
    · exact shown.objectField _ _
    · exact .error _ _
  · split
    · exact shown.parentField _
    · exact .error _ _
  · exact .error _ _

end Names

/-! ### Formulas -/

mutual

/-- A formula keeps its value in a wider scope. -/
theorem eval (shown : scope.ShownIn wider) : (e : Expr) → Persists (e.eval scope) (e.eval wider)
  | .number _ | .text _ | .truth _ => .refl _
  | .name id => by
    rw [Expr.eval, Expr.eval, Expr.evalM, Expr.evalM, shown.identifier]
    exact .refl _
  | .member object field => by
    rw [Expr.eval, Expr.eval, Expr.evalM, Expr.evalM]
    exact .bind (shown.root object) fun (_, _) => shown.path _ _
  | .index object key => by
    rw [Expr.eval, Expr.eval, Expr.evalM, Expr.evalM]
    exact .bind (shown.root object) fun (_, _) => .bind (shown.eval key) fun _ => shown.path _ _
  | .unary op operand => by
    rw [Expr.eval, Expr.eval, Expr.evalM, Expr.evalM]
    exact .bind (shown.eval operand) fun _ => .refl _
  | .binary op left right => by
    rw [Expr.eval, Expr.eval, Expr.evalM, Expr.evalM]
    refine .bind (shown.eval left) fun l => ?_
    have both : Persists (right.eval scope >>= fun r => .ok (Value.truth r.truthy))
        (right.eval wider >>= fun r => .ok (Value.truth r.truthy)) :=
      .bind (shown.eval right) fun _ => .refl _
    -- What the left side settles is settled without the right one in either scope.
    cases op with
    | and =>
      dsimp only
      split
      · exact both
      · exact .refl _
    | or =>
      dsimp only
      split
      · exact .refl _
      · exact both
    | _ => exact .bind (shown.eval right) fun _ => .refl _
  | .conditional condition yes no => by
    rw [Expr.eval, Expr.eval, Expr.evalM, Expr.evalM]
    refine .bind (shown.eval condition) fun chosen => ?_
    split
    · exact shown.eval yes
    · exact shown.eval no
  | .call function args => by
    rw [Expr.eval, Expr.eval, Expr.evalM, Expr.evalM]
    exact .bind (shown.arguments args) fun _ => .refl _

/-- The keys of a path are values of formulas, and the same ones. -/
theorem root (shown : scope.ShownIn wider) : (e : Expr) → Persists (e.root scope) (e.root wider)
  | .name _ => .refl _
  | .member object field => by
    rw [Expr.root, Expr.root, Expr.rootM, Expr.rootM]
    exact .bind (shown.root object) fun (_, _) => .refl _
  | .index object key => by
    rw [Expr.root, Expr.root, Expr.rootM, Expr.rootM]
    exact .bind (shown.root object) fun (_, _) => .bind (shown.eval key) fun _ => .refl _
  | .number _ | .text _ | .truth _ | .unary _ _ | .binary _ _ _ | .conditional _ _ _
  | .call _ _ => .error _ _

theorem arguments (shown : scope.ShownIn wider) :
    (args : List Expr) → Persists (evalArguments scope args) (evalArguments wider args)
  | [] => .refl _
  | first :: rest => by
    rw [evalArguments, evalArguments, evalArgumentsM, evalArgumentsM]
    exact .bind (shown.eval first) fun _ => .bind (shown.arguments rest) fun _ => .refl _

end

end Scope.ShownIn

/-- **A formula keeps its value where more is shown.** Other objects, further fields and a parent
where there was none leave the value of a formula that has one as it is. -/
theorem eval_of_shownIn {scope wider : Scope} (shown : scope.ShownIn wider) (e : Expr) (v : Value)
    (value : e.eval scope = .ok v) : e.eval wider = .ok v :=
  shown.eval e v value

/-- One object, as its own formulas see it, and another one that has come in since. -/
def solo : Scope :=
  { frame := 3, t := 0.5, width := 800, height := 600, parent := none,
    objects := IdMap.empty.insert "ball3" (IdMap.empty.insert "x" 40) }

def duet : Scope :=
  { solo with
    parent := some ⟨1, 2⟩
    objects := (IdMap.empty.insert "ball3" ((IdMap.empty.insert "x" 40).insert "y" 7)).insert
      "wall" (IdMap.empty.insert "x" 0) }

/-- The id is put together by the formula. -/
def tracked : Expr :=
  .conditional (.binary .less (.name "t") (.number 1))
    (.member (.index (.name "objects") (.binary .add (.text "ball") (.name "frame"))) "x")
    (.member (.name "parent") "x")

/-- A formula that follows one object keeps its value when another one comes in. -/
theorem eval_of_shownIn_tracked :
    solo.ShownIn duet ∧ tracked.eval solo = .ok (.number 40) ∧
      tracked.eval duet = .ok (.number 40) := by
  have shown : solo.ShownIn duet := by
    refine ⟨rfl, rfl, rfl, rfl, ?_, ?_⟩
    · intro id field value held
      simp only [Scope.field?, solo, duet, IdMap.get?_insert] at held ⊢
      grind [IdMap.get?_insert, IdMap.get?_empty]
    · intro position held
      cases held
  have value : tracked.eval solo = .ok (.number 40) := rfl
  exact ⟨shown, value, eval_of_shownIn shown tracked _ value⟩

end Playfield.Formula
