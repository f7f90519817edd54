import Mathlib.Data.List.Forall2
import Playfield.Order
import Playfield.Proofs.Agent.Plain

/-!
Properties whose formulas cannot be read.

A scene sheds broken properties when any of its objects lose any of their formulas that do not parse
(`Scene.Sheds`). Whatever fallback a property is settled with, the broken formula comes to it just
as the absent property does (`Formula.Sheds.settle`). An object that sheds properties keeps its id
and its parent, so the objects are resolved in the same order (`Order.dependencyOrder_forall₂`), and
an agent among them starts in the same state (`SceneObject.Sheds.spawn`).
-/

namespace Playfield

open Formula (Animated Color)

namespace Formula

variable {α : Type}

/-- A property, and the same property or, where it is a formula that does not parse, none. -/
inductive Sheds : Option (Animated α) → Option (Animated α) → Prop where
  | kept (value : Option (Animated α)) : Sheds value value
  | dropped {source : String} {error : ParseError} :
      Expr.parse source = .error error → Sheds (some (.formula source)) none

namespace Sheds

variable {value value' : Option (Animated α)}

/-- **A broken formula settles as an absent property does**, whatever the property falls back to. -/
theorem settle (sheds : Sheds value value') (read : Value → Option α) (fallback : α)
    (scope : Scope) :
    Formula.settle read value' fallback scope = Formula.settle read value fallback scope := by
  cases sheds with
  | kept => rfl
  | dropped broken =>
    simp only [Formula.settle, settleBy, evaluate, runProgram, runProgramBy, broken, suited,
      pure_bind, Id.run_pure]

/-- A number that cannot be parsed settles like one that is absent. -/
theorem number {value value' : Option (Animated Float32)} (sheds : Sheds value value')
    (fallback : Float32) (scope : Scope) :
    settleNumber value' fallback scope = settleNumber value fallback scope :=
  sheds.settle Value.finiteNumber? fallback scope

theorem truth {value value' : Option (Animated Bool)} (sheds : Sheds value value')
    (fallback : Bool) (scope : Scope) :
    settleTruth value' fallback scope = settleTruth value fallback scope :=
  sheds.settle Value.truth? fallback scope

theorem text {value value' : Option (Animated String)} (sheds : Sheds value value')
    (fallback : String) (scope : Scope) :
    settleText value' fallback scope = settleText value fallback scope :=
  sheds.settle Value.text? fallback scope

theorem color {value value' : Option (Animated Color)} (sheds : Sheds value value')
    (fallback : Color) (scope : Scope) :
    settleColor value' fallback scope = settleColor value fallback scope :=
  sheds.settle Value.color? fallback scope

end Sheds

end Formula

/-! ### Objects and scenes -/

/-- A paint that loses broken properties. -/
structure Paint.Sheds (p p' : Paint) : Prop where
  fill : Formula.Sheds p.fill p'.fill
  stroke : Formula.Sheds p.stroke p'.stroke
  rest : p' = { p with fill := p'.fill, stroke := p'.stroke }

structure Ellipse.Sheds (e e' : Ellipse) : Prop where
  width : Formula.Sheds e.width e'.width
  height : Formula.Sheds e.height e'.height
  paint : e.paint.Sheds e'.paint

structure Rect.Sheds (r r' : Rect) : Prop where
  width : Formula.Sheds r.width r'.width
  height : Formula.Sheds r.height r'.height
  paint : r.paint.Sheds r'.paint
  rest : r' = { r with width := r'.width, height := r'.height, paint := r'.paint }

structure Line.Sheds (l l' : Line) : Prop where
  x2 : Formula.Sheds l.x2 l'.x2
  y2 : Formula.Sheds l.y2 l'.y2
  stroke : Formula.Sheds l.stroke l'.stroke
  rest : l' = { l with x2 := l'.x2, y2 := l'.y2, stroke := l'.stroke }

structure Arc.Sheds (a a' : Arc) : Prop where
  radiusX : Formula.Sheds a.radiusX a'.radiusX
  radiusY : Formula.Sheds a.radiusY a'.radiusY
  startAngle : Formula.Sheds a.startAngle a'.startAngle
  endAngle : Formula.Sheds a.endAngle a'.endAngle
  paint : a.paint.Sheds a'.paint
  counterclockwise : a'.counterclockwise = a.counterclockwise

structure Label.Sheds (t t' : Label) : Prop where
  text : Formula.Sheds t.text t'.text
  fill : Formula.Sheds t.fill t'.fill
  rest : t' = { t with text := t'.text, fill := t'.fill }

structure Agent.Sheds (agent agent' : Agent) : Prop where
  width : Formula.Sheds agent.width agent'.width
  height : Formula.Sheds agent.height agent'.height
  paint : agent.paint.Sheds agent'.paint
  rest : agent' =
    { agent with width := agent'.width, height := agent'.height, paint := agent'.paint }

inductive ObjectKind.Sheds : ObjectKind → ObjectKind → Prop where
  | ellipse {e e' : Ellipse} : e.Sheds e' → Sheds (.ellipse e) (.ellipse e')
  | rect {r r' : Rect} : r.Sheds r' → Sheds (.rect r) (.rect r')
  | line {l l' : Line} : l.Sheds l' → Sheds (.line l) (.line l')
  | arc {a a' : Arc} : a.Sheds a' → Sheds (.arc a) (.arc a')
  | text {t t' : Label} : t.Sheds t' → Sheds (.text t) (.text t')
  | group : Sheds .group .group
  | agent {agent agent' : Agent} : agent.Sheds agent' → Sheds (.agent agent) (.agent agent')
  | unknown : Sheds .unknown .unknown

/-- An object that loses broken properties, and nothing else. -/
structure SceneObject.Sheds (o o' : SceneObject) : Prop where
  x : Formula.Sheds o.x o'.x
  y : Formula.Sheds o.y o'.y
  opacity : Formula.Sheds o.opacity o'.opacity
  visible : Formula.Sheds o.visible o'.visible
  kind : o.kind.Sheds o'.kind
  rest : o' =
    { o with x := o'.x, y := o'.y, opacity := o'.opacity, visible := o'.visible, kind := o'.kind }

/-- A scene some of whose objects lose broken properties. -/
structure Scene.Sheds (scene scene' : Scene) : Prop where
  objects : List.Forall₂ SceneObject.Sheds scene.objects scene'.objects
  rest : scene' = { scene with objects := scene'.objects }

/-- The kind of an object stays the same. -/
theorem ObjectKind.Sheds.name {kind kind' : ObjectKind} (sheds : kind.Sheds kind') :
    kind'.name = kind.name := by
  cases sheds <;> rfl

/-- No formula decides how an agent moves. -/
theorem Agent.Sheds.spawnVelocity {agent agent' : Agent} (sheds : agent.Sheds agent') :
    AgentState.spawnVelocity agent' = AgentState.spawnVelocity agent := by
  rw [sheds.rest]
  rfl

namespace SceneObject.Sheds

variable {o o' : SceneObject} (sheds : o.Sheds o')

include sheds

/-- The id of an object stays the same. -/
theorem id : o'.id = o.id := by
  rw [sheds.rest]

theorem parent : o'.parent = o.parent := by
  rw [sheds.rest]

theorem layer : o'.layer = o.layer := by
  rw [sheds.rest]

/-- An object stays an agent or no agent. -/
theorem agent? : (o.agent? = none ∧ o'.agent? = none) ∨
    ∃ agent agent', o.agent? = some agent ∧ o'.agent? = some agent' ∧ agent.Sheds agent' := by
  obtain ⟨_, _, _, _, _, _, _, _, kind⟩ := o
  obtain ⟨_, _, _, _, _, _, _, _, kind'⟩ := o'
  have kinds : kind.Sheds kind' := sheds.kind
  clear sheds
  cases kinds with
  | @agent agent agent' agents => exact .inr ⟨agent, agent', rfl, rfl, agents⟩
  | _ => exact .inl ⟨rfl, rfl⟩

/-- An object stays an agent, or none. -/
theorem isAgent : o'.isAgent = o.isAgent := by
  rcases sheds.agent? with ⟨none, none'⟩ | ⟨agent, agent', some, some', -⟩
  · rw [SceneObject.isAgent, SceneObject.isAgent, none, none']
  · rw [SceneObject.isAgent, SceneObject.isAgent, some, some']
    rfl

/-- An agent starts in the same state. -/
theorem spawn (ctx : FrameContext) : AgentState.spawn o' ctx = AgentState.spawn o ctx := by
  rw [AgentState.spawn_eq, AgentState.spawn_eq]
  unfold AgentState.startAt
  rw [sheds.x.number, sheds.y.number, sheds.id]
  rcases sheds.agent? with ⟨none, none'⟩ | ⟨agent, agent', some, some', agents⟩
  · simp only [none, none']
  · simp only [some, some', agents.spawnVelocity]

end SceneObject.Sheds

/-! ### The order of resolution -/

section Related

variable {R : SceneObject → SceneObject → Prop} {objects objects' : List SceneObject}

theorem map_eq_of_forall₂ {β : Type} {f : SceneObject → β}
    (related : List.Forall₂ R objects objects') (same : ∀ o o', R o o' → f o' = f o) :
    objects'.map f = objects.map f := by
  induction related with
  | nil => rfl
  | cons first _ ih => rw [List.map_cons, List.map_cons, same _ _ first, ih]

/-- Related lists have related objects at the same places. -/
theorem getElem?_of_forall₂ (related : List.Forall₂ R objects objects') (i : Nat) :
    (objects[i]? = none ∧ objects'[i]? = none) ∨
      ∃ o o', objects[i]? = some o ∧ objects'[i]? = some o' ∧ R o o' := by
  induction related generalizing i with
  | nil => exact .inl ⟨rfl, rfl⟩
  | @cons o o' _ _ first _ ih =>
    cases i with
    | zero => exact .inr ⟨o, o', rfl, rfl, first⟩
    | succ i => simpa using ih i

/-- Objects that are related one by one, with the same ids and the same parents, are related one by
one in the order of their resolution. -/
theorem Order.dependencyOrder_forall₂ (related : List.Forall₂ R objects objects')
    (ids : ∀ o o', R o o' → o'.id = o.id) (parents : ∀ o o', R o o' → o'.parent = o.parent) :
    List.Forall₂ R (dependencyOrder objects) (dependencyOrder objects') := by
  have named (id : String) :
      objects'.findIdx? (·.id == id) = objects.findIdx? (·.id == id) := by
    have found := congrArg (List.findIdx? (· == id)) (map_eq_of_forall₂ related ids)
    rwa [List.findIdx?_map, List.findIdx?_map] at found
  have links : linksOf objects' = linksOf objects := by
    unfold linksOf
    simp only [named]
    exact congrArg List.toArray (map_eq_of_forall₂ related fun o o' first => by
      rw [parents o o' first])
  unfold dependencyOrder dependencyIndices
  rw [links]
  induction indices (linksOf objects) with
  | nil => exact .nil
  | cons i rest ih =>
    simp only [List.filterMap_cons, List.getElem?_toArray] at ih ⊢
    rcases getElem?_of_forall₂ related i with ⟨none, none'⟩ | ⟨o, o', some, some', first⟩
    · rw [none, none']
      exact ih
    · rw [some, some']
      exact .cons first ih

end Related

end Playfield
