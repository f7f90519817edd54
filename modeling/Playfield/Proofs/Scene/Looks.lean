import Mathlib.Data.List.Basic
import Playfield.Order
import Playfield.Proofs.Agent.Plain

/-!
Scenes without their looks.

`Scene.bare` takes from every object what only decides how it is drawn: its paint, its corners, its
text, the angles of an arc, its layer and its trail. The objects without their looks are found
under the same ids, resolved in the same order and started in the same states.
-/

namespace Playfield

def Agent.bare (agent : Agent) : Agent :=
  { agent with paint := {} }

/-- What an object is, apart from how it is drawn. -/
def ObjectKind.bare : ObjectKind → ObjectKind
  | .ellipse e => .ellipse { e with paint := {} }
  | .rect r => .rect { r with borderRadius := none, paint := {} }
  | .line l => .line { l with stroke := none, strokeWidth := none }
  | .arc a => .arc { radiusX := a.radiusX, radiusY := a.radiusY }
  | .text _ => .text {}
  | .group => .group
  | .agent a => .agent a.bare
  | .unknown => .unknown

/-- An object without its looks. -/
def SceneObject.bare (o : SceneObject) : SceneObject :=
  { o with layer := 0, trail := none, kind := o.kind.bare }

/-- A scene of objects without their looks. Two scenes differ in the looks of their objects only if
this leaves the same of both. -/
def Scene.bare (scene : Scene) : Scene :=
  { scene with objects := scene.objects.map (·.bare) }

/-! ### The order of resolution -/

/-- Whatever else is changed about the objects, the order looks at their ids and their parents. -/
theorem Order.dependencyOrder_map {f : SceneObject → SceneObject} (ids : ∀ o, (f o).id = o.id)
    (parents : ∀ o, (f o).parent = o.parent) (objects : List SceneObject) :
    dependencyOrder (objects.map f) = (dependencyOrder objects).map f := by
  have links : linksOf (objects.map f) = linksOf objects := by
    simp only [linksOf, List.map_map, List.findIdx?_map, Function.comp_def, ids, parents]
  have indices : dependencyIndices (objects.map f) = dependencyIndices objects := by
    rw [dependencyIndices, links, dependencyIndices]
  simp only [dependencyOrder, indices, List.map_filterMap]
  refine List.filterMap_congr fun i _ => ?_
  simp

/-- Objects are resolved in the same order whatever their looks. -/
theorem Scene.dependencyOrder_bare (scene : Scene) :
    Order.dependencyOrder scene.bare.objects =
      (Order.dependencyOrder scene.objects).map (·.bare) :=
  Order.dependencyOrder_map (f := SceneObject.bare) (fun _ => rfl) (fun _ => rfl) scene.objects

/-! ### Agents -/

namespace SceneObject

variable (o : SceneObject)

/-- The agent of an object without looks is its agent without looks. -/
theorem agent?_bare : o.bare.agent? = o.agent?.map Agent.bare := by
  unfold agent? bare
  cases o.kind <;> rfl

theorem isAgent_bare : o.bare.isAgent = o.isAgent := by
  rw [isAgent, agent?_bare, Option.isSome_map, isAgent]

theorem name_bare : o.bare.kind.name = o.kind.name := by
  unfold bare
  cases o.kind <;> rfl

end SceneObject

/-- Where an agent starts does not depend on looks. -/
theorem AgentState.spawn_bare (o : SceneObject) (ctx : FrameContext) :
    spawn o.bare ctx = spawn o ctx := by
  rw [spawn_eq, spawn_eq]
  unfold startAt
  rw [SceneObject.agent?_bare]
  cases o.agent? <;> rfl

namespace Scene

variable (scene : Scene)

/-- An id belongs to the same object without looks. -/
theorem find?_bare (id : String) : scene.bare.find? id = (scene.find? id).map (·.bare) := by
  simp only [find?, bare, List.find?_map]
  rfl

/-- The agent found under an id is the same, its looks aside. -/
theorem filter_find?_bare (id : String) :
    (scene.bare.find? id).filter (·.isAgent) =
      ((scene.find? id).filter (·.isAgent)).map (·.bare) := by
  rw [find?_bare, Option.filter_map]
  simp only [Function.comp_def, SceneObject.isAgent_bare]

theorem agents_bare : scene.bare.agents = scene.agents.map (·.bare) := by
  simp only [agents, bare, List.filter_map, Function.comp_def, SceneObject.isAgent_bare]

end Scene

end Playfield
