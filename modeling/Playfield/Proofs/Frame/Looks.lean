import Playfield.Proofs.Agent.Writes
import Playfield.Proofs.Frame.Turn
import Playfield.Proofs.Scene.Looks

/-!
Looks have no part in resolving a frame.

Cues do to the agents of a scene what they do to those of the scene without its looks
(`Cue.applyAll_bare`). An object without its looks publishes the same fields and leaves the same
state, and its entry differs by the layer at most (`Progress.SameButLooks.resolve`), so a frame of
the scene without its looks differs from the frame of the scene in its commands and in the layers of
its entries only (`sameButLooks_resolve`).
-/

namespace Playfield

/-! ### Cues -/

namespace Cue

variable (scene : Scene) (ctx : FrameContext) (states : AgentStates)

/-- A change does not depend on looks. -/
theorem change_bare (id : String) (f : AgentState → AgentState) :
    change scene.bare ctx states id f = change scene ctx states id f := by
  rw [change_eq, change_eq, Scene.filter_find?_bare]
  cases (scene.find? id).filter (·.isAgent) with
  | none => rfl
  | some o => simp only [Option.map_some, AgentState.spawn_bare]

theorem applyAll_bare : applyAll scene.bare ctx states = applyAll scene ctx states := by
  have agents : scene.bare.agents.map (·.id) = scene.agents.map (·.id) := by
    rw [Scene.agents_bare, List.map_map]
    rfl
  have same : SameScript scene scene.bare := ⟨rfl, rfl, rfl, agents⟩
  exact applyAll_congr same (change_bare scene ctx) states

end Cue

/-! ### Entries -/

def ResolvedObject.bare (entry : ResolvedObject) : ResolvedObject :=
  { entry with layer := 0 }

/-- The entries of two frames are the same under every id, up to their layers: the same objects are
visible, of the same kinds, at the same positions and with the same opacities. -/
def ResolvedObjects.SameButLayers (objects objects' : ResolvedObjects) : Prop :=
  ∀ id, (objects'.get? id).map ResolvedObject.bare = (objects.get? id).map ResolvedObject.bare

namespace ResolvedObjects.SameButLayers

variable {objects objects' : ResolvedObjects}

theorem refl (objects : ResolvedObjects) : SameButLayers objects objects :=
  fun _ => rfl

/-- Entries that are the same up to layers stand at the same positions. -/
theorem position (same : SameButLayers objects objects') (id : String) :
    (objects'.get? id).map (·.position) = (objects.get? id).map (·.position) := by
  have places := congrArg (Option.map (·.position)) (same id)
  rwa [Option.map_map, Option.map_map] at places

/-- Entries stay the same up to layers when such entries are inserted. -/
theorem insert (same : SameButLayers objects objects') (id : String)
    {entry entry' : ResolvedObject} (alike : entry'.bare = entry.bare) :
    SameButLayers (objects.insert id entry) (objects'.insert id entry') := by
  intro other
  rw [IdMap.get?_insert, IdMap.get?_insert]
  split
  · exact congrArg some alike
  · exact same other

end ResolvedObjects.SameButLayers

namespace Frame

/-! ### Resolving one object -/

section Resolve

variable {ctx : FrameContext} {snap : AgentStates} {o : SceneObject} {p p' : Progress}

/-- No field that an object publishes is about its looks. -/
theorem figureFields_bare (position : Vec2) (scope : Formula.Scope) :
    figureFields (figure? o.bare position scope) = figureFields (figure? o position scope) := by
  unfold figure? figureM? SceneObject.bare
  cases o.kind <;> rfl

/-- Two stages of a frame that differ at most in what looks decide. -/
structure Progress.SameButLooks (p p' : Progress) : Prop where
  published : p'.published = p.published
  states : p'.states = p.states
  objects : p.objects.SameButLayers p'.objects

namespace Progress.SameButLooks

variable (same : p.SameButLooks p')

include same

/-- The formulas of an object see the same. -/
theorem scope : p'.scope ctx o.bare = p.scope ctx o := by
  have parent : (o.bare.parent.bind p'.objects.get?).map (·.position) =
      (o.parent.bind p.objects.get?).map (·.position) := by
    change (o.parent.bind p'.objects.get?).map (·.position) = _
    cases o.parent with
    | none => rfl
    | some id => exact same.objects.position id
  unfold Progress.scope
  rw [parent, same.published]

/-- An object enters alike but for its looks. -/
theorem enter (position : Vec2) (velocity : Option Vec2) (scope : Formula.Scope) :
    (p.enter o position velocity scope).SameButLooks
      (p'.enter o.bare position velocity scope) := by
  rw [Progress.enter_eq, Progress.enter_eq]
  refine ⟨?_, same.states, same.objects.insert o.id ?_⟩
  · simp only [Progress.withFigure, fields, figureFields_bare, same.published]
    rfl
  · simp only [ResolvedObject.bare, SceneObject.name_bare]
    rfl

theorem carry (id : String) : (p.carry snap id).SameButLooks (p'.carry snap id) := by
  unfold Progress.carry
  cases snap.get? id with
  | none => exact same
  | some s =>
    exact { same with states := congrArg (·.insert id { s with keyframe := none }) same.states }

/-- Resolving an object and the object without its looks keeps two stages the same, looks aside. -/
theorem resolve : (p.resolve ctx snap o).SameButLooks (p'.resolve ctx snap o.bare) := by
  have bare : o.bare.kind = o.kind.bare := rfl
  rw [Progress.resolve_eq, Progress.resolve_eq, same.scope]
  change SameButLooks _ (if Formula.settleTruth o.visible true (p.scope ctx o) then _ else _)
  split
  · cases kind : o.kind with
    | unknown =>
      rw [kind] at bare
      simp only [bare, ObjectKind.bare]
      exact same
    | agent agent =>
      rw [kind] at bare
      simp only [bare, ObjectKind.bare]
      have step : stepAgent o.bare agent.bare snap p'.published ctx =
          stepAgent o agent snap p.published ctx := by
        rw [same.published]
        rfl
      rw [step, same.states]
      have entered := same.enter (o := o) (stepAgent o agent snap p.published ctx).position
        (some (stepAgent o agent snap p.published ctx).velocity) (p.scope ctx o)
      exact { entered with states := rfl }
    | _ =>
      rw [kind] at bare
      simp only [bare, ObjectKind.bare]
      exact same.enter (anchor o (p.scope ctx o)) none (p.scope ctx o)
  · exact same.carry o.id

/-- Objects are resolved alike but for their looks. -/
theorem foldl_resolve (objects : List SceneObject) :
    (objects.foldl (Progress.resolve ctx snap) p).SameButLooks
      ((objects.map (·.bare)).foldl (Progress.resolve ctx snap) p') := by
  induction objects generalizing p p' with
  | nil => exact same
  | cons o rest ih => exact ih same.resolve

end Progress.SameButLooks

end Resolve

/-! ### Whole frames -/

/-- Two frames that leave the same states and the same entries up to their layers. -/
structure SameButLooks (f f' : Frame) : Prop where
  states : f'.states = f.states
  objects : f.objects.SameButLayers f'.objects

variable (scene : Scene) (ctx : FrameContext) (previous : AgentStates)

/-- A frame begins in the same states whatever the looks. -/
theorem startStates_bare :
    startStates scene.bare ctx previous = startStates scene ctx previous := by
  rw [startStates, startStates, Scene.dependencyOrder_bare]
  simp only [snapshot_eq, List.filter_map, List.map_map, Function.comp_def, SceneObject.isAgent_bare,
    AgentState.spawn_bare]
  rfl

/-- All turns together come to the same whatever the looks. -/
theorem sameButLooks_final :
    (final scene ctx previous).SameButLooks (final scene.bare ctx previous) := by
  have start : Progress.start.SameButLooks Progress.start := ⟨rfl, rfl, .refl .empty⟩
  rw [final, final, startStates_bare, Scene.dependencyOrder_bare]
  exact start.foldl_resolve _

/-- A frame leaves the same states and entries whatever the looks. -/
theorem sameButLooks_resolve :
    SameButLooks (resolve scene ctx previous) (resolve scene.bare ctx previous) := by
  have same := sameButLooks_final scene ctx previous
  rw [resolve_eq_final, resolve_eq_final]
  exact ⟨same.states, same.objects⟩

end Frame

end Playfield
