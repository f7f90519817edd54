import Playfield.Frame
import Playfield.Proofs.Agent.Plain

/-!
What objects come to, written without a monad.

Each lemma opens a function of `Id` down to the plain functions that it calls.
-/

namespace Playfield.Frame

open Formula (Animated Color Published settleNumber settleTruth settleText settleColor
  settleNumberM settleTextM settleColorM)

variable (ctx : FrameContext)

/-- The snapshot has every agent in its state, or in the one in which it starts. -/
theorem snapshot_eq (objects : List SceneObject) (previous : AgentStates) :
    snapshot objects previous ctx =
      IdMap.ofList ((objects.filter (·.isAgent)).map fun o =>
        (o.id, (previous.get? o.id).getD (AgentState.spawn o ctx))) := by
  unfold snapshot snapshotM
  rw [Id.run_bind, List.idRun_mapM]
  simp only [Id.run_bind, AgentState.run_orSpawnM]
  rfl

/-- An agent moves by the force of its behaviors, within its greatest speed. -/
theorem integrate_eq (agent : Agent) (context : SteeringContext) (s : AgentState) :
    integrate agent context ctx s =
      let driven := steeringForce (s.behaviorOverride.getD agent.behaviors) context
        ⟨s, frameRandom ctx.seed ctx.frame context.id⟩
      move agent context.params ctx.canvas driven.1 driven.2.state := rfl

/-- An agent steps to the place that is set for it, or moves. -/
theorem stepAgent_eq (o : SceneObject) (agent : Agent) (snap : AgentStates)
    (published : Published) :
    stepAgent o agent snap published ctx =
      let s := (snap.get? o.id).getD { position := Vec2.zero }
      match s.keyframe with
      | some position => { s with position := position, velocity := Vec2.zero, keyframe := none }
      | none => integrate agent ⟨o.id, agent.params, snap, published⟩ ctx s := by
  unfold stepAgent stepAgentM
  generalize (snap.get? o.id).getD { position := Vec2.zero } = s
  dsimp only
  cases s.keyframe <;> rfl

section Settling

variable (scope : Formula.Scope)

/-- In `Id` a number is settled as it is by itself. -/
@[simp]
theorem run_settleNumberM (value : Option (Animated Float32)) (fallback : Float32) :
    (settleNumberM value fallback scope : Id Float32).run = settleNumber value fallback scope := rfl

@[simp]
theorem run_settleTextM (value : Option (Animated String)) (fallback : String) :
    (settleTextM value fallback scope : Id String).run = settleText value fallback scope := rfl

@[simp]
theorem run_settleColorM (value : Option (Animated Color)) (fallback : Color) :
    (settleColorM value fallback scope : Id Color).run = settleColor value fallback scope := rfl

/-- In `Id` a brush is made of the settled colors. -/
@[simp]
theorem run_brushM (p : Paint) (fill stroke : Color) :
    (brushM p fill stroke scope : Id Brush).run =
      ⟨settleColor p.fill fill scope, settleColor p.stroke stroke scope,
        p.strokeWidth.getD 1⟩ := rfl

@[simp]
theorem run_sizeM (width height : Option (Animated Float32)) (fallback : Float32) :
    (sizeM width height fallback scope : Id Vec2).run =
      ⟨settleNumber width fallback scope, settleNumber height fallback scope⟩ := rfl

end Settling

theorem anchor_eq (o : SceneObject) (scope : Formula.Scope) :
    anchor o scope = ⟨settleNumber o.x 0 scope, settleNumber o.y 0 scope⟩ := rfl

/-- Whatever is drawn at a position is there. -/
theorem run_figureM? (o : SceneObject) (place : Id Vec2) (scope : Formula.Scope) :
    (figureM? o place scope).run = (place.run, figure? o place.run scope) := by
  unfold figure? figureM?
  cases o.kind <;> rfl

/-- An object enters with its figure and its settled opacity. -/
theorem Progress.enter_eq (p : Progress) (o : SceneObject) (position : Vec2)
    (velocity : Option Vec2) (scope : Formula.Scope) :
    p.enter o position velocity scope =
      p.withFigure o position velocity (figure? o position scope)
        (settleNumber o.opacity 1 scope) := by
  unfold Progress.enter Progress.enterM
  rw [Id.run_bind, run_figureM?]
  rfl

section Enter

variable (p : Progress) (o : SceneObject) (position : Vec2) (velocity : Option Vec2)
  (scope : Formula.Scope)

@[simp]
theorem Progress.enter_states : (p.enter o position velocity scope).states = p.states := by
  rw [enter_eq, withFigure]

/-- Entering publishes the fields of the object. -/
@[simp]
theorem Progress.enter_published :
    (p.enter o position velocity scope).published =
      p.published.insert o.id
        (fields position (figure? o position scope) velocity (settleNumber o.opacity 1 scope)) := by
  rw [enter_eq, withFigure]

/-- Entering draws the figure of the object, if it has one. -/
@[simp]
theorem Progress.enter_commands :
    (p.enter o position velocity scope).commands =
      p.commands ++ ((figure? o position scope).map fun f =>
        ⟨o.id, f, settleNumber o.opacity 1 scope, o.layer⟩).toList := by
  rw [enter_eq, withFigure]

/-- Entering makes the entry of the object. -/
@[simp]
theorem Progress.enter_objects :
    (p.enter o position velocity scope).objects =
      p.objects.insert o.id
        ⟨o.id, o.kind.name, position, settleNumber o.opacity 1 scope, o.layer⟩ := by
  rw [enter_eq, withFigure]

end Enter

/-- A visible object enters, an agent after its step; the state of a hidden one is carried over. -/
theorem Progress.resolve_eq (snap : AgentStates) (p : Progress) (o : SceneObject) :
    p.resolve ctx snap o =
      if settleTruth o.visible true (p.scope ctx o) then
        match o.kind with
        | .unknown => p
        | .agent agent =>
          let next := stepAgent o agent snap p.published ctx
          { p.enter o next.position (some next.velocity) (p.scope ctx o) with
            states := p.states.insert o.id next }
        | _ => p.enter o (anchor o (p.scope ctx o)) none (p.scope ctx o)
      else p.carry snap o.id := by
  unfold Progress.resolve Progress.resolveM
  rw [Id.run_bind]
  change Id.run (if settleTruth o.visible true (p.scope ctx o) then _ else _) = _
  split
  · cases o.kind <;> rfl
  · rfl

/-- A frame resolves the objects in their order, from the states with which it begins. -/
theorem resolve_eq (scene : Scene) (previous : AgentStates) :
    resolve scene ctx previous =
      let objects := Order.dependencyOrder scene.objects
      let final := objects.foldl (Progress.resolve ctx (snapshot objects previous ctx))
        Progress.start
      ⟨DrawCommand.sortByLayer final.commands, final.objects, final.states⟩ := by
  unfold resolve resolveOrderedM
  rw [Id.run_bind, Id.run_bind, List.idRun_foldlM]
  rfl

end Playfield.Frame
