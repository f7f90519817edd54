import Playfield.Agent.Cue

/-!
What agents and their cues come to, written without a monad.

Each lemma opens a function of `Id` down to the plain functions that it calls.
-/

namespace Playfield

namespace AgentState

/-- An agent starts where its `x` and `y` place it. -/
theorem spawn_eq (o : SceneObject) (ctx : FrameContext) :
    spawn o ctx = startAt o ctx ⟨Formula.settleNumber o.x 0 (spawnScope ctx),
      Formula.settleNumber o.y 0 (spawnScope ctx)⟩ := rfl

theorem run_orSpawnM (state : Option AgentState) (o : SceneObject) (ctx : FrameContext) :
    (orSpawnM state o ctx : Id AgentState).run = state.getD (spawn o ctx) := by
  cases state <;> rfl

end AgentState

namespace Steering

/-- A waypoint within reach gives way to the next one, or to the first if the path is looped. -/
theorem nextWaypoint_eq (s : AgentState) (first : Vec2) (rest : List Vec2) (looped : Bool)
    (i : Nat) :
    nextWaypoint s first rest looped i =
      if s.position.distance ((first :: rest).getD i first) < waypointRadius then
        if i + 1 ≤ rest.length then i + 1 else if looped then 0 else rest.length
      else i := by
  exact apply_ite Id.run _ _ _

end Steering

/-- A behavior with a force adds it by its weight. -/
theorem addForce_eq (ctx : SteeringContext) (sum : Vec2 × Steered) (b : WeightedBehavior) :
    addForce ctx sum b =
      match Steering.force? b.behavior ctx sum.2 with
      | (some force, a) =>
        (if force.isFinite && b.weight.isFinite then sum.1 + force * b.weight else sum.1, a)
      | (none, a) => (sum.1, a) := by
  unfold addForce addForceM Steering.force?
  rw [Id.run_bind]
  match (Steering.forceM? b.behavior ctx sum.2 : Id (Option Vec2 × Steered)).run with
  | (some force, a) => rfl
  | (none, a) => rfl

/-- The steering force is the weighted sum, clamped to the greatest force of the agent. -/
theorem steeringForce_eq (behaviors : List WeightedBehavior) (ctx : SteeringContext) (a : Steered) :
    steeringForce behaviors ctx a =
      let after := behaviors.foldl (addForce ctx) (Vec2.zero, a)
      (after.1.clampLength ctx.params.maxForce, after.2) := by
  unfold steeringForce steeringForceM
  rw [Id.run_bind, List.idRun_foldlM]
  rfl

namespace Cue

variable (scene : Scene) (ctx : FrameContext) (states : AgentStates)

/-- A change reaches the state of an id whose first object is an agent. -/
theorem change_eq (id : String) (f : AgentState → AgentState) :
    change scene ctx states id f =
      match (scene.find? id).filter (·.isAgent) with
      | none => states
      | some o => states.insert id (f ((states.get? id).getD (AgentState.spawn o ctx))) := by
  unfold change changeM
  cases (scene.find? id).filter (·.isAgent) with
  | none => rfl
  | some o => exact congrArg (fun s => states.insert id (f s)) (AgentState.run_orSpawnM _ o ctx)

theorem setOverride_eq (id : String) (behaviors : List WeightedBehavior) :
    setOverride scene ctx states id behaviors =
      change scene ctx states id fun s => { s with behaviorOverride := some behaviors } := rfl

/-- A timeout assigns no behaviors to every agent. -/
theorem apply_timeout :
    apply scene ctx states .timeout =
      scene.agents.foldl (fun states o => setOverride scene ctx states o.id []) states :=
  List.idRun_foldlM

/-- The events of a frame are applied in the order of the list. -/
theorem applyEvents_eq :
    applyEvents scene ctx states =
      (scene.events.filter fun e => e.frame == ctx.frame).foldl
        (fun states e => apply scene ctx states e.kind) states :=
  List.idRun_foldlM

/-- Between two keyframes the place is the point at the fraction of frames that have passed. -/
theorem between_eq (frame : Nat) (a b : Keyframe) :
    between frame a b =
      if a.frame = b.frame then a.position
      else a.position.lerp b.position
        (Binary32.ofNat (frame - a.frame) / Binary32.ofNat (b.frame - a.frame)) :=
  apply_ite Id.run _ _ _

/-- Before its first keyframe an agent stands at that one, and after the last one it is free. -/
theorem interpolate_cons (first : Keyframe) (later : List Keyframe) (frame : Nat) :
    interpolate (first :: later) frame =
      if frame ≤ first.frame then some first.position
      else if (later.getLastD first).frame < frame then none
      else (((first :: later).zip later).find? fun (a, b) =>
        a.frame ≤ frame && frame ≤ b.frame).map fun (a, b) => between frame a b := by
  unfold interpolate interpolateM
  dsimp only
  split
  · rfl
  split
  · rfl
  · cases ((first :: later).zip later).find? fun (a, b) =>
      a.frame ≤ frame && frame ≤ b.frame <;> rfl

/-- The keyframes of a frame place the agents for which one of them holds. -/
theorem applyKeyframes_eq :
    applyKeyframes scene ctx states =
      (group scene.keyframes).entries.foldl (fun states entry =>
        match interpolate entry.2 ctx.frame with
        | none => states
        | some place =>
          change scene ctx states entry.1 fun s =>
            { s with keyframe := some ((scene.transform ctx.canvas).apply place) }) states :=
  List.idRun_foldlM

theorem applyAll_eq :
    applyAll scene ctx states = applyKeyframes scene ctx (applyEvents scene ctx states) := rfl

end Cue

end Playfield
