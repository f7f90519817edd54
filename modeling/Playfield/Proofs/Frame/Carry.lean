import Playfield.Proofs.Agent.Override
import Playfield.Proofs.Frame.Keyframes
import Playfield.Proofs.Frame.Roster

/-!
What a frame carries on from one state of an agent to the next.

A frame leaves every agent a state, whether the agent is moved, put at a place or hidden, and that
state has the behaviors that stood in for its own when the frame began (`resolve_override`). These
are the ones that the events of the frame leave to it (`resolve_applyAll_override`).
-/

namespace Playfield

namespace Cue

/-- Keyframes have no part in what an agent does. -/
theorem keyed_behaviorOverride (scene : Scene) (ctx : FrameContext) (keyframes : List Keyframe)
    (s : AgentState) : (keyed scene ctx keyframes s).behaviorOverride = s.behaviorOverride := by
  unfold keyed
  split <;> rfl

end Cue

namespace Frame

variable {scene : Scene} {ctx : FrameContext} {previous : AgentStates} {o : SceneObject}

/-- Moving an agent keeps the behaviors that stand in for its own. -/
theorem integrate_behaviorOverride (agent : Agent) (context : SteeringContext) (s : AgentState) :
    (integrate agent context ctx s).behaviorOverride = s.behaviorOverride := by
  obtain ⟨_, _, _, _, stepped⟩ := integrate_keeps agent context s
  rw [stepped]

/-- A step is taken by the behaviors that are there, and leaves them there. -/
theorem stepAgent_behaviorOverride (agent : Agent) (snap : AgentStates)
    (published : Formula.Published) :
    (stepAgent o agent snap published ctx).behaviorOverride =
      (snap.get? o.id).bind (·.behaviorOverride) := by
  have start : ((snap.get? o.id).getD { position := Vec2.zero }).behaviorOverride =
      (snap.get? o.id).bind (·.behaviorOverride) := by
    cases snap.get? o.id <;> rfl
  rw [← start]
  rw [stepAgent_eq]
  dsimp only
  split
  · rfl
  · exact integrate_behaviorOverride agent _ _

/-- Visible or hidden, an agent leaves the behaviors that stood in for its own when the frame
began. -/
theorem nextState?_behaviorOverride {p : Progress} {snap : AgentStates} {s : AgentState}
    (left : p.nextState? ctx snap o = some s) :
    s.behaviorOverride = (snap.get? o.id).bind (·.behaviorOverride) := by
  unfold Progress.nextState? at left
  split at left
  · obtain ⟨agent, -, rfl⟩ := Option.map_eq_some_iff.mp left
    exact stepAgent_behaviorOverride agent snap p.published
  · obtain ⟨s', start, rfl⟩ := Option.map_eq_some_iff.mp left
    rw [start]
    rfl

/-- An agent leaves a frame with the behaviors with which it began. -/
theorem resolve_override (ctx : FrameContext) (previous : AgentStates)
    (distinct : scene.DistinctIds) (member : o ∈ scene.objects) (agent : o.isAgent) :
    ∃ s, (resolve scene ctx previous).states.get? o.id = some s ∧
      s.behaviorOverride = (AgentState.current previous ctx o).behaviorOverride := by
  have held : ((resolve scene ctx previous).states.get? o.id).isSome :=
    isSome_resolve_states.mpr ⟨o, member, agent, rfl⟩
  obtain ⟨s, found⟩ := Option.isSome_iff_exists.mp held
  refine ⟨s, found, ?_⟩
  rw [resolve_states_get? distinct member] at found
  rw [nextState?_behaviorOverride found, startStates_get?_agent distinct member agent]
  rfl

/-- After a frame with its cues an agent does what the last event of the frame that touches it says,
or else what it did before. -/
theorem resolve_applyAll_override (distinct : scene.DistinctIds) (member : o ∈ scene.objects)
    (agent : o.isAgent) (states : AgentStates) :
    ∃ s, (resolve scene ctx (Cue.applyAll scene ctx states)).states.get? o.id = some s ∧
      s.behaviorOverride =
        Cue.latest scene ctx.canvas o.id (scene.events.filter fun e => e.frame == ctx.frame)
          ((states.get? o.id).bind (·.behaviorOverride)) := by
  obtain ⟨s, left, same⟩ :=
    resolve_override ctx (Cue.applyAll scene ctx states) distinct member agent
  refine ⟨s, left, same.trans ?_⟩
  rw [Cue.current_applyAll distinct member agent, Cue.keyed_behaviorOverride, Cue.armed,
    Cue.override_applyEvents (distinct.find?_eq member) agent, AgentState.current_behaviorOverride]

end Frame

end Playfield
