import Playfield.Proofs.Agent.Steering
import Playfield.Proofs.Frame.Turn

/-!
What a frame makes of keyframes.

A keyframe holds for one frame: whatever a frame starts from, no state that it leaves has a place
set (`resolve_consumed`). So where none had one before the cues, an agent that is visible ends where
its keyframes put it on this very frame or, if they do not, takes a step on its own
(`resolve_cued`).
-/

namespace Playfield

/-- No state has a place set for the next frame. -/
def Consumed (states : AgentStates) : Prop :=
  ∀ id s, states.get? id = some s → s.keyframe = none

namespace Consumed

variable {states : AgentStates}

theorem empty : Consumed .empty :=
  IdMap.All.empty

theorem erase (consumed : Consumed states) (id : String) : Consumed (states.erase id) :=
  IdMap.All.erase consumed id

/-- Nor does an agent start with one. -/
theorem current (consumed : Consumed states) (ctx : FrameContext) (o : SceneObject) :
    (AgentState.current states ctx o).keyframe = none :=
  IdMap.All.getD consumed o.id rfl

end Consumed

namespace Cue

/-- The state of an agent with the behaviors that the events of the frame leave to it. -/
def armed (scene : Scene) (ctx : FrameContext) (states : AgentStates) (o : SceneObject) :
    AgentState :=
  { AgentState.current states ctx o with
    behaviorOverride :=
      (AgentState.current (applyEvents scene ctx states) ctx o).behaviorOverride }

/-- The cues of a frame leave an agent armed by its events and placed by its keyframes. -/
theorem current_applyAll {scene : Scene} {ctx : FrameContext} {o : SceneObject}
    (distinct : scene.DistinctIds) (member : o ∈ scene.objects) (agent : o.isAgent)
    (states : AgentStates) :
    AgentState.current (applyAll scene ctx states) ctx o =
      keyed scene ctx (keyframesOf scene.keyframes o.id) (armed scene ctx states o) := by
  have first := distinct.find?_eq member
  rw [applyAll_eq, current_applyKeyframes first agent,
    (rearmed_applyEvents first states).eq, armed]

end Cue

namespace Frame

variable {scene : Scene} {ctx : FrameContext} {previous : AgentStates} {o : SceneObject}

/-- A step changes nothing of an agent but where it is and where it is heading. -/
theorem integrate_keeps (agent : Agent) (context : SteeringContext) (s : AgentState) :
    ∃ position velocity angle index, integrate agent context ctx s =
      { s with
        position := position
        velocity := velocity
        wanderAngle := angle
        pathIndex := index } := by
  obtain ⟨angle, index, turned⟩ := Steering.steeringForce_keeps context
    (s.behaviorOverride.getD agent.behaviors) ⟨s, frameRandom ctx.seed ctx.frame context.id⟩
  simp only [integrate_eq, turned]
  exact ⟨_, _, angle, index, rfl⟩

/-- Moving an agent keeps the place that is set for it. -/
theorem integrate_keyframe (agent : Agent) (context : SteeringContext) (s : AgentState) :
    (integrate agent context ctx s).keyframe = s.keyframe := by
  obtain ⟨_, _, _, _, stepped⟩ := integrate_keeps agent context s
  rw [stepped]

/-- The step of an agent uses up the place that is set for it. -/
theorem stepAgent_keyframe (agent : Agent) (snap : AgentStates) (published : Formula.Published) :
    (stepAgent o agent snap published ctx).keyframe = none := by
  rw [stepAgent_eq]
  dsimp only
  split
  · rfl
  · rename_i unset
    rw [integrate_keyframe, unset]

/-- The state that an object leaves has no place set, whether the object is visible or hidden. -/
theorem nextState?_keyframe {p : Progress} {snap : AgentStates} {s : AgentState}
    (left : p.nextState? ctx snap o = some s) : s.keyframe = none := by
  unfold Progress.nextState? at left
  split at left
  · obtain ⟨agent, -, rfl⟩ := Option.map_eq_some_iff.mp left
    exact stepAgent_keyframe agent snap p.published
  · obtain ⟨s', -, rfl⟩ := Option.map_eq_some_iff.mp left
    rfl

/-- A frame uses every keyframe up. -/
theorem resolve_consumed : Consumed (resolve scene ctx previous).states :=
  resolve_states_all fun _ _ _ left => nextState?_keyframe left

/-- A visible agent leaves the state that its step comes to. -/
theorem resolve_states_get?_visible (distinct : scene.DistinctIds) (member : o ∈ scene.objects)
    {agent : Agent} (is : o.agent? = some agent)
    (visible : (turn scene ctx previous o).sees ctx o) :
    (resolve scene ctx previous).states.get? o.id =
      some (match (AgentState.current previous ctx o).keyframe with
        | some place => { AgentState.current previous ctx o with
            position := place, velocity := Vec2.zero, keyframe := none }
        | none => integrate agent (sight scene ctx previous o agent) ctx
            (AgentState.current previous ctx o)) := by
  rw [resolve_states_get? distinct member, Progress.nextState?, if_pos visible, is,
    Option.map_some, stepAgent_startStates distinct member is]
  rfl

/-- With the cues of the frame, a visible agent ends where its keyframes put it, at rest, or takes a
step by the behaviors that the events leave to it. -/
theorem resolve_cued {states : AgentStates} (consumed : Consumed states)
    (distinct : scene.DistinctIds) (member : o ∈ scene.objects) {agent : Agent}
    (is : o.agent? = some agent)
    (visible : (turn scene ctx (Cue.applyAll scene ctx states) o).sees ctx o) :
    (resolve scene ctx (Cue.applyAll scene ctx states)).states.get? o.id =
      some (match Cue.interpolate (Cue.keyframesOf scene.keyframes o.id) ctx.frame with
        | some place => { Cue.armed scene ctx states o with
            position := (scene.transform ctx.canvas).apply place, velocity := Vec2.zero }
        | none => integrate agent (sight scene ctx (Cue.applyAll scene ctx states) o agent) ctx
            (Cue.armed scene ctx states o)) := by
  have unset : (Cue.armed scene ctx states o).keyframe = none := consumed.current ctx o
  rw [resolve_states_get?_visible distinct member is visible,
    Cue.current_applyAll distinct member (SceneObject.isAgent_of_agent? is), Cue.keyed]
  cases Cue.interpolate (Cue.keyframesOf scene.keyframes o.id) ctx.frame with
  | none => simp only [unset]
  | some place => simp only [unset]

end Frame

end Playfield
