import Playfield.Proofs.Agent.Steering
import Playfield.Proofs.Frame.Turn

/-!
Agents move at the same time.

An agent sees the others as they were when the frame began. Everything else it sees as far as it has
been resolved, so the order of resolution reaches an agent in two ways only: through an object that
is no agent and that a behavior names, and through a formula that hides the agent. Without either an
agent moves as if it were the first (`nextState?_turn`), and the order of the objects makes no
difference to the states (`states_perm`).
-/

namespace Playfield

/-- Whether an object is visible does not depend on a formula. -/
def SceneObject.FixedVisibility (o : SceneObject) : Prop :=
  o.visible = none ∨ ∃ shown, o.visible = some (.literal shown)

/-- Every object of the scene that a behavior names is an agent. -/
def Scene.NamesOnlyAgents (scene : Scene) (behavior : Behavior) : Prop :=
  ∀ id ∈ behavior.names, ∀ o ∈ scene.objects, o.id = id → o.isAgent

/-- The agents of a scene steer by agents only, both in the behaviors that the scene gives them and
in those that events gave them. -/
structure Scene.SteersByAgents (scene : Scene) (previous : AgentStates) : Prop where
  authored : ∀ o ∈ scene.objects, ∀ agent, o.agent? = some agent →
    ∀ b ∈ agent.behaviors, scene.NamesOnlyAgents b.behavior
  stored : ∀ id state behaviors, previous.get? id = some state →
    state.behaviorOverride = some behaviors → ∀ b ∈ behaviors, scene.NamesOnlyAgents b.behavior

/-- A behavior names only agents in whatever order they are declared. -/
theorem Scene.NamesOnlyAgents.perm {scene : Scene} {behavior : Behavior}
    (only : scene.NamesOnlyAgents behavior) {objects : List SceneObject}
    (perm : objects.Perm scene.objects) :
    Scene.NamesOnlyAgents { scene with objects := objects } behavior :=
  fun id named o member => only id named o (perm.mem_iff.mp member)

/-- Agents steer by agents only, in whatever order they are declared. -/
theorem Scene.SteersByAgents.perm {scene : Scene} {previous : AgentStates}
    (steers : scene.SteersByAgents previous) {objects : List SceneObject}
    (perm : objects.Perm scene.objects) :
    Scene.SteersByAgents { scene with objects := objects } previous where
  authored o member agent is b inside :=
    (steers.authored o (perm.mem_iff.mp member) agent is b inside).perm perm
  stored id state behaviors found overridden b inside :=
    (steers.stored id state behaviors found overridden b inside).perm perm

/-- The behaviors that an agent follows name agents only, whoever gave them. -/
theorem Scene.SteersByAgents.current {scene : Scene} {previous : AgentStates}
    (steers : scene.SteersByAgents previous) (ctx : FrameContext) {o : SceneObject}
    (member : o ∈ scene.objects) {agent : Agent} (is : o.agent? = some agent) :
    ∀ b ∈ (AgentState.current previous ctx o).behaviorOverride.getD agent.behaviors,
      scene.NamesOnlyAgents b.behavior := by
  unfold AgentState.current
  cases found : previous.get? o.id with
  | none => exact steers.authored o member agent is
  | some state =>
    rw [Option.getD_some]
    cases overridden : state.behaviorOverride with
    | none => exact steers.authored o member agent is
    | some behaviors => exact steers.stored o.id state behaviors found overridden

namespace Frame

section Turn

variable {scene : Scene} {ctx : FrameContext} {previous : AgentStates} {o : SceneObject}

variable (ctx previous o) in
/-- What has been resolved before the turn of an agent does not tell it where other agents are. -/
theorem position?_turn (distinct : scene.DistinctIds) (seer : String) (params : AgentParams)
    {behavior : Behavior} (only : scene.NamesOnlyAgents behavior) :
    ∀ id ∈ behavior.names,
      SteeringContext.position? ⟨seer, params, startStates scene ctx previous,
          (turn scene ctx previous o).published⟩ id =
        SteeringContext.position? ⟨seer, params, startStates scene ctx previous, .empty⟩ id := by
  intro id named
  unfold SteeringContext.position?
  cases start : (startStates scene ctx previous).get? id with
  | some state => rfl
  | none =>
    have unpublished : (turn scene ctx previous o).published.get? id = none := by
      by_contra shown
      obtain ⟨fields, shown⟩ := Option.ne_none_iff_exists'.mp shown
      obtain ⟨q, member, rfl⟩ := turn_published shown
      rw [startStates_get?_agent distinct member (only q.id named q member rfl)] at start
      cases start
    simp only [unpublished, IdMap.get?_empty]

/-- An agent moves in its turn as if nothing had been resolved before it. -/
theorem stepAgent_turn (distinct : scene.DistinctIds) (steers : scene.SteersByAgents previous)
    (member : o ∈ scene.objects) {agent : Agent} (is : o.agent? = some agent) :
    stepAgent o agent (startStates scene ctx previous) (turn scene ctx previous o).published ctx =
      stepAgent o agent (startStates scene ctx previous) .empty ctx := by
  have follows := steers.current ctx member is
  rw [stepAgent_startStates distinct member is, stepAgent_startStates distinct member is]
  cases (AgentState.current previous ctx o).keyframe with
  | some position => rfl
  | none =>
    have same := Steering.steeringForce_congr
      ⟨AgentState.current previous ctx o, frameRandom ctx.seed ctx.frame o.id⟩
      fun b inside => position?_turn ctx previous o distinct o.id agent.params (follows b inside)
    simp only [integrate_eq, same]

variable (ctx) in
/-- Fixed visibility does not depend on what a frame has come to. -/
theorem sees_congr (fixed : o.FixedVisibility) (p q : Progress) : p.sees ctx o = q.sees ctx o := by
  unfold Progress.sees
  rcases fixed with absent | ⟨shown, literal⟩
  · rw [absent]; rfl
  · rw [literal]; rfl

/-- An object that is no agent leaves no state. -/
theorem nextState?_eq_none (distinct : scene.DistinctIds) (member : o ∈ scene.objects)
    (other : ¬ o.isAgent) (p : Progress) :
    p.nextState? ctx (startStates scene ctx previous) o = none := by
  have noAgent : o.agent? = none := by
    simpa [SceneObject.isAgent] using other
  have noStart : (startStates scene ctx previous).get? o.id = none := by
    refine startStates_get?_eq_none fun q inside isAgent same => other ?_
    rwa [← distinct.eq_of_id inside member same]
  rw [Progress.nextState?, noAgent, noStart]
  split <;> rfl

/-- An object leaves in its turn the state that it would leave if it came first. -/
theorem nextState?_turn (distinct : scene.DistinctIds) (steers : scene.SteersByAgents previous)
    (fixed : ∀ o ∈ scene.objects, o.isAgent → o.FixedVisibility) (member : o ∈ scene.objects) :
    (turn scene ctx previous o).nextState? ctx (startStates scene ctx previous) o =
      Progress.start.nextState? ctx (startStates scene ctx previous) o := by
  cases is : o.agent? with
  | none =>
    have other : ¬ o.isAgent := by simp [SceneObject.isAgent, is]
    rw [nextState?_eq_none distinct member other, nextState?_eq_none distinct member other]
  | some agent =>
    have same := sees_congr ctx (fixed o member (SceneObject.isAgent_of_agent? is))
      (turn scene ctx previous o) Progress.start
    rw [Progress.nextState?, Progress.nextState?, same, is, Option.map_some, Option.map_some,
      stepAgent_turn distinct steers member is]
    rfl

end Turn

/-- The agents start from the same states in whatever order the objects are declared. -/
theorem startStates_perm {scene : Scene} {ctx : FrameContext} {previous : AgentStates}
    (distinct : scene.DistinctIds) {objects : List SceneObject}
    (perm : objects.Perm scene.objects) :
    startStates { scene with objects := objects } ctx previous = startStates scene ctx previous :=
  snapshot_perm (nodup_dependencyOrder_ids distinct)
    ((Order.dependencyOrder_perm objects).trans
      (perm.trans (Order.dependencyOrder_perm scene.objects).symm))

/-- **Agents move at the same time.** Where the agents steer by agents only and no formula hides
one, the order of the objects makes no difference to the states that a frame leaves. -/
theorem states_perm {scene : Scene} {ctx : FrameContext} {previous : AgentStates}
    (distinct : scene.DistinctIds)
    (fixed : ∀ o ∈ scene.objects, o.isAgent → o.FixedVisibility)
    (steers : scene.SteersByAgents previous)
    {objects : List SceneObject} (perm : objects.Perm scene.objects) :
    (resolve { scene with objects := objects } ctx previous).states =
      (resolve scene ctx previous).states := by
  have distinct' := distinct.perm perm
  have fixed' : ∀ o ∈ objects, o.isAgent → o.FixedVisibility :=
    fun o member => fixed o (perm.mem_iff.mp member)
  refine IdMap.ext_get? fun id => ?_
  by_cases declared : ∃ o ∈ scene.objects, o.id = id
  · obtain ⟨o, member, rfl⟩ := declared
    have member' : o ∈ objects := perm.mem_iff.mpr member
    rw [resolve_states_get? distinct' member',
      nextState?_turn distinct' (steers.perm perm) fixed' member', startStates_perm distinct perm,
      resolve_states_get? distinct member, nextState?_turn distinct steers fixed member]
  · have absent : ∀ o ∈ scene.objects, o.id ≠ id :=
      fun o member same => declared ⟨o, member, same⟩
    rw [resolve_states_get?_eq_none absent,
      resolve_states_get?_eq_none fun o member => absent o (perm.mem_iff.mp member)]

/-- Two agents that are after each other, one of them since an event, and a mark on the other. -/
def chase : Scene where
  objects :=
    [{ id := "mark", parent := some "runner", kind := .ellipse {} },
      { id := "chaser", visible := some (.literal true),
        kind := .agent { behaviors := [(Behavior.seek (.object "runner")).plain] } },
      { id := "runner", kind := .agent {} }]

/-- The states after that event. -/
def chaseStates : AgentStates :=
  IdMap.empty.insert "runner"
    { position := ⟨100, 0⟩, behaviorOverride := some [(Behavior.evade "chaser" none).plain] }

def chaseContext : FrameContext :=
  ⟨3, 0.05, ⟨800, 600⟩, 7⟩

/-- A chase in both orders. -/
theorem states_perm_chase :
    chase.DistinctIds ∧ (∀ o ∈ chase.objects, o.isAgent → o.FixedVisibility) ∧
      chase.SteersByAgents chaseStates ∧ chase.objects.reverse.Perm chase.objects ∧
      (resolve { chase with objects := chase.objects.reverse } chaseContext chaseStates).states =
        (resolve chase chaseContext chaseStates).states := by
  have distinct : chase.DistinctIds := by decide
  have fixed : ∀ o ∈ chase.objects, o.isAgent → o.FixedVisibility := by
    simp [chase, SceneObject.FixedVisibility]
  have steers : chase.SteersByAgents chaseStates := by
    constructor
    · simp [chase, SceneObject.agent?, Scene.NamesOnlyAgents, Behavior.plain, Behavior.names,
        Target.names, SceneObject.isAgent]
    · intro id state behaviors found overridden
      rw [chaseStates, IdMap.get?_insert, IdMap.get?_empty] at found
      split at found
      · cases found
        cases overridden
        simp [chase, SceneObject.agent?, Scene.NamesOnlyAgents, Behavior.plain, Behavior.names,
          SceneObject.isAgent]
      · cases found
  have perm := List.reverse_perm chase.objects
  exact ⟨distinct, fixed, steers, perm, states_perm distinct fixed steers perm⟩

end Frame

end Playfield
