import Playfield.Proofs.Agent.Plain

/-!
What steering reads and what it changes.

The published objects matter to a behavior only through the positions of the ids that it names
(`steeringForce_congr`), and working through any behaviors changes nothing of an agent but its
heading and its waypoint (`steeringForce_keeps`). A behavior that finds nothing to steer by leaves
force, agent and random stream as if it were not there (`steeringForce_resolved`).
-/

namespace Playfield

/-! ### What a behavior names -/

def Target.names : Target → List String
  | .object id => [id]
  | .point _ => []

/-- The ids of the objects and agents that a behavior names. -/
def Behavior.names : Behavior → List String
  | .seek target | .flee target _ | .arrive target _ | .fastBreak target => target.names
  | .pursue agent | .evade agent _ | .guard agent | .setScreen agent _ => [agent]
  | .wander _ _ | .separate _ | .align _ | .cohere _ | .followPath _ _ | .maintainZone _
  | .defendZone _ | .unknown => []

/-- Whether a behavior finds in a context what it steers by: the point or object that is its target,
or the agent that it names. One of no known kind finds nothing; all others need nothing. -/
def Behavior.resolved (ctx : SteeringContext) : Behavior → Bool
  | .seek target | .flee target _ | .arrive target _ | .fastBreak target =>
    (ctx.target? target).isSome
  | .pursue agent | .evade agent _ | .guard agent | .setScreen agent _ =>
    (ctx.agent? agent).isSome
  | .wander _ _ | .separate _ | .align _ | .cohere _ | .followPath _ _ | .maintainZone _
  | .defendZone _ => true
  | .unknown => false

namespace Steering

section Reads

variable {seer : String} {params : AgentParams} {snap : AgentStates}
  {objects objects' : Formula.Published}

/-- A target is in the same place among other objects if each id that it names has the same
position. -/
theorem target?_congr {target : Target}
    (same : ∀ id ∈ target.names, SteeringContext.position? ⟨seer, params, snap, objects⟩ id =
      SteeringContext.position? ⟨seer, params, snap, objects'⟩ id) :
    SteeringContext.target? ⟨seer, params, snap, objects⟩ target =
      SteeringContext.target? ⟨seer, params, snap, objects'⟩ target := by
  cases target with
  | object id => exact same id List.mem_cons_self
  | point position => rfl

/-- A behavior has the same force among other objects if each id that it names has the same
position. -/
theorem force?_congr {behavior : Behavior} (a : Steered)
    (same : ∀ id ∈ behavior.names, SteeringContext.position? ⟨seer, params, snap, objects⟩ id =
      SteeringContext.position? ⟨seer, params, snap, objects'⟩ id) :
    force? behavior ⟨seer, params, snap, objects⟩ a =
      force? behavior ⟨seer, params, snap, objects'⟩ a := by
  cases behavior with
  | seek target | flee target _ | arrive target _ | fastBreak target =>
    simp only [force?, forceM?, target?_congr same]
  | pursue _ | evade _ _ | guard _ | setScreen _ _ => rfl
  | wander _ _ | separate _ | align _ | cohere _ | followPath _ _ | maintainZone _
  | defendZone _ | unknown => rfl

/-- Two sets of published objects with the same positions for all ids that the behaviors name lead
to the same force and the same agent. -/
theorem steeringForce_congr {behaviors : List WeightedBehavior} (a : Steered)
    (same : ∀ b ∈ behaviors, ∀ id ∈ b.behavior.names,
      SteeringContext.position? ⟨seer, params, snap, objects⟩ id =
        SteeringContext.position? ⟨seer, params, snap, objects'⟩ id) :
    steeringForce behaviors ⟨seer, params, snap, objects⟩ a =
      steeringForce behaviors ⟨seer, params, snap, objects'⟩ a := by
  have folded (sum : Vec2 × Steered) :
      behaviors.foldl (addForce ⟨seer, params, snap, objects⟩) sum =
        behaviors.foldl (addForce ⟨seer, params, snap, objects'⟩) sum := by
    induction behaviors generalizing sum with
    | nil => rfl
    | cons b behaviors ih =>
      have first : addForce ⟨seer, params, snap, objects⟩ sum b =
          addForce ⟨seer, params, snap, objects'⟩ sum b := by
        simp only [addForce_eq, force?_congr sum.2 (same b List.mem_cons_self)]
      rw [List.foldl_cons, List.foldl_cons, first,
        ih fun b' member => same b' (List.mem_cons_of_mem b member)]
  simp only [steeringForce_eq, folded]

end Reads

/-! ### What steering keeps -/

/-- A state that differs from another one at most in its heading and its waypoint. -/
def Turned (s s' : AgentState) : Prop :=
  ∃ angle index, s' = { s with wanderAngle := angle, pathIndex := index }

theorem Turned.refl (s : AgentState) : Turned s s :=
  ⟨s.wanderAngle, s.pathIndex, rfl⟩

theorem Turned.trans {s s' s'' : AgentState} (h : Turned s s') (h' : Turned s' s'') :
    Turned s s'' := by
  obtain ⟨_, _, rfl⟩ := h
  obtain ⟨angle, index, rfl⟩ := h'
  exact ⟨angle, index, rfl⟩

variable (ctx : SteeringContext)

/-- A behavior changes the heading and the waypoint of an agent at most. -/
theorem force?_keeps (behavior : Behavior) (a : Steered) :
    Turned a.state (force? behavior ctx a).2.state := by
  cases behavior with
  | wander strength speed => exact ⟨_, _, rfl⟩
  | followPath path looped =>
    cases path with
    | nil => exact .refl a.state
    | cons first rest => exact ⟨_, _, rfl⟩
  | _ => exact .refl a.state

/-- Adding the force of a behavior changes heading and waypoint at most. -/
theorem addForce_keeps (sum : Vec2 × Steered) (b : WeightedBehavior) :
    Turned sum.2.state (addForce ctx sum b).2.state := by
  have kept := force?_keeps ctx b.behavior sum.2
  rw [addForce_eq]
  split
  · rename_i force a eq
    rwa [eq] at kept
  · rename_i a eq
    rwa [eq] at kept

/-- Steering changes an agent in nothing but its heading and its waypoint. -/
theorem steeringForce_keeps (behaviors : List WeightedBehavior) (a : Steered) :
    Turned a.state (steeringForce behaviors ctx a).2.state := by
  have folded (sum : Vec2 × Steered) :
      Turned sum.2.state (behaviors.foldl (addForce ctx) sum).2.state := by
    induction behaviors generalizing sum with
    | nil => exact .refl sum.2.state
    | cons b behaviors ih => exact (addForce_keeps ctx sum b).trans (ih (addForce ctx sum b))
  rw [steeringForce_eq]
  exact folded (Vec2.zero, a)

/-! ### What steering leaves aside -/

/-- A behavior has no force just where it finds nothing to steer by. -/
theorem isSome_force? (behavior : Behavior) (a : Steered) :
    (force? behavior ctx a).1.isSome = behavior.resolved ctx := by
  cases behavior with
  | seek target | flee target _ | arrive target _ | fastBreak target => exact Option.isSome_map
  | pursue agent | evade agent _ | guard agent | setScreen agent _ => exact Option.isSome_map
  | wander _ _ | separate _ | align _ | cohere _ | followPath _ _ | maintainZone _
  | defendZone _ | unknown => rfl

/-- Nothing is written and nothing drawn before a target is found to be missing. -/
theorem force?_of_not_resolved {behavior : Behavior} (missing : behavior.resolved ctx = false)
    (a : Steered) : force? behavior ctx a = (none, a) := by
  have forceless : (force? behavior ctx a).1 = none := by
    rw [← isSome_force? ctx behavior a] at missing
    exact Option.not_isSome_iff_eq_none.mp (by simp [missing])
  refine Prod.ext forceless ?_
  cases behavior with
  | wander _ _ | followPath _ _ => cases missing
  | _ => rfl

/-- A behavior whose target is missing adds nothing. -/
theorem addForce_of_not_resolved {b : WeightedBehavior} (missing : b.behavior.resolved ctx = false)
    (sum : Vec2 × Steered) : addForce ctx sum b = sum := by
  rw [addForce_eq, force?_of_not_resolved ctx missing]

/-- **Behaviors that find nothing to steer by are neutral.** Without them the force is the same, and
so are the agent and its random stream afterwards. -/
theorem steeringForce_resolved (behaviors : List WeightedBehavior) (a : Steered) :
    steeringForce (behaviors.filter fun b => b.behavior.resolved ctx) ctx a =
      steeringForce behaviors ctx a := by
  have skipped : (fun sum (b : WeightedBehavior) =>
      if b.behavior.resolved ctx then addForce ctx sum b else sum) = addForce ctx := by
    funext sum b
    cases found : b.behavior.resolved ctx with
    | true => rfl
    | false => exact (addForce_of_not_resolved ctx found sum).symm
  simp only [steeringForce_eq, List.foldl_filter, skipped]

end Steering

end Playfield
