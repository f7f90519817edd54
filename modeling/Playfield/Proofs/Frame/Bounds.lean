import Playfield.Proofs.Agent.Steering
import Playfield.Proofs.Frame.Plain
import Playfield.Proofs.Vec2

/-!
How hard an agent is pushed and how fast it moves.

The force of all behaviors and the velocity after a step are both shortened to what the agent can
bear, and the limits always make sense (`limit_maxForce`, `limit_maxSpeed`). So each of them is
within its limit whenever it is finite, and finite just when it was before it was shortened
(`stepAgent_bounded`). Single forces and weights that are not finite are left out of the sum; what the
sum itself comes to is not looked at.
-/

namespace Playfield

open Binary32 (value)
open Vec2 (norm allowed)

namespace Agent

variable (agent : Agent)

/-- The greatest force of an agent is finite and not negative. -/
theorem limit_maxForce : agent.params.maxForce.isFinite ∧ 0 ≤ agent.params.maxForce :=
  Binary32.sanitize_sound ⟨rfl, by decide⟩

theorem limit_maxSpeed : agent.params.maxSpeed.isFinite ∧ 0 ≤ agent.params.maxSpeed :=
  Binary32.sanitize_sound ⟨rfl, by decide⟩

end Agent

namespace Vec2

/-- What is shortened to a limit that makes sense is finite just when it was before, and then within
the limit. -/
theorem clampLength_bounded (a : Vec2) {limit : Float32} (sound : limit.isFinite ∧ 0 ≤ limit) :
    ((a.clampLength limit).isFinite ↔ a.isFinite) ∧
      ((a.clampLength limit).isFinite → (a.clampLength limit).norm ≤ allowed (value limit)) := by
  have only : (a.clampLength limit).isFinite → a.isFinite := by
    intro finite
    by_contra infinite
    exact not_isFinite_clampLength infinite sound.1 finite
  refine ⟨⟨only, fun finite => (norm_clampLength_le finite sound.1 sound.2).1⟩, ?_⟩
  intro finite
  exact (norm_clampLength_le (only finite) sound.1 sound.2).2

end Vec2

namespace Frame

variable {o : SceneObject} {agent : Agent} {snap : AgentStates} {published : Formula.Published}
  {ctx : FrameContext} {s : AgentState}

/-- Without a keyframe, a step ends with the velocity that the force changed, slowed down and
shortened to the maximal speed. -/
theorem stepAgent_velocity (found : snap.get? o.id = some s) (free : s.keyframe = none) :
    (stepAgent o agent snap published ctx).velocity =
      ((s.velocity + (steeringForce (s.behaviorOverride.getD agent.behaviors)
          ⟨o.id, agent.params, snap, published⟩
          ⟨s, frameRandom ctx.seed ctx.frame o.id⟩).1 / agent.params.mass) *
        agent.params.damping).clampLength agent.params.maxSpeed := by
  obtain ⟨angle, index, turned⟩ := Steering.steeringForce_keeps
    ⟨o.id, agent.params, snap, published⟩ (s.behaviorOverride.getD agent.behaviors)
    ⟨s, frameRandom ctx.seed ctx.frame o.id⟩
  simp only [stepAgent_eq, found, Option.getD_some, free, integrate_eq, move, turned]

/-- A step without a keyframe goes by the velocity that it ends with. -/
theorem stepAgent_position (found : snap.get? o.id = some s) (free : s.keyframe = none) :
    (stepAgent o agent snap published ctx).position =
      place agent.edges ctx.canvas
        (s.position + (stepAgent o agent snap published ctx).velocity) := by
  obtain ⟨angle, index, turned⟩ := Steering.steeringForce_keeps
    ⟨o.id, agent.params, snap, published⟩ (s.behaviorOverride.getD agent.behaviors)
    ⟨s, frameRandom ctx.seed ctx.frame o.id⟩
  simp only [stepAgent_eq, found, Option.getD_some, free, integrate_eq, move, turned]

/-- **An agent is as fast and as strong as it may be, if the sum of its forces is finite.** The force
on an agent without a keyframe is finite just when the weighted sum of its behaviors is, and then no
larger than the maximal force, but for the rounding. Likewise its velocity after the step is finite
just when it was before it was shortened, and then within the maximal speed. -/
theorem stepAgent_bounded (found : snap.get? o.id = some s) (free : s.keyframe = none) :
    let view : SteeringContext := ⟨o.id, agent.params, snap, published⟩
    let start : Steered := ⟨s, frameRandom ctx.seed ctx.frame o.id⟩
    let behaviors := s.behaviorOverride.getD agent.behaviors
    let sum := (behaviors.foldl (addForce view) (Vec2.zero, start)).1
    let force := (steeringForce behaviors view start).1
    let pushed := (s.velocity + force / agent.params.mass) * agent.params.damping
    let velocity := (stepAgent o agent snap published ctx).velocity
    (force.isFinite ↔ sum.isFinite) ∧
      (force.isFinite → force.norm ≤ allowed (value agent.params.maxForce)) ∧
      (velocity.isFinite ↔ pushed.isFinite) ∧
      (velocity.isFinite → velocity.norm ≤ allowed (value agent.params.maxSpeed)) := by
  intro view start behaviors sum force pushed velocity
  have shortened : force = sum.clampLength agent.params.maxForce :=
    congrArg Prod.fst (steeringForce_eq behaviors view start)
  have slowed : velocity = pushed.clampLength agent.params.maxSpeed :=
    stepAgent_velocity found free
  obtain ⟨finite, within⟩ := sum.clampLength_bounded agent.limit_maxForce
  obtain ⟨finite', within'⟩ := pushed.clampLength_bounded agent.limit_maxSpeed
  rw [shortened, slowed]
  exact ⟨finite, within, finite', within'⟩

/-- An agent that heads for a place, by a weight. -/
def sprinter (weight : Float32) : Agent :=
  { behaviors := [⟨.seek (.point ⟨100, 0⟩), weight⟩] }

/-- The agent as an object. -/
def lane (weight : Float32) : SceneObject :=
  { id := "sprinter", kind := .agent (sprinter weight) }

def blocks : AgentStates :=
  IdMap.empty.insert "sprinter" { position := Vec2.zero }

def gun : FrameContext :=
  ⟨0, 0, ⟨800, 600⟩, 7⟩

/-- The bounds of a sprinter on the first frame. -/
theorem stepAgent_bounded_sprinter :
    let velocity := (stepAgent (lane 1) (sprinter 1) blocks .empty gun).velocity
    blocks.get? "sprinter" = some { position := Vec2.zero } ∧ velocity.isFinite ∧
      velocity.norm ≤ allowed (value (sprinter 1).params.maxSpeed) := by
  intro velocity
  have found : blocks.get? (lane 1).id = some { position := Vec2.zero } := rfl
  obtain ⟨-, -, -, within⟩ :=
    @stepAgent_bounded (lane 1) (sprinter 1) blocks .empty gun _ found rfl
  have finite : velocity.isFinite := by decide +kernel
  exact ⟨found, finite, within finite⟩

/-- A finite weight that is nearly the largest number. -/
def bolt : Float32 :=
  Binary32.ofNat (3 * 10 ^ 38)

/-- Four times the weight is infinite, and shortening the infinite sum leaves no number. -/
theorem sprinter_bolt_poisoned :
    bolt.isFinite ∧ Vec2.zero.isFinite ∧
      (steeringForce (sprinter bolt).behaviors ⟨"sprinter", (sprinter bolt).params, blocks, .empty⟩
        ⟨{ position := Vec2.zero }, frameRandom 7 0 "sprinter"⟩).1.isFinite = false ∧
      (stepAgent (lane bolt) (sprinter bolt) blocks .empty gun).velocity.isFinite = false := by
  decide +kernel

end Frame

end Playfield
