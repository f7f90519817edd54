import Playfield.Proofs.Agent.Override

/-!
What the cues of a frame come to.

Events and keyframes are followed by a frame that reads the whole state of every agent, so it
matters what they leave alone. `cues_confined` says it for all entries at once, those of ids that no
agent has included, and says besides what the two fields of an agent that cues write to hold in the
end.
-/

namespace Playfield.Cue

open AgentState (Rearmed Placed Cued current)

/-- **Cues keep to their own fields.** Events remove no state, change nothing in those that are
there but the behaviors that stand in for an agent's own, and add none but that in which the first
object with the id starts, an agent, changed no further; the same holds of keyframes with the place
that is set for the frame, and of both together with these two fields. What the fields of an agent
hold after all cues is what the last event of the frame to touch it assigns, and the place to which
its keyframes come; where there is no such event or place, they hold what they held before. -/
theorem cues_confined (scene : Scene) (ctx : FrameContext) (states : AgentStates) :
    Confined Rearmed scene ctx states (applyEvents scene ctx states) ∧
      Confined Placed scene ctx (applyEvents scene ctx states) (applyAll scene ctx states) ∧
      Confined Cued scene ctx states (applyAll scene ctx states) ∧
      ∀ o, scene.find? o.id = some o → o.isAgent →
        current (applyAll scene ctx states) ctx o =
          keyed scene ctx (keyframesOf scene.keyframes o.id)
            { current states ctx o with
              behaviorOverride := latest scene ctx.canvas o.id
                (scene.events.filter fun e => e.frame == ctx.frame)
                (current states ctx o).behaviorOverride } := by
  refine ⟨confined_applyEvents scene ctx states, confined_applyKeyframes scene ctx _,
    confined_applyAll scene ctx states, ?_⟩
  intro o first agent
  rw [applyAll_eq, current_applyKeyframes first agent, (rearmed_applyEvents first states).eq,
    override_applyEvents first agent]

def ball : SceneObject :=
  { id := defaultBall, x := some (.literal 400), y := some (.literal 300), kind := .agent {} }

/-- A ball that has no state yet, and a hoop. Everybody is released, then the ball goes to somebody
and waits at a place; a task and a place for the hoop, which is no agent, come to nothing. -/
def tipOff : Scene where
  objects := [ball, { id := "hoop", kind := .group }]
  events :=
    [⟨4, .release none⟩, ⟨4, .possession "center" none⟩, ⟨4, .behavior "hoop" []⟩, ⟨5, .timeout⟩]
  keyframes := [⟨9, defaultBall, ⟨1, 2⟩⟩, ⟨4, "hoop", ⟨3, 4⟩⟩]

def tipOffContext : FrameContext :=
  ⟨4, 0.0625, ⟨800, 600⟩, 7⟩

/-- The state of somebody who has left the scene, with a task and with a place set. -/
def departed : AgentState :=
  { position := ⟨10, 20⟩, velocity := ⟨0, 1⟩, pathIndex := 3, behaviorOverride := some [],
    keyframe := some ⟨5, 5⟩ }

/-- The cues of the game at the tip-off. -/
theorem cues_confined_tipOff :
    let states : AgentStates := IdMap.empty.insert "guest" departed
    tipOff.find? ball.id = some ball ∧ ball.isAgent ∧
      (∃ s, (applyAll tipOff tipOffContext states).get? "guest" = some s ∧ Cued departed s) ∧
      current (applyAll tipOff tipOffContext states) tipOffContext ball =
        { AgentState.spawn ball tipOffContext with
          behaviorOverride :=
            some [(Behavior.arrive (.object "center") (some possessionSlowRadius)).plain]
          keyframe := some (Transform.identity.apply ⟨1, 2⟩) } := by
  intro states
  have first : tipOff.find? ball.id = some ball := rfl
  obtain ⟨-, -, both, agents⟩ := cues_confined tipOff tipOffContext states
  refine ⟨first, rfl, both.kept "guest" departed rfl, ?_⟩
  have own : keyframesOf tipOff.keyframes ball.id = [⟨9, defaultBall, ⟨1, 2⟩⟩] := by
    simp [keyframesOf, tipOff, ball, defaultBall]
  have last : latest tipOff tipOffContext.canvas ball.id
      (tipOff.events.filter fun e => e.frame == tipOffContext.frame)
      (current states tipOffContext ball).behaviorOverride =
      some [(Behavior.arrive (.object "center") (some possessionSlowRadius)).plain] := rfl
  rw [agents ball first rfl, own, last]
  rfl

end Playfield.Cue
