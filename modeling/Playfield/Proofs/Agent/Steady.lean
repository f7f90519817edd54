import Playfield.Proofs.Agent.Writes

/-!
Agents that never wander.

Nobody wanders in a scene in which no agent is authored to wander and no event tells one to. The
behaviors that other events give to agents do not wander, so the cues of such a scene make nobody
wander either (`Cue.steady_applyAll`).
-/

namespace Playfield

/-! ### Behaviors, agents and scenes -/

def Behavior.wanders : Behavior → Bool
  | .wander _ _ => true
  | _ => false

/-- Behaviors none of which wanders. -/
def Steady (behaviors : List WeightedBehavior) : Prop :=
  ∀ b ∈ behaviors, b.behavior.wanders = false

instance (behaviors : List WeightedBehavior) : Decidable (Steady behaviors) :=
  inferInstanceAs (Decidable (∀ b ∈ behaviors, b.behavior.wanders = false))

theorem steady_nil : Steady [] :=
  fun _ inside => absurd inside List.not_mem_nil

theorem steady_plain {behavior : Behavior} (steady : behavior.wanders = false) :
    Steady [behavior.plain] := by
  intro b inside
  rw [List.mem_singleton.mp inside]
  exact steady

/-- No behavior that stands in for an agent's own wanders. -/
def AgentState.Steady (s : AgentState) : Prop :=
  Playfield.Steady (s.behaviorOverride.getD [])

/-- An agent does nothing but what stands in for its own behaviors or what it is authored to do. -/
theorem AgentState.Steady.getD {s : AgentState} (steady : s.Steady)
    {authored : List WeightedBehavior} (own : Playfield.Steady authored) :
    Playfield.Steady (s.behaviorOverride.getD authored) := by
  unfold AgentState.Steady at steady
  cases given : s.behaviorOverride with
  | none => exact own
  | some behaviors => rwa [given] at steady

/-- A scene in which nobody wanders: no agent is authored to, and no event tells one to. -/
structure Scene.Steady (scene : Scene) : Prop where
  authored : ∀ o ∈ scene.objects, ∀ agent, o.agent? = some agent → Playfield.Steady agent.behaviors
  scripted : ∀ e ∈ scene.events, ∀ agent behaviors, e.kind = .behavior agent behaviors →
    Playfield.Steady behaviors

/-! ### Cues -/

namespace Cue

variable {scene : Scene} {ctx : FrameContext} {states : AgentStates}

/-- An event gives behaviors that do not wander, unless it brings others with it. -/
theorem steady_of_mem_eventWrites {canvas : Vec2} {kind : EventKind}
    (brought : ∀ agent behaviors, kind = .behavior agent behaviors → Steady behaviors)
    {id : String} {behaviors : List WeightedBehavior}
    (assigns : .assign id behaviors ∈ eventWrites scene canvas kind) : Steady behaviors := by
  unfold eventWrites at assigns
  -- The ball's events, the time-out, the event that brings behaviors, and those that assign none.
  split at assigns
  · cases List.mem_singleton.mp assigns
    exact steady_plain rfl
  · cases List.mem_singleton.mp assigns
    exact steady_plain rfl
  · cases List.mem_singleton.mp assigns
    exact steady_plain rfl
  · obtain ⟨o, -, same⟩ := List.mem_map.mp assigns
    cases same
    exact steady_nil
  · cases List.mem_singleton.mp assigns
    exact brought _ _ rfl
  · cases List.mem_singleton.mp assigns
  · cases List.mem_singleton.mp assigns
  · cases assigns
  · cases assigns

/-- The cues of a steady scene assign steady behaviors only. -/
theorem steady_of_mem_writes (steady : scene.Steady) {canvas : Vec2} {frame : Nat}
    {id : String} {behaviors : List WeightedBehavior}
    (assigns : .assign id behaviors ∈ writes scene canvas frame) : Steady behaviors := by
  rcases List.mem_append.mp assigns with event | keyframe
  · obtain ⟨e, inside, written⟩ := List.mem_flatMap.mp event
    exact steady_of_mem_eventWrites (steady.scripted e (List.mem_filter.mp inside).1) written
  · obtain ⟨entry, -, written⟩ := List.mem_filterMap.mp keyframe
    obtain ⟨place, -, same⟩ := Option.map_eq_some_iff.mp written
    cases same

/-- Cues of a steady scene make nobody wander. -/
theorem steady_applyAll (steady : scene.Steady) (all : states.All AgentState.Steady) :
    (applyAll scene ctx states).All AgentState.Steady := by
  have started (o : SceneObject) : (AgentState.spawn o ctx).Steady := steady_nil
  have dropped (s : AgentState) : (dropOverride s).Steady := steady_nil
  rw [applyAll_eq_foldl]
  have assigned {id : String} {behaviors : List WeightedBehavior}
      (assigns : .assign id behaviors ∈ writes scene ctx.canvas ctx.frame) : Steady behaviors :=
    steady_of_mem_writes steady assigns
  generalize writes scene ctx.canvas ctx.frame = writes at assigned ⊢
  induction writes generalizing states with
  | nil => exact all
  | cons write writes ih =>
    refine ih ?_ fun assigns => assigned (List.mem_cons_of_mem write assigns)
    cases write with
    | assign id behaviors =>
      exact all_change all started id fun s _ => assigned List.mem_cons_self
    | put id place => exact all_change all started id fun s kept => kept
    | drop id =>
      refine all.mapValues fun other s kept => ?_
      split
      · exact dropped s
      · exact kept
    | dropAll => exact all.mapValues fun _ s _ => dropped s

end Cue

end Playfield
