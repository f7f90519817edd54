import Playfield.Proofs.Frame.Turn

/-!
Who has a state after a frame.

The states that a frame leaves are made anew, one object after the other. An agent leaves one
whether it is visible or hidden, and whoever leaves one had one when the frame began
(`Enrolled.resolve`). So after the frame the ids with a state are those of the agents, even where
objects share an id, and a hidden agent finds again what it had (`resolve_states_roster`).
-/

namespace Playfield.Frame

section Roster

variable {ctx : FrameContext} {snap : AgentStates} {p : Progress} {o : SceneObject}

/-- When a frame begins, the ids with a state are those of the agents. -/
theorem isSome_snapshot {objects : List SceneObject} {previous : AgentStates} {id : String} :
    ((snapshot objects previous ctx).get? id).isSome ↔ ∃ o ∈ objects, o.isAgent ∧ o.id = id := by
  rw [snapshot_eq, IdMap.isSome_get?_ofList]
  constructor
  · rintro ⟨pair, inside, rfl⟩
    obtain ⟨o, among, rfl⟩ := List.mem_map.mp inside
    obtain ⟨member, agent⟩ := List.mem_filter.mp among
    exact ⟨o, member, agent, rfl⟩
  · rintro ⟨o, member, agent, rfl⟩
    exact ⟨_, List.mem_map_of_mem (List.mem_filter.mpr ⟨member, agent⟩), rfl⟩

/-- An agent that has begun the frame leaves a state. -/
theorem isSome_nextState? (agent : o.isAgent) (start : (snap.get? o.id).isSome) :
    (p.nextState? ctx snap o).isSome := by
  unfold Progress.nextState?
  split
  · rw [Option.isSome_map]
    exact agent
  · rw [Option.isSome_map]
    exact start

/-- An object that is no agent leaves a state only where it hides one that stands under its id. -/
theorem isSome_start_of_nextState? (start : o.isAgent → (snap.get? o.id).isSome)
    (left : (p.nextState? ctx snap o).isSome) : (snap.get? o.id).isSome := by
  unfold Progress.nextState? at left
  split at left
  · rw [Option.isSome_map] at left
    exact start left
  · rwa [Option.isSome_map] at left

/-- What holds of the states when some objects have been resolved: whoever has one had one when the
frame began, and every agent among these objects has one. -/
structure Enrolled (snap : AgentStates) (resolved : List SceneObject) (p : Progress) : Prop where
  started : ∀ id, (p.states.get? id).isSome → (snap.get? id).isSome
  agents : ∀ o ∈ resolved, o.isAgent → (p.states.get? o.id).isSome

theorem Enrolled.start (snap : AgentStates) : Enrolled snap [] Progress.start where
  started _ held := by cases held
  agents _ member := absurd member List.not_mem_nil

/-- Resolving an object enrolls it if it is an agent, and drops nobody. -/
theorem Enrolled.resolve {resolved : List SceneObject} (enrolled : Enrolled snap resolved p)
    (start : o.isAgent → (snap.get? o.id).isSome) :
    Enrolled snap (resolved ++ [o]) (p.resolve ctx snap o) := by
  constructor
  · intro id held
    by_cases own : id = o.id
    · rw [own, states_resolve_get?_self, Option.isSome_or, Bool.or_eq_true] at held
      rcases held with left | before
      · exact own ▸ isSome_start_of_nextState? start left
      · exact own ▸ enrolled.started o.id before
    · rw [(sameAt_resolve own).states] at held
      exact enrolled.started id held
  · intro q member agent
    by_cases own : q.id = o.id
    · rw [own, states_resolve_get?_self, Option.isSome_or, Bool.or_eq_true]
      rcases List.mem_append.mp member with before | now
      · exact .inr (own ▸ enrolled.agents q before agent)
      · obtain rfl := List.mem_singleton.mp now
        exact .inl (isSome_nextState? agent (start agent))
    · rw [(sameAt_resolve own).states]
      rcases List.mem_append.mp member with before | now
      · exact enrolled.agents q before agent
      · exact absurd (congrArg _ (List.mem_singleton.mp now)) own

/-- Resolving objects in turn enrolls their agents. -/
theorem Enrolled.foldl_resolve {resolved : List SceneObject} (enrolled : Enrolled snap resolved p)
    {objects : List SceneObject}
    (start : ∀ o ∈ objects, o.isAgent → (snap.get? o.id).isSome) :
    Enrolled snap (resolved ++ objects) (objects.foldl (Progress.resolve ctx snap) p) := by
  induction objects generalizing resolved p with
  | nil => rwa [List.append_nil]
  | cons o rest ih =>
    rw [List.foldl_cons, List.append_cons]
    exact ih (enrolled.resolve (start o List.mem_cons_self)) fun q member =>
      start q (List.mem_cons_of_mem o member)

end Roster

section Final

variable {scene : Scene} {ctx : FrameContext} {previous : AgentStates}

/-- A frame begins with a state for every agent and for nobody else. -/
theorem isSome_startStates {id : String} :
    ((startStates scene ctx previous).get? id).isSome ↔
      ∃ o ∈ scene.objects, o.isAgent ∧ o.id = id := by
  simp only [startStates, isSome_snapshot, mem_dependencyOrder]

theorem enrolled_final : Enrolled (startStates scene ctx previous)
    (Order.dependencyOrder scene.objects) (final scene ctx previous) :=
  (Enrolled.start _).foldl_resolve fun o member agent =>
    isSome_startStates.mpr ⟨o, mem_dependencyOrder.mp member, agent, rfl⟩

/-- A frame leaves a state under an id if and only if an agent has it. -/
theorem isSome_resolve_states {id : String} :
    ((resolve scene ctx previous).states.get? id).isSome ↔
      ∃ o ∈ scene.objects, o.isAgent ∧ o.id = id := by
  rw [resolve_eq_final]
  constructor
  · intro left
    exact isSome_startStates.mp (enrolled_final.started id left)
  · rintro ⟨o, member, agent, rfl⟩
    exact enrolled_final.agents o (mem_dependencyOrder.mpr member) agent

/-- An id that no agent has leaves no state. -/
theorem resolve_states_get?_of_no_agent {id : String}
    (absent : ∀ o ∈ scene.objects, o.isAgent → o.id ≠ id) :
    (resolve scene ctx previous).states.get? id = none := by
  rw [← Option.not_isSome_iff_eq_none, isSome_resolve_states]
  rintro ⟨o, member, agent, same⟩
  exact absent o member agent same

/-- A hidden agent keeps its state for when it reappears; a place set for it is given up. -/
theorem resolve_states_get?_hidden (distinct : scene.DistinctIds) {o : SceneObject}
    (member : o ∈ scene.objects) (agent : o.isAgent)
    (hidden : ¬ (turn scene ctx previous o).sees ctx o) :
    (resolve scene ctx previous).states.get? o.id =
      some { AgentState.current previous ctx o with keyframe := none } := by
  rw [resolve_states_get? distinct member, Progress.nextState?, if_neg hidden,
    startStates_get?_agent distinct member agent, Option.map_some]

end Final

/-- **Agents have a state after a frame, and nobody else has.** The ids under which a frame leaves
one are those of the agents of the scene, whatever is visible and however ids are shared. With
distinct ids a hidden agent has the state that it had before the frame, or the one in which it
starts, with no place set. -/
theorem resolve_states_roster (scene : Scene) (ctx : FrameContext) (previous : AgentStates) :
    (∀ id, id ∈ (resolve scene ctx previous).states.keys ↔ id ∈ scene.agents.map (·.id)) ∧
      (scene.DistinctIds → ∀ o ∈ scene.objects, o.isAgent →
        ¬ (turn scene ctx previous o).sees ctx o →
        (resolve scene ctx previous).states.get? o.id =
          some { (previous.get? o.id).getD (AgentState.spawn o ctx) with keyframe := none }) := by
  constructor
  · intro id
    rw [IdMap.mem_keys, isSome_resolve_states]
    simp [Scene.agents, and_assoc]
  · intro distinct o member agent hidden
    exact resolve_states_get?_hidden distinct member agent hidden

/-- A player that waits off the field. -/
def substitute : SceneObject :=
  { id := "substitute", parent := some "bench", visible := some (.formula "not true"),
    kind := .agent { behaviors := [(Behavior.wander none none).plain] } }

/-- The player and its bench, which is hidden as well and no agent. -/
def sideline : Scene where
  objects := [substitute, { id := "bench", visible := some (.literal false), kind := .group }]

/-- A keyframe has just set a place for the player; the bench was an agent before. -/
def sidelineStates : AgentStates :=
  (IdMap.empty.insert "substitute"
    { position := ⟨4, 9⟩, velocity := ⟨1, 0⟩, keyframe := some ⟨30, 40⟩ }).insert "bench"
      { position := ⟨0, 0⟩ }

def sidelineContext : FrameContext :=
  ⟨3, 0.05, ⟨800, 600⟩, 7⟩

/-- A substitute on the sideline keeps its state and loses the place that was set for it. -/
theorem resolve_states_roster_sideline :
    "bench" ∉ (resolve sideline sidelineContext sidelineStates).states.keys ∧
      sideline.DistinctIds ∧ substitute ∈ sideline.objects ∧ substitute.isAgent ∧
      ¬ (turn sideline sidelineContext sidelineStates substitute).sees sidelineContext substitute ∧
      (resolve sideline sidelineContext sidelineStates).states.get? "substitute" =
        some { position := ⟨4, 9⟩, velocity := ⟨1, 0⟩ } := by
  obtain ⟨roster, kept⟩ := resolve_states_roster sideline sidelineContext sidelineStates
  have distinct : sideline.DistinctIds := by decide
  have member : substitute ∈ sideline.objects := List.mem_cons_self
  have hidden : ¬ (turn sideline sidelineContext sidelineStates substitute).sees sidelineContext
      substitute := by
    decide +kernel
  exact ⟨fun listed => absurd ((roster "bench").mp listed) (by decide), distinct, member, rfl,
    hidden, kept distinct substitute member rfl hidden⟩

end Playfield.Frame
