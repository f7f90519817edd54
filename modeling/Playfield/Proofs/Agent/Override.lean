import Playfield.Proofs.Agent.Cue

/-!
Who has the last word on what an agent does.

An event touches some agents and assigns to each of these the behaviors that stand in for its own,
or takes them back. For one agent a list of events therefore comes to the last one that touches it
(`latest`), both where the events are applied one by one (`override_apply`) and for those of a
whole frame (`override_applyEvents`).
-/

namespace Playfield

namespace AgentState

/-- An agent without a state has no behaviors but its own. -/
theorem current_behaviorOverride (states : AgentStates) (ctx : FrameContext) (o : SceneObject) :
    (current states ctx o).behaviorOverride = (states.get? o.id).bind (·.behaviorOverride) := by
  unfold current
  cases states.get? o.id with
  | none => rfl
  | some s => rfl

end AgentState

namespace Cue

open AgentState (current)

/-! ### The last word -/

/-- Whether an event touches the agent with an id. -/
def touches (id : String) : EventKind → Bool
  | .possession _ ball | .pass _ _ ball | .shot _ (some _) (some _) ball =>
    id == ball.getD defaultBall
  | .behavior agent _ | .release (some agent) => id == agent
  | .timeout | .release none => true
  | .shot _ _ _ _ | .other => false

/-- What an event assigns to the agents that it touches. -/
def assigned (scene : Scene) (canvas : Vec2) : EventKind → Option (List WeightedBehavior)
  | .possession agent _ => some [(Behavior.arrive (.object agent) (some possessionSlowRadius)).plain]
  | .pass _ receiver _ => some [(Behavior.fastBreak (.object receiver)).plain]
  | .shot _ (some x) (some y) _ =>
    some [(Behavior.fastBreak (.point ((scene.transform canvas).apply ⟨x, y⟩))).plain]
  | .timeout => some []
  | .behavior _ behaviors => some behaviors
  | .shot _ _ _ _ | .release _ | .other => none

/-- What the last of some events that touches an agent assigns to it, or what it had before where
none touches it. -/
def latest (scene : Scene) (canvas : Vec2) (id : String) (events : List Event)
    (before : Option (List WeightedBehavior)) : Option (List WeightedBehavior) :=
  match (events.filter fun e => touches id e.kind).getLast? with
  | some e => assigned scene canvas e.kind
  | none => before

section Latest

variable (scene : Scene) (canvas : Vec2) (id : String) (before : Option (List WeightedBehavior))

/-- The first event has its say before the others. -/
theorem latest_cons (e : Event) (events : List Event) :
    latest scene canvas id (e :: events) before =
      latest scene canvas id events
        (if touches id e.kind then assigned scene canvas e.kind else before) := by
  unfold latest
  by_cases touched : touches id e.kind
  · rw [List.filter_cons, if_pos touched, if_pos touched, List.getLast?_cons]
    cases (events.filter fun e => touches id e.kind).getLast? with
    | none => rfl
    | some last => rfl
  · rw [List.filter_cons, if_neg touched, if_neg touched]

/-- Later events have the word over earlier ones. -/
theorem latest_append (events later : List Event) :
    latest scene canvas id (events ++ later) before =
      latest scene canvas id later (latest scene canvas id events before) := by
  induction events generalizing before with
  | nil => rfl
  | cons e events ih => rw [List.cons_append, latest_cons, latest_cons, ih]

end Latest

/-! ### Applying events -/

variable {scene : Scene} {ctx : FrameContext} {o : SceneObject}

/-- An assignment gives its behaviors to the agent with the id and leaves those of the others. -/
theorem override_setOverride (first : scene.find? o.id = some o) (agent : o.isAgent)
    (states : AgentStates) (id : String) (behaviors : List WeightedBehavior) :
    (current (setOverride scene ctx states id behaviors) ctx o).behaviorOverride =
      if o.id == id then some behaviors else (current states ctx o).behaviorOverride := by
  rw [setOverride_eq, current_change first agent]
  by_cases same : o.id = id <;> simp [same]

/-- A time-out reaches every agent that it goes through. -/
theorem override_foldl_setOverride (first : scene.find? o.id = some o) (agent : o.isAgent)
    (behaviors : List WeightedBehavior) (agents : List SceneObject) (states : AgentStates) :
    (current (agents.foldl (fun states q => setOverride scene ctx states q.id behaviors) states)
        ctx o).behaviorOverride =
      if ∃ q ∈ agents, q.id = o.id then some behaviors
      else (current states ctx o).behaviorOverride := by
  induction agents generalizing states with
  | nil => simp
  | cons q agents ih =>
    rw [List.foldl_cons, ih, override_setOverride first agent]
    by_cases same : q.id = o.id
    · simp [same]
    · simp [same, Ne.symm same]

/-- Releasing an agent that has no state leaves it without one, and so with its own behaviors. -/
theorem override_drop (states : AgentStates) (id : String) :
    (current (states.update id dropOverride) ctx o).behaviorOverride =
      if o.id == id then none else (current states ctx o).behaviorOverride := by
  simp only [AgentState.current_behaviorOverride, IdMap.get?_update, beq_iff_eq]
  split
  · cases states.get? o.id <;> rfl
  · rfl

/-- Dropping all overrides leaves no agent with one. -/
theorem override_drop_all (states : AgentStates) :
    (current (states.mapValues fun _ s => dropOverride s) ctx o).behaviorOverride = none := by
  rw [AgentState.current_behaviorOverride, IdMap.get?_mapValues]
  cases states.get? o.id <;> rfl

/-- An event gives an agent that it touches what it assigns, whether the agent has a state yet or
not, and leaves the others what they had. -/
theorem override_apply (first : scene.find? o.id = some o) (agent : o.isAgent)
    (states : AgentStates) (kind : EventKind) :
    (current (apply scene ctx states kind) ctx o).behaviorOverride =
      if touches o.id kind then assigned scene ctx.canvas kind
      else (current states ctx o).behaviorOverride := by
  cases kind with
  | possession agent' ball => exact override_setOverride first agent states _ _
  | pass sender receiver ball => exact override_setOverride first agent states _ _
  | shot shooter x y ball =>
    cases x with
    | none => rfl
    | some x =>
      cases y with
      | none => rfl
      | some y => exact override_setOverride first agent states _ _
  | timeout =>
    have reached : ∃ q ∈ scene.agents, q.id = o.id :=
      ⟨o, List.mem_filter.mpr ⟨List.mem_of_find?_eq_some first, agent⟩, rfl⟩
    rw [apply_timeout, override_foldl_setOverride first agent, if_pos reached]
    rfl
  | behavior agent' behaviors => exact override_setOverride first agent states _ _
  | release released =>
    cases released with
    | none => exact override_drop_all states
    | some id => exact override_drop states id
  | other => rfl

/-- After the events of a frame the behaviors of an agent are those of the latest event that touches
it. -/
theorem override_applyEvents (first : scene.find? o.id = some o) (agent : o.isAgent)
    (states : AgentStates) :
    (current (applyEvents scene ctx states) ctx o).behaviorOverride =
      latest scene ctx.canvas o.id (scene.events.filter fun e => e.frame == ctx.frame)
        (current states ctx o).behaviorOverride := by
  rw [applyEvents_eq]
  generalize scene.events.filter _ = events
  induction events generalizing states with
  | nil => rfl
  | cons e events ih => rw [List.foldl_cons, ih, override_apply first agent, latest_cons]

end Cue

end Playfield
