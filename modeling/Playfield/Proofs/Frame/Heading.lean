import Playfield.Proofs.Agent.Heading
import Playfield.Proofs.Frame.Carry

/-!
The seed in a scene where nobody wanders.

Resolving a steady scene without its seed and without the headings of its agents comes to the same,
headings aside (`Progress.resolve_unheaded`). So two frames that differ in the seed and in headings
show the same and leave the same, headings aside (`unheaded_resolve`), and nobody wanders after them
either (`steady_resolve`).
-/

namespace Playfield.Frame

open AgentStates (unheaded)

/-! ### Nobody wanders -/

section Steady

variable {scene : Scene} {ctx : FrameContext} {previous : AgentStates}

/-- A frame begins with steady states if it is given steady states. -/
theorem steady_startStates (all : previous.All AgentState.Steady) :
    (startStates scene ctx previous).All AgentState.Steady := by
  rw [startStates, snapshot_eq]
  refine .ofList fun pair inside => ?_
  obtain ⟨o, -, rfl⟩ := List.mem_map.mp inside
  exact all.getD o.id steady_nil

/-- A frame does not make anybody wander. -/
theorem steady_resolve (all : previous.All AgentState.Steady) :
    (resolve scene ctx previous).states.All AgentState.Steady := by
  have started : (startStates scene ctx previous).All AgentState.Steady := steady_startStates all
  refine resolve_states_all fun o p s left => ?_
  unfold AgentState.Steady
  rw [nextState?_behaviorOverride left]
  cases found : (startStates scene ctx previous).get? o.id with
  | none => exact steady_nil
  | some s => exact started o.id s found

end Steady

/-! ### Resolving one object -/

section Resolve

variable (ctx : FrameContext) {snap : AgentStates} {o : SceneObject}

/-- An agent that does not wander moves alike with its heading aside, whatever the seed. -/
theorem integrate_unheaded {agent : Agent} (context : SteeringContext) {s : AgentState}
    (steady : Steady (s.behaviorOverride.getD agent.behaviors)) :
    integrate agent context.unheaded ctx.unseeded s.unheaded =
      (integrate agent context ctx s).unheaded := by
  have force := Steering.steeringForce_unheaded context s
    (frameRandom ctx.seed ctx.frame context.id)
    (frameRandom ctx.unseeded.seed ctx.unseeded.frame context.unheaded.id) steady
  rw [integrate_eq, integrate_eq]
  dsimp only
  rw [AgentState.unheaded_behaviorOverride, force]
  rfl

/-- An agent that does not wander steps alike with all headings aside, whatever the seed. -/
theorem stepAgent_unheaded {agent : Agent} (authored : Steady agent.behaviors)
    (all : snap.All AgentState.Steady) (published : Formula.Published) :
    stepAgent o agent (unheaded snap) published ctx.unseeded =
      (stepAgent o agent snap published ctx).unheaded := by
  have start : ((unheaded snap).get? o.id).getD { position := Vec2.zero } =
      ((snap.get? o.id).getD { position := Vec2.zero }).unheaded := by
    rw [AgentStates.get?_unheaded]
    cases snap.get? o.id <;> rfl
  have steady : ((snap.get? o.id).getD { position := Vec2.zero }).Steady :=
    all.getD o.id steady_nil
  rw [stepAgent_eq, stepAgent_eq, start]
  generalize (snap.get? o.id).getD { position := Vec2.zero } = s at steady ⊢
  cases keyframe : s.keyframe with
  | some place => simp only [AgentState.unheaded, keyframe]
  | none =>
    have moved := integrate_unheaded ctx ⟨o.id, agent.params, snap, published⟩
      (steady.getD authored)
    simp only [AgentState.unheaded_keyframe, keyframe]
    exact moved

/-- A stage of a frame without the headings of the agents. -/
def Progress.unheaded (p : Progress) : Progress :=
  { p with states := AgentStates.unheaded p.states }

namespace Progress

variable (p : Progress)

theorem carry_unheaded (id : String) :
    p.unheaded.carry (AgentStates.unheaded snap) id = (p.carry snap id).unheaded := by
  unfold carry
  rw [AgentStates.get?_unheaded]
  cases snap.get? id with
  | none => rfl
  | some s =>
    unfold unheaded
    dsimp only
    rw [AgentStates.unheaded_insert]
    rfl

/-- Resolving an object that does not wander comes to the same without seed and headings. -/
theorem resolve_unheaded (authored : ∀ agent, o.agent? = some agent → Steady agent.behaviors)
    (all : snap.All AgentState.Steady) :
    p.unheaded.resolve ctx.unseeded (AgentStates.unheaded snap) o =
      (p.resolve ctx snap o).unheaded := by
  rw [resolve_eq, resolve_eq]
  change (if Formula.settleTruth o.visible true (p.scope ctx o) then _ else _) = _
  dsimp only
  split
  · cases kind : o.kind with
    | agent agent =>
      have authored : Steady agent.behaviors := authored agent (by rw [SceneObject.agent?, kind])
      have step : stepAgent o agent (AgentStates.unheaded snap) p.unheaded.published ctx.unseeded =
          (stepAgent o agent snap p.published ctx).unheaded :=
        stepAgent_unheaded ctx authored all p.published
      dsimp only
      rw [step]
      unfold unheaded
      dsimp only
      rw [AgentStates.unheaded_insert]
      rfl
    | _ => rfl
  · exact p.carry_unheaded o.id

/-- Objects whose agents do not wander are resolved alike with all headings aside, whatever the
seed. -/
theorem foldl_resolve_unheaded {objects : List SceneObject}
    (authored : ∀ o ∈ objects, ∀ agent, o.agent? = some agent → Steady agent.behaviors)
    (all : snap.All AgentState.Steady) :
    objects.foldl (Progress.resolve ctx.unseeded (AgentStates.unheaded snap)) p.unheaded =
      (objects.foldl (Progress.resolve ctx snap) p).unheaded := by
  induction objects generalizing p with
  | nil => rfl
  | cons o rest ih =>
    rw [List.foldl_cons, List.foldl_cons,
      p.resolve_unheaded ctx (authored o List.mem_cons_self) all]
    exact ih (p.resolve ctx snap o) fun q inside => authored q (List.mem_cons_of_mem o inside)

end Progress

end Resolve

/-! ### Whole frames -/

/-- A frame without the headings that it leaves. -/
def unheaded (f : Frame) : Frame :=
  { f with states := AgentStates.unheaded f.states }

variable {scene : Scene} {ctx ctx' : FrameContext} {previous previous' : AgentStates}

/-- When a frame begins, the agents have the same states for every seed, headings aside. -/
theorem unheaded_startStates (alike : ctx'.unseeded = ctx.unseeded)
    (same : AgentStates.unheaded previous' = AgentStates.unheaded previous) :
    AgentStates.unheaded (startStates scene ctx' previous') =
      AgentStates.unheaded (startStates scene ctx previous) := by
  unfold startStates AgentStates.unheaded
  rw [snapshot_eq, snapshot_eq, IdMap.mapValues_ofList, IdMap.mapValues_ofList, List.map_map,
    List.map_map]
  congr 2
  funext o
  exact congrArg (o.id, ·) (Cue.getD_spawn_unheaded alike same o.id o)

/-- A steady frame comes to the same with all headings aside, whatever the seed. -/
theorem unheaded_final (steady : scene.Steady) (all : previous.All AgentState.Steady) :
    (final scene ctx previous).unheaded =
      (Order.dependencyOrder scene.objects).foldl
        (Progress.resolve ctx.unseeded (AgentStates.unheaded (startStates scene ctx previous)))
        Progress.start :=
  (Progress.start.foldl_resolve_unheaded ctx
    (fun o inside => steady.authored o (mem_dependencyOrder.mp inside))
    (steady_startStates all)).symm

/-- Two frames of a steady scene that differ in the seed and in headings show the same and leave the
same states, headings aside. -/
theorem unheaded_resolve (steady : scene.Steady) (all : previous.All AgentState.Steady)
    (all' : previous'.All AgentState.Steady) (alike : ctx'.unseeded = ctx.unseeded)
    (same : AgentStates.unheaded previous' = AgentStates.unheaded previous) :
    (resolve scene ctx' previous').unheaded = (resolve scene ctx previous).unheaded := by
  have finals : (final scene ctx' previous').unheaded = (final scene ctx previous).unheaded := by
    rw [unheaded_final steady all, unheaded_final steady all', unheaded_startStates alike same,
      alike]
  rw [resolve_eq_final, resolve_eq_final]
  exact congrArg
    (fun p : Progress => (⟨DrawCommand.sortByLayer p.commands, p.objects, p.states⟩ : Frame)) finals

end Playfield.Frame
