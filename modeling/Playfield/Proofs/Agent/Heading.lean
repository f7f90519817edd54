import Playfield.Proofs.Agent.Steady

/-!
Headings matter to nobody but those who wander.

Only wandering looks at the heading that an agent has for it, and at the random numbers of the
frame. An agent whose behaviors do not wander is moved by the same force whatever its heading, that
of the others and the random stream are (`steeringForce_unheaded`), and cues write nothing into the
heading (`unheaded_applyAll`), which only an agent that starts takes from the seed.
-/

namespace Playfield

/-! ### Headings aside -/

/-- A state without the heading of its wandering. -/
def AgentState.unheaded (s : AgentState) : AgentState :=
  { s with wanderAngle := 0 }

@[simp]
theorem AgentState.unheaded_behaviorOverride (s : AgentState) :
    s.unheaded.behaviorOverride = s.behaviorOverride := rfl

@[simp]
theorem AgentState.unheaded_keyframe (s : AgentState) : s.unheaded.keyframe = s.keyframe := rfl

def AgentStates.unheaded (states : AgentStates) : AgentStates :=
  states.mapValues fun _ s => s.unheaded

open AgentStates (unheaded)

theorem AgentStates.get?_unheaded (states : AgentStates) (id : String) :
    (unheaded states).get? id = (states.get? id).map (·.unheaded) :=
  states.get?_mapValues _ id

/-- Headings may be set aside before or after an insertion. -/
theorem AgentStates.unheaded_insert (states : AgentStates) (id : String) (s : AgentState) :
    unheaded (states.insert id s) = (unheaded states).insert id s.unheaded :=
  states.mapValues_insert _ id s

/-- Headings may be set aside before or after a change of every state that has no use for them. -/
theorem AgentStates.unheaded_mapValues (states : AgentStates)
    {f : String → AgentState → AgentState} (apart : ∀ id s, (f id s).unheaded = f id s.unheaded) :
    unheaded (states.mapValues f) = (unheaded states).mapValues f := by
  simp only [unheaded, IdMap.mapValues, List.map_map, Function.comp_def, apart]

/-- A frame without its seed. -/
def FrameContext.unseeded (ctx : FrameContext) : FrameContext :=
  { ctx with seed := 0 }

def SteeringContext.unheaded (ctx : SteeringContext) : SteeringContext :=
  { ctx with snapshot := AgentStates.unheaded ctx.snapshot }

namespace SteeringContext

variable (ctx : SteeringContext)

theorem agent?_unheaded (id : String) :
    ctx.unheaded.agent? id = (ctx.agent? id).map (·.unheaded) :=
  AgentStates.get?_unheaded ctx.snapshot id

/-- Positions do not depend on headings. -/
theorem position?_unheaded (id : String) : ctx.unheaded.position? id = ctx.position? id := by
  have found := AgentStates.get?_unheaded ctx.snapshot id
  unfold position? unheaded
  dsimp only
  rw [found]
  cases ctx.snapshot.get? id <;> rfl

/-- Where a target is does not depend on headings. -/
theorem target?_unheaded (target : Target) : ctx.unheaded.target? target = ctx.target? target := by
  cases target with
  | object id => exact ctx.position?_unheaded id
  | point position => rfl

theorem others_unheaded : ctx.unheaded.others = ctx.others.map (·.unheaded) := by
  simp only [others, unheaded, AgentStates.unheaded, IdMap.mapValues, List.filter_map, List.map_map]
  rfl

end SteeringContext

/-! ### Steering -/

namespace Steering

section Neighbors

variable (s : AgentState) (neighbors : List AgentState) (radius maxSpeed : Float32)

/-- Separation does not depend on headings. -/
theorem separate_unheaded :
    separate s.unheaded (neighbors.map (·.unheaded)) radius maxSpeed =
      separate s neighbors radius maxSpeed := by
  simp only [separate, List.filter_map, List.isEmpty_map, List.foldl_map, List.length_map]
  rfl

theorem within_unheaded :
    within s.unheaded (neighbors.map (·.unheaded)) radius =
      (within s neighbors radius).map (·.unheaded) := by
  simp only [within, List.filter_map]
  rfl

theorem align_unheaded :
    align s.unheaded (neighbors.map (·.unheaded)) radius maxSpeed =
      align s neighbors radius maxSpeed := by
  simp only [align, within_unheaded, List.isEmpty_map, List.map_map]
  rfl

/-- Cohesion does not depend on headings. -/
theorem cohere_unheaded :
    cohere s.unheaded (neighbors.map (·.unheaded)) radius maxSpeed =
      cohere s neighbors radius maxSpeed := by
  simp only [cohere, within_unheaded, List.isEmpty_map, List.map_map]
  rfl

end Neighbors

variable (ctx : SteeringContext) (s : AgentState) (random random' : Random)

/-- The force of a behavior that does not wander is the same without headings and with another
random stream, and so is what it makes of the agent. -/
theorem force?_unheaded {behavior : Behavior} (steady : behavior.wanders = false) :
    force? behavior ctx.unheaded ⟨s.unheaded, random'⟩ =
      ((force? behavior ctx ⟨s, random⟩).1,
        ⟨(force? behavior ctx ⟨s, random⟩).2.state.unheaded, random'⟩) := by
  cases behavior with
  | wander strength speed => cases steady
  | seek target | flee target _ | arrive target _ | fastBreak target =>
    simp only [force?, forceM?, ctx.target?_unheaded target]
    rfl
  | pursue agent | evade agent _ | guard agent | setScreen agent _ =>
    simp only [force?, forceM?, ctx.agent?_unheaded agent, Option.map_map]
    rfl
  | separate radius =>
    simp only [force?, forceM?, ctx.others_unheaded, separate_unheaded]
    rfl
  | align radius =>
    simp only [force?, forceM?, ctx.others_unheaded, align_unheaded]
    rfl
  | cohere radius =>
    simp only [force?, forceM?, ctx.others_unheaded, cohere_unheaded]
    rfl
  | followPath path looped => cases path <;> rfl
  | maintainZone _ | defendZone _ | unknown => rfl

/-- A behavior that does not wander adds the same force with headings aside and draws no random
number. -/
theorem addForce_unheaded (sum : Vec2) {b : WeightedBehavior}
    (steady : b.behavior.wanders = false) :
    addForce ctx.unheaded (sum, ⟨s.unheaded, random'⟩) b =
      ((addForce ctx (sum, ⟨s, random⟩) b).1,
        ⟨(addForce ctx (sum, ⟨s, random⟩) b).2.state.unheaded, random'⟩) := by
  simp only [addForce_eq, force?_unheaded ctx s random random' steady]
  rcases force? b.behavior ctx ⟨s, random⟩ with ⟨_ | force, a⟩ <;> rfl

/-- All behaviors of an agent that does not wander come to the same without headings and with
another random stream. -/
theorem steeringForce_unheaded {behaviors : List WeightedBehavior} (steady : Steady behaviors) :
    steeringForce behaviors ctx.unheaded ⟨s.unheaded, random'⟩ =
      ((steeringForce behaviors ctx ⟨s, random⟩).1,
        ⟨(steeringForce behaviors ctx ⟨s, random⟩).2.state.unheaded, random'⟩) := by
  have folded (sum : Vec2) :
      behaviors.foldl (addForce ctx.unheaded) (sum, ⟨s.unheaded, random'⟩) =
        ((behaviors.foldl (addForce ctx) (sum, ⟨s, random⟩)).1,
          ⟨(behaviors.foldl (addForce ctx) (sum, ⟨s, random⟩)).2.state.unheaded, random'⟩) := by
    -- What one behavior leaves, its random stream included, is what the next one starts from.
    induction behaviors generalizing sum s random with
    | nil => rfl
    | cons b behaviors ih =>
      rw [List.foldl_cons, List.foldl_cons,
        addForce_unheaded ctx s random random' sum (steady b List.mem_cons_self)]
      exact ih _ _ (fun b' inside => steady b' (List.mem_cons_of_mem b inside)) _
  simp only [steeringForce_eq, folded]
  rfl

end Steering

/-! ### Cues -/

/-- An agent starts in the same state for every seed, its heading aside. -/
theorem AgentState.spawn_unheaded (o : SceneObject) {ctx ctx' : FrameContext}
    (alike : ctx'.unseeded = ctx.unseeded) :
    (spawn o ctx').unheaded = (spawn o ctx).unheaded := by
  have same (ctx : FrameContext) : (spawn o ctx.unseeded).unheaded = (spawn o ctx).unheaded := by
    simp only [spawn_eq, unheaded]
    rfl
  rw [← same, alike, same]

namespace Cue

variable {scene : Scene} {ctx ctx' : FrameContext} {states states' : AgentStates}

section

variable (alike : ctx'.unseeded = ctx.unseeded) (same : unheaded states' = unheaded states)

include alike same

/-- The current state of an agent, its heading aside. -/
theorem getD_spawn_unheaded (id : String) (o : SceneObject) :
    ((states'.get? id).getD (AgentState.spawn o ctx')).unheaded =
      ((states.get? id).getD (AgentState.spawn o ctx)).unheaded := by
  have found : (states'.get? id).map (·.unheaded) = (states.get? id).map (·.unheaded) := by
    rw [← AgentStates.get?_unheaded, ← AgentStates.get?_unheaded, same]
  rw [← Option.getD_map AgentState.unheaded, ← Option.getD_map AgentState.unheaded, found,
    AgentState.spawn_unheaded o alike]

/-- A change that does not touch the heading is the same for every seed. -/
theorem unheaded_change (id : String) {f : AgentState → AgentState}
    (apart : ∀ s, (f s).unheaded = f s.unheaded) :
    unheaded (change scene ctx' states' id f) = unheaded (change scene ctx states id f) := by
  rw [change_eq, change_eq]
  split
  · exact same
  · rename_i o _
    rw [AgentStates.unheaded_insert, AgentStates.unheaded_insert, same, apart, apart,
      getD_spawn_unheaded alike same id o]

/-- Performing a write on states that are alike but for headings leaves them so. -/
theorem unheaded_perform (write : Write) :
    unheaded (write.perform scene ctx' states') = unheaded (write.perform scene ctx states) := by
  cases write with
  | assign id behaviors => exact unheaded_change alike same id fun _ => rfl
  | put id place => exact unheaded_change alike same id fun _ => rfl
  | drop id =>
    have apart (other : String) (s : AgentState) :
        (if other = id then dropOverride s else s).unheaded =
          if other = id then dropOverride s.unheaded else s.unheaded := by
      split <;> rfl
    simp only [Write.perform, IdMap.update, AgentStates.unheaded_mapValues _ apart, same]
  | dropAll =>
    have apart (_ : String) (s : AgentState) :
        (dropOverride s).unheaded = dropOverride s.unheaded := rfl
    simp only [Write.perform, AgentStates.unheaded_mapValues _ apart, same]

/-- Cues do the same for every seed, headings aside. -/
theorem unheaded_applyAll :
    unheaded (applyAll scene ctx' states') = unheaded (applyAll scene ctx states) := by
  have canvas : ctx'.canvas = ctx.canvas := (congrArg FrameContext.canvas alike :)
  have frame : ctx'.frame = ctx.frame := (congrArg FrameContext.frame alike :)
  rw [applyAll_eq_foldl, applyAll_eq_foldl, canvas, frame]
  generalize writes scene ctx.canvas ctx.frame = writes
  induction writes generalizing states states' with
  | nil => exact same
  | cons write writes ih => exact ih (unheaded_perform alike same write)

end

end Cue

end Playfield
