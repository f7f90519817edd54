import Playfield.Proofs.Agent.Confined
import Playfield.Proofs.Scene.DistinctIds

/-!
What cues make of the state of one agent.

The events of a frame leave an agent with other behaviors at most (`rearmed_applyEvents`). The
keyframes then give it the place to which its own ones come, in the order of their frames, and leave
everything else (`current_applyKeyframes`).
-/

namespace Playfield

namespace AgentState

/-- The state of an agent, or the one in which it starts. -/
def current (states : AgentStates) (ctx : FrameContext) (o : SceneObject) : AgentState :=
  (states.get? o.id).getD (spawn o ctx)

/-- After an insertion the agent with the id is in the new state and every other one as it was. -/
theorem current_insert (states : AgentStates) (ctx : FrameContext) (o : SceneObject) (id : String)
    (s : AgentState) :
    current (states.insert id s) ctx o = if o.id = id then s else current states ctx o := by
  unfold current
  rw [IdMap.get?_insert]
  split <;> rfl

end AgentState

namespace Cue

open AgentState (current Rearmed)

variable {scene : Scene} {ctx : FrameContext} {o : SceneObject}

/-- Changing a state changes that of the agent with the id and no other. -/
theorem current_change (first : scene.find? o.id = some o) (agent : o.isAgent)
    (states : AgentStates) (id : String) (f : AgentState → AgentState) :
    current (change scene ctx states id f) ctx o =
      if o.id = id then f (current states ctx o) else current states ctx o := by
  rw [change_eq]
  split_ifs with same
  · subst same
    rw [first, Option.filter_some, if_pos agent]
    simp only [AgentState.current_insert, if_pos]
    rfl
  · split
    · rfl
    · rw [AgentState.current_insert, if_neg same]

/-! ### Events -/

/-- The events of a frame give an agent other behaviors at most. -/
theorem rearmed_applyEvents (first : scene.find? o.id = some o) (states : AgentStates) :
    Rearmed (current states ctx o) (current (applyEvents scene ctx states) ctx o) :=
  (confined_applyEvents scene ctx states).current Rearmed.refl first

/-! ### Keyframes -/

/-- The keyframes of one agent in the order of their frames; those of one frame stay in the order of
the list. -/
def keyframesOf (keyframes : List Keyframe) (id : String) : List Keyframe :=
  (keyframes.filter fun k => k.agent == id).mergeSort fun a b => a.frame ≤ b.frame

/-- Collecting keyframes adds those of an id to its group, in the order of the list. -/
theorem get?_collected (keyframes : List Keyframe) (id : String)
    (groups : IdMap (List Keyframe)) :
    ((keyframes.foldl (fun groups k =>
        groups.insert k.agent ((groups.get? k.agent).getD [] ++ [k])) groups).get? id).getD [] =
      (groups.get? id).getD [] ++ keyframes.filter fun k => k.agent == id := by
  induction keyframes generalizing groups with
  | nil => simp
  | cons k keyframes ih =>
    rw [List.foldl_cons, ih, IdMap.get?_insert]
    by_cases same : id = k.agent
    · rw [if_pos same, Option.getD_some, List.filter_cons_of_pos (by simp [same]),
        List.append_assoc, same]
      rfl
    · rw [if_neg same, List.filter_cons_of_neg (by simpa using Ne.symm same)]

/-- Grouping gives an agent its own keyframes in order. -/
theorem get?_group (keyframes : List Keyframe) (id : String) :
    ((group keyframes).get? id).getD [] = keyframesOf keyframes id := by
  have collected := get?_collected keyframes id .empty
  rw [IdMap.get?_empty, Option.getD_none, List.nil_append] at collected
  rw [group, IdMap.get?_mapValues, keyframesOf, ← collected]
  generalize IdMap.get? _ id = found
  cases found with
  | none => exact List.mergeSort_nil.symm
  | some ks => rfl

/-- An agent with the place where keyframes put it on a frame, if they do. -/
def keyed (scene : Scene) (ctx : FrameContext) (keyframes : List Keyframe) (s : AgentState) :
    AgentState :=
  match interpolate keyframes ctx.frame with
  | some place => { s with keyframe := some ((scene.transform ctx.canvas).apply place) }
  | none => s

/-- The keyframes of one agent. -/
def applyGroup (scene : Scene) (ctx : FrameContext) (states : AgentStates)
    (entry : String × List Keyframe) : AgentStates :=
  match interpolate entry.2 ctx.frame with
  | none => states
  | some place =>
    change scene ctx states entry.1 fun s =>
      { s with keyframe := some ((scene.transform ctx.canvas).apply place) }

/-- The keyframes of a frame are applied group after group. -/
theorem applyKeyframes_eq_foldl (states : AgentStates) :
    applyKeyframes scene ctx states =
      (group scene.keyframes).entries.foldl (applyGroup scene ctx) states :=
  applyKeyframes_eq scene ctx states

/-- Applying a group of keyframes changes the agent that the group is for and no other. -/
theorem current_applyGroup (first : scene.find? o.id = some o) (agent : o.isAgent)
    (states : AgentStates) (entry : String × List Keyframe) :
    current (applyGroup scene ctx states entry) ctx o =
      if o.id = entry.1 then keyed scene ctx entry.2 (current states ctx o)
      else current states ctx o := by
  unfold applyGroup keyed
  cases interpolate entry.2 ctx.frame with
  | none => exact (ite_self _).symm
  | some place => exact current_change first agent states entry.1 _

/-- Keyframes change nothing about an agent but its place for the frame, and that by its own ones.
-/
theorem current_applyKeyframes (first : scene.find? o.id = some o) (agent : o.isAgent)
    (states : AgentStates) :
    current (applyKeyframes scene ctx states) ctx o =
      keyed scene ctx (keyframesOf scene.keyframes o.id) (current states ctx o) := by
  rw [applyKeyframes_eq_foldl, ← get?_group, IdMap.get?]
  have sorted := (group scene.keyframes).sorted
  generalize (group scene.keyframes).entries = entries at sorted
  induction entries generalizing states with
  | nil => rfl
  | cons entry entries ih =>
    obtain ⟨below, sorted⟩ := List.pairwise_cons.mp sorted
    rw [List.foldl_cons, ih _ sorted, current_applyGroup first agent]
    by_cases same : o.id = entry.1
    · -- The ids that follow are greater, so no later keyframes are those of the agent.
      have later : entries.lookup o.id = none := IdMap.lookup_eq_none fun other member clash =>
        String.lt_irrefl o.id (by simpa [clash, same] using below other member)
      rw [later, if_pos same, List.lookup_cons, beq_iff_eq.mpr same]
      rfl
    · rw [if_neg same, IdMap.lookup_cons_of_ne same]

end Cue

end Playfield
