import Mathlib.Data.List.TakeWhile
import Playfield.Proofs.Agent.Cue
import Playfield.Proofs.Frame.Plain
import Playfield.Proofs.Order.ParentsFirst

/-!
What one object does to a frame, and when.

Resolving an object touches the frame only under the object's own id (`sameAt_resolve`). With ids
that differ, what the frame says in the end about an object is therefore what the object has entered
when it had its turn (`sameAt_final`), and its turn comes after that of the objects before it in the
order of resolution (`turn`). For the states of agents this gives a closed form
(`resolve_states_get?`).
-/

namespace Playfield

namespace Frame

/-! ### Snapshots -/

section Snapshot

variable {objects : List SceneObject} {previous : AgentStates} {ctx : FrameContext}

/-- The ids of a snapshot differ if those of the objects do. -/
theorem nodup_snapshot_ids (distinct : (objects.map (·.id)).Nodup) :
    (((objects.filter (·.isAgent)).map fun o =>
      (o.id, (previous.get? o.id).getD (AgentState.spawn o ctx))).map (·.1)).Nodup := by
  rw [List.map_map]
  exact distinct.sublist (List.filter_sublist.map _)

/-- With ids that differ, the snapshot has every agent in its current state. -/
theorem snapshot_get?_agent (distinct : (objects.map (·.id)).Nodup) {o : SceneObject}
    (member : o ∈ objects) (agent : o.isAgent) :
    (snapshot objects previous ctx).get? o.id = some (AgentState.current previous ctx o) := by
  rw [snapshot_eq]
  exact IdMap.get?_ofList_of_mem (nodup_snapshot_ids distinct)
    (List.mem_map.mpr ⟨o, List.mem_filter.mpr ⟨member, agent⟩, rfl⟩)

/-- The snapshot has nobody but agents. -/
theorem snapshot_get?_eq_none {id : String}
    (absent : ∀ o ∈ objects, o.isAgent → o.id ≠ id) :
    (snapshot objects previous ctx).get? id = none := by
  rw [snapshot_eq]
  refine IdMap.get?_ofList_eq_none fun pair member => ?_
  obtain ⟨o, inside, rfl⟩ := List.mem_map.mp member
  obtain ⟨declared, agent⟩ := List.mem_filter.mp inside
  exact absent o declared agent

/-- The snapshot does not depend on the order of the objects. -/
theorem snapshot_perm {objects' : List SceneObject} (distinct : (objects.map (·.id)).Nodup)
    (perm : objects'.Perm objects) :
    snapshot objects' previous ctx = snapshot objects previous ctx := by
  have distinct' : (objects'.map (·.id)).Nodup := (perm.map _).nodup_iff.mpr distinct
  refine IdMap.ext_get? fun id => ?_
  by_cases agent : ∃ o ∈ objects, o.isAgent ∧ o.id = id
  · obtain ⟨o, member, agent, rfl⟩ := agent
    rw [snapshot_get?_agent distinct member agent,
      snapshot_get?_agent distinct' (perm.mem_iff.mpr member) agent]
  · have absent : ∀ o ∈ objects, o.isAgent → o.id ≠ id :=
      fun o member isAgent same => agent ⟨o, member, isAgent, same⟩
    rw [snapshot_get?_eq_none absent,
      snapshot_get?_eq_none fun o member => absent o (perm.mem_iff.mp member)]

end Snapshot

/-! ### Resolving one object -/

/-- Two stages of a frame say the same about an id. -/
structure SameAt (id : String) (p q : Progress) : Prop where
  states : p.states.get? id = q.states.get? id
  published : p.published.get? id = q.published.get? id
  objects : p.objects.get? id = q.objects.get? id

theorem SameAt.refl (id : String) (p : Progress) : SameAt id p p :=
  ⟨rfl, rfl, rfl⟩

theorem SameAt.trans {id : String} {p q r : Progress} (h : SameAt id p q) (h' : SameAt id q r) :
    SameAt id p r :=
  ⟨h.states.trans h'.states, h.published.trans h'.published, h.objects.trans h'.objects⟩

section Resolve

variable {ctx : FrameContext} {snap : AgentStates} {p : Progress} {o : SceneObject}

/-- Entering says nothing about other ids. -/
theorem sameAt_enter {id : String} (different : id ≠ o.id) (position : Vec2)
    (velocity : Option Vec2) (scope : Formula.Scope) :
    SameAt id (p.enter o position velocity scope) p :=
  ⟨by simp, by simp [IdMap.get?_insert, different], by simp [IdMap.get?_insert, different]⟩

/-- An object enters nothing under the id of another one. -/
theorem sameAt_resolve {id : String} (different : id ≠ o.id) :
    SameAt id (p.resolve ctx snap o) p := by
  rw [Progress.resolve_eq]
  split
  · split
    · exact .refl id p
    · rename_i agent _
      have entered := sameAt_enter (p := p) different
        (stepAgent o agent snap p.published ctx).position
        (some (stepAgent o agent snap p.published ctx).velocity) (p.scope ctx o)
      exact ⟨by rw [IdMap.get?_insert, if_neg different], entered.published, entered.objects⟩
    · exact sameAt_enter different _ _ _
  · unfold Progress.carry
    split
    · exact ⟨by rw [IdMap.get?_insert, if_neg different], rfl, rfl⟩
    · exact .refl id p

theorem sameAt_foldl_resolve {id : String} {objects : List SceneObject}
    (absent : ∀ o ∈ objects, o.id ≠ id) :
    SameAt id (objects.foldl (Progress.resolve ctx snap) p) p := by
  induction objects generalizing p with
  | nil => exact .refl id p
  | cons o objects ih =>
    rw [List.foldl_cons]
    exact (ih fun o' member => absent o' (List.mem_cons_of_mem o member)).trans
      (sameAt_resolve (absent o List.mem_cons_self).symm)

/-- An object is visible where its turn finds the frame. -/
def Progress.sees (p : Progress) (ctx : FrameContext) (o : SceneObject) : Bool :=
  Formula.settleTruth o.visible true (p.scope ctx o)

/-- The state that an object leaves for the next frame, if it leaves one. -/
def Progress.nextState? (p : Progress) (ctx : FrameContext) (snap : AgentStates)
    (o : SceneObject) : Option AgentState :=
  if p.sees ctx o then o.agent?.map fun agent => stepAgent o agent snap p.published ctx
  else (snap.get? o.id).map fun s => { s with keyframe := none }

/-- The turn of an object leaves its next state, if it leaves one. -/
theorem states_resolve :
    (p.resolve ctx snap o).states =
      match p.nextState? ctx snap o with
      | some s => p.states.insert o.id s
      | none => p.states := by
  rw [Progress.resolve_eq]
  unfold Progress.nextState? Progress.sees
  split
  · cases kind : o.kind with
    | agent agent => simp [SceneObject.agent?, kind]
    | _ => simp [SceneObject.agent?, kind]
  · unfold Progress.carry
    cases snap.get? o.id <;> rfl

/-- After its turn the state of an object is the one that it leaves, or the one that was there. -/
theorem states_resolve_get?_self :
    (p.resolve ctx snap o).states.get? o.id =
      (p.nextState? ctx snap o).or (p.states.get? o.id) := by
  rw [states_resolve]
  cases p.nextState? ctx snap o with
  | none => rfl
  | some s => simp [IdMap.get?_insert]

/-- What holds of the states so far and of the one that an object leaves holds of all of them. -/
theorem all_resolve {P : AgentState → Prop} (all : p.states.All P)
    (leaves : ∀ s, p.nextState? ctx snap o = some s → P s) :
    (p.resolve ctx snap o).states.All P := by
  rw [states_resolve]
  cases left : p.nextState? ctx snap o with
  | none => exact all
  | some s => exact all.insert o.id (leaves s left)

end Resolve

/-! ### The turn of an object -/

section Turn

variable (scene : Scene) (ctx : FrameContext) (previous : AgentStates)

/-- The states of the agents of a scene when the frame begins. -/
def startStates : AgentStates :=
  snapshot (Order.dependencyOrder scene.objects) previous ctx

/-- The objects that have their turn before an object. -/
def earlier (o : SceneObject) : List SceneObject :=
  (Order.dependencyOrder scene.objects).takeWhile fun q => q.id != o.id

/-- What a frame has come to when an object has its turn. -/
def turn (o : SceneObject) : Progress :=
  (earlier scene o).foldl (Progress.resolve ctx (startStates scene ctx previous)) Progress.start

/-- What a frame has come to when all objects have had their turn. -/
def final : Progress :=
  (Order.dependencyOrder scene.objects).foldl
    (Progress.resolve ctx (startStates scene ctx previous)) Progress.start

/-- What an agent steers by in its turn. -/
def sight (o : SceneObject) (agent : Agent) : SteeringContext :=
  ⟨o.id, agent.params, startStates scene ctx previous, (turn scene ctx previous o).published⟩

/-- A frame is what it comes to in the end, with the commands arranged. -/
theorem resolve_eq_final : resolve scene ctx previous =
    ⟨DrawCommand.sortByLayer (final scene ctx previous).commands,
      (final scene ctx previous).objects, (final scene ctx previous).states⟩ :=
  resolve_eq ctx scene previous

variable {scene ctx previous}

/-- The objects that have a turn are those of the scene. -/
theorem mem_dependencyOrder {o : SceneObject} :
    o ∈ Order.dependencyOrder scene.objects ↔ o ∈ scene.objects :=
  (Order.dependencyOrder_perm scene.objects).mem_iff

/-- The ids of the turns differ if those of the objects do. -/
theorem nodup_dependencyOrder_ids (distinct : scene.DistinctIds) :
    ((Order.dependencyOrder scene.objects).map (·.id)).Nodup :=
  ((Order.dependencyOrder_perm scene.objects).map _).nodup_iff.mpr distinct

/-- The order of resolution around an object: those before its turn and those after it have other
ids. -/
theorem dependencyOrder_split (distinct : scene.DistinctIds) {o : SceneObject}
    (member : o ∈ scene.objects) :
    ∃ later, Order.dependencyOrder scene.objects = earlier scene o ++ o :: later ∧
      ∀ q ∈ later, q.id ≠ o.id := by
  have ids := nodup_dependencyOrder_ids distinct
  obtain ⟨front, later, split⟩ := List.append_of_mem (mem_dependencyOrder.mpr member)
  rw [split, List.map_append, List.map_cons, List.nodup_append] at ids
  have before : ∀ q ∈ front, (q.id != o.id) = true := fun q inside => bne_iff_ne.mpr
    (ids.2.2 q.id (List.mem_map_of_mem inside) o.id List.mem_cons_self)
  refine ⟨later, ?_, fun q inside same => ?_⟩
  · rw [earlier, split, List.takeWhile_append_of_pos before, List.takeWhile_cons_of_neg (by simp),
      List.append_nil]
  · exact (List.nodup_cons.mp ids.2.1).1 (List.mem_map.mpr ⟨q, inside, same⟩)

/-- In the end a frame says of an object what it said right after the object's turn. -/
theorem sameAt_final (distinct : scene.DistinctIds) {o : SceneObject}
    (member : o ∈ scene.objects) :
    SameAt o.id (final scene ctx previous)
      ((turn scene ctx previous o).resolve ctx (startStates scene ctx previous) o) := by
  obtain ⟨later, split, after⟩ := dependencyOrder_split distinct member
  rw [final, split, List.foldl_append, List.foldl_cons]
  exact sameAt_foldl_resolve after

/-- When an object has its turn, nothing is said under its id. -/
theorem sameAt_turn (o : SceneObject) :
    SameAt o.id (turn scene ctx previous o) Progress.start := by
  refine sameAt_foldl_resolve fun q inside => ?_
  simpa using List.mem_takeWhile_imp inside

/-- The state that an object leaves for the next frame is the one that it left in its turn. -/
theorem resolve_states_get? (distinct : scene.DistinctIds) {o : SceneObject}
    (member : o ∈ scene.objects) :
    (resolve scene ctx previous).states.get? o.id =
      (turn scene ctx previous o).nextState? ctx (startStates scene ctx previous) o := by
  rw [resolve_eq_final, (sameAt_final distinct member).states, states_resolve_get?_self,
    (sameAt_turn o).states]
  simp [Progress.start]

/-- What holds of every state that an object can leave holds of all states that the frame leaves. -/
theorem resolve_states_all {P : AgentState → Prop}
    (leaves : ∀ o p s,
      Progress.nextState? p ctx (startStates scene ctx previous) o = some s → P s) :
    (resolve scene ctx previous).states.All P := by
  rw [resolve_eq_final, final]
  have folded (objects : List SceneObject) (p : Progress) (all : p.states.All P) :
      (objects.foldl (Progress.resolve ctx (startStates scene ctx previous)) p).states.All P := by
    induction objects generalizing p with
    | nil => exact all
    | cons o objects ih => exact ih _ (all_resolve all (leaves o p))
  exact folded _ Progress.start .empty

/-- Nothing is left under an id that no object has. -/
theorem resolve_states_get?_eq_none {id : String} (absent : ∀ o ∈ scene.objects, o.id ≠ id) :
    (resolve scene ctx previous).states.get? id = none := by
  rw [resolve_eq_final]
  exact (sameAt_foldl_resolve fun o member => absent o (mem_dependencyOrder.mp member)).states

/-- With ids that differ, an agent begins the frame in its current state. -/
theorem startStates_get?_agent (distinct : scene.DistinctIds) {o : SceneObject}
    (member : o ∈ scene.objects) (agent : o.isAgent) :
    (startStates scene ctx previous).get? o.id = some (AgentState.current previous ctx o) :=
  snapshot_get?_agent (nodup_dependencyOrder_ids distinct) (mem_dependencyOrder.mpr member) agent

/-- The step of an agent begins with its current state, and follows its keyframe where it has one. -/
theorem stepAgent_startStates (distinct : scene.DistinctIds) {o : SceneObject}
    (member : o ∈ scene.objects) {agent : Agent} (is : o.agent? = some agent)
    (published : Formula.Published) :
    stepAgent o agent (startStates scene ctx previous) published ctx =
      match (AgentState.current previous ctx o).keyframe with
      | some place => { AgentState.current previous ctx o with
          position := place, velocity := Vec2.zero, keyframe := none }
      | none => integrate agent ⟨o.id, agent.params, startStates scene ctx previous, published⟩ ctx
          (AgentState.current previous ctx o) := by
  have start : (startStates scene ctx previous).get? o.id =
      some (AgentState.current previous ctx o) :=
    startStates_get?_agent distinct member (SceneObject.isAgent_of_agent? is)
  cases keyframe : (AgentState.current previous ctx o).keyframe with
  | some place => simp only [stepAgent_eq, start, Option.getD_some, keyframe]
  | none => simp only [stepAgent_eq, start, Option.getD_some, keyframe]

/-- An id that no agent has begins the frame without a state. -/
theorem startStates_get?_eq_none {id : String}
    (absent : ∀ o ∈ scene.objects, o.isAgent → o.id ≠ id) :
    (startStates scene ctx previous).get? id = none :=
  snapshot_get?_eq_none fun o member => absent o (mem_dependencyOrder.mp member)

/-- Only objects that had their turn are published. -/
theorem turn_published {o : SceneObject} {id : String} {fields : Formula.Fields}
    (shown : (turn scene ctx previous o).published.get? id = some fields) :
    ∃ q ∈ scene.objects, q.id = id := by
  by_contra absent
  have before : ∀ q ∈ earlier scene o, q.id ≠ id := fun q inside same =>
    absent ⟨q, mem_dependencyOrder.mp (List.takeWhile_subset _ inside), same⟩
  rw [turn, (sameAt_foldl_resolve before).published] at shown
  cases shown

/-! ### Ids that several objects have -/

variable (scene ctx previous) in
/-- No object with the same id has its turn after an object, whose own turn finds the frame at `p`.
-/
def LastTurn (o : SceneObject) (p : Progress) : Prop :=
  ∃ front later, Order.dependencyOrder scene.objects = front ++ o :: later ∧
    p = front.foldl (Progress.resolve ctx (startStates scene ctx previous)) Progress.start ∧
    ∀ q ∈ later, q.id ≠ o.id

/-- With ids that differ, every turn is the last one under its id. -/
theorem lastTurn_turn (distinct : scene.DistinctIds) {o : SceneObject}
    (member : o ∈ scene.objects) :
    LastTurn scene ctx previous o (turn scene ctx previous o) := by
  obtain ⟨later, split, after⟩ := dependencyOrder_split distinct member
  exact ⟨earlier scene o, later, split, rfl, after⟩

/-- What the frame leaves under an id is the step of the last object that has it, if that is a
visible agent. -/
theorem LastTurn.resolve_states_get? {o : SceneObject} {p : Progress}
    (last : LastTurn scene ctx previous o p) {agent : Agent} (is : o.agent? = some agent)
    (visible : p.sees ctx o) :
    (resolve scene ctx previous).states.get? o.id =
      some (stepAgent o agent (startStates scene ctx previous) p.published ctx) := by
  obtain ⟨front, later, split, rfl, after⟩ := last
  rw [resolve_eq_final, final, split, List.foldl_append, List.foldl_cons,
    (sameAt_foldl_resolve after).states, states_resolve_get?_self, Progress.nextState?,
    if_pos visible, is]
  rfl

end Turn

end Frame

end Playfield
