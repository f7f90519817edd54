import Playfield.Proofs.Agent.Writes
import Playfield.Proofs.Frame.Layers
import Playfield.Proofs.Order.Appended

/-!
One object more, declared last.

An object that is no agent and that no object of the scene mentions is resolved after all others, so
nothing that they come to depends on it, whatever their formulas and behaviors say about its id.
Cues pass it over (`Cue.applyAll_append`), and a frame gains its entry and its command and is
otherwise the same (`Frame.adds_resolve`).
-/

namespace Playfield

/-- Two maps that agree on every id but one. -/
def IdMap.AgreeBut {α : Type} (m : IdMap α) (id : String) (m' : IdMap α) : Prop :=
  ∀ other, other ≠ id → m'.get? other = m.get? other

theorem IdMap.AgreeBut.refl {α : Type} (id : String) (m : IdMap α) : m.AgreeBut id m :=
  fun _ _ => rfl

/-! ### Scenes -/

namespace Scene

/-- A scene with one object more, declared last. -/
def append (scene : Scene) (o : SceneObject) : Scene :=
  { scene with objects := scene.objects ++ [o] }

/-- An object that is no agent, with an id that no object of a scene has or names as its parent. -/
structure Bystander (scene : Scene) (o : SceneObject) : Prop where
  noAgent : o.isAgent = false
  unmentioned : Order.Unmentioned scene.objects o.id

variable {scene : Scene} {o : SceneObject}

/-- A bystander has its turn last and leaves the order of the others. -/
theorem Bystander.dependencyOrder_append (bystander : scene.Bystander o) :
    Order.dependencyOrder (scene.append o).objects =
      Order.dependencyOrder scene.objects ++ [o] :=
  Order.dependencyOrder_append bystander.unmentioned

/-- The appended object is found where no other one has its id. -/
theorem find?_append (id : String) :
    (scene.append o).find? id = (scene.find? id).or (if o.id = id then some o else none) := by
  simp [find?, append, List.find?_append]

/-- An appended object that is no agent leaves the agents as they are. -/
theorem agents_append (noAgent : o.isAgent = false) : (scene.append o).agents = scene.agents := by
  simp [agents, append, noAgent]

/-- The agent found under an id is the same. -/
theorem filter_find?_append (noAgent : o.isAgent = false) (id : String) :
    ((scene.append o).find? id).filter (·.isAgent) = (scene.find? id).filter (·.isAgent) := by
  rw [find?_append]
  cases scene.find? id with
  | some q => rfl
  | none => split <;> simp [noAgent]

end Scene

/-! ### Cues -/

namespace Cue

variable {scene : Scene} {o : SceneObject} (ctx : FrameContext)

section

variable (noAgent : o.isAgent = false)

include noAgent

theorem change_append (states : AgentStates) (id : String) (f : AgentState → AgentState) :
    change (scene.append o) ctx states id f = change scene ctx states id f := by
  rw [change_eq, change_eq, Scene.filter_find?_append noAgent]

/-- Cues do to the agents what they do without the object. -/
theorem applyAll_append (states : AgentStates) :
    applyAll (scene.append o) ctx states = applyAll scene ctx states := by
  have same : SameScript scene (scene.append o) :=
    ⟨rfl, rfl, rfl, by rw [Scene.agents_append noAgent]⟩
  exact applyAll_congr same (change_append ctx noAgent) states

end

end Cue

/-! ### Frames -/

namespace Frame

/-- What the first frame says, the second says as well; it says more of one id only. -/
structure Adds (id : String) (f f' : Frame) : Prop where
  states : f'.states = f.states
  objects : f.objects.AgreeBut id f'.objects
  commands : f'.commands.filter (·.objectId != id) = f.commands

variable {scene : Scene} {o : SceneObject} (ctx : FrameContext) (previous : AgentStates)

/-- With a bystander the agents begin the frame in the same states. -/
theorem startStates_append (bystander : scene.Bystander o) :
    startStates (scene.append o) ctx previous = startStates scene ctx previous := by
  simp only [startStates, bystander.dependencyOrder_append, snapshot_eq, List.filter_append,
    List.filter_singleton, bystander.noAgent, cond_false, List.append_nil]

/-- The object has its turn when all others have had theirs. -/
theorem final_append (bystander : scene.Bystander o) :
    final (scene.append o) ctx previous =
      (final scene ctx previous).resolve ctx (startStates scene ctx previous) o := by
  rw [final, startStates_append ctx previous bystander, bystander.dependencyOrder_append,
    List.foldl_append]
  rfl

/-- It leaves no state. -/
theorem nextState?_bystander (bystander : scene.Bystander o) (p : Progress) :
    p.nextState? ctx (startStates scene ctx previous) o = none := by
  have noAgent : o.agent? = none := by
    simpa [SceneObject.isAgent] using bystander.noAgent
  have noStart : (startStates scene ctx previous).get? o.id = none :=
    startStates_get?_eq_none fun q member _ => bystander.unmentioned.undeclared q member
  rw [Progress.nextState?, noAgent, noStart]
  split <;> rfl

/-- A command that is not there yet is drawn by one of the objects that are resolved. -/
theorem objectId_of_mem_foldl_resolve {ctx : FrameContext} {snap : AgentStates}
    {objects : List SceneObject} {p : Progress} {c : DrawCommand}
    (inside : c ∈ (objects.foldl (Progress.resolve ctx snap) p).commands) :
    c ∈ p.commands ∨ ∃ q ∈ objects, c.objectId = q.id := by
  induction objects generalizing p with
  | nil => exact .inl inside
  | cons q rest ih =>
    rcases ih inside with before | ⟨r, member, same⟩
    · rw [commands_resolve, List.mem_append] at before
      rcases before with before | own
      · exact .inl before
      · exact .inr ⟨q, List.mem_cons_self, (command?_eq_some (Option.mem_toList.mp own)).1⟩
    · exact .inr ⟨r, List.mem_cons_of_mem q member, same⟩

/-- A frame with a bystander more says about everything else what it says without it. -/
theorem adds_resolve (bystander : scene.Bystander o) :
    Adds o.id (resolve scene ctx previous) (resolve (scene.append o) ctx previous) := by
  rw [resolve_eq_final, resolve_eq_final, final_append ctx previous bystander]
  refine ⟨?_, fun other different => (sameAt_resolve different).objects, ?_⟩
  · simp only [states_resolve, nextState?_bystander ctx previous bystander]
  · have own : ((final scene ctx previous).command? ctx
        (startStates scene ctx previous) o).toList.filter (·.objectId != o.id) = [] := by
      refine List.filter_eq_nil_iff.mpr fun c inside => ?_
      simp [(command?_eq_some (Option.mem_toList.mp inside)).1]
    have others : (final scene ctx previous).commands.filter (·.objectId != o.id) =
        (final scene ctx previous).commands := by
      refine List.filter_eq_self.mpr fun c inside => bne_iff_ne.mpr fun same => ?_
      rcases objectId_of_mem_foldl_resolve inside with none | ⟨q, member, same'⟩
      · exact absurd none List.not_mem_nil
      · exact bystander.unmentioned.undeclared q (mem_dependencyOrder.mp member)
          (same'.symm.trans same)
    simp only [DrawCommand.filter_sortByLayer, commands_resolve, List.filter_append, own, others,
      List.append_nil]

end Frame

end Playfield
