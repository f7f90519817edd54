import Playfield.Proofs.Frame.Turn

/-!
Which commands a frame draws, and in which order.

An object draws at most one command, in its turn (`Progress.command?`). With distinct ids the
commands of a frame are therefore those of the objects in the order of resolution, sorted by layer
(`resolve_commands`).
-/

namespace Playfield.Frame

/-! ### The command of one object -/

section Resolve

variable {ctx : FrameContext} {snap : AgentStates} {p : Progress} {o : SceneObject}

/-- Where an object is when it is visible: an agent where its step takes it, another object at its
anchor. -/
def Progress.standing (p : Progress) (ctx : FrameContext) (snap : AgentStates) (o : SceneObject) :
    Vec2 :=
  match o.agent? with
  | some agent => (stepAgent o agent snap p.published ctx).position
  | none => anchor o (p.scope ctx o)

/-- The command that an object draws in its turn, if it is visible and has a figure. -/
def Progress.command? (p : Progress) (ctx : FrameContext) (snap : AgentStates)
    (o : SceneObject) : Option DrawCommand :=
  let scope := p.scope ctx o
  if p.sees ctx o then
    (figure? o (p.standing ctx snap o) scope).map fun f =>
      ⟨o.id, f, Formula.settleNumber o.opacity 1 scope, o.layer⟩
  else none

/-- The turn of an object adds its command, if it draws one. -/
theorem commands_resolve :
    (p.resolve ctx snap o).commands = p.commands ++ (p.command? ctx snap o).toList := by
  rw [Progress.resolve_eq]
  unfold Progress.command? Progress.sees Progress.standing
  dsimp only
  split
  · cases kind : o.kind with
    | unknown => simp [figure?, figureM?, kind]
    | agent agent => simp [SceneObject.agent?, kind]
    | _ => simp [SceneObject.agent?, kind]
  · unfold Progress.carry
    cases snap.get? o.id <;> simp

/-- The objects themselves draw no trails. -/
theorem isTrail_of_figure? {position : Vec2} {scope : Formula.Scope} {f : Figure}
    (drawn : figure? o position scope = some f) : f.isTrail = false := by
  unfold figure? figureM? at drawn
  split at drawn <;> cases drawn <;> rfl

/-- A command bears the id and the layer of its object and is no trail. -/
theorem command?_eq_some {c : DrawCommand} (drawn : p.command? ctx snap o = some c) :
    c.objectId = o.id ∧ c.layer = o.layer ∧ c.figure.isTrail = false := by
  unfold Progress.command? at drawn
  dsimp only at drawn
  split at drawn
  · obtain ⟨f, shape, rfl⟩ := Option.map_eq_some_iff.mp drawn
    exact ⟨rfl, rfl, isTrail_of_figure? shape⟩
  · cases drawn

/-- Resolving objects adds no trails. -/
theorem isTrail_of_mem_foldl_resolve {objects : List SceneObject}
    (plain : ∀ c ∈ p.commands, c.figure.isTrail = false) :
    ∀ c ∈ (objects.foldl (Progress.resolve ctx snap) p).commands, c.figure.isTrail = false := by
  induction objects generalizing p with
  | nil => exact plain
  | cons o rest ih =>
    refine ih fun c inside => ?_
    rw [commands_resolve] at inside
    rcases List.mem_append.mp inside with inside | inside
    · exact plain c inside
    · exact (command?_eq_some (Option.mem_toList.mp inside)).2.2

end Resolve

/-! ### All commands -/

/-- No command of a frame is a trail, whatever its objects are called. -/
theorem isTrail_of_mem_commands {scene : Scene} {ctx : FrameContext} {previous : AgentStates}
    {c : DrawCommand} (inside : c ∈ (resolve scene ctx previous).commands) :
    c.figure.isTrail = false := by
  rw [resolve_eq] at inside
  exact isTrail_of_mem_foldl_resolve (fun _ none => absurd none List.not_mem_nil) c
    (List.mem_mergeSort.mp inside)

/-- The commands after some objects with distinct ids: each draws what it draws after those before
it. -/
theorem commands_foldl_resolve {ctx : FrameContext} {snap : AgentStates}
    {objects : List SceneObject} (distinct : (objects.map (·.id)).Nodup) (p : Progress) :
    (objects.foldl (Progress.resolve ctx snap) p).commands =
      p.commands ++ objects.filterMap fun o =>
        ((objects.takeWhile fun q => q.id != o.id).foldl (Progress.resolve ctx snap) p).command?
          ctx snap o := by
  induction objects generalizing p with
  | nil => simp
  | cons first rest ih =>
    obtain ⟨new, distinct'⟩ := List.nodup_cons.mp distinct
    have own : (first :: rest).takeWhile (fun q => q.id != first.id) = [] :=
      List.takeWhile_cons_of_neg (by simp)
    -- No later object has the id of the first, so the first stands before each of them.
    have later : ∀ o ∈ rest, (first :: rest).takeWhile (fun q => q.id != o.id) =
        first :: rest.takeWhile fun q => q.id != o.id := by
      intro o inside
      refine List.takeWhile_cons_of_pos (bne_iff_ne.mpr fun same => new ?_)
      exact List.mem_map.mpr ⟨o, inside, same.symm⟩
    have after : (rest.filterMap fun o =>
        (((first :: rest).takeWhile fun q => q.id != o.id).foldl (Progress.resolve ctx snap) p).command?
          ctx snap o) =
        rest.filterMap fun o => ((rest.takeWhile fun q => q.id != o.id).foldl
          (Progress.resolve ctx snap) (p.resolve ctx snap first)).command? ctx snap o :=
      List.filterMap_congr fun o inside => by rw [later o inside, List.foldl_cons]
    rw [List.foldl_cons, ih distinct', commands_resolve, List.filterMap_cons, own, List.foldl_nil,
      after]
    cases p.command? ctx snap first <;> simp

section Drawn

variable (scene : Scene) (ctx : FrameContext) (previous : AgentStates)

/-- The command of an object on a frame. -/
def drawn? (o : SceneObject) : Option DrawCommand :=
  (turn scene ctx previous o).command? ctx (startStates scene ctx previous) o

variable {scene}

/-- With ids that differ, the commands of a frame are those of its objects, arranged by layers. -/
theorem resolve_commands (distinct : scene.DistinctIds) :
    (resolve scene ctx previous).commands = DrawCommand.sortByLayer
      ((Order.dependencyOrder scene.objects).filterMap (drawn? scene ctx previous)) := by
  rw [resolve_eq_final, final, commands_foldl_resolve (nodup_dependencyOrder_ids distinct)]
  rfl

end Drawn

end Playfield.Frame
