import Playfield.Proofs.Frame.Commands
import Playfield.Proofs.StableSort

/-!
The order in which the commands of a frame are drawn.

Commands stand by layer, and those of one layer in the order of resolution
(`resolve_commands_arranged`). That is the order of declaration where every object is declared after
its parent; a child that is declared first is drawn after its parent all the same
(`childFirst_not_declared`).
-/

namespace Playfield

namespace DrawCommand

open Binary32 (rank)

/-- Arranged commands stand in the order of their layers. -/
theorem pairwise_sortByLayer (commands : List DrawCommand) :
    (sortByLayer commands).Pairwise fun a b => rank a.layer ≤ rank b.layer :=
  StableSort.pairwise_mergeSort (fun c : DrawCommand => rank c.layer) commands

/-- The commands of each layer stay in their order. -/
theorem filter_layer_sortByLayer (commands : List DrawCommand) (layer : Int) :
    (sortByLayer commands).filter (fun c => rank c.layer = layer) =
      commands.filter fun c => rank c.layer = layer :=
  StableSort.filter_key_mergeSort (fun c : DrawCommand => rank c.layer) commands layer

/-- Some of the arranged commands are these commands, arranged. -/
theorem filter_sortByLayer (commands : List DrawCommand) (keep : DrawCommand → Bool) :
    (sortByLayer commands).filter keep = sortByLayer (commands.filter keep) :=
  StableSort.filter_mergeSort (fun c : DrawCommand => rank c.layer) commands keep

/-- Sorting does nothing to commands that are in order. -/
theorem sortByLayer_of_pairwise {commands : List DrawCommand}
    (sorted : commands.Pairwise fun a b => rank a.layer ≤ rank b.layer) :
    sortByLayer commands = commands :=
  (StableSort.eq_mergeSort sorted fun _ => rfl).symm

end DrawCommand

namespace Frame

open Binary32 (rank)

variable {scene : Scene} {ctx : FrameContext} {previous : AgentStates}

/-- The commands of a frame are those of its visible objects, the layers never going down, and the
commands of one layer follow the order of resolution. So they are arranged as declared wherever
resolving changes nothing about that order. -/
theorem resolve_commands_arranged (distinct : scene.DistinctIds) :
    let commands := (resolve scene ctx previous).commands
    commands.Perm (scene.objects.filterMap (drawn? scene ctx previous)) ∧
      commands.Pairwise (fun a b => rank a.layer ≤ rank b.layer) ∧
      (∀ layer : Int, commands.filter (fun c => rank c.layer = layer) =
        ((Order.dependencyOrder scene.objects).filterMap (drawn? scene ctx previous)).filter
          fun c => rank c.layer = layer) ∧
      (Order.dependencyOrder scene.objects = scene.objects →
        commands = DrawCommand.sortByLayer (scene.objects.filterMap (drawn? scene ctx previous))) := by
  have resolved := resolve_commands ctx previous distinct
  have perm := (Order.dependencyOrder_perm scene.objects).filterMap (drawn? scene ctx previous)
  refine ⟨?_, ?_, fun layer => ?_, fun unchanged => ?_⟩
  · rw [resolved]
    exact (List.mergeSort_perm _ _).trans perm
  · rw [resolved]
    exact DrawCommand.pairwise_sortByLayer _
  · rw [resolved]
    exact DrawCommand.filter_layer_sortByLayer _ layer
  · rw [resolved, unchanged]

def badge : SceneObject :=
  { id := "badge", parent := some "base", kind := .ellipse {} }

def base : SceneObject :=
  { id := "base", kind := .ellipse {} }

def openingContext : FrameContext :=
  ⟨0, 0, ⟨800, 600⟩, 0⟩

/-- A base, and the badge that is pinned to it. -/
def parentFirst : Scene where
  objects := [base, badge]

/-- The commands of a base and its badge, declared in this order. -/
theorem resolve_commands_arranged_parentFirst :
    parentFirst.DistinctIds ∧ Order.dependencyOrder parentFirst.objects = parentFirst.objects ∧
      (resolve parentFirst openingContext .empty).commands =
        DrawCommand.sortByLayer (parentFirst.objects.filterMap
          (drawn? parentFirst openingContext .empty)) := by
  have distinct : parentFirst.DistinctIds := by decide
  have unchanged : Order.dependencyOrder parentFirst.objects = parentFirst.objects := rfl
  exact ⟨distinct, unchanged, (resolve_commands_arranged distinct).2.2.2 unchanged⟩

/-- The badge declared ahead of its base. -/
def childFirst : Scene where
  objects := [badge, base]

/-- The base has its turn before the badge that is declared ahead of it. -/
theorem dependencyOrder_childFirst : Order.dependencyOrder childFirst.objects = [base, badge] := rfl

/-- Commands of one layer need not stand in the order in which their objects are declared. -/
theorem childFirst_not_declared :
    childFirst.DistinctIds ∧
      (resolve childFirst openingContext .empty).commands.map (·.objectId) = ["base", "badge"] ∧
      (DrawCommand.sortByLayer (childFirst.objects.filterMap
        (drawn? childFirst openingContext .empty))).map (·.objectId) = ["badge", "base"] := by
  have distinct : childFirst.DistinctIds := by decide
  obtain ⟨c, drawn⟩ : ∃ c, drawn? childFirst openingContext .empty badge = some c := ⟨_, rfl⟩
  obtain ⟨d, drawn'⟩ : ∃ d, drawn? childFirst openingContext .empty base = some d := ⟨_, rfl⟩
  obtain ⟨named, layer, -⟩ := command?_eq_some drawn
  obtain ⟨named', layer', -⟩ := command?_eq_some drawn'
  -- Both stand on layer zero, so sorting leaves either order as it is.
  have level : rank c.layer = rank d.layer := by rw [layer, layer']; rfl
  have resolved := resolve_commands openingContext .empty distinct
  rw [dependencyOrder_childFirst, List.filterMap_cons_some drawn', List.filterMap_cons_some drawn,
    List.filterMap_nil, DrawCommand.sortByLayer_of_pairwise (by simp [level])] at resolved
  have declared : childFirst.objects.filterMap (drawn? childFirst openingContext .empty) =
      [c, d] := by
    change [badge, base].filterMap _ = _
    rw [List.filterMap_cons_some drawn, List.filterMap_cons_some drawn', List.filterMap_nil]
  rw [resolved, declared, DrawCommand.sortByLayer_of_pairwise (by simp [level])]
  refine ⟨distinct, ?_, ?_⟩
  · simp [named, named', badge, base]
  · simp [named, named', badge, base]

end Frame

end Playfield
