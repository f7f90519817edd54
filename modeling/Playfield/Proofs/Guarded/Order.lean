import Playfield.Proofs.Guarded.Marks

/-!
The order of objects with every access guarded.

Objects are looked up by their indices: for their parents, for whether they are placed and whether
they lie on a cycle, and for themselves in the end. A climb starts at an index of the tables and
goes from parent to parent, and all parents are indices of the tables, so it never leaves them
(`passes_climbG`, `passes_dependencyOrderG`).

Which indices are placed and which lie on a cycle stands in tables here. The climbs over them take
the same steps as without guards (`climbBy`).
-/

namespace Playfield.Order

/-- The parent that must come before an index, with guards. -/
def beforeG? (links : Links) (cyclic : List Bool) (i : Nat) : Guarded (Option Nat) :=
  beforeBy (guardedAt .object cyclic) (parentG? links) i

/-- A climb with guards. -/
def climbG (links : Links) (cyclic placed : List Bool) (steps i : Nat) (below : List Nat) :
    Guarded (List Nat) :=
  climbBy (guardedAt .object placed) (beforeG? links cyclic) steps i below

/-- For each object whether it is placed, and those that are. -/
structure Placing where
  placed : List Bool
  order : List SceneObject

/-- Place an object. -/
def Placing.placeG (objects : List SceneObject) (s : Placing) (i : Nat) : Guarded Placing := do
  let placed ← guardedSet .object s.placed i true
  let o ← guardedAt .object objects i
  return ⟨placed, s.order ++ [o]⟩

/-- Place an object and those of its ancestors that are not placed yet. -/
def Placing.branchG (objects : List SceneObject) (cyclic : List Bool) (s : Placing) (start : Nat) :
    Guarded Placing := do
  let branch ← climbG (linksOf objects) cyclic s.placed objects.length start []
  branch.foldlM (Placing.placeG objects) s

/-- The objects in the order of their resolution, with guards. -/
def dependencyOrderG (objects : List SceneObject) : Guarded (List SceneObject) := do
  let cyclic ← cycleMembersG (linksOf objects)
  let none : Placing := ⟨table objects.length fun _ => false, []⟩
  let all ← (List.range objects.length).foldlM (Placing.branchG objects cyclic) none
  return all.order

section Links

variable {links : Links}

/-- The parent to place before an index is looked up without a fault. -/
theorem passes_beforeG? {i : Nat} (bound : i < links.size) :
    Passes (beforeG? links (table links.size (onCycle links)) i) (before? links i) := by
  refine .bind (.guardedAt_table bound) ?_
  rw [before?_eq]
  split
  · exact .pure none
  · exact passes_parentG? bound

/-- A climb that starts in the tables stays in them. -/
theorem passes_climbG (closed : Closed links) (placed : List Nat) (steps : Nat) {i : Nat}
    (bound : i < links.size) (below : List Nat) :
    Passes
      (climbG links (table links.size (onCycle links)) (table links.size placed.contains) steps i
        below)
      (climb links placed steps i below) := by
  induction steps generalizing i below with
  | zero => exact .pure below
  | succ steps ih =>
    refine .bind (.guardedAt_table bound) ?_
    rw [climb_next]
    split
    · exact .pure below
    · refine .bind (passes_beforeG? bound) ?_
      cases before : before? links i with
      | none => exact .pure _
      | some p => exact ih (closed i p (before?_eq_some before).1) (i :: below)

end Links

section Objects

variable (objects : List SceneObject)

/-- What is placed when the objects at some indices are. -/
def placing (placed : List Nat) : Placing :=
  ⟨table objects.length placed.contains, placed.filterMap fun i => objects[i]?⟩

variable {objects} {placed : List Nat}

/-- Placing an object meets no fault. -/
theorem passes_placeG {i : Nat} (bound : i < objects.length) :
    Passes ((placing objects placed).placeG objects i) (placing objects (placed ++ [i])) := by
  have marked : Passes (guardedSet .object (table objects.length placed.contains) i true)
      (table objects.length (placed ++ [i]).contains) := by
    convert Passes.guardedSet_table bound true using 3 with j
    by_cases same : j = i
    · simp [same]
    · simp [same]
  have at_i : objects[i]? = some objects[i] := List.getElem?_eq_getElem bound
  refine .bind marked (.bind (.guardedAt at_i) ?_)
  have grown : (placed ++ [i]).filterMap (fun i => objects[i]?) =
      placed.filterMap (fun i => objects[i]?) ++ [objects[i]] := by
    rw [List.filterMap_append, List.filterMap_cons_some at_i, List.filterMap_nil]
  rw [placing, placing, grown]
  exact .pure _

theorem passes_foldlM_placeG {branch : List Nat} (bound : ∀ i ∈ branch, i < objects.length) :
    Passes (branch.foldlM (Placing.placeG objects) (placing objects placed))
      (placing objects (placed ++ branch)) := by
  induction branch generalizing placed with
  | nil =>
    rw [List.append_nil]
    exact .pure _
  | cons i branch ih =>
    obtain ⟨first, bound⟩ := List.forall_mem_cons.mp bound
    rw [List.append_cons]
    exact .bind (passes_placeG first) (ih bound)

/-- The objects of a climb are placed one after the other. -/
theorem passes_branchG {start : Nat} (bound : start < objects.length) :
    Passes ((placing objects placed).branchG objects
        (table objects.length (onCycle (linksOf objects))) start)
      (placing objects (placed ++ climb (linksOf objects) placed objects.length start [])) := by
  have closed := closed_linksOf objects
  have size := size_linksOf objects
  have new : ∀ c ∈ ([] : List Nat), c ∉ placed := fun c member => absurd member List.not_mem_nil
  have room : (linksOf objects).size ≤ objects.length + ([] : List Nat).length := size.le
  have ⟨branch, _, _⟩ := climb_branch closed (List.isChain_singleton start)
    (by simpa using bound) new room
  have climbed := passes_climbG closed placed objects.length (size ▸ bound) []
  rw [size] at climbed
  exact .bind climbed (passes_foldlM_placeG fun i member => size ▸ branch.bound i member)

end Objects

/-- Ordering objects meets no fault. -/
theorem passes_dependencyOrderG (objects : List SceneObject) :
    Passes (dependencyOrderG objects) (dependencyOrder objects) := by
  have members := passes_cycleMembersG (closed_linksOf objects)
  rw [size_linksOf] at members
  have placed := Passes.foldlM_represented (placing objects)
    (fun i inside placed => passes_branchG (List.mem_range.mp inside)) []
  refine .bind members (.bind placed ?_)
  simp only [dependencyOrder, dependencyIndices, indices, size_linksOf, List.getElem?_toArray]
  exact .pure _

end Playfield.Order
