import Playfield.Proofs.Order.ParentsFirst

/-!
An object declared last that no other one mentions is resolved last.

Such an object is a parent of none (`repeats_linksOf_append`), so the others climb as without it
(`climb_of_repeats`, `climb_succ`), whatever cycles and repeated ids there are among them. When it
has its turn everything is placed, its own parent included, and it comes after all of it
(`dependencyOrder_append`).
-/

namespace Playfield.Order

/-- No object of a list has an id, and none names it as its parent. -/
structure Unmentioned (objects : List SceneObject) (id : String) : Prop where
  undeclared : ∀ q ∈ objects, q.id ≠ id
  childless : ∀ q ∈ objects, q.parent ≠ some id

/-! ### Tables that agree -/

section Tables

variable {links links' : Links}

/-- A table repeats the parents of a shorter one. -/
def Repeats (links links' : Links) : Prop :=
  ∀ i < links.size, parent? links' i = parent? links i

variable (repeats : Repeats links links') (closed : Closed links)

include repeats closed

/-- The longer table has the same paths upwards from the indices of the shorter one. -/
theorem above_of_repeats {i q : Nat} (bound : i < links.size) :
    Above links' i q ↔ Above links i q := by
  constructor
  · intro above
    have : Above links i q ∧ q < links.size := by
      induction above with
      | single step =>
        rw [repeats i bound] at step
        exact ⟨.single step, closed _ _ step⟩
      | tail _ step ih =>
        rw [repeats _ ih.2] at step
        exact ⟨ih.1.tail step, closed _ _ step⟩
    exact this.1
  · intro above
    induction above with
    | single step => exact .single ((repeats i bound).trans step)
    | tail _ step ih => exact ih.tail ((repeats _ (lt_size_of_parent? step)).trans step)

theorem before?_of_repeats {i : Nat} (bound : i < links.size) :
    before? links' i = before? links i := by
  have cycles : onCycle links' i = onCycle links i := by
    rw [Bool.eq_iff_iff, onCycle_iff, onCycle_iff, above_of_repeats repeats closed bound]
  rw [before?_eq, before?_eq, cycles, repeats i bound]

/-- A climb takes the same way in the longer table. -/
theorem climb_of_repeats (placed : List Nat) (steps : Nat) {i : Nat} (bound : i < links.size)
    (below : List Nat) : climb links' placed steps i below = climb links placed steps i below := by
  induction steps generalizing i below with
  | zero => rfl
  | succ steps ih =>
    rw [climb_next, climb_next, before?_of_repeats repeats closed bound]
    cases before : before? links i with
    | none => rfl
    | some p =>
      have bound' : p < links.size := closed i p (before?_eq_some before).1
      simp only [ih bound']

end Tables

/-- Once the steps suffice, one more changes nothing. -/
theorem climb_succ {links : Links} (closed : Closed links) {placed : List Nat} {steps i : Nat}
    {below : List Nat} (chain : (i :: below).IsChain fun p c => before? links c = some p)
    (bound : ∀ c ∈ i :: below, c < links.size) (room : links.size ≤ steps + below.length) :
    climb links placed (steps + 1) i below = climb links placed steps i below := by
  induction steps generalizing i below with
  | zero =>
    have full := length_le_of_isChain chain bound
    rw [List.length_cons] at full
    omega
  | succ steps ih =>
    rw [climb_next, climb_next]
    cases before : before? links i with
    | none => rfl
    | some p =>
      have bound' : ∀ c ∈ p :: i :: below, c < links.size :=
        List.forall_mem_cons.mpr ⟨closed i p (before?_eq_some before).1, bound⟩
      have same := ih (List.isChain_cons_cons.mpr ⟨before, chain⟩) bound'
        (by rw [List.length_cons]; omega)
      simp only [same]

/-- Climbing from an index all alone takes no more steps than the table is long. -/
theorem climb_size_succ {links : Links} (closed : Closed links) (placed : List Nat) {i : Nat}
    (bound : i < links.size) :
    climb links placed (links.size + 1) i [] = climb links placed links.size i [] :=
  climb_succ closed (List.isChain_singleton i) (by simpa using bound) (Nat.le_refl _)

/-! ### One object more -/

variable {objects : List SceneObject} {o : SceneObject}

/-- Parents are found where they were before. -/
theorem Unmentioned.findIdx?_append (unmentioned : Unmentioned objects o.id) {q : SceneObject}
    (member : q ∈ objects) :
    (q.parent.bind fun id => (objects ++ [o]).findIdx? fun p => p.id == id) =
      q.parent.bind fun id => objects.findIdx? fun p => p.id == id := by
  cases named : q.parent with
  | none => rfl
  | some id =>
    have other : o.id ≠ id := by
      rintro rfl
      exact unmentioned.childless q member named
    simp [List.findIdx?_append, other]

/-- The table with the new object repeats the parents of the others. -/
theorem repeats_linksOf_append (unmentioned : Unmentioned objects o.id) :
    Repeats (linksOf objects) (linksOf (objects ++ [o])) := by
  intro i bound
  rw [size_linksOf] at bound
  have bound' : i < (objects ++ [o]).length := by simp; omega
  have same := unmentioned.findIdx?_append (List.getElem_mem bound)
  simp only [parent?, linksOf, List.getElem?_toArray, List.getElem?_map,
    List.getElem?_eq_getElem bound, List.getElem?_append_left bound, Option.map_some, same]

/-- When all others are placed, the last object comes next. -/
theorem climb_last {placed : List Nat} (closed : Closed (linksOf (objects ++ [o])))
    (all : ∀ i, i ∈ placed ↔ i < objects.length) :
    climb (linksOf (objects ++ [o])) placed (objects.length + 1) objects.length [] =
      [objects.length] := by
  have size : (linksOf (objects ++ [o])).size = objects.length + 1 := by simp
  rw [← size]
  refine climb_of_placed (size ▸ Nat.lt_succ_self _) (by simp [all]) ?_
  intro p before
  obtain ⟨parent, offCycle⟩ := before?_eq_some before
  have bound := closed _ _ parent
  have other : p ≠ objects.length := by
    rintro rfl
    rw [onCycle_iff.mpr (.single parent)] at offCycle
    cases offCycle
  exact (all p).mpr (by omega)

/-- An object that is appended and not mentioned comes last in the order. -/
theorem dependencyIndices_append (unmentioned : Unmentioned objects o.id) :
    dependencyIndices (objects ++ [o]) = dependencyIndices objects ++ [objects.length] := by
  have closed := closed_linksOf objects
  have size' : (linksOf (objects ++ [o])).size = objects.length + 1 := by simp
  -- The turns of the others go on as without the new object.
  have others : (List.range objects.length).foldl (fun placed i => placed ++
      climb (linksOf (objects ++ [o])) placed (objects.length + 1) i []) [] =
        dependencyIndices objects := by
    rw [dependencyIndices, indices, size_linksOf]
    refine List.foldl_ext _ _ _ fun placed i member => ?_
    have bound : i < (linksOf objects).size := by simpa using List.mem_range.mp member
    have same := climb_size_succ closed placed bound
    rw [size_linksOf] at same
    rw [climb_of_repeats (repeats_linksOf_append unmentioned) closed placed _ bound, same]
  have all (i : Nat) : i ∈ dependencyIndices objects ↔ i < objects.length := by
    rw [(dependencyIndices_perm objects).mem_iff, List.mem_range]
  rw [dependencyIndices, indices, size', List.range_succ, List.foldl_append, others,
    List.foldl_cons, List.foldl_nil, climb_last (closed_linksOf _) all]

/-- An object that no other one mentions, declared last, is resolved last, and the others are
resolved in their order. -/
theorem dependencyOrder_append (unmentioned : Unmentioned objects o.id) :
    dependencyOrder (objects ++ [o]) = dependencyOrder objects ++ [o] := by
  simp only [dependencyOrder, dependencyIndices_append unmentioned, List.getElem?_toArray,
    List.filterMap_append]
  congr 1
  · refine List.filterMap_congr fun i member => ?_
    have bound := List.mem_range.mp ((dependencyIndices_perm objects).subset member)
    exact List.getElem?_append_left bound
  · simp

end Playfield.Order
