import Playfield.Proofs.Order.CycleMembers

/-!
Objects that are in order already.

Where every object stands after its parent, each is placed alone in its own turn, and the order is
that of the declarations (`placedBy_of_before_lt`). The order of any objects is of this kind. An
object with an id that is taken is nobody's parent, so it is not placed before its turn, and the
first object with an id comes first among those with it (`place_lt_of_firstDeclared`). With the
first objects all parents and all cycles are the same before and after (`isParent_place`), and
ordering twice is ordering once (`dependencyOrder_settled`).
-/

namespace Playfield.Order

/-! ### Nothing to move -/

section Links

variable {links : Links}

/-- Where every parent has a smaller index the objects are placed as they stand. -/
theorem placedBy_of_before_lt (ahead : ∀ i p, before? links i = some p → p < i) {n : Nat}
    (bound : n ≤ links.size) : placedBy links n = List.range n := by
  induction n with
  | zero => rfl
  | succ n ih =>
    have new : n ∉ placedBy links n := by
      rw [ih (Nat.le_of_succ_le bound)]
      exact List.not_mem_range_self
    have placed : ∀ p, before? links n = some p → p ∈ placedBy links n := by
      intro p before
      rw [ih (Nat.le_of_succ_le bound)]
      exact List.mem_range.mpr (ahead n p before)
    rw [placedBy_succ, climb_of_placed bound new placed, ih (Nat.le_of_succ_le bound),
      List.range_succ]

end Links

variable {objects : List SceneObject}

/-- Every object off the parent cycles stands after its parent, where that is among the objects. -/
def ParentsAhead (objects : List SceneObject) : Prop :=
  ∀ i p, IsParent objects i p → ¬ OnParentCycle objects i → p < i

/-- Where parents are declared ahead of their children the indices stay in order. -/
theorem dependencyIndices_of_parentsAhead (ahead : ParentsAhead objects) :
    dependencyIndices objects = List.range objects.length := by
  have before_lt : ∀ i p, before? (linksOf objects) i = some p → p < i := by
    intro i p before
    obtain ⟨offCycle, parent⟩ := before?_linksOf.mp before
    exact ahead i p parent offCycle
  rw [dependencyIndices, ← size_linksOf]
  exact placedBy_of_before_lt before_lt (Nat.le_refl _)

/-! ### Places in the order -/

theorem IsParent.child_lt_length {i p : Nat} (parent : IsParent objects i p) :
    i < objects.length := by
  obtain ⟨o, _, at_i, _⟩ := parent
  exact (List.getElem?_eq_some_iff.mp at_i).1

/-- Where an object comes in the order. -/
def place (objects : List SceneObject) (i : Nat) : Nat :=
  (dependencyIndices objects).idxOf i

/-- Off cycles the place of a parent is before that of its child. -/
theorem place_lt_of_isParent {i p : Nat} (parent : IsParent objects i p)
    (offCycle : ¬ OnParentCycle objects i) : place objects p < place objects i := by
  have before : before? (linksOf objects) i = some p := before?_linksOf.mpr ⟨offCycle, parent⟩
  have member : i ∈ dependencyIndices objects :=
    (dependencyIndices_perm objects).mem_iff.mpr (List.mem_range.mpr parent.child_lt_length)
  exact (parentsFirst_indices (closed_linksOf objects)).idxOf_lt member before

theorem getElem?_dependencyOrder (k : Nat) :
    (dependencyOrder objects)[k]? = (dependencyIndices objects)[k]?.bind fun i => objects[i]? := by
  have listed := congrArg (·[k]?.bind id) (map_some_dependencyOrder objects)
  simpa [Option.bind_map, Function.comp_def] using listed

/-- The objects stand at their places. -/
theorem getElem?_place (i : Nat) : (dependencyOrder objects)[place objects i]? = objects[i]? := by
  rw [getElem?_dependencyOrder, place]
  by_cases member : i ∈ dependencyIndices objects
  · rw [List.getElem?_idxOf member, Option.bind_some]
  · rw [List.idxOf_eq_length member, List.getElem?_eq_none (Nat.le_refl _), Option.bind_none]
    rw [(dependencyIndices_perm objects).mem_iff, List.mem_range] at member
    rw [List.getElem?_eq_none (Nat.le_of_not_lt member)]

/-- Every index is the place of an object. -/
theorem exists_place {k : Nat} (bound : k < objects.length) : ∃ i, place objects i = k := by
  have within : k < (dependencyIndices objects).length := by
    rwa [(dependencyIndices_perm objects).length_eq, List.length_range]
  have nodup : (dependencyIndices objects).Nodup :=
    (dependencyIndices_perm objects).nodup_iff.mpr List.nodup_range
  exact ⟨(dependencyIndices objects)[k], nodup.idxOf_getElem k within⟩

/-- Objects in order already are at their own places. -/
theorem place_of_settled (settled : dependencyIndices objects = List.range objects.length) {i : Nat}
    (bound : i < objects.length) : place objects i = i := by
  have within : i < (List.range objects.length).length := by rwa [List.length_range]
  have at_i := List.nodup_range.idxOf_getElem i within
  rwa [List.getElem_range, ← settled] at at_i

/-- No two objects have one place. -/
theorem eq_of_place_eq {i j : Nat} (bound : i < objects.length)
    (same : place objects i = place objects j) : i = j := by
  have member : i ∈ dependencyIndices objects :=
    (dependencyIndices_perm objects).mem_iff.mpr (List.mem_range.mpr bound)
  exact (List.idxOf_inj member).mp same

/-! ### First declarations -/

theorem FirstDeclared.unique {id : String} {f g : Nat} (first : FirstDeclared objects id f)
    (first' : FirstDeclared objects id g) : f = g := by
  rw [firstDeclared_iff_findIdx?] at first first'
  exact Option.some.inj (first.symm.trans first')

/-- Only climbs from itself come to an object with the id of an earlier one. -/
theorem eq_of_climbsTo_repeated {id : String} {f q l : Nat} {o : SceneObject}
    (first : FirstDeclared objects id f) (later : f < q) (at_q : objects[q]? = some o)
    (same : o.id = id) (climbs : ClimbsTo (linksOf objects) l q) : l = q := by
  cases climbs.cases_tail with
  | inl stays => exact stays.symm
  | inr step =>
    obtain ⟨i, _, before⟩ := step
    obtain ⟨_, _, id', _, _, first'⟩ := before?_linksOf.mp before
    obtain ⟨o', at_q', same'⟩ := first'.declared
    obtain rfl : o = o' := Option.some.inj (at_q.symm.trans at_q')
    obtain rfl : id = id' := same.symm.trans same'
    exact absurd (first.unique first') (Nat.ne_of_lt later)

/-- The first object with an id comes before all others with it. -/
theorem place_lt_of_firstDeclared {id : String} {f q : Nat} {o : SceneObject}
    (first : FirstDeclared objects id f) (later : f < q) (at_q : objects[q]? = some o)
    (same : o.id = id) : place objects f < place objects q := by
  have closed := closed_linksOf objects
  have bound : q ≤ (linksOf objects).size := by
    rw [size_linksOf]
    exact (List.getElem?_eq_some_iff.mp at_q).1.le
  -- After the turns of all that is declared ahead of it, `f` is placed and `q` is not.
  refine idxOf_lt_of_placedBy bound ((mem_placedBy closed bound).mpr ⟨f, later, .refl⟩) ?_
  rw [mem_placedBy closed bound]
  rintro ⟨l, less, climbs⟩
  exact absurd (eq_of_climbsTo_repeated first later at_q same climbs) (Nat.ne_of_lt less)

/-- The first declaration of an id stays the first one in the order. -/
theorem FirstDeclared.place {id : String} {f : Nat} (first : FirstDeclared objects id f) :
    FirstDeclared (dependencyOrder objects) id (place objects f) := by
  obtain ⟨o, at_f, same⟩ := first.declared
  refine ⟨⟨o, (getElem?_place f).trans at_f, same⟩, ?_⟩
  intro k before o' at_k same'
  have bound : k < objects.length := by
    rw [← (dependencyOrder_perm objects).length_eq]
    exact (List.getElem?_eq_some_iff.mp at_k).1
  obtain ⟨q, rfl⟩ := exists_place bound
  rw [getElem?_place] at at_k
  rcases Nat.lt_trichotomy q f with less | rfl | later
  · exact first.first q less o' at_k same'
  · exact Nat.lt_irrefl _ before
  · exact before.asymm (place_lt_of_firstDeclared first later at_k same')

theorem firstDeclared_place {id : String} {f : Nat} :
    FirstDeclared (dependencyOrder objects) id (place objects f) ↔ FirstDeclared objects id f := by
  constructor
  · intro first
    obtain ⟨o, at_place, same⟩ := first.declared
    rw [getElem?_place] at at_place
    obtain ⟨bound, rfl⟩ := List.getElem?_eq_some_iff.mp at_place
    obtain ⟨g, first'⟩ := exists_firstDeclared ⟨objects[f], List.getElem_mem bound, same⟩
    obtain rfl : f = g := eq_of_place_eq bound (first.unique first'.place)
    exact first'
  · exact FirstDeclared.place

/-! ### Parents and cycles in the order -/

/-- Parents in the order are those in the list. -/
theorem isParent_place {i p : Nat} :
    IsParent (dependencyOrder objects) (place objects i) (place objects p) ↔
      IsParent objects i p := by
  simp only [IsParent, getElem?_place, firstDeclared_place]

/-- Cycles in the list are cycles in the order. -/
theorem OnParentCycle.place {i : Nat} (cyclic : OnParentCycle objects i) :
    OnParentCycle (dependencyOrder objects) (place objects i) :=
  cyclic.lift (Order.place objects) fun _ _ => isParent_place.mpr

/-- In the order of resolution every object off the cycles stands after its parent. -/
theorem parentsAhead_dependencyOrder : ParentsAhead (dependencyOrder objects) := by
  intro k q parent offCycle
  have length : (dependencyOrder objects).length = objects.length :=
    (dependencyOrder_perm objects).length_eq
  obtain ⟨i, rfl⟩ := exists_place (length ▸ parent.child_lt_length)
  obtain ⟨p, rfl⟩ := exists_place (length ▸ parent.lt_length)
  exact place_lt_of_isParent (isParent_place.mp parent) fun cyclic => offCycle cyclic.place

/-! ### Ordering what is in order -/

/-- A list in which parents are declared ahead of their children is its own order. -/
theorem dependencyOrder_of_parentsAhead (ahead : ParentsAhead objects) :
    dependencyOrder objects = objects := by
  have same : (dependencyOrder objects).map some = objects.map some := by
    rw [map_some_dependencyOrder, dependencyIndices_of_parentsAhead ahead, map_getElem?_range]
  exact List.map_injective_iff.mpr (Option.some_injective _) same

/-- **Ordering disturbs nothing that is in order.** Objects keep their places just when each of them
that is off the parent cycles stands after its parent already, and the order of any objects is such
that ordering them again changes nothing. -/
theorem dependencyOrder_settled (objects : List SceneObject) :
    ((∀ i p, IsParent objects i p → ¬ OnParentCycle objects i → p < i) ↔
      dependencyIndices objects = List.range objects.length) ∧
    ((∀ i p, IsParent objects i p → ¬ OnParentCycle objects i → p < i) →
      dependencyOrder objects = objects) ∧
    dependencyIndices (dependencyOrder objects) = List.range objects.length ∧
    dependencyOrder (dependencyOrder objects) = dependencyOrder objects := by
  have again : ParentsAhead (dependencyOrder objects) := parentsAhead_dependencyOrder
  refine ⟨⟨dependencyIndices_of_parentsAhead, ?_⟩, dependencyOrder_of_parentsAhead, ?_,
    dependencyOrder_of_parentsAhead again⟩
  · intro settled i p parent offCycle
    have less := place_lt_of_isParent parent offCycle
    rwa [place_of_settled settled parent.lt_length,
      place_of_settled settled parent.child_lt_length] at less
  · rw [dependencyIndices_of_parentsAhead again, (dependencyOrder_perm objects).length_eq]

/-- Objects in order, though an id is taken twice, a parent is missing and two objects are each
other's parents. -/
def inOrder : List SceneObject :=
  [{ id := "a", kind := .group },
    { id := "b", parent := some "a", kind := .group },
    { id := "a", parent := some "b", kind := .group },
    { id := "c", parent := some "ghost", kind := .group },
    { id := "x", parent := some "y", kind := .group },
    { id := "y", parent := some "x", kind := .group },
    { id := "tail", parent := some "y", kind := .group }]

/-- A list in order, with a cycle at its end. -/
theorem dependencyOrder_settled_inOrder :
    (∀ i p, IsParent inOrder i p → ¬ OnParentCycle inOrder i → p < i) ∧
      OnParentCycle inOrder 4 ∧ IsParent inOrder 2 1 ∧ dependencyOrder inOrder = inOrder := by
  have table : ∀ i < 7, ∀ p < 7, before? (linksOf inOrder) i = some p → p < i := by decide
  have ahead : ∀ i p, IsParent inOrder i p → ¬ OnParentCycle inOrder i → p < i := by
    intro i p parent offCycle
    exact table i parent.child_lt_length p parent.lt_length
      (before?_linksOf.mpr ⟨offCycle, parent⟩)
  have cyclic : OnParentCycle inOrder 4 := onCycle_linksOf.mp (by decide)
  have parent : IsParent inOrder 2 1 := parent?_linksOf.mp (by decide)
  exact ⟨ahead, cyclic, parent, (dependencyOrder_settled inOrder).2.1 ahead⟩

end Playfield.Order
