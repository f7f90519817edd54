import Mathlib.Dynamics.PeriodicPts.Defs
import Mathlib.Logic.Relation
import Playfield.Order

/-!
Parents and their cycles.

`IsParent` and `OnParentCycle` say of the objects themselves who stands above whom. A table of links
holds the same relation (`parent?_linksOf`), and `onCycle` decides membership in a cycle by looking
at as many ancestors as there are objects: a cycle that is walked once never meets an object twice,
so it is no longer than that (`onCycle_iff`).
-/

namespace Playfield.Order

/-! ### Parents among the objects -/

/-- `p` is the index of the first object with an id. -/
structure FirstDeclared (objects : List SceneObject) (id : String) (p : Nat) : Prop where
  declared : ∃ o, objects[p]? = some o ∧ o.id = id
  first : ∀ q < p, ∀ o, objects[q]? = some o → o.id ≠ id

/-- Object `i` names a parent, and `p` is the first object with that id. -/
def IsParent (objects : List SceneObject) (i p : Nat) : Prop :=
  ∃ o id, objects[i]? = some o ∧ o.parent = some id ∧ FirstDeclared objects id p

/-- Following parents from object `i` one or more times leads back to it. -/
def OnParentCycle (objects : List SceneObject) (i : Nat) : Prop :=
  Relation.TransGen (IsParent objects) i i

/-- The first declaration of an id is what the search for it finds. -/
theorem firstDeclared_iff_findIdx? {objects : List SceneObject} {id : String} {p : Nat} :
    FirstDeclared objects id p ↔ (objects.findIdx? fun o => o.id == id) = some p := by
  rw [List.findIdx?_eq_some_iff_getElem]
  constructor
  · rintro ⟨⟨o, at_p, same⟩, first⟩
    obtain ⟨bound, rfl⟩ := List.getElem?_eq_some_iff.mp at_p
    refine ⟨bound, beq_iff_eq.mpr same, fun q before => ?_⟩
    have different := first q before _ (List.getElem?_eq_getElem (before.trans bound))
    simpa using different
  · rintro ⟨bound, same, first⟩
    refine ⟨⟨objects[p], List.getElem?_eq_getElem bound, beq_iff_eq.mp same⟩, ?_⟩
    intro q before o at_q
    obtain ⟨_, rfl⟩ := List.getElem?_eq_some_iff.mp at_q
    simpa using first q before

/-- An id that some object has is declared first somewhere. -/
theorem exists_firstDeclared {objects : List SceneObject} {id : String}
    (named : ∃ o ∈ objects, o.id = id) : ∃ p, FirstDeclared objects id p := by
  obtain ⟨o, member, same⟩ := named
  have found : (objects.findIdx? fun o => o.id == id).isSome := by
    rw [List.findIdx?_isSome, List.any_eq_true]
    exact ⟨o, member, beq_iff_eq.mpr same⟩
  obtain ⟨p, at_p⟩ := Option.isSome_iff_exists.mp found
  exact ⟨p, firstDeclared_iff_findIdx?.mpr at_p⟩

@[simp]
theorem size_linksOf (objects : List SceneObject) : (linksOf objects).size = objects.length := by
  simp [linksOf]

/-- The links of a list of objects are their parents. -/
theorem parent?_linksOf {objects : List SceneObject} {i p : Nat} :
    parent? (linksOf objects) i = some p ↔ IsParent objects i p := by
  simp only [parent?, linksOf, List.getElem?_toArray, List.getElem?_map, Option.join_eq_some_iff,
    Option.map_eq_some_iff, Option.bind_eq_some_iff, IsParent, firstDeclared_iff_findIdx?]
  constructor
  · rintro ⟨o, at_i, id, named, found⟩
    exact ⟨o, id, at_i, named, found⟩
  · rintro ⟨o, id, at_i, named, found⟩
    exact ⟨o, at_i, id, named, found⟩

/-- A parent is one of the objects. -/
theorem IsParent.lt_length {objects : List SceneObject} {i p : Nat} (h : IsParent objects i p) :
    p < objects.length := by
  obtain ⟨_, _, _, _, ⟨_, at_p, _⟩, _⟩ := h
  exact (List.getElem?_eq_some_iff.mp at_p).1

/-! ### Walking up the links -/

section Walk

variable {links : Links}

/-- Index `q` is reached from `i` by following links one or more times. -/
def Above (links : Links) : Nat → Nat → Prop :=
  Relation.TransGen fun i p => parent? links i = some p

/-- One step up, nowhere from where there is no parent. -/
def up (links : Links) (i : Option Nat) : Option Nat :=
  i.bind (parent? links)

theorem lt_size_of_parent? {i p : Nat} (h : parent? links i = some p) : i < links.size := by
  by_contra beyond
  rw [parent?, Array.getElem?_eq_none (Nat.le_of_not_lt beyond)] at h
  simp at h

theorem iterate_up_none (n : Nat) : (up links)^[n] none = none := by
  induction n with
  | zero => rfl
  | succ n ih => rwa [Function.iterate_succ_apply]

/-- An index lies above another one iff so many steps upwards lead to it. -/
theorem above_iff_iterate {i q : Nat} :
    Above links i q ↔ ∃ k, (up links)^[k + 1] (some i) = some q := by
  constructor
  · intro h
    induction h with
    | single step => exact ⟨0, step⟩
    | tail _ step ih =>
      obtain ⟨k, reached⟩ := ih
      exact ⟨k + 1, by rw [Function.iterate_succ_apply', reached]; exact step⟩
  · rintro ⟨k, reached⟩
    induction k generalizing q with
    | zero => exact .single reached
    | succ k ih =>
      rw [Function.iterate_succ_apply'] at reached
      obtain ⟨p, at_p, step⟩ := Option.bind_eq_some_iff.mp reached
      exact .tail (ih at_p) step

/-- The ancestors of an index are what some steps upwards lead to. -/
theorem mem_ancestors_iff {n i q : Nat} :
    q ∈ ancestors links n i ↔ ∃ k < n, (up links)^[k + 1] (some i) = some q := by
  induction n generalizing i with
  | zero => simp [ancestors]
  | succ n ih =>
    cases parent : parent? links i with
    | none =>
      have nowhere (k : Nat) : (up links)^[k + 1] (some i) = none := by
        rw [Function.iterate_succ_apply, show up links (some i) = none from parent,
          iterate_up_none]
      simp [ancestors, parent, nowhere]
    | some p =>
      have first : up links (some i) = some p := parent
      rw [ancestors, parent, List.mem_cons, ih]
      constructor
      · rintro (rfl | ⟨k, less, reached⟩)
        · exact ⟨0, Nat.succ_pos n, first⟩
        · exact ⟨k + 1, Nat.succ_lt_succ less, by
            rw [Function.iterate_succ_apply, first, reached]⟩
      · rintro ⟨k, less, reached⟩
        rw [Function.iterate_succ_apply, first] at reached
        cases k with
        | zero => exact .inl (Option.some.inj reached).symm
        | succ k => exact .inr ⟨k, Nat.lt_of_succ_lt_succ less, reached⟩

/-- A walk that gets somewhere passes through indices that have a parent on the way. -/
theorem iterate_up_before {j k : Nat} {start last : Option Nat} (less : j < k)
    (reached : (up links)^[k] start = last) (somewhere : last ≠ none) :
    ∃ q < links.size, (up links)^[j] start = some q := by
  obtain ⟨n, rfl⟩ := Nat.exists_eq_add_of_lt less
  rw [show j + n + 1 = (n + 1) + j from by omega, Function.iterate_add_apply,
    Function.iterate_succ_apply] at reached
  cases middle : (up links)^[j] start with
  | none =>
    rw [middle, show up links none = none from rfl, iterate_up_none] at reached
    exact absurd reached.symm somewhere
  | some q =>
    cases parent : parent? links q with
    | none =>
      rw [middle, show up links (some q) = none from parent, iterate_up_none] at reached
      exact absurd reached.symm somewhere
    | some p => exact ⟨q, lt_size_of_parent? parent, rfl⟩

/-- A cycle walked once is no longer than there are links: its indices differ from each other. -/
theorem minimalPeriod_up_le (i : Nat) :
    Function.minimalPeriod (up links) (some i) ≤ links.size := by
  set m := Function.minimalPeriod (up links) (some i)
  have back : (up links)^[m] (some i) = some i := Function.iterate_minimalPeriod
  have inside : ∀ j ∈ Finset.range m,
      (up links)^[j] (some i) ∈ (Finset.range links.size).image some := by
    intro j member
    obtain ⟨q, bound, reached⟩ :=
      iterate_up_before (Finset.mem_range.mp member) back (Option.some_ne_none i)
    exact Finset.mem_image.mpr ⟨q, Finset.mem_range.mpr bound, reached.symm⟩
  have distinct : Set.InjOn (fun j => (up links)^[j] (some i)) (Finset.range m) := by
    rw [Finset.coe_range]
    exact Function.iterate_injOn_Iio_minimalPeriod
  calc m = (Finset.range m).card := (Finset.card_range m).symm
    _ ≤ ((Finset.range links.size).image some).card :=
        Finset.card_le_card_of_injOn _ inside distinct
    _ ≤ (Finset.range links.size).card := Finset.card_image_le
    _ = links.size := Finset.card_range _

/-- `onCycle` finds exactly the indices that are above themselves. -/
theorem onCycle_iff {i : Nat} : onCycle links i = true ↔ Above links i i := by
  rw [onCycle, List.contains_iff_mem, mem_ancestors_iff, above_iff_iterate]
  constructor
  · rintro ⟨k, _, back⟩
    exact ⟨k, back⟩
  · rintro ⟨k, back⟩
    have periodic : Function.IsPeriodicPt (up links) (k + 1) (some i) := back
    have positive := periodic.minimalPeriod_pos (Nat.succ_pos k)
    have short : Function.minimalPeriod (up links) (some i) ≤ links.size := minimalPeriod_up_le i
    refine ⟨Function.minimalPeriod (up links) (some i) - 1, by omega, ?_⟩
    rw [Nat.sub_add_cancel positive]
    exact Function.iterate_minimalPeriod

end Walk

/-- The objects found on a cycle are the members of parent cycles. -/
theorem onCycle_linksOf {objects : List SceneObject} {i : Nat} :
    onCycle (linksOf objects) i = true ↔ OnParentCycle objects i := by
  have same : (fun i p => parent? (linksOf objects) i = some p) = IsParent objects := by
    funext i p
    exact propext parent?_linksOf
  rw [onCycle_iff, Above, OnParentCycle, same]

end Playfield.Order
