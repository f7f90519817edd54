import Mathlib.Data.List.Chain
import Mathlib.Data.List.Nodup
import Mathlib.Data.List.Range
import Playfield.Proofs.Order.Cycle

/-!
The order of resolution holds every object once, parents before their children.

An order grows by one index at a time (`ParentsFirst`): each is new and comes after the one that
must come before it. A climb adds a branch, the ancestors of an object that are not placed yet and
the object itself (`climb_branch`); its bound on the number of steps is never met, because the
indices of a branch differ from each other. From one climb per object follow the order of all
indices (`parentsFirst_indices`) and that of the objects (`dependencyOrder_complete`).
-/

namespace Playfield.Order

variable {links : Links}

/-! ### Orders that place parents first -/

/-- Grown from nothing, each index new and after the one that must come before it. -/
inductive ParentsFirst (links : Links) : List Nat → Prop where
  | nil : ParentsFirst links []
  | snoc {order : List Nat} {i : Nat} : ParentsFirst links order → i < links.size → i ∉ order →
      (∀ p, before? links i = some p → p ∈ order) → ParentsFirst links (order ++ [i])

namespace ParentsFirst

variable {order : List Nat}

theorem lt_size (h : ParentsFirst links order) : ∀ i ∈ order, i < links.size := by
  induction h with
  | nil => simp
  | snoc _ bound _ _ ih =>
    intro i member
    rcases List.mem_append.mp member with old | new
    · exact ih i old
    · exact List.mem_singleton.mp new ▸ bound

theorem nodup (h : ParentsFirst links order) : order.Nodup := by
  induction h with
  | nil => exact List.nodup_nil
  | snoc _ _ new _ ih =>
    rw [← List.concat_eq_append]
    exact ih.concat new

/-- The index that must come before another one does. -/
theorem idxOf_lt (h : ParentsFirst links order) {i p : Nat} (member : i ∈ order)
    (before : before? links i = some p) : order.idxOf p < order.idxOf i := by
  induction h with
  | nil => simp at member
  | @snoc order last _ _ new placed ih =>
    by_cases old : i ∈ order
    · have less := ih old
      have at_p : p ∈ order := by
        rw [← List.idxOf_lt_length_iff]
        exact less.trans (List.idxOf_lt_length_iff.mpr old)
      rwa [List.idxOf_append_of_mem at_p, List.idxOf_append_of_mem old]
    · obtain rfl : i = last := by simpa [old] using member
      have at_p := placed p before
      rw [List.idxOf_append_of_mem at_p, List.idxOf_append_of_notMem new]
      exact Nat.lt_add_right _ (List.idxOf_lt_length_iff.mpr at_p)

end ParentsFirst

/-! ### Branches -/

/-- A parent must come before an object unless it lies on a cycle. -/
theorem before?_eq (links : Links) (i : Nat) :
    before? links i = if onCycle links i then none else parent? links i := rfl

/-- What a climb does with one more step. -/
theorem climb_next (links : Links) (placed : List Nat) (steps i : Nat) (below : List Nat) :
    climb links placed (steps + 1) i below =
      if placed.contains i then below
      else
        match before? links i with
        | none => i :: below
        | some p => climb links placed steps p (i :: below) := by
  rw [climb, climbBy]
  cases placed.contains i with
  | true => rfl
  | false =>
    cases before? links i with
    | none => rfl
    | some p => rfl

/-- What is placed before an object is its parent, and the object is on no cycle. -/
theorem before?_eq_some {i p : Nat} (h : before? links i = some p) :
    parent? links i = some p ∧ onCycle links i = false := by
  rw [before?_eq] at h
  split at h
  · simp at h
  · exact ⟨h, Bool.eq_false_iff.mpr ‹_›⟩

/-- Nothing has to come before itself, directly or through others. -/
theorem not_transGen_before? (i : Nat) :
    ¬ Relation.TransGen (fun p c => before? links c = some p) i i := by
  intro cycle
  obtain ⟨p, _, step⟩ := Relation.TransGen.tail'_iff.mp cycle
  have above : Above links i i :=
    Relation.TransGen.mono (r := fun c p => before? links c = some p)
      (fun _ _ before => (before?_eq_some before).1) i i (Relation.transGen_swap.mpr cycle)
  have offCycle := (before?_eq_some step).2
  rw [onCycle_iff.mpr above] at offCycle
  cases offCycle

/-- What a climb adds to an order: new indices, each right after the one that must come before it,
which for the first is placed already. -/
structure Branch (links : Links) (placed branch : List Nat) : Prop where
  chain : branch.IsChain fun p c => before? links c = some p
  bound : ∀ i ∈ branch, i < links.size
  new : ∀ i ∈ branch, i ∉ placed
  top : ∀ i ∈ branch.head?, ∀ p, before? links i = some p → p ∈ placed

/-- The indices of a chain differ, since none comes before itself. -/
theorem nodup_of_isChain {branch : List Nat}
    (chain : branch.IsChain fun p c => before? links c = some p) : branch.Nodup := by
  have ordered : branch.Pairwise (Relation.TransGen fun p c => before? links c = some p) :=
    List.isChain_iff_pairwise.mp (chain.imp fun _ _ step => .single step)
  refine ordered.imp ?_
  rintro a _ above rfl
  exact not_transGen_before? a above

/-- So a chain is no longer than the table. -/
theorem length_le_of_isChain {branch : List Nat}
    (chain : branch.IsChain fun p c => before? links c = some p)
    (bound : ∀ c ∈ branch, c < links.size) : branch.length ≤ links.size := by
  have inside : branch ⊆ List.range links.size :=
    fun c member => List.mem_range.mpr (bound c member)
  simpa using ((nodup_of_isChain chain).subperm inside).length_le

/-- Appending a branch keeps parents first. -/
theorem ParentsFirst.append {placed branch : List Nat} (h : ParentsFirst links placed)
    (b : Branch links placed branch) : ParentsFirst links (placed ++ branch) := by
  induction branch generalizing placed with
  | nil => simpa using h
  | cons i branch ih =>
    have distinct := List.nodup_cons.mp (nodup_of_isChain b.chain)
    have grown : ParentsFirst links (placed ++ [i]) :=
      h.snoc (b.bound i List.mem_cons_self) (b.new i List.mem_cons_self) (b.top i rfl)
    have rest : Branch links (placed ++ [i]) branch := by
      refine ⟨b.chain.tail, fun j member => b.bound j (List.mem_cons_of_mem i member), ?_, ?_⟩
      · intro j member placedOrFirst
        rcases List.mem_append.mp placedOrFirst with old | first
        · exact b.new j (List.mem_cons_of_mem i member) old
        · exact distinct.1 (List.mem_singleton.mp first ▸ member)
      · intro j first p before
        have step := (List.isChain_cons.mp b.chain).1 j first
        obtain rfl : i = p := Option.some.inj (step.symm.trans before)
        exact List.mem_append_right placed (List.mem_singleton_self i)
    simpa using ih grown rest

/-! ### Climbing -/

/-- All parents are indices of the table. -/
def Closed (links : Links) : Prop :=
  ∀ i p, parent? links i = some p → p < links.size

/-- Every parent in the table of a list of objects is in the list. -/
theorem closed_linksOf (objects : List SceneObject) : Closed (linksOf objects) := by
  intro i p parent
  rw [size_linksOf]
  exact (parent?_linksOf.mp parent).lt_length

/-- A climb comes to a branch that ends in what it started with, unless that is placed already.
The steps suffice as long as they and the indices below make up the whole table. -/
theorem climb_branch (closed : Closed links) {placed : List Nat} {steps i : Nat}
    {below : List Nat} (chain : (i :: below).IsChain fun p c => before? links c = some p)
    (bound : ∀ c ∈ i :: below, c < links.size) (new : ∀ c ∈ below, c ∉ placed)
    (room : links.size ≤ steps + below.length) :
    Branch links placed (climb links placed steps i below) ∧
      below <:+ climb links placed steps i below ∧
      (i ∈ placed ∨ i ∈ climb links placed steps i below) := by
  induction steps generalizing i below with
  | zero =>
    -- A chain as long as the table leaves no index to climb to.
    have full := length_le_of_isChain chain bound
    rw [List.length_cons] at full
    omega
  | succ steps ih =>
    rw [climb_next]
    split
    · rename_i placedAlready
      have atPlace : i ∈ placed := List.contains_iff_mem.mp placedAlready
      refine ⟨⟨chain.tail, fun c member => bound c (List.mem_cons_of_mem i member), new, ?_⟩,
        List.suffix_rfl, .inl atPlace⟩
      intro c first p before
      have step := (List.isChain_cons.mp chain).1 c first
      exact Option.some.inj (step.symm.trans before) ▸ atPlace
    · rename_i notPlaced
      have newAll : ∀ c ∈ i :: below, c ∉ placed := by
        intro c member
        rcases List.mem_cons.mp member with rfl | lower
        · exact fun atPlace => notPlaced (List.contains_iff_mem.mpr atPlace)
        · exact new c lower
      split
      · rename_i root
        refine ⟨⟨chain, bound, newAll, ?_⟩, List.suffix_cons i below, .inr List.mem_cons_self⟩
        intro c first p before
        obtain rfl : i = c := Option.some.inj first
        rw [root] at before
        cases before
      · rename_i p step
        have boundAll : ∀ c ∈ p :: i :: below, c < links.size := by
          intro c member
          rcases List.mem_cons.mp member with rfl | lower
          · exact closed i c (before?_eq_some step).1
          · exact bound c lower
        have ⟨branch, suffix, _⟩ := ih (List.isChain_cons_cons.mpr ⟨step, chain⟩) boundAll newAll
          (by rw [List.length_cons]; omega)
        exact ⟨branch, (List.suffix_cons i below).trans suffix,
          .inr (suffix.subset List.mem_cons_self)⟩

/-- When what must come before an index is placed, the index is placed alone. -/
theorem climb_of_placed {placed : List Nat} {i : Nat} (bound : i < links.size) (new : i ∉ placed)
    (ahead : ∀ p, before? links i = some p → p ∈ placed) :
    climb links placed links.size i [] = [i] := by
  obtain ⟨steps, size⟩ := Nat.exists_eq_succ_of_ne_zero (Nat.ne_zero_of_lt bound)
  rw [size, climb_next, if_neg (by simpa using new)]
  cases before : before? links i with
  | none => rfl
  | some p =>
    -- The climb is over at `p`, whether or not there is a step left to see it.
    cases steps with
    | zero => rfl
    | succ steps =>
      have placedAlready : placed.contains p := List.contains_iff_mem.mpr (ahead p before)
      simp only [climb_next, placedAlready, if_true]

/-- Climbing once for each of some indices places them all. -/
theorem foldl_climb (closed : Closed links) {placed starts : List Nat}
    (h : ParentsFirst links placed) (bound : ∀ i ∈ starts, i < links.size) :
    let order := starts.foldl (fun placed i => placed ++ climb links placed links.size i []) placed
    ParentsFirst links order ∧ placed ⊆ order ∧ starts ⊆ order := by
  induction starts generalizing placed with
  | nil => exact ⟨h, List.Subset.refl placed, List.nil_subset placed⟩
  | cons i starts ih =>
    have new : ∀ c ∈ ([] : List Nat), c ∉ placed := fun c member => absurd member List.not_mem_nil
    have room : links.size ≤ links.size + ([] : List Nat).length := Nat.le_refl links.size
    have ⟨branch, _, reached⟩ := climb_branch closed (List.isChain_singleton i)
      (by simpa using bound i List.mem_cons_self) new room
    have ⟨grown, kept, rest⟩ := ih (h.append branch) fun j member =>
      bound j (List.mem_cons_of_mem i member)
    refine ⟨grown, fun j old => kept (List.mem_append_left _ old), ?_⟩
    intro j member
    rcases List.mem_cons.mp member with rfl | later
    · exact kept (List.mem_append.mpr reached)
    · exact rest later

/-- The order of all indices has parents first. -/
theorem parentsFirst_indices (closed : Closed links) : ParentsFirst links (indices links) :=
  (foldl_climb closed .nil fun _ member => List.mem_range.mp member).1

/-- The order of all indices holds each of them once. -/
theorem indices_perm (closed : Closed links) : (indices links).Perm (List.range links.size) := by
  refine (List.perm_ext_iff_of_nodup (parentsFirst_indices closed).nodup List.nodup_range).mpr ?_
  intro i
  constructor
  · exact fun member => List.mem_range.mpr ((parentsFirst_indices closed).lt_size i member)
  · exact fun member => (foldl_climb closed .nil fun _ => List.mem_range.mp).2.2 member

/-! ### Objects in their order -/

variable (objects : List SceneObject)

/-- The order of resolution is the objects, each of them once. -/
theorem dependencyIndices_perm :
    (dependencyIndices objects).Perm (List.range objects.length) := by
  rw [← size_linksOf]
  exact indices_perm (closed_linksOf objects)

/-- The objects are those at the indices, one for each. -/
theorem map_some_dependencyOrder :
    (dependencyOrder objects).map some = (dependencyIndices objects).map fun i => objects[i]? := by
  have present : ∀ i ∈ dependencyIndices objects, (objects[i]?).isSome := by
    intro i member
    have bound := List.mem_range.mp ((dependencyIndices_perm objects).subset member)
    rw [List.getElem?_eq_getElem bound]
    rfl
  simp only [dependencyOrder, List.getElem?_toArray]
  generalize dependencyIndices objects = order at present
  induction order with
  | nil => rfl
  | cons i order ih =>
    obtain ⟨o, at_i⟩ := Option.isSome_iff_exists.mp (present i List.mem_cons_self)
    rw [List.filterMap_cons_some at_i, List.map_cons, List.map_cons, at_i,
      ih fun j member => present j (List.mem_cons_of_mem i member)]

/-- The objects at all indices one after the other. -/
theorem map_getElem?_range :
    (List.range objects.length).map (fun i => objects[i]?) = objects.map some := by
  refine List.ext_getElem (by simp) fun i _ _ => ?_
  simp

/-- Resolving in order leaves out no object and repeats none. -/
theorem dependencyOrder_perm : (dependencyOrder objects).Perm objects := by
  have ordered : ((dependencyOrder objects).map some).Perm (objects.map some) := by
    rw [map_some_dependencyOrder, ← map_getElem?_range]
    exact (dependencyIndices_perm objects).map _
  simpa using ordered.filterMap id

/-- **Every object is resolved once, and after its parent.** The result lists the objects at a
permutation of all indices, and an object off the parent cycles comes after the first object with
the id that it names. -/
theorem dependencyOrder_complete :
    (dependencyOrder objects).map some = (dependencyIndices objects).map (fun i => objects[i]?) ∧
      (dependencyIndices objects).Perm (List.range objects.length) ∧
      ∀ i o id, objects[i]? = some o → o.parent = some id → (∃ q ∈ objects, q.id = id) →
        ¬ OnParentCycle objects i →
        ∃ p, FirstDeclared objects id p ∧
          (dependencyIndices objects).idxOf p < (dependencyIndices objects).idxOf i := by
  have perm := dependencyIndices_perm objects
  refine ⟨map_some_dependencyOrder objects, perm, ?_⟩
  intro i o id at_i named exists_id offCycle
  obtain ⟨p, first⟩ := exists_firstDeclared exists_id
  have before : before? (linksOf objects) i = some p := by
    rw [before?_eq, if_neg fun cyclic => offCycle (onCycle_linksOf.mp cyclic)]
    exact parent?_linksOf.mpr ⟨o, id, at_i, named, first⟩
  have member : i ∈ dependencyIndices objects :=
    perm.symm.subset (List.mem_range.mpr (List.getElem?_eq_some_iff.mp at_i).1)
  exact ⟨p, first, (parentsFirst_indices (closed_linksOf objects)).idxOf_lt member before⟩

/-- A tail declared ahead of the cycle that it hangs off, and a second object with the id that the
tail names. -/
def tailAheadOfCycle : List SceneObject :=
  [{ id := "tail", parent := some "a", kind := .group },
    { id := "a", parent := some "b", kind := .group },
    { id := "b", parent := some "a", kind := .group },
    { id := "a", kind := .group }]

/-- A tail that is declared ahead of its cycle. -/
theorem dependencyOrder_complete_tail :
    tailAheadOfCycle[0]? = some { id := "tail", parent := some "a", kind := .group } ∧
      (∃ q ∈ tailAheadOfCycle, q.id = "a") ∧ ¬ OnParentCycle tailAheadOfCycle 0 ∧
      ∃ p, FirstDeclared tailAheadOfCycle "a" p ∧
        (dependencyIndices tailAheadOfCycle).idxOf p <
          (dependencyIndices tailAheadOfCycle).idxOf 0 := by
  have named : ∃ q ∈ tailAheadOfCycle, q.id = "a" := by decide
  have offCycle : ¬ OnParentCycle tailAheadOfCycle 0 := fun cyclic =>
    absurd (onCycle_linksOf.mpr cyclic) (by decide)
  exact ⟨rfl, named, offCycle,
    (dependencyOrder_complete tailAheadOfCycle).2.2 0 _ "a" rfl rfl named offCycle⟩

end Playfield.Order
