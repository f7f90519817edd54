import Playfield.Proofs.Order.ParentsFirst

/-!
Members of parent cycles in the order of resolution.

A climb ends at the first member of a cycle that it meets, so such a member is placed either in its
own turn or in that of the first object whose parents lead to it (`mem_placedBy`). Members of cycles
come in the order of these turns (`idxOf_lt_iff_reached_first`). That is the order of declaration
unless an object that leads to the later one is declared ahead of the earlier one
(`tailOfSecond_not_declared`).
-/

namespace Playfield.Order

/-! ### Objects that lead to others -/

/-- Object `i` is `c`, or following parents from `i` leads to `c` and meets no cycle before it. -/
def LeadsTo (objects : List SceneObject) : Nat → Nat → Prop :=
  Relation.ReflTransGen fun i p => ¬ OnParentCycle objects i ∧ IsParent objects i p

section Links

variable {links : Links}

/-- Climbing from `i` comes to `c`. -/
def ClimbsTo (links : Links) : Nat → Nat → Prop :=
  Relation.ReflTransGen fun i p => before? links i = some p

/-- An object has its parent placed before it unless it is on a cycle. -/
theorem before?_linksOf {objects : List SceneObject} {i p : Nat} :
    before? (linksOf objects) i = some p ↔ ¬ OnParentCycle objects i ∧ IsParent objects i p := by
  rw [before?_eq, ← onCycle_linksOf, ← parent?_linksOf]
  split <;> simp [*]

/-- The climbs in the table are the paths of objects off their cycles. -/
theorem climbsTo_linksOf {objects : List SceneObject} :
    ClimbsTo (linksOf objects) = LeadsTo objects := by
  unfold ClimbsTo LeadsTo
  congr 1
  funext i p
  exact propext before?_linksOf

theorem ClimbsTo.lt_size {i c : Nat} (climbs : ClimbsTo links i c) (bound : c < links.size) :
    i < links.size := by
  cases climbs.cases_head with
  | inl same => exact same ▸ bound
  | inr step =>
    obtain ⟨p, before, _⟩ := step
    exact lt_size_of_parent? (before?_eq_some before).1

/-- A climb ends in one place. -/
theorem ClimbsTo.eq_of_roots {i c d : Nat} (climbs : ClimbsTo links i c)
    (climbs' : ClimbsTo links i d) (root : before? links c = none)
    (root' : before? links d = none) : c = d := by
  have unique : Relator.RightUnique fun i p => before? links i = some p :=
    fun _ _ _ step step' => Option.some.inj (step.symm.trans step')
  have stays {a b : Nat} (climbs : ClimbsTo links a b) (root : before? links a = none) : a = b := by
    cases climbs.cases_head with
    | inl same => exact same
    | inr step =>
      obtain ⟨p, before, _⟩ := step
      rw [root] at before
      cases before
  cases Relation.ReflTransGen.total_of_right_unique unique climbs climbs' with
  | inl onward => exact stays onward root
  | inr onward => exact (stays onward root').symm

/-! ### What is placed when -/

/-- A climb places nothing but what it comes to. -/
theorem mem_climb {placed below : List Nat} {steps i c : Nat}
    (member : c ∈ climb links placed steps i below) : c ∈ below ∨ ClimbsTo links i c := by
  induction steps generalizing i below with
  | zero => exact .inl member
  | succ steps ih =>
    rw [climb_next] at member
    split at member
    · exact .inl member
    · split at member
      · rcases List.mem_cons.mp member with rfl | lower
        · exact .inr .refl
        · exact .inl lower
      · rename_i p before
        rcases ih member with lower | climbs
        · rcases List.mem_cons.mp lower with rfl | lower
          · exact .inr .refl
          · exact .inl lower
        · exact .inr (climbs.head before)

/-- The indices placed in the turns of the first `n`. -/
def placedBy (links : Links) (n : Nat) : List Nat :=
  (List.range n).foldl (fun placed i => placed ++ climb links placed links.size i []) []

/-- One start more places the objects of its climb. -/
theorem placedBy_succ (n : Nat) :
    placedBy links (n + 1) =
      placedBy links n ++ climb links (placedBy links n) links.size n [] := by
  rw [placedBy, List.range_succ, List.foldl_append]
  rfl

/-- Later turns add at the end. -/
theorem placedBy_prefix {m n : Nat} (le : m ≤ n) : placedBy links m <+: placedBy links n := by
  induction le with
  | refl => exact List.prefix_rfl
  | step _ ih =>
    rw [placedBy_succ]
    exact ih.trans (List.prefix_append _ _)

/-- Whatever is placed has been reached from some start. -/
theorem exists_climbsTo_of_mem_placedBy {n c : Nat} (member : c ∈ placedBy links n) :
    ∃ i < n, ClimbsTo links i c := by
  induction n with
  | zero => exact absurd member List.not_mem_nil
  | succ n ih =>
    rw [placedBy_succ, List.mem_append] at member
    rcases member with earlier | now
    · obtain ⟨i, less, climbs⟩ := ih earlier
      exact ⟨i, Nat.lt_succ_of_lt less, climbs⟩
    · rcases mem_climb now with none | climbs
      · exact absurd none List.not_mem_nil
      · exact ⟨n, Nat.lt_succ_self n, climbs⟩

/-- What has been placed after `n` turns is all that climbs from the first `n` indices come to. -/
theorem mem_placedBy (closed : Closed links) {n c : Nat} (bound : n ≤ links.size) :
    c ∈ placedBy links n ↔ ∃ i < n, ClimbsTo links i c := by
  refine ⟨exists_climbsTo_of_mem_placedBy, ?_⟩
  rintro ⟨i, less, climbs⟩
  have inside : ∀ i ∈ List.range n, i < links.size :=
    fun i member => (List.mem_range.mp member).trans_le bound
  have ⟨parentsFirst, _, starts⟩ := foldl_climb closed .nil inside
  induction climbs with
  | refl => exact starts (List.mem_range.mpr less)
  | tail _ step ih =>
    have first := parentsFirst.idxOf_lt ih step
    exact List.idxOf_lt_length_iff.mp (first.trans (List.idxOf_lt_length_iff.mpr ih))

/-- What the first turns place comes before what they do not place. -/
theorem idxOf_lt_of_placedBy {n i j : Nat} (bound : n ≤ links.size) (placed : i ∈ placedBy links n)
    (later : j ∉ placedBy links n) : (indices links).idxOf i < (indices links).idxOf j := by
  obtain ⟨rest, split⟩ : placedBy links n <+: indices links := placedBy_prefix bound
  rw [← split, List.idxOf_append_of_mem placed, List.idxOf_append_of_notMem later]
  exact Nat.lt_add_right _ (List.idxOf_lt_length_iff.mpr placed)

/-- Two indices that ask for nothing before them come in the order in which climbs reach them. -/
theorem idxOf_lt_iff_of_roots (closed : Closed links) {i j : Nat} (bound : i < links.size)
    (root : before? links i = none) (root' : before? links j = none) :
    (indices links).idxOf i < (indices links).idxOf j ↔
      ∃ k, ClimbsTo links k i ∧ ∀ l, ClimbsTo links l j → k < l := by
  constructor
  · intro less
    obtain ⟨k, reached, first⟩ : ∃ k, ClimbsTo links k i ∧ ∀ m < k, ¬ ClimbsTo links m i := by
      classical
      have some : ∃ k, ClimbsTo links k i := ⟨i, .refl⟩
      exact ⟨Nat.find some, Nat.find_spec some, fun m => Nat.find_min some⟩
    refine ⟨k, reached, fun l climbs => Nat.lt_of_not_le fun le => ?_⟩
    rcases Nat.lt_or_eq_of_le le with earlier | same
    · have within : k ≤ links.size := (reached.lt_size bound).le
      have placed : j ∈ placedBy links k := (mem_placedBy closed within).mpr ⟨l, earlier, climbs⟩
      have notYet : i ∉ placedBy links k := by
        rw [mem_placedBy closed within]
        rintro ⟨m, before, climbs⟩
        exact first m before climbs
      exact absurd less (idxOf_lt_of_placedBy within placed notYet).asymm
    · obtain rfl : i = j := reached.eq_of_roots (same ▸ climbs) root root'
      exact absurd less (Nat.lt_irrefl _)
  · rintro ⟨k, reached, later⟩
    have within : k + 1 ≤ links.size := reached.lt_size bound
    refine idxOf_lt_of_placedBy within
      ((mem_placedBy closed within).mpr ⟨k, Nat.lt_succ_self k, reached⟩) ?_
    rw [mem_placedBy closed within]
    rintro ⟨l, less, climbs⟩
    exact absurd (later l climbs) (Nat.not_lt.mpr (Nat.le_of_lt_succ less))

end Links

/-! ### Members of cycles -/

variable {objects : List SceneObject} {i j : Nat}

/-- A member of a cycle is one of the objects. -/
theorem OnParentCycle.lt_length (cyclic : OnParentCycle objects i) : i < objects.length := by
  obtain ⟨_, _, last⟩ := Relation.TransGen.tail'_iff.mp cyclic
  exact last.lt_length

theorem OnParentCycle.before?_eq_none (cyclic : OnParentCycle objects i) :
    before? (linksOf objects) i = none := by
  rw [before?_eq, if_pos (onCycle_linksOf.mpr cyclic)]

/-- Members of parent cycles come in the order of the first objects that lead to them, they
themselves included. So of two members the one declared earlier comes earlier, unless an object that
leads to the other is declared ahead of it. -/
theorem idxOf_lt_iff_reached_first (cyclic : OnParentCycle objects i)
    (cyclic' : OnParentCycle objects j) :
    ((dependencyIndices objects).idxOf i < (dependencyIndices objects).idxOf j ↔
      ∃ k, LeadsTo objects k i ∧ ∀ l, LeadsTo objects l j → k < l) ∧
    ((∀ l, LeadsTo objects l j → i < l) →
      (dependencyIndices objects).idxOf i < (dependencyIndices objects).idxOf j) := by
  have bound : i < (linksOf objects).size := size_linksOf objects ▸ cyclic.lt_length
  have order := idxOf_lt_iff_of_roots (closed_linksOf objects) bound cyclic.before?_eq_none
    cyclic'.before?_eq_none
  rw [climbsTo_linksOf] at order
  exact ⟨order, fun ahead => order.mpr ⟨i, .refl, ahead⟩⟩

/-- Two objects on a cycle, and ahead of both of them one that hangs off the second. -/
def tailOfSecond : List SceneObject :=
  [{ id := "tail", parent := some "second", kind := .group },
    { id := "first", parent := some "second", kind := .group },
    { id := "second", parent := some "first", kind := .group }]

/-- The tail of the second member of a cycle brings it ahead of the first one. -/
theorem idxOf_lt_iff_reached_first_tail :
    OnParentCycle tailOfSecond 2 ∧ OnParentCycle tailOfSecond 1 ∧ LeadsTo tailOfSecond 0 2 ∧
      (∀ l, LeadsTo tailOfSecond l 1 → 0 < l) ∧
      (dependencyIndices tailOfSecond).idxOf 2 < (dependencyIndices tailOfSecond).idxOf 1 := by
  have second : OnParentCycle tailOfSecond 2 := onCycle_linksOf.mp (by decide)
  have first : OnParentCycle tailOfSecond 1 := onCycle_linksOf.mp (by decide)
  have step : before? (linksOf tailOfSecond) 0 = some 2 := by decide
  have leads : LeadsTo tailOfSecond 0 2 := .single (before?_linksOf.mp step)
  have later : ∀ l, LeadsTo tailOfSecond l 1 → 0 < l := by
    intro l leads'
    rcases Nat.eq_zero_or_pos l with rfl | positive
    · rw [← climbsTo_linksOf] at leads leads'
      cases leads.eq_of_roots leads' second.before?_eq_none first.before?_eq_none
    · exact positive
  exact ⟨second, first, leads, later,
    (idxOf_lt_iff_reached_first second first).1.mpr ⟨0, leads, later⟩⟩

/-- Members of a cycle need not come in the order of their declaration. -/
theorem tailOfSecond_not_declared :
    OnParentCycle tailOfSecond 1 ∧ OnParentCycle tailOfSecond 2 ∧
      dependencyIndices tailOfSecond = [2, 0, 1] ∧
      (dependencyIndices tailOfSecond).idxOf 2 < (dependencyIndices tailOfSecond).idxOf 1 := by
  have order : dependencyIndices tailOfSecond = [2, 0, 1] := by decide
  exact ⟨onCycle_linksOf.mp (by decide), onCycle_linksOf.mp (by decide), order, by decide⟩

end Playfield.Order
