import Playfield.Proofs.Guarded.Formula
import Playfield.Proofs.Order.ParentsFirst

/-!
The search for cycles of parents, with every access guarded.

Walks go from every object up to one that has been visited, and mark what they meet in tables by its
index. A walk that meets its own path has closed a loop: the part of the path from there on. What
holds all along a walk is stated by `Underway`: its path is a chain of parents, and an object on it
that lies on a cycle is met again. So what a walk leaves marked is what lies on a cycle among the
objects it met (`passes_walkG`), and after all walks the table holds what `onCycle` says
(`passes_cycleMembersG`).
-/

namespace Playfield

/-! ### Tables -/

/-- A list with an element put at a place. -/
def guardedSet (fault : Nat → Nat → Fault) (list : List α) (i : Nat) (a : α) : Guarded (List α) :=
  if i < list.length then .ok (list.set i a) else .error (fault i list.length)

/-- The rest of a list from a place on. -/
def guardedFrom (fault : Nat → Nat → Fault) (list : List α) (i : Nat) : Guarded (List α) :=
  if i ≤ list.length then .ok (list.drop i) else .error (fault i list.length)

/-- The values of a function at the first indices. -/
def table (n : Nat) (f : Nat → α) : List α :=
  (List.range n).map f

namespace Passes

variable {fault : Nat → Nat → Fault} {n i : Nat} {f : Nat → α}

/-- A place of a table is read without a fault. -/
theorem guardedAt_table (bound : i < n) :
    Passes (Playfield.guardedAt fault (table n f) i) (f i) := by
  refine .guardedAt ?_
  rw [table, List.getElem?_map, List.getElem?_range bound]
  rfl

theorem guardedSet_table (bound : i < n) (a : α) :
    Passes (guardedSet fault (table n f) i a) (table n fun j => if j = i then a else f j) := by
  have length : i < (table n f).length := by simpa [table] using bound
  rw [Passes, guardedSet, if_pos length]
  congr 1
  refine List.ext_getElem (by simp [table]) fun j _ _ => ?_
  simp [table, List.getElem_set, eq_comm]

/-- One value at several places. -/
theorem foldlM_guardedSet_table {places : List Nat} (bound : ∀ i ∈ places, i < n) (a : α) :
    Passes (places.foldlM (fun t i => guardedSet fault t i a) (table n f))
      (table n fun j => if j ∈ places then a else f j) := by
  induction places generalizing f with
  | nil => exact .pure _
  | cons i places ih =>
    obtain ⟨first, bound⟩ := List.forall_mem_cons.mp bound
    rw [List.foldlM_cons]
    refine .bind (guardedSet_table first a) ?_
    convert ih bound using 3 with j
    by_cases same : j = i
    · simp [same]
    · simp [same]

end Passes

namespace Order

/-! ### The walks -/

/-- How far the walks are with an object. -/
inductive Mark where
  | unvisited
  | onPath
  | done
  deriving DecidableEq, Repr

/-- How far the walks are with each object, and whether it has been found on a cycle. -/
structure Marks where
  marks : List Mark
  cyclic : List Bool

def parentG? (links : Links) (i : Nat) : Guarded (Option Nat) :=
  guardedAt .object links.toList i

/-- Mark what is on a path from the first visit of `i` on. -/
def closeLoopG (cyclic : List Bool) (path : List Nat) (i : Nat) : Guarded (List Bool) :=
  match path.findIdx? (· == i) with
  | none => return cyclic
  | some first => do
    let loop ← guardedFrom .visit path first
    loop.foldlM (fun cyclic p => guardedSet .object cyclic p true) cyclic

/-- Walk up from an index, if there is one, after the visits on a path. The number bounds how many
there are to come. -/
def walkG (links : Links) : Nat → Marks → List Nat → Option Nat → Guarded (Marks × List Nat)
  | 0, m, path, _ => return (m, path)
  | _ + 1, m, path, none => return (m, path)
  | steps + 1, m, path, some i => do
    match ← guardedAt .object m.marks i with
    | .done => return (m, path)
    | .onPath =>
      let cyclic ← closeLoopG m.cyclic path i
      return ({ m with cyclic }, path)
    | .unvisited =>
      let marks ← guardedSet .object m.marks i .onPath
      let parent ← parentG? links i
      walkG links steps { m with marks } (path ++ [i]) parent

/-- One walk, and everything it has met is done. -/
def turnG (links : Links) (m : Marks) (start : Nat) : Guarded Marks := do
  let (m, path) ← walkG links (links.size + 1) m [] (some start)
  let marks ← path.foldlM (fun marks p => guardedSet .object marks p .done) m.marks
  return { m with marks }

/-- For each object whether it lies on a cycle. -/
def cycleMembersG (links : Links) : Guarded (List Bool) := do
  let fresh : Marks := ⟨table links.size fun _ => .unvisited, table links.size fun _ => false⟩
  let m ← (List.range links.size).foldlM (turnG links) fresh
  return m.cyclic

/-! ### What they leave marked -/

/-- The mark of an object when some are done and some are on the path. -/
def mark (done path : List Nat) (i : Nat) : Mark :=
  if i ∈ path then .onPath else if i ∈ done then .done else .unvisited

/-- The marks when some objects are done, some are on the path, and the cycles among some have been
found. -/
def marksOf (links : Links) (done path searched : List Nat) : Marks :=
  ⟨table links.size (mark done path),
    table links.size fun i => decide (i ∈ searched) && onCycle links i⟩

/-- The parents of all are among them. -/
def Upward (links : Links) (indices : List Nat) : Prop :=
  ∀ i ∈ indices, ∀ p, parent? links i = some p → p ∈ indices

/-- Index `q` is `i` or above it. -/
def Upto (links : Links) : Nat → Nat → Prop :=
  Relation.ReflTransGen fun i p => parent? links i = some p

/-- A walk is on its way: it has met a path and comes to `cur` next. -/
structure Underway (links : Links) (done path : List Nat) (cur : Option Nat) : Prop where
  bound : ∀ i ∈ path, i < links.size
  fresh : ∀ i ∈ path, i ∉ done
  nodup : path.Nodup
  chain : (path ++ cur.toList).IsChain fun i p => parent? links i = some p
  /-- Nothing above the path has been passed over. -/
  next : ∀ i ∈ path, ∀ p, parent? links i = some p → p ∈ path ∨ cur = some p
  /-- What lies on a cycle is still to be met again. -/
  again : ∀ i ∈ path, Above links i i → ∃ q, cur = some q ∧ Upto links q i

section Walks

variable {links : Links} {done path : List Nat}

/-- The parent of an index is looked up without a fault. -/
theorem passes_parentG? {i : Nat} (bound : i < links.size) :
    Passes (parentG? links i) (parent? links i) := by
  refine .guardedAt ?_
  rw [Array.getElem?_toList, parent?, Array.getElem?_eq_getElem bound]
  rfl

/-- What lies above an index that is done is done. -/
theorem Upward.upto (upward : Upward links done) {i q : Nat} (member : i ∈ done)
    (upto : Upto links i q) : q ∈ done := by
  induction upto with
  | refl => exact member
  | tail _ step ih => exact upward _ ih _ step

/-- A cycle goes on from each of its members. -/
theorem exists_parent_of_upto {i q : Nat} (cyclic : Above links i i) (upto : Upto links q i) :
    ∃ p, parent? links q = some p ∧ Upto links p i := by
  have above : Above links q i := Relation.TransGen.trans_right upto cyclic
  obtain ⟨p, parent, rest⟩ := Relation.TransGen.head'_iff.mp above
  exact ⟨p, parent, rest⟩

/-- In a chain with an element added at the end each one before it has its next. -/
theorem exists_next {l : List Nat} {last : Nat}
    (chain : (l ++ [last]).IsChain fun i p => parent? links i = some p) {i : Nat}
    (member : i ∈ l) : ∃ p ∈ l.tail ++ [last], parent? links i = some p := by
  induction l with
  | nil => cases member
  | cons a l ih =>
    rw [List.cons_append, List.isChain_cons] at chain
    rcases List.mem_cons.mp member with rfl | later
    · cases l with
      | nil => exact ⟨last, List.mem_singleton_self last, chain.1 last rfl⟩
      | cons b l => exact ⟨b, List.mem_cons_self, chain.1 b rfl⟩
    · obtain ⟨p, found, parent⟩ := ih chain.2 later
      refine ⟨p, ?_, parent⟩
      rcases List.mem_append.mp found with inside | atEnd
      · exact List.mem_append_left _ (List.mem_of_mem_tail inside)
      · exact List.mem_append_right _ atEnd

/-- A loop holds all that is above its beginning, and its members are above themselves. -/
theorem mem_loop_iff {i q : Nat} {rest : List Nat}
    (chain : (i :: rest ++ [i]).IsChain fun i p => parent? links i = some p) :
    q ∈ i :: rest ↔ Upto links i q ∧ Above links q q := by
  have above : (i :: rest ++ [i]).Pairwise
      (Relation.TransGen fun i p => parent? links i = some p) :=
    List.isChain_iff_pairwise.mp (chain.imp fun _ _ step => .single step)
  have ⟨_, _, before⟩ := List.pairwise_append.mp above
  have back : ∀ q ∈ i :: rest, Above links q i :=
    fun q member => before q member i (List.mem_singleton_self i)
  have out : ∀ q ∈ i :: rest, Above links i q := by
    intro q member
    rcases List.mem_cons.mp member with rfl | later
    · exact back q List.mem_cons_self
    · exact (List.pairwise_cons.mp above).1 q (List.mem_append_left _ later)
  constructor
  · exact fun member => ⟨(out q member).to_reflTransGen, (back q member).trans (out q member)⟩
  · rintro ⟨upto, -⟩
    induction upto with
    | refl => exact List.mem_cons_self
    | tail _ step ih =>
      obtain ⟨p, found, parent⟩ := exists_next chain ih
      obtain rfl := Option.some.inj (parent.symm.trans step)
      rcases List.mem_append.mp found with inside | atEnd
      · exact List.mem_cons_of_mem i inside
      · exact List.mem_singleton.mp atEnd ▸ List.mem_cons_self

/-! ### Walks come to an end -/

/-- Where nothing met lies on a cycle, nothing more is found. -/
theorem searched_append (off : ∀ i ∈ path, ¬ Above links i i) :
    (fun i => decide (i ∈ done) && onCycle links i) =
      fun i => decide (i ∈ done ++ path) && onCycle links i := by
  funext i
  by_cases met : i ∈ path
  · have cyclic : onCycle links i = false :=
      Bool.eq_false_iff.mpr fun found => off i met (onCycle_iff.mp found)
    simp [cyclic]
  · simp [met]

namespace Underway

variable {cur : Option Nat} {i : Nat}

/-- After a walk everything above what is done is done. -/
theorem upward (underway : Underway links done path cur) (upward : Upward links done)
    (past : ∀ q, cur = some q → q ∈ done ++ path) : Upward links (done ++ path) := by
  intro i member p parent
  rcases List.mem_append.mp member with old | met
  · exact List.mem_append_left _ (upward i old p parent)
  · rcases underway.next i met p parent with inside | ahead
    · exact List.mem_append_right _ inside
    · exact past p ahead

/-- A walk is no longer than there are objects. -/
theorem length_le (underway : Underway links done path cur) : path.length ≤ links.size := by
  have inside : path ⊆ List.range links.size :=
    fun i member => List.mem_range.mpr (underway.bound i member)
  simpa using (underway.nodup.subperm inside).length_le

theorem start : Underway links done [] (some i) where
  bound := by simp
  fresh := by simp
  nodup := List.nodup_nil
  chain := List.isChain_singleton i
  next := by simp
  again := by simp

theorem step (underway : Underway links done path (some i)) (bound : i < links.size)
    (new : i ∉ path) (notDone : i ∉ done) :
    Underway links done (path ++ [i]) (parent? links i) where
  bound := by
    intro j member
    rcases List.mem_append.mp member with old | last
    · exact underway.bound j old
    · exact List.mem_singleton.mp last ▸ bound
  fresh := by
    intro j member
    rcases List.mem_append.mp member with old | last
    · exact underway.fresh j old
    · exact List.mem_singleton.mp last ▸ notDone
  nodup := by
    rw [← List.concat_eq_append]
    exact underway.nodup.concat new
  chain := by
    refine List.isChain_append.mpr ⟨underway.chain, ?_, ?_⟩
    · cases parent? links i <;> simp
    · intro j last p first
      obtain rfl : i = j := by simpa using last
      simpa using first
  next := by
    intro j member p parent
    rcases List.mem_append.mp member with old | last
    · -- What the path has led to so far is the index that joins it.
      rcases underway.next j old p parent with inside | ahead
      · exact .inl (List.mem_append_left _ inside)
      · obtain rfl := Option.some.inj ahead
        exact .inl (List.mem_append_right _ (List.mem_singleton_self i))
    · obtain rfl := List.mem_singleton.mp last
      exact .inr parent
  again := by
    intro j member cyclic
    have upto : Upto links i j := by
      rcases List.mem_append.mp member with old | last
      · obtain ⟨q, ahead, upto⟩ := underway.again j old cyclic
        exact Option.some.inj ahead ▸ upto
      · obtain rfl := List.mem_singleton.mp last
        exact .refl
    exact exists_parent_of_upto cyclic upto

/-- A walk that ends with its path not met again has met no cycle. -/
theorem off_of_done (underway : Underway links done path cur) (upward : Upward links done)
    (past : ∀ q, cur = some q → q ∈ done) : ∀ i ∈ path, ¬ Above links i i := by
  intro i member cyclic
  obtain ⟨q, ahead, upto⟩ := underway.again i member cyclic
  exact underway.fresh i member (upward.upto (past q ahead) upto)

/-- A walk that ends with its path met again closes a loop, and all it met on a cycle is there. -/
theorem passes_closeLoopG (underway : Underway links done path (some i)) (met : i ∈ path) :
    Passes (closeLoopG (table links.size fun i => decide (i ∈ done) && onCycle links i) path i)
      (table links.size fun i => decide (i ∈ done ++ path) && onCycle links i) := by
  have found : (path.findIdx? (· == i)).isSome := by simpa using met
  obtain ⟨first, at_first⟩ := Option.isSome_iff_exists.mp found
  obtain ⟨bound, same, -⟩ := List.findIdx?_eq_some_iff_getElem.mp at_first
  obtain ⟨rest, loop⟩ : ∃ rest, path.drop first = i :: rest :=
    ⟨path.drop (first + 1), by rw [List.drop_eq_getElem_cons bound, beq_iff_eq.mp same]⟩
  have chain : (i :: rest ++ [i]).IsChain fun i p => parent? links i = some p := by
    have whole := underway.chain
    rw [← List.take_append_drop first path, loop, List.append_assoc] at whole
    exact whole.right_of_append
  have inside : ∀ j ∈ i :: rest, j ∈ path := fun j member => List.mem_of_mem_drop (loop ▸ member)
  rw [closeLoopG, at_first]
  have slice : Passes (guardedFrom .visit path first) (i :: rest) := by
    rw [Passes, guardedFrom, if_pos bound.le, loop]
  refine .bind slice ?_
  convert Passes.foldlM_guardedSet_table (fun j member => underway.bound j (inside j member)) true
    using 3 with j
  -- The loop is where the path ends; nothing before it on the path is on a cycle.
  by_cases looped : j ∈ i :: rest
  · have cyclic : onCycle links j = true := onCycle_iff.mpr ((mem_loop_iff chain).mp looped).2
    simp [looped, inside j looped, cyclic]
  · by_cases onPath : j ∈ path
    · have cyclic : onCycle links j = false := by
        refine Bool.eq_false_iff.mpr fun found => looped ?_
        obtain ⟨q, ahead, upto⟩ := underway.again j onPath (onCycle_iff.mp found)
        obtain rfl := Option.some.inj ahead
        exact (mem_loop_iff chain).mpr ⟨upto, onCycle_iff.mp found⟩
      simp [looped, cyclic]
    · simp [looped, onPath]

end Underway

/-- A walk meets no fault. With what was done before, the objects that it has met hold all that is
above them, and the cycles found are those among all these. -/
theorem passes_walkG (closed : Closed links) (upward : Upward links done) {steps : Nat}
    {cur : Option Nat} (underway : Underway links done path cur)
    (inside : ∀ i, cur = some i → i < links.size) (room : links.size < steps + path.length) :
    ∃ path', Passes (walkG links steps (marksOf links done path done) path cur)
        (marksOf links done path' (done ++ path'), path') ∧
      (∀ i ∈ path', i < links.size) ∧ Upward links (done ++ path') ∧
      path ++ cur.toList ⊆ done ++ path' := by
  induction steps generalizing path cur with
  | zero =>
    -- A path as long as the table leaves nothing to visit.
    have full := underway.length_le
    omega
  | succ steps ih =>
    cases cur with
    | none =>
      have off := underway.off_of_done upward (by simp)
      refine ⟨path, ?_, underway.bound, underway.upward upward (by simp), by simp⟩
      rw [marksOf, marksOf, ← searched_append off]
      exact .pure _
    | some i =>
      have bound := inside i rfl
      by_cases met : i ∈ path
      · have onPath : mark done path i = .onPath := if_pos met
        refine ⟨path, .bind (.guardedAt_table bound) ?_, underway.bound,
          underway.upward upward (by simp [met]), by simp [met]⟩
        rw [onPath]
        exact .bind (underway.passes_closeLoopG met) (.pure _)
      by_cases finished : i ∈ done
      · have isDone : mark done path i = .done := by rw [mark, if_neg met, if_pos finished]
        have off := underway.off_of_done upward (by simpa using finished)
        refine ⟨path, .bind (.guardedAt_table bound) ?_, underway.bound,
          underway.upward upward (by simp [finished]), by simp [finished]⟩
        rw [isDone, marksOf, marksOf, ← searched_append off]
        exact .pure _
      · have unvisited : mark done path i = .unvisited := by rw [mark, if_neg met, if_neg finished]
        have marked : Passes (guardedSet .object (table links.size (mark done path)) i .onPath)
            (table links.size (mark done (path ++ [i]))) := by
          convert Passes.guardedSet_table bound Mark.onPath using 3 with j
          by_cases same : j = i
          · simp [mark, same]
          · simp [mark, same]
        obtain ⟨path', walked, bound', upward', reached⟩ :=
          ih (underway.step bound met finished) (closed i) (by simp; omega)
        refine ⟨path', .bind (.guardedAt_table bound) ?_, bound', upward', fun j member =>
          reached (List.mem_append_left _ member)⟩
        rw [unvisited]
        exact .bind marked (.bind (passes_parentG? bound) walked)

/-- After a walk from it an object is done, with all that was done before. -/
theorem passes_turnG (closed : Closed links) (upward : Upward links done) {start : Nat}
    (bound : start < links.size) :
    ∃ done', Passes (turnG links (marksOf links done [] done) start)
        (marksOf links done' [] done') ∧
      Upward links done' ∧ done ⊆ done' ∧ start ∈ done' := by
  have room : links.size < links.size + 1 + ([] : List Nat).length := Nat.lt_succ_self _
  obtain ⟨path, walked, inside, upward', reached⟩ :=
    passes_walkG closed upward .start (by simpa using bound) room
  have finished : Passes
      (path.foldlM (fun marks p => guardedSet .object marks p .done)
        (table links.size (mark done path)))
      (table links.size (mark (done ++ path) [])) := by
    convert Passes.foldlM_guardedSet_table inside Mark.done using 3 with j
    by_cases met : j ∈ path
    · simp [mark, met]
    · simp [mark, met]
  refine ⟨done ++ path, .bind walked (.bind finished (.pure _)), upward',
    List.subset_append_left done path, reached (by simp)⟩

/-- Turns from some starts leave no mark but those of done indices, these starts among them. -/
theorem passes_foldlM_turnG (closed : Closed links) (upward : Upward links done)
    {starts : List Nat} (bound : ∀ i ∈ starts, i < links.size) :
    ∃ done', Passes (starts.foldlM (turnG links) (marksOf links done [] done))
        (marksOf links done' [] done') ∧
      done ⊆ done' ∧ starts ⊆ done' := by
  induction starts generalizing done with
  | nil => exact ⟨done, .pure _, List.Subset.refl done, List.nil_subset done⟩
  | cons start starts ih =>
    obtain ⟨first, bound⟩ := List.forall_mem_cons.mp bound
    obtain ⟨middle, turned, upward', kept, reached⟩ := passes_turnG closed upward first
    obtain ⟨done', rest, kept', all⟩ := ih upward' bound
    refine ⟨done', .bind turned rest, List.Subset.trans kept kept', ?_⟩
    exact List.cons_subset.mpr ⟨kept' reached, all⟩

/-- The walks meet no fault and find the members of cycles. -/
theorem passes_cycleMembersG (closed : Closed links) :
    Passes (cycleMembersG links) (table links.size (onCycle links)) := by
  have upward : Upward links [] := by simp [Upward]
  obtain ⟨done, walked, -, all⟩ :=
    passes_foldlM_turnG closed upward fun i member => List.mem_range.mp member
  have members : (table links.size fun i => decide (i ∈ done) && onCycle links i) =
      table links.size (onCycle links) := by
    refine List.map_congr_left fun i member => ?_
    simp [all member]
  rw [← members]
  exact .bind walked (.pure _)

end Walks

end Order

end Playfield
