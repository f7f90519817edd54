import Playfield.Proofs.Guarded.Marks

/-!
The search for cycles of parents without a bound on its walks.

A walk goes on as long as it meets unvisited objects (`Walked`), and one walk follows the other until
all objects have been a start (`Searched`). Every visit leaves one object less unvisited, so a walk
from whatever table comes to its end, and within the number of visits that a bounded one is allowed
(`Walked.of_walkG`). A search of links that lead to objects therefore ends in one way, without a
fault, and has then found just those objects that are above themselves (`cycleSearch_iff_above`).
-/

namespace Playfield

/-- What a guarded computation comes to comes of its first part. -/
theorem Passes.of_bind {c : Guarded α} {f : α → Guarded β} {b : β} (passes : Passes (c >>= f) b) :
    ∃ a, Passes c a ∧ Passes (f a) b := by
  cases c with
  | error fault => cases passes
  | ok a => exact ⟨a, rfl, passes⟩

/-- A guarded computation comes to one value. -/
theorem Passes.unique {c : Guarded α} {a b : α} (passes : Passes c a) (passes' : Passes c b) :
    a = b :=
  Except.ok.inj (passes.symm.trans passes')

namespace Order

/-! ### The search -/

section Search

variable (links : Links)

/-- A walk up from an index, if there is one, after the visits on a path: the marks that it leaves
and the path that it has taken in the end. -/
inductive Walked : Marks → List Nat → Option Nat → Marks × List Nat → Prop where
  | top (m : Marks) (path : List Nat) : Walked m path none (m, path)
  | done {m : Marks} {path : List Nat} {i : Nat} (met : Passes (guardedAt .object m.marks i) .done) :
      Walked m path (some i) (m, path)
  | loop {m : Marks} {path : List Nat} {i : Nat} {cyclic : List Bool}
      (met : Passes (guardedAt .object m.marks i) .onPath)
      (closed : Passes (closeLoopG m.cyclic path i) cyclic) :
      Walked m path (some i) ({ m with cyclic }, path)
  | visit {m : Marks} {path : List Nat} {i : Nat} {marks : List Mark} {parent : Option Nat}
      {last : Marks × List Nat} (met : Passes (guardedAt .object m.marks i) .unvisited)
      (marked : Passes (guardedSet .object m.marks i .onPath) marks)
      (above : Passes (parentG? links i) parent)
      (rest : Walked { m with marks } (path ++ [i]) parent last) : Walked m path (some i) last

/-- One walk from each of some starts; everything that a walk has met is done after it. -/
inductive Searched : List Nat → Marks → Marks → Prop where
  | finished (m : Marks) : Searched [] m m
  | turn {start : Nat} {starts : List Nat} {m walked last : Marks} {path : List Nat}
      {marks : List Mark} (walk : Walked links m [] (some start) (walked, path))
      (all : Passes (path.foldlM (fun marks p => guardedSet .object marks p .done) walked.marks)
        marks)
      (rest : Searched starts { walked with marks } last) : Searched (start :: starts) m last

/-- No object is visited yet, and none has been found on a cycle. -/
def unsearched : Marks :=
  ⟨table links.size fun _ => .unvisited, table links.size fun _ => false⟩

/-- A search from every index that ends with these objects found on cycles. -/
def CycleSearch (found : List Bool) : Prop :=
  ∃ m, Searched links (List.range links.size) (unsearched links) m ∧ m.cyclic = found

end Search

variable {links : Links}

/-! ### It ends in one way -/

/-- A walk ends in one way. -/
theorem Walked.unique {m : Marks} {path : List Nat} {cur : Option Nat}
    {last last' : Marks × List Nat} (walked : Walked links m path cur last)
    (walked' : Walked links m path cur last') : last = last' := by
  induction walked with
  | top m path =>
    cases walked'
    rfl
  | done met =>
    cases walked' with
    | done => rfl
    | loop met' | visit met' => cases met.unique met'
  | loop met closed =>
    cases walked' with
    | loop _ closed' => rw [closed.unique closed']
    | done met' | visit met' => cases met.unique met'
  | visit met marked above _ ih =>
    cases walked' with
    | visit _ marked' above' rest' =>
      obtain rfl := marked.unique marked'
      obtain rfl := above.unique above'
      exact ih rest'
    | done met' | loop met' => cases met.unique met'

theorem Searched.unique {starts : List Nat} {m last last' : Marks}
    (searched : Searched links starts m last) (searched' : Searched links starts m last') :
    last = last' := by
  induction searched with
  | finished m =>
    cases searched'
    rfl
  | turn walk all _ ih =>
    cases searched' with
    | turn walk' all' rest' =>
      obtain ⟨rfl, rfl⟩ := Prod.mk.inj (walk.unique walk')
      obtain rfl := all.unique all'
      exact ih rest'

/-! ### It comes to an end -/

theorem eq_set_of_passes {fault : Nat → Nat → Fault} {list list' : List α} {i : Nat} {a : α}
    (passes : Passes (guardedSet fault list i a) list') :
    i < list.length ∧ list' = list.set i a := by
  rw [Passes, guardedSet] at passes
  split at passes
  · rename_i bound
    exact ⟨bound, (Except.ok.inj passes).symm⟩
  · cases passes

/-- A guarded access that passes finds what stands there. -/
theorem getElem?_of_passes {fault : Nat → Nat → Fault} {list : List α} {i : Nat} {a : α}
    (passes : Passes (guardedAt fault list i) a) : list[i]? = some a := by
  rw [Passes, guardedAt] at passes
  split at passes
  · rename_i there
    rw [there, Except.ok.inj passes]
  · cases passes

/-- A visit leaves one object less unvisited. -/
theorem count_visit {marks marks' : List Mark} {i : Nat}
    (met : Passes (guardedAt .object marks i) .unvisited)
    (marked : Passes (guardedSet .object marks i .onPath) marks') :
    marks'.count .unvisited + 1 = marks.count .unvisited := by
  obtain ⟨bound, rfl⟩ := eq_set_of_passes marked
  obtain ⟨_, there⟩ := List.getElem_of_getElem? (getElem?_of_passes met)
  have some : 0 < marks.count .unvisited :=
    List.count_pos_iff.mpr (there ▸ List.getElem_mem bound)
  rw [List.count_set bound, there]
  simp
  omega

/-- A bounded walk is a walk if it is allowed more visits than there are unvisited objects. -/
theorem Walked.of_walkG {steps : Nat} {m : Marks} {path : List Nat} {cur : Option Nat}
    {last : Marks × List Nat} (walked : Passes (walkG links steps m path cur) last)
    (room : m.marks.count .unvisited < steps) : Walked links m path cur last := by
  induction steps generalizing m path cur with
  | zero => exact absurd room (Nat.not_lt_zero _)
  | succ steps ih =>
    cases cur with
    | none =>
      obtain rfl := Except.ok.inj walked
      exact .top m path
    | some i =>
      obtain ⟨mark, met, walked⟩ := Passes.of_bind walked
      cases mark with
      | done =>
        obtain rfl := Except.ok.inj walked
        exact .done met
      | onPath =>
        obtain ⟨cyclic, closed, walked⟩ := Passes.of_bind walked
        obtain rfl := Except.ok.inj walked
        exact .loop met closed
      | unvisited =>
        obtain ⟨marks, marked, walked⟩ := Passes.of_bind walked
        obtain ⟨parent, above, walked⟩ := Passes.of_bind walked
        have fewer := count_visit met marked
        exact .visit met marked above (ih walked (by dsimp only; omega))

/-- A walk leaves as many marks as it has found. -/
theorem Walked.length_marks {m : Marks} {path : List Nat} {cur : Option Nat}
    {last : Marks × List Nat} (walked : Walked links m path cur last) :
    last.1.marks.length = m.marks.length := by
  induction walked with
  | top | done | loop => rfl
  | visit _ marked _ _ ih =>
    obtain ⟨-, rfl⟩ := eq_set_of_passes marked
    exact ih.trans (List.length_set ..)

theorem length_foldlM_guardedSet {fault : Nat → Nat → Fault} {places : List Nat}
    {list list' : List α} {a : α}
    (passes : Passes (places.foldlM (fun list p => guardedSet fault list p a) list) list') :
    list'.length = list.length := by
  induction places generalizing list with
  | nil =>
    obtain rfl := Except.ok.inj passes
    rfl
  | cons p places ih =>
    rw [List.foldlM_cons] at passes
    obtain ⟨next, set, rest⟩ := passes.of_bind
    obtain ⟨-, rfl⟩ := eq_set_of_passes set
    exact (ih rest).trans (List.length_set ..)

/-- The walks of a bounded search are long enough. -/
theorem Searched.of_foldlM {starts : List Nat} {m last : Marks}
    (passes : Passes (starts.foldlM (turnG links) m) last)
    (size : m.marks.length = links.size) : Searched links starts m last := by
  induction starts generalizing m with
  | nil =>
    obtain rfl := Except.ok.inj passes
    exact .finished m
  | cons start starts ih =>
    rw [List.foldlM_cons] at passes
    obtain ⟨next, turned, rest⟩ := passes.of_bind
    obtain ⟨⟨walked, path⟩, walk, turned⟩ := Passes.of_bind turned
    obtain ⟨marks, all, turned⟩ := Passes.of_bind turned
    obtain rfl := Except.ok.inj turned
    have room : m.marks.count .unvisited < links.size + 1 :=
      Nat.lt_succ_of_le (size ▸ List.count_le_length)
    have walk := Walked.of_walkG walk room
    have kept : marks.length = links.size :=
      (length_foldlM_guardedSet all).trans (walk.length_marks.trans size)
    exact .turn walk all (ih rest kept)

/-- A bounded search that meets no fault is the search. -/
theorem CycleSearch.of_cycleMembersG {found : List Bool}
    (passes : Passes (cycleMembersG links) found) : CycleSearch links found := by
  obtain ⟨m, searched, last⟩ := Passes.of_bind passes
  have size : (unsearched links).marks.length = links.size := by simp [unsearched, table]
  exact ⟨m, .of_foldlM searched size, Except.ok.inj last⟩

/-- All searches find the same cycles. -/
theorem CycleSearch.unique {found found' : List Bool} (search : CycleSearch links found)
    (search' : CycleSearch links found') : found = found' := by
  obtain ⟨m, searched, rfl⟩ := search
  obtain ⟨m', searched', rfl⟩ := search'
  rw [searched.unique searched']

/-! ### What it finds -/

/-- **The search finds the members of cycles.** For any table of links that lead into the table, the
search ends, in one way and without a fault, and within the bounds of the guarded one. It has then
marked an index just if following links from it, one or more times, leads back to it; one that only
leads to a cycle is not marked. That is what `onCycle` says of each index. -/
theorem cycleSearch_iff_above (closed : Closed links) :
    ∃ found, CycleSearch links found ∧ (∀ found', CycleSearch links found' → found' = found) ∧
      cycleMembersG links = .ok found ∧ found.length = links.size ∧
      ∀ i < links.size, found[i]? = some (onCycle links i) ∧
        (found[i]? = some true ↔ Above links i i) ∧
        (found[i]? = some false ↔ ¬Above links i i) := by
  have passes := passes_cycleMembersG closed
  have search := CycleSearch.of_cycleMembersG passes
  refine ⟨_, search, fun _ search' => search'.unique search, passes, by simp [table], ?_⟩
  intro i bound
  have held : Passes (guardedAt .object (table links.size (onCycle links)) i) (onCycle links i) :=
    .guardedAt_table bound
  rw [getElem?_of_passes held, ← onCycle_iff]
  simp

/-- A loop of two, an index that leads into it, one that leads to that, and one by itself. -/
def whirlpool : Links :=
  #[some 1, some 2, some 3, some 2, none]

/-- The search of a whirlpool finds its two indices. -/
theorem cycleSearch_iff_above_whirlpool :
    Closed whirlpool ∧ CycleSearch whirlpool [false, false, true, true, false] ∧
      Above whirlpool 2 2 ∧ ¬Above whirlpool 1 1 := by
  have closed : Closed whirlpool := by
    intro i p parent
    have bound := lt_size_of_parent? parent
    have inside : ∀ i < whirlpool.size, ∀ p ∈ parent? whirlpool i, p < whirlpool.size := by decide
    exact inside i bound p parent
  have members : cycleMembersG whirlpool = .ok [false, false, true, true, false] := by decide
  obtain ⟨found, search, -, passes, -, marked⟩ := cycleSearch_iff_above closed
  obtain rfl : found = [false, false, true, true, false] :=
    Except.ok.inj (passes.symm.trans members)
  exact ⟨closed, search, (marked 2 (by decide)).2.1.mp rfl, (marked 1 (by decide)).2.2.mp rfl⟩

end Order

end Playfield
