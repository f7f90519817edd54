import Mathlib.Order.Lattice

/-!
Sorting by a key, with the elements of one key left in their order.

Such a sort has one result only: a list in the order of the keys is determined by its elements of
each key (`eq_of_filter_key_eq`). A merge sort keeps these (`filter_key_mergeSort`), so whatever is
in order and keeps them is the merge sort (`eq_mergeSort`), and leaving elements out before or after
sorting comes to the same (`filter_mergeSort`).
-/

namespace Playfield.StableSort

variable {α κ : Type} [LinearOrder κ] (key : α → κ)

theorem pairwise_mergeSort (l : List α) :
    (l.mergeSort fun a b => key a ≤ key b).Pairwise fun a b => key a ≤ key b := by
  have sorted := @List.pairwise_mergeSort α (fun a b => decide (key a ≤ key b))
    (by simpa using fun a b c => le_trans) (by simpa using fun a b => le_total (key a) (key b)) l
  simpa using sorted

/-- Sorting keeps the elements of each key in their order. -/
theorem filter_key_mergeSort (l : List α) (k : κ) :
    (l.mergeSort fun a b => key a ≤ key b).filter (key · = k) = l.filter (key · = k) := by
  have alike : (l.filter (key · = k)).Pairwise fun a b => decide (key a ≤ key b) = true := by
    refine List.pairwise_of_forall_mem_list fun a inside b inside' => ?_
    have at_a : key a = k := by simpa using (List.mem_filter.mp inside).2
    have at_b : key b = k := by simpa using (List.mem_filter.mp inside').2
    simp [at_a, at_b]
  have kept : (l.filter (key · = k)).Sublist (l.mergeSort fun a b => key a ≤ key b) :=
    List.sublist_mergeSort (by simpa using fun a b c => le_trans)
      (by simpa using fun a b => le_total (key a) (key b)) alike List.filter_sublist
  have inside := kept.filter (key · = k)
  rw [List.filter_filter] at inside
  simp only [Bool.and_self] at inside
  exact (inside.eq_of_length ((List.mergeSort_perm l _).filter _).length_eq.symm).symm

variable {key}

/-- Two tests that agree on the elements of a key let through the same elements of it. -/
theorem filter_key_congr {p q : α → Bool} {k : κ} (l : List α)
    (same : ∀ a, key a = k → p a = q a) :
    (l.filter p).filter (key · = k) = (l.filter q).filter (key · = k) := by
  rw [List.filter_filter, List.filter_filter]
  refine List.filter_congr fun a _ => ?_
  by_cases at_k : key a = k
  · rw [same a at_k]
  · simp [at_k]

theorem mem_iff_of_filter_key_eq {s t : List α}
    (same : ∀ k, s.filter (key · = k) = t.filter (key · = k)) (x : α) : x ∈ s ↔ x ∈ t := by
  have atKey : x ∈ s.filter (key · = key x) ↔ x ∈ t.filter (key · = key x) := by
    rw [same (key x)]
  simpa using atKey

/-- Two lists in the order of the keys that have the same elements of each key in the same order
are equal. -/
theorem eq_of_filter_key_eq {s t : List α} (sorted : s.Pairwise fun a b => key a ≤ key b)
    (sorted' : t.Pairwise fun a b => key a ≤ key b)
    (same : ∀ k, s.filter (key · = k) = t.filter (key · = k)) : s = t := by
  have members := mem_iff_of_filter_key_eq same
  induction s generalizing t with
  | nil =>
    symm
    refine List.eq_nil_iff_forall_not_mem.mpr fun x inside => ?_
    exact List.not_mem_nil ((members x).mpr inside)
  | cons a s ih =>
    cases t with
    | nil => exact absurd ((members a).mp List.mem_cons_self) List.not_mem_nil
    | cons b t =>
      obtain ⟨below, tail⟩ := List.pairwise_cons.mp sorted
      obtain ⟨below', tail'⟩ := List.pairwise_cons.mp sorted'
      have ab : key a ≤ key b := by
        rcases List.mem_cons.mp ((members b).mpr List.mem_cons_self) with rfl | inside
        · exact le_refl _
        · exact below b inside
      have ba : key b ≤ key a := by
        rcases List.mem_cons.mp ((members a).mp List.mem_cons_self) with rfl | inside
        · exact le_refl _
        · exact below' a inside
      -- Both heads have the least key, and so both come first among the elements of that key.
      have firsts := same (key a)
      rw [List.filter_cons_of_pos (by simp), List.filter_cons_of_pos (by simp [le_antisymm ba ab])]
        at firsts
      obtain rfl : a = b := (List.cons.inj firsts).1
      have rest (k : κ) : s.filter (key · = k) = t.filter (key · = k) := by
        have whole := same k
        by_cases first : key a = k
        · rw [List.filter_cons_of_pos (by simpa using first),
            List.filter_cons_of_pos (by simpa using first)] at whole
          exact (List.cons.inj whole).2
        · rwa [List.filter_cons_of_neg (by simpa using first),
            List.filter_cons_of_neg (by simpa using first)] at whole
      rw [ih tail tail' rest (mem_iff_of_filter_key_eq rest)]

/-- A list in the order of the keys that keeps the elements of each key is the sorted list. -/
theorem eq_mergeSort {l s : List α} (sorted : s.Pairwise fun a b => key a ≤ key b)
    (kept : ∀ k, s.filter (key · = k) = l.filter (key · = k)) :
    s = l.mergeSort fun a b => key a ≤ key b :=
  eq_of_filter_key_eq sorted (pairwise_mergeSort key l) fun k =>
    (kept k).trans (filter_key_mergeSort key l k).symm

variable (key) in
/-- Leaving elements out of the sorted list is sorting without them. -/
theorem filter_mergeSort (l : List α) (p : α → Bool) :
    (l.mergeSort fun a b => key a ≤ key b).filter p =
      (l.filter p).mergeSort fun a b => key a ≤ key b := by
  have swap (l : List α) (q : α → Bool) : (l.filter p).filter q = (l.filter q).filter p := by
    simp only [List.filter_filter, Bool.and_comm]
  refine eq_mergeSort ((pairwise_mergeSort key l).sublist List.filter_sublist) fun k => ?_
  rw [swap, filter_key_mergeSort, swap]

end Playfield.StableSort
