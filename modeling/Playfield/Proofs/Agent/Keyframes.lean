import Playfield.Proofs.Agent.Cue
import Playfield.Proofs.Binary32.Arithmetic
import Playfield.Proofs.StableSort

/-!
Where keyframes put an agent.

Grouping leaves each keyframe with its agent, by frames and with those of one frame as they were
listed (`keyframesOf_perm`, `keyframesOf_pairwise`, `filter_keyframesOf`). On such a list there is a
position up to the last frame and none later (`interpolate_eq_none_iff`): the first keyframe's until
its frame, and then the one on the way to the first keyframe that is not before the frame, from the
keyframe ahead of it (`interpolate_of_lt`). `interpolate_group` puts this together.
-/

namespace Playfield

namespace Cue

/-! ### Groups -/

/-- Collecting keyframes gives an id a group iff it had one before or one of them is for it. -/
theorem isSome_get?_collected (keyframes : List Keyframe) (id : String)
    (groups : IdMap (List Keyframe)) :
    ((keyframes.foldl (fun groups k =>
        groups.insert k.agent ((groups.get? k.agent).getD [] ++ [k])) groups).get? id).isSome ↔
      (groups.get? id).isSome ∨ ∃ k ∈ keyframes, k.agent = id := by
  induction keyframes generalizing groups with
  | nil => simp
  | cons k keyframes ih =>
    rw [List.foldl_cons, ih, IdMap.get?_insert]
    by_cases same : id = k.agent
    · simp [same]
    · simp [same, Ne.symm same]

/-- There is a group for the agents that have a keyframe, and for nobody else. -/
theorem get?_group_eq_none_iff (keyframes : List Keyframe) (id : String) :
    (group keyframes).get? id = none ↔ ∀ k ∈ keyframes, k.agent ≠ id := by
  have collected := isSome_get?_collected keyframes id .empty
  rw [IdMap.get?_empty] at collected
  rw [group, IdMap.get?_mapValues, Option.map_eq_none_iff, ← Option.not_isSome_iff_eq_none,
    collected]
  simp

section Group

variable (keyframes : List Keyframe) (id : String)

theorem keyframesOf_perm :
    (keyframesOf keyframes id).Perm (keyframes.filter fun k => k.agent == id) :=
  List.mergeSort_perm _ _

/-- The keyframes of an agent stand in the order of their frames. -/
theorem keyframesOf_pairwise :
    (keyframesOf keyframes id).Pairwise fun a b => a.frame ≤ b.frame :=
  StableSort.pairwise_mergeSort Keyframe.frame _

/-- The keyframes of one frame stay in the order of the list. -/
theorem filter_keyframesOf (frame : ℕ) :
    (keyframesOf keyframes id).filter (·.frame = frame) =
      (keyframes.filter fun k => k.agent == id).filter (·.frame = frame) :=
  StableSort.filter_key_mergeSort Keyframe.frame _ frame

end Group

/-- The group of an agent begins with the first listed keyframe of its least frame. -/
theorem head?_keyframesOf {keyframes : List Keyframe} {id : String} {first : Keyframe}
    (heads : (keyframesOf keyframes id).head? = some first) :
    keyframes.find? (fun k => k.agent == id && k.frame == first.frame) = some first ∧
      ∀ k ∈ keyframes, k.agent = id → first.frame ≤ k.frame := by
  obtain ⟨later, split⟩ := List.head?_eq_some_iff.mp heads
  have sorted := keyframesOf_pairwise keyframes id
  have alike := filter_keyframesOf keyframes id first.frame
  rw [split] at sorted alike
  constructor
  · rw [List.filter_cons_of_pos (by simp), List.filter_filter] at alike
    rw [← List.head?_filter]
    have same : (fun k : Keyframe => k.agent == id && k.frame == first.frame) =
        fun k => decide (k.frame = first.frame) && k.agent == id := by
      funext k
      rw [Bool.and_comm]
      rfl
    rw [same, ← alike]
    rfl
  · intro k member own
    have inside : k ∈ first :: later := by
      rw [← split, (keyframesOf_perm keyframes id).mem_iff]
      exact List.mem_filter.mpr ⟨member, beq_iff_eq.mpr own⟩
    rcases List.mem_cons.mp inside with rfl | behind
    · exact le_rfl
    · exact (List.pairwise_cons.mp sorted).1 k behind

/-! ### Positions -/

/-- Neighbors in a list of keyframes between which a frame lies: the second is the first one that is
not before the frame. -/
structure Bracket (ks : List Keyframe) (frame : ℕ) (a b : Keyframe) : Prop where
  neighbors : ∃ before rest, ks = before ++ a :: b :: rest ∧ ∀ k ∈ before, k.frame < frame
  behind : a.frame < frame
  ahead : frame ≤ b.frame

variable {ks later : List Keyframe} {first a b : Keyframe} {frame : ℕ}

theorem Bracket.cons (h : Bracket ks frame a b) (passed : first.frame < frame) :
    Bracket (first :: ks) frame a b := by
  obtain ⟨⟨before, rest, rfl, earlier⟩, behind, ahead⟩ := h
  refine ⟨⟨first :: before, rest, rfl, ?_⟩, behind, ahead⟩
  intro k member
  rcases List.mem_cons.mp member with rfl | member
  · exact passed
  · exact earlier k member

/-- The last of the ordered keyframes has the latest frame. -/
theorem frame_le_getLastD (sorted : (first :: later).Pairwise fun a b => a.frame ≤ b.frame) :
    ∀ k ∈ first :: later, k.frame ≤ (later.getLastD first).frame := by
  induction later generalizing first with
  | nil =>
    intro k member
    rw [List.mem_singleton.mp member]
    rfl
  | cons b later ih =>
    obtain ⟨below, tail⟩ := List.pairwise_cons.mp sorted
    intro k member
    rw [List.getLastD_cons]
    rcases List.mem_cons.mp member with rfl | member
    · exact (below b List.mem_cons_self).trans (ih tail b List.mem_cons_self)
    · exact ih tail k member

/-- A frame after the first keyframe and not after the last one lies between two neighbors. -/
theorem exists_bracket (after : first.frame < frame) (upTo : frame ≤ (later.getLastD first).frame) :
    ∃ a b, Bracket (first :: later) frame a b := by
  induction later generalizing first with
  | nil => exact absurd upTo after.not_ge
  | cons b later ih =>
    rw [List.getLastD_cons] at upTo
    rcases Nat.lt_or_ge b.frame frame with passed | reached
    · obtain ⟨a, b', bracket⟩ := ih passed upTo
      exact ⟨a, b', bracket.cons after⟩
    · exact ⟨first, b, ⟨[], later, rfl, by simp⟩, after, reached⟩

/-- The search along the pairs of neighbors stops at those around the frame. -/
theorem Bracket.find?_eq (h : Bracket ks frame a b) :
    (ks.zip ks.tail).find? (fun w => decide (w.1.frame ≤ frame) && decide (frame ≤ w.2.frame)) =
      some (a, b) := by
  obtain ⟨⟨before, rest, rfl, earlier⟩, behind, ahead⟩ := h
  induction before with
  | nil => simp [behind.le, ahead]
  | cons k before ih =>
    -- The neighbor of `k` is before the frame as well.
    obtain ⟨next, tail, split, passed⟩ : ∃ next tail,
        before ++ a :: b :: rest = next :: tail ∧ next.frame < frame := by
      cases before with
      | nil => exact ⟨a, b :: rest, rfl, behind⟩
      | cons next before => exact ⟨next, _, rfl, earlier next (by simp)⟩
    have found := ih fun k' member => earlier k' (List.mem_cons_of_mem k member)
    rw [split, List.tail_cons] at found
    rw [List.cons_append, List.tail_cons, split, List.zip_cons_cons,
      List.find?_cons_of_neg (by simp [passed.not_ge]), found]

/-- Up to the frame of the first keyframe its position holds. -/
theorem interpolate_of_le (upTo : frame ≤ first.frame) :
    interpolate (first :: later) frame = some first.position := by
  rw [interpolate_cons, if_pos upTo]

/-- After the first keyframe and up to the last one the position is on the way between the
neighbors. -/
theorem Bracket.interpolate_eq (h : Bracket ks frame a b)
    (sorted : ks.Pairwise fun a b => a.frame ≤ b.frame) :
    interpolate ks frame = some (a.position.lerp b.position
      (Binary32.ofNat (frame - a.frame) / Binary32.ofNat (b.frame - a.frame))) := by
  have found := h.find?_eq
  obtain ⟨⟨before, rest, split, earlier⟩, behind, ahead⟩ := h
  cases ks with
  | nil => simp at split
  | cons first later =>
    have after : first.frame < frame := by
      cases before with
      | nil => rwa [(List.cons.inj split).1]
      | cons k before =>
        rw [(List.cons.inj split).1]
        exact earlier k List.mem_cons_self
    have inside : b ∈ first :: later := by simp [split]
    have upTo := ahead.trans (frame_le_getLastD sorted b inside)
    rw [List.tail_cons] at found
    rw [interpolate_cons, if_neg after.not_ge, if_neg upTo.not_gt, found]
    change some (between frame a b) = _
    rw [between_eq, if_neg (behind.trans_le ahead).ne]

/-- There is no position after the last keyframe, and one up to it. -/
theorem interpolate_eq_none_iff (sorted : ks.Pairwise fun a b => a.frame ≤ b.frame) :
    interpolate ks frame = none ↔ ∀ last ∈ ks.getLast?, last.frame < frame := by
  cases ks with
  | nil => simp [interpolate, interpolateM]
  | cons first later =>
    have ends : (first :: later).getLast? = some (later.getLastD first) := by
      rw [List.getLast?_cons, List.getLastD_eq_getLast?]
    rw [ends]
    have last := frame_le_getLastD sorted first List.mem_cons_self
    constructor
    · intro missing k member
      obtain rfl : later.getLastD first = k := by simpa using member
      by_contra! upTo
      rcases Nat.lt_or_ge first.frame frame with after | held
      · obtain ⟨a, b, bracket⟩ := exists_bracket after upTo
        rw [bracket.interpolate_eq sorted] at missing
        cases missing
      · rw [interpolate_of_le held] at missing
        cases missing
    · intro ended
      have passed := ended _ rfl
      rw [interpolate_cons, if_neg (last.trans_lt passed).not_ge, if_pos passed]

/-- The weight between two neighbors is the quotient of two positive numbers at most, and it is one
on the frame of the second. -/
theorem Bracket.weight (h : Bracket ks frame a b) (word : frame < 2 ^ 64) :
    0 < Binary32.ofNat (b.frame - a.frame) ∧
      (frame = b.frame →
        Binary32.ofNat (frame - a.frame) / Binary32.ofNat (b.frame - a.frame) = 1) := by
  have apart : a.frame < b.frame := h.behind.trans_le h.ahead
  have divisor : 0 < Binary32.ofNat (b.frame - a.frame) := Binary32.ofNat_pos (by omega)
  refine ⟨divisor, ?_⟩
  rintro rfl
  have finite : (Binary32.ofNat (b.frame - a.frame)).isFinite := Binary32.isFinite_ofNat (by omega)
  exact Binary32.quotient_self finite ((Binary32.pos_iff finite).mp divisor).ne'

/-- **Keyframes in any order make one way for each agent.** The group of an agent holds each of its
keyframes once, by frames, and those of one frame as they were listed. By such a group there is no
position if it is empty or after its last frame; up to its first frame there is the position of the
keyframe listed first for that frame; and in between, the frame lies strictly after one keyframe and
not after the next, and the position is on the way between these two, at the second on its own
frame. -/
theorem interpolate_group (keyframes : List Keyframe) (id : String) (word : frame < 2 ^ 64) :
    let ks := ((group keyframes).get? id).getD []
    ((group keyframes).get? id = none ↔ ∀ k ∈ keyframes, k.agent ≠ id) ∧
      ks.Perm (keyframes.filter fun k => k.agent == id) ∧
      (ks.Pairwise fun a b => a.frame ≤ b.frame) ∧
      (∀ n, ks.filter (·.frame = n) =
        (keyframes.filter fun k => k.agent == id).filter (·.frame = n)) ∧
      (interpolate ks frame = none ↔ ∀ last ∈ ks.getLast?, last.frame < frame) ∧
      (∀ first ∈ ks.head?,
        keyframes.find? (fun k => k.agent == id && k.frame == first.frame) = some first ∧
        (∀ k ∈ keyframes, k.agent = id → first.frame ≤ k.frame) ∧
        (frame ≤ first.frame → interpolate ks frame = some first.position) ∧
        ∀ last ∈ ks.getLast?, first.frame < frame → frame ≤ last.frame →
          ∃ a b, Bracket ks frame a b) ∧
      ∀ a b, Bracket ks frame a b →
        let weight := Binary32.ofNat (frame - a.frame) / Binary32.ofNat (b.frame - a.frame)
        interpolate ks frame = some (a.position.lerp b.position weight) ∧
          0 < Binary32.ofNat (b.frame - a.frame) ∧ (frame = b.frame → weight = 1) := by
  intro ks
  have own : ks = keyframesOf keyframes id := get?_group keyframes id
  have sorted : ks.Pairwise fun a b => a.frame ≤ b.frame := own ▸ keyframesOf_pairwise keyframes id
  refine ⟨get?_group_eq_none_iff keyframes id, own ▸ keyframesOf_perm keyframes id, sorted,
    own ▸ filter_keyframesOf keyframes id, interpolate_eq_none_iff sorted, ?_, ?_⟩
  · intro first heads
    obtain ⟨listed, least⟩ := head?_keyframesOf (own ▸ heads)
    obtain ⟨later, split⟩ := List.head?_eq_some_iff.mp heads
    refine ⟨listed, least, ?_, ?_⟩
    · rw [split]
      exact interpolate_of_le
    · intro last ends after upTo
      rw [split, List.getLast?_cons, ← List.getLastD_eq_getLast?] at ends
      rw [split]
      obtain rfl : later.getLastD first = last := by simpa using ends
      exact exists_bracket after upTo
  · intro a b bracket
    exact ⟨bracket.interpolate_eq sorted, bracket.weight word⟩

/-- A run in which a later place is listed before an earlier one, and two on one frame. -/
def relay : List Keyframe :=
  [⟨20, "runner", ⟨7, 7⟩⟩, ⟨5, "runner", ⟨1, 2⟩⟩, ⟨9, "coach", ⟨0, 0⟩⟩, ⟨20, "runner", ⟨9, 9⟩⟩]

/-- Between the keyframes of a runner, on the frame of the second one. -/
theorem interpolate_group_relay :
    20 < 2 ^ 64 ∧
      Bracket (((group relay).get? "runner").getD []) 20 ⟨5, "runner", ⟨1, 2⟩⟩
        ⟨20, "runner", ⟨7, 7⟩⟩ ∧
      interpolate (((group relay).get? "runner").getD []) 20 =
        some ((⟨1, 2⟩ : Vec2).lerp ⟨7, 7⟩ 1) := by
  have word : 20 < 2 ^ 64 := by decide
  have ordered : ((group relay).get? "runner").getD [] =
      [⟨5, "runner", ⟨1, 2⟩⟩, ⟨20, "runner", ⟨7, 7⟩⟩, ⟨20, "runner", ⟨9, 9⟩⟩] := by
    rw [get?_group, keyframesOf]
    have own : relay.filter (fun k => k.agent == "runner") =
        [⟨20, "runner", ⟨7, 7⟩⟩, ⟨5, "runner", ⟨1, 2⟩⟩, ⟨20, "runner", ⟨9, 9⟩⟩] := rfl
    rw [own]
    simp [List.mergeSort, List.MergeSort.Internal.splitInTwo]
  have bracket : Bracket (((group relay).get? "runner").getD []) 20 ⟨5, "runner", ⟨1, 2⟩⟩
      ⟨20, "runner", ⟨7, 7⟩⟩ := by
    rw [ordered]
    exact ⟨⟨[], [⟨20, "runner", ⟨9, 9⟩⟩], rfl, by simp⟩, by decide, by decide⟩
  obtain ⟨-, -, -, -, -, -, ways⟩ := interpolate_group relay "runner" word
  obtain ⟨placed, -, arrived⟩ := ways _ _ bracket
  rw [arrived rfl] at placed
  exact ⟨word, bracket, placed⟩

end Cue

end Playfield
