import Playfield.Proofs.Frame.Entries

/-!
What the formulas of an object see of the others on the same frame.

An object that had its turn earlier is seen as it comes out in the end (`sameAt_turn_of_earlier`).
Off the parent cycles a parent is one of these (`parent_mem_earlier`), so the position that a child
is given is the one in the result of the same frame. With the fields that objects publish
(`published_turn`) this describes the scope of every formula by the results of the frame, and the
positions of the result solve the equations that the formulas then make (`resolve_settles`).
-/

namespace Playfield

namespace Frame

open Formula (settleNumber settleTruth Fields)

/-! ### Fields -/

section Resolve

variable {ctx : FrameContext} {snap : AgentStates} {p : Progress} {o : SceneObject}

/-- The fields that an object publishes in its turn, if it shows. -/
def Progress.fields? (p : Progress) (ctx : FrameContext) (snap : AgentStates) (o : SceneObject) :
    Option Fields :=
  let position := p.standing ctx snap o
  let scope := p.scope ctx o
  if p.shows ctx o then
    some (fields position (figure? o position scope)
      (o.agent?.map fun agent => (stepAgent o agent snap p.published ctx).velocity)
      (settleNumber o.opacity 1 scope))
  else none

/-- The turn of an object publishes its fields, if it shows. -/
theorem published_resolve :
    (p.resolve ctx snap o).published =
      match p.fields? ctx snap o with
      | some shown => p.published.insert o.id shown
      | none => p.published := by
  rw [Progress.resolve_eq]
  unfold Progress.fields? Progress.shows Progress.sees Progress.standing
  dsimp only
  split
  · rename_i visible
    rw [visible]
    cases kind : o.kind with
    | unknown => simp
    | agent agent => simp [SceneObject.agent?, kind]
    | _ => simp [SceneObject.agent?, kind]
  · rename_i hidden
    rw [Bool.not_eq_true] at hidden
    rw [hidden]
    unfold Progress.carry
    cases snap.get? o.id <;> rfl

/-- After its turn the fields of an object are those that it publishes, or those that were there. -/
theorem published_resolve_get?_self :
    (p.resolve ctx snap o).published.get? o.id =
      (p.fields? ctx snap o).or (p.published.get? o.id) := by
  rw [published_resolve]
  cases p.fields? ctx snap o with
  | none => rfl
  | some shown => simp [IdMap.get?_insert]

end Resolve

/-! ### Earlier objects -/

section Earlier

variable {scene : Scene} {ctx : FrameContext} {previous : AgentStates} {o q : SceneObject}

/-- The objects before an object belong to the scene. -/
theorem mem_of_mem_earlier (before : q ∈ earlier scene o) : q ∈ scene.objects :=
  mem_dependencyOrder.mp (List.takeWhile_subset _ before)

/-- The objects before an earlier one are the first of those before the later one. -/
theorem earlier_split (distinct : scene.DistinctIds) (before : q ∈ earlier scene o) :
    ∃ between, earlier scene o = earlier scene q ++ q :: between ∧ ∀ r ∈ between, r.id ≠ q.id := by
  obtain ⟨rest, whole⟩ : earlier scene o <+: Order.dependencyOrder scene.objects :=
    List.takeWhile_prefix _
  obtain ⟨front, between, split⟩ := List.append_of_mem before
  have ids := nodup_dependencyOrder_ids distinct
  rw [← whole, split, List.append_assoc, List.cons_append, List.map_append, List.map_cons,
    List.nodup_append] at ids
  have ahead : ∀ r ∈ front, (r.id != q.id) = true := fun r inside => bne_iff_ne.mpr
    (ids.2.2 r.id (List.mem_map_of_mem inside) q.id List.mem_cons_self)
  refine ⟨between, ?_, fun r inside same => ?_⟩
  · rw [split, earlier.eq_1 scene q, ← whole, split, List.append_assoc,
      List.takeWhile_append_of_pos ahead, List.cons_append,
      List.takeWhile_cons_of_neg (by simp), List.append_nil]
  · refine (List.nodup_cons.mp ids.2.1).1 (List.mem_map.mpr ⟨r, ?_, same⟩)
    exact List.mem_append_left rest inside

/-- When an object has its turn, an earlier one is as it comes out in the end. -/
theorem sameAt_turn_of_earlier (distinct : scene.DistinctIds) (before : q ∈ earlier scene o) :
    SameAt q.id (turn scene ctx previous o) (final scene ctx previous) := by
  obtain ⟨between, split, others⟩ := earlier_split distinct before
  have whole : turn scene ctx previous o =
      between.foldl (Progress.resolve ctx (startStates scene ctx previous))
        ((turn scene ctx previous q).resolve ctx (startStates scene ctx previous) q) := by
    rw [turn, split, List.foldl_append, List.foldl_cons]
    rfl
  have ended : SameAt q.id (final scene ctx previous) _ :=
    sameAt_final distinct (mem_of_mem_earlier before)
  rw [whole]
  exact (sameAt_foldl_resolve others).trans
    ⟨ended.states.symm, ended.published.symm, ended.objects.symm⟩

/-- Off the parent cycles the parent of an object has its turn earlier. -/
theorem parent_mem_earlier (distinct : scene.DistinctIds) {i : ℕ} {p : SceneObject}
    (atIndex : scene.objects[i]? = some o) (offCycle : ¬Order.OnParentCycle scene.objects i)
    (member : p ∈ scene.objects) (named : o.parent = some p.id) : p ∈ earlier scene o := by
  obtain ⟨ordered, perm, parents⟩ := Order.dependencyOrder_complete scene.objects
  obtain ⟨j, ⟨⟨q, atParent, same⟩, -⟩, less⟩ :=
    parents i o p.id atIndex named ⟨p, member, rfl⟩ offCycle
  obtain rfl : q = p := distinct.eq_of_id (List.mem_of_getElem? atParent) member same
  have placed {k : ℕ} {r : SceneObject} (atIndex : scene.objects[k]? = some r) :
      (Order.dependencyOrder scene.objects)[
        (Order.dependencyIndices scene.objects).idxOf k]? = some r := by
    have inside : k ∈ Order.dependencyIndices scene.objects :=
      perm.symm.subset (List.mem_range.mpr (List.getElem?_eq_some_iff.mp atIndex).1)
    have entry := congrArg
      (fun l => l[(Order.dependencyIndices scene.objects).idxOf k]?) ordered
    simpa [List.getElem?_map, List.getElem?_idxOf inside, atIndex] using entry
  obtain ⟨later, split, -⟩ := dependencyOrder_split distinct (List.mem_of_getElem? atIndex)
  have unique := (nodup_dependencyOrder_ids distinct).of_map
  have own : (Order.dependencyOrder scene.objects)[(earlier scene o).length]? = some o := by
    rw [split, List.getElem?_append_right le_rfl, Nat.sub_self]
    rfl
  have turnOf : (earlier scene o).length = (Order.dependencyIndices scene.objects).idxOf i :=
    (List.getElem?_inj (List.getElem?_eq_some_iff.mp own).1 unique).mp
      (own.trans (placed atIndex).symm)
  have entered := placed atParent
  rw [split, List.getElem?_append_left (turnOf ▸ less)] at entered
  exact List.mem_of_getElem? entered

/-! ### Scopes -/

/-- What an object publishes in its turn is what it has published in the end. -/
theorem final_published (distinct : scene.DistinctIds) (member : o ∈ scene.objects) :
    (final scene ctx previous).published.get? o.id =
      (turn scene ctx previous o).fields? ctx (startStates scene ctx previous) o := by
  rw [(sameAt_final distinct member).published, published_resolve_get?_self,
    (sameAt_turn o).published]
  simp [Progress.start]

/-- The formulas of an object see the fields of those that had their turn earlier, and no others. -/
theorem turn_published_eq_some_iff (distinct : scene.DistinctIds) {id : String} {shown : Fields} :
    (turn scene ctx previous o).published.get? id = some shown ↔
      ∃ q ∈ earlier scene o, q.id = id ∧
        (turn scene ctx previous q).fields? ctx (startStates scene ctx previous) q = some shown := by
  constructor
  · intro found
    by_cases declared : ∃ q ∈ earlier scene o, q.id = id
    · obtain ⟨q, before, rfl⟩ := declared
      rw [(sameAt_turn_of_earlier distinct before).published,
        final_published distinct (mem_of_mem_earlier before)] at found
      exact ⟨q, before, rfl, found⟩
    · have absent : ∀ q ∈ earlier scene o, q.id ≠ id := fun q before same =>
        declared ⟨q, before, same⟩
      rw [turn, (sameAt_foldl_resolve absent).published] at found
      cases found
  · rintro ⟨q, before, rfl, shown⟩
    rw [(sameAt_turn_of_earlier distinct before).published,
      final_published distinct (mem_of_mem_earlier before), shown]

/-- Off the parent cycles a child is given the position that its parent has in the result. -/
theorem scope_parent (distinct : scene.DistinctIds) {i : ℕ} {p : SceneObject}
    (atIndex : scene.objects[i]? = some o) (offCycle : ¬Order.OnParentCycle scene.objects i)
    (member : p ∈ scene.objects) (named : o.parent = some p.id) :
    ((turn scene ctx previous o).scope ctx o).parent =
      ((resolve scene ctx previous).objects.get? p.id).map (·.position) := by
  have before := parent_mem_earlier distinct atIndex offCycle member named
  have same : (turn scene ctx previous o).objects.get? p.id =
      (final scene ctx previous).objects.get? p.id :=
    (sameAt_turn_of_earlier distinct before).objects
  rw [resolve_eq_final]
  change (o.parent.bind (turn scene ctx previous o).objects.get?).map _ = _
  rw [named, Option.bind_some, same]

/-- A child is given no position just when its parent does not show. -/
theorem scope_parent_eq_none_iff (distinct : scene.DistinctIds) {i : ℕ} {p : SceneObject}
    (atIndex : scene.objects[i]? = some o) (offCycle : ¬Order.OnParentCycle scene.objects i)
    (member : p ∈ scene.objects) (named : o.parent = some p.id) :
    ((turn scene ctx previous o).scope ctx o).parent = none ↔
      settleTruth p.visible true ((turn scene ctx previous p).scope ctx p) = false ∨
        p.kind = .unknown := by
  rw [scope_parent distinct atIndex offCycle member named, resolve_objects_get? distinct member,
    Option.map_eq_none_iff, ← Option.not_isSome_iff_eq_none, isSome_listing?, Progress.shows,
    Bool.and_eq_true, not_and_or, Bool.not_eq_true, bne_iff_ne, not_not]
  rfl

/-- An object that shows and is no agent stands where its formulas put it. -/
theorem resolve_position (distinct : scene.DistinctIds) (member : o ∈ scene.objects)
    (still : o.agent? = none) (shows : shown scene ctx previous o) :
    ∃ entry, (resolve scene ctx previous).objects.get? o.id = some entry ∧
      entry.position = anchor o ((turn scene ctx previous o).scope ctx o) := by
  obtain ⟨entry, made⟩ := Option.isSome_iff_exists.mp (isSome_listing?.trans shows)
  refine ⟨entry, by rw [resolve_objects_get? distinct member, made], ?_⟩
  rw [position_of_listing? made, Progress.standing, still]

/-- **A child sees its parent on the same frame.** With distinct ids, every object is resolved after
those before it and sees the fields that these publish, and no others. Off the parent cycles the
parent is one of them, and the position that a child is given is that of the parent in the result of
the same frame; there is none just when the parent is hidden or of an unknown kind. And so an object
that shows and is no agent has the position in the result that its formulas come to with this parent
and these fields. -/
theorem resolve_settles (distinct : scene.DistinctIds) (ctx : FrameContext)
    (previous : AgentStates) :
    let frame := resolve scene ctx previous
    let scope := fun o => (turn scene ctx previous o).scope ctx o
    (∀ o ∈ scene.objects,
      (∃ later, Order.dependencyOrder scene.objects = earlier scene o ++ o :: later) ∧
      ∀ id shown, (scope o).objects.get? id = some shown ↔ ∃ q ∈ earlier scene o, q.id = id ∧
        (turn scene ctx previous q).fields? ctx (startStates scene ctx previous) q = some shown) ∧
    (∀ i o p, scene.objects[i]? = some o → ¬Order.OnParentCycle scene.objects i →
      p ∈ scene.objects → o.parent = some p.id →
        p ∈ earlier scene o ∧
        (scope o).parent = (frame.objects.get? p.id).map (·.position) ∧
        ((scope o).parent = none ↔
          settleTruth p.visible true (scope p) = false ∨ p.kind = .unknown)) ∧
    ∀ o ∈ scene.objects, o.agent? = none → settleTruth o.visible true (scope o) →
      o.kind ≠ .unknown →
        ∃ entry, frame.objects.get? o.id = some entry ∧
          entry.position = ⟨settleNumber o.x 0 (scope o), settleNumber o.y 0 (scope o)⟩ := by
  intro frame scope
  refine ⟨?_, ?_, ?_⟩
  · intro o member
    obtain ⟨later, split, -⟩ := dependencyOrder_split distinct member
    exact ⟨⟨later, split⟩, fun id shown => turn_published_eq_some_iff distinct⟩
  · intro i o p atIndex offCycle member named
    exact ⟨parent_mem_earlier distinct atIndex offCycle member named,
      scope_parent distinct atIndex offCycle member named,
      scope_parent_eq_none_iff distinct atIndex offCycle member named⟩
  · intro o member still visible known
    exact resolve_position distinct member still
      (Bool.and_eq_true_iff.mpr ⟨visible, bne_iff_ne.mpr known⟩)

def flag : SceneObject :=
  { id := "flag", parent := some "pole", x := some (.formula "parent.x + objects.pole.width"),
    kind := .rect {} }

def pole : SceneObject :=
  { id := "pole", x := some (.literal 30), y := some (.literal 40), kind := .ellipse {} }

/-- A flag that is declared ahead of its pole. -/
def pitch : Scene where
  objects := [flag, pole]

def noon : FrameContext :=
  ⟨720, 12, ⟨800, 600⟩, 0⟩

/-- A flag on its pole, at noon. -/
theorem resolve_settles_pitch :
    pitch.DistinctIds ∧ pitch.objects[0]? = some flag ∧ ¬Order.OnParentCycle pitch.objects 0 ∧
      flag.parent = some pole.id ∧
      ((turn pitch noon .empty flag).scope noon flag).parent =
        some ⟨30, 40⟩ ∧
      ∃ entry, (resolve pitch noon .empty).objects.get? "flag" = some entry ∧
        entry.position = ⟨50, 0⟩ := by
  have distinct : pitch.DistinctIds := by decide
  have offCycle : ¬Order.OnParentCycle pitch.objects 0 := fun cyclic =>
    absurd (Order.onCycle_linksOf.mpr cyclic) (by decide)
  obtain ⟨-, parents, positions⟩ := resolve_settles distinct noon .empty
  obtain ⟨-, given, -⟩ := parents 0 flag pole rfl offCycle (by decide +kernel) rfl
  obtain ⟨entry, entered, placed⟩ :=
    positions flag List.mem_cons_self rfl (by decide +kernel) (by decide)
  have stands : ((resolve pitch noon .empty).objects.get? pole.id).map (·.position) =
      some ⟨30, 40⟩ := by
    decide +kernel
  refine ⟨distinct, rfl, offCycle, rfl, given.trans stands, entry, entered, placed.trans ?_⟩
  decide +kernel

end Earlier

end Frame

end Playfield
