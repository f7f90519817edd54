import Playfield.Proofs.Binary32.Rank
import Playfield.Proofs.Draw.Trail
import Playfield.Proofs.Frame.Layers
import Playfield.Session

/-!
Trails among the commands of a step.

A step sorts the trails in among the commands of its frame. These were in order before, so they are
what is left of the step when the trails are taken out again (`Session.step_commands`). A trail lies
half a layer below its object. On a layer so far out that rounding leaves nothing of the half, it is
not above its object all the same, and it stays ahead of it because it was put first
(`Session.step_trails_beneath`).
-/

namespace Playfield

open Binary32 (rank)

/-! ### Owners -/

namespace TrailRecorder

/-- A trail is not on a higher layer than its object. -/
theorem rank_layer_command {o : SceneObject} (number : o.layer.isNaN = false) (style : TrailStyle)
    (points : List Vec2) : rank (command o style points).layer ≤ rank o.layer :=
  Binary32.rank_sub_le number rfl (by decide)

end TrailRecorder

/-- Whatever a frame draws is drawn for one of its objects, on the layer of that object. -/
theorem Frame.exists_of_mem_commands {scene : Scene} (distinct : scene.DistinctIds)
    {ctx : FrameContext} {previous : AgentStates} {c : DrawCommand}
    (inside : c ∈ (resolve scene ctx previous).commands) :
    ∃ o ∈ scene.objects, c.objectId = o.id ∧ c.layer = o.layer := by
  rw [resolve_commands ctx previous distinct] at inside
  obtain ⟨o, member, drawn⟩ := List.mem_filterMap.mp (List.mem_mergeSort.mp inside)
  obtain ⟨named, layer, -⟩ := command?_eq_some drawn
  exact ⟨o, (Order.dependencyOrder_perm scene.objects).mem_iff.mp member, named, layer⟩

namespace Session

variable (s : Session)

/-- The trails that the next step draws. -/
def trailCommands : List DrawCommand :=
  (s.trails.record s.scene fun id => (s.preview.objects.get? id).map (·.position)).2

/-- A step draws the trails and what a look shows, arranged together. -/
theorem step_commands_eq :
    s.step.1.commands = DrawCommand.sortByLayer (s.trailCommands ++ s.preview.commands) := rfl

theorem isTrail_of_mem_trailCommands {c : DrawCommand} (inside : c ∈ s.trailCommands) :
    c.figure.isTrail = true :=
  TrailRecorder.isTrail_of_mem_record _ _ _ c inside

/-- The commands of a step without its trails are those of the frame, in the same order. -/
theorem step_commands :
    s.step.1.commands.filter (fun c => !c.figure.isTrail) = s.preview.commands := by
  have trails : s.trailCommands.filter (fun c => !c.figure.isTrail) = [] :=
    List.filter_eq_nil_iff.mpr fun c inside => by simp [s.isTrail_of_mem_trailCommands inside]
  have plain : s.preview.commands.filter (fun c => !c.figure.isTrail) = s.preview.commands :=
    List.filter_eq_self.mpr fun c inside => by simp [Frame.isTrail_of_mem_commands inside]
  rw [step_commands_eq, DrawCommand.filter_sortByLayer, List.filter_append, trails, plain,
    List.nil_append]
  exact DrawCommand.sortByLayer_of_pairwise (DrawCommand.pairwise_sortByLayer _)

/-! ### Trails beneath their owners -/

variable {s}

/-- Whatever a step draws is drawn for one of its objects. -/
theorem exists_of_mem_step_commands (distinct : s.scene.DistinctIds) {c : DrawCommand}
    (inside : c ∈ s.step.1.commands) :
    ∃ o ∈ s.scene.objects, c.objectId = o.id ∧
      c.layer = if c.figure.isTrail then o.layer - TrailRecorder.layerOffset else o.layer := by
  rw [step_commands_eq] at inside
  rcases List.mem_append.mp (List.mem_mergeSort.mp inside) with trail | drawn
  · obtain ⟨o, member, style, points, rfl⟩ := TrailRecorder.exists_of_mem_record _ _ _ c trail
    exact ⟨o, member, rfl, rfl⟩
  · obtain ⟨o, member, named, layer⟩ := Frame.exists_of_mem_commands distinct drawn
    rw [Frame.isTrail_of_mem_commands drawn]
    exact ⟨o, member, named, layer⟩

/-- With ids that differ, an object has one trail at most. -/
theorem length_trailCommands_le (distinct : s.scene.DistinctIds) (id : String) :
    (s.trailCommands.filter (·.objectId == id)).length ≤ 1 :=
  TrailRecorder.length_filter_record_le distinct _ _ id

/-- The commands of a step for one object: its trail, and then what the frame draws for it. -/
theorem filter_step_commands (distinct : s.scene.DistinctIds) {o : SceneObject}
    (member : o ∈ s.scene.objects) (number : o.layer.isNaN = false) :
    s.step.1.commands.filter (·.objectId == o.id) =
      s.trailCommands.filter (·.objectId == o.id) ++
        s.preview.commands.filter (·.objectId == o.id) := by
  rw [step_commands_eq, DrawCommand.filter_sortByLayer, List.filter_append]
  refine DrawCommand.sortByLayer_of_pairwise (List.pairwise_append.mpr ⟨?_, ?_, ?_⟩)
  · have one := length_trailCommands_le distinct o.id
    generalize s.trailCommands.filter (·.objectId == o.id) = trails at one
    cases trails with
    | nil => exact .nil
    | cons trail rest =>
      obtain rfl : rest = [] := by simpa using one
      exact List.pairwise_singleton _ _
  · exact (DrawCommand.pairwise_sortByLayer _).sublist List.filter_sublist
  · intro t trail c drawn
    obtain ⟨inside, named⟩ := List.mem_filter.mp trail
    obtain ⟨inside', named'⟩ := List.mem_filter.mp drawn
    obtain ⟨q, member', style, points, rfl⟩ := TrailRecorder.exists_of_mem_record _ _ _ t inside
    obtain ⟨q', member'', named'', layer⟩ := Frame.exists_of_mem_commands distinct inside'
    obtain rfl : q = o := distinct.eq_of_id member' member (beq_iff_eq.mp named)
    obtain rfl : q' = q :=
      distinct.eq_of_id member'' member (named''.symm.trans (beq_iff_eq.mp named'))
    rw [layer]
    exact TrailRecorder.rank_layer_command number style points

/-- Nothing else that is drawn for an object stands before its trail. -/
theorem trail_ahead (distinct : s.scene.DistinctIds) {o : SceneObject}
    (member : o ∈ s.scene.objects) (number : o.layer.isNaN = false) :
    s.step.1.commands.Pairwise fun a b => a.objectId = o.id → b.objectId = o.id →
      b.figure.isTrail → a.figure.isTrail := by
  have ahead : (s.step.1.commands.filter (·.objectId == o.id)).Pairwise fun a b =>
      b.figure.isTrail → a.figure.isTrail := by
    rw [filter_step_commands distinct member number]
    refine List.pairwise_append.mpr ⟨?_, ?_, ?_⟩
    · refine List.pairwise_of_forall_mem_list fun a inside b _ _ => ?_
      exact s.isTrail_of_mem_trailCommands (List.mem_of_mem_filter inside)
    · refine List.pairwise_of_forall_mem_list fun a _ b inside isTrail => ?_
      rw [Frame.isTrail_of_mem_commands (List.mem_of_mem_filter inside)] at isTrail
      contradiction
    · intro a inside b _ _
      exact s.isTrail_of_mem_trailCommands (List.mem_of_mem_filter inside)
  simpa [List.pairwise_filter] using ahead

/-- The trails of a step for an id are those that it has recorded. -/
theorem length_filter_isTrail (s : Session) (id : String) :
    (s.step.1.commands.filter fun c => c.objectId == id && c.figure.isTrail).length =
      (s.trailCommands.filter (·.objectId == id)).length := by
  have trails : s.trailCommands.filter (fun c => c.objectId == id && c.figure.isTrail) =
      s.trailCommands.filter (·.objectId == id) :=
    List.filter_congr fun c inside => by rw [s.isTrail_of_mem_trailCommands inside, Bool.and_true]
  have plain : s.preview.commands.filter (fun c => c.objectId == id && c.figure.isTrail) = [] :=
    List.filter_eq_nil_iff.mpr fun c inside => by simp [Frame.isTrail_of_mem_commands inside]
  rw [step_commands_eq, DrawCommand.filter_sortByLayer, List.filter_append, trails, plain,
    List.append_nil]
  exact List.length_mergeSort _

/-- **Trails are drawn beneath their owners.** Take a step in a scene in which no id is given twice.
Its commands stand in the order of their layers, and each of them is drawn for one of the objects,
which has no more than one trail. A trail stands before whatever else is drawn for its object, on
whatever layer that lies. -/
theorem step_trails_beneath (distinct : s.scene.DistinctIds) :
    let commands := s.step.1.commands
    commands.Pairwise (fun a b => rank a.layer ≤ rank b.layer) ∧
      ((∀ o ∈ s.scene.objects, o.layer.isNaN = false) →
        commands.Pairwise fun a b => a.layer ≤ b.layer) ∧
      (∀ c ∈ commands, ∃ o ∈ s.scene.objects, c.objectId = o.id) ∧
      ∀ o ∈ s.scene.objects,
        (commands.filter fun c => c.objectId == o.id && c.figure.isTrail).length ≤ 1 ∧
          (o.layer.isNaN = false → ∀ (i j : Nat) (trail c : DrawCommand),
            commands[i]? = some trail → commands[j]? = some c →
              trail.objectId = o.id → c.objectId = o.id →
                trail.figure.isTrail → c.figure.isTrail = false → i < j) := by
  intro commands
  have sorted : commands.Pairwise (fun a b => rank a.layer ≤ rank b.layer) :=
    DrawCommand.pairwise_sortByLayer _
  refine ⟨sorted, ?_, ?_, ?_⟩
  · intro numbers
    have number : ∀ c ∈ commands, c.layer.isNaN = false := by
      intro c inside
      obtain ⟨o, member, -, layer⟩ := exists_of_mem_step_commands distinct inside
      rw [layer]
      split
      · exact Binary32.isNaN_sub (numbers o member) rfl
      · exact numbers o member
    exact sorted.imp_of_mem fun inside inside' le =>
      Binary32.le_of_rank_le (number _ inside) (number _ inside') le
  · intro c inside
    obtain ⟨o, member, named, -⟩ := exists_of_mem_step_commands distinct inside
    exact ⟨o, member, named⟩
  · intro o member
    constructor
    · have trails := length_filter_isTrail s o.id
      rw [trails]
      exact length_trailCommands_le distinct o.id
    · intro number i j trail c first second named named' isTrail plain
      have ahead := trail_ahead distinct member number
      obtain ⟨bound, rfl⟩ := List.getElem?_eq_some_iff.mp first
      obtain ⟨bound', rfl⟩ := List.getElem?_eq_some_iff.mp second
      -- A trail that is not ahead stands behind the other command, out of order, or is that command.
      by_contra! le
      rcases le.lt_or_eq with less | rfl
      · have behind := List.pairwise_iff_getElem.mp ahead j i bound' bound less named' named isTrail
        rw [plain] at behind
        contradiction
      · rw [plain] at isTrail
        contradiction

/-- A sun that sets behind the sea, on a layer so far out that half a layer is lost in rounding. -/
def sunset : Session where
  scene :=
    { objects :=
        [{ id := "sun", layer := 16777216, trail := some ⟨3, "#ffcc00", 1, 2⟩, kind := .ellipse {} },
          { id := "sea", layer := -0, kind := .rect {} }] }
  settings := {}

/-- The trail of a sun on a layer too high for the offset to count. -/
theorem step_trails_beneath_sunset :
    sunset.scene.DistinctIds ∧
      (16777216 - TrailRecorder.layerOffset = 16777216 ∧ (16777216 : Float32).isNaN = false) ∧
      (sunset.step.1.commands.Pairwise fun a b => a.layer ≤ b.layer) ∧
      ∀ (i j : Nat) (trail c : DrawCommand),
        sunset.step.1.commands[i]? = some trail → sunset.step.1.commands[j]? = some c →
          trail.objectId = "sun" → c.objectId = "sun" →
            trail.figure.isTrail → c.figure.isTrail = false → i < j := by
  have distinct : sunset.scene.DistinctIds := by decide
  have lost : (16777216 : Float32) - TrailRecorder.layerOffset = 16777216 := by decide
  have number : (16777216 : Float32).isNaN = false := by decide
  obtain ⟨-, layers, -, each⟩ := step_trails_beneath distinct
  refine ⟨distinct, ⟨lost, number⟩, layers ?_, ?_⟩
  · exact List.forall_mem_cons.mpr ⟨number, List.forall_mem_singleton.mpr (by decide)⟩
  · exact (each _ List.mem_cons_self).2 number

end Session

end Playfield
