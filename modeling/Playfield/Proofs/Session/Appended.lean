import Playfield.Proofs.Frame.Appended
import Playfield.Proofs.Session.Reachable

/-!
Sessions with one object more.

A session and the same session with a bystander added go on side by side (`Joins`): every frame and
every step of the one is that of the other but for what belongs to the bystander, its trail
included (`Joins.step`), and every operation that leaves the objects as they are keeps the two
together (`Joins.after`). So adding such an object is conservative, at once and over any run
(`append_conservative`).
-/

namespace Playfield

/-! ### Trails -/

namespace TrailRecorder

/-- Two recordings under way, the second of one more id: its commands without those of the id are
those of the first, and both have the same positions of every other id. -/
structure RecordsAlike (id : String) (done done' : TrailRecorder × List DrawCommand) : Prop where
  history : done.1.history.AgreeBut id done'.1.history
  commands : done'.2.filter (·.objectId != id) = done.2

variable {id : String} {done done' : TrailRecorder × List DrawCommand}
  {resolved resolved' : String → Option Vec2} {q : SceneObject}

/-- Recording another object keeps two recordings alike. -/
theorem RecordsAlike.other (alike : RecordsAlike id done done') (different : q.id ≠ id)
    (seen : resolved' q.id = resolved q.id) :
    RecordsAlike id (recordObject resolved done q) (recordObject resolved' done' q) := by
  have points : done'.1.points q.id = done.1.points q.id := by
    rw [TrailRecorder.points, TrailRecorder.points, alike.history q.id different]
  unfold recordObject
  rw [seen, points]
  split
  · refine ⟨fun other apart => ?_, ?_⟩
    · simp only [IdMap.get?_insert, alike.history other apart]
    · rw [List.filter_append, alike.commands,
        List.filter_eq_self.mpr (by simp [command, different])]
  · exact alike

/-- Recording the object of the id itself shows only under the id. -/
theorem RecordsAlike.own (alike : RecordsAlike q.id done done') :
    RecordsAlike q.id done (recordObject resolved' done' q) := by
  unfold recordObject
  split
  · refine ⟨fun other apart => ?_, ?_⟩
    · rw [IdMap.get?_insert, if_neg apart, alike.history other apart]
    · rw [List.filter_append, alike.commands, List.filter_eq_nil_iff.mpr (by simp [command]),
        List.append_nil]
  · exact alike

/-- Objects with other ids are recorded alike. -/
theorem RecordsAlike.foldl (alike : RecordsAlike id done done') {objects : List SceneObject}
    (apart : ∀ q ∈ objects, q.id ≠ id)
    (seen : ∀ other, other ≠ id → resolved' other = resolved other) :
    RecordsAlike id (objects.foldl (recordObject resolved) done)
      (objects.foldl (recordObject resolved') done') := by
  induction objects generalizing done done' with
  | nil => exact alike
  | cons q rest ih =>
    have different := apart q List.mem_cons_self
    exact ih (alike.other different (seen q.id different)) fun r member =>
      apart r (List.mem_cons_of_mem q member)

/-- The appended object leaves the trails of the others. -/
theorem leavesTrail_append {scene : Scene} {o : SceneObject} {other : String}
    (different : other ≠ o.id) : leavesTrail (scene.append o) other = leavesTrail scene other := by
  rw [leavesTrail, Scene.find?_append, if_neg different.symm, Option.or_none]
  rfl

/-- Recording a scene with a bystander more. -/
theorem recordsAlike_append {scene : Scene} {o : SceneObject} (bystander : scene.Bystander o)
    {r r' : TrailRecorder} (same : r.history.AgreeBut o.id r'.history)
    (seen : ∀ other, other ≠ o.id → resolved' other = resolved other) :
    RecordsAlike o.id (r.record scene resolved) (r'.record (scene.append o) resolved') := by
  have start : RecordsAlike o.id (r.retain scene, []) (r'.retain (scene.append o), []) := by
    refine ⟨fun other different => ?_, rfl⟩
    simp only [retain, IdMap.get?_filter, same other different, leavesTrail_append different]
  rw [record, record, Scene.append, List.foldl_append]
  exact (start.foldl bystander.unmentioned.undeclared seen).own

end TrailRecorder

/-! ### Side by side -/

/-- What the first output shows, the second shows as well; it shows more under one id only. -/
structure StepOutput.Adds (id : String) (output output' : StepOutput) : Prop where
  frame : output'.frame = output.frame
  t : output'.t = output.t
  background : output'.background = output.background
  objects : output.objects.AgreeBut id output'.objects
  commands : output'.commands.filter (·.objectId != id) = output.commands

namespace Session

/-- A session with one object more, declared last. -/
def append (s : Session) (o : SceneObject) : Session :=
  { s with scene := s.scene.append o }

/-- An object that is added is declared last. -/
theorem eq_append_of_add {s : Session} {o : SceneObject} {count : Nat}
    (added : ((add o).perform s).1 = .ok count) : ((add o).perform s).2 = s.append o := by
  rw [perform_add] at added ⊢
  split_ifs at added ⊢
  rfl

/-- The second session is the first with a bystander more, whose trail it may know. -/
structure Joins (o : SceneObject) (s s' : Session) : Prop where
  bystander : s.scene.Bystander o
  scene : s'.scene = s.scene.append o
  settings : s'.settings = s.settings
  frame : s'.frame = s.frame
  states : s'.states = s.states
  trails : s.trails.history.AgreeBut o.id s'.trails.history

/-- A bystander joins a session. -/
theorem joins_append {s : Session} {o : SceneObject} (bystander : s.scene.Bystander o) :
    Joins o s (s.append o) :=
  ⟨bystander, rfl, rfl, rfl, rfl, .refl o.id s.trails.history⟩

namespace Joins

variable {o : SceneObject} {s s' : Session} (joins : Joins o s s')

include joins

theorem context : s'.context = s.context := by
  unfold Session.context
  rw [joins.scene, joins.settings, joins.frame]
  rfl

/-- A session that a bystander has joined shows the same frame and the bystander besides. -/
theorem preview : Frame.Adds o.id s.preview s'.preview := by
  rw [Session.preview_eq, Session.preview_eq, joins.context, joins.states, joins.scene,
    Cue.applyAll_append _ joins.bystander.noAgent]
  exact Frame.adds_resolve _ _ joins.bystander

/-- Sessions stay side by side over a frame. -/
theorem advance : Joins o s.advance.2 s'.advance.2 :=
  { joins with
    frame := congrArg (· + 1) joins.frame
    states := joins.preview.states }

/-- A step of the two sessions differs by the bystander only, and leaves them side by side. -/
theorem step : StepOutput.Adds o.id s.step.1 s'.step.1 ∧ Joins o s.step.2 s'.step.2 := by
  let recorded := s.trails.record s.scene fun id => (s.preview.objects.get? id).map (·.position)
  let recorded' := s'.trails.record s'.scene fun id =>
    (s'.preview.objects.get? id).map (·.position)
  have alike : TrailRecorder.RecordsAlike o.id recorded recorded' := by
    simp only [recorded, recorded', joins.scene]
    refine TrailRecorder.recordsAlike_append joins.bystander joins.trails fun other different => ?_
    rw [joins.preview.objects other different]
  have background : s'.background = s.background := by
    rw [Session.background, Session.background, joins.scene, joins.settings]
    rfl
  have drawn : (DrawCommand.sortByLayer (recorded'.2 ++ s'.preview.commands)).filter
      (·.objectId != o.id) = DrawCommand.sortByLayer (recorded.2 ++ s.preview.commands) := by
    rw [DrawCommand.filter_sortByLayer, List.filter_append, alike.commands,
      joins.preview.commands]
  exact ⟨⟨joins.frame, congrArg FrameContext.t joins.context, background, joins.preview.objects,
    drawn⟩, { joins.advance with trails := alike.history }⟩

/-- Several frames leave the two sessions side by side. -/
theorem advanceBy (n : Nat) {objects objects' : ResolvedObjects}
    (shown : objects.AgreeBut o.id objects') :
    Joins o (Session.advanceBy n s objects).2 (Session.advanceBy n s' objects').2 ∧
      (Session.advanceBy n s objects).1.AgreeBut o.id (Session.advanceBy n s' objects').1 := by
  induction n generalizing s s' objects objects' with
  | zero => exact ⟨joins, shown⟩
  | succ n ih => exact ih joins.advance joins.preview.objects

theorem stepBy (n : Nat) (last last' : Option StepOutput) :
    Joins o (Session.stepBy n s last).2 (Session.stepBy n s' last').2 := by
  induction n generalizing s s' last last' with
  | zero => exact joins
  | succ n ih => exact ih joins.step.2 (some s.step.1) (some s'.step.1)

end Joins

/-- Whether an operation leaves the objects of the scene as they are. -/
def Operation.keepsObjects : Operation → Bool
  | .add _ | .set _ _ | .delete _ | .replaceScene _ => false
  | _ => true

/-- Such an operation leaves the two sessions side by side. -/
theorem Joins.after {o : SceneObject} {s s' : Session} (joins : Joins o s s')
    {operation : Operation} (keeps : operation.keepsObjects) :
    Joins o (s.after operation) (s'.after operation) := by
  have bystander (scene : Scene) (same : scene.objects = s.scene.objects) : scene.Bystander o :=
    ⟨joins.bystander.noAgent, same ▸ joins.bystander.unmentioned⟩
  cases operation with
  | add | set | delete | replaceScene => cases keeps
  | setEvents events =>
    exact { joins with
      bystander := bystander _ rfl
      scene := congrArg (fun scene : Scene => { scene with events := events }) joins.scene }
  | setKeyframes keyframes =>
    exact { joins with
      bystander := bystander _ rfl
      scene := congrArg (fun scene : Scene => { scene with keyframes := keyframes }) joins.scene }
  | step => exact joins.step.2
  | run requested =>
    have together := joins.advanceBy (s.settings.runFrames requested) (.refl o.id .empty)
    simp only [Session.after, Session.run_eq, joins.settings]
    exact together.1
  | tick clock delta => exact joins.stepBy (clock.advance delta).1 none none
  | preview => exact joins
  | reset => exact ⟨joins.bystander, joins.scene, joins.settings, rfl, rfl, .refl o.id .empty⟩

/-- Sessions stay side by side over operations that keep the objects. -/
theorem Joins.foldl_after {o : SceneObject} {s s' : Session} (joins : Joins o s s')
    {operations : List Operation} (keep : ∀ operation ∈ operations, operation.keepsObjects) :
    Joins o (operations.foldl Session.after s) (operations.foldl Session.after s') := by
  induction operations generalizing s s' with
  | nil => exact joins
  | cons operation rest ih =>
    exact ih (joins.after (keep operation List.mem_cons_self)) fun later member =>
      keep later (List.mem_cons_of_mem operation member)

/-- **Adding a bystander is conservative.** Take an object of any kind but an agent, whose id no
object of the scene has or names as its parent. A frame of the scene with this object declared last
has the same states, the same entries under all other ids, and the same commands in the same order
when those of the object are left out. And so it goes on: after any operations that leave the
objects as they are the session with the object more is on the same frame, in the same states, and
about to show the same, apart from what belongs to the object. -/
theorem append_conservative {scene : Scene} {o : SceneObject} (bystander : scene.Bystander o) :
    (∀ ctx previous, Frame.Adds o.id (Frame.resolve scene ctx previous)
      (Frame.resolve (scene.append o) ctx previous)) ∧
    ∀ s : Session, s.scene = scene → ∀ operations : List Operation,
      (∀ operation ∈ operations, operation.keepsObjects) →
        let t := operations.foldl Session.after s
        let t' := operations.foldl Session.after (s.append o)
        t'.frame = t.frame ∧ t'.states = t.states ∧ Frame.Adds o.id t.preview t'.preview ∧
          StepOutput.Adds o.id t.step.1 t'.step.1 ∧
          ∀ requested, (t'.run requested).1.endFrame = (t.run requested).1.endFrame ∧
            (t.run requested).1.objects.AgreeBut o.id (t'.run requested).1.objects := by
  refine ⟨fun ctx previous => Frame.adds_resolve ctx previous bystander, ?_⟩
  rintro s rfl operations keep
  have joins := (joins_append bystander).foldl_after keep
  refine ⟨joins.frame, joins.states, joins.preview, joins.step.1, fun requested => ?_⟩
  have together := joins.advanceBy
    ((operations.foldl Session.after s).settings.runFrames requested) (.refl o.id .empty)
  simp only [Session.run_eq, joins.settings]
  exact ⟨together.1.frame, together.2⟩

/-- A session whose objects hang in a cycle and share an id, and whose runner is after something
that is not there. -/
def hunt : Session where
  scene :=
    { objects :=
        [{ id := "left", parent := some "right", kind := .rect {} },
          { id := "right", parent := some "left", kind := .rect {} },
          { id := "left", x := some (.formula "objects.decoy.x"), kind := .ellipse {} },
          { id := "runner", parent := some "left",
            kind := .agent { behaviors := [(Behavior.seek (.object "decoy")).plain] } }]
      events := [⟨1, .possession "runner" (some "decoy")⟩] }
  settings := {}

/-- The thing itself: it depends on others, is its own parent and leaves a trail. -/
def decoy : SceneObject :=
  { id := "decoy", parent := some "decoy", x := some (.formula "objects.runner.x + parent.x"),
    trail := some ⟨3, "#ffffff", 1, 2⟩, kind := .ellipse {} }

/-- A decoy joins a hunt. -/
theorem append_conservative_decoy :
    hunt.scene.Bystander decoy ∧
      (∀ operation ∈ [Operation.step, .run none], operation.keepsObjects) ∧
      ([Operation.step, .run none].foldl after (hunt.append decoy)).states =
        ([Operation.step, .run none].foldl after hunt).states := by
  have bystander : hunt.scene.Bystander decoy := ⟨rfl, by decide, by decide⟩
  have keep : ∀ operation ∈ [Operation.step, .run none], operation.keepsObjects := by
    simp [Operation.keepsObjects]
  exact ⟨bystander, keep, ((append_conservative bystander).2 hunt rfl _ keep).2.1⟩

end Session

end Playfield
